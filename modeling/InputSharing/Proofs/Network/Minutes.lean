import InputSharing.Proofs.Network.Chronicle
import InputSharing.Proofs.Network.Concord
import InputSharing.Proofs.Network.Housing
import InputSharing.Proofs.Sink.Requests

/-!
# Minutes of what sinks deal with

`Minutes` are a chronicle together with the requests that the sinks have dealt with on
each session, and what the session shared before and after each of them.
-/

namespace InputSharing

namespace Network

/-! ## What both ends know -/

/-- What ties the source of a node to a sink. -/
def tie (network : Network) (source sink : DeviceId) : Tie :=
  (network.nodes[source]?.map fun node => node.source.tie sink).getD ⟨none, none⟩

/-- What the sink of a node shares on a session, if the session is prepared. -/
def shares? (network : Network) (sink : DeviceId) (session : SessionId) : Option Shares :=
  network.nodes[sink]?.bind fun node => node.sink.shares? session

/-- The session that owns a handle of the sink of a node. -/
def owner? (network : Network) (sink : DeviceId) (handle : HandleId) : Option SessionId :=
  network.nodes[sink]?.bind fun node => node.sink.owners[handle]?

/-- A request that a sink deals with on a session. -/
def dealing? (network : Network) (sink : DeviceId) (session : SessionId) :
    Happening → Option Dealing
  | .move (.serve ⟨server, .sink⟩) =>
      if server = sink then
        match (network.nextOfSink? sink).bind SinkEvent.wanted? with
        | some (asked, request) =>
            if asked = session then
              some
                { request
                  before := (network.shares? sink session).getD ∅
                  after := ((network.serveSink sink).shares? sink session).getD ∅ }
            else none
        | none => none
      else none
  | _ => none

/-- Everything that the source of a node is still to react to. -/
def sourceMail (network : Network) (device : DeviceId) : List (TransportEvent Parcel) :=
  network.held ⟨device, .source⟩ ++ network.hub.mail ⟨device, .source⟩

section Nodes

variable {network after : Network} {device source sink : DeviceId} {old new : Node}

theorem tie_of_node (found : network.nodes[source]? = some old) (sink : DeviceId) :
    network.tie source sink = old.source.tie sink := by
  rw [tie, found]
  rfl

theorem shares?_of_node (found : network.nodes[sink]? = some old) (session : SessionId) :
    network.shares? sink session = old.sink.shares? session := by
  rw [shares?, found]
  rfl

/-- A session owns exactly what it shares. -/
theorem Housed.owner?_iff {session : SessionId} {shares : Shares} (housed : network.Housed)
    (shared : network.shares? sink session = some shares) (handle : HandleId) :
    network.owner? sink handle = some session ↔ handle ∈ shares := by
  obtain ⟨node, found, shared⟩ := Option.bind_eq_some_iff.1 shared
  obtain ⟨switch, prepared, rfl⟩ := Option.map_eq_some_iff.1 shared
  rw [owner?, found, Option.bind_some, (housed.books found).owner_iff, prepared]
  simp

theorem exists_of_tied {session : SessionId}
    (tied : (network.tie source sink).channel = some session) :
    ∃ node, network.nodes[source]? = some node ∧ (node.source.tie sink).channel = some session := by
  cases found : network.nodes[source]? with
  | none =>
      rw [tie, found] at tied
      cases tied
  | some node =>
      rw [tie_of_node found] at tied
      exact ⟨node, rfl, tied⟩

section Insertion

variable (found : network.nodes[device]? = some old)
  (nodes : after.nodes = network.nodes.insert device new)

include nodes

theorem tie_of_insert (source sink : DeviceId) :
    after.tie source sink =
      if device = source then new.source.tie sink else network.tie source sink := by
  rw [tie, tie, nodes, Table.getElem?_insert_eq]
  split
  · rfl
  · rfl

theorem shares?_of_insert (sink : DeviceId) (session : SessionId) :
    after.shares? sink session =
      if device = sink then new.sink.shares? session else network.shares? sink session := by
  rw [shares?, shares?, nodes, Table.getElem?_insert_eq]
  split
  · rfl
  · rfl

include found

theorem tie_of_same_source (same : new.source = old.source) (source sink : DeviceId) :
    after.tie source sink = network.tie source sink := by
  rw [tie_of_insert nodes]
  split
  · next here => rw [← here, tie_of_node found, same]
  · rfl

theorem shares?_of_same_sink (same : new.sink = old.sink) (sink : DeviceId)
    (session : SessionId) : after.shares? sink session = network.shares? sink session := by
  rw [shares?_of_insert nodes]
  split
  · next here => rw [← here, shares?_of_node found, same]
  · rfl

end Insertion

theorem tie_of_same (nodes : after.nodes = network.nodes) (source sink : DeviceId) :
    after.tie source sink = network.tie source sink := by
  rw [tie, tie, nodes]

theorem shares?_of_same (nodes : after.nodes = network.nodes) (sink : DeviceId)
    (session : SessionId) : after.shares? sink session = network.shares? sink session := by
  rw [shares?, shares?, nodes]

end Nodes

end Network

/-! ## Minutes -/

/-- A network and its past, and what its sinks have dealt with. -/
structure Minutes where
  chronicle : Chronicle
  /-- The requests that each sink has dealt with on each session, the first one first. -/
  dealings : DeviceId → SessionId → List Dealing := fun _ _ => []

namespace Minutes

def network (minutes : Minutes) : Network := minutes.chronicle.network

def undergo (minutes : Minutes) (happening : Happening) : Minutes where
  chronicle := minutes.chronicle.undergo happening
  dealings sink session :=
    minutes.dealings sink session ++ (minutes.network.dealing? sink session happening).toList

/-- The minutes of a network of given nodes. -/
inductive Reached (setups : List NodeSetup) (clock : UInt64) : Minutes → Prop
  /-- The nodes have been set up. -/
  | start :
      Reached setups clock { chronicle := { network := setups.foldl Network.spawn { clock } } }
  /-- Something happens on the network. -/
  | undergo {minutes : Minutes} (happening : Happening) :
      Reached setups clock minutes → minutes.network.HasRoom →
      Reached setups clock (minutes.undergo happening)

variable {setups : List NodeSetup} {clock : UInt64} {minutes : Minutes}

theorem Reached.chronicle (reached : Reached setups clock minutes) :
    Chronicle.Reached setups clock minutes.chronicle := by
  induction reached with
  | start => exact .start
  | undergo happening _ room inductionHypothesis => exact inductionHypothesis.undergo happening room

theorem Reached.undergoAll (reached : Reached setups clock minutes)
    {happenings : List Happening} (room : minutes.chronicle.RoomFor happenings) :
    Reached setups clock (happenings.foldl Minutes.undergo minutes) := by
  induction happenings generalizing minutes with
  | nil => exact reached
  | cons happening rest inductionHypothesis =>
      exact inductionHypothesis (reached.undergo happening room.1) room.2

end Minutes

end InputSharing
