import InputSharing.Proofs.Network.Trace
import InputSharing.Proofs.Sink.History

/-!
# What becomes of captured events

A `Chronicle` is a network together with what has to be known of its past: the
links that there have been, the events that the sinks have taken from their
devices, and the events that the sources have had injected.

What a sink has routed to a channel is read off its captures; what a source has
had injected is read off its virtual device.
-/

namespace InputSharing

/-! ## Happenings -/

/-- What can happen on a network whose nodes stay. -/
inductive Happening where
  | move (move : Move)
  /-- A link breaks. -/
  | sever (session : SessionId)

/-- The channel on which a batch of events comes. -/
def SourceEvent.batch? : SourceEvent → Option SessionId
  | .transport (.frame session parcel) =>
      match parcel.read with
      | .ok (_, .inputEvents _ _) => some session
      | _ => none
  | _ => none

namespace Network

def happen (network : Network) : Happening → Network
  | .move move => network.perform move
  | .sever session => { network with hub := network.hub.sever session }

/-- The event that the sink of a node takes from its devices. -/
def capture? (network : Network) (device : DeviceId) : Happening → Option Capture
  | .move (.serve ⟨server, .sink⟩) =>
      if server = device then
        match network.nodes[device]?, network.nextOfSink? device with
        | some node, some (.captured event) =>
            let turn : Sink.Turn (Hub.Port Parcel) Hardware :=
              { sink := node.sink
                line := ⟨network.hub, ⟨device, .sink⟩⟩
                collector := node.hardware }
            some (turn.capture event)
        | _, _ => none
      else none
  | _ => none

/-- The channel on which the batch came that the source of a node takes. -/
def batch? (network : Network) (device : DeviceId) : Happening → Option SessionId
  | .move (.serve ⟨server, .source⟩) =>
      if server = device then (network.nextOfSource? device).bind SourceEvent.batch? else none
  | _ => none

/-- Everything that the virtual device of a node holds. -/
def injected (network : Network) (device : DeviceId) : List (DeviceId × InputEvent) :=
  match network.nodes[device]? with
  | none => []
  | some node => node.injector.injected

/-- What the sink of a node has put aside for a channel. -/
def aside (network : Network) (device : DeviceId) (session : SessionId) : List InputEvent :=
  match network.nodes[device]? with
  | none => []
  | some node => node.sink.outbox[session]?.getD []

/-- A source knows a channel. -/
def IsOpen (network : Network) (device : DeviceId) (session : SessionId) : Prop :=
  ∃ node, network.nodes[device]? = some node ∧ session ∈ node.source.registry.bySession

/-- Nothing waits in a mailbox or a queue, and no sink has put events aside. -/
structure IsDrained (network : Network) : Prop where
  idle : network.IsIdle
  outboxes :
    ∀ {device : DeviceId} {node : Node} {session : SessionId} {events : List InputEvent},
      network.nodes[device]? = some node → node.sink.outbox[session]? = some events → events = []

theorem isDrained_iff (network : Network) :
    network.IsDrained ↔
      network.IsIdle ∧
        ∀ entry ∈ network.nodes.toList, ∀ waiting ∈ entry.2.sink.outbox.toList,
          waiting.2.isEmpty := by
  simp only [List.isEmpty_iff]
  constructor
  · intro drained
    refine ⟨drained.idle, ?_⟩
    intro entry listed waiting aside
    exact drained.outboxes (Table.mem_toList.1 listed) (Table.mem_toList.1 aside)
  · intro drained
    refine ⟨drained.1, ?_⟩
    intro device node session events found aside
    exact drained.2 (device, node) (Table.mem_toList.2 found) (session, events)
      (Table.mem_toList.2 aside)

theorem IsDrained.aside_eq {network : Network} (drained : network.IsDrained)
    (device : DeviceId) (session : SessionId) : network.aside device session = [] := by
  rw [aside]
  split
  · rfl
  · next node found =>
    cases waiting : node.sink.outbox[session]? with
    | none => rfl
    | some events => exact drained.outboxes found waiting

theorem isOpen_iff (network : Network) (device : DeviceId) (session : SessionId) :
    network.IsOpen device session ↔
      (network.nodes[device]?.any fun node =>
        node.source.registry.bySession.contains session) = true := by
  simp [IsOpen, Option.any_eq_true]

instance (network : Network) : Decidable network.IsDrained :=
  decidable_of_iff' _ (isDrained_iff network)

instance (network : Network) (device : DeviceId) (session : SessionId) :
    Decidable (network.IsOpen device session) :=
  decidable_of_iff' _ (isOpen_iff network device session)

end Network

/-! ## Chronicles -/

/-- A network and its past. -/
structure Chronicle where
  network : Network
  /-- Every link that there has been. -/
  links : SessionId → Option Link := fun _ => none
  /-- What each sink has taken from its devices, the first event first. -/
  captures : DeviceId → List Capture := fun _ => []
  /-- What each source has had injected from the batches of each channel. -/
  injections : DeviceId → SessionId → List (DeviceId × InputEvent) := fun _ _ => []

namespace Chronicle

/-- The events that a sink has routed to a channel, in the order of their capture. -/
def routed (chronicle : Chronicle) (sink : DeviceId) (session : SessionId) : List InputEvent :=
  ((chronicle.captures sink).filter fun capture => capture.channel? = some session).map
    Capture.event

/-- Whatever happens, a network is the network of before and what has come of it. -/
def undergo (chronicle : Chronicle) (happening : Happening) : Chronicle :=
  let before := chronicle.network
  let after := before.happen happening
  { network := after
    links := fun session => after.hub.links[session]?.or (chronicle.links session)
    captures := fun device =>
      chronicle.captures device ++ (before.capture? device happening).toList
    injections := fun device session =>
      chronicle.injections device session ++
        if before.batch? device happening = some session then
          (after.injected device).drop (before.injected device).length
        else [] }

/-- The chronicles of a network of given nodes. -/
inductive Reached (setups : List NodeSetup) (clock : UInt64) : Chronicle → Prop
  /-- The nodes have been set up. -/
  | start : Reached setups clock { network := setups.foldl Network.spawn { clock } }
  /-- Something happens on the network. -/
  | undergo {chronicle : Chronicle} (happening : Happening) :
      Reached setups clock chronicle → chronicle.network.HasRoom →
      Reached setups clock (chronicle.undergo happening)

/-! ## Happenings one after the other -/

/-- A network never runs out of sessions and tokens while this happens. -/
def RoomFor (chronicle : Chronicle) : List Happening → Prop
  | [] => True
  | happening :: rest => chronicle.network.HasRoom ∧ (chronicle.undergo happening).RoomFor rest

instance RoomFor.decidable (chronicle : Chronicle) :
    (happenings : List Happening) → Decidable (chronicle.RoomFor happenings)
  | [] => inferInstanceAs (Decidable True)
  | happening :: rest =>
      have := RoomFor.decidable (chronicle.undergo happening) rest
      inferInstanceAs
        (Decidable (chronicle.network.HasRoom ∧ (chronicle.undergo happening).RoomFor rest))

theorem Reached.undergoAll {setups : List NodeSetup} {clock : UInt64} {chronicle : Chronicle}
    (reached : Reached setups clock chronicle) {happenings : List Happening}
    (room : chronicle.RoomFor happenings) :
    Reached setups clock (happenings.foldl Chronicle.undergo chronicle) := by
  induction happenings generalizing chronicle with
  | nil => exact reached
  | cons happening rest inductionHypothesis =>
      exact inductionHypothesis (reached.undergo happening room.1) room.2

end Chronicle

end InputSharing
