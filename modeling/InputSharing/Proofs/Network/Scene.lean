import InputSharing.Proofs.Hub
import InputSharing.Proofs.Network.Trace
import InputSharing.Proofs.Table
import Mathlib.Data.List.Count

/-!
# Scenes

A scene is what matters of a network for the question which calls are still to
be answered: the links, what the sources know and wait for, which sessions the
sinks know, and all events on their way.  An event that waits for one half of a
node is a `Letter`, whether it still is on the hub or already in the queue of
the node.

Somewhere between a call and its answer there is always exactly one thing that
stands for it: a letter that asks, a token, or a letter that answers.  These are
counted as `Burden`s.
-/

namespace InputSharing

/-! ## Burdens -/

/-- A request that is not yet answered, with the call that it belongs to. -/
inductive Burden where
  /-- A source has asked the sink at the other end of a channel. -/
  | lane (session : SessionId) (via : Sink.Via) (request : Request) (owner : Option Ticket)
  /-- A source has asked another source to ask a sink. -/
  | relay (caller relayer sink : DeviceId) (request : Request) (owner : Option Ticket)
  deriving DecidableEq

namespace Burden

/-- The node that has to see to a burden between two nodes. -/
def relayer? : Burden → Option DeviceId
  | lane _ _ _ _ => none
  | relay _ relayer _ _ _ => some relayer

/-- The burden is not one of a given channel. -/
def Spares (doomed : Option SessionId) : Burden → Prop
  | lane session _ _ _ => doomed ≠ some session
  | relay _ _ _ _ _ => True

end Burden

namespace Message

/-- What a message asks for. -/
def ask? (session : SessionId) (owner : Option Ticket) : Message → Option Burden
  | .request _ body => some (.lane session .direct body owner)
  | .relayed token _ body => some (.lane session (.relayed token) body owner)
  | .relayRequest caller relayer sink body => some (.relay caller relayer sink body owner)
  | _ => none

/-- What a message to a node answers. -/
def answer? (here : DeviceId) (session : SessionId) (owner : Option Ticket) :
    Message → Option Burden
  | .reply _ body => some (.lane session .direct body.request owner)
  | .relayedReply token _ body => some (.lane session (.relayed token) body.request owner)
  | .relayResult relayer sink result => some (.relay here relayer sink result.request owner)
  | _ => none

end Message

/-- An event of the transport on its way. -/
structure Letter where
  event : TransportEvent Parcel
  /-- The call that the event is about. -/
  owner : Option Ticket
  cause : Cause

namespace Letter

def ask? (letter : Letter) : Option Burden :=
  match letter.event with
  | .frame session (.composed _ message) => message.ask? session letter.owner
  | _ => none

def answer? (here : DeviceId) (letter : Letter) : Option Burden :=
  match letter.event with
  | .frame session (.composed _ message) => message.answer? here session letter.owner
  | _ => none

variable {letter : Letter} {session : SessionId} {sequence : UInt64} {message : Message}

theorem ask?_of_frame (frame : letter.event = .frame session (.composed sequence message)) :
    letter.ask? = message.ask? session letter.owner := by
  rw [ask?, frame]

theorem answer?_of_frame (frame : letter.event = .frame session (.composed sequence message))
    (here : DeviceId) : letter.answer? here = message.answer? here session letter.owner := by
  rw [answer?, frame]

end Letter

/-! ## Standings -/

/-- What matters of a source. -/
structure Standing where
  byPeer : Table Endpoint SessionId := ∅
  bySession : Table SessionId Channel := ∅
  waiting : List (Call × Ticket) := []
  relays : Relays := {}

def Source.standing (source : Source) : Standing where
  byPeer := source.registry.byPeer
  bySession := source.registry.bySession
  waiting := source.pending.waiting
  relays := source.relays

/-- A call to a sink that waits, as a burden of the channel to the sink. -/
def directDebt? (sink : DeviceId) (session : SessionId) : Call × Ticket → Option Burden
  | (.direct peer request, ticket) =>
      if peer = sink then some (.lane session .direct request (some ticket)) else none
  | (.relayed _ _ _, _) => none

/-- A request that was passed on to a sink, as a burden of the channel to the sink. -/
def relayedDebt? (owner : RelayToken → Option Ticket) (sink : DeviceId) (session : SessionId)
    (entry : RelayToken × Correlation) : Option Burden :=
  if entry.2.target = sink then
    some (.lane session (.relayed entry.1) entry.2.request (owner entry.1))
  else none

/-- A call through another source that waits. -/
def commission? (caller : DeviceId) : Call × Ticket → Option Burden
  | (.direct _ _, _) => none
  | (.relayed relayer sink request, ticket) =>
      some (.relay caller relayer sink request (some ticket))

/-- A request that was passed on, as a burden of the node that came with it. -/
def passedOn? (links : SessionId → Option Link) (owner : RelayToken → Option Ticket)
    (relayer : DeviceId) (entry : RelayToken × Correlation) : Option Burden :=
  (entry.2.origin.bind links).map fun link =>
    .relay (link.otherEnd ⟨relayer, .source⟩).device relayer entry.2.target entry.2.request
      (owner entry.1)

/-! ## Scenes -/

/-- What matters of a network. -/
structure Scene where
  links : SessionId → Option Link
  last : SessionId
  registered : DeviceId → Prop
  sources : DeviceId → Standing
  /-- The sessions that the sink of a node knows. -/
  sinks : DeviceId → SessionId → Prop
  mail : Endpoint → List Letter
  /-- The calls for which the sources have given out their tokens. -/
  owner : DeviceId → RelayToken → Option Ticket

namespace Scene

variable (scene : Scene)

/-- One half of a node knows a session. -/
def Knows : Endpoint → SessionId → Prop
  | ⟨device, .source⟩, session => session ∈ (scene.sources device).bySession
  | ⟨device, .sink⟩, session => scene.sinks device session

/-- The first event about a session that waits for an endpoint. -/
def first? (endpoint : Endpoint) (session : SessionId) : Option (TransportEvent Parcel) :=
  ((scene.mail endpoint).map Letter.event).find? fun event => event.session = session

/-- The link under a session, if it leads to a sink. -/
def lane? (session : SessionId) : Option Link :=
  (scene.links session).filter fun link => link.acceptor.role = .sink

/-! ## Where burdens are -/

/-- The endpoint for which the letter waits that asks for a burden. -/
def askedAt : Burden → Option Endpoint
  | .lane session _ _ _ => (scene.lane? session).map Link.acceptor
  | .relay _ relayer _ _ _ => some ⟨relayer, .source⟩

/-- The endpoint for which the letter waits that answers a burden. -/
def answeredAt : Burden → Option Endpoint
  | .lane session _ _ _ => (scene.lane? session).map Link.opener
  | .relay caller _ _ _ _ => some ⟨caller, .source⟩

/-- The node whose source waits for a burden. -/
def debtor : Burden → Option DeviceId
  | .lane session _ _ _ => (scene.lane? session).map fun link => link.opener.device
  | .relay caller _ _ _ _ => some caller

/-- A call that waits, as a burden of the same kind. -/
def claim? (burden : Burden) (entry : Call × Ticket) : Option Burden :=
  match burden with
  | .lane session _ _ _ =>
      (scene.lane? session).bind fun link => directDebt? link.acceptor.device session entry
  | .relay caller _ _ _ _ => commission? caller entry

/-- A token in use, as a burden of a channel. -/
def pledge? (burden : Burden) (entry : RelayToken × Correlation) : Option Burden :=
  match burden with
  | .lane session _ _ _ =>
      (scene.lane? session).bind fun link =>
        relayedDebt? (scene.owner link.opener.device) link.acceptor.device session entry
  | .relay _ _ _ _ _ => none

/-- A token in use, as a burden of two nodes. -/
def errand? (burden : Burden) (entry : RelayToken × Correlation) : Option Burden :=
  match burden with
  | .lane _ _ _ _ => none
  | .relay _ relayer _ _ _ => passedOn? scene.links (scene.owner relayer) relayer entry

/-- How many calls wait for a burden. -/
def claimed (burden : Burden) : Nat :=
  match scene.debtor burden with
  | none => 0
  | some device => ((scene.sources device).waiting.filterMap (scene.claim? burden)).count burden

/-- How many tokens wait for a burden of a channel. -/
def pledged (burden : Burden) : Nat :=
  match scene.debtor burden with
  | none => 0
  | some device =>
      ((scene.sources device).relays.live.toList.filterMap (scene.pledge? burden)).count burden

/-- How many tokens stand for a burden between two nodes. -/
def passed (burden : Burden) : Nat :=
  match burden.relayer? with
  | none => 0
  | some device =>
      ((scene.sources device).relays.live.toList.filterMap (scene.errand? burden)).count burden

def asking (burden : Burden) : List Burden :=
  match scene.askedAt burden with
  | none => []
  | some endpoint => (scene.mail endpoint).filterMap Letter.ask?

def answering (burden : Burden) : List Burden :=
  match scene.answeredAt burden with
  | none => []
  | some endpoint => (scene.mail endpoint).filterMap (Letter.answer? endpoint.device)

/-- How many letters stand for a burden. -/
def carried (burden : Burden) : Nat :=
  (scene.asking burden).count burden + (scene.answering burden).count burden

/-- Whether a call that waits at a source waits for a burden. -/
def claimWeight (device : DeviceId) (entry : Call × Ticket) (burden : Burden) : Nat :=
  if scene.debtor burden = some device then (scene.claim? burden entry).toList.count burden
  else 0

/-- Whether a token of a source waits for a burden of a channel. -/
def pledgeWeight (device : DeviceId) (entry : RelayToken × Correlation) (burden : Burden) : Nat :=
  if scene.debtor burden = some device then (scene.pledge? burden entry).toList.count burden
  else 0

/-- Whether a token of a source stands for a burden between two nodes. -/
def errandWeight (device : DeviceId) (entry : RelayToken × Correlation) (burden : Burden) : Nat :=
  if burden.relayer? = some device then (scene.errand? burden entry).toList.count burden
  else 0

/-- Whether a letter that waits for an endpoint stands for a burden. -/
def weight (endpoint : Endpoint) (letter : Letter) (burden : Burden) : Nat :=
  (if scene.askedAt burden = some endpoint then letter.ask?.toList.count burden else 0) +
    if scene.answeredAt burden = some endpoint then
      (letter.answer? endpoint.device).toList.count burden
    else 0

/-! ## Small changes -/

/-- A letter comes to wait for an endpoint. -/
def put (endpoint : Endpoint) (letter : Letter) : Scene :=
  { scene with
    mail := Function.update scene.mail endpoint (scene.mail endpoint ++ [letter]) }

/-- The first letter for an endpoint is taken. -/
def take (endpoint : Endpoint) : Scene :=
  { scene with mail := Function.update scene.mail endpoint (scene.mail endpoint).tail }

def withSource (device : DeviceId) (standing : Standing) : Scene :=
  { scene with sources := Function.update scene.sources device standing }

/-- A token is given out for a call. -/
def withOwner (device : DeviceId) (token : RelayToken) (ticket : Option Ticket) : Scene :=
  { scene with
    owner :=
      Function.update scene.owner device (Function.update (scene.owner device) token ticket) }

/-- A sink knows other sessions. -/
def withSink (device : DeviceId) (known : SessionId → Prop) : Scene :=
  { scene with sinks := Function.update scene.sinks device known }

/-- What the tokens on a list stand for. -/
def errands (device : DeviceId) (entries : List (RelayToken × Correlation)) : List Burden :=
  entries.filterMap (passedOn? scene.links (scene.owner device) device)

variable {scene} {endpoint tested : Endpoint} {device other : DeviceId} {letter : Letter}
  {standing : Standing} {known : SessionId → Prop}

@[simp]
theorem mail_put_self :
    (scene.put endpoint letter).mail endpoint = scene.mail endpoint ++ [letter] :=
  Function.update_self ..

@[simp]
theorem mail_put_of_ne (different : tested ≠ endpoint) :
    (scene.put endpoint letter).mail tested = scene.mail tested :=
  Function.update_of_ne different ..

@[simp]
theorem mail_take_self : (scene.take endpoint).mail endpoint = (scene.mail endpoint).tail :=
  Function.update_self ..

@[simp]
theorem mail_take_of_ne (different : tested ≠ endpoint) :
    (scene.take endpoint).mail tested = scene.mail tested :=
  Function.update_of_ne different ..

@[simp]
theorem sources_withSource_self : (scene.withSource device standing).sources device = standing :=
  Function.update_self ..

@[simp]
theorem sources_withSource_of_ne (different : other ≠ device) :
    (scene.withSource device standing).sources other = scene.sources other :=
  Function.update_of_ne different ..

@[simp]
theorem sinks_withSink_self : (scene.withSink device known).sinks device = known :=
  Function.update_self ..

@[simp]
theorem sinks_withSink_of_ne (different : other ≠ device) :
    (scene.withSink device known).sinks other = scene.sinks other :=
  Function.update_of_ne different ..

end Scene

end InputSharing
