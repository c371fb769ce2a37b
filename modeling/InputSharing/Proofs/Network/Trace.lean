import InputSharing.Network.Basic
import InputSharing.Proofs.Table

/-!
# Traces of networks

A network moves in small steps, in any order.  A `Trace` is a network together
with what has to be known of its past: the calls that its users have made, and
what each event is put down to that is on its way.

An event is put down to the call that was dealt with when it was sent, and to
the endpoint that sent it.  Serving a call deals with that call; serving an event
deals with the call that the event is put down to.
-/

namespace InputSharing

/-! ## What an answer is -/

/-- What an event is put down to. -/
structure Cause where
  /-- The call that was dealt with when the event was sent. -/
  call : Option Ticket
  sender : Endpoint

/-- An event brings an answer to a call, and this is what it comes to. -/
def TransportEvent.Answers (event : TransportEvent Parcel) (outcome : Outcome) : Call → Prop
  | .direct _ request =>
      ∃ session sequence sink reply,
        event = .frame session (.composed sequence (.reply sink reply)) ∧
          reply.request = request ∧ outcome = reply.outcome
  | .relayed source sink request =>
      ∃ session sequence result,
        event = .frame session (.composed sequence (.relayResult source sink result)) ∧
          result.request = request ∧ outcome = result.outcome

/-! ## Moves -/

/-- What can happen on a network whose nodes stay and whose links hold. -/
inductive Move where
  /-- A user makes a call. -/
  | call (device : DeviceId) (ticket : Ticket) (call : Call)
  | listen (device : DeviceId)
  /-- An event goes from the mailbox of an endpoint to the queue of its node. -/
  | forward (endpoint : Endpoint)
  | forwardCaptured (device : DeviceId)
  /-- One half of a node reacts to the first event of its queue. -/
  | serve (endpoint : Endpoint)
  | flush (device : DeviceId)
  | emit (device : DeviceId) (events : List InputEvent)
  | failNextStart (device : DeviceId)
  | tick (device : DeviceId)
  | pass (ms : Nat)
  | setClock (time : UInt64)

/-- The call that a user makes by a move. -/
def Move.ticket? : Move → Option Ticket
  | call _ ticket _ => some ticket
  | _ => none

namespace Network

def perform (network : Network) : Move → Network
  | .call device ticket wanted => network.call device ticket wanted
  | .listen device => (network.listen device).2
  | .forward endpoint => network.forward endpoint
  | .forwardCaptured device => network.forwardCaptured device
  | .serve ⟨device, .source⟩ => network.serveSource device
  | .serve ⟨device, .sink⟩ => network.serveSink device
  | .flush device => network.flush device
  | .emit device events => (network.emit device events).2
  | .failNextStart device => network.failNextStart device
  | .tick device => network.tick device
  | .pass ms => network.pass ms
  | .setClock time => { network with clock := time }

end Network

/-! ## Events on their way -/

def SourceEvent.transport? : SourceEvent → Option (TransportEvent Parcel)
  | transport event => some event
  | call _ _ | tick => none

def SinkEvent.transport? : SinkEvent → Option (TransportEvent Parcel)
  | transport event => some event
  | captured _ | listen => none

/-- The events of the transport in the queue of one half of a node. -/
def Node.received (node : Node) : Role → List (TransportEvent Parcel)
  | .source => node.sourceQueue.filterMap SourceEvent.transport?
  | .sink => node.sinkQueue.filterMap SinkEvent.transport?

namespace Network

/-- The events that one half of a node is still to react to, the first one
first. -/
def stream (network : Network) (endpoint : Endpoint) : List (TransportEvent Parcel) :=
  match network.nodes[endpoint.device]? with
  | none => []
  | some node =>
      node.received endpoint.role ++ network.hub.waiting (node.box endpoint.role)

/-- What the source of a node is to react to next. -/
def nextOfSource? (network : Network) (device : DeviceId) : Option SourceEvent :=
  network.nodes[device]?.bind fun node => node.sourceQueue.head?

def nextOfSink? (network : Network) (device : DeviceId) : Option SinkEvent :=
  network.nodes[device]?.bind fun node => node.sinkQueue.head?

theorem nextOfSource?_of_queue {network : Network} {device : DeviceId} {node : Node}
    {event : SourceEvent} {rest : List SourceEvent} (found : network.nodes[device]? = some node)
    (queue : node.sourceQueue = event :: rest) :
    network.nextOfSource? device = some event := by
  rw [nextOfSource?, found, Option.bind_some, queue]
  rfl

theorem nextOfSink?_of_queue {network : Network} {device : DeviceId} {node : Node}
    {event : SinkEvent} {rest : List SinkEvent} (found : network.nodes[device]? = some node)
    (queue : node.sinkQueue = event :: rest) : network.nextOfSink? device = some event := by
  rw [nextOfSink?, found, Option.bind_some, queue]
  rfl

/-- The endpoint that reacts to an event of the transport. -/
def takes? (network : Network) : Move → Option Endpoint
  | .serve ⟨device, .source⟩ =>
      ((network.nextOfSource? device).bind SourceEvent.transport?).map fun _ => ⟨device, .source⟩
  | .serve ⟨device, .sink⟩ =>
      ((network.nextOfSink? device).bind SinkEvent.transport?).map fun _ => ⟨device, .sink⟩
  | _ => none

/-- Sessions and tokens are never given out twice, so a network must not run out
of them. -/
structure HasRoom (network : Network) : Prop where
  sessions : network.hub.lastSession.number.toNat + 1 < UInt32.size
  tokens :
    ∀ {device : DeviceId} {node : Node}, network.nodes[device]? = some node →
      node.source.relays.last.number.toNat + 1 < UInt64.size

/-- Nothing waits in a mailbox or a queue. -/
structure IsIdle (network : Network) : Prop where
  mailboxes : ∀ mailbox ∈ network.hub.mailboxes, mailbox.events = []
  sources :
    ∀ {device : DeviceId} {node : Node}, network.nodes[device]? = some node →
      node.sourceQueue = []
  sinks :
    ∀ {device : DeviceId} {node : Node}, network.nodes[device]? = some node →
      node.sinkQueue = []

theorem hasRoom_iff (network : Network) :
    network.HasRoom ↔
      network.hub.lastSession.number.toNat + 1 < UInt32.size ∧
        ∀ entry ∈ network.nodes.toList,
          entry.2.source.relays.last.number.toNat + 1 < UInt64.size := by
  refine ⟨?_, ?_⟩
  · intro room
    refine ⟨room.sessions, ?_⟩
    rintro ⟨device, node⟩ listed
    exact room.tokens (Table.mem_toList.1 listed)
  · rintro ⟨sessions, tokens⟩
    exact ⟨sessions, fun found => tokens _ (Table.mem_toList.2 found)⟩

theorem isIdle_iff (network : Network) :
    network.IsIdle ↔
      (∀ mailbox ∈ network.hub.mailboxes, mailbox.events.isEmpty) ∧
        ∀ entry ∈ network.nodes.toList,
          entry.2.sourceQueue.isEmpty ∧ entry.2.sinkQueue.isEmpty := by
  simp only [List.isEmpty_iff]
  refine ⟨?_, ?_⟩
  · intro idle
    refine ⟨idle.mailboxes, ?_⟩
    rintro ⟨device, node⟩ listed
    have found := Table.mem_toList.1 listed
    exact ⟨idle.sources found, idle.sinks found⟩
  · rintro ⟨mailboxes, queues⟩
    refine ⟨mailboxes, ?_, ?_⟩
    · intro device node found
      exact (queues _ (Table.mem_toList.2 found)).1
    · intro device node found
      exact (queues _ (Table.mem_toList.2 found)).2

instance (network : Network) : Decidable network.HasRoom :=
  decidable_of_iff' _ (hasRoom_iff network)

instance (network : Network) : Decidable network.IsIdle :=
  decidable_of_iff' _ (isIdle_iff network)

end Network

/-! ## Traces -/

/-- A network and its past. -/
structure Trace where
  network : Network
  /-- The calls that have been made, the first one first. -/
  calls : List Ticket := []
  /-- What the events of each stream are put down to. -/
  origins : Endpoint → List Cause := fun _ => []

namespace Trace

/-- The call that is dealt with when one half of a node reacts to its next event. -/
def dealtWith (trace : Trace) : Endpoint → Option Ticket
  | ⟨device, .source⟩ =>
      match trace.network.nextOfSource? device with
      | some (.call ticket _) => some ticket
      | some (.transport _) => (trace.origins ⟨device, .source⟩).head?.bind Cause.call
      | _ => none
  | ⟨device, .sink⟩ =>
      match trace.network.nextOfSink? device with
      | some (.transport _) => (trace.origins ⟨device, .sink⟩).head?.bind Cause.call
      | _ => none

/-- What the events are put down to that a move sends, if it sends any. -/
def cause? (trace : Trace) : Move → Option Cause
  | .serve endpoint => some ⟨trace.dealtWith endpoint, endpoint⟩
  | .flush device => some ⟨none, ⟨device, .sink⟩⟩
  | _ => none

/-- What the events are put down to that a move leaves in a stream. -/
def kept (trace : Trace) (move : Move) (endpoint : Endpoint) : List Cause :=
  if trace.network.takes? move = some endpoint then (trace.origins endpoint).tail
  else trace.origins endpoint

theorem kept_of_takes {trace : Trace} {move : Move} {endpoint : Endpoint}
    (takes : trace.network.takes? move = some endpoint) (tested : Endpoint) :
    trace.kept move tested =
      if tested = endpoint then (trace.origins tested).tail else trace.origins tested := by
  rw [kept, takes]
  by_cases same : tested = endpoint
  · rw [if_pos same, if_pos (congrArg some same.symm)]
  · rw [if_neg same, if_neg fun equal => same (Option.some.inj equal).symm]

theorem kept_of_takes_none {trace : Trace} {move : Move}
    (takes : trace.network.takes? move = none) : trace.kept move = trace.origins := by
  funext endpoint
  rw [kept, takes]
  rfl

/-- A move appends what it sends to the streams. -/
def perform (trace : Trace) (move : Move) : Trace where
  network := trace.network.perform move
  calls := trace.calls ++ move.ticket?.toList
  origins endpoint :=
    let kept := trace.kept move endpoint
    let sent := ((trace.network.perform move).stream endpoint).length - kept.length
    match trace.cause? move with
    | none => kept
    | some cause => kept ++ List.replicate sent cause

/-- A move may end a call in this way: by refusing it, by an answer that was sent
to this very call by whom it was made to, or because a channel is gone. -/
inductive Warrants (trace : Trace) (completion : Completion Grant) : Move → Prop
  | refusal {device : DeviceId} {call : Call} {error : SharingError} :
      trace.network.nextOfSource? device = some (.call completion.ticket call) →
      completion.result = .error error →
      Warrants trace completion (.serve ⟨device, .source⟩)
  | answer {device : DeviceId} {node : Node} {event : TransportEvent Parcel} {call : Call} :
      trace.network.nodes[device]? = some node →
      trace.network.nextOfSource? device = some (.transport event) →
      (call, completion.ticket) ∈ node.source.pending.waiting →
      event.Answers completion.result call →
      (trace.origins ⟨device, .source⟩).head? = some ⟨some completion.ticket, call.remote⟩ →
      Warrants trace completion (.serve ⟨device, .source⟩)
  | disconnection {move : Move} :
      completion.result = .error .disconnected → Warrants trace completion move

/-- The traces of a network of given nodes. -/
inductive Reached (setups : List NodeSetup) (clock : UInt64) : Trace → Prop
  /-- The nodes have been set up. -/
  | start : Reached setups clock { network := setups.foldl Network.spawn { clock } }
  /-- Something happens on the network. -/
  | perform {trace : Trace} (move : Move) :
      Reached setups clock trace → trace.network.HasRoom →
      Reached setups clock (trace.perform move)

/-! ## Moves one after the other -/

/-- A network never runs out of sessions and tokens while it makes these moves. -/
def RoomFor (trace : Trace) : List Move → Prop
  | [] => True
  | move :: rest => trace.network.HasRoom ∧ (trace.perform move).RoomFor rest

instance RoomFor.decidable (trace : Trace) : (moves : List Move) → Decidable (trace.RoomFor moves)
  | [] => inferInstanceAs (Decidable True)
  | move :: rest =>
      have := RoomFor.decidable (trace.perform move) rest
      inferInstanceAs (Decidable (trace.network.HasRoom ∧ (trace.perform move).RoomFor rest))

theorem Reached.performAll {setups : List NodeSetup} {clock : UInt64} {trace : Trace}
    (reached : Reached setups clock trace) {moves : List Move} (room : trace.RoomFor moves) :
    Reached setups clock (moves.foldl Trace.perform trace) := by
  induction moves generalizing trace with
  | nil => exact reached
  | cons move rest inductionHypothesis =>
      exact inductionHypothesis (reached.perform move room.1) room.2

end Trace

end InputSharing
