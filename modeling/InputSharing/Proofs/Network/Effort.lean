import InputSharing.Proofs.Network.Reactions
import InputSharing.Proofs.Sink.Backlog
import InputSharing.Proofs.Source.Backlog
import Mathlib.Algebra.Ring.Nat

/-!
# What the loops of nodes have left to do

A `Chore` is a turn of one of the loops that run beside a node.  What waits for a node is
heavier than all that can come of it, but for the measurements of delays: how much comes of
one depends on how many sinks the source knows by then.  It is no more than four times all
the work that is left, and no measurement brings about another one.  So every chore that finds
something to do lowers the budget of the network.
-/

namespace InputSharing

/-! ## Chores -/

/-- What a loop of a node does when it has its turn. -/
inductive Chore where
  /-- Move an event from the mailbox of an endpoint to the queue of its node. -/
  | forward (endpoint : Endpoint)
  /-- Move what a node has captured to the queue of its sink. -/
  | forwardCaptured (device : DeviceId)
  /-- React to the first event of the queue of an endpoint. -/
  | serve (endpoint : Endpoint)
  /-- Send what a sink has put aside. -/
  | flush (device : DeviceId)
  deriving DecidableEq

namespace Chore

def device : Chore → DeviceId
  | forward endpoint | serve endpoint => endpoint.device
  | forwardCaptured device | flush device => device

def move : Chore → Move
  | forward endpoint => .forward endpoint
  | forwardCaptured device => .forwardCaptured device
  | serve endpoint => .serve endpoint
  | flush device => .flush device

end Chore

/-- Something waits at a node for the loop whose turn it is. -/
def Node.owes (node : Node) (hub : Hub Parcel) : Chore → Bool
  | .forward endpoint => !(hub.waiting (node.box endpoint.role)).isEmpty
  | .forwardCaptured _ => !node.hardware.captured.isEmpty
  | .serve ⟨_, .source⟩ => !node.sourceQueue.isEmpty
  | .serve ⟨_, .sink⟩ => !node.sinkQueue.isEmpty
  | .flush _ => node.sink.outbox.toList.any fun entry => !entry.2.isEmpty

/-- A chore finds something to do. -/
def Network.awaits (network : Network) (chore : Chore) : Bool :=
  network.nodes[chore.device]?.any fun node => node.owes network.hub chore

/-! ## Work -/

/-- The weight of what waits at a node, without the measurements of delays. -/
def Node.work (node : Node) : Nat :=
  weigh SourceEvent.worth node.sourceQueue + weigh SinkEvent.weight node.sinkQueue +
    node.source.burden + node.sink.burden node.hardware

/-- How many measurements of delays wait at a node. -/
def Node.ticks (node : Node) : Nat := node.sourceQueue.count .tick

theorem weigh_captured (events : List InputEvent) :
    weigh SinkEvent.weight (events.map .captured) = 4 * events.length := by
  induction events with
  | nil => rfl
  | cons first rest inductionHypothesis =>
      rw [List.map_cons, weigh, inductionHypothesis, SinkEvent.weight, List.length_cons]
      omega

namespace Node

variable (node : Node) (event : TransportEvent Parcel) (role : Role)

theorem work_enqueue : (node.enqueue event role).work = node.work + event.weight := by
  cases role with
  | source =>
      have queued :
          weigh SourceEvent.worth (node.sourceQueue ++ [.transport event]) =
            weigh SourceEvent.worth node.sourceQueue + event.weight :=
        weigh_append ..
      simp only [enqueue, work, queued]
      omega
  | sink =>
      have queued :
          weigh SinkEvent.weight (node.sinkQueue ++ [.transport event]) =
            weigh SinkEvent.weight node.sinkQueue + event.weight :=
        weigh_append ..
      simp only [enqueue, work, queued]
      omega

theorem ticks_enqueue : (node.enqueue event role).ticks = node.ticks := by
  cases role with
  | source =>
      change (node.sourceQueue ++ [SourceEvent.transport event]).count .tick = _
      rw [List.count_append]
      rfl
  | sink => rfl

end Node

namespace Network

def work (network : Network) : Nat :=
  network.hub.load + weigh (fun entry => entry.2.work) network.nodes.toList

def ticks (network : Network) : Nat := weigh (fun entry => entry.2.ticks) network.nodes.toList

/-- No more chores than that find something to do before nothing waits any longer.  A
measurement of delays can bring about four times the work that is left. -/
def budget (network : Network) : Nat := 5 ^ network.ticks * (network.work + 1)

/-- One node has changed, and what waits at it or on the hub has got heavier by `change` at
most. -/
structure Handles (before after : Network) (device : DeviceId) (old new : Node) (change : Int) :
    Prop where
  found : before.nodes[device]? = some old
  nodes_eq : after.nodes = before.nodes.insert device new
  boxes_eq : ∀ role, new.box role = old.box role
  shifts : Backlog.Shifts change ⟨before.hub, old.work⟩ ⟨after.hub, new.work⟩

/-- Some work has been done, or a measurement has been made. -/
inductive Descends (before after : Network) : Prop
  | works {device : DeviceId} {old new : Node} :
      before.Handles after device old new (-1) → new.ticks = old.ticks → Descends before after
  | measures {device : DeviceId} {old new : Node} :
      before.Handles after device old new (4 * old.work) → new.ticks + 1 = old.ticks →
      Descends before after

section Accounts

variable {before after : Network} {device : DeviceId} {old new : Node} {change : Int}

namespace Handles

theorem work_le (handles : before.Handles after device old new change) :
    (after.work : Int) ≤ before.work + change := by
  have nodes := Table.weigh_insert (fun entry => entry.2.work) handles.found new
  have shifts := handles.shifts.load_le
  rw [Backlog.load, Backlog.load] at shifts
  rw [work, work, handles.nodes_eq]
  dsimp only at nodes shifts
  omega

theorem ticks_eq (handles : before.Handles after device old new change) :
    after.ticks + old.ticks = before.ticks + new.ticks := by
  rw [ticks, ticks, handles.nodes_eq]
  exact Table.weigh_insert (fun entry => entry.2.ticks) handles.found new

theorem work_old_le (handles : before.Handles after device old new change) :
    old.work ≤ before.work := by
  have part := le_weigh (fun entry => entry.2.work) (Table.mem_toList.2 handles.found)
  exact Nat.le_trans part (Nat.le_add_left _ _)

end Handles

theorem Descends.budget_lt (descends : before.Descends after) : after.budget < before.budget := by
  cases descends with
  | works handles same =>
      have lighter := handles.work_le
      have ticks := handles.ticks_eq
      have sameTicks : after.ticks = before.ticks := by omega
      rw [budget, budget, sameTicks]
      exact Nat.mul_lt_mul_of_pos_left (by omega) (Nat.pow_pos (by decide))
  | measures handles fewer =>
      have heavier := handles.work_le
      have part := handles.work_old_le
      have ticks := handles.ticks_eq
      have one : before.ticks = after.ticks + 1 := by omega
      rw [budget, budget, one, Nat.pow_succ, Nat.mul_assoc]
      exact Nat.mul_lt_mul_of_pos_left (by omega) (Nat.pow_pos (by decide))

end Accounts

/-! ## Chores that find something -/

section Chores

variable {network : Network} {device : DeviceId} {node : Node}

theorem descends_forward {endpoint : Endpoint} (found : network.nodes[endpoint.device]? = some node)
    {event : TransportEvent Parcel} {rest : List (TransportEvent Parcel)}
    (waits : network.hub.waiting (node.box endpoint.role) = event :: rest) :
    network.Descends (network.forward endpoint) := by
  let box := node.box endpoint.role
  let hub := (network.hub.takeFirst box).2
  have taken : network.hub.takeFirst box = (some event, hub) := by
    simp only [hub, box, Hub.takeFirst, waits]
  have forwarded :
      network.forward endpoint =
        if node.running then
          { network with
            hub
            nodes := network.nodes.insert endpoint.device (node.enqueue event endpoint.role) }
        else { network with hub := hub.abandon box } := by
    rw [forward, found]
    dsimp only
    rw [taken]
  have freed := Backlog.shifts_takeFirst node.work waits
  rw [forwarded]
  split
  · obtain ⟨boxes, _, _, _⟩ := node.same_enqueue event endpoint.role
    refine .works ⟨found, rfl, boxes, ?_⟩ (node.ticks_enqueue event endpoint.role)
    refine freed.rebase rfl rfl ?_
    rw [node.work_enqueue]
    dsimp only
    omega
  · refine .works ⟨found, (Table.insert_eq_self found).symm, fun _ => rfl, ?_⟩ rfl
    exact (freed.trans (Backlog.shifts_abandon hub node.work box)).mono (by omega)

theorem descends_forwardCaptured (found : network.nodes[device]? = some node)
    (waits : node.hardware.captured ≠ []) :
    network.Descends (network.forwardCaptured device) := by
  let taken : Hardware := { node.hardware with captured := [] }
  let queued : Node :=
    { node with
      hardware := taken
      sinkQueue := node.sinkQueue ++ node.hardware.captured.map .captured }
  let ignored : Node := { node with hardware := node.hardware.hangUp }
  have forwarded :
      (network.forwardCaptured device).nodes =
        network.nodes.insert device (if node.running then queued else ignored) := by
    rw [forwardCaptured, nodes_modifyNode found]
    rcases captured : node.hardware.captured with _ | ⟨first, rest⟩
    · exact absurd captured waits
    · simp only [Hardware.take, captured, queued, taken, ignored]
      rfl
  have some : 0 < node.hardware.captured.length := List.length_pos_iff.2 waits
  have work :
      node.work =
        weigh SourceEvent.worth node.sourceQueue + weigh SinkEvent.weight node.sinkQueue +
          node.source.burden + (node.sink.load + 5 * node.hardware.captured.length) :=
    rfl
  by_cases running : node.running
  · rw [if_pos running] at forwarded
    refine .works ⟨found, forwarded, fun role => ?_, .of_kept rfl ?_⟩ rfl
    · cases role <;> rfl
    · have moved := weigh_append SinkEvent.weight node.sinkQueue
        (node.hardware.captured.map .captured)
      rw [weigh_captured] at moved
      have workQueued :
          queued.work =
            weigh SourceEvent.worth node.sourceQueue +
              weigh SinkEvent.weight (node.sinkQueue ++ node.hardware.captured.map .captured) +
              node.source.burden + (node.sink.load + 5 * 0) :=
        rfl
      dsimp only
      omega
  · rw [if_neg running] at forwarded
    refine .works ⟨found, forwarded, fun role => ?_, .of_kept rfl ?_⟩ rfl
    · cases role <;> rfl
    · have workIgnored :
          ignored.work =
            weigh SourceEvent.worth node.sourceQueue + weigh SinkEvent.weight node.sinkQueue +
              node.source.burden + (node.sink.load + 5 * 0) :=
        rfl
      dsimp only
      omega

theorem descends_serveSource (found : network.nodes[device]? = some node) {event : SourceEvent}
    {rest : List SourceEvent} (queue : node.sourceQueue = event :: rest) :
    network.Descends (network.serveSource device) := by
  let turn : Source.Turn (Hub.Port Parcel) :=
    { source := node.source, line := ⟨network.hub, ⟨device, .source⟩⟩ }
  let left := sourceLeft node rest (event.react network.clock turn)
  have work :
      node.work =
        event.worth + weigh SourceEvent.worth rest + weigh SinkEvent.weight node.sinkQueue +
          node.source.burden + node.sink.burden node.hardware := by
    rw [Node.work, queue]
    rfl
  have workLeft :
      left.work =
        weigh SourceEvent.worth rest + weigh SinkEvent.weight node.sinkQueue +
          left.source.burden + node.sink.burden node.hardware :=
    rfl
  have boxes (role : Role) : left.box role = node.box role := by
    cases role <;> rfl
  have kept : turn.backlog.kept = node.source.burden := rfl
  have keptLeft : (event.react network.clock turn).backlog.kept = left.source.burden := rfl
  rw [serveSource_of_queue found queue]
  -- A measurement weighs nothing, so what it sends is paid for by the power of five.
  by_cases measuring : event = .tick
  · have few : node.source.beliefs.size ≤ node.source.burden := Nat.le_add_left _ _
    have spent := turn.shifts_tick network.clock
    subst measuring
    refine .measures ⟨found, rfl, boxes, spent.rebase rfl rfl ?_⟩ ?_
    · change (left.work : Int) + node.source.burden + 4 * node.source.beliefs.size ≤
        node.work + left.source.burden + 4 * node.work
      omega
    · change rest.count .tick + 1 = node.sourceQueue.count .tick
      rw [queue, List.count_cons_self]
  · have spent := turn.shifts_react network.clock measuring
    refine .works ⟨found, rfl, boxes, spent.rebase rfl rfl ?_⟩ ?_
    · change (left.work : Int) + node.source.burden + (event.worth - 1) ≤
        node.work + left.source.burden + -1
      omega
    · change rest.count .tick = node.sourceQueue.count .tick
      rw [queue, List.count_cons_of_ne measuring]

/-- A sink has reacted, and what it reacted to has paid for it. -/
theorem descends_sinkTurn (found : network.nodes[device]? = some node) {queue : List SinkEvent}
    {paid : Nat}
    (taken : weigh SinkEvent.weight node.sinkQueue = paid + weigh SinkEvent.weight queue)
    {act : Sink.Turn (Hub.Port Parcel) Hardware → Sink.Turn (Hub.Port Parcel) Hardware}
    (spent :
      let turn : Sink.Turn (Hub.Port Parcel) Hardware :=
        { sink := node.sink
          line := ⟨network.hub, ⟨device, .sink⟩⟩
          collector := node.hardware }
      Backlog.Shifts (paid - 1) turn.backlog (act turn).backlog) :
    network.Descends (network.sinkTurn device { node with sinkQueue := queue } act) := by
  refine .works ⟨found, rfl, fun role => ?_, spent.rebase rfl rfl ?_⟩ rfl
  · cases role <;> rfl
  · have before : node.work =
        weigh SourceEvent.worth node.sourceQueue + (paid + weigh SinkEvent.weight queue) +
          node.source.burden + node.sink.burden node.hardware := by
      rw [Node.work, taken]
    simp only [Node.work, Sink.Turn.backlog]
    omega

theorem descends_serveSink (found : network.nodes[device]? = some node) {event : SinkEvent}
    {rest : List SinkEvent} (queue : node.sinkQueue = event :: rest) :
    network.Descends (network.serveSink device) := by
  have taken : weigh SinkEvent.weight node.sinkQueue =
      event.weight + weigh SinkEvent.weight rest := by
    rw [queue, weigh]
  rw [serveSink_of_queue found queue]
  exact descends_sinkTurn found taken (Sink.Turn.shifts_react _ event)

theorem descends_flush (found : network.nodes[device]? = some node) {session : SessionId}
    {first : InputEvent} {rest : List InputEvent}
    (waits : node.sink.outbox[session]? = some (first :: rest)) :
    network.Descends (network.flush device) := by
  have taken : weigh SinkEvent.weight node.sinkQueue =
      0 + weigh SinkEvent.weight node.sinkQueue :=
    (Nat.zero_add _).symm
  have flushed :
      network.flush device =
        network.sinkTurn device { node with sinkQueue := node.sinkQueue } Sink.Turn.flush := by
    rw [flush, found]
  rw [flushed]
  exact descends_sinkTurn found taken (Sink.Turn.shifts_flush_of_waiting _ waits)

/-- Whatever a chore finds to do, less is left afterwards. -/
theorem descends_of_awaits {chore : Chore} (awaits : network.awaits chore = true) :
    network.Descends (network.perform chore.move) := by
  obtain ⟨node, found, owes⟩ := (Option.any_eq_true _ _).1 awaits
  cases chore with
  | forward endpoint =>
      rcases waits : network.hub.waiting (node.box endpoint.role) with _ | ⟨event, rest⟩
      · rw [Node.owes, waits] at owes
        cases owes
      · exact descends_forward found waits
  | forwardCaptured device =>
      apply descends_forwardCaptured found
      intro nothing
      rw [Node.owes, nothing] at owes
      cases owes
  | serve endpoint =>
      obtain ⟨device, role⟩ := endpoint
      cases role with
      | source =>
          rcases queue : node.sourceQueue with _ | ⟨event, rest⟩
          · rw [Node.owes, queue] at owes
            cases owes
          · exact descends_serveSource found queue
      | sink =>
          rcases queue : node.sinkQueue with _ | ⟨event, rest⟩
          · rw [Node.owes, queue] at owes
            cases owes
          · exact descends_serveSink found queue
  | flush device =>
      obtain ⟨⟨session, events⟩, listed, waits⟩ := List.any_eq_true.1 owes
      rcases events with _ | ⟨first, rest⟩
      · cases waits
      · exact descends_flush found (Table.mem_toList.1 listed)

end Chores

/-! ## Chores that find nothing -/

section Nothing

variable {network : Network}

theorem flush_of_empty {device : DeviceId} {node : Node}
    (found : network.nodes[device]? = some node)
    (empty : ∀ entry ∈ node.sink.outbox.toList, entry.2 = []) :
    network.flush device = network := by
  let turn : Sink.Turn (Hub.Port Parcel) Hardware :=
    { sink := node.sink, line := ⟨network.hub, ⟨device, .sink⟩⟩, collector := node.hardware }
  have still : turn.flush = turn := by
    apply Sink.Turn.flush_of_empty
    intro session events aside
    exact empty (session, events) (Table.mem_toList.2 aside)
  have same :
      network.nodes.insert device { node with heard := node.heard ++ [] } = network.nodes := by
    rw [List.append_nil]
    exact Table.insert_eq_self found
  rw [flush, found]
  change
    { network with
      hub := turn.flush.line.hub
      nodes :=
        network.nodes.insert device
          { node with
            sink := turn.flush.sink
            hardware := turn.flush.collector
            heard := node.heard ++ turn.flush.notices } } = network
  rw [still]
  exact congrArg (fun nodes => { network with nodes }) same

theorem forward_of_empty {endpoint : Endpoint} {node : Node}
    (found : network.nodes[endpoint.device]? = some node)
    (empty : network.hub.waiting (node.box endpoint.role) = []) :
    network.forward endpoint = network := by
  rw [forward, found]
  dsimp only
  rw [Hub.takeFirst, empty]

theorem forwardCaptured_of_empty {device : DeviceId} {node : Node}
    (found : network.nodes[device]? = some node) (empty : node.hardware.captured = []) :
    network.forwardCaptured device = network := by
  have same : (network.forwardCaptured device).nodes = network.nodes := by
    rw [forwardCaptured, nodes_modifyNode found]
    simp only [Hardware.take, empty]
    exact Table.insert_eq_self found
  exact congrArg (fun nodes => { network with nodes }) same

/-- Where there is no node, no chore does anything. -/
theorem perform_of_unknown {chore : Chore} (unknown : network.nodes[chore.device]? = none) :
    network.perform chore.move = network := by
  cases chore with
  | forward endpoint =>
      change network.nodes[endpoint.device]? = none at unknown
      change network.forward endpoint = network
      rw [forward, unknown]
  | forwardCaptured device => exact modifyNode_of_unknown unknown _
  | serve endpoint =>
      obtain ⟨device, role⟩ := endpoint
      change network.nodes[device]? = none at unknown
      cases role with
      | source =>
          change network.serveSource device = network
          rw [serveSource, unknown]
      | sink =>
          change network.serveSink device = network
          rw [serveSink, unknown]
  | flush device =>
      change network.nodes[device]? = none at unknown
      change network.flush device = network
      rw [flush, unknown]

/-- Where nothing waits, nothing happens. -/
theorem perform_of_not_awaits {chore : Chore} (nothing : network.awaits chore = false) :
    network.perform chore.move = network := by
  rcases found : network.nodes[chore.device]? with _ | node
  · exact perform_of_unknown found
  · rw [awaits, found, Option.any_some] at nothing
    cases chore with
    | forward endpoint =>
        simp only [Node.owes, Bool.not_eq_false', List.isEmpty_iff] at nothing
        exact forward_of_empty found nothing
    | forwardCaptured device =>
        simp only [Node.owes, Bool.not_eq_false', List.isEmpty_iff] at nothing
        exact forwardCaptured_of_empty found nothing
    | serve endpoint =>
        obtain ⟨device, role⟩ := endpoint
        change network.nodes[device]? = some node at found
        cases role with
        | source =>
            simp only [Node.owes, Bool.not_eq_false', List.isEmpty_iff] at nothing
            apply serveSource_of_idle
            rw [nextOfSource?, found, Option.bind_some, nothing, List.head?_nil]
        | sink =>
            simp only [Node.owes, Bool.not_eq_false', List.isEmpty_iff] at nothing
            apply serveSink_of_idle
            rw [nextOfSink?, found, Option.bind_some, nothing, List.head?_nil]
    | flush device =>
        apply flush_of_empty found
        intro entry listed
        have quiet := List.any_eq_false.1 nothing entry listed
        simpa using quiet

end Nothing

end Network

end InputSharing
