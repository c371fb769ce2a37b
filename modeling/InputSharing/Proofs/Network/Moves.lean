import InputSharing.Proofs.Network.Tickets

/-!
# Moves without reactions

The user, the hardware and the clock add to the queues of nodes, and events go
from mailboxes to queues.  None of this changes what a scene shows.
-/

namespace InputSharing

/-- A change of a node that no scene shows, though calls may be added. -/
structure Node.Adds (old new : Node) (more : List Ticket) : Prop where
  boxes_eq : ∀ role, new.box role = old.box role
  running_eq : new.running = old.running
  source_eq : new.source = old.source
  registry_eq : new.sink.registry = old.sink.registry
  received_eq : ∀ role, new.received role = old.received role
  tickets_perm : new.tickets.Perm (more ++ old.tickets)

namespace Trace

/-- After a move all is as it should be. -/
structure Advances (trace : Trace) (move : Move) : Prop where
  depicted : ∃ scene : Scene, scene.Depicts (trace.perform move) ∧ scene.Consistent none []
  tickets_perm :
    (trace.network.perform move).tickets.Perm (move.ticket?.toList ++ trace.network.tickets)
  warranted :
    ∃ ended, (trace.network.perform move).completions = trace.network.completions ++ ended ∧
      ∀ completion ∈ ended, trace.Warrants completion move

namespace Advances

variable {scene : Scene} {trace : Trace} {move : Move}

theorem still (depicts : scene.Depicts trace) (consistent : scene.Consistent none [])
    (noEvent : trace.network.takes? move = none)
    (hub : (trace.network.perform move).hub = trace.network.hub)
    (nodes : (trace.network.perform move).nodes = trace.network.nodes)
    {ended : List (Completion Grant)}
    (completions :
      (trace.network.perform move).completions = trace.network.completions ++ ended)
    (tickets : ended.map Completion.ticket = move.ticket?.toList)
    (warranted : ∀ completion ∈ ended, trace.Warrants completion move) :
    trace.Advances move where
  depicted := ⟨scene, depicts.still noEvent hub nodes, consistent⟩
  tickets_perm := by
    rw [Network.tickets, Network.tickets, completions, nodes, List.map_append, tickets,
      ← List.append_assoc]
    exact List.perm_append_comm.append_right _
  warranted := ⟨ended, completions, warranted⟩

/-- Nothing at all has happened. -/
theorem idle (depicts : scene.Depicts trace) (consistent : scene.Consistent none [])
    (noEvent : trace.network.takes? move = none) (noTicket : move.ticket? = none)
    (same : trace.network.perform move = trace.network) : trace.Advances move := by
  have completions :
      (trace.network.perform move).completions = trace.network.completions ++ [] := by
    rw [same, List.append_nil]
  refine still depicts consistent noEvent ?_ ?_ completions ?_ (List.forall_mem_nil _)
  · rw [same]
  · rw [same]
  · rw [noTicket]
    rfl

theorem change (depicts : scene.Depicts trace) (consistent : scene.Consistent none [])
    (noEvent : trace.network.takes? move = none) {device : DeviceId} {old new : Node}
    (found : trace.network.nodes[device]? = some old)
    (adds : old.Adds new move.ticket?.toList)
    (hub : (trace.network.perform move).hub = trace.network.hub)
    (nodes : (trace.network.perform move).nodes = trace.network.nodes.insert device new)
    (completions : (trace.network.perform move).completions = trace.network.completions) :
    trace.Advances move := by
  have changes : trace.network.Changes (trace.network.perform move) device old new :=
    ⟨found, nodes, adds.boxes_eq, adds.running_eq, congrArg Source.device adds.source_eq⟩
  have none : (trace.network.perform move).completions = trace.network.completions ++ [] := by
    rw [completions, List.append_nil]
  have depicted :=
    depicts.change noEvent hub changes adds.source_eq adds.registry_eq adds.received_eq
  exact ⟨⟨scene, depicted, consistent⟩,
    Network.tickets_of_changes changes none adds.tickets_perm, [], none, List.forall_mem_nil _⟩

end Advances

end Trace

namespace Network

variable {network : Network} {device : DeviceId}

theorem nodes_modifyNode {node : Node} (found : network.nodes[device]? = some node)
    (change : Node → Node) :
    (network.modifyNode device change).nodes = network.nodes.insert device (change node) :=
  Table.modify_eq_insert found

theorem modifyNode_of_unknown (unknown : network.nodes[device]? = none) (change : Node → Node) :
    network.modifyNode device change = network := by
  have unchanged : network.nodes.modify device change = network.nodes := by
    apply Table.modify_eq_self
    intro node found
    rw [unknown] at found
    cases found
  rw [modifyNode, unchanged]

end Network

/-! ## What comes to wait at a node -/

namespace Node

variable (node : Node)

theorem adds_sourceEvent (event : SourceEvent) (noEvent : event.transport? = none) :
    node.Adds { node with sourceQueue := node.sourceQueue ++ [event] }
      event.ticket?.toList where
  boxes_eq := by
    intro role
    cases role <;> rfl
  running_eq := rfl
  source_eq := rfl
  registry_eq := rfl
  received_eq := by
    intro role
    cases role with
    | sink => rfl
    | source =>
        change (node.sourceQueue ++ [event]).filterMap _ = _
        rw [List.filterMap_append, List.filterMap_cons_none noEvent]
        exact List.append_nil _
  tickets_perm := by
    change (node.source.pending.tickets ++ (node.sourceQueue ++ [event]).filterMap _).Perm _
    have last : [event].filterMap SourceEvent.ticket? = event.ticket?.toList := by
      cases event <;> rfl
    rw [List.filterMap_append, last, ← List.append_assoc]
    exact List.perm_append_comm

theorem adds_sinkEvents {events : List SinkEvent}
    (noEvent : events.filterMap SinkEvent.transport? = []) (hardware : Hardware) :
    node.Adds { node with hardware, sinkQueue := node.sinkQueue ++ events } [] where
  boxes_eq := by
    intro role
    cases role <;> rfl
  running_eq := rfl
  source_eq := rfl
  registry_eq := rfl
  received_eq := by
    intro role
    cases role with
    | source => rfl
    | sink =>
        change (node.sinkQueue ++ events).filterMap _ = _
        rw [List.filterMap_append, noEvent]
        exact List.append_nil _
  tickets_perm := List.Perm.refl _

theorem adds_hardware (hardware : Hardware) : node.Adds { node with hardware } [] where
  boxes_eq := by
    intro role
    cases role <;> rfl
  running_eq := rfl
  source_eq := rfl
  registry_eq := rfl
  received_eq := by
    intro role
    cases role <;> rfl
  tickets_perm := List.Perm.refl _

end Node

/-! ## Moves of the user, the hardware and the clock -/

/-- No node has been shut down. -/
def Network.AllRun (network : Network) : Prop :=
  ∀ ⦃device : DeviceId⦄ ⦃node : Node⦄, network.nodes[device]? = some node → node.running = true

/-- Nobody reacts, and nothing leaves a mailbox. -/
def Move.isQuiet : Move → Bool
  | forward _ | serve _ | flush _ => false
  | _ => true

/-- All that such a move can do: calls end at once where there is no node for them,
or something comes to wait at one node that is not an event of the transport. -/
inductive Network.Stays (network : Network) (move : Move) : Prop
  | ends {ended : List (Completion Grant)} :
      (network.perform move).hub = network.hub →
      (network.perform move).nodes = network.nodes →
      (network.perform move).completions = network.completions ++ ended →
      ended.map Completion.ticket = move.ticket?.toList →
      (∀ completion ∈ ended, completion.result = .error .disconnected) →
      Stays network move
  | adds {device : DeviceId} {old new : Node} :
      network.nodes[device]? = some old → old.Adds new move.ticket?.toList →
      new.sink = old.sink → new.injector = old.injector →
      (network.perform move).hub = network.hub →
      (network.perform move).nodes = network.nodes.insert device new →
      (network.perform move).completions = network.completions →
      Stays network move

namespace Network

variable {network : Network} {device : DeviceId} {move : Move}

theorem running?_of_running {node : Node} (found : network.nodes[device]? = some node)
    (running : node.running = true) : network.running? device = some node := by
  rw [running?, found]
  exact Option.filter_eq_some_iff.2 ⟨rfl, running⟩

theorem running?_of_unknown (unknown : network.nodes[device]? = none) :
    network.running? device = none := by
  rw [running?, unknown]
  rfl

theorem stays_of_same (noTicket : move.ticket? = none) (same : network.perform move = network) :
    network.Stays move := by
  have completions : (network.perform move).completions = network.completions ++ [] := by
    rw [same, List.append_nil]
  refine .ends ?_ ?_ completions ?_ (List.forall_mem_nil _)
  · rw [same]
  · rw [same]
  · rw [noTicket]
    rfl

/-- A move of a node may do nothing where there is no such node. -/
theorem stays_modifyNode (noTicket : move.ticket? = none) {change : Node → Node}
    (performs : network.perform move = network.modifyNode device change)
    (adds :
      ∀ node, network.nodes[device]? = some node →
        node.Adds (change node) [] ∧ (change node).sink = node.sink ∧
          (change node).injector = node.injector) :
    network.Stays move := by
  cases found : network.nodes[device]? with
  | none =>
      apply stays_of_same noTicket
      rw [performs, modifyNode_of_unknown found]
  | some node =>
      obtain ⟨added, sink, injector⟩ := adds node found
      refine .adds found ?_ sink injector ?_ ?_ ?_
      · rw [noTicket]
        exact added
      · rw [performs]
        rfl
      · rw [performs]
        exact nodes_modifyNode found change
      · rw [performs]
        rfl

theorem stays_call (running : network.AllRun) (device : DeviceId) (ticket : Ticket)
    (wanted : Call) : network.Stays (.call device ticket wanted) := by
  cases found : network.nodes[device]? with
  | none =>
      have ends :
          network.perform (.call device ticket wanted) =
            { network with
              completions := network.completions ++ [⟨ticket, .error .disconnected⟩] } := by
        rw [perform, Network.call, running?_of_unknown found]
      have completions := congrArg Network.completions ends
      refine .ends ?_ ?_ completions rfl ?_
      · rw [ends]
      · rw [ends]
      · intro completion listed
        rw [List.mem_singleton.1 listed]
  | some node =>
      have waits :
          network.perform (.call device ticket wanted) =
            network.modifyNode device fun node =>
              { node with sourceQueue := node.sourceQueue ++ [.call ticket wanted] } := by
        rw [perform, Network.call, running?_of_running found (running found)]
      refine .adds found (node.adds_sourceEvent (.call ticket wanted) rfl) rfl rfl ?_ ?_ ?_
      · rw [waits]
        rfl
      · rw [waits]
        exact nodes_modifyNode found _
      · rw [waits]
        rfl

theorem stays_listen (running : network.AllRun) (device : DeviceId) :
    network.Stays (.listen device) := by
  cases found : network.nodes[device]? with
  | none =>
      apply stays_of_same rfl
      rw [perform, Network.listen, running?_of_unknown found]
  | some node =>
      have performs :
          network.perform (.listen device) =
            network.modifyNode device fun node =>
              { node with sinkQueue := node.sinkQueue ++ [.listen] } := by
        rw [perform, Network.listen, running?_of_running found (running found)]
      apply stays_modifyNode rfl performs
      intro node _
      exact ⟨node.adds_sinkEvents rfl node.hardware, rfl, rfl⟩

theorem stays_forwardCaptured (running : network.AllRun) (device : DeviceId) :
    network.Stays (.forwardCaptured device) := by
  apply stays_modifyNode rfl rfl
  intro node found
  split
  · exact ⟨node.adds_hardware node.hardware, rfl, rfl⟩
  · rw [if_pos (running found)]
    refine ⟨node.adds_sinkEvents ?_ _, rfl, rfl⟩
    rw [List.filterMap_map, List.filterMap_eq_nil_iff]
    intro event _
    rfl

theorem stays_emit (device : DeviceId) (events : List InputEvent) :
    network.Stays (.emit device events) := by
  cases found : network.nodes[device]? with
  | none =>
      apply stays_of_same rfl
      rw [perform, Network.emit, found]
  | some node =>
      have emitted :
          network.perform (.emit device events) =
            { network with
              nodes :=
                network.nodes.insert device
                  { node with hardware := (node.hardware.emitAll events).2 } } := by
        rw [perform, Network.emit, found]
      refine .adds found (node.adds_hardware (node.hardware.emitAll events).2) rfl rfl ?_ ?_ ?_
      · rw [emitted]
      · rw [emitted]
      · rw [emitted]

theorem stays_failNextStart (device : DeviceId) : network.Stays (.failNextStart device) := by
  apply stays_modifyNode rfl rfl
  intro node _
  exact ⟨node.adds_hardware _, rfl, rfl⟩

theorem stays_tick (device : DeviceId) : network.Stays (.tick device) := by
  apply stays_modifyNode rfl rfl
  intro node _
  have adds := node.adds_sourceEvent .tick rfl
  exact ⟨⟨adds.boxes_eq, rfl, rfl, rfl, adds.received_eq, adds.tickets_perm⟩, rfl, rfl⟩

/-- Where every node runs, a move to which nobody reacts does no more than that. -/
theorem stays_of_quiet (running : network.AllRun) (quiet : move.isQuiet = true) :
    network.Stays move := by
  cases move with
  | call device ticket wanted => exact stays_call running device ticket wanted
  | listen device => exact stays_listen running device
  | forwardCaptured device => exact stays_forwardCaptured running device
  | emit device events => exact stays_emit device events
  | failNextStart device => exact stays_failNextStart device
  | tick device => exact stays_tick device
  | pass ms => exact .ends rfl rfl (List.append_nil _).symm rfl (List.forall_mem_nil _)
  | setClock time => exact .ends rfl rfl (List.append_nil _).symm rfl (List.forall_mem_nil _)
  | forward endpoint => cases quiet
  | serve endpoint => cases quiet
  | flush device => cases quiet

end Network

namespace Trace

variable {scene : Scene} {trace : Trace}

theorem allRun_of_depicts (depicts : scene.Depicts trace) : trace.network.AllRun :=
  fun _ _ found => (depicts.draws found).running

theorem advances_quiet (depicts : scene.Depicts trace) (consistent : scene.Consistent none [])
    {move : Move} (quiet : move.isQuiet = true) : trace.Advances move := by
  have noEvent : trace.network.takes? move = none := by
    cases move with
    | serve endpoint => cases quiet
    | _ => rfl
  cases Network.stays_of_quiet (allRun_of_depicts depicts) quiet with
  | ends hub nodes completions tickets disconnected =>
      apply Advances.still depicts consistent noEvent hub nodes completions tickets
      intro completion listed
      exact .disconnection (disconnected completion listed)
  | adds found adds _ _ hub nodes completions =>
      exact Advances.change depicts consistent noEvent found adds hub nodes completions

end Trace

/-! ## From a mailbox to a queue -/

namespace Node

variable (node : Node) (event : TransportEvent Parcel)

theorem received_enqueue_self (role : Role) :
    (node.enqueue event role).received role = node.received role ++ [event] := by
  cases role with
  | source => exact List.filterMap_append
  | sink => exact List.filterMap_append

theorem received_enqueue_of_ne {role other : Role} (different : other ≠ role) :
    (node.enqueue event role).received other = node.received other := by
  cases role with
  | source =>
      cases other with
      | source => exact absurd rfl different
      | sink => rfl
  | sink =>
      cases other with
      | source => rfl
      | sink => exact absurd rfl different

theorem tickets_enqueue (role : Role) : (node.enqueue event role).tickets = node.tickets := by
  cases role with
  | sink => rfl
  | source =>
      change _ ++ (node.sourceQueue ++ [_]).filterMap _ = _
      rw [List.filterMap_append]
      exact congrArg _ (List.append_nil _)

/-- Events of the transport change nothing but what is received. -/
theorem same_enqueue (role : Role) :
    (∀ tested, (node.enqueue event role).box tested = node.box tested) ∧
      (node.enqueue event role).running = node.running ∧
      (node.enqueue event role).source = node.source ∧
      (node.enqueue event role).sink = node.sink := by
  cases role with
  | source => exact ⟨fun tested => by cases tested <;> rfl, rfl, rfl, rfl⟩
  | sink => exact ⟨fun tested => by cases tested <;> rfl, rfl, rfl, rfl⟩

end Node

namespace Network

/-- What leaves a mailbox for the queue of its node is still to be reacted to. -/
theorem events_of_forward {network : Network} {device : DeviceId} {role : Role} {node : Node}
    {event : TransportEvent Parcel} {rest : List (TransportEvent Parcel)} {hub : Hub Parcel}
    (found : network.nodes[device]? = some node)
    (taken : Hub.Taken ⟨device, role⟩ network.hub hub)
    (mail : network.hub.mail ⟨device, role⟩ = event :: rest) (endpoint : Endpoint) :
    network.heldWith device (node.enqueue event role) endpoint ++ hub.mail endpoint =
      network.held endpoint ++ network.hub.mail endpoint := by
  rw [taken.mail_eq, heldWith]
  by_cases same : endpoint = ⟨device, role⟩
  · rw [same, if_pos rfl, Function.update_self, node.received_enqueue_self, mail,
      held_of_node found, List.append_assoc]
    rfl
  · rw [Function.update_of_ne same]
    split
    · next here =>
      obtain ⟨tested, other⟩ := endpoint
      change tested = device at here
      rw [here] at same ⊢
      have different : other ≠ role := fun equal => same (congrArg _ equal)
      rw [node.received_enqueue_of_ne event different, held_of_node found]
    · rfl

/-- All that happens when an endpoint looks into its mailbox: nothing, or the first event
goes to the queue of its node. -/
inductive Forwards (network : Network) (device : DeviceId) (role : Role) : Prop
  | nothing : network.forward ⟨device, role⟩ = network → Forwards network device role
  | event {node : Node} {event : TransportEvent Parcel} {rest : List (TransportEvent Parcel)}
      {hub : Hub Parcel} :
      network.nodes[device]? = some node →
      network.hub.mail ⟨device, role⟩ = event :: rest →
      Hub.Taken ⟨device, role⟩ network.hub hub →
      network.forward ⟨device, role⟩ =
        { network with
          hub
          nodes := network.nodes.insert device (node.enqueue event role) } →
      Forwards network device role

theorem forwards {network : Network} (sound : network.hub.Sound) (running : network.AllRun)
    (boxes :
      ∀ {device node}, network.nodes[device]? = some node → ∀ role,
        network.hub.directory[(⟨device, role⟩ : Endpoint)]? = some (node.box role))
    (device : DeviceId) (role : Role) : network.Forwards device role := by
  cases found : network.nodes[device]? with
  | none =>
      apply Forwards.nothing
      rw [forward]
      dsimp only
      rw [found]
  | some node =>
      have box := boxes found role
      cases mail : network.hub.mail ⟨device, role⟩ with
      | nil =>
          have empty : network.hub.waiting (node.box role) = [] :=
            (Hub.mail_of_box box).symm.trans mail
          apply Forwards.nothing
          rw [forward]
          dsimp only
          rw [found]
          dsimp only
          rw [Hub.takeFirst, empty]
      | cons event rest =>
          obtain ⟨hub, took, taken⟩ := Hub.takeFirst_of_mail sound box mail
          apply Forwards.event found mail taken
          rw [forward]
          dsimp only
          rw [found]
          dsimp only
          rw [took]
          dsimp only
          rw [if_pos (running found)]

end Network

namespace Trace

variable {scene : Scene} {trace : Trace}

/-- In a scene it stays where it is. -/
theorem depicts_forward (depicts : scene.Depicts trace) {device : DeviceId} {role : Role}
    {node : Node} {event : TransportEvent Parcel} {rest : List (TransportEvent Parcel)}
    (changes :
      trace.network.Changes (trace.network.perform (.forward ⟨device, role⟩)) device node
        (node.enqueue event role))
    (taken :
      Hub.Taken ⟨device, role⟩ trace.network.hub
        (trace.network.perform (.forward ⟨device, role⟩)).hub)
    (mail : trace.network.hub.mail ⟨device, role⟩ = event :: rest) :
    scene.Depicts (trace.perform (.forward ⟨device, role⟩)) where
  sound := taken.sound
  directory_iff := by
    intro endpoint
    change endpoint ∈ (trace.network.perform (.forward ⟨device, role⟩)).hub.directory ↔
      _ ∈ (trace.network.perform (.forward ⟨device, role⟩)).nodes
    rw [taken.directory_eq, changes.mem_iff]
    exact depicts.directory_iff endpoint
  draws := by
    intro tested other found
    have sameBoxes := taken.directory_eq
    change (trace.network.perform (.forward ⟨device, role⟩)).nodes[tested]? = _ at found
    by_cases same : tested = device
    · obtain ⟨boxes, running, source, sink⟩ := node.same_enqueue event role
      have drawn := depicts.draws changes.found
      rw [same, changes.nodes_self] at found
      rw [same, ← Option.some.inj found]
      refine ⟨?_, running.trans drawn.running, ?_, ?_, ?_⟩
      · intro half
        change (trace.network.perform (.forward ⟨device, role⟩)).hub.directory[_]? = _
        rw [sameBoxes, boxes]
        exact drawn.box_eq half
      · rw [source]
        exact drawn.named
      · rw [source]
        exact drawn.standing_eq
      · rw [sink]
        exact drawn.knows_iff
    · rw [changes.nodes_of_ne same] at found
      obtain ⟨boxes, running, named, standing, knows⟩ := depicts.draws found
      refine ⟨?_, running, named, standing, knows⟩
      intro half
      change (trace.network.perform (.forward ⟨device, role⟩)).hub.directory[_]? = _
      rw [sameBoxes]
      exact boxes half
  registered_iff := by
    intro tested
    exact (depicts.registered_iff tested).trans (changes.mem_iff tested).symm
  links_eq := by
    intro session
    change (trace.network.perform (.forward ⟨device, role⟩)).hub.links[session]? = _
    rw [taken.links_eq]
    exact depicts.links_eq session
  last_eq := taken.lastSession_eq.trans depicts.last_eq
  events_eq := by
    intro endpoint
    change _ = (trace.network.perform (.forward ⟨device, role⟩)).held endpoint ++
      (trace.network.perform (.forward ⟨device, role⟩)).hub.mail endpoint
    rw [depicts.events_eq, changes.held_eq]
    exact (Network.events_of_forward changes.found taken mail endpoint).symm
  causes_eq := depicts.causes_eq

theorem advances_forward (depicts : scene.Depicts trace) (consistent : scene.Consistent none [])
    (endpoint : Endpoint) : trace.Advances (.forward endpoint) := by
  obtain ⟨device, role⟩ := endpoint
  have boxes {tested : DeviceId} {node : Node}
      (found : trace.network.nodes[tested]? = some node) :=
    (depicts.draws found).box_eq
  cases Network.forwards depicts.sound (allRun_of_depicts depicts) boxes device role with
  | nothing same => exact Advances.idle depicts consistent rfl rfl same
  | @event node event rest hub found mail taken performs =>
      have performed :
          trace.network.perform (.forward ⟨device, role⟩) =
            { trace.network with
              hub
              nodes := trace.network.nodes.insert device (node.enqueue event role) } :=
        performs
      obtain ⟨sameBoxes, running, source, sink⟩ := node.same_enqueue event role
      have changes :
          trace.network.Changes (trace.network.perform (.forward ⟨device, role⟩)) device node
            (node.enqueue event role) := by
        refine ⟨found, ?_, sameBoxes, running, congrArg Source.device source⟩
        rw [performed]
      have arrived :
          Hub.Taken ⟨device, role⟩ trace.network.hub
            (trace.network.perform (.forward ⟨device, role⟩)).hub := by
        rw [performed]
        exact taken
      refine ⟨⟨scene, depicts_forward depicts changes arrived mail, consistent⟩, ?_, [], ?_,
        List.forall_mem_nil _⟩
      · apply Network.tickets_of_changes changes
        · rw [performed, List.append_nil]
        · rw [node.tickets_enqueue]
          exact List.Perm.refl _
      · rw [performed, List.append_nil]

end Trace

end InputSharing
