import InputSharing.Proofs.Network.Moves
import InputSharing.Proofs.Network.SinkReactions
import InputSharing.Proofs.Network.SourceCalls

/-!
# Moves that are reactions

One half of a node reacts to the first event of its queue, or a sink sends what
it has put aside.  The scene that the reaction leaves is that of the network
after the move.
-/

namespace InputSharing

namespace Network

theorem heldWith_congr {network : Network} {device : DeviceId} {first second : Node}
    (received : ∀ role, first.received role = second.received role) :
    network.heldWith device first = network.heldWith device second := by
  funext endpoint
  rw [heldWith, heldWith, received]

/-- What is held by a node from whose queue the first event of the transport is taken. -/
theorem heldWith_of_taken {network : Network} {device : DeviceId} {old new : Node} {role : Role}
    {left : List (TransportEvent Parcel)} (found : network.nodes[device]? = some old)
    (received : new.received role = left)
    (others : ∀ other, other ≠ role → new.received other = old.received other)
    (tested : Endpoint) :
    network.heldWith device new tested =
      if tested = ⟨device, role⟩ then left else network.held tested := by
  obtain ⟨named, half⟩ := tested
  rw [heldWith]
  by_cases here : named = device
  · rw [if_pos here, here]
    by_cases same : half = role
    · rw [same, if_pos rfl]
      exact received
    · have different : (⟨device, half⟩ : Endpoint) ≠ ⟨device, role⟩ := by
        intro equal
        exact same (congrArg Endpoint.role equal)
      rw [if_neg different, held_of_node found]
      exact others half same
  · have different : (⟨named, half⟩ : Endpoint) ≠ ⟨device, role⟩ := by
      intro equal
      exact here (congrArg Endpoint.device equal)
    rw [if_neg here, if_neg different]

/-! ## Serving a queue -/

section Queues

variable {network : Network} {device : DeviceId} {node : Node} {event : TransportEvent Parcel}

theorem held_of_sourceQueue (found : network.nodes[device]? = some node) {rest : List SourceEvent}
    (queue : node.sourceQueue = .transport event :: rest) :
    network.held ⟨device, .source⟩ = event :: rest.filterMap SourceEvent.transport? := by
  rw [held_of_node found, Node.received, queue]
  rfl

theorem heldWith_of_sourceQueue (found : network.nodes[device]? = some node)
    (rest : List SourceEvent) (tested : Endpoint) :
    network.heldWith device { node with sourceQueue := rest } tested =
      if tested = ⟨device, .source⟩ then rest.filterMap SourceEvent.transport?
      else network.held tested := by
  apply heldWith_of_taken found rfl
  intro other different
  cases other with
  | source => exact absurd rfl different
  | sink => rfl

theorem held_of_sinkQueue (found : network.nodes[device]? = some node) {rest : List SinkEvent}
    (queue : node.sinkQueue = .transport event :: rest) :
    network.held ⟨device, .sink⟩ = event :: rest.filterMap SinkEvent.transport? := by
  rw [held_of_node found, Node.received, queue]
  rfl

theorem heldWith_of_sinkQueue (found : network.nodes[device]? = some node)
    (rest : List SinkEvent) (tested : Endpoint) :
    network.heldWith device { node with sinkQueue := rest } tested =
      if tested = ⟨device, .sink⟩ then rest.filterMap SinkEvent.transport?
      else network.held tested := by
  apply heldWith_of_taken found rfl
  intro other different
  cases other with
  | source => rfl
  | sink => exact absurd rfl different

end Queues

section Serving

open Hub (Port)

variable {network : Network} {device : DeviceId} {node : Node}

theorem serveSource_of_idle (nothing : network.nextOfSource? device = none) :
    network.serveSource device = network := by
  rw [serveSource]
  cases found : network.nodes[device]? with
  | none => rfl
  | some node =>
      rw [nextOfSource?, found, Option.bind_some, List.head?_eq_none_iff] at nothing
      dsimp only
      rw [nothing]

theorem exists_of_nextOfSource? {event : SourceEvent}
    (next : network.nextOfSource? device = some event) :
    ∃ node rest, network.nodes[device]? = some node ∧ node.sourceQueue = event :: rest := by
  obtain ⟨node, found, first⟩ := Option.bind_eq_some_iff.1 next
  obtain ⟨rest, queue⟩ := List.head?_eq_some_iff.1 first
  exact ⟨node, rest, found, queue⟩

theorem serveSink_of_idle (nothing : network.nextOfSink? device = none) :
    network.serveSink device = network := by
  rw [serveSink]
  cases found : network.nodes[device]? with
  | none => rfl
  | some node =>
      rw [nextOfSink?, found, Option.bind_some, List.head?_eq_none_iff] at nothing
      dsimp only
      rw [nothing]

theorem exists_of_nextOfSink? {event : SinkEvent}
    (next : network.nextOfSink? device = some event) :
    ∃ node rest, network.nodes[device]? = some node ∧ node.sinkQueue = event :: rest := by
  obtain ⟨node, found, first⟩ := Option.bind_eq_some_iff.1 next
  obtain ⟨rest, queue⟩ := List.head?_eq_some_iff.1 first
  exact ⟨node, rest, found, queue⟩

/-- What a node becomes whose source has reacted. -/
def sourceLeft (node : Node) (rest : List SourceEvent) (turn : Source.Turn (Port Parcel)) : Node :=
  { node with
    source := turn.source
    sourceQueue := rest
    injector := node.injector.injectAll turn.injections }

theorem serveSource_of_queue (found : network.nodes[device]? = some node) {event : SourceEvent}
    {rest : List SourceEvent} (queue : node.sourceQueue = event :: rest) :
    let turn :=
      event.react network.clock { source := node.source, line := ⟨network.hub, ⟨device, .source⟩⟩ }
    network.serveSource device =
      { network with
        hub := turn.line.hub
        nodes := network.nodes.insert device (sourceLeft node rest turn)
        completions := network.completions ++ turn.completions } := by
  rw [serveSource, found]
  dsimp only
  rw [queue]
  rfl

theorem serveSink_of_queue (found : network.nodes[device]? = some node) {event : SinkEvent}
    {rest : List SinkEvent} (queue : node.sinkQueue = event :: rest) :
    network.serveSink device =
      network.sinkTurn device { node with sinkQueue := rest } fun turn => event.react turn := by
  rw [serveSink, found]
  dsimp only
  rw [queue]

end Serving

end Network

namespace Trace

variable {scene : Scene} {trace : Trace}

theorem hasRoom (depicts : scene.Depicts trace) (room : trace.network.HasRoom) :
    scene.HasRoom := by
  rw [Scene.HasRoom, ← depicts.last_eq]
  exact room.sessions

/-! ## Sources -/

section Sources

open Hub (Port)

variable (trace) (scene) (device : DeviceId) (node : Node)

/-- A source is about to react. -/
def sourceSetting : Setting where
  base := scene
  directory := trace.network.hub.directory
  held := trace.network.heldWith device node
  origins := trace.kept (.serve ⟨device, .source⟩)
  cause := ⟨trace.dealtWith ⟨device, .source⟩, ⟨device, .source⟩⟩
  ends completion := trace.Warrants completion (.serve ⟨device, .source⟩)

/-- The turn with which a source begins. -/
def sourceTurn : Source.Turn (Port Parcel) :=
  { source := node.source, line := ⟨trace.network.hub, ⟨device, .source⟩⟩ }

variable {trace scene device node}

theorem staged_sourceTurn (depicts : scene.Depicts trace) {old : Node}
    (found : trace.network.nodes[device]? = some node) {current : Scene}
    (sources : current.sources = scene.sources) (sinks : current.sinks = scene.sinks)
    (registered : current.registered = scene.registered)
    (shows : current.Shows (trace.sourceSetting scene device old) trace.network.hub) :
    Source.Turn.Staged (trace.sourceSetting scene device old) device current
      (trace.sourceTurn device node) where
  shows := shows
  here_eq := rfl
  sender_eq := rfl
  device_eq := (depicts.draws found).named
  standing_eq := by
    rw [sources]
    exact (depicts.draws found).standing_eq
  others_eq := by
    intro other _
    rw [sources]
    rfl
  sinks_eq := sinks
  registered_eq := registered
  credited := List.forall_mem_nil _

/-- A source reacts to an event of the transport. -/
theorem rests_transport (depicts : scene.Depicts trace) (consistent : scene.Consistent none [])
    (room : trace.network.HasRoom) (found : trace.network.nodes[device]? = some node)
    {event : TransportEvent Parcel} {rest : List SourceEvent}
    (queue : node.sourceQueue = .transport event :: rest) :
    Source.Turn.Rests (trace.sourceSetting scene device { node with sourceQueue := rest }) device
      ((SourceEvent.transport event).react trace.network.clock (trace.sourceTurn device node)) := by
  let popped : Node := { node with sourceQueue := rest }
  have next := Network.nextOfSource?_of_queue found queue
  have takes :
      trace.network.takes? (.serve ⟨device, .source⟩) = some ⟨device, .source⟩ := by
    rw [Network.takes?, next]
    rfl
  have first := Network.held_of_sourceQueue found queue
  have held (tested : Endpoint) :
      (trace.sourceSetting scene device popped).held tested =
        if tested = ⟨device, .source⟩ then rest.filterMap SourceEvent.transport?
        else trace.network.held tested :=
    Network.heldWith_of_sourceQueue found rest tested
  obtain ⟨letter, later, waiting, isEvent, origin, shows⟩ :=
    depicts.shows_take first rfl held (kept_of_takes takes)
  have dealt : trace.dealtWith ⟨device, .source⟩ = letter.cause.call := by
    rw [dealtWith, next]
    dsimp only
    rw [origin]
    rfl
  have standing := (depicts.draws found).standing_eq
  have taking :
      Source.Turn.Taking (trace.sourceSetting scene device popped) device scene letter
        (trace.sourceTurn device node) := by
    refine ⟨consistent, ⟨later, waiting⟩, dealt.symm, ?_,
      staged_sourceTurn depicts found rfl rfl rfl shows⟩
    intro call ticket outcome listed answers cause
    rw [isEvent] at answers
    rw [cause] at origin
    rw [standing] at listed
    exact Warrants.answer found next listed answers origin
  have here : scene.registered device :=
    (depicts.registered_iff device).2 (Table.mem_of_getElem? found)
  rw [← isEvent]
  exact taking.rests_transport (hasRoom depicts room) (room.tokens found) here _

/-- A source reacts to something else. -/
theorem shows_local (depicts : scene.Depicts trace)
    (found : trace.network.nodes[device]? = some node) {event : SourceEvent}
    {rest : List SourceEvent} (queue : node.sourceQueue = event :: rest)
    (noEvent : event.transport? = none) :
    scene.Shows (trace.sourceSetting scene device { node with sourceQueue := rest })
      trace.network.hub := by
  have takes : trace.network.takes? (.serve ⟨device, .source⟩) = none := by
    rw [Network.takes?, Network.nextOfSource?_of_queue found queue, Option.bind_some, noEvent]
    rfl
  apply depicts.shows rfl
  · apply Network.heldWith_of_received found
    intro role
    cases role with
    | sink => rfl
    | source =>
        change rest.filterMap _ = node.sourceQueue.filterMap _
        rw [queue, List.filterMap_cons_none noEvent]
  · exact kept_of_takes_none takes

theorem rests_react (depicts : scene.Depicts trace) (consistent : scene.Consistent none [])
    (room : trace.network.HasRoom) (found : trace.network.nodes[device]? = some node)
    {event : SourceEvent} {rest : List SourceEvent}
    (queue : node.sourceQueue = event :: rest) :
    Source.Turn.Rests (trace.sourceSetting scene device { node with sourceQueue := rest }) device
      (event.react trace.network.clock (trace.sourceTurn device node)) := by
  have next := Network.nextOfSource?_of_queue found queue
  cases event with
  | transport event => exact rests_transport depicts consistent room found queue
  | tick =>
      have shows := shows_local depicts found queue rfl
      exact (staged_sourceTurn depicts found rfl rfl rfl shows).rests_tick consistent _
  | call ticket wanted =>
      have shows := shows_local depicts found queue rfl
      have here : scene.registered device :=
        (depicts.registered_iff device).2 (Table.mem_of_getElem? found)
      have dealt : trace.dealtWith ⟨device, .source⟩ = some ticket := by
        rw [dealtWith, next]
      have deals :
          (trace.sourceSetting scene device { node with sourceQueue := rest }).DealsWith
            ticket := by
        refine ⟨dealt, ?_⟩
        intro error
        exact Warrants.refusal next rfl
      exact (staged_sourceTurn depicts found rfl rfl rfl shows).rests_call consistent
        (hasRoom depicts room) here deals wanted

theorem tickets_react (depicts : scene.Depicts trace) (consistent : scene.Consistent none [])
    (found : trace.network.nodes[device]? = some node) {event : SourceEvent}
    {rest : List SourceEvent} (queue : node.sourceQueue = event :: rest) :
    let turn := event.react trace.network.clock (trace.sourceTurn device node)
    (turn.completions.map Completion.ticket ++
      (turn.source.pending.tickets ++ rest.filterMap SourceEvent.ticket?)).Perm node.tickets := by
  intro turn
  have distinct : (trace.sourceTurn device node).Distinct := by
    have keys := (consistent.accounted.tidy device).keys_nodup
    rw [(depicts.draws found).standing_eq] at keys
    exact keys
  have kept := (event.tickets_react trace.network.clock _ distinct).2
  have first :
      event.ticket?.toList ++ rest.filterMap SourceEvent.ticket? =
        node.sourceQueue.filterMap SourceEvent.ticket? := by
    rw [queue]
    cases event <;> rfl
  rw [Node.tickets, ← first, ← List.append_assoc, ← List.append_assoc]
  apply List.Perm.append_right
  exact kept.trans List.perm_append_comm

theorem advances_serveSource (depicts : scene.Depicts trace)
    (consistent : scene.Consistent none []) (room : trace.network.HasRoom) (device : DeviceId) :
    trace.Advances (.serve ⟨device, .source⟩) := by
  cases next : trace.network.nextOfSource? device with
  | none =>
      apply Advances.idle depicts consistent
      · rw [Network.takes?, next]
        rfl
      · rfl
      · exact Network.serveSource_of_idle next
  | some event =>
      obtain ⟨node, rest, found, queue⟩ := Network.exists_of_nextOfSource? next
      let turn := event.react trace.network.clock (trace.sourceTurn device node)
      have performs :
          trace.network.perform (.serve ⟨device, .source⟩) =
            { trace.network with
              hub := turn.line.hub
              nodes := trace.network.nodes.insert device (Network.sourceLeft node rest turn)
              completions := trace.network.completions ++ turn.completions } :=
        Network.serveSource_of_queue found queue
      obtain ⟨later, staged, rests⟩ := rests_react depicts consistent room found queue
      have changes :
          trace.network.Changes (trace.network.perform (.serve ⟨device, .source⟩)) device node
            (Network.sourceLeft node rest turn) := by
        refine ⟨found, ?_, ?_, rfl, ?_⟩
        · rw [performs]
        · intro role
          cases role <;> rfl
        · exact staged.device_eq.trans (depicts.draws found).named.symm
      refine ⟨⟨later, ?_, rests⟩, ?_, turn.completions, ?_, ?_⟩
      · apply depicts.react changes
        · rw [performs]
          exact staged.shows
        · rfl
        · apply Network.heldWith_congr
          intro role
          cases role <;> rfl
        · rfl
        · rfl
        · exact staged.registered_eq
        · exact staged.others_eq
        · intro other _
          rw [staged.sinks_eq]
          rfl
        · exact staged.standing_eq
        · intro session
          rw [staged.sinks_eq]
          exact (depicts.draws found).knows_iff session
      · apply Network.tickets_of_changes changes
        · rw [performs]
        · exact tickets_react depicts consistent found queue
      · rw [performs]
      · intro completion listed
        rcases staged.credited completion listed with disconnected | ends
        · exact .disconnection disconnected
        · exact ends

end Sources

/-! ## Sinks -/

section Sinks

open Hub (Port)

variable (trace) (scene) (device : DeviceId) (node : Node) (move : Move) (ticket : Option Ticket)

/-- A sink is about to react. -/
def sinkSetting : Setting where
  base := scene
  directory := trace.network.hub.directory
  held := trace.network.heldWith device node
  origins := trace.kept move
  cause := ⟨ticket, ⟨device, .sink⟩⟩
  ends _ := False

/-- The turn with which a sink begins. -/
def sinkTurn : Sink.Turn (Port Parcel) Hardware :=
  { sink := node.sink
    line := ⟨trace.network.hub, ⟨device, .sink⟩⟩
    collector := node.hardware }

variable {trace scene device node move ticket}

theorem staged_sinkTurn (depicts : scene.Depicts trace) {popped : Node}
    (found : trace.network.nodes[device]? = some node) {current : Scene}
    (sources : current.sources = scene.sources) (sinks : current.sinks = scene.sinks)
    (links : current.links = scene.links) (registered : current.registered = scene.registered)
    (shows :
      current.Shows (trace.sinkSetting scene device popped move ticket) trace.network.hub) :
    Sink.Turn.Staged (trace.sinkSetting scene device popped move ticket) device current
      (trace.sinkTurn device node) where
  shows := shows
  here_eq := rfl
  sender_eq := rfl
  knows_iff := by
    rw [sinks]
    exact (depicts.draws found).knows_iff
  others_eq := by
    intro other _
    rw [sinks]
    rfl
  links_eq := links
  sources_eq := sources
  registered_eq := registered

/-- What a sink leaves is the network after the move. -/
theorem advances_sinkTurn (depicts : scene.Depicts trace)
    (found : trace.network.nodes[device]? = some node) {queue : List SinkEvent}
    {act : Sink.Turn (Port Parcel) Hardware → Sink.Turn (Port Parcel) Hardware}
    (noTicket : move.ticket? = none)
    (performs :
      trace.network.perform move =
        trace.network.sinkTurn device { node with sinkQueue := queue } act)
    (cause : trace.cause? move = some ⟨ticket, ⟨device, .sink⟩⟩)
    (stands :
      Sink.Turn.Stands
        (trace.sinkSetting scene device { node with sinkQueue := queue } move ticket) device []
        (act (trace.sinkTurn device node))) :
    trace.Advances move := by
  obtain ⟨later, staged, consistent⟩ := stands
  let turn := act (trace.sinkTurn device node)
  let new : Node :=
    { node with
      sinkQueue := queue
      sink := turn.sink
      hardware := turn.collector
      heard := node.heard ++ turn.notices }
  have completions :
      (trace.network.perform move).completions = trace.network.completions ++ [] := by
    rw [performs, List.append_nil]
    rfl
  have changes : trace.network.Changes (trace.network.perform move) device node new := by
    refine ⟨found, ?_, ?_, rfl, rfl⟩
    · rw [performs]
      rfl
    · intro role
      cases role <;> rfl
  refine ⟨⟨later, ?_, consistent⟩, ?_, [], completions, List.forall_mem_nil _⟩
  · apply depicts.react changes
    · rw [performs]
      exact staged.shows
    · rfl
    · apply Network.heldWith_congr
      intro role
      cases role <;> rfl
    · rfl
    · exact cause
    · exact staged.registered_eq
    · intro other _
      rw [staged.sources_eq]
      rfl
    · exact staged.others_eq
    · rw [staged.sources_eq]
      exact (depicts.draws found).standing_eq
    · exact staged.knows_iff
  · apply Network.tickets_of_changes changes completions
    rw [noTicket]
    exact List.Perm.refl _

theorem stands_transport (depicts : scene.Depicts trace) (consistent : scene.Consistent none [])
    (found : trace.network.nodes[device]? = some node) {event : TransportEvent Parcel}
    {rest : List SinkEvent} (queue : node.sinkQueue = .transport event :: rest) :
    Sink.Turn.Stands
      (trace.sinkSetting scene device { node with sinkQueue := rest }
        (.serve ⟨device, .sink⟩) (trace.dealtWith ⟨device, .sink⟩))
      device [] ((SinkEvent.transport event).react (trace.sinkTurn device node)) := by
  let popped : Node := { node with sinkQueue := rest }
  let setting := trace.sinkSetting scene device popped (.serve ⟨device, .sink⟩)
    (trace.dealtWith ⟨device, .sink⟩)
  have next := Network.nextOfSink?_of_queue found queue
  have takes : trace.network.takes? (.serve ⟨device, .sink⟩) = some ⟨device, .sink⟩ := by
    rw [Network.takes?, next]
    rfl
  have first := Network.held_of_sinkQueue found queue
  have held (tested : Endpoint) :
      setting.held tested =
        if tested = ⟨device, .sink⟩ then rest.filterMap SinkEvent.transport?
        else trace.network.held tested :=
    Network.heldWith_of_sinkQueue found rest tested
  obtain ⟨letter, later, waiting, isEvent, origin, shows⟩ :=
    depicts.shows_take first rfl held (kept_of_takes takes)
  have dealt : trace.dealtWith ⟨device, .sink⟩ = letter.cause.call := by
    rw [dealtWith, next]
    dsimp only
    rw [origin]
    rfl
  have taking : Sink.Turn.Taking setting device scene letter (trace.sinkTurn device node) :=
    ⟨consistent, ⟨later, waiting⟩, dealt.symm,
      staged_sinkTurn depicts found rfl rfl rfl rfl shows⟩
  rw [← isEvent]
  exact taking.stands_transport

theorem stands_local (depicts : scene.Depicts trace) (consistent : scene.Consistent none [])
    (found : trace.network.nodes[device]? = some node) {queue : List SinkEvent}
    (received :
      queue.filterMap SinkEvent.transport? = node.sinkQueue.filterMap SinkEvent.transport?)
    (takes : trace.network.takes? move = none) :
    Sink.Turn.Stands
      (trace.sinkSetting scene device { node with sinkQueue := queue } move ticket) device []
      (trace.sinkTurn device node) := by
  refine ⟨scene, staged_sinkTurn depicts found rfl rfl rfl rfl ?_, consistent⟩
  apply depicts.shows rfl
  · apply Network.heldWith_of_received found
    intro role
    cases role with
    | source => rfl
    | sink => exact received
  · exact kept_of_takes_none takes

theorem advances_flush (depicts : scene.Depicts trace) (consistent : scene.Consistent none [])
    (device : DeviceId) : trace.Advances (.flush device) := by
  cases found : trace.network.nodes[device]? with
  | none =>
      apply Advances.idle depicts consistent rfl rfl
      rw [Network.perform, Network.flush, found]
  | some node =>
      apply advances_sinkTurn depicts found rfl
      · rw [Network.perform, Network.flush, found]
      · rfl
      · apply Sink.Turn.Stands.flush
        exact stands_local depicts consistent found rfl rfl

theorem advances_serveSink (depicts : scene.Depicts trace)
    (consistent : scene.Consistent none []) (device : DeviceId) :
    trace.Advances (.serve ⟨device, .sink⟩) := by
  cases next : trace.network.nextOfSink? device with
  | none =>
      apply Advances.idle depicts consistent
      · rw [Network.takes?, next]
        rfl
      · rfl
      · exact Network.serveSink_of_idle next
  | some event =>
      obtain ⟨node, rest, found, queue⟩ := Network.exists_of_nextOfSink? next
      have reacts :
          Sink.Turn.Stands
            (trace.sinkSetting scene device { node with sinkQueue := rest }
              (.serve ⟨device, .sink⟩) (trace.dealtWith ⟨device, .sink⟩))
            device [] (event.react (trace.sinkTurn device node)) := by
        cases event with
        | transport event => exact stands_transport depicts consistent found queue
        | captured event =>
            apply Sink.Turn.Stands.captured
            apply stands_local depicts consistent found
            · rw [queue]
              rfl
            · rw [Network.takes?, next]
              rfl
        | listen =>
            apply Sink.Turn.Stands.listen
            apply stands_local depicts consistent found
            · rw [queue]
              rfl
            · rw [Network.takes?, next]
              rfl
      exact advances_sinkTurn depicts found rfl (Network.serveSink_of_queue found queue) rfl reacts

end Sinks

/-! ## Every move -/

theorem advances (depicts : scene.Depicts trace) (consistent : scene.Consistent none [])
    (room : trace.network.HasRoom) (move : Move) : trace.Advances move := by
  cases move with
  | forward endpoint => exact advances_forward depicts consistent endpoint
  | serve endpoint =>
      obtain ⟨device, role⟩ := endpoint
      cases role with
      | source => exact advances_serveSource depicts consistent room device
      | sink => exact advances_serveSink depicts consistent device
  | flush device => exact advances_flush depicts consistent device
  | _ => exact advances_quiet depicts consistent rfl

end Trace

end InputSharing
