import InputSharing.Proofs.Network.Housing

/-!
# Whatever happens, nothing is lost

Each thing that can happen on a network keeps the lane of a route running, and adds to
what was injected and to what was routed exactly what its chronicle says.
-/

namespace InputSharing

/-- What a sink routes to a channel when it reacts. -/
def SinkEvent.routes {τ κ : Type} [Transport τ] (turn : Sink.Turn τ κ) (session : SessionId) :
    SinkEvent → List InputEvent
  | captured event => if (turn.capture event).channel? = some session then [event] else []
  | transport _ | listen => []

namespace Network

/-- What the source of a route has injected from a batch that came on its channel. -/
def gains (network : Network) (route : Route) (happening : Happening) :
    List (DeviceId × InputEvent) :=
  if network.batch? route.source happening = some route.session then
    ((network.happen happening).injected route.source).drop (network.injected route.source).length
  else []

/-- What the sink of a route has routed to its channel. -/
def routes (network : Network) (route : Route) (happening : Happening) : List InputEvent :=
  ((network.capture? route.sink happening).toList.filter fun capture =>
    capture.channel? = some route.session).map Capture.event

/-- Nothing is lost on a route of a network. -/
structure Delivers (network : Network) (route : Route) (ways : SessionId → Option Link)
    (injected : List (DeviceId × InputEvent)) (routed : List InputEvent) : Prop where
  housed : network.Housed
  delivers : (network.view ways).Delivers route True [] injected routed

/-- Nothing is lost when something happens. -/
def Follows (network : Network) (route : Route) (ways : SessionId → Option Link)
    (injected : List (DeviceId × InputEvent)) (routed : List InputEvent)
    (happening : Happening) : Prop :=
  ∃ later, Widens ways later ∧
    (network.happen happening).Delivers route later (injected ++ network.gains route happening)
      (routed ++ network.routes route happening)

namespace Delivers

variable {network : Network} {route : Route} {ways : SessionId → Option Link}
  {injected : List (DeviceId × InputEvent)} {routed : List InputEvent} {happening : Happening}
  {device : DeviceId} {old new : Node}

/-! ## What nobody reacts to -/

theorem follows (housed : (network.happen happening).Housed)
    (delivers : ((network.happen happening).view ways).Delivers route True [] injected routed)
    (noBatch : ∀ device, network.batch? device happening = none)
    (noCapture : ∀ device, network.capture? device happening = none) :
    network.Follows route ways injected routed happening := by
  refine ⟨ways, .refl ways, housed, ?_⟩
  rw [gains, routes, noBatch, noCapture]
  simpa using delivers

/-- Neither the hub nor a node has changed. -/
theorem follows_of_same (delivers : network.Delivers route ways injected routed)
    (hub : (network.happen happening).hub = network.hub)
    (nodes : (network.happen happening).nodes = network.nodes)
    (noBatch : ∀ device, network.batch? device happening = none)
    (noCapture : ∀ device, network.capture? device happening = none) :
    network.Follows route ways injected routed happening := by
  refine follows (delivers.housed.of_same (congrArg Hub.directory hub) nodes) ?_ noBatch noCapture
  rw [view_of_same hub nodes]
  exact delivers.delivers

/-- A node has changed in a way that no view shows. -/
theorem follows_of_adds (delivers : network.Delivers route ways injected routed)
    (found : network.nodes[device]? = some old) {more : List Ticket} (adds : old.Adds new more)
    (sink : new.sink = old.sink) (injector : new.injector = old.injector)
    (hub : (network.happen happening).hub = network.hub)
    (nodes : (network.happen happening).nodes = network.nodes.insert device new)
    (noBatch : ∀ device, network.batch? device happening = none)
    (noCapture : ∀ device, network.capture? device happening = none) :
    network.Follows route ways injected routed happening := by
  have housed := delivers.housed
  refine follows ?_ ?_ noBatch noCapture
  · apply housed.of_insert found nodes (congrArg Hub.directory hub) adds.boxes_eq adds.running_eq
    · rw [injector]
    · rw [sink]
      exact housed.books found
  · rw [view_of_alike found hub nodes adds.source_eq sink adds.received_eq]
    exact delivers.delivers

theorem follows_quiet (delivers : network.Delivers route ways injected routed) {move : Move}
    (quiet : move.isQuiet = true) : network.Follows route ways injected routed (.move move) := by
  have unserved (device : DeviceId) :
      network.batch? device (.move move) = none ∧ network.capture? device (.move move) = none := by
    cases move with
    | serve endpoint => cases quiet
    | _ => exact ⟨rfl, rfl⟩
  cases stays_of_quiet delivers.housed.running quiet with
  | ends hub nodes _ _ _ =>
      exact delivers.follows_of_same hub nodes (fun device => (unserved device).1)
        fun device => (unserved device).2
  | adds found adds sink injector hub nodes _ =>
      exact delivers.follows_of_adds found adds sink injector hub nodes
        (fun device => (unserved device).1) fun device => (unserved device).2

/-! ## From a mailbox to a queue -/

theorem follows_forward (delivers : network.Delivers route ways injected routed)
    (endpoint : Endpoint) :
    network.Follows route ways injected routed (.move (.forward endpoint)) := by
  obtain ⟨device, role⟩ := endpoint
  have housed := delivers.housed
  have sound : network.hub.Sound := delivers.delivers.charted.sound
  cases forwards sound housed.running housed.boxes device role with
  | nothing same =>
      apply delivers.follows_of_same _ _ (fun _ => rfl) fun _ => rfl
      · exact congrArg Network.hub same
      · exact congrArg Network.nodes same
  | @event node event rest hub found mail taken performs =>
      obtain ⟨boxes, running, source, sink⟩ := node.same_enqueue event role
      have injector : (node.enqueue event role).injector = node.injector := by
        cases role <;> rfl
      have nodes := congrArg Network.nodes performs
      have hubs := congrArg Network.hub performs
      refine follows ?_ ?_ (fun _ => rfl) fun _ => rfl
      · apply housed.of_insert found nodes _ boxes running
        · rw [injector]
        · rw [sink]
          exact housed.books found
        · exact (congrArg Hub.directory hubs).trans taken.directory_eq
      · have moved :
            View.Delivers
              { network.view ways with
                hub, held := network.heldWith device (node.enqueue event role) }
              route True [] injected routed :=
          delivers.delivers.of_same_mail taken.sound taken.directory_eq taken.links_eq
            taken.lastSession_eq (events_of_forward found taken mail)
        have view :
            (network.forward ⟨device, role⟩).view ways =
              { network.view ways with
                hub, held := network.heldWith device (node.enqueue event role) } := by
          rw [view_of_insert nodes, hubs, source, sink, ← sources_of_node found ways,
            ← sinks_of_node found ways, Function.update_eq_self, Function.update_eq_self]
          rfl
        exact view ▸ moved

/-! ## Broken links -/

theorem follows_sever (delivers : network.Delivers route ways injected routed)
    (session : SessionId) :
    network.Follows route ways injected routed (.sever session) := by
  cases linked : network.hub.links[session]? with
  | none =>
      apply delivers.follows_of_same _ _ (fun _ => rfl) fun _ => rfl
      · exact Hub.sever_of_gone linked
      · rfl
  | some link =>
      have charted := delivers.delivers.charted
      obtain ⟨middle, toOpener, toAcceptor⟩ :=
        Hub.sever_of_link charted.sound linked (charted.registered (charted.linked linked))
      have directory : (network.hub.sever session).directory = network.hub.directory :=
        toAcceptor.directory_eq.trans toOpener.directory_eq
      refine follows ?_ ?_ (fun _ => rfl) fun _ => rfl
      · exact delivers.housed.of_same directory rfl
      · exact delivers.delivers.sever linked toOpener toAcceptor

/-! ## Reactions of sources -/

section Sources

variable {event : SourceEvent} {rest : List SourceEvent}

theorem hasMeans (delivers : network.Delivers route ways injected routed)
    (room : network.HasRoom) (found : network.nodes[device]? = some old)
    (held : Endpoint → List (TransportEvent Parcel)) :
    (Trace.sourceTurn { network } device old).HasMeans { network.view ways with held } device
      route where
  sessions := room.sessions
  tokens := room.tokens found
  home := (delivers.housed.directory_iff _).2 (Table.mem_of_getElem? found)
  unused := delivers.delivers.charted.unused (delivers.housed.sinks ways route.sink)

/-- Whatever a source reacts to, nothing is lost. -/
theorem leaves_react (delivers : network.Delivers route ways injected routed)
    (room : network.HasRoom) (found : network.nodes[device]? = some old)
    (queue : old.sourceQueue = event :: rest) :
    (event.react network.clock (Trace.sourceTurn { network } device old)).Leaves
      { network.view ways with
        held := network.heldWith device { old with sourceQueue := rest } }
      device route
      (injected ++
        if device = route.source ∧ event.batch? = some route.session then
          (event.react network.clock (Trace.sourceTurn { network } device old)).injections
        else [])
      routed := by
  have source := sources_of_node found ways
  have begun (noEvent : event.transport? = none) :
      (Trace.sourceTurn { network } device old).Delivers
        { network.view ways with
          held := network.heldWith device { old with sourceQueue := rest } }
        device route True [] injected routed := by
    have held : network.heldWith device { old with sourceQueue := rest } = network.held := by
      apply heldWith_of_received found
      intro role
      cases role with
      | sink => rfl
      | source =>
          change rest.filterMap _ = old.sourceQueue.filterMap _
          rw [queue, List.filterMap_cons_none noEvent]
    rw [held]
    exact ⟨network.view ways, .begins rfl source, delivers.delivers⟩
  cases event with
  | call ticket wanted =>
      rw [if_neg (fun both => nomatch both.2), List.append_nil]
      exact Source.Turn.leaves_call (begun rfl) (delivers.hasMeans room found _) ticket wanted
  | tick =>
      rw [if_neg (fun both => nomatch both.2), List.append_nil]
      exact ((begun rfl).tick network.clock).leaves
  | transport event =>
      rw [view_take (heldWith_of_sourceQueue found rest)]
      exact Source.Turn.leaves_transport delivers.delivers (delivers.hasMeans room found _) rfl
        source rfl (held_of_sourceQueue found queue) network.clock

/-- A source injects what its turn injects. -/
theorem gains_of_serve (delivers : network.Delivers route ways injected routed)
    (found : network.nodes[device]? = some old) (queue : old.sourceQueue = event :: rest) :
    network.gains route (.move (.serve ⟨device, .source⟩)) =
      if device = route.source ∧ event.batch? = some route.session then
        (event.react network.clock (Trace.sourceTurn { network } device old)).injections
      else [] := by
  by_cases here : device = route.source
  · subst here
    let turn := event.react network.clock (Trace.sourceTurn { network } route.source old)
    have performs := serveSource_of_queue found queue
    have nodes :
        (network.happen (.move (.serve ⟨route.source, .source⟩))).nodes =
          network.nodes.insert route.source (sourceLeft old rest turn) :=
      congrArg Network.nodes performs
    have injects :
        (sourceLeft old rest turn).injector.injected =
          old.injector.injected ++ turn.injections := by
      rw [sourceLeft, Injector.injectAll_of_willing (delivers.housed.willing found)]
    rw [Network.gains, batch?, if_pos rfl, nextOfSource?_of_queue found queue, Option.bind_some]
    simp only [true_and]
    split
    · rw [Network.injected, Network.injected, nodes, Table.getElem?_insert_eq, if_pos rfl, found]
      dsimp only
      rw [injects, List.drop_left]
    · rfl
  · rw [Network.gains, batch?, if_neg here, if_neg (Option.some_ne_none _).symm,
      if_neg fun both => here both.1]

theorem follows_serveSource (delivers : network.Delivers route ways injected routed)
    (room : network.HasRoom) (device : DeviceId) :
    network.Follows route ways injected routed (.move (.serve ⟨device, .source⟩)) := by
  cases next : network.nextOfSource? device with
  | none =>
      have same := serveSource_of_idle next
      apply delivers.follows_of_same _ _ _ fun _ => rfl
      · exact congrArg Network.hub same
      · exact congrArg Network.nodes same
      · intro tested
        rw [batch?]
        split
        · next here =>
          rw [← here, next]
          rfl
        · rfl
  | some event =>
      obtain ⟨node, rest, found, queue⟩ := exists_of_nextOfSource? next
      have housed := delivers.housed
      have books := housed.books found
      let turn := event.react network.clock (Trace.sourceTurn { network } device node)
      let new := sourceLeft node rest turn
      have performs := serveSource_of_queue found queue
      have nodes :
          (network.happen (.move (.serve ⟨device, .source⟩))).nodes =
            network.nodes.insert device new :=
        congrArg Network.nodes performs
      have hub : (network.happen (.move (.serve ⟨device, .source⟩))).hub = turn.line.hub :=
        congrArg Network.hub performs
      have boxes (role : Role) : new.box role = node.box role := by
        cases role <;> rfl
      have received (role : Role) :
          ({ node with sourceQueue := rest } : Node).received role = new.received role := by
        cases role <;> rfl
      have willing : new.injector.failing = node.injector.failing := by
        change (node.injector.injectAll turn.injections).failing = _
        rw [Injector.injectAll_of_willing (housed.willing found)]
      obtain ⟨later, widens, view, posed, running⟩ := delivers.leaves_react room found queue
      refine ⟨later, widens, ?_, ?_⟩
      · refine housed.of_insert found nodes ?_ boxes rfl willing books
        rw [hub, posed.hub_eq, posed.directory_eq]
        rfl
      · have after :=
          view_of_source ways posed found nodes hub rfl rfl (heldWith_congr received) rfl rfl
        have nothing : network.routes route (.move (.serve ⟨device, .source⟩)) = [] := rfl
        rw [delivers.gains_of_serve found queue, nothing, List.append_nil]
        exact after ▸ running

end Sources

/-! ## Reactions of sinks -/

section Sinks

open Hub (Port)

variable {event : SinkEvent} {queue rest : List SinkEvent}

/-- A sink reacts to something that does not come from the transport. -/
theorem tends_begun (delivers : network.Delivers route ways injected routed)
    (found : network.nodes[device]? = some old)
    (received :
      queue.filterMap SinkEvent.transport? = old.sinkQueue.filterMap SinkEvent.transport?) :
    (Trace.sinkTurn { network } device old).Tends
      { network.view ways with held := network.heldWith device { old with sinkQueue := queue } }
      device route [] injected routed := by
  have held : network.heldWith device { old with sinkQueue := queue } = network.held := by
    apply heldWith_of_received found
    intro role
    cases role with
    | source => rfl
    | sink => exact received
  rw [held]
  exact ⟨delivers.housed.books found, network.view ways, .begins rfl (sinks_of_node found ways),
    delivers.delivers⟩

/-- What a sink captures is routed, and nothing else is. -/
theorem routes_of_serve (found : network.nodes[device]? = some old)
    (queue : old.sinkQueue = event :: rest) :
    network.routes route (.move (.serve ⟨device, .sink⟩)) =
      if device = route.sink then
        event.routes (Trace.sinkTurn { network } device old) route.session
      else [] := by
  have next := nextOfSink?_of_queue found queue
  by_cases here : device = route.sink
  · subst here
    rw [if_pos rfl, Network.routes, capture?, if_pos rfl, found, next]
    cases event with
    | transport event => rfl
    | listen => rfl
    | captured captured =>
        let capture := (Trace.sinkTurn { network } route.sink old).capture captured
        change ([capture].filter fun tested => tested.channel? = some route.session).map _ =
          if capture.channel? = some route.session then [captured] else []
        by_cases ours : capture.channel? = some route.session
        · rw [List.filter_cons_of_pos (by simpa using ours), if_pos ours]
          rfl
        · rw [List.filter_cons_of_neg (by simpa using ours), if_neg ours]
          rfl
  · rw [if_neg here, Network.routes, capture?, if_neg here]
    rfl

/-- Whatever a sink reacts to, nothing is lost. -/
theorem tends_react (delivers : network.Delivers route ways injected routed)
    (found : network.nodes[device]? = some old) (queue : old.sinkQueue = event :: rest) :
    (event.react (Trace.sinkTurn { network } device old)).Tends
      { network.view ways with held := network.heldWith device { old with sinkQueue := rest } }
      device route [] injected
      (routed ++ network.routes route (.move (.serve ⟨device, .sink⟩))) := by
  rw [routes_of_serve found queue]
  cases event with
  | captured captured =>
      rw [SinkEvent.routes, ← ite_and]
      apply Sink.Turn.Tends.captured
      apply delivers.tends_begun found
      rw [queue]
      rfl
  | listen =>
      have begun :
          (Trace.sinkTurn { network } device old).Tends
            { network.view ways with
              held := network.heldWith device { old with sinkQueue := rest } }
            device route [] injected routed := by
        apply delivers.tends_begun found
        rw [queue]
        rfl
      rw [SinkEvent.routes, ite_self, List.append_nil]
      exact ⟨begun.books.of_same rfl rfl rfl rfl fun _ => id,
        begun.delivers.of_same _ rfl rfl rfl fun _ => id⟩
  | transport event =>
      rw [SinkEvent.routes, ite_self, List.append_nil,
        view_take (heldWith_of_sinkQueue found rest)]
      exact Sink.Turn.Tends.transport delivers.delivers (delivers.housed.books found) rfl
        (sinks_of_node found ways) (held_of_sinkQueue found queue)

/-- What a sink leaves is the network after it. -/
theorem follows_sinkTurn (delivers : network.Delivers route ways injected routed)
    (found : network.nodes[device]? = some old)
    {act : Sink.Turn (Port Parcel) Hardware → Sink.Turn (Port Parcel) Hardware}
    (performs :
      network.happen happening = network.sinkTurn device { old with sinkQueue := queue } act)
    (noBatch : ∀ device, network.batch? device happening = none)
    (tends :
      (act (Trace.sinkTurn { network } device old)).Tends
        { network.view ways with held := network.heldWith device { old with sinkQueue := queue } }
        device route [] injected (routed ++ network.routes route happening)) :
    network.Follows route ways injected routed happening := by
  obtain ⟨books, view, posed, running⟩ := tends
  let turn := act (Trace.sinkTurn { network } device old)
  let new : Node :=
    { old with
      sinkQueue := queue
      sink := turn.sink
      hardware := turn.collector
      heard := old.heard ++ turn.notices }
  have nodes : (network.happen happening).nodes = network.nodes.insert device new := by
    rw [performs]
    rfl
  have hub : (network.happen happening).hub = turn.line.hub := by
    rw [performs]
    rfl
  have gains : network.gains route happening = [] := by
    rw [Network.gains, noBatch, if_neg (Option.some_ne_none _).symm]
  have boxes (role : Role) : new.box role = old.box role := by
    cases role <;> rfl
  have received (role : Role) :
      ({ old with sinkQueue := queue } : Node).received role = new.received role := by
    cases role <;> rfl
  refine ⟨ways, .refl ways, ?_, ?_⟩
  · refine delivers.housed.of_insert found nodes ?_ boxes rfl rfl books
    rw [hub, posed.hub_eq, posed.directory_eq]
    rfl
  · have after :=
      view_of_sink ways posed found nodes hub rfl rfl (heldWith_congr received) rfl rfl
    rw [gains, List.append_nil]
    exact after ▸ running

theorem follows_flush (delivers : network.Delivers route ways injected routed)
    (device : DeviceId) :
    network.Follows route ways injected routed (.move (.flush device)) := by
  cases found : network.nodes[device]? with
  | none =>
      have same : network.happen (.move (.flush device)) = network := by
        rw [happen, perform, flush, found]
      apply delivers.follows_of_same _ _ (fun _ => rfl) fun _ => rfl
      · rw [same]
      · rw [same]
  | some node =>
      have performs :
          network.happen (.move (.flush device)) =
            network.sinkTurn device { node with sinkQueue := node.sinkQueue }
              Sink.Turn.flush := by
        rw [happen, perform, flush, found]
      refine delivers.follows_sinkTurn found performs (fun _ => rfl) ?_
      have nothing : network.routes route (.move (.flush device)) = [] := rfl
      rw [nothing, List.append_nil]
      exact (delivers.tends_begun found rfl).flush

theorem follows_serveSink (delivers : network.Delivers route ways injected routed)
    (device : DeviceId) :
    network.Follows route ways injected routed (.move (.serve ⟨device, .sink⟩)) := by
  cases next : network.nextOfSink? device with
  | none =>
      have same := serveSink_of_idle next
      apply delivers.follows_of_same _ _ fun _ => rfl
      · intro tested
        rw [capture?]
        split
        · next here =>
          rw [← here, next]
          split
          · next captured => cases captured
          · rfl
        · rfl
      · exact congrArg Network.hub same
      · exact congrArg Network.nodes same
  | some event =>
      obtain ⟨node, rest, found, queue⟩ := exists_of_nextOfSink? next
      exact delivers.follows_sinkTurn found (serveSink_of_queue found queue) (fun _ => rfl)
        (delivers.tends_react found queue)

end Sinks

/-! ## Whatever happens -/

theorem follows_happen (delivers : network.Delivers route ways injected routed)
    (room : network.HasRoom) (happening : Happening) :
    network.Follows route ways injected routed happening := by
  cases happening with
  | sever session => exact delivers.follows_sever session
  | move move =>
      cases move with
      | forward endpoint => exact delivers.follows_forward endpoint
      | serve endpoint =>
          obtain ⟨device, role⟩ := endpoint
          cases role with
          | source => exact delivers.follows_serveSource room device
          | sink => exact delivers.follows_serveSink device
      | flush device => exact delivers.follows_flush device
      | _ => exact delivers.follows_quiet rfl

end Delivers

end Network

end InputSharing
