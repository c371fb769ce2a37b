import InputSharing.Proofs.Network.Lanes

/-!
# What passes along lanes

Events are taken from the queues of nodes, sinks send messages, and links break.
The lane of a route keeps running through all of this, whether or not the event,
the message or the link is its own.
-/

namespace InputSharing

/-- A source is at the opening end of a route that leads to a sink. -/
theorem Route.source_of_ends {route : Route} {device : DeviceId}
    (ends : route.link.Ends ⟨device, .source⟩) : device = route.source := by
  rcases ends with opener | acceptor
  · exact congrArg Endpoint.device opener.symm
  · cases acceptor

theorem Route.sink_of_ends {route : Route} {device : DeviceId}
    (ends : route.link.Ends ⟨device, .sink⟩) : device = route.sink := by
  rcases ends with opener | acceptor
  · cases opener
  · exact congrArg Endpoint.device acceptor.symm

/-- Whatever is found on a link is found at one of its ends. -/
theorem TransportEvent.Suits.ends {link : Link} {endpoint : Endpoint}
    {event : TransportEvent Parcel} (suits : event.Suits link endpoint) : link.Ends endpoint := by
  cases suits with
  | opened accepts _ => exact Or.inr accepts
  | frame ends _ => exact ends
  | closed ends => exact ends

namespace View

variable {view : View} {route : Route} {firm : Prop} {hand : List RelayToken}
  {injected : List (DeviceId × InputEvent)} {routed : List InputEvent} {device : DeviceId}
  {session : SessionId} {sequence : UInt64} {message : Message} {event : TransportEvent Parcel}
  {left : List (TransportEvent Parcel)}

/-- What waits first for an endpoint suits the way on which it came. -/
theorem Charted.first (charted : view.Charted) {endpoint : Endpoint}
    (first : view.held endpoint = event :: left) :
    ∃ link, view.ways event.session = some link ∧ event.Suits link endpoint := by
  apply charted.addressed
  rw [mail_of_held first]
  exact List.mem_cons_self

/-- Only the source of a route takes events of its channel for a source. -/
theorem Charted.source_of_first (charted : view.Charted)
    (first : view.held ⟨device, .source⟩ = event :: left)
    (way : view.ways event.session = some route.link) : device = route.source := by
  obtain ⟨link, sameWay, suits⟩ := charted.first first
  obtain rfl : link = route.link := Option.some.inj (sameWay.symm.trans way)
  exact Route.source_of_ends suits.ends

theorem Charted.sink_of_first (charted : view.Charted)
    (first : view.held ⟨device, .sink⟩ = event :: left)
    (way : view.ways event.session = some route.link) : device = route.sink := by
  obtain ⟨link, sameWay, suits⟩ := charted.first first
  obtain rfl : link = route.link := Option.some.inj (sameWay.symm.trans way)
  exact Route.sink_of_ends suits.ends

namespace Delivers

/-- Events change places between mailboxes and queues. -/
theorem of_same_mail (delivers : view.Delivers route firm hand injected routed) {hub : Hub Parcel}
    {held : Endpoint → List (TransportEvent Parcel)} (sound : hub.Sound)
    (directory : hub.directory = view.hub.directory) (links : hub.links = view.hub.links)
    (last : hub.lastSession = view.hub.lastSession)
    (same : ∀ endpoint, held endpoint ++ hub.mail endpoint = view.mail endpoint) :
    ({ view with hub, held } : View).Delivers route firm hand injected routed where
  charted := by
    apply delivers.charted.of_fewer sound directory links last
    intro endpoint
    rw [same]
    exact List.Subset.refl _
  unborn := delivers.unborn
  ordered := delivers.ordered
  runs := by
    have unchanged : ({ view with hub, held } : View).lane route = view.lane route := by
      simp only [lane, mail, links, same]
    rw [unchanged]
    exact delivers.runs

/-! ## Taking -/

/-- What is taken is not about the channel. -/
theorem take (delivers : view.Delivers route firm hand injected routed) {endpoint : Endpoint}
    (first : view.held endpoint = event :: left) (silent : event.message? route.session = none)
    (stays : event ≠ .closed route.session) :
    (view.take endpoint left).Delivers route firm hand injected routed where
  charted := delivers.charted.take first
  unborn := delivers.unborn
  ordered := delivers.ordered
  runs := by
    rw [lane_take_of_none first silent stays]
    exact delivers.runs

/-- A source takes a message that came on another channel. -/
theorem hear_other (delivers : view.Delivers route True [] injected routed)
    (first :
      view.held ⟨device, .source⟩ = .frame session (.composed sequence message) :: left)
    (other : session ≠ route.session) {source : Source}
    (charted : source.Charted view.ways device)
    (bySession : source.registry.bySession = (view.sources device).registry.bySession)
    (relays : source.relays = (view.sources device).relays)
    (beliefs : ∀ sink ∈ (view.sources device).beliefs, sink ∈ source.beliefs) :
    ((view.take ⟨device, .source⟩ left).withSource device source).Delivers route True [] injected
      routed := by
  have passed := delivers.take first (TransportEvent.message?_of_ne other)
    (TransportEvent.ne_closed_of_ne other)
  apply passed.withSource charted fun stays _ => stays
  intro _ opens
  refine ⟨?_, beliefs route.sink, ?_⟩
  · have known := opens.known
    rw [bySession] at known
    exact known
  · intro token
    rw [Source.Holds, Source.Holds, relays]
    exact id

/-- A source takes a message, and is prepared if the message prepares it. -/
theorem hear (delivers : view.Delivers route True [] injected routed)
    (first :
      view.held ⟨device, .source⟩ = .frame session (.composed sequence message) :: left)
    {source : Source} (charted : source.Charted view.ways device)
    (bySession : source.registry.bySession = (view.sources device).registry.bySession)
    (relays : source.relays = (view.sources device).relays)
    (beliefs : ∀ sink ∈ (view.sources device).beliefs, sink ∈ source.beliefs)
    (prepares :
      source.Opens view.ways device route → session = route.session →
        message.prepares = true → route.sink ∈ source.beliefs)
    {grown : List (DeviceId × InputEvent)}
    (still : view.ways route.session = none → grown = injected)
    (grows :
      view.ways route.session = some route.link →
        grown =
          injected ++
            if session = route.session ∧ route.session ∈ source.registry.bySession then
              message.brought.map (Prod.mk route.sink)
            else []) :
    ((view.take ⟨device, .source⟩ left).withSource device source).Delivers route True
      (if session = route.session then message.answered?.toList else []) grown routed := by
  have whole := (delivers.charted.take first).withSource charted
  have unborn (none : view.ways route.session = none) : grown = [] ∧ routed = [] := by
    rw [still none]
    exact delivers.unborn none
  by_cases ours : session = route.session
  · subst ours
    rw [if_pos rfl]
    have runs (way : view.ways route.session = some route.link)
        (knows : route.session ∈ source.registry.bySession) :
        (((view.take ⟨device, .source⟩ left).withSource device source).lane route).Runs route
          message.answered?.toList (injected ++ message.brought.map (Prod.mk route.sink))
          routed := by
      obtain rfl := delivers.charted.source_of_first first way
      obtain ⟨rest, next, lane⟩ := lane_take_up first
      rw [lane_withSource_self, lane]
      have before := knows
      rw [bySession] at before
      apply (delivers.runs way trivial before).hear next _ relays
      rintro (prepared | answered)
      · exact beliefs _ prepared
      · exact prepares ⟨way, rfl, knows⟩ rfl answered
    have grown_eq (way : view.ways route.session = some route.link)
        (knows : route.session ∈ source.registry.bySession) :
        grown = injected ++ message.brought.map (Prod.mk route.sink) := by
      rw [grows way, if_pos ⟨rfl, knows⟩]
    refine ⟨whole, unborn, ?_, ?_⟩
    · intro way
      by_cases knows : route.session ∈ source.registry.bySession
      · rw [grown_eq way knows]
        exact (runs way knows).ordered
      · rw [grows way, if_neg fun both => knows both.2, List.append_nil]
        exact delivers.ordered way
    · intro way _ knows
      have known : route.session ∈ source.registry.bySession := by
        obtain rfl := delivers.charted.source_of_first first way
        simpa [View.withSource] using knows
      rw [grown_eq way known]
      exact runs way known
  · rw [if_neg ours]
    have moved := delivers.hear_other first ours charted bySession relays beliefs
    refine ⟨whole, unborn, ?_, ?_⟩
    · intro way
      rw [grows way, if_neg fun both => ours both.1, List.append_nil]
      exact moved.ordered way
    · intro way stays knows
      rw [grows way, if_neg fun both => ours both.1, List.append_nil]
      exact moved.runs way stays knows

/-- A source takes the news that a channel is gone, and forgets the channel. -/
theorem lose (delivers : view.Delivers route firm hand injected routed)
    (first : view.held ⟨device, .source⟩ = .closed session :: left) {source : Source}
    (charted : source.Charted view.ways device)
    (forgotten : session ∉ source.registry.bySession)
    (retains :
      source.Opens view.ways device route → (view.sources device).Retains source route) :
    ((view.take ⟨device, .source⟩ left).withSource device source).Delivers route firm hand
      injected routed := by
  by_cases ours : session = route.session
  · subst ours
    refine ⟨(delivers.charted.take first).withSource charted, delivers.unborn, delivers.ordered,
      ?_⟩
    intro way _ knows
    obtain rfl := delivers.charted.source_of_first first way
    simp only [View.withSource, Function.update_self] at knows
    exact absurd knows forgotten
  · have other : (TransportEvent.closed session : TransportEvent Parcel).session ≠ route.session :=
      ours
    have passed := delivers.take first (TransportEvent.message?_of_ne other)
      (TransportEvent.ne_closed_of_ne other)
    exact passed.withSource charted (fun stays _ => stays) fun _ => retains

/-- A sink takes a message. -/
theorem listen (delivers : view.Delivers route firm [] injected routed)
    (first :
      view.held ⟨device, .sink⟩ = .frame session (.composed sequence message) :: left) :
    (view.take ⟨device, .sink⟩ left).Delivers route firm
      (if session = route.session then message.asked?.toList else []) injected routed := by
  by_cases ours : session = route.session
  · subst ours
    rw [if_pos rfl]
    refine ⟨delivers.charted.take first, delivers.unborn, delivers.ordered, ?_⟩
    intro way stays knows
    obtain rfl := delivers.charted.sink_of_first first way
    obtain ⟨rest, next, lane⟩ := lane_take_down first
    rw [lane]
    exact (delivers.runs way stays knows).listen next
  · rw [if_neg ours]
    exact delivers.take first (TransportEvent.message?_of_ne ours)
      (TransportEvent.ne_closed_of_ne ours)

/-- A sink takes the news that a channel is gone, and may forget all about it. -/
theorem deafen (delivers : view.Delivers route firm hand injected routed)
    (first : view.held ⟨device, .sink⟩ = .closed session :: left) {sink : Sink}
    (charted : sink.Charted view.ways device)
    (aside :
      session ≠ route.session →
        sink.aside route.session = (view.sinks device).aside route.session)
    (switches :
      session ≠ route.session → route.session ∈ sink.switches →
        route.session ∈ (view.sinks device).switches) :
    ((view.take ⟨device, .sink⟩ left).withSink device sink).Delivers route firm hand injected
      routed := by
  by_cases ours : session = route.session
  · subst ours
    refine ⟨(delivers.charted.take first).withSink charted, delivers.unborn, delivers.ordered, ?_⟩
    intro way stays knows
    obtain rfl := delivers.charted.sink_of_first first way
    have runs := delivers.runs way stays knows
    have gone : ¬(view.lane route).linked := by
      intro linked
      apply (runs.quiet linked).2
      change .closed route.session ∈ view.mail ⟨route.sink, .sink⟩
      rw [mail_of_held first]
      exact List.mem_cons_self
    have mail := mail_of_held first
    have other :
        (view.take ⟨route.sink, .sink⟩ left).mail ⟨route.source, .source⟩ =
          view.mail ⟨route.source, .source⟩ := by
      rw [mail_take first, Function.update_of_ne]
      simp
    have lane :
        ((view.take ⟨route.sink, .sink⟩ left).withSink route.sink sink).lane route =
          { view.lane route with
            sinkLoses := .closed route.session ∈ (view.take ⟨route.sink, .sink⟩ left).mail
              ⟨route.sink, .sink⟩
            sink } := by
      rw [lane_withSink_self]
      simp only [View.lane, mail, other, List.filterMap_cons, TransportEvent.message?]
      simp [View.take]
    rw [lane]
    exact runs.deafen gone
  · have other : (TransportEvent.closed session : TransportEvent Parcel).session ≠ route.session :=
      ours
    have passed := delivers.take first (TransportEvent.message?_of_ne other)
      (TransportEvent.ne_closed_of_ne other)
    exact passed.withSink charted (fun _ _ => aside ours) fun _ _ => switches ours

/-! ## What sinks send -/

/-- A sink sends a message.  On the channel of the route, the events in it are
those that were put aside. -/
theorem say (delivers : view.Delivers route firm hand injected routed) {link : Link}
    (way : view.ways session = some link) (accepts : link.acceptor = ⟨device, .sink⟩)
    (within : message.isBetweenSources = false) {hub : Hub Parcel}
    (delivered :
      Hub.Delivered link.opener (.frame session (.composed sequence message)) view.hub hub)
    (linked : session ∈ view.hub.links) {sink : Sink} (charted : sink.Charted view.ways device)
    {rest : List RelayToken} (fewer : rest.Sublist hand)
    (ours :
      session = route.session →
        hand = message.answered?.toList ++ rest ∧
          (view.sinks device).aside route.session =
            message.brought ++ sink.aside route.session ∧
          (message.brought ≠ [] → route.session ∈ (view.sinks device).switches) ∧
          (route.session ∈ sink.switches →
            route.session ∈ (view.sinks device).switches ∨ message.prepares = true))
    (elsewhere :
      session ≠ route.session →
        sink.aside route.session = (view.sinks device).aside route.session ∧
          (route.session ∈ sink.switches → route.session ∈ (view.sinks device).switches)) :
    ((view.withHub hub).withSink device sink).Delivers route firm rest injected routed := by
  have suits :
      (TransportEvent.frame session (.composed sequence message)).Suits link link.opener := by
    refine .frame (Or.inl rfl) (iff_of_false ?_ ?_)
    · rw [within]
      exact Bool.false_ne_true
    · rw [accepts]
      nofun
  by_cases same : session = route.session
  · subst same
    obtain ⟨tokens, aside, brings, switches⟩ := ours rfl
    refine ⟨(delivers.charted.put delivered way suits).withSink charted, delivers.unborn,
      delivers.ordered, ?_⟩
    intro sameWay stays knows
    obtain rfl : link = route.link := Option.some.inj (way.symm.trans sameWay)
    obtain rfl : route.sink = device := congrArg Endpoint.device accepts
    rw [lane_withSink_self, lane_put_up delivered]
    rw [tokens] at delivers
    exact (delivers.runs sameWay stays knows).say linked aside brings switches
  · obtain ⟨aside, switches⟩ := elsewhere same
    have put := (delivers.drop fewer).put_other delivered way suits same
    exact put.withSink charted (fun _ _ => aside) fun _ _ => switches

/-- A sink puts an event aside for a channel. -/
theorem collect (delivers : view.Delivers route firm hand injected routed) (sink : Sink)
    (charted : sink.Charted view.ways device) {link : Link} (way : view.ways session = some link)
    {captured : InputEvent}
    (aside :
      ∀ tested,
        sink.aside tested =
          (view.sinks device).aside tested ++ if session = tested then [captured] else [])
    (switches : sink.switches = (view.sinks device).switches) :
    (view.withSink device sink).Delivers route firm hand injected
      (routed ++ if device = route.sink ∧ session = route.session then [captured] else []) := by
  by_cases ours : device = route.sink ∧ session = route.session
  · obtain ⟨rfl, rfl⟩ := ours
    rw [if_pos ⟨rfl, rfl⟩]
    refine ⟨delivers.charted.withSink charted, ?_, ?_, ?_⟩
    · intro none
      change view.ways route.session = Option.none at none
      rw [none] at way
      cases way
    · intro known
      rw [List.map_append]
      exact (delivers.ordered known).trans (List.prefix_append _ _)
    · intro known stays knows
      rw [lane_withSink_self]
      apply (delivers.runs known stays knows).collect _ switches
      rw [aside, if_pos rfl]
      rfl
  · rw [if_neg ours, List.append_nil]
    apply delivers.withSink charted
    · intro here _
      rw [aside, if_neg fun same => ours ⟨here, same⟩, List.append_nil]
    · intro _ _
      rw [switches]
      exact id

/-! ## Broken links -/

/-- A link breaks, and both ends will hear of it. -/
theorem sever (delivers : view.Delivers route firm hand injected routed) {link : Link}
    (linked : view.hub.links[session]? = some link) {middle hub : Hub Parcel}
    (toOpener :
      Hub.Delivered link.opener (.closed session) (view.unlink session).hub middle)
    (toAcceptor : Hub.Delivered link.acceptor (.closed session) middle hub) :
    (view.withHub hub).Delivers route firm hand injected routed := by
  have way := delivers.charted.linked linked
  have first : (TransportEvent.closed session : TransportEvent Parcel).Suits link link.opener :=
    .closed (Or.inl rfl)
  have second : (TransportEvent.closed session : TransportEvent Parcel).Suits link link.acceptor :=
    .closed (Or.inr rfl)
  let heard := (view.unlink session).withHub middle
  have last : Hub.Delivered link.acceptor (.closed session) heard.hub hub := toAcceptor
  by_cases ours : session = route.session
  · subst ours
    have charted := ((delivers.charted.unlink route.session).put toOpener way first).put last way
      second
    refine ⟨charted, delivers.unborn, delivers.ordered, ?_⟩
    intro sameWay stays knows
    obtain rfl : link = route.link := Option.some.inj (way.symm.trans sameWay)
    have gone : route.session ∉ hub.links := by
      rw [toAcceptor.links_eq, toOpener.links_eq]
      exact fun listed => ((Table.mem_erase_iff ..).1 listed).1 rfl
    have mail (endpoint : Endpoint) :
        (view.withHub hub).mail endpoint = (heard.withHub hub).mail endpoint := rfl
    have parted (endpoint : Endpoint) :
        (view.unlink route.session).mail endpoint = view.mail endpoint := rfl
    have silent :
        (TransportEvent.closed route.session).message? route.session = none := rfl
    have lane :
        (view.withHub hub).lane route =
          { view.lane route with linked := False, sourceLoses := True, sinkLoses := True } := by
      simp only [View.lane, mail, mail_put last, heard, mail_put toOpener]
      simp [Route.link, parted, silent, View.withHub, gone]
    rw [lane]
    exact (delivers.runs sameWay stays knows).sever
  · have parted := delivers.unlink fun same => absurd same ours
    have hears := parted.put_other toOpener way first ours
    exact hears.put_other last way second ours

end Delivers

end View

end InputSharing
