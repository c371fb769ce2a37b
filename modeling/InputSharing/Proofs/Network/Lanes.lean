import InputSharing.Proofs.Network.Lane
import InputSharing.Proofs.Network.View

/-!
# Lanes of views

A view delivers on a route when it is charted and the lane of the route runs, as
long as the source knows the channel.  While a source gives up a sink, the lanes to
this sink are not looked at; the view is then not firm.
-/

namespace InputSharing

/-- The message that an event brings on a channel. -/
def TransportEvent.message? (session : SessionId) : TransportEvent Parcel → Option Message
  | .frame tested (.composed _ message) => if tested = session then some message else none
  | _ => none

theorem TransportEvent.message?_of_ne {event : TransportEvent Parcel} {session : SessionId}
    (other : event.session ≠ session) : event.message? session = none := by
  cases event with
  | opened tested peer => rfl
  | closed tested => rfl
  | frame tested parcel =>
      cases parcel with
      | raw bytes => rfl
      | composed sequence message => exact if_neg other

theorem TransportEvent.ne_closed_of_ne {event : TransportEvent Parcel} {session : SessionId}
    (other : event.session ≠ session) : event ≠ .closed session := by
  rintro rfl
  exact other rfl

/-- A source that loses nothing of what matters to a route. -/
structure Source.Retains (before after : Source) (route : Route) : Prop where
  known : route.session ∈ before.registry.bySession
  prepared : route.sink ∈ before.beliefs → route.sink ∈ after.beliefs
  holds : ∀ token, before.Holds route.sink token → after.Holds route.sink token

/-- A route begins at a source, and the source knows its channel. -/
structure Source.Opens (source : Source) (ways : SessionId → Option Link) (device : DeviceId)
    (route : Route) : Prop where
  way : ways route.session = some route.link
  here : device = route.source
  known : route.session ∈ source.registry.bySession

/-- The sink of a route is reached on its channel and on no other. -/
theorem Source.Opens.reached {source : Source} {ways : SessionId → Option Link}
    {device : DeviceId} {route : Route} (opens : source.Opens ways device route)
    (charted : source.Charted ways device) :
    source.registry.byPeer[(⟨route.sink, .sink⟩ : Endpoint)]? = some route.session := by
  obtain ⟨channel, found⟩ := (Table.mem_iff_exists _ _).1 opens.known
  obtain ⟨link, way, _, leads⟩ := charted.known found
  obtain rfl : link = route.link := Option.some.inj (way.symm.trans opens.way)
  have remote : channel.remote = ⟨route.sink, .sink⟩ := by
    rw [← leads, opens.here]
    exact if_pos rfl
  have reached := charted.coherent.reached _ channel found (congrArg Endpoint.role remote)
  rw [remote] at reached
  exact reached

/-- Nobody else is reached there. -/
theorem Source.Opens.sink_eq {source : Source} {ways : SessionId → Option Link}
    {device : DeviceId} {route : Route} (opens : source.Opens ways device route)
    (charted : source.Charted ways device) {remote : Endpoint}
    (reached : source.registry.byPeer[remote]? = some route.session) :
    remote = ⟨route.sink, .sink⟩ := by
  obtain ⟨link, way, _, leads⟩ := charted.way reached
  obtain rfl : link = route.link := Option.some.inj (way.symm.trans opens.way)
  rw [← leads, opens.here]
  exact if_pos rfl

namespace View

/-- The lane of a route. -/
def lane (view : View) (route : Route) : Lane where
  linked := route.session ∈ view.hub.links
  up := (view.mail ⟨route.source, .source⟩).filterMap (TransportEvent.message? route.session)
  down := (view.mail ⟨route.sink, .sink⟩).filterMap (TransportEvent.message? route.session)
  sourceLoses := .closed route.session ∈ view.mail ⟨route.source, .source⟩
  sinkLoses := .closed route.session ∈ view.mail ⟨route.sink, .sink⟩
  source := view.sources route.source
  sink := view.sinks route.sink

/-- Nothing is lost on a route. -/
structure Delivers (view : View) (route : Route) (firm : Prop) (hand : List RelayToken)
    (injected : List (DeviceId × InputEvent)) (routed : List InputEvent) : Prop where
  charted : view.Charted
  unborn : view.ways route.session = none → injected = [] ∧ routed = []
  ordered :
    view.ways route.session = some route.link → injected <+: routed.map (Prod.mk route.sink)
  runs :
    view.ways route.session = some route.link → firm →
      route.session ∈ (view.sources route.source).registry.bySession →
      (view.lane route).Runs route hand injected routed

variable {view : View} {route : Route} {firm : Prop} {hand : List RelayToken}
  {injected : List (DeviceId × InputEvent)} {routed : List InputEvent}

/-! ## The lane after small changes -/

section Changes

variable {endpoint : Endpoint} {event : TransportEvent Parcel} {hub : Hub Parcel}
  {message : Message} {sequence : UInt64}

theorem lane_put_of_none (delivered : Hub.Delivered endpoint event view.hub hub)
    (silent : event.message? route.session = none) (stays : event ≠ .closed route.session) :
    (view.withHub hub).lane route = view.lane route := by
  have mail (tested : Endpoint) :
      ((view.withHub hub).mail tested).filterMap (TransportEvent.message? route.session) =
        (view.mail tested).filterMap (TransportEvent.message? route.session) := by
    rw [mail_put delivered]
    by_cases same : tested = endpoint
    · subst same
      simp [silent]
    · simp [same]
  have news (tested : Endpoint) :
      .closed route.session ∈ (view.withHub hub).mail tested ↔
        .closed route.session ∈ view.mail tested := by
    rw [mail_put delivered]
    by_cases same : tested = endpoint
    · subst same
      simp [stays.symm]
    · simp [same]
  have links : (view.withHub hub).hub.links = view.hub.links := delivered.links_eq
  simp only [lane, mail, news, links]
  rfl

theorem lane_put_up
    (delivered :
      Hub.Delivered ⟨route.source, .source⟩ (.frame route.session (.composed sequence message))
        view.hub hub) :
    (view.withHub hub).lane route =
      { view.lane route with up := (view.lane route).up ++ [message] } := by
  have links : (view.withHub hub).hub.links = view.hub.links := delivered.links_eq
  simp only [lane, mail_put delivered, links]
  simp [TransportEvent.message?, withHub]

theorem lane_put_down
    (delivered :
      Hub.Delivered ⟨route.sink, .sink⟩ (.frame route.session (.composed sequence message))
        view.hub hub) :
    (view.withHub hub).lane route =
      { view.lane route with down := (view.lane route).down ++ [message] } := by
  have links : (view.withHub hub).hub.links = view.hub.links := delivered.links_eq
  simp only [lane, mail_put delivered, links]
  simp [TransportEvent.message?, withHub]

theorem lane_withSource_self (source : Source) :
    (view.withSource route.source source).lane route = { view.lane route with source } := by
  simp [lane, withSource, mail]

theorem lane_withSource_of_ne {device : DeviceId} (other : device ≠ route.source)
    (source : Source) : (view.withSource device source).lane route = view.lane route := by
  simp [lane, withSource, mail, other.symm]

theorem lane_withSink_self (sink : Sink) :
    (view.withSink route.sink sink).lane route = { view.lane route with sink } := by
  simp [lane, withSink, mail]

theorem lane_withSink_of_ne {device : DeviceId} (other : device ≠ route.sink) (sink : Sink) :
    (view.withSink device sink).lane route = view.lane route := by
  simp [lane, withSink, mail, other.symm]

theorem lane_unlink_of_ne {session : SessionId} (other : session ≠ route.session) :
    (view.unlink session).lane route = view.lane route := by
  have links :
      route.session ∈ view.hub.links.erase session ↔ route.session ∈ view.hub.links := by
    rw [Table.mem_erase_iff]
    exact and_iff_right other
  have mail (tested : Endpoint) : (view.unlink session).mail tested = view.mail tested := rfl
  simp only [lane, mail]
  simp [unlink, withHub, links]

theorem lane_link_of_ne (other : view.next ≠ route.session) (link : Link) :
    (view.link link).lane route = view.lane route := by
  have links :
      route.session ∈ view.hub.links.insert view.next link ↔
        route.session ∈ view.hub.links := by
    rw [Std.ExtTreeMap.mem_insert, Std.compare_eq_iff_eq]
    exact or_iff_right other
  have mail (tested : Endpoint) : (view.link link).mail tested = view.mail tested := rfl
  simp only [lane, mail]
  simp [View.link, links]

/-- Nothing is under way on a channel that has not been opened yet. -/
theorem lane_link_self (charted : view.Charted) (unborn : view.ways route.session = none)
    {link : Link} (same : view.next = route.session) (device : DeviceId) (source : Source) :
    ((view.link link).withSource device source).lane route =
      { linked := True
        up := []
        down := []
        sourceLoses := False
        sinkLoses := False
        source := ((view.link link).withSource device source).sources route.source
        sink := view.sinks route.sink } := by
  have fresh (endpoint : Endpoint) (event : TransportEvent Parcel)
      (member : event ∈ view.mail endpoint) : event.session ≠ route.session := by
    intro about
    obtain ⟨found, way, _⟩ := charted.addressed member
    rw [about, unborn] at way
    cases way
  have silent (endpoint : Endpoint) :
      (view.mail endpoint).filterMap (TransportEvent.message? route.session) = [] := by
    rw [List.filterMap_eq_nil_iff]
    intro event member
    exact TransportEvent.message?_of_ne (fresh endpoint event member)
  have noNews (endpoint : Endpoint) : .closed route.session ∉ view.mail endpoint := by
    intro member
    exact fresh endpoint _ member rfl
  have linked : route.session ∈ view.hub.links.insert view.next link := by
    rw [same]
    exact Std.ExtTreeMap.mem_insert_self
  have mail (endpoint : Endpoint) :
      ((view.link link).withSource device source).mail endpoint = view.mail endpoint := rfl
  simp only [lane, mail, silent, noNews]
  simp [View.link, View.withSource, linked]

theorem lane_take_of_none {left : List (TransportEvent Parcel)}
    (first : view.held endpoint = event :: left) (silent : event.message? route.session = none)
    (stays : event ≠ .closed route.session) :
    (view.take endpoint left).lane route = view.lane route := by
  have mail (tested : Endpoint) :
      ((view.take endpoint left).mail tested).filterMap
          (TransportEvent.message? route.session) =
        (view.mail tested).filterMap (TransportEvent.message? route.session) := by
    by_cases same : tested = endpoint
    · subst same
      rw [mail_of_held first, List.filterMap_cons, silent]
    · rw [mail_take first, Function.update_of_ne same]
  have news (tested : Endpoint) :
      .closed route.session ∈ (view.take endpoint left).mail tested ↔
        .closed route.session ∈ view.mail tested := by
    by_cases same : tested = endpoint
    · subst same
      rw [mail_of_held first, List.mem_cons]
      exact (or_iff_right stays.symm).symm
    · rw [mail_take first, Function.update_of_ne same]
  simp only [lane, mail, news]
  rfl

/-- The first message is taken from a lane. -/
theorem lane_take_up {left : List (TransportEvent Parcel)}
    (first :
      view.held ⟨route.source, .source⟩ =
        .frame route.session (.composed sequence message) :: left) :
    ∃ rest, (view.lane route).up = message :: rest ∧
      (view.take ⟨route.source, .source⟩ left).lane route =
        { view.lane route with up := rest } := by
  have mail := mail_of_held first
  have other :
      (view.take ⟨route.source, .source⟩ left).mail ⟨route.sink, .sink⟩ =
        view.mail ⟨route.sink, .sink⟩ := by
    rw [mail_take first, Function.update_of_ne]
    simp
  refine ⟨((view.take ⟨route.source, .source⟩ left).lane route).up, ?_, ?_⟩
  · simp only [lane, mail, List.filterMap_cons, TransportEvent.message?, if_true]
  · simp only [lane, mail, other, List.mem_cons]
    simp [take]

theorem lane_take_down {left : List (TransportEvent Parcel)}
    (first :
      view.held ⟨route.sink, .sink⟩ =
        .frame route.session (.composed sequence message) :: left) :
    ∃ rest, (view.lane route).down = message :: rest ∧
      (view.take ⟨route.sink, .sink⟩ left).lane route =
        { view.lane route with down := rest } := by
  have mail := mail_of_held first
  have other :
      (view.take ⟨route.sink, .sink⟩ left).mail ⟨route.source, .source⟩ =
        view.mail ⟨route.source, .source⟩ := by
    rw [mail_take first, Function.update_of_ne]
    simp
  refine ⟨((view.take ⟨route.sink, .sink⟩ left).lane route).down, ?_, ?_⟩
  · simp only [lane, mail, List.filterMap_cons, TransportEvent.message?, if_true]
  · simp only [lane, mail, other, List.mem_cons]
    simp [take]

end Changes

namespace Delivers

/-! ## The two ends -/

/-- A source that reacts keeps the lane running if it retains what matters. -/
theorem withSource (delivers : view.Delivers route firm hand injected routed) {device : DeviceId}
    {source : Source} (charted : source.Charted view.ways device) {still : Prop}
    (keeps : still → (device = route.source → source.Opens view.ways device route) → firm)
    (retains :
      still → source.Opens view.ways device route →
        (view.sources device).Retains source route) :
    (view.withSource device source).Delivers route still hand injected routed where
  charted := delivers.charted.withSource charted
  unborn := delivers.unborn
  ordered := delivers.ordered
  runs := by
    intro way stays knows
    by_cases here : device = route.source
    · subst here
      rw [lane_withSource_self]
      simp only [View.withSource, Function.update_self] at knows
      have opens : source.Opens view.ways route.source route := ⟨way, rfl, knows⟩
      have kept := retains stays opens
      apply (delivers.runs way (keeps stays fun _ => opens) kept.known).withSource kept.prepared
      exact fun token _ => kept.holds token
    · rw [lane_withSource_of_ne here]
      simp only [View.withSource, Function.update_of_ne (Ne.symm here)] at knows
      exact delivers.runs way (keeps stays fun same => absurd same here) knows

/-- A token in hand is used up. -/
theorem spend (token : RelayToken)
    (delivers : view.Delivers route firm hand injected routed) {device : DeviceId}
    {source : Source} (charted : source.Charted view.ways device)
    {left : List RelayToken} (fewer : left.Sublist hand)
    (spends :
      firm → source.Opens view.ways device route →
        hand = token :: left ∨ ¬(view.sources device).Holds route.sink token)
    (known :
      route.session ∈ source.registry.bySession →
        route.session ∈ (view.sources device).registry.bySession)
    (prepared : route.sink ∈ (view.sources device).beliefs → route.sink ∈ source.beliefs)
    (holds :
      ∀ other, other ≠ token →
        (view.sources device).Holds route.sink other → source.Holds route.sink other) :
    (view.withSource device source).Delivers route firm left injected routed where
  charted := delivers.charted.withSource charted
  unborn := delivers.unborn
  ordered := delivers.ordered
  runs := by
    intro way stays knows
    by_cases here : device = route.source
    · subst here
      rw [lane_withSource_self]
      simp only [View.withSource, Function.update_self] at knows
      have runs := delivers.runs way stays (known knows)
      rcases spends stays ⟨way, rfl, knows⟩ with first | strange
      · subst first
        exact runs.spend prepared holds
      · apply (runs.drop fewer).withSource prepared
        intro other _ held
        apply holds other _ held
        rintro rfl
        exact strange held
    · rw [lane_withSource_of_ne here]
      simp only [View.withSource, Function.update_of_ne (Ne.symm here)] at knows
      exact (delivers.runs way stays knows).drop fewer

/-- A new token is given out for a request on a channel. -/
theorem gain {token : RelayToken} {session : SessionId}
    (delivers : view.Delivers route firm [] injected routed) {device : DeviceId}
    {source : Source} (charted : source.Charted view.ways device)
    (fresh : ¬(view.sources device).Holds route.sink token)
    (ours :
      session = route.session → view.ways route.session = some route.link →
        device = route.source)
    (retains : source.Opens view.ways device route → (view.sources device).Retains source route)
    (holds :
      source.Opens view.ways device route → session = route.session →
        source.Holds route.sink token) :
    (view.withSource device source).Delivers route firm
      (if session = route.session then [token] else []) injected routed where
  charted := delivers.charted.withSource charted
  unborn := delivers.unborn
  ordered := delivers.ordered
  runs := by
    intro way stays knows
    by_cases here : device = route.source
    · subst here
      rw [lane_withSource_self]
      simp only [View.withSource, Function.update_self] at knows
      have opens : source.Opens view.ways route.source route := ⟨way, rfl, knows⟩
      have kept := retains opens
      have runs := delivers.runs way stays kept.known
      split
      · next same => exact runs.gain fresh kept.prepared kept.holds (holds opens same)
      · exact runs.withSource kept.prepared fun token _ => kept.holds token
    · rw [lane_withSource_of_ne here]
      simp only [View.withSource, Function.update_of_ne (Ne.symm here)] at knows
      rw [if_neg fun same => here (ours same way)]
      exact delivers.runs way stays knows

theorem drop (delivers : view.Delivers route firm hand injected routed)
    {fewer : List RelayToken} (sublist : fewer.Sublist hand) :
    view.Delivers route firm fewer injected routed where
  charted := delivers.charted
  unborn := delivers.unborn
  ordered := delivers.ordered
  runs := fun way stays knows => (delivers.runs way stays knows).drop sublist

/-- A sink keeps the lane running if it puts nothing aside and prepares nobody. -/
theorem withSink (delivers : view.Delivers route firm hand injected routed) {device : DeviceId}
    {sink : Sink} (charted : sink.Charted view.ways device)
    (aside :
      device = route.sink → route.session ∈ view.hub.links →
        sink.aside route.session = (view.sinks device).aside route.session)
    (switches :
      device = route.sink → route.session ∈ view.hub.links →
        route.session ∈ sink.switches → route.session ∈ (view.sinks device).switches) :
    (view.withSink device sink).Delivers route firm hand injected routed where
  charted := delivers.charted.withSink charted
  unborn := delivers.unborn
  ordered := delivers.ordered
  runs := by
    intro way stays knows
    by_cases here : device = route.sink
    · subst here
      rw [lane_withSink_self]
      exact (delivers.runs way stays knows).withSink (aside rfl) (switches rfl)
    · rw [lane_withSink_of_ne here]
      exact delivers.runs way stays knows

/-! ## What comes to wait -/

section Mail

variable {endpoint : Endpoint} {event : TransportEvent Parcel} {hub : Hub Parcel} {link : Link}

/-- What is not about the channel leaves its lane alone. -/
theorem put_of_none (delivers : view.Delivers route firm hand injected routed)
    (delivered : Hub.Delivered endpoint event view.hub hub)
    (way : view.ways event.session = some link) (suits : event.Suits link endpoint)
    (silent : event.message? route.session = none) (stays : event ≠ .closed route.session) :
    (view.withHub hub).Delivers route firm hand injected routed where
  charted := delivers.charted.put delivered way suits
  unborn := delivers.unborn
  ordered := delivers.ordered
  runs := by
    rw [lane_put_of_none delivered silent stays]
    exact delivers.runs

theorem put_other (delivers : view.Delivers route firm hand injected routed)
    (delivered : Hub.Delivered endpoint event view.hub hub)
    (way : view.ways event.session = some link) (suits : event.Suits link endpoint)
    (other : event.session ≠ route.session) :
    (view.withHub hub).Delivers route firm hand injected routed :=
  delivers.put_of_none delivered way suits (TransportEvent.message?_of_ne other)
    (TransportEvent.ne_closed_of_ne other)

end Mail

/-! ## New channels -/

/-- A source opens a channel.  If it is that of the route, nothing has happened on it yet. -/
theorem link (delivers : view.Delivers route firm [] injected routed)
    (room : view.hub.lastSession.number.toNat + 1 < UInt32.size) {link : Link}
    (opener : link.opener.role = .source)
    (registered : link.opener ∈ view.hub.directory ∧ link.acceptor ∈ view.hub.directory)
    (unused :
      view.ways route.session = none →
        (view.sinks route.sink).aside route.session = [] ∧
          route.session ∉ (view.sinks route.sink).switches)
    {device : DeviceId} {source : Source} (charted : source.Charted (view.link link).ways device)
    (retains :
      view.next ≠ route.session → route.session ∈ source.registry.bySession →
        (view.sources device).Retains source route) :
    ((view.link link).withSource device source).Delivers route firm [] injected routed := by
  have whole := (delivers.charted.link room opener registered).withSource charted
  by_cases same : view.next = route.session
  · have unborn : view.ways route.session = none := by
      rw [← same]
      exact delivers.charted.way_next room
    obtain ⟨nothing, none⟩ := delivers.unborn unborn
    subst nothing none
    refine ⟨whole, fun _ => ⟨rfl, rfl⟩, fun _ => List.prefix_rfl, ?_⟩
    intro _ _ _
    obtain ⟨aside, switches⟩ := unused unborn
    rw [lane_link_self delivers.charted unborn same]
    exact Lane.Runs.start aside switches
  · have kept : (view.link link).ways route.session = view.ways route.session := by
      exact Function.update_of_ne (Ne.symm same) ..
    have moved : (view.link link).Delivers route firm [] injected routed := by
      refine ⟨delivers.charted.link room opener registered, ?_, ?_, ?_⟩
      · rw [kept]
        exact delivers.unborn
      · rw [kept]
        exact delivers.ordered
      · rw [kept, lane_link_of_ne same]
        exact delivers.runs
    exact moved.withSource charted (fun stays _ => stays) fun _ opens => retains same opens.known

/-! ## Channels that are gone -/

/-- A channel is closed from the side of a source that has forgotten it, or it is not the
channel of the route. -/
theorem unlink (delivers : view.Delivers route firm hand injected routed) {session : SessionId}
    (forgotten :
      session = route.session → view.ways route.session = some route.link →
        route.session ∉ (view.sources route.source).registry.bySession) :
    (view.unlink session).Delivers route firm hand injected routed where
  charted := delivers.charted.unlink session
  unborn := delivers.unborn
  ordered := delivers.ordered
  runs := by
    intro way stays knows
    by_cases same : session = route.session
    · exact absurd knows (forgotten same way)
    · rw [lane_unlink_of_ne same]
      exact delivers.runs way stays knows

/-- What is put aside for a forgotten channel does not matter. -/
theorem put_of_forgotten (delivers : view.Delivers route firm hand injected routed)
    {endpoint : Endpoint} {event : TransportEvent Parcel} {hub : Hub Parcel} {link : Link}
    (delivered : Hub.Delivered endpoint event view.hub hub)
    (way : view.ways event.session = some link) (suits : event.Suits link endpoint)
    (forgotten :
      event.session = route.session → view.ways route.session = some route.link →
        route.session ∉ (view.sources route.source).registry.bySession) :
    (view.withHub hub).Delivers route firm hand injected routed := by
  by_cases same : event.session = route.session
  · refine ⟨delivers.charted.put delivered way suits, delivers.unborn, delivers.ordered, ?_⟩
    intro ours _ knows
    exact absurd knows (forgotten same ours)
  · exact delivers.put_other delivered way suits same

end Delivers

end View

end InputSharing
