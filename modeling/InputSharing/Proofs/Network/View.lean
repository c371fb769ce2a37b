import InputSharing.Proofs.Network.Depiction

/-!
# Charted views

A view is what matters of a network for the question what becomes of captured
events.  It also holds the ways: every link that there has ever been, under its
session.

A view is `Charted` when everybody keeps to the ways.  What waits for an endpoint
came on a way that ends there, sources and sinks know only ways that lead to them,
and messages between sources keep to the channels between sources.  All of this
stays true when a link breaks.
-/

namespace InputSharing

/-! ## Ways -/

/-- The message goes from one source to another. -/
def Message.isBetweenSources : Message → Bool
  | .relayRequest _ _ _ _ | .relayResult _ _ _ => true
  | _ => false

/-- An event that an endpoint may find on a link. -/
inductive TransportEvent.Suits (link : Link) (endpoint : Endpoint) :
    TransportEvent Parcel → Prop
  | opened {session : SessionId} {peer : DeviceId} :
      link.acceptor = endpoint → link.opener.device = peer →
      Suits link endpoint (.opened session peer)
  | frame {session : SessionId} {sequence : UInt64} {message : Message} :
      link.Ends endpoint →
      (message.isBetweenSources = true ↔ link.acceptor.role = .source) →
      Suits link endpoint (.frame session (.composed sequence message))
  | closed {session : SessionId} : link.Ends endpoint → Suits link endpoint (.closed session)

/-- The ways of before are among the ways of after. -/
def Widens (before after : SessionId → Option Link) : Prop :=
  ∀ ⦃session link⦄, before session = some link → after session = some link

theorem Widens.refl (ways : SessionId → Option Link) : Widens ways ways := fun _ _ way => way

/-- A source keeps to the ways. -/
structure Source.Charted (source : Source) (ways : SessionId → Option Link)
    (device : DeviceId) : Prop where
  known :
    ∀ {session channel}, source.registry.bySession[session]? = some channel →
      ∃ link, ways session = some link ∧ link.Ends ⟨device, .source⟩ ∧
        link.otherEnd ⟨device, .source⟩ = channel.remote
  coherent : source.registry.Coherent
  origins :
    ∀ {token : RelayToken} {correlation : Correlation} {session},
      source.relays.live[token]? = some correlation → correlation.origin = some session →
        ∃ link, ways session = some link ∧ link.acceptor.role = .source
  tokens :
    ∀ {token}, token ∈ source.relays.live →
      token.number.toNat ≤ source.relays.last.number.toNat

/-- A sink keeps to the ways. -/
def Sink.Charted (sink : Sink) (ways : SessionId → Option Link) (device : DeviceId) : Prop :=
  ∀ ⦃session channel⦄, sink.registry.bySession[session]? = some channel →
    ∃ link, ways session = some link ∧ link.acceptor = ⟨device, .sink⟩ ∧
      link.opener.device = channel.peer

namespace Source.Charted

variable {source : Source} {ways : SessionId → Option Link} {device : DeviceId}

theorem mono (charted : source.Charted ways device) {later : SessionId → Option Link}
    (grown : Widens ways later) : source.Charted later device where
  known := by
    intro session channel found
    obtain ⟨link, way, leads⟩ := charted.known found
    exact ⟨link, grown way, leads⟩
  coherent := charted.coherent
  origins := by
    intro token correlation session live origin
    obtain ⟨link, way, role⟩ := charted.origins live origin
    exact ⟨link, grown way, role⟩
  tokens := charted.tokens

/-- Only the channels and the tokens matter. -/
theorem of_same (charted : source.Charted ways device) {after : Source}
    (byPeer : after.registry.byPeer = source.registry.byPeer)
    (bySession : after.registry.bySession = source.registry.bySession)
    (relays : after.relays = source.relays) : after.Charted ways device where
  known := by
    rw [bySession]
    exact charted.known
  coherent := by
    refine ⟨?_, ?_⟩
    · rw [byPeer, bySession]
      exact charted.coherent.leads
    · rw [byPeer, bySession]
      exact charted.coherent.reached
  origins := by
    rw [relays]
    exact charted.origins
  tokens := by
    rw [relays]
    exact charted.tokens

/-- A channel is entered that belongs to a way. -/
theorem enter (charted : source.Charted ways device) {channel : Channel}
    (coherent : (source.registry.enter channel).Coherent)
    (leads :
      ∃ link, ways channel.session = some link ∧ link.Ends ⟨device, .source⟩ ∧
        link.otherEnd ⟨device, .source⟩ = channel.remote) :
    ({ source with registry := source.registry.enter channel } : Source).Charted ways device := by
  refine ⟨?_, coherent, charted.origins, charted.tokens⟩
  intro session known found
  change (source.registry.bySession.insert channel.session channel)[session]? = _ at found
  rw [Table.getElem?_insert_eq] at found
  split at found
  · next same =>
    rw [← same, ← Option.some.inj found]
    exact leads
  · exact charted.known found

/-- A channel is gone. -/
theorem closed (charted : source.Charted ways device) (session : SessionId) :
    ({ source with registry := (source.registry.closed session).2 } : Source).Charted ways
      device := by
  refine ⟨?_, charted.coherent.closed session, charted.origins, charted.tokens⟩
  intro tested channel found
  change (source.registry.closed session).2.bySession[tested]? = _ at found
  rw [Registry.bySession_closed, Table.getElem?_erase_eq] at found
  split at found
  · cases found
  · exact charted.known found

/-- A way by which a remote endpoint is reached. -/
theorem way (charted : source.Charted ways device) {remote : Endpoint} {session : SessionId}
    (reached : source.registry.byPeer[remote]? = some session) :
    ∃ link, ways session = some link ∧ link.Ends ⟨device, .source⟩ ∧
      link.otherEnd ⟨device, .source⟩ = remote := by
  obtain ⟨channel, found, leads⟩ := charted.coherent.leads remote session reached
  obtain ⟨link, way, ends, other⟩ := charted.known found
  exact ⟨link, way, ends, other.trans leads⟩

end Source.Charted

theorem Sink.Charted.mono {sink : Sink} {ways later : SessionId → Option Link}
    {device : DeviceId} (charted : sink.Charted ways device) (grown : Widens ways later) :
    sink.Charted later device := by
  intro session channel found
  obtain ⟨link, way, accepts⟩ := charted found
  exact ⟨link, grown way, accepts⟩

/-- On a way from a source, sources accept what other sources send. -/
theorem Link.acceptor_role {link : Link} {device : DeviceId} (opener : link.opener.role = .source)
    (ends : link.Ends ⟨device, .source⟩) :
    link.acceptor.role = (link.otherEnd ⟨device, .source⟩).role := by
  rw [Link.otherEnd]
  split
  · rfl
  · next other =>
    cases ends with
    | inl same => exact absurd same other
    | inr same => rw [same, opener]

/-! ## Views -/

/-- A network with its past ways, while one half of a node may be reacting. -/
@[ext]
structure View where
  ways : SessionId → Option Link
  hub : Hub Parcel
  /-- The events that wait in the queues of the nodes. -/
  held : Endpoint → List (TransportEvent Parcel)
  sources : DeviceId → Source
  sinks : DeviceId → Sink

namespace View

variable (view : View)

/-- The events that one half of a node is still to react to. -/
def mail (endpoint : Endpoint) : List (TransportEvent Parcel) :=
  view.held endpoint ++ view.hub.mail endpoint

def withHub (hub : Hub Parcel) : View := { view with hub }

def withSource (device : DeviceId) (source : Source) : View :=
  { view with sources := Function.update view.sources device source }

def withSink (device : DeviceId) (sink : Sink) : View :=
  { view with sinks := Function.update view.sinks device sink }

/-- An event is taken from the queue of an endpoint. -/
def take (endpoint : Endpoint) (left : List (TransportEvent Parcel)) : View :=
  { view with held := Function.update view.held endpoint left }

/-- A link is gone. -/
def unlink (session : SessionId) : View :=
  view.withHub { view.hub with links := view.hub.links.erase session }

/-- The session of the next link. -/
def next : SessionId := ⟨view.hub.lastSession.number + 1⟩

/-- A new link. -/
def link (link : Link) : View :=
  { view with
    ways := Function.update view.ways view.next (some link)
    hub :=
      { view.hub with
        lastSession := view.next
        links := view.hub.links.insert view.next link } }

/-- Everybody keeps to the ways. -/
structure Charted : Prop where
  sound : view.hub.Sound
  linked : ∀ {session link}, view.hub.links[session]? = some link → view.ways session = some link
  numbered :
    ∀ {session link}, view.ways session = some link →
      session.number.toNat ≤ view.hub.lastSession.number.toNat
  opener_role : ∀ {session link}, view.ways session = some link → link.opener.role = .source
  registered :
    ∀ {session link}, view.ways session = some link →
      link.opener ∈ view.hub.directory ∧ link.acceptor ∈ view.hub.directory
  addressed :
    ∀ {endpoint event}, event ∈ view.mail endpoint →
      ∃ link, view.ways event.session = some link ∧ event.Suits link endpoint
  sources : ∀ device, (view.sources device).Charted view.ways device
  sinks : ∀ device, (view.sinks device).Charted view.ways device

variable {view}

/-! ## Sending and taking -/

section Mail

variable {endpoint : Endpoint} {event : TransportEvent Parcel} {hub : Hub Parcel}

theorem mail_put (delivered : Hub.Delivered endpoint event view.hub hub) :
    (view.withHub hub).mail =
      Function.update view.mail endpoint (view.mail endpoint ++ [event]) := by
  funext tested
  change view.held tested ++ hub.mail tested = _
  rw [delivered.mail_eq]
  by_cases same : tested = endpoint
  · rw [same, Function.update_self, Function.update_self, mail, List.append_assoc]
  · rw [Function.update_of_ne same, Function.update_of_ne same, mail]

theorem mail_take {left : List (TransportEvent Parcel)}
    (first : view.held endpoint = event :: left) :
    (view.take endpoint left).mail =
      Function.update view.mail endpoint (view.mail endpoint).tail := by
  funext tested
  change Function.update view.held endpoint left tested ++ view.hub.mail tested = _
  by_cases same : tested = endpoint
  · rw [same, Function.update_self, Function.update_self, mail, first]
    rfl
  · rw [Function.update_of_ne same, Function.update_of_ne same, mail]

theorem mail_of_held {left : List (TransportEvent Parcel)}
    (first : view.held endpoint = event :: left) :
    view.mail endpoint = event :: (view.take endpoint left).mail endpoint := by
  rw [mail_take first, Function.update_self, mail, first]
  rfl

end Mail

namespace Charted

/-- What waits may become less. -/
theorem of_fewer (charted : view.Charted) {hub : Hub Parcel}
    {held : Endpoint → List (TransportEvent Parcel)} (sound : hub.Sound)
    (directory : hub.directory = view.hub.directory) (links : hub.links = view.hub.links)
    (last : hub.lastSession = view.hub.lastSession)
    (fewer : ∀ endpoint, held endpoint ++ hub.mail endpoint ⊆ view.mail endpoint) :
    ({ view with hub, held } : View).Charted where
  sound := sound
  linked := by
    rw [links]
    exact charted.linked
  numbered := by
    rw [last]
    exact charted.numbered
  opener_role := charted.opener_role
  registered := by
    rw [directory]
    exact charted.registered
  addressed := fun member => charted.addressed (fewer _ member)
  sources := charted.sources
  sinks := charted.sinks

theorem take (charted : view.Charted) {endpoint : Endpoint} {event : TransportEvent Parcel}
    {left : List (TransportEvent Parcel)} (first : view.held endpoint = event :: left) :
    (view.take endpoint left).Charted := by
  apply charted.of_fewer charted.sound rfl rfl rfl
  intro tested
  change (view.take endpoint left).mail tested ⊆ _
  rw [mail_take first]
  by_cases same : tested = endpoint
  · rw [same, Function.update_self]
    exact (List.tail_sublist _).subset
  · rw [Function.update_of_ne same]
    exact List.Subset.refl _

/-- An event comes to wait that suits the way on which it comes. -/
theorem put (charted : view.Charted) {endpoint : Endpoint} {event : TransportEvent Parcel}
    {hub : Hub Parcel} (delivered : Hub.Delivered endpoint event view.hub hub) {link : Link}
    (way : view.ways event.session = some link) (suits : event.Suits link endpoint) :
    (view.withHub hub).Charted where
  sound := delivered.sound
  linked := by
    change ∀ {session link}, hub.links[session]? = some link → _
    rw [delivered.links_eq]
    exact charted.linked
  numbered := by
    change ∀ {session link}, _ → _ ≤ hub.lastSession.number.toNat
    rw [delivered.lastSession_eq]
    exact charted.numbered
  opener_role := charted.opener_role
  registered := by
    change ∀ {session link}, _ → _ ∈ hub.directory ∧ _ ∈ hub.directory
    rw [delivered.directory_eq]
    exact charted.registered
  addressed := by
    intro tested other member
    rw [mail_put delivered] at member
    by_cases same : tested = endpoint
    · rw [same, Function.update_self] at member
      rcases List.mem_append.1 member with before | last
      · rw [same]
        exact charted.addressed before
      · rw [same, List.mem_singleton.1 last]
        exact ⟨link, way, suits⟩
    · rw [Function.update_of_ne same] at member
      exact charted.addressed member
  sources := charted.sources
  sinks := charted.sinks

/-! ## Those who know of ways -/

theorem withSource (charted : view.Charted) {device : DeviceId} {source : Source}
    (keeps : source.Charted view.ways device) : (view.withSource device source).Charted where
  sound := charted.sound
  linked := charted.linked
  numbered := charted.numbered
  opener_role := charted.opener_role
  registered := charted.registered
  addressed := charted.addressed
  sources := by
    intro tested
    by_cases same : tested = device
    · subst same
      simpa [View.withSource] using keeps
    · simpa [View.withSource, same] using charted.sources tested
  sinks := charted.sinks

theorem withSink (charted : view.Charted) {device : DeviceId} {sink : Sink}
    (keeps : sink.Charted view.ways device) : (view.withSink device sink).Charted where
  sound := charted.sound
  linked := charted.linked
  numbered := charted.numbered
  opener_role := charted.opener_role
  registered := charted.registered
  addressed := charted.addressed
  sources := charted.sources
  sinks := by
    intro tested session channel found
    by_cases same : tested = device
    · subst same
      simp only [View.withSink, Function.update_self] at found
      exact keeps found
    · simp only [View.withSink, Function.update_of_ne same] at found
      exact charted.sinks tested found

/-! ## Links -/

/-- Whoever is at the other end of a way is registered. -/
theorem otherEnd_registered (charted : view.Charted) {session : SessionId} {link : Link}
    (way : view.ways session = some link) (here : Endpoint) :
    link.otherEnd here ∈ view.hub.directory := by
  rcases link.ends_otherEnd here with opens | accepts
  · rw [← opens]
    exact (charted.registered way).1
  · rw [← accepts]
    exact (charted.registered way).2

theorem unlink (charted : view.Charted) (session : SessionId) : (view.unlink session).Charted where
  sound := ⟨charted.sound.attended, charted.sound.separate⟩
  linked := by
    intro tested link found
    change (view.hub.links.erase session)[tested]? = some link at found
    rw [Table.getElem?_erase_eq] at found
    split at found
    · cases found
    · exact charted.linked found
  numbered := charted.numbered
  opener_role := charted.opener_role
  registered := charted.registered
  addressed := charted.addressed
  sources := charted.sources
  sinks := charted.sinks

theorem next_number (room : view.hub.lastSession.number.toNat + 1 < UInt32.size) :
    view.next.number.toNat = view.hub.lastSession.number.toNat + 1 := by
  rw [next, UInt32.toNat_add]
  exact Nat.mod_eq_of_lt room

/-- No way goes by the session of the next link. -/
theorem way_next (charted : view.Charted)
    (room : view.hub.lastSession.number.toNat + 1 < UInt32.size) :
    view.ways view.next = none := by
  cases way : view.ways view.next with
  | none => rfl
  | some link =>
      have small := charted.numbered way
      rw [next_number room] at small
      omega

theorem widens_link (charted : view.Charted)
    (room : view.hub.lastSession.number.toNat + 1 < UInt32.size) (link : Link) :
    Widens view.ways (view.link link).ways := by
  intro session other way
  have different : session ≠ view.next := by
    intro same
    rw [same, charted.way_next room] at way
    cases way
  simpa [View.link, different] using way

theorem link (charted : view.Charted)
    (room : view.hub.lastSession.number.toNat + 1 < UInt32.size) {link : Link}
    (opener : link.opener.role = .source)
    (registered : link.opener ∈ view.hub.directory ∧ link.acceptor ∈ view.hub.directory) :
    (view.link link).Charted where
  sound := ⟨charted.sound.attended, charted.sound.separate⟩
  linked := by
    intro session found known
    change (view.hub.links.insert view.next link)[session]? = some found at known
    change Function.update view.ways view.next (some link) session = some found
    rw [Table.getElem?_insert_eq] at known
    by_cases same : session = view.next
    · rw [if_pos same.symm] at known
      rw [same, Function.update_self]
      exact known
    · rw [if_neg fun equal => same equal.symm] at known
      rw [Function.update_of_ne same]
      exact charted.linked known
  numbered := by
    intro session found way
    change Function.update view.ways view.next (some link) session = some found at way
    change session.number.toNat ≤ view.next.number.toNat
    by_cases same : session = view.next
    · exact Nat.le_of_eq (congrArg (fun tested : SessionId => tested.number.toNat) same)
    · rw [Function.update_of_ne same] at way
      have small := charted.numbered way
      rw [next_number room]
      omega
  opener_role := by
    intro session found way
    change Function.update view.ways view.next (some link) session = some found at way
    by_cases same : session = view.next
    · rw [same, Function.update_self] at way
      rw [← Option.some.inj way]
      exact opener
    · rw [Function.update_of_ne same] at way
      exact charted.opener_role way
  registered := by
    intro session found way
    change Function.update view.ways view.next (some link) session = some found at way
    change found.opener ∈ view.hub.directory ∧ found.acceptor ∈ view.hub.directory
    by_cases same : session = view.next
    · rw [same, Function.update_self] at way
      rw [← Option.some.inj way]
      exact registered
    · rw [Function.update_of_ne same] at way
      exact charted.registered way
  addressed := by
    intro endpoint event member
    obtain ⟨found, way, suits⟩ := charted.addressed member
    exact ⟨found, charted.widens_link room link way, suits⟩
  sources := fun device => (charted.sources device).mono (charted.widens_link room link)
  sinks := fun device => Sink.Charted.mono (charted.sinks device) (charted.widens_link room link)

end Charted

end View

end InputSharing
