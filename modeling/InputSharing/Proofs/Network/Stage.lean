import InputSharing.Proofs.Network.Channels
import InputSharing.Proofs.Source.Relaying

/-!
# Reactions on a stage

While one half of a node reacts to something, the network is a scene, the reaction
is on its stage, and whatever it does to its transport or to itself is one of the
small changes of the scene.

What a reaction sends is put down to the call that it deals with.  The calls that
it ends are that very call, or calls that end because a channel is gone.
-/

namespace InputSharing

/-- What stays fixed while one half of a node reacts. -/
structure Setting where
  /-- The scene in which the reaction began. -/
  base : Scene
  /-- The places of the mailboxes. -/
  directory : Table Endpoint Nat
  /-- The events that wait in the queues of the nodes. -/
  held : Endpoint → List (TransportEvent Parcel)
  /-- What the events are put down to that wait when the reaction begins. -/
  origins : Endpoint → List Cause
  /-- The call that the reaction deals with, and the endpoint that reacts. -/
  cause : Cause
  /-- The calls that the reaction may end, unless they end because a channel is gone. -/
  ends : Completion Grant → Prop

namespace Setting

/-- A call may end with the reaction that a setting belongs to. -/
def Credits (setting : Setting) (completion : Completion Grant) : Prop :=
  completion.result = .error .disconnected ∨ setting.ends completion

/-- A call is served; it may be refused. -/
structure DealsWith (setting : Setting) (ticket : Ticket) : Prop where
  call_eq : setting.cause.call = some ticket
  refuses : ∀ error, setting.ends ⟨ticket, .error error⟩

end Setting

namespace Scene

/-- What holds of a scene between two small changes. -/
structure Consistent (scene : Scene) (doomed : Option SessionId) (hand : List Burden) : Prop where
  wired : scene.Wired
  orderly : scene.Orderly
  accounted : scene.Accounted doomed hand

/-- A hub is in the state that a scene shows. -/
structure Shows (scene : Scene) (setting : Setting) (hub : Hub Parcel) : Prop where
  sound : hub.Sound
  links_eq : ∀ session, hub.links[session]? = scene.links session
  last_eq : hub.lastSession = scene.last
  directory_eq : hub.directory = setting.directory
  registered_iff : ∀ endpoint, endpoint ∈ hub.directory ↔ scene.registered endpoint.device
  events_eq :
    ∀ endpoint,
      (scene.mail endpoint).map Letter.event = setting.held endpoint ++ hub.mail endpoint
  causes_eq :
    ∀ endpoint, ∃ count,
      (scene.mail endpoint).map Letter.cause =
        setting.origins endpoint ++ List.replicate count setting.cause

namespace Shows

variable {scene : Scene} {setting : Setting} {hub : Hub Parcel}

theorem put (shows : scene.Shows setting hub) {endpoint : Endpoint}
    {event : TransportEvent Parcel} {after : Hub Parcel}
    (delivered : Hub.Delivered endpoint event hub after) (owner : Option Ticket) :
    (scene.put endpoint ⟨event, owner, setting.cause⟩).Shows setting after where
  sound := delivered.sound
  links_eq := by
    intro session
    rw [delivered.links_eq]
    exact shows.links_eq session
  last_eq := delivered.lastSession_eq.trans shows.last_eq
  directory_eq := delivered.directory_eq.trans shows.directory_eq
  registered_iff := by
    intro tested
    rw [delivered.directory_eq]
    exact shows.registered_iff tested
  events_eq := by
    intro tested
    have before := shows.events_eq tested
    rw [delivered.mail_eq]
    by_cases same : tested = endpoint
    · subst same
      rw [mail_put_self, Function.update_self, List.map_append, before, List.append_assoc]
      rfl
    · rw [mail_put_of_ne same, Function.update_of_ne same]
      exact before
  causes_eq := by
    intro tested
    obtain ⟨count, before⟩ := shows.causes_eq tested
    by_cases same : tested = endpoint
    · subst same
      refine ⟨count + 1, ?_⟩
      rw [mail_put_self, List.map_append, before, List.append_assoc, List.replicate_succ']
      rfl
    · refine ⟨count, ?_⟩
      rw [mail_put_of_ne same]
      exact before

theorem relink (shows : scene.Shows setting hub) {links : SessionId → Option Link}
    {table : Table SessionId Link} (last : SessionId)
    (same : ∀ session, table[session]? = links session) :
    (scene.relink links last).Shows setting { hub with links := table, lastSession := last } where
  sound := ⟨shows.sound.attended, shows.sound.separate⟩
  links_eq := same
  last_eq := rfl
  directory_eq := shows.directory_eq
  registered_iff := shows.registered_iff
  events_eq := shows.events_eq
  causes_eq := shows.causes_eq

/-- A hub shows nothing of what sources know. -/
theorem withSource (shows : scene.Shows setting hub) (device : DeviceId) (standing : Standing) :
    (scene.withSource device standing).Shows setting hub where
  sound := shows.sound
  links_eq := shows.links_eq
  last_eq := shows.last_eq
  directory_eq := shows.directory_eq
  registered_iff := shows.registered_iff
  events_eq := shows.events_eq
  causes_eq := shows.causes_eq

theorem withOwner (shows : scene.Shows setting hub) (device : DeviceId) (token : RelayToken)
    (ticket : Option Ticket) : (scene.withOwner device token ticket).Shows setting hub where
  sound := shows.sound
  links_eq := shows.links_eq
  last_eq := shows.last_eq
  directory_eq := shows.directory_eq
  registered_iff := shows.registered_iff
  events_eq := shows.events_eq
  causes_eq := shows.causes_eq

theorem withSink (shows : scene.Shows setting hub) (device : DeviceId)
    (known : SessionId → Prop) : (scene.withSink device known).Shows setting hub where
  sound := shows.sound
  links_eq := shows.links_eq
  last_eq := shows.last_eq
  directory_eq := shows.directory_eq
  registered_iff := shows.registered_iff
  events_eq := shows.events_eq
  causes_eq := shows.causes_eq

theorem dial (shows : scene.Shows setting hub) (device : DeviceId) {peer : DeviceId}
    (role : Role) (registered : scene.registered peer) :
    ∃ after,
      hub.dial ⟨device, .source⟩ peer role = (.ok scene.next, after) ∧
        (scene.dial device ⟨peer, role⟩ setting.cause).Shows setting after := by
  have known : (⟨peer, role⟩ : Endpoint) ∈ hub.directory :=
    (shows.registered_iff ⟨peer, role⟩).2 registered
  obtain ⟨after, dialled, delivered⟩ :=
    Hub.dial_of_registered (⟨device, .source⟩ : Endpoint) shows.sound known
  have next : (⟨hub.lastSession.number + 1⟩ : SessionId) = scene.next := by
    rw [shows.last_eq]
    rfl
  rw [next] at dialled delivered
  refine ⟨after, dialled, ?_⟩
  have links (session : SessionId) :
      (hub.links.insert scene.next ⟨⟨device, .source⟩, ⟨peer, role⟩⟩)[session]? =
        Function.update scene.links scene.next (some ⟨⟨device, .source⟩, ⟨peer, role⟩⟩)
          session := by
    rw [Table.getElem?_insert_eq]
    by_cases same : session = scene.next
    · rw [same, if_pos rfl, Function.update_self]
    · rw [if_neg fun equal => same equal.symm, Function.update_of_ne same]
      exact shows.links_eq session
  have joined := (shows.relink scene.next links).withSource device
    ((scene.sources device).enter
      { peer, remoteRole := role, session := scene.next, outbound := true })
  exact joined.put delivered setting.cause.call

theorem hangUp (shows : scene.Shows setting hub) {device sink : DeviceId} {session : SessionId}
    (linked : scene.links session = some ⟨⟨device, .source⟩, ⟨sink, .sink⟩⟩)
    (registered : scene.registered sink) :
    (scene.hangUp device sink session setting.cause).Shows setting
      (hub.hangUp ⟨device, .source⟩ session) := by
  have found := (shows.links_eq session).trans linked
  have leads :
      (⟨⟨device, .source⟩, ⟨sink, .sink⟩⟩ : Link).otherEnd ⟨device, .source⟩ = ⟨sink, .sink⟩ :=
    if_pos rfl
  have known : (⟨sink, .sink⟩ : Endpoint) ∈ hub.directory :=
    (shows.registered_iff ⟨sink, .sink⟩).2 registered
  rw [← leads] at known
  have delivered := Hub.hangUp_of_link (⟨device, .source⟩ : Endpoint) shows.sound found known
  rw [leads] at delivered
  have links (other : SessionId) :
      (hub.links.erase session)[other]? = Function.update scene.links session none other := by
    rw [Table.getElem?_erase_eq]
    by_cases same : other = session
    · rw [same, if_pos rfl, Function.update_self]
    · rw [if_neg fun equal => same equal.symm, Function.update_of_ne same]
      exact shows.links_eq other
  have last : { hub with links := hub.links.erase session, lastSession := scene.last } =
      { hub with links := hub.links.erase session } := by
    rw [← shows.last_eq]
  have unlinked := (shows.relink scene.last links).withSource device
    ((scene.sources device).forget ⟨sink, .sink⟩ session)
  rw [last] at unlinked
  exact unlinked.put delivered setting.cause.call

end Shows

end Scene

end InputSharing
