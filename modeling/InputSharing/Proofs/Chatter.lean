import InputSharing.Proofs.Hub

/-!
# What is sent besides answers

Sinks answer requests; everything else that nodes send is chatter.  Chatter on the
hub adds to the mail of endpoints, but it adds no answer.
-/

namespace InputSharing

/-- The answer of a sink that a message brings. -/
def Message.reply? : Message → Option Reply
  | .reply _ answer | .relayedReply _ _ answer => some answer
  | _ => none

def Parcel.reply? : Parcel → Option Reply
  | composed _ message => message.reply?
  | raw _ => none

/-- The answer that an event brings. -/
def TransportEvent.reply? : TransportEvent Parcel → Option Reply
  | .frame _ parcel => parcel.reply?
  | _ => none

/-! ## Transports in use -/

/-- A transport is used, but no answer is sent. -/
inductive Transport.Chatters {τ : Type} [Transport τ] (line : τ) : τ → Prop
  | rest : Chatters line line
  | transmit {after : τ} (session : SessionId) {parcel : Parcel} :
      parcel.reply? = none → Chatters line after →
        Chatters line (Transport.transmit after session parcel).2
  | dial {after : τ} (peer : DeviceId) (role : Role) :
      Chatters line after → Chatters line (Transport.dial after peer role).2
  | hangUp {after : τ} (session : SessionId) :
      Chatters line after → Chatters line (Transport.hangUp after session)

namespace Transport.Chatters

variable {τ : Type} [Transport τ] {line middle after : τ}

theorem trans (first : Chatters line middle) (second : Chatters middle after) :
    Chatters line after := by
  induction second with
  | rest => exact first
  | transmit session plain _ inductionHypothesis =>
      exact .transmit session plain inductionHypothesis
  | dial peer role _ inductionHypothesis => exact .dial peer role inductionHypothesis
  | hangUp session _ inductionHypothesis => exact .hangUp session inductionHypothesis

theorem send (channels : Channels τ) (session : SessionId) {message : Message}
    (plain : message.reply? = none) :
    Chatters channels.line (channels.send session message).2.line := by
  rw [channels.line_send]
  exact .transmit session plain .rest

theorem connect (channels : Channels τ) (peer : DeviceId) (role : Role) :
    Chatters channels.line (channels.connect peer role).2.line := by
  cases known : channels.registry.channel? peer role with
  | some session =>
      rw [channels.connect_of_known known]
      exact .rest
  | none =>
      rw [channels.line_connect_of_unknown known]
      exact .dial peer role .rest

theorem disconnect (channels : Channels τ) (peer : DeviceId) (role : Role) :
    Chatters channels.line (channels.disconnect peer role).line := by
  rw [Channels.disconnect]
  split
  · exact .rest
  · exact .hangUp _ .rest

end Transport.Chatters

/-! ## Mail -/

namespace Hub

/-- Endpoints get more mail of a kind, and nothing else happens to mailboxes. -/
structure Fills (kind : TransportEvent Parcel → Prop) (before after : Hub Parcel) : Prop where
  sound : after.Sound
  directory_eq : after.directory = before.directory
  mail_grows :
    ∀ endpoint, ∃ more, after.mail endpoint = before.mail endpoint ++ more ∧
      ∀ event ∈ more, kind event

namespace Fills

variable {kind : TransportEvent Parcel → Prop} {before middle after hub : Hub Parcel}

theorem trans (first : Fills kind before middle) (second : Fills kind middle after) :
    Fills kind before after where
  sound := second.sound
  directory_eq := second.directory_eq.trans first.directory_eq
  mail_grows := by
    intro endpoint
    obtain ⟨more, grown, early⟩ := first.mail_grows endpoint
    obtain ⟨rest, whole, late⟩ := second.mail_grows endpoint
    refine ⟨more ++ rest, ?_, ?_⟩
    · rw [whole, grown, List.append_assoc]
    · intro event listed
      cases List.mem_append.1 listed with
      | inl before => exact early event before
      | inr after => exact late event after

theorem mono {other : TransportEvent Parcel → Prop} (fills : Fills kind before after)
    (implies : ∀ event, kind event → other event) : Fills other before after where
  sound := fills.sound
  directory_eq := fills.directory_eq
  mail_grows := by
    intro endpoint
    obtain ⟨more, grown, all⟩ := fills.mail_grows endpoint
    exact ⟨more, grown, fun event listed => implies event (all event listed)⟩

theorem of_delivered {endpoint : Endpoint} {event : TransportEvent Parcel}
    (delivered : Delivered endpoint event before after) (suits : kind event) :
    Fills kind before after where
  sound := delivered.sound
  directory_eq := delivered.directory_eq
  mail_grows := by
    intro tested
    rw [delivered.mail_eq]
    by_cases same : tested = endpoint
    · subst same
      rw [Function.update_self]
      refine ⟨[event], rfl, ?_⟩
      intro other listed
      exact List.mem_singleton.1 listed ▸ suits
    · rw [Function.update_of_ne same]
      exact ⟨[], (List.append_nil _).symm, by simp⟩

section Changes

variable (sound : hub.Sound)

include sound

/-- Links come and go without mail. -/
theorem relink (lastSession : SessionId) (links : Table SessionId Link) :
    Fills kind hub { hub with lastSession, links } where
  sound := ⟨sound.attended, sound.separate⟩
  directory_eq := rfl
  mail_grows := fun _ => ⟨[], (List.append_nil _).symm, by simp⟩

theorem refl : Fills kind hub hub := relink sound hub.lastSession hub.links

theorem deliver (endpoint : Endpoint) {event : TransportEvent Parcel} (suits : kind event) :
    Fills kind hub (hub.deliver endpoint event).2 := by
  by_cases registered : endpoint ∈ hub.directory
  · obtain ⟨after, delivers, delivered⟩ := deliver_of_registered event sound registered
    rw [delivers]
    exact of_delivered delivered suits
  · rw [Hub.deliver, Std.ExtTreeMap.getElem?_eq_none registered]
    exact refl sound

theorem transmit (here : Endpoint) (session : SessionId) {parcel : Parcel}
    (suits : kind (.frame session parcel)) :
    Fills kind hub (hub.transmit here session parcel).2 := by
  rw [Hub.transmit]
  split
  · exact refl sound
  · next link _ =>
    have filled := deliver sound (link.otherEnd here) suits
    split
    · next delivered =>
      rw [delivered] at filled
      exact filled
    · next refused =>
      rw [refused] at filled
      exact filled

theorem dial (here : Endpoint) (peer : DeviceId) (role : Role)
    (suits : ∀ session, kind (.opened session here.device)) :
    Fills kind hub (hub.dial here peer role).2 := by
  rw [Hub.dial]
  dsimp only
  split
  · let next : SessionId := ⟨hub.lastSession.number + 1⟩
    let links := hub.links.insert next ⟨here, ⟨peer, role⟩⟩
    have joined : Fills kind hub { hub with lastSession := next, links } :=
      relink sound next links
    exact joined.trans (deliver joined.sound _ (suits next))
  · exact refl sound

theorem hangUp (here : Endpoint) {session : SessionId} (suits : kind (.closed session)) :
    Fills kind hub (hub.hangUp here session) := by
  rw [Hub.hangUp]
  split
  · exact refl sound
  · have parted : Fills kind hub { hub with links := hub.links.erase session } :=
      relink sound hub.lastSession (hub.links.erase session)
    exact parted.trans (deliver parted.sound _ suits)

theorem sever {session : SessionId} (suits : kind (.closed session)) :
    Fills kind hub (hub.sever session) := by
  rw [Hub.sever]
  split
  · exact refl sound
  · next link _ =>
    have parted : Fills kind hub { hub with links := hub.links.erase session } :=
      relink sound hub.lastSession (hub.links.erase session)
    have first := parted.trans (deliver parted.sound link.opener suits)
    exact first.trans (deliver first.sound link.acceptor suits)

end Changes

end Fills

/-- Chatter fills mailboxes, but with no answers. -/
theorem fills_of_chatters {before after : Port Parcel} (sound : before.hub.Sound)
    (chatters : Transport.Chatters before after) :
    after.here = before.here ∧
      Fills (fun event => event.reply? = none) before.hub after.hub := by
  induction chatters with
  | rest => exact ⟨rfl, .refl sound⟩
  | @transmit middle session parcel plain _ inductionHypothesis =>
      obtain ⟨here, fills⟩ := inductionHypothesis
      exact ⟨here, fills.trans (.transmit fills.sound middle.here session plain)⟩
  | @dial middle peer role _ inductionHypothesis =>
      obtain ⟨here, fills⟩ := inductionHypothesis
      exact ⟨here, fills.trans (.dial fills.sound middle.here peer role fun _ => rfl)⟩
  | @hangUp middle session _ inductionHypothesis =>
      obtain ⟨here, fills⟩ := inductionHypothesis
      exact ⟨here, fills.trans (.hangUp fills.sound middle.here rfl)⟩

/-! ## Links -/

theorem links_deliver (hub : Hub Parcel) (endpoint : Endpoint) (event : TransportEvent Parcel) :
    (hub.deliver endpoint event).2.links = hub.links := by
  rw [deliver]
  split
  · rfl
  · split
    · rfl
    · split
      · rfl
      · rfl

theorem links_transmit (hub : Hub Parcel) (here : Endpoint) (session : SessionId)
    (parcel : Parcel) : (hub.transmit here session parcel).2.links = hub.links := by
  rw [transmit]
  split
  · rfl
  · next link _ =>
    have same := hub.links_deliver (link.otherEnd here) (.frame session parcel)
    split
    · next delivered =>
      rw [delivered] at same
      exact same
    · next refused =>
      rw [refused] at same
      exact same

end Hub

end InputSharing
