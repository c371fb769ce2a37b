import InputSharing.Proofs.Hub.Annals

/-!
# What a channel carries

On a hub with fewer than `2 ^ 32` channels no session is given out twice.  Each end of a
channel hears what the other end has sent, in order and nothing else; the acceptor hears
of the channel first, and whoever did not close the channel hears last that it is closed.
-/

namespace InputSharing.Hub

variable {φ : Type}

/-! ## Ends of links -/

section Ends

variable {link : Link} {here there : Endpoint}

theorem otherEnd_acceptor (apart : link.opener ≠ link.acceptor) :
    link.otherEnd link.acceptor = link.opener :=
  if_neg apart

theorem otherEnd_opener (link : Link) : link.otherEnd link.opener = link.acceptor := if_pos rfl

theorem eq_otherEnd_iff (apart : link.opener ≠ link.acceptor) (ends : link.Ends here)
    (also : link.Ends there) : there = link.otherEnd here ↔ here ≠ there := by
  rcases ends with rfl | rfl
  · rw [otherEnd_opener]
    rcases also with rfl | rfl
    · exact ⟨fun same => absurd same apart, fun different => absurd rfl different⟩
    · exact ⟨fun _ => apart, fun _ => rfl⟩
  · rw [otherEnd_acceptor apart]
    rcases also with rfl | rfl
    · exact ⟨fun _ => apart.symm, fun _ => rfl⟩
    · exact ⟨fun same => absurd same.symm apart, fun different => absurd rfl different⟩

/-- If one end is the other end of a second, the second is the other end of the first. -/
theorem eq_otherEnd_comm (apart : link.opener ≠ link.acceptor) (ends : link.Ends here)
    (also : link.Ends there) : there = link.otherEnd here ↔ here = link.otherEnd there := by
  rw [eq_otherEnd_iff apart ends also, eq_otherEnd_iff apart also ends]
  exact ne_comm

end Ends

/-! ## Fates -/

namespace Fate

theorem finish_of_not_standing {fate : Fate} (gone : fate.standing? = none) (ending : Ending) :
    fate.finish ending = fate := by
  cases fate with
  | unopened => rfl
  | linked link => cases gone
  | ended link earlier => rfl

theorem eq_linked_of_standing {fate : Fate} {link : Link} (standing : fate.standing? = some link) :
    fate = .linked link := by
  cases fate with
  | unopened => cases standing
  | linked other =>
    cases standing
    rfl
  | ended other earlier => cases standing

theorem eq_unopened_of_link? {fate : Fate} (unknown : fate.link? = none) : fate = .unopened := by
  cases fate with
  | unopened => rfl
  | linked link => cases unknown
  | ended link ending => cases unknown

end Fate

namespace Entry

/-- The session that an entry is about. -/
def session : Entry φ → SessionId
  | opened session _ => session
  | sent _ session _ => session
  | ended session _ => session

variable {entry : Entry φ} {session : SessionId}

theorem turn_of_other (other : entry.session ≠ session) (fate : Fate) :
    entry.turn session fate = fate := by
  cases entry with
  | opened named link => exact if_neg other
  | sent here named frame => rfl
  | ended named ending => exact if_neg other

theorem frame?_of_other (other : entry.session ≠ session) (here : Endpoint) :
    entry.frame? here session = none := by
  cases entry with
  | sent sender named frame => exact if_neg fun both => other both.2
  | opened named link => rfl
  | ended named ending => rfl

end Entry

/-! ## One channel -/

namespace Annals

/-- What an end of a channel hears: that it was opened, if the end accepted it, then what
the other end has sent, then that it is closed, if it was not closed by this end. -/
def script (annals : Annals φ) (session : SessionId) (link : Link) (endpoint : Endpoint) :
    List (TransportEvent φ) :=
  (if endpoint = link.acceptor then [.opened session link.opener.device] else []) ++
    (annals.sentBy (link.otherEnd endpoint) session).map (.frame session) ++
      (annals.fate session).farewell session endpoint

/-- What is true of one channel on a hub. -/
structure Kept (annals : Annals φ) (session : SessionId) : Prop where
  known :
    ∀ {link : Link}, .opened session link ∈ annals.entries →
      (annals.fate session).link? = some link
  standing : annals.hub.links[session]? = (annals.fate session).standing?
  registered :
    ∀ {link : Link} {endpoint : Endpoint}, (annals.fate session).link? = some link →
      link.Ends endpoint → endpoint ∈ annals.hub.directory
  numbered :
    ∀ {link : Link}, (annals.fate session).link? = some link →
      session.number.toNat ≤ annals.opens
  silent : (annals.fate session).link? = none → ∀ here, annals.sentBy here session = []
  strangers :
    ∀ {endpoint : Endpoint},
      (∀ link, (annals.fate session).link? = some link → ¬link.Ends endpoint) →
        annals.heardOf endpoint session = []
  ends :
    ∀ {link : Link} {endpoint : Endpoint}, (annals.fate session).link? = some link →
      link.opener ≠ link.acceptor → link.Ends endpoint →
        annals.heardOf endpoint session = annals.script session link endpoint

section Channels

variable {annals after : Annals φ} {session : SessionId} {link : Link}

/-- Nothing has been done about a channel and nothing is heard of it. -/
theorem Kept.unmoved (kept : annals.Kept session) (entries : after.entries = annals.entries)
    (links : after.hub.links = annals.hub.links)
    (directory : ∀ {endpoint : Endpoint},
      endpoint ∈ annals.hub.directory → endpoint ∈ after.hub.directory)
    (heard : ∀ endpoint, after.heardOf endpoint session = annals.heardOf endpoint session) :
    after.Kept session := by
  have fate : after.fate session = annals.fate session := by rw [Annals.fate, entries]; rfl
  have sent (here : Endpoint) : after.sentBy here session = annals.sentBy here session := by
    rw [sentBy, entries]
    rfl
  have opens : after.opens = annals.opens := by rw [Annals.opens, entries]; rfl
  refine ⟨?known, ?standing, ?registered, ?numbered, ?silent, ?strangers, ?ends⟩
  case known =>
    rw [fate, entries]
    exact kept.known
  case standing =>
    rw [links, fate]
    exact kept.standing
  case registered =>
    rw [fate]
    exact fun found ends => directory (kept.registered found ends)
  case numbered =>
    rw [fate, opens]
    exact kept.numbered
  case silent =>
    rw [fate]
    exact fun unknown here => (sent here).trans (kept.silent unknown here)
  case strangers =>
    rw [fate]
    exact fun apart => (heard _).trans (kept.strangers apart)
  case ends =>
    rw [fate]
    intro link endpoint found apart ends
    rw [heard, script, sent, fate]
    exact kept.ends found apart ends

/-- Something has been done that does not open a channel.  What is told of the channel goes
to its ends, and makes what they have heard what they ought to hear. -/
theorem Kept.extend (kept : annals.Kept session) {entry : Entry φ}
    {told : Endpoint → List (TransportEvent φ)}
    (extended : after.entries = annals.entries ++ [entry])
    (opening : ∀ link, entry ≠ .opened session link)
    (lasting : (after.fate session).link? = (annals.fate session).link?)
    (links : after.hub.links[session]? = (after.fate session).standing?)
    (directory : after.hub.directory = annals.hub.directory)
    (frames : (annals.fate session).link? = none → ∀ here, entry.frame? here session = none)
    (heard : ∀ endpoint,
      after.heardOf endpoint session = annals.heardOf endpoint session ++ told endpoint)
    (strangers : ∀ {endpoint : Endpoint},
      (∀ link, (annals.fate session).link? = some link → ¬link.Ends endpoint) →
        told endpoint = [])
    (ends : ∀ {link : Link} {endpoint : Endpoint}, (annals.fate session).link? = some link →
      link.opener ≠ link.acceptor → link.Ends endpoint →
        annals.script session link endpoint ++ told endpoint =
          after.script session link endpoint) :
    after.Kept session := by
  refine ⟨?known, links, ?registered, ?numbered, ?silent, ?strangers, ?ends⟩
  case known =>
    intro link listed
    rw [extended, List.mem_append, List.mem_singleton] at listed
    rw [lasting]
    rcases listed with old | new
    · exact kept.known old
    · exact absurd new.symm (opening link)
  case registered =>
    rw [lasting, directory]
    exact kept.registered
  case numbered =>
    rw [lasting, opens_eq extended]
    exact fun found => Nat.le_add_right_of_le (kept.numbered found)
  case silent =>
    rw [lasting]
    intro unknown here
    rw [sentBy_eq extended, kept.silent unknown, frames unknown]
    rfl
  case strangers =>
    rw [lasting]
    intro endpoint apart
    rw [heard, kept.strangers apart, strangers apart]
    rfl
  case ends =>
    rw [lasting]
    intro link endpoint found apart also
    rw [heard, kept.ends found apart also, ends found apart also]

/-- Something has been done that does not change what becomes of a channel. -/
theorem Kept.idle (kept : annals.Kept session) {entry : Entry φ}
    (extended : after.entries = annals.entries ++ [entry])
    (opening : ∀ link, entry ≠ .opened session link)
    (turn : entry.turn session (annals.fate session) = annals.fate session)
    (frames : ∀ here, entry.frame? here session = none)
    (links : after.hub.links[session]? = annals.hub.links[session]?)
    (directory : after.hub.directory = annals.hub.directory)
    (heard : ∀ endpoint, after.heardOf endpoint session = annals.heardOf endpoint session) :
    after.Kept session := by
  have fate : after.fate session = annals.fate session := (fate_eq extended session).trans turn
  have nothing (endpoint : Endpoint) :
      after.heardOf endpoint session = annals.heardOf endpoint session ++ [] :=
    (heard endpoint).trans (List.append_nil _).symm
  refine kept.extend extended opening (congrArg Fate.link? fate) ?_ directory
    (fun _ => frames) nothing (fun _ => rfl) ?_
  · rw [links, fate]
    exact kept.standing
  · intro link endpoint _ _ _
    rw [script, script, sentBy_eq extended, frames, fate, Option.toList_none, List.append_nil,
      List.append_nil]

theorem Kept.other (kept : annals.Kept session) {entry : Entry φ}
    (extended : after.entries = annals.entries ++ [entry]) (other : entry.session ≠ session)
    (links : after.hub.links[session]? = annals.hub.links[session]?)
    (directory : after.hub.directory = annals.hub.directory)
    (heard : ∀ endpoint, after.heardOf endpoint session = annals.heardOf endpoint session) :
    after.Kept session := by
  refine kept.idle extended ?_ (Entry.turn_of_other other _) (Entry.frame?_of_other other) links
    directory heard
  rintro link rfl
  exact other rfl

/-- A channel is opened that was not before. -/
theorem Kept.opened (kept : annals.Kept session) (fresh : annals.fate session = .unopened)
    (extended : after.entries = annals.entries ++ [.opened session link])
    (links : after.hub.links[session]? = some link)
    (registered : ∀ {endpoint : Endpoint}, link.Ends endpoint → endpoint ∈ after.hub.directory)
    (numbered : session.number.toNat ≤ after.opens)
    (heard : ∀ endpoint,
      after.heardOf endpoint session =
        annals.heardOf endpoint session ++
          if endpoint = link.acceptor then [.opened session link.opener.device] else []) :
    after.Kept session := by
  have fate : after.fate session = .linked link := (fate_eq extended session).trans (if_pos rfl)
  have nothing : (annals.fate session).link? = none := congrArg Fate.link? fresh
  have sent (here : Endpoint) : after.sentBy here session = [] := by
    rw [sentBy_eq extended, kept.silent nothing]
    rfl
  have quiet (endpoint : Endpoint) : annals.heardOf endpoint session = [] := by
    refine kept.strangers fun other found => ?_
    rw [nothing] at found
    cases found
  simp only [quiet, List.nil_append] at heard
  refine ⟨?known, ?standing, ?registered, fun _ => numbered, fun _ => sent, ?strangers, ?ends⟩
  case known =>
    intro other listed
    rw [extended, List.mem_append, List.mem_singleton] at listed
    rcases listed with old | new
    · rw [kept.known old] at nothing
      cases nothing
    · cases new
      exact congrArg Fate.link? fate
  case standing =>
    rw [links, fate]
    rfl
  case registered =>
    intro other endpoint found ends
    rw [fate] at found
    cases found
    exact registered ends
  case strangers =>
    intro endpoint apart
    have stranger : ¬link.Ends endpoint := apart link (congrArg Fate.link? fate)
    rw [heard, if_neg fun same => stranger (Or.inr same.symm)]
  case ends =>
    intro other endpoint found _ _
    rw [fate] at found
    cases found
    rw [heard, script, sent, fate]
    exact (List.append_nil _).symm.trans (List.append_nil _).symm

/-- An end of a channel sends a frame. -/
theorem Kept.sent (kept : annals.Kept session) (linked : annals.fate session = .linked link)
    {here : Endpoint} {frame : φ} (ends : link.Ends here)
    (extended : after.entries = annals.entries ++ [.sent here session frame])
    (links : after.hub.links = annals.hub.links)
    (directory : after.hub.directory = annals.hub.directory)
    (heard : ∀ endpoint,
      after.heardOf endpoint session =
        annals.heardOf endpoint session ++
          if endpoint = link.otherEnd here then [.frame session frame] else []) :
    after.Kept session := by
  have fate : after.fate session = annals.fate session := fate_eq extended session
  have same : (annals.fate session).link? = some link := congrArg Fate.link? linked
  refine kept.extend extended nofun (congrArg Fate.link? fate) ?_ directory ?_ heard ?_ ?_
  · rw [links, fate]
    exact kept.standing
  · rw [same]
    rintro ⟨⟩
  · intro endpoint apart
    refine if_neg fun hears => apart link same ?_
    rw [hears]
    exact link.ends_otherEnd here
  · intro other endpoint found apart also
    rw [same] at found
    cases found
    have sent :
        after.sentBy (link.otherEnd endpoint) session =
          annals.sentBy (link.otherEnd endpoint) session ++
            if endpoint = link.otherEnd here then [frame] else [] := by
      rw [sentBy_eq extended, Entry.frame?]
      by_cases hears : endpoint = link.otherEnd here
      · rw [if_pos hears, if_pos ⟨(eq_otherEnd_comm apart ends also).1 hears, rfl⟩]
        rfl
      · rw [if_neg hears, if_neg fun both => hears ((eq_otherEnd_comm apart ends also).2 both.1)]
        rfl
    -- Nobody has said farewell on a channel that is linked.
    rw [script, script, sent, fate, linked]
    simp only [Fate.farewell, List.append_nil, List.map_append, List.append_assoc]
    by_cases hears : endpoint = link.otherEnd here
    · rw [if_pos hears, if_pos hears]
      rfl
    · rw [if_neg hears, if_neg hears]
      rfl

/-- A channel comes to its end. -/
theorem Kept.ended (kept : annals.Kept session) (linked : annals.fate session = .linked link)
    {ending : Ending} (extended : after.entries = annals.entries ++ [.ended session ending])
    (links : after.hub.links[session]? = none)
    (directory : after.hub.directory = annals.hub.directory)
    {told : Endpoint → List (TransportEvent φ)}
    (heard : ∀ endpoint,
      after.heardOf endpoint session = annals.heardOf endpoint session ++ told endpoint)
    (strangers : ∀ {endpoint : Endpoint}, ¬link.Ends endpoint → told endpoint = [])
    (ends : ∀ {endpoint : Endpoint}, link.opener ≠ link.acceptor → link.Ends endpoint →
      told endpoint = (Fate.ended link ending).farewell session endpoint) :
    after.Kept session := by
  have fate : after.fate session = .ended link ending := by
    rw [fate_eq extended, linked]
    exact if_pos rfl
  have same : (annals.fate session).link? = some link := congrArg Fate.link? linked
  refine kept.extend extended nofun ?_ ?_ directory (fun _ _ => rfl) heard
    (fun apart => strangers (apart link same)) ?_
  · rw [fate, same]
    rfl
  · rw [links, fate]
    rfl
  · intro other endpoint found apart also
    rw [same] at found
    cases found
    rw [ends apart also, script, script, sentBy_eq extended, fate, linked]
    simp only [Fate.farewell, Entry.frame?, Option.toList_none, List.append_nil]

end Channels

/-! ## All channels of a hub -/

/-- The hub is sound, it numbers its channels in turn, and every channel is kept. -/
structure Orderly (annals : Annals φ) : Prop where
  sound : annals.hub.Sound
  last_eq : annals.hub.lastSession.number.toNat = annals.opens
  kept : ∀ session, annals.Kept session

namespace Orderly

theorem start : ({} : Annals φ).Orderly := by
  refine ⟨Blank.empty.sound, rfl, fun session => ?_⟩
  refine ⟨nofun, Std.ExtTreeMap.getElem?_empty, nofun, nofun, fun _ _ => rfl, ?_, nofun⟩
  intro endpoint _
  rw [heardOf, heard, Blank.empty.mail_eq]
  rfl

section Acts

variable {annals after : Annals φ}

theorem link_of_knows (orderly : annals.Orderly) {here : Endpoint} {session : SessionId}
    (knows : annals.Knows here session) :
    ∃ link, (annals.fate session).link? = some link ∧ link.Ends here := by
  obtain ⟨link, listed, ends⟩ := knows
  exact ⟨link, (orderly.kept session).known listed, ends⟩

/-- What is done about one channel leaves all others as they are. -/
theorem extend (orderly : annals.Orderly) {entry : Entry φ}
    (extended : after.entries = annals.entries ++ [entry]) (sound : after.hub.Sound)
    (last : after.hub.lastSession.number.toNat = after.opens)
    (links : ∀ session, entry.session ≠ session →
      after.hub.links[session]? = annals.hub.links[session]?)
    (directory : after.hub.directory = annals.hub.directory)
    (told : Endpoint → List (TransportEvent φ))
    (heard : ∀ endpoint session,
      after.heardOf endpoint session =
        annals.heardOf endpoint session ++ if entry.session = session then told endpoint else [])
    (kept :
      (∀ endpoint, after.heardOf endpoint entry.session =
        annals.heardOf endpoint entry.session ++ told endpoint) → after.Kept entry.session) :
    after.Orderly := by
  refine ⟨sound, last, fun session => ?_⟩
  by_cases about : entry.session = session
  · subst about
    exact kept fun endpoint => (heard endpoint _).trans (by rw [if_pos rfl])
  · refine (orderly.kept session).other extended about (links session about) directory ?_
    intro endpoint
    rw [heard, if_neg about, List.append_nil]

theorem register (orderly : annals.Orderly) {endpoint : Endpoint}
    (new : endpoint ∉ annals.hub.directory) : (annals.perform (.register endpoint)).Orderly := by
  have mail : (annals.perform (.register endpoint)).hub.mail = annals.hub.mail :=
    mail_register orderly.sound new
  refine ⟨orderly.sound.register endpoint, orderly.last_eq, fun session => ?_⟩
  refine (orderly.kept session).unmoved rfl rfl ?_ fun tested => heardOf_of_mail mail rfl tested _
  exact fun present => Std.ExtTreeMap.mem_insert.2 (Or.inr present)

theorem dial (orderly : annals.Orderly) {here : Endpoint} {peer : DeviceId} {role : Role}
    (registered : here ∈ annals.hub.directory)
    (few : (annals.perform (.dial here peer role)).opens < UInt32.size) :
    (annals.perform (.dial here peer role)).Orderly := by
  by_cases known : (⟨peer, role⟩ : Endpoint) ∈ annals.hub.directory
  · obtain ⟨hub, dialed, delivered⟩ := dial_of_registered here orderly.sound known
    let session : SessionId := ⟨annals.hub.lastSession.number + 1⟩
    let link : Link := ⟨here, ⟨peer, role⟩⟩
    let after : Annals φ :=
      { annals with hub, entries := annals.entries ++ [.opened session link] }
    have performed : annals.perform (.dial here peer role) = after := by
      rw [perform, dialed]
    rw [performed] at few ⊢
    have extended : after.entries = annals.entries ++ [.opened session link] := rfl
    have opens : after.opens = annals.opens + 1 := opens_eq extended
    have number : session.number.toNat = after.opens := by
      change (annals.hub.lastSession.number + 1).toNat = _
      rw [UInt32.toNat_add, orderly.last_eq, opens]
      exact Nat.mod_eq_of_lt (opens ▸ few)
    have last : after.hub.lastSession = session := delivered.lastSession_eq
    have fresh : annals.fate session = .unopened := by
      apply Fate.eq_unopened_of_link?
      rw [Option.eq_none_iff_forall_ne_some]
      intro earlier found
      have old := (orderly.kept session).numbered found
      omega
    have links (tested : SessionId) :
        after.hub.links[tested]? =
          if session = tested then some link else annals.hub.links[tested]? := by
      rw [delivered.links_eq, Table.getElem?_insert_eq]
    have ends {endpoint : Endpoint} (isEnd : link.Ends endpoint) :
        endpoint ∈ after.hub.directory := by
      rw [delivered.directory_eq]
      rcases isEnd with rfl | rfl
      · exact registered
      · exact known
    refine orderly.extend extended delivered.sound (by rw [last, number])
      (fun tested other => (links tested).trans (if_neg other)) delivered.directory_eq _
      (heardOf_delivered annals after delivered rfl rfl) fun heard => ?_
    exact (orderly.kept session).opened fresh extended ((links session).trans (if_pos rfl)) ends
      (Nat.le_of_eq number) heard
  · have performed : annals.perform (.dial here peer role) = annals := by
      rw [perform, dial_of_unknown here known]
    rw [performed]
    exact orderly

theorem transmit (orderly : annals.Orderly) {here : Endpoint} {session : SessionId} (frame : φ)
    (knows : annals.Knows here session) :
    (annals.perform (.transmit here session frame)).Orderly := by
  have kept := orderly.kept session
  obtain ⟨link, known, ends⟩ := orderly.link_of_knows knows
  cases fate : annals.fate session with
  | unopened =>
    rw [fate] at known
    cases known
  | linked other =>
    have standing := kept.standing
    have registered := kept.registered known (link.ends_otherEnd here)
    rw [fate] at known standing
    cases known
    obtain ⟨hub, transmitted, delivered⟩ :=
      transmit_of_link here orderly.sound frame standing registered
    let after : Annals φ :=
      { annals with hub, entries := annals.entries ++ [.sent here session frame] }
    have performed : annals.perform (.transmit here session frame) = after := by
      rw [perform, transmitted]
    rw [performed]
    have extended : after.entries = annals.entries ++ [.sent here session frame] := rfl
    have links : after.hub.links = annals.hub.links := delivered.links_eq
    have last : after.hub.lastSession = annals.hub.lastSession := delivered.lastSession_eq
    refine orderly.extend extended delivered.sound ?_ (fun tested _ => by rw [links])
      delivered.directory_eq _ (heardOf_delivered annals after delivered rfl rfl)
      (kept.sent fate ends extended links delivered.directory_eq)
    rw [last, opens_eq extended]
    exact orderly.last_eq
  | ended other ending =>
    have gone := kept.standing
    rw [fate] at gone
    have performed : annals.perform (.transmit here session frame) = annals := by
      rw [perform, transmit_of_gone here frame gone]
    rw [performed]
    exact orderly

/-- An attempt to end a channel that is not linked changes nothing. -/
theorem end_of_gone (orderly : annals.Orderly) {session : SessionId}
    (gone : annals.hub.links[session]? = none) (ending : Ending) :
    ({ annals with entries := annals.entries ++ [.ended session ending] } : Annals φ).Orderly := by
  let after : Annals φ := { annals with entries := annals.entries ++ [.ended session ending] }
  have extended : after.entries = annals.entries ++ [.ended session ending] := rfl
  have standing := (orderly.kept session).standing
  refine orderly.extend extended orderly.sound ?_ (fun _ _ => rfl) rfl
    (fun _ => []) ?_ fun heard => ?_
  · rw [opens_eq extended]
    exact orderly.last_eq
  · intro endpoint tested
    rw [ite_self, List.append_nil]
    exact heardOf_of_mail rfl rfl endpoint tested
  · refine (orderly.kept session).idle extended nofun ?_ (fun _ => rfl) rfl rfl
      fun endpoint => (heard endpoint).trans (List.append_nil _)
    rw [gone] at standing
    exact (if_pos rfl).trans (Fate.finish_of_not_standing standing.symm ending)

/-- The end of a channel that is linked, once the news has been delivered. -/
theorem end_of_linked (orderly : annals.Orderly) {session : SessionId} {link : Link}
    (linked : annals.fate session = .linked link) {ending : Ending}
    (extended : after.entries = annals.entries ++ [.ended session ending])
    (sound : after.hub.Sound) (last : after.hub.lastSession = annals.hub.lastSession)
    (links : after.hub.links = annals.hub.links.erase session)
    (directory : after.hub.directory = annals.hub.directory)
    (told : Endpoint → List (TransportEvent φ))
    (heard : ∀ endpoint tested,
      after.heardOf endpoint tested =
        annals.heardOf endpoint tested ++ if session = tested then told endpoint else [])
    (strangers : ∀ {endpoint : Endpoint}, ¬link.Ends endpoint → told endpoint = [])
    (ends : ∀ {endpoint : Endpoint}, link.opener ≠ link.acceptor → link.Ends endpoint →
      told endpoint = (Fate.ended link ending).farewell session endpoint) :
    after.Orderly := by
  have erased (tested : SessionId) :
      after.hub.links[tested]? = if session = tested then none else annals.hub.links[tested]? := by
    rw [links, Table.getElem?_erase_eq]
  refine orderly.extend extended sound ?_ (fun tested other => (erased tested).trans (if_neg other))
    directory told heard fun heard => ?_
  · rw [last, opens_eq extended]
    exact orderly.last_eq
  · exact (orderly.kept session).ended linked extended ((erased session).trans (if_pos rfl))
      directory heard strangers ends

theorem hangUp (orderly : annals.Orderly) {here : Endpoint} {session : SessionId}
    (knows : annals.Knows here session) : (annals.perform (.hangUp here session)).Orderly := by
  have kept := orderly.kept session
  have standing := kept.standing
  obtain ⟨link, known, ends⟩ := orderly.link_of_knows knows
  have registered := kept.registered known (link.ends_otherEnd here)
  cases fate : annals.fate session with
  | unopened =>
    rw [fate] at known
    cases known
  | linked other =>
    rw [fate] at known standing
    cases known
    let after := annals.perform (.hangUp here session)
    have delivered : Delivered (link.otherEnd here) (.closed session)
        { annals.hub with links := annals.hub.links.erase session } after.hub :=
      hangUp_of_link here orderly.sound standing registered
    refine orderly.end_of_linked fate rfl delivered.sound delivered.lastSession_eq
      delivered.links_eq delivered.directory_eq _
      (heardOf_delivered annals after delivered rfl rfl) ?_ ?_
    · intro endpoint stranger
      refine if_neg fun hears => stranger ?_
      rw [hears]
      exact link.ends_otherEnd here
    · intro endpoint apart also
      by_cases same : here = endpoint
      · rw [if_neg fun hears => (eq_otherEnd_iff apart ends also).1 hears same]
        exact (if_pos same).symm
      · rw [if_pos ((eq_otherEnd_iff apart ends also).2 same)]
        exact (if_neg same).symm
  | ended other ending =>
    rw [fate] at standing
    have performed :
        annals.perform (.hangUp here session) =
          { annals with entries := annals.entries ++ [.ended session (.hungUp here)] } := by
      rw [perform, hangUp_of_gone here standing]
    rw [performed]
    exact orderly.end_of_gone standing _

theorem sever (orderly : annals.Orderly) (session : SessionId) :
    (annals.perform (.sever session)).Orderly := by
  have kept := orderly.kept session
  cases standing : annals.hub.links[session]? with
  | none =>
    have performed :
        annals.perform (.sever session) =
          { annals with entries := annals.entries ++ [.ended session .severed] } := by
      rw [perform, sever_of_gone standing]
    rw [performed]
    exact orderly.end_of_gone standing _
  | some link =>
    have fate : annals.fate session = .linked link :=
      Fate.eq_linked_of_standing (kept.standing.symm.trans standing)
    have registered {endpoint : Endpoint} (ends : link.Ends endpoint) :
        endpoint ∈ annals.hub.directory :=
      kept.registered (congrArg Fate.link? fate) ends
    let after := annals.perform (.sever session)
    obtain ⟨hub, first, second⟩ := sever_of_link orderly.sound standing
      ⟨registered (Or.inl rfl), registered (Or.inr rfl)⟩
    let middle : Annals φ := { annals with hub }
    have heard (endpoint : Endpoint) (tested : SessionId) :
        after.heardOf endpoint tested =
          annals.heardOf endpoint tested ++
            if session = tested then
              (if endpoint = link.opener then [.closed session] else []) ++
                if endpoint = link.acceptor then [.closed session] else []
            else [] := by
      rw [heardOf_delivered middle after second rfl rfl,
        heardOf_delivered annals middle first rfl rfl, List.append_assoc]
      by_cases about : session = tested
      · subst about
        simp only [TransportEvent.session, if_true]
      · simp only [TransportEvent.session, about, if_false, List.append_nil]
    refine orderly.end_of_linked fate rfl second.sound
      (second.lastSession_eq.trans first.lastSession_eq) (second.links_eq.trans first.links_eq)
      (second.directory_eq.trans first.directory_eq) _ heard ?_ ?_
    · intro endpoint stranger
      rw [if_neg fun opens => stranger (Or.inl opens.symm),
        if_neg fun accepts => stranger (Or.inr accepts.symm)]
      rfl
    · intro endpoint apart ends
      rcases ends with rfl | rfl
      · rw [if_pos rfl, if_neg apart]
        rfl
      · rw [if_neg apart.symm, if_pos rfl]
        rfl

/-- What an endpoint takes it has heard of before. -/
theorem take (orderly : annals.Orderly) (here : Endpoint) :
    (annals.perform (.take here)).Orderly := by
  cases atBox : annals.hub.directory[here]? with
  | none =>
    have performed : annals.perform (.take here) = annals := by
      rw [perform, atBox]
    rw [performed]
    exact orderly
  | some box =>
    cases waiting : annals.hub.mail here with
    | nil =>
      have nothing : annals.hub.waiting box = [] := (mail_of_box atBox).symm.trans waiting
      have performed : annals.perform (.take here) = annals := by
        rw [perform, atBox]
        dsimp only
        rw [takeFirst, nothing]
      rw [performed]
      exact orderly
    | cons event rest =>
      obtain ⟨hub, first, taken⟩ := takeFirst_of_mail orderly.sound atBox waiting
      let after : Annals φ :=
        { annals with
          hub
          taken := Function.update annals.taken here (annals.taken here ++ [event]) }
      have performed : annals.perform (.take here) = after := by
        rw [perform, atBox]
        dsimp only
        rw [first]
      have heard (endpoint : Endpoint) : after.heard endpoint = annals.heard endpoint := by
        change Function.update annals.taken here _ endpoint ++ hub.mail endpoint = _
        rw [Annals.heard, taken.mail_eq]
        by_cases same : endpoint = here
        · subst same
          rw [Function.update_self, Function.update_self, waiting, List.tail_cons,
            List.append_assoc, List.singleton_append]
        · rw [Function.update_of_ne same, Function.update_of_ne same]
      rw [performed]
      refine ⟨taken.sound, ?_, fun session => ?_⟩
      · exact (congrArg (fun last => last.number.toNat) taken.lastSession_eq).trans orderly.last_eq
      · refine (orderly.kept session).unmoved rfl taken.links_eq ?_ fun endpoint => ?_
        · rw [taken.directory_eq]
          exact id
        · rw [heardOf, heard]
          rfl

theorem perform (orderly : annals.Orderly) {act : Act φ} (allowed : annals.Allows act)
    (few : (annals.perform act).opens < UInt32.size) : (annals.perform act).Orderly := by
  cases act with
  | register endpoint => exact orderly.register allowed
  | dial here peer role => exact orderly.dial allowed few
  | transmit here session frame => exact orderly.transmit frame allowed
  | hangUp here session => exact orderly.hangUp allowed
  | sever session => exact orderly.sever session
  | take here => exact orderly.take here

end Acts

end Orderly

/-- Nothing that has been done is forgotten. -/
theorem entries_perform (annals : Annals φ) (act : Act φ) :
    ∃ more, (annals.perform act).entries = annals.entries ++ more := by
  cases act with
  | register endpoint => exact ⟨[], (List.append_nil _).symm⟩
  | dial here peer role =>
    rw [perform]
    split
    · exact ⟨_, rfl⟩
    · exact ⟨[], (List.append_nil _).symm⟩
  | transmit here session frame =>
    rw [perform]
    split
    · exact ⟨_, rfl⟩
    · exact ⟨[], (List.append_nil _).symm⟩
  | hangUp here session => exact ⟨_, rfl⟩
  | sever session => exact ⟨_, rfl⟩
  | take here =>
    refine ⟨[], ?_⟩
    rw [perform, List.append_nil]
    split
    · rfl
    · split
      · rfl
      · rfl

theorem opens_le_perform (annals : Annals φ) (act : Act φ) :
    annals.opens ≤ (annals.perform act).opens := by
  obtain ⟨more, extended⟩ := annals.entries_perform act
  rw [opens, opens, extended, List.countP_append]
  exact Nat.le_add_right _ _

/-- Sessions do not run out as long as fewer than `2 ^ 32` channels are opened. -/
theorem Reached.orderly {annals : Annals φ} (reached : annals.Reached)
    (few : annals.opens < UInt32.size) : annals.Orderly := by
  induction reached with
  | start => exact Orderly.start
  | @perform before act _ allowed inductionHypothesis =>
    have fewBefore : before.opens < UInt32.size :=
      Nat.lt_of_le_of_lt (before.opens_le_perform act) few
    exact (inductionHypothesis fewBefore).perform allowed few

/-- What a hub carries on a channel between two endpoints, whatever else is done on it.

The acceptor hears first that the channel is opened.  Each end hears what the other end
has sent, in order, and then that the channel is closed: both do if it was severed, and
the one that did not hang up otherwise.  Nobody else hears of the channel.  It is linked
until it is closed or severed, and exactly so long frames are accepted on it. -/
theorem channel_carries {annals : Annals φ} (reached : annals.Reached)
    (few : annals.opens < UInt32.size) {session : SessionId} {link : Link}
    (opened : .opened session link ∈ annals.entries) (apart : link.opener ≠ link.acceptor) :
    annals.heardOf link.acceptor session =
        .opened session link.opener.device ::
          ((annals.sentBy link.opener session).map (.frame session) ++
            (annals.fate session).farewell session link.acceptor) ∧
      annals.heardOf link.opener session =
        (annals.sentBy link.acceptor session).map (.frame session) ++
          (annals.fate session).farewell session link.opener ∧
      (∀ {third : Endpoint}, ¬link.Ends third → annals.heardOf third session = []) ∧
      (annals.fate session).link? = some link ∧
      (annals.hub.links[session]? = some link ↔ annals.fate session = .linked link) ∧
      ∀ (here : Endpoint) (frame : φ),
        (annals.hub.transmit here session frame).1 = .ok () ↔
          annals.fate session = .linked link := by
  have orderly := reached.orderly few
  have kept := orderly.kept session
  have known := kept.known opened
  have linked_iff :
      annals.hub.links[session]? = some link ↔ annals.fate session = .linked link := by
    rw [kept.standing]
    refine ⟨Fate.eq_linked_of_standing, fun linked => ?_⟩
    rw [linked]
    rfl
  refine ⟨?_, ?_, ?_, known, linked_iff, ?_⟩
  · rw [kept.ends known apart (Or.inr rfl), script, if_pos rfl, otherEnd_acceptor apart,
      List.append_assoc]
    rfl
  · rw [kept.ends known apart (Or.inl rfl), script, if_neg apart, otherEnd_opener]
    rfl
  · intro third stranger
    refine kept.strangers fun other found => ?_
    rw [known] at found
    cases found
    exact stranger
  · intro here frame
    rw [← linked_iff]
    cases standing : annals.hub.links[session]? with
    | none =>
      rw [transmit_of_gone here frame standing]
      exact ⟨nofun, nofun⟩
    | some other =>
      have fate := Fate.eq_linked_of_standing (kept.standing.symm.trans standing)
      have same : some other = some link := by
        rw [← known, fate]
        rfl
      cases same
      obtain ⟨hub, transmitted, _⟩ := transmit_of_link here orderly.sound frame standing
        (kept.registered known (link.ends_otherEnd here))
      rw [transmitted]
      exact ⟨fun _ => rfl, fun _ => rfl⟩

/-- One end of a channel. -/
def caller : Endpoint := ⟨⟨"a"⟩, .source⟩

/-- The other end of the channel. -/
def callee : Endpoint := ⟨⟨"b"⟩, .sink⟩

def meeting : Annals Nat :=
  ((({} : Annals Nat).perform (.register caller)).perform (.register callee)).perform
    (.dial caller ⟨"b"⟩ .sink)

/-- Both ends of the channel send a frame, and then one of them hangs up. -/
def parting : Annals Nat :=
  (((meeting.perform (.transmit callee ⟨1⟩ 5)).perform (.transmit caller ⟨1⟩ 7)).perform
    (.take callee)).perform (.hangUp caller ⟨1⟩)

theorem entries_parting :
    parting.entries =
      [.opened ⟨1⟩ ⟨caller, callee⟩, .sent callee ⟨1⟩ 5, .sent caller ⟨1⟩ 7,
        .ended ⟨1⟩ (.hungUp caller)] :=
  rfl

theorem reached_parting : parting.Reached := by
  have knows {annals : Annals Nat} {here : Endpoint} (more : List (Entry Nat))
      (entries : annals.entries = .opened ⟨1⟩ ⟨caller, callee⟩ :: more)
      (ends : (⟨caller, callee⟩ : Link).Ends here) : annals.Knows here ⟨1⟩ := by
    refine ⟨⟨caller, callee⟩, ?_, ends⟩
    rw [entries]
    exact List.mem_cons_self
  have met : meeting.Reached := by
    refine .perform (.perform (.perform .start ?_) ?_) ?_
    · change caller ∉ ({} : Annals Nat).hub.directory
      decide
    · change callee ∉ (Annals.perform _ _).hub.directory
      decide
    · change caller ∈ (Annals.perform _ _).hub.directory
      decide
  refine .perform (.perform (.perform (.perform met ?_) ?_) trivial) ?_
  · exact knows [] rfl (Or.inr rfl)
  · exact knows _ rfl (Or.inl rfl)
  · exact knows _ rfl (Or.inl rfl)

theorem channel_carries_parting :
    parting.Reached ∧ parting.opens < UInt32.size ∧
      .opened ⟨1⟩ ⟨caller, callee⟩ ∈ parting.entries ∧ caller ≠ callee ∧
      parting.heardOf callee ⟨1⟩ = [.opened ⟨1⟩ ⟨"a"⟩, .frame ⟨1⟩ 7, .closed ⟨1⟩] ∧
      parting.heardOf caller ⟨1⟩ = [.frame ⟨1⟩ 5] ∧
      parting.heardOf ⟨⟨"a"⟩, .sink⟩ ⟨1⟩ = [] := by
  have few : parting.opens < UInt32.size := by decide
  have opened : .opened ⟨1⟩ ⟨caller, callee⟩ ∈ parting.entries := by
    rw [entries_parting]
    exact List.mem_cons_self
  have apart : caller ≠ callee := by decide
  have third : ¬(⟨caller, callee⟩ : Link).Ends ⟨⟨"a"⟩, .sink⟩ := by
    rw [Link.Ends]
    decide
  obtain ⟨atCallee, atCaller, elsewhere, _⟩ := channel_carries reached_parting few opened apart
  exact ⟨reached_parting, few, opened, apart, atCallee, atCaller, elsewhere third⟩

end Annals

end InputSharing.Hub
