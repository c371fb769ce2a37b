import InputSharing.Proofs.Network.Traffic

/-!
# Every call is on its way

A scene is `Accounted` when, for each burden, as many calls and tokens wait for it
as letters and tokens stand for it.  While a source reacts to something, burdens
can be in hand: what stood for them is gone, and what is to stand for them is
still to be sent.  While a channel to a sink is being closed, its burdens do not
count.
-/

namespace InputSharing

/-- What holds of what a source waits for. -/
structure Standing.Tidy (standing : Standing) : Prop where
  keys_nodup : (standing.waiting.map Prod.fst).Nodup
  way_of_waiting :
    ∀ {sink request ticket}, (Call.direct sink request, ticket) ∈ standing.waiting →
      (⟨sink, .sink⟩ : Endpoint) ∈ standing.byPeer
  way_of_live :
    ∀ {token : RelayToken} {correlation : Correlation},
      standing.relays.live[token]? = some correlation →
        (⟨correlation.target, .sink⟩ : Endpoint) ∈ standing.byPeer
  tokens_numbered :
    ∀ {token : RelayToken}, token ∈ standing.relays.live →
      token.number.toNat ≤ standing.relays.last.number.toNat

namespace Scene

/-- A request came on a channel between two sources. -/
def CameOn (links : SessionId → Option Link) (device : DeviceId) (correlation : Correlation) :
    Prop :=
  ∃ (origin : SessionId) (link : Link), correlation.origin = some origin ∧
    links origin = some link ∧ link.acceptor.role = .source ∧ link.Ends ⟨device, .source⟩

structure Accounted (scene : Scene) (doomed : Option SessionId) (hand : List Burden) : Prop where
  tidy : ∀ device, (scene.sources device).Tidy
  addressed :
    ∀ {device : DeviceId} {token : RelayToken} {correlation : Correlation},
      (scene.sources device).relays.live[token]? = some correlation → correlation.source = device
  origins :
    ∀ {device : DeviceId} {token : RelayToken} {correlation : Correlation},
      (scene.sources device).relays.live[token]? = some correlation →
        CameOn scene.links device correlation
  balance :
    ∀ {burden : Burden}, burden.Spares doomed →
      scene.claimed burden + scene.pledged burden =
        scene.carried burden + scene.passed burden + hand.count burden

/-! ## Counting -/

section Counting

variable {α : Type} (stands : α → Option Burden) (burden : Burden)

theorem count_filterMap_cons (first : α) (rest : List α) :
    ((first :: rest).filterMap stands).count burden =
      (rest.filterMap stands).count burden + (stands first).toList.count burden := by
  cases found : stands first with
  | none =>
      rw [List.filterMap_cons_none found]
      rfl
  | some other =>
      rw [List.filterMap_cons_some found, List.count_cons]
      simp [List.count_singleton]

theorem count_filterMap_concat (items : List α) (last : α) :
    ((items ++ [last]).filterMap stands).count burden =
      (items.filterMap stands).count burden + (stands last).toList.count burden := by
  rw [List.filterMap_append, List.count_append, count_filterMap_cons]
  simp

end Counting

/-! ## Weights -/

section Weights

variable {scene : Scene} {endpoint : Endpoint} {letter : Letter} {burden : Burden}

theorem weight_of_none (noAsk : letter.ask? = none)
    (noAnswer : letter.answer? endpoint.device = none) :
    scene.weight endpoint letter burden = 0 := by
  rw [weight, noAsk, noAnswer]
  simp

/-- A message that neither asks nor answers has no weight. -/
theorem weight_of_report {session : SessionId} {sequence : UInt64} {message : Message}
    (frame : letter.event = .frame session (.composed sequence message))
    (noAsk : message.ask? session letter.owner = none)
    (noAnswer : message.answer? endpoint.device session letter.owner = none) :
    scene.weight endpoint letter burden = 0 :=
  weight_of_none ((Letter.ask?_of_frame frame).trans noAsk)
    ((Letter.answer?_of_frame frame _).trans noAnswer)

theorem weight_of_ask {asked : Burden} (asks : letter.ask? = some asked)
    (noAnswer : letter.answer? endpoint.device = none)
    (place : scene.askedAt asked = some endpoint) :
    scene.weight endpoint letter burden = [asked].count burden := by
  rw [weight, asks, noAnswer]
  by_cases same : asked = burden
  · subst same
    simp [place]
  · simp [List.count_cons_of_ne same]

theorem weight_of_answer {answered : Burden} (noAsk : letter.ask? = none)
    (answers : letter.answer? endpoint.device = some answered)
    (place : scene.answeredAt answered = some endpoint) :
    scene.weight endpoint letter burden = [answered].count burden := by
  rw [weight, answers, noAsk]
  by_cases same : answered = burden
  · subst same
    simp [place]
  · simp [List.count_cons_of_ne same]

/-- A request that waits where nobody asks for it has no weight. -/
theorem weight_of_stray_ask {asked : Burden} (asks : letter.ask? = some asked)
    (noAnswer : letter.answer? endpoint.device = none)
    (elsewhere : scene.askedAt asked ≠ some endpoint) :
    scene.weight endpoint letter burden = 0 := by
  rw [weight, asks, noAnswer]
  by_cases same : asked = burden
  · subst same
    simp [elsewhere]
  · simp [List.count_cons_of_ne same]

theorem weight_of_stray_answer {answered : Burden} (noAsk : letter.ask? = none)
    (answers : letter.answer? endpoint.device = some answered)
    (elsewhere : scene.answeredAt answered ≠ some endpoint) :
    scene.weight endpoint letter burden = 0 := by
  rw [weight, answers, noAsk]
  by_cases same : answered = burden
  · subst same
    simp [elsewhere]
  · simp [List.count_cons_of_ne same]

/-- A letter that is sent counts where it comes to wait, and only there. -/
theorem count_mail_put (reading : Letter → Option Burden) (place : Endpoint) :
    (((scene.put endpoint letter).mail place).filterMap reading).count burden =
      ((scene.mail place).filterMap reading).count burden +
        if place = endpoint then (reading letter).toList.count burden else 0 := by
  by_cases same : place = endpoint
  · rw [if_pos same, same, mail_put_self, count_filterMap_concat]
  · rw [if_neg same, mail_put_of_ne same, Nat.add_zero]

theorem count_mail_take {rest : List Letter} (waiting : scene.mail endpoint = letter :: rest)
    (reading : Letter → Option Burden) (place : Endpoint) :
    ((scene.mail place).filterMap reading).count burden =
      (((scene.take endpoint).mail place).filterMap reading).count burden +
        if place = endpoint then (reading letter).toList.count burden else 0 := by
  by_cases same : place = endpoint
  · rw [if_pos same, same, mail_take_self, waiting, List.tail_cons, count_filterMap_cons]
  · rw [if_neg same, mail_take_of_ne same, Nat.add_zero]

/-- Where one letter more waits, those burdens more are carried that the letter stands for. -/
theorem carried_of_count {more fewer : Scene} (links : more.links = fewer.links)
    (counts : ∀ (reading : Letter → Option Burden) (place : Endpoint),
      ((more.mail place).filterMap reading).count burden =
        ((fewer.mail place).filterMap reading).count burden +
          if place = endpoint then (reading letter).toList.count burden else 0) :
    more.carried burden = fewer.carried burden + fewer.weight endpoint letter burden := by
  have lane (session : SessionId) : more.lane? session = fewer.lane? session := by
    rw [lane?, lane?, links]
  have askedAt : more.askedAt burden = fewer.askedAt burden := by
    cases burden with
    | lane _ _ _ _ => rw [Scene.askedAt, Scene.askedAt, lane]
    | relay _ _ _ _ _ => rfl
  have answeredAt : more.answeredAt burden = fewer.answeredAt burden := by
    cases burden with
    | lane _ _ _ _ => rw [Scene.answeredAt, Scene.answeredAt, lane]
    | relay _ _ _ _ _ => rfl
  have asking :
      (more.asking burden).count burden =
        (fewer.asking burden).count burden +
          if fewer.askedAt burden = some endpoint then letter.ask?.toList.count burden else 0 := by
    rw [Scene.asking, Scene.asking, askedAt]
    cases fewer.askedAt burden with
    | none => simp
    | some place => simp [counts]
  have answering :
      (more.answering burden).count burden =
        (fewer.answering burden).count burden +
          if fewer.answeredAt burden = some endpoint then
            (letter.answer? endpoint.device).toList.count burden
          else 0 := by
    rw [Scene.answering, Scene.answering, answeredAt]
    cases fewer.answeredAt burden with
    | none => simp
    | some place =>
        rw [counts]
        by_cases same : place = endpoint
        · simp [same]
        · simp [same]
  rw [carried, carried, weight, asking, answering]
  omega

theorem carried_put :
    (scene.put endpoint letter).carried burden =
      scene.carried burden + scene.weight endpoint letter burden :=
  carried_of_count rfl count_mail_put

theorem carried_take {rest : List Letter} (waiting : scene.mail endpoint = letter :: rest) :
    scene.carried burden =
      (scene.take endpoint).carried burden + scene.weight endpoint letter burden :=
  carried_of_count rfl (count_mail_take waiting)

/-! ### What sources wait for -/

variable {device : DeviceId} {standing : Standing}

/-- What one source waits for does not count at another. -/
theorem count_withSource {α : Type} (items : Standing → List α) (stands : α → Option Burden)
    (other : DeviceId) :
    ((items ((scene.withSource device standing).sources other)).filterMap stands).count burden =
      if other = device then ((items standing).filterMap stands).count burden
      else ((items (scene.sources other)).filterMap stands).count burden := by
  by_cases same : other = device
  · rw [if_pos same, same, sources_withSource_self]
  · rw [if_neg same, sources_withSource_of_ne same]

theorem claimed_withSource :
    (scene.withSource device standing).claimed burden =
      if scene.debtor burden = some device then
        (standing.waiting.filterMap (scene.claim? burden)).count burden
      else scene.claimed burden := by
  have debtor : (scene.withSource device standing).debtor burden = scene.debtor burden := rfl
  rw [claimed, claimed, debtor]
  cases scene.debtor burden with
  | none => simp
  | some debtor =>
      simp only [Option.some.injEq]
      exact count_withSource Standing.waiting (scene.claim? burden) debtor

theorem pledged_withSource :
    (scene.withSource device standing).pledged burden =
      if scene.debtor burden = some device then
        (standing.relays.live.toList.filterMap (scene.pledge? burden)).count burden
      else scene.pledged burden := by
  have debtor : (scene.withSource device standing).debtor burden = scene.debtor burden := rfl
  rw [pledged, pledged, debtor]
  cases scene.debtor burden with
  | none => simp
  | some debtor =>
      simp only [Option.some.injEq]
      exact count_withSource (fun source => source.relays.live.toList) (scene.pledge? burden) debtor

theorem passed_withSource :
    (scene.withSource device standing).passed burden =
      if burden.relayer? = some device then
        (standing.relays.live.toList.filterMap (scene.errand? burden)).count burden
      else scene.passed burden := by
  rw [passed, passed]
  cases burden.relayer? with
  | none => simp
  | some relayer =>
      simp only [Option.some.injEq]
      exact count_withSource (fun source => source.relays.live.toList) (scene.errand? burden)
        relayer

theorem claimed_of_debtor (debtor : scene.debtor burden = some device) :
    scene.claimed burden =
      ((scene.sources device).waiting.filterMap (scene.claim? burden)).count burden := by
  rw [claimed, debtor]

theorem pledged_of_debtor (debtor : scene.debtor burden = some device) :
    scene.pledged burden =
      ((scene.sources device).relays.live.toList.filterMap (scene.pledge? burden)).count
        burden := by
  rw [pledged, debtor]

theorem passed_of_relayer (relayer : burden.relayer? = some device) :
    scene.passed burden =
      ((scene.sources device).relays.live.toList.filterMap (scene.errand? burden)).count
        burden := by
  rw [passed, relayer]

theorem withSource_self : scene.withSource device (scene.sources device) = scene := by
  rw [withSource, Function.update_eq_self]

section Entries

variable {more fewer : Standing}

/-- A source that waits for one call more. -/
theorem claimed_of_perm {entry : Call × Ticket}
    (perm : more.waiting.Perm (entry :: fewer.waiting)) :
    (scene.withSource device more).claimed burden =
      (scene.withSource device fewer).claimed burden +
        scene.claimWeight device entry burden := by
  rw [claimed_withSource, claimed_withSource, claimWeight]
  by_cases debtor : scene.debtor burden = some device
  · rw [if_pos debtor, if_pos debtor, if_pos debtor, (perm.filterMap _).count_eq,
      count_filterMap_cons]
  · rw [if_neg debtor, if_neg debtor, if_neg debtor, Nat.add_zero]

/-- A source with one token more. -/
theorem pledged_of_perm {entry : RelayToken × Correlation}
    (perm : more.relays.live.toList.Perm (entry :: fewer.relays.live.toList)) :
    (scene.withSource device more).pledged burden =
      (scene.withSource device fewer).pledged burden +
        scene.pledgeWeight device entry burden := by
  rw [pledged_withSource, pledged_withSource, pledgeWeight]
  by_cases debtor : scene.debtor burden = some device
  · rw [if_pos debtor, if_pos debtor, if_pos debtor, (perm.filterMap _).count_eq,
      count_filterMap_cons]
  · rw [if_neg debtor, if_neg debtor, if_neg debtor, Nat.add_zero]

theorem passed_of_perm {entry : RelayToken × Correlation}
    (perm : more.relays.live.toList.Perm (entry :: fewer.relays.live.toList)) :
    (scene.withSource device more).passed burden =
      (scene.withSource device fewer).passed burden +
        scene.errandWeight device entry burden := by
  rw [passed_withSource, passed_withSource, errandWeight]
  by_cases relayer : burden.relayer? = some device
  · rw [if_pos relayer, if_pos relayer, if_pos relayer, (perm.filterMap _).count_eq,
      count_filterMap_cons]
  · rw [if_neg relayer, if_neg relayer, if_neg relayer, Nat.add_zero]

end Entries

/-! ### Single entries -/

theorem lane?_of_way (wired : scene.Wired) {sink : DeviceId} {session : SessionId}
    (way : (scene.sources device).byPeer[(⟨sink, .sink⟩ : Endpoint)]? = some session) :
    scene.lane? session = some ⟨⟨device, .source⟩, ⟨sink, .sink⟩⟩ := by
  rw [lane?, wired.link_of_lane way]
  rfl

/-- A request on a channel is asked at a sink. -/
theorem role_of_askedAt {session : SessionId} {via : Sink.Via} {request : Request}
    {owner : Option Ticket}
    (place : scene.askedAt (.lane session via request owner) = some endpoint) :
    endpoint.role = .sink := by
  obtain ⟨link, lane, rfl⟩ := Option.map_eq_some_iff.1 place
  exact of_decide_eq_true (Option.filter_eq_some_iff.1 lane).2

/-- What is asked of a sink is not asked at a source. -/
theorem weight_of_request {session : SessionId} {sequence : UInt64} {message : Message}
    {via : Sink.Via} {request : Request}
    (frame : letter.event = .frame session (.composed sequence message))
    (asks : message.ask? session letter.owner = some (.lane session via request letter.owner))
    (noAnswer : message.answer? device session letter.owner = none) :
    scene.weight ⟨device, .source⟩ letter burden = 0 := by
  refine weight_of_stray_ask ((Letter.ask?_of_frame frame).trans asks)
    ((Letter.answer?_of_frame frame _).trans noAnswer) ?_
  intro place
  cases role_of_askedAt place

/-- A request on a channel is answered at a source. -/
theorem role_of_answeredAt (wired : scene.Wired) {session : SessionId} {via : Sink.Via}
    {request : Request} {owner : Option Ticket}
    (place : scene.answeredAt (.lane session via request owner) = some endpoint) :
    endpoint.role = .source := by
  obtain ⟨link, lane, rfl⟩ := Option.map_eq_some_iff.1 place
  exact wired.opener_role (Option.filter_eq_some_iff.1 lane).1

/-- The source that waits for a request on a channel reaches a sink on this channel. -/
theorem way_of_debtor (wired : scene.Wired) {session : SessionId} {via : Sink.Via}
    {request : Request} {owner : Option Ticket}
    (debtor : scene.debtor (.lane session via request owner) = some device) :
    ∃ sink, scene.lane? session = some ⟨⟨device, .source⟩, ⟨sink, .sink⟩⟩ ∧
      (scene.sources device).byPeer[(⟨sink, .sink⟩ : Endpoint)]? = some session := by
  obtain ⟨link, lane, opener⟩ := Option.map_eq_some_iff.1 debtor
  obtain ⟨linked, toSink⟩ := Option.filter_eq_some_iff.1 lane
  have acceptor : link.acceptor.role = .sink := of_decide_eq_true toSink
  have caller := wired.opener_role linked
  have way := wired.way linked acceptor
  obtain ⟨⟨_, _⟩, ⟨sink, _⟩⟩ := link
  cases opener
  cases caller
  cases acceptor
  exact ⟨sink, lane, way⟩

theorem claimWeight_direct (wired : scene.Wired) {sink : DeviceId} {session : SessionId}
    {request : Request} {ticket : Ticket}
    (way : (scene.sources device).byPeer[(⟨sink, .sink⟩ : Endpoint)]? = some session) :
    scene.claimWeight device (.direct sink request, ticket) burden =
      [Burden.lane session .direct request (some ticket)].count burden := by
  have lane := lane?_of_way wired way
  by_cases same : .lane session .direct request (some ticket) = burden
  · subst same
    simp [claimWeight, debtor, claim?, lane, directDebt?]
  · rw [List.count_cons_of_ne same, List.count_nil, claimWeight]
    by_cases here : scene.debtor burden = some device
    · rw [if_pos here]
      cases burden with
      | relay _ _ _ _ _ => rfl
      | lane other via wanted owner =>
          obtain ⟨tested, found, there⟩ := way_of_debtor wired here
          rw [claim?, found, Option.bind_some, directDebt?]
          by_cases leads : sink = tested
          · rw [← leads, way] at there
            cases there
            rw [if_pos leads]
            exact List.count_cons_of_ne same
          · rw [if_neg leads]
            rfl
    · rw [if_neg here]

theorem claimWeight_relayed {relayer sink : DeviceId} {request : Request} {ticket : Ticket} :
    scene.claimWeight device (.relayed relayer sink request, ticket) burden =
      [Burden.relay device relayer sink request (some ticket)].count burden := by
  by_cases same : .relay device relayer sink request (some ticket) = burden
  · subst same
    simp [claimWeight, debtor, claim?, commission?]
  · rw [List.count_cons_of_ne same, List.count_nil, claimWeight]
    by_cases here : scene.debtor burden = some device
    · rw [if_pos here]
      cases burden with
      | lane session _ _ _ =>
          rw [claim?]
          cases scene.lane? session <;> rfl
      | relay caller _ _ _ _ =>
          cases here
          exact List.count_cons_of_ne same
    · rw [if_neg here]

theorem pledgeWeight_of_way (wired : scene.Wired) {session : SessionId} {token : RelayToken}
    {correlation : Correlation}
    (way :
      (scene.sources device).byPeer[(⟨correlation.target, .sink⟩ : Endpoint)]? = some session) :
    scene.pledgeWeight device (token, correlation) burden =
      [Burden.lane session (.relayed token) correlation.request
        (scene.owner device token)].count burden := by
  have lane := lane?_of_way wired way
  by_cases same :
      .lane session (.relayed token) correlation.request (scene.owner device token) = burden
  · subst same
    simp [pledgeWeight, debtor, pledge?, lane, relayedDebt?]
  · rw [List.count_cons_of_ne same, List.count_nil, pledgeWeight]
    by_cases here : scene.debtor burden = some device
    · rw [if_pos here]
      cases burden with
      | relay _ _ _ _ _ => rfl
      | lane other via wanted owner =>
          obtain ⟨tested, found, there⟩ := way_of_debtor wired here
          rw [pledge?, found, Option.bind_some, relayedDebt?]
          by_cases leads : correlation.target = tested
          · rw [leads, there] at way
            cases way
            rw [if_pos leads]
            exact List.count_cons_of_ne same
          · rw [if_neg leads]
            rfl
    · rw [if_neg here]

theorem errandWeight_of_origin {token : RelayToken} {correlation : Correlation}
    {origin : SessionId} {link : Link} {caller : DeviceId}
    (present : correlation.origin = some origin) (linked : scene.links origin = some link)
    (leads : link.otherEnd ⟨device, .source⟩ = ⟨caller, .source⟩) :
    scene.errandWeight device (token, correlation) burden =
      [Burden.relay caller device correlation.target correlation.request
        (scene.owner device token)].count burden := by
  have passed :
      passedOn? scene.links (scene.owner device) device (token, correlation) =
        some (.relay caller device correlation.target correlation.request
          (scene.owner device token)) := by
    simp [passedOn?, present, linked, leads]
  by_cases same :
      .relay caller device correlation.target correlation.request (scene.owner device token) =
        burden
  · subst same
    rw [errandWeight, errand?, passed]
    simp [Burden.relayer?]
  · rw [List.count_cons_of_ne same, List.count_nil, errandWeight]
    by_cases here : burden.relayer? = some device
    · rw [if_pos here]
      cases burden with
      | lane _ _ _ _ => rfl
      | relay _ relayer _ _ _ =>
          cases here
          rw [errand?, passed]
          exact List.count_cons_of_ne same
    · rw [if_neg here]

end Weights

end Scene

end InputSharing
