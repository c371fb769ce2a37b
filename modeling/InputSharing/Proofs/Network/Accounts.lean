import InputSharing.Proofs.Network.Balance
import InputSharing.Proofs.Pending

/-!
# What keeps a scene accounted

Each small change of a scene moves burdens: into the hand, out of it, or from one
place to another.
-/

namespace InputSharing

namespace Standing

variable (standing : Standing)

/-- One more call waits. -/
def await (entry : Call × Ticket) : Standing :=
  { standing with waiting := standing.waiting ++ [entry] }

/-- A call has ended. -/
def settle (call : Call) : Standing :=
  { standing with waiting := standing.waiting.filter fun entry => entry.1 ≠ call }

/-- A token is given out. -/
def start (token : RelayToken) (correlation : Correlation) : Standing :=
  { standing with
    relays := { last := token, live := standing.relays.live.insert token correlation } }

/-- A token is used up. -/
def consume (token : RelayToken) : Standing :=
  { standing with relays := { standing.relays with live := standing.relays.live.erase token } }

/-- Nothing waits for a sink any more. -/
def abandon (sink : DeviceId) : Standing :=
  { standing with
    waiting := standing.waiting.filter fun entry => !Call.isTo sink entry.1
    relays :=
      { standing.relays with
        live := standing.relays.live.filter fun _ correlation => correlation.target ≠ sink } }

variable {standing}

@[simp]
theorem relays_await (entry : Call × Ticket) : (standing.await entry).relays = standing.relays :=
  rfl

@[simp]
theorem relays_settle (call : Call) : (standing.settle call).relays = standing.relays :=
  rfl

@[simp]
theorem waiting_start (token : RelayToken) (correlation : Correlation) :
    (standing.start token correlation).waiting = standing.waiting :=
  rfl

@[simp]
theorem waiting_consume (token : RelayToken) :
    (standing.consume token).waiting = standing.waiting :=
  rfl

theorem getElem?_start {token tested : RelayToken} {correlation found : Correlation}
    (held : (standing.start token correlation).relays.live[tested]? = some found) :
    (tested = token ∧ found = correlation) ∨ standing.relays.live[tested]? = some found := by
  rw [start, Table.getElem?_insert_eq] at held
  by_cases same : token = tested
  · rw [if_pos same] at held
    exact Or.inl ⟨same.symm, (Option.some.inj held).symm⟩
  · rw [if_neg same] at held
    exact Or.inr held

theorem getElem?_of_consume {token tested : RelayToken} {found : Correlation}
    (held : (standing.consume token).relays.live[tested]? = some found) :
    standing.relays.live[tested]? = some found := by
  rw [consume, Table.getElem?_erase_eq] at held
  by_cases same : token = tested
  · rw [if_pos same] at held
    cases held
  · rw [if_neg same] at held
    exact held

theorem getElem?_abandon {sink : DeviceId} {tested : RelayToken} {found : Correlation}
    (held : (standing.abandon sink).relays.live[tested]? = some found) :
    standing.relays.live[tested]? = some found ∧ found.target ≠ sink := by
  rw [abandon, Std.ExtTreeMap.getElem?_filter', Option.filter_eq_some_iff] at held
  exact ⟨held.1, of_decide_eq_true held.2⟩

namespace Tidy

/-- A source may wait for less. -/
theorem shrink (tidy : standing.Tidy) {less : Standing} (byPeer : less.byPeer = standing.byPeer)
    (waiting : less.waiting.Sublist standing.waiting)
    (live :
      ∀ {token : RelayToken} {correlation : Correlation},
        less.relays.live[token]? = some correlation →
          standing.relays.live[token]? = some correlation)
    (last : less.relays.last = standing.relays.last) : less.Tidy where
  keys_nodup := (waiting.map Prod.fst).nodup tidy.keys_nodup
  way_of_waiting := by
    intro sink request ticket listed
    rw [byPeer]
    exact tidy.way_of_waiting (waiting.subset listed)
  way_of_live := by
    intro token correlation held
    rw [byPeer]
    exact tidy.way_of_live (live held)
  tokens_numbered := by
    intro token member
    obtain ⟨correlation, held⟩ := (Table.mem_iff_exists _ _).1 member
    rw [last]
    exact tidy.tokens_numbered (Table.mem_of_getElem? (live held))

theorem settle (tidy : standing.Tidy) (call : Call) : (standing.settle call).Tidy :=
  tidy.shrink rfl List.filter_sublist (fun held => held) rfl

theorem consume (tidy : standing.Tidy) (token : RelayToken) : (standing.consume token).Tidy :=
  tidy.shrink rfl (List.Sublist.refl _) getElem?_of_consume rfl

theorem abandon (tidy : standing.Tidy) (sink : DeviceId) : (standing.abandon sink).Tidy :=
  tidy.shrink rfl List.filter_sublist (fun held => (getElem?_abandon held).1) rfl

theorem await (tidy : standing.Tidy) {call : Call} {ticket : Ticket}
    (new : call ∉ standing.waiting.map Prod.fst)
    (way :
      ∀ sink request, call = .direct sink request →
        (⟨sink, .sink⟩ : Endpoint) ∈ standing.byPeer) :
    (standing.await (call, ticket)).Tidy where
  keys_nodup := by
    rw [Standing.await, List.map_append, List.nodup_append]
    refine ⟨tidy.keys_nodup, List.nodup_singleton _, ?_⟩
    intro key listed last isLast same
    rw [List.map_singleton, List.mem_singleton] at isLast
    rw [same, isLast] at listed
    exact new listed
  way_of_waiting := by
    intro sink request other listed
    rcases List.mem_append.1 listed with old | last
    · exact tidy.way_of_waiting old
    · cases List.mem_singleton.1 last
      exact way sink request rfl
  way_of_live := tidy.way_of_live
  tokens_numbered := tidy.tokens_numbered

theorem start (tidy : standing.Tidy) {token : RelayToken} {correlation : Correlation}
    (numbered : token.number.toNat = standing.relays.last.number.toNat + 1)
    (way : (⟨correlation.target, .sink⟩ : Endpoint) ∈ standing.byPeer) :
    (standing.start token correlation).Tidy where
  keys_nodup := tidy.keys_nodup
  way_of_waiting := tidy.way_of_waiting
  way_of_live := by
    intro tested found held
    rcases getElem?_start held with ⟨_, new⟩ | old
    · rw [new]
      exact way
    · exact tidy.way_of_live old
  tokens_numbered := by
    intro tested member
    change _ ≤ token.number.toNat
    obtain ⟨found, held⟩ := (Table.mem_iff_exists _ _).1 member
    rcases getElem?_start held with ⟨same, _⟩ | old
    · exact Nat.le_of_eq (congrArg (fun token => token.number.toNat) same)
    · have earlier := tidy.tokens_numbered (Table.mem_of_getElem? old)
      omega

/-- More ways do no harm. -/
theorem enter (tidy : standing.Tidy) (channel : Channel) : (standing.enter channel).Tidy where
  keys_nodup := tidy.keys_nodup
  way_of_waiting := by
    intro sink request ticket listed
    exact Std.ExtTreeMap.mem_insert.2 (Or.inr (tidy.way_of_waiting listed))
  way_of_live := by
    intro token correlation held
    exact Std.ExtTreeMap.mem_insert.2 (Or.inr (tidy.way_of_live held))
  tokens_numbered := tidy.tokens_numbered

/-- The way to a sink can be forgotten when nothing waits for it. -/
theorem forget (tidy : standing.Tidy) {sink : DeviceId} {session : SessionId}
    (noCall : ∀ {request ticket}, (Call.direct sink request, ticket) ∉ standing.waiting)
    (noToken :
      ∀ {token : RelayToken} {correlation : Correlation},
        standing.relays.live[token]? = some correlation → correlation.target ≠ sink) :
    (standing.forget ⟨sink, .sink⟩ session).Tidy where
  keys_nodup := tidy.keys_nodup
  way_of_waiting := by
    intro tested request ticket listed
    refine (Table.mem_erase_iff _ _ _).2 ⟨?_, tidy.way_of_waiting listed⟩
    intro same
    cases same
    exact noCall listed
  way_of_live := by
    intro token correlation held
    refine (Table.mem_erase_iff _ _ _).2 ⟨?_, tidy.way_of_live held⟩
    intro same
    cases same
    exact noToken held rfl
  tokens_numbered := tidy.tokens_numbered

end Tidy

end Standing

namespace Scene

variable {scene : Scene} {doomed : Option SessionId} {hand : List Burden}

theorem count_hand (burden first : Burden) :
    (first :: hand).count burden = hand.count burden + [first].count burden := by
  rw [List.count_cons, List.count_singleton]

namespace Accounted

/-! ## Letters -/

theorem put (accounted : scene.Accounted doomed hand) {endpoint : Endpoint} {letter : Letter}
    {left : List Burden}
    (weights :
      ∀ burden : Burden,
        hand.count burden = left.count burden + scene.weight endpoint letter burden) :
    (scene.put endpoint letter).Accounted doomed left where
  tidy := accounted.tidy
  addressed := accounted.addressed
  origins := accounted.origins
  balance := by
    intro burden spared
    have before := accounted.balance spared
    have weight := weights burden
    change scene.claimed burden + scene.pledged burden = _ + scene.passed burden + _
    rw [carried_put]
    omega

/-- A letter that stands for nothing can be put anywhere. -/
theorem put_idle (accounted : scene.Accounted doomed hand) {endpoint : Endpoint} {letter : Letter}
    (noAsk : letter.ask? = none) (noAnswer : letter.answer? endpoint.device = none) :
    (scene.put endpoint letter).Accounted doomed hand := by
  apply accounted.put
  intro burden
  rw [weight_of_none noAsk noAnswer, Nat.add_zero]

theorem put_ask {burden : Burden} (accounted : scene.Accounted doomed (burden :: hand))
    {endpoint : Endpoint} {letter : Letter} (asks : letter.ask? = some burden)
    (noAnswer : letter.answer? endpoint.device = none)
    (place : scene.askedAt burden = some endpoint) :
    (scene.put endpoint letter).Accounted doomed hand := by
  apply accounted.put
  intro tested
  rw [weight_of_ask asks noAnswer place, count_hand]

theorem put_answer {burden : Burden} (accounted : scene.Accounted doomed (burden :: hand))
    {endpoint : Endpoint} {letter : Letter} (noAsk : letter.ask? = none)
    (answers : letter.answer? endpoint.device = some burden)
    (place : scene.answeredAt burden = some endpoint) :
    (scene.put endpoint letter).Accounted doomed hand := by
  apply accounted.put
  intro tested
  rw [weight_of_answer noAsk answers place, count_hand]

theorem take (accounted : scene.Accounted doomed hand) {endpoint : Endpoint} {letter : Letter}
    {rest : List Letter} (waiting : scene.mail endpoint = letter :: rest) {more : List Burden}
    (weights :
      ∀ burden : Burden,
        more.count burden = hand.count burden + scene.weight endpoint letter burden) :
    (scene.take endpoint).Accounted doomed more where
  tidy := accounted.tidy
  addressed := accounted.addressed
  origins := accounted.origins
  balance := by
    intro burden spared
    have before := accounted.balance spared
    have weight := weights burden
    have carried :
        scene.carried burden =
          (scene.take endpoint).carried burden + scene.weight endpoint letter burden :=
      carried_take waiting
    change scene.claimed burden + scene.pledged burden = _ + scene.passed burden + _
    omega

theorem take_ask (accounted : scene.Accounted doomed hand) {endpoint : Endpoint} {letter : Letter}
    {rest : List Letter} (waiting : scene.mail endpoint = letter :: rest) {burden : Burden}
    (asks : letter.ask? = some burden) (noAnswer : letter.answer? endpoint.device = none)
    (place : scene.askedAt burden = some endpoint) :
    (scene.take endpoint).Accounted doomed (burden :: hand) := by
  apply accounted.take waiting
  intro tested
  rw [weight_of_ask asks noAnswer place, count_hand]

theorem take_answer (accounted : scene.Accounted doomed hand) {endpoint : Endpoint}
    {letter : Letter} {rest : List Letter} (waiting : scene.mail endpoint = letter :: rest)
    {burden : Burden} (noAsk : letter.ask? = none)
    (answers : letter.answer? endpoint.device = some burden)
    (place : scene.answeredAt burden = some endpoint) :
    (scene.take endpoint).Accounted doomed (burden :: hand) := by
  apply accounted.take waiting
  intro tested
  rw [weight_of_answer noAsk answers place, count_hand]

/-! ## Calls -/

variable {device : DeviceId}

theorem withSource (accounted : scene.Accounted doomed hand) {standing : Standing}
    {left : Option SessionId} {after : List Burden} (tidy : standing.Tidy)
    (live :
      ∀ {token : RelayToken} {correlation : Correlation},
        standing.relays.live[token]? = some correlation →
          correlation.source = device ∧ CameOn scene.links device correlation)
    (balance :
      ∀ {burden : Burden}, burden.Spares left →
        (scene.withSource device standing).claimed burden +
            (scene.withSource device standing).pledged burden =
          scene.carried burden + (scene.withSource device standing).passed burden +
            after.count burden) :
    (scene.withSource device standing).Accounted left after where
  tidy := by
    intro tested
    by_cases same : tested = device
    · rw [same, sources_withSource_self]
      exact tidy
    · rw [sources_withSource_of_ne same]
      exact accounted.tidy tested
  addressed := by
    intro tested token correlation held
    by_cases same : tested = device
    · rw [same, sources_withSource_self] at held
      rw [same]
      exact (live held).1
    · rw [sources_withSource_of_ne same] at held
      exact accounted.addressed held
  origins := by
    intro tested token correlation held
    by_cases same : tested = device
    · rw [same, sources_withSource_self] at held
      rw [same]
      exact (live held).2
    · rw [sources_withSource_of_ne same] at held
      exact accounted.origins held
  balance := balance

/-- A source with the same tokens as before. -/
theorem pledged_of_relays {standing : Standing}
    (same : standing.relays = (scene.sources device).relays) (burden : Burden) :
    (scene.withSource device standing).pledged burden = scene.pledged burden := by
  rw [pledged_withSource, same]
  by_cases debtor : scene.debtor burden = some device
  · rw [if_pos debtor, pledged_of_debtor debtor]
  · rw [if_neg debtor]

theorem passed_of_relays {standing : Standing}
    (same : standing.relays = (scene.sources device).relays) (burden : Burden) :
    (scene.withSource device standing).passed burden = scene.passed burden := by
  rw [passed_withSource, same]
  by_cases relayer : burden.relayer? = some device
  · rw [if_pos relayer, passed_of_relayer relayer]
  · rw [if_neg relayer]

theorem claimed_of_waiting {standing : Standing}
    (same : standing.waiting = (scene.sources device).waiting) (burden : Burden) :
    (scene.withSource device standing).claimed burden = scene.claimed burden := by
  rw [claimed_withSource, same]
  by_cases debtor : scene.debtor burden = some device
  · rw [if_pos debtor, claimed_of_debtor debtor]
  · rw [if_neg debtor]

theorem live_of (accounted : scene.Accounted doomed hand) {token : RelayToken}
    {correlation : Correlation}
    (held : (scene.sources device).relays.live[token]? = some correlation) :
    correlation.source = device ∧ CameOn scene.links device correlation :=
  ⟨accounted.addressed held, accounted.origins held⟩

/-- A call comes to wait; it has still to be sent. -/
theorem await (accounted : scene.Accounted doomed hand) {call : Call} {ticket : Ticket}
    {burden : Burden} (new : call ∉ (scene.sources device).waiting.map Prod.fst)
    (way :
      ∀ sink request, call = .direct sink request →
        (⟨sink, .sink⟩ : Endpoint) ∈ (scene.sources device).byPeer)
    (weights :
      ∀ tested : Burden, scene.claimWeight device (call, ticket) tested = [burden].count tested) :
    (scene.withSource device ((scene.sources device).await (call, ticket))).Accounted doomed
      (burden :: hand) := by
  refine accounted.withSource ((accounted.tidy device).await new way) accounted.live_of ?_
  intro tested spared
  have before := accounted.balance spared
  have perm :
      ((scene.sources device).await (call, ticket)).waiting.Perm
        ((call, ticket) :: (scene.sources device).waiting) :=
    List.perm_append_singleton _ _
  rw [pledged_of_relays (Standing.relays_await _), passed_of_relays (Standing.relays_await _),
    claimed_of_perm perm, withSource_self, count_hand, weights]
  omega

/-- A call ends whose answer is in hand. -/
theorem settle {burden : Burden} (accounted : scene.Accounted doomed (burden :: hand))
    {call : Call} {ticket : Ticket} (listed : (call, ticket) ∈ (scene.sources device).waiting)
    (weights :
      ∀ tested : Burden, scene.claimWeight device (call, ticket) tested = [burden].count tested) :
    (scene.withSource device ((scene.sources device).settle call)).Accounted doomed hand := by
  refine accounted.withSource ((accounted.tidy device).settle call) accounted.live_of ?_
  intro tested spared
  have before := accounted.balance spared
  have perm :
      (scene.sources device).waiting.Perm
        ((call, ticket) :: ((scene.sources device).settle call).waiting) :=
    Pending.perm_of_key (accounted.tidy device).keys_nodup listed
  have claimed :
      scene.claimed tested =
        (scene.withSource device ((scene.sources device).settle call)).claimed tested +
          [burden].count tested := by
    rw [← weights, ← claimed_of_perm perm, withSource_self]
  rw [count_hand] at before
  rw [pledged_of_relays (Standing.relays_settle _), passed_of_relays (Standing.relays_settle _)]
  omega

/-! ## Tokens -/

theorem owner_withOwner_self {token : RelayToken} {ticket : Option Ticket} :
    (scene.withOwner device token ticket).owner device token = ticket := by
  simp only [Scene.withOwner, Function.update_self]

theorem owner_withOwner {token tested : RelayToken} {ticket : Option Ticket} {other : DeviceId}
    (different : other = device → tested ≠ token) :
    (scene.withOwner device token ticket).owner other tested = scene.owner other tested := by
  by_cases same : other = device
  · subst same
    simp only [Scene.withOwner, Function.update_self, Function.update_of_ne (different rfl)]
  · simp only [Scene.withOwner, Function.update_of_ne same]

theorem owner_of_live {token tested : RelayToken} {ticket : Option Ticket} {other : DeviceId}
    (fresh : token ∉ (scene.sources device).relays.live) {correlation : Correlation}
    (listed : (tested, correlation) ∈ (scene.sources other).relays.live.toList) :
    (scene.withOwner device token ticket).owner other tested = scene.owner other tested := by
  apply owner_withOwner
  intro same again
  rw [same, again] at listed
  exact fresh (Table.mem_of_getElem? (Table.mem_toList.1 listed))

/-- Who will own a token that is not yet in use does not matter. -/
theorem withOwner (accounted : scene.Accounted doomed hand) {token : RelayToken}
    (fresh : token ∉ (scene.sources device).relays.live) (ticket : Option Ticket) :
    (scene.withOwner device token ticket).Accounted doomed hand where
  tidy := accounted.tidy
  addressed := accounted.addressed
  origins := accounted.origins
  balance := by
    intro burden spared
    have before := accounted.balance spared
    have pledged :
        (scene.withOwner device token ticket).pledged burden = scene.pledged burden := by
      have same : (scene.withOwner device token ticket).debtor burden = scene.debtor burden := rfl
      rw [Scene.pledged, Scene.pledged, same]
      cases debtor : scene.debtor burden with
      | none => rfl
      | some caller =>
          dsimp only
          congr 1
          apply List.filterMap_congr
          rintro ⟨tested, correlation⟩ listed
          cases burden with
          | relay _ _ _ _ _ => rfl
          | lane session _ _ _ =>
              obtain ⟨link, found, opener⟩ := Option.map_eq_some_iff.1 debtor
              rw [pledge?, pledge?]
              change (scene.lane? session).bind _ = _
              rw [found, Option.bind_some, Option.bind_some, relayedDebt?, relayedDebt?, opener,
                owner_of_live fresh listed]
    have passed : (scene.withOwner device token ticket).passed burden = scene.passed burden := by
      rw [Scene.passed, Scene.passed]
      cases relayer : burden.relayer? with
      | none => rfl
      | some relayer =>
          dsimp only
          congr 1
          apply List.filterMap_congr
          rintro ⟨tested, correlation⟩ listed
          cases burden with
          | lane _ _ _ _ => rfl
          | relay _ other _ _ _ =>
              cases relayer
              rw [errand?, errand?, passedOn?, passedOn?, owner_of_live fresh listed]
              rfl
    rw [pledged, passed]
    exact before

/-- A request that is in hand gets a token; it has still to be passed on. -/
theorem start {errand pledge : Burden} (accounted : scene.Accounted doomed (errand :: hand))
    {token : RelayToken} {correlation : Correlation}
    (numbered :
      token.number.toNat = (scene.sources device).relays.last.number.toNat + 1)
    (way : (⟨correlation.target, .sink⟩ : Endpoint) ∈ (scene.sources device).byPeer)
    (addressed : correlation.source = device)
    (cameOn : CameOn scene.links device correlation)
    (errandWeights :
      ∀ tested : Burden,
        scene.errandWeight device (token, correlation) tested = [errand].count tested)
    (pledgeWeights :
      ∀ tested : Burden,
        scene.pledgeWeight device (token, correlation) tested = [pledge].count tested) :
    (scene.withSource device ((scene.sources device).start token correlation)).Accounted doomed
      (pledge :: hand) := by
  have fresh : token ∉ (scene.sources device).relays.live := by
    intro live
    have earlier := (accounted.tidy device).tokens_numbered live
    omega
  refine accounted.withSource ((accounted.tidy device).start numbered way) ?_ ?_
  · intro tested found held
    rcases Standing.getElem?_start held with ⟨_, new⟩ | old
    · rw [new]
      exact ⟨addressed, cameOn⟩
    · exact accounted.live_of old
  · intro tested spared
    have before := accounted.balance spared
    have perm :
        ((scene.sources device).start token correlation).relays.live.toList.Perm
          ((token, correlation) :: (scene.sources device).relays.live.toList) :=
      Table.toList_insert_perm fresh
    rw [count_hand] at before
    rw [claimed_of_waiting (Standing.waiting_start _ _), pledged_of_perm perm,
      passed_of_perm perm, withSource_self, count_hand, errandWeights, pledgeWeights]
    omega

/-- The answer to a request that was passed on is in hand; its token is used up. -/
theorem consume {errand pledge : Burden} (accounted : scene.Accounted doomed (pledge :: hand))
    {token : RelayToken} {correlation : Correlation}
    (held : (scene.sources device).relays.live[token]? = some correlation)
    (errandWeights :
      ∀ tested : Burden,
        scene.errandWeight device (token, correlation) tested = [errand].count tested)
    (pledgeWeights :
      ∀ tested : Burden,
        scene.pledgeWeight device (token, correlation) tested = [pledge].count tested) :
    (scene.withSource device ((scene.sources device).consume token)).Accounted doomed
      (errand :: hand) := by
  refine accounted.withSource ((accounted.tidy device).consume token) ?_ ?_
  · intro tested found held
    exact accounted.live_of (Standing.getElem?_of_consume held)
  · intro tested spared
    have before := accounted.balance spared
    have perm :
        (scene.sources device).relays.live.toList.Perm
          ((token, correlation) ::
            ((scene.sources device).consume token).relays.live.toList) :=
      Table.toList_erase_perm held
    have pledged :
        scene.pledged tested =
          (scene.withSource device ((scene.sources device).consume token)).pledged tested +
            [pledge].count tested := by
      rw [← pledgeWeights, ← pledged_of_perm perm, withSource_self]
    have passed :
        scene.passed tested =
          (scene.withSource device ((scene.sources device).consume token)).passed tested +
            [errand].count tested := by
      rw [← errandWeights, ← passed_of_perm perm, withSource_self]
    rw [count_hand] at before
    rw [claimed_of_waiting (Standing.waiting_consume _), count_hand]
    omega

/-! ## The end of a sink -/

/-- The burdens of a channel need not count. -/
theorem doom (accounted : scene.Accounted none hand) (session : SessionId) :
    scene.Accounted (some session) hand where
  tidy := accounted.tidy
  addressed := accounted.addressed
  origins := accounted.origins
  balance := by
    intro burden _
    apply accounted.balance
    cases burden with
    | lane _ _ _ _ =>
        intro same
        cases same
    | relay _ _ _ _ _ => trivial

theorem filterMap_filter_of_none {α β : Type} {keep : α → Bool} {stands : α → Option β}
    {items : List α} (dropped : ∀ item, keep item = false → stands item = none) :
    (items.filter keep).filterMap stands = items.filterMap stands := by
  rw [List.filterMap_filter]
  apply List.filterMap_congr
  intro item _
  cases kept : keep item with
  | true => rfl
  | false => exact (dropped item kept).symm

section Abandoning

variable {sink : DeviceId} {session : SessionId} {burden : Burden}

/-- No other channel of a source leads to the same sink. -/
theorem ne_of_way {standing : Standing}
    (way : standing.byPeer[(⟨sink, .sink⟩ : Endpoint)]? = some session)
    {other : SessionId} {peer : DeviceId}
    (there : standing.byPeer[(⟨peer, .sink⟩ : Endpoint)]? = some other)
    (different : some session ≠ some other) : sink ≠ peer := by
  rintro rfl
  exact different (way.symm.trans there)

theorem claimed_abandon (wired : scene.Wired)
    (way : (scene.sources device).byPeer[(⟨sink, .sink⟩ : Endpoint)]? = some session)
    (spared : burden.Spares (some session)) :
    (scene.withSource device ((scene.sources device).abandon sink)).claimed burden =
      scene.claimed burden := by
  rw [claimed_withSource]
  by_cases debtor : scene.debtor burden = some device
  · rw [if_pos debtor, claimed_of_debtor debtor, Standing.abandon]
    dsimp only
    rw [filterMap_filter_of_none]
    rintro ⟨call, ticket⟩ dropped
    cases call with
    | relayed _ _ _ => cases dropped
    | direct peer request =>
        cases burden with
        | relay _ _ _ _ _ => rfl
        | lane other _ _ _ =>
            obtain ⟨tested, lane, there⟩ := way_of_debtor wired debtor
            have same : peer = sink := by simpa [Call.isTo] using dropped
            have elsewhere : sink ≠ tested := ne_of_way way there spared
            rw [claim?, lane, Option.bind_some, directDebt?, same, if_neg elsewhere]
  · rw [if_neg debtor]

theorem pledged_abandon (wired : scene.Wired)
    (way : (scene.sources device).byPeer[(⟨sink, .sink⟩ : Endpoint)]? = some session)
    (spared : burden.Spares (some session)) :
    (scene.withSource device ((scene.sources device).abandon sink)).pledged burden =
      scene.pledged burden := by
  rw [pledged_withSource]
  by_cases debtor : scene.debtor burden = some device
  · rw [if_pos debtor, pledged_of_debtor debtor, Standing.abandon]
    dsimp only
    rw [Std.ExtTreeMap.toList_filter, filterMap_filter_of_none]
    rintro ⟨token, correlation⟩ dropped
    cases burden with
    | relay _ _ _ _ _ => rfl
    | lane other _ _ _ =>
        obtain ⟨tested, lane, there⟩ := way_of_debtor wired debtor
        have same : correlation.target = sink := by simpa using dropped
        have elsewhere : sink ≠ tested := ne_of_way way there spared
        rw [pledge?, lane, Option.bind_some, relayedDebt?, same, if_neg elsewhere]
  · rw [if_neg debtor]

/-- What a source no longer passes on for a sink is in its hands. -/
theorem passed_abandon :
    scene.passed burden =
      (scene.withSource device ((scene.sources device).abandon sink)).passed burden +
        (scene.errands device ((scene.sources device).relays.live.toList.filter fun entry =>
          entry.2.target = sink)).count burden := by
  rw [passed_withSource]
  by_cases relayer : burden.relayer? = some device
  · have split :=
      Table.toList_filter_perm (scene.sources device).relays.live fun correlation =>
        decide (correlation.target ≠ sink)
    have gone (entry : RelayToken × Correlation) :
        (!decide (entry.2.target ≠ sink)) = decide (entry.2.target = sink) := by simp
    simp only [gone] at split
    rw [if_pos relayer, passed_of_relayer relayer, (split.filterMap _).count_eq,
      List.filterMap_append, List.count_append, Nat.add_comm]
    congr 2
    cases burden with
    | lane _ _ _ _ => cases relayer
    | relay _ _ _ _ _ =>
        cases relayer
        rfl
  · rw [if_neg relayer, List.count_eq_zero_of_not_mem, Nat.add_zero]
    intro listed
    obtain ⟨entry, _, stands⟩ := List.mem_filterMap.1 listed
    obtain ⟨link, _, same⟩ := Option.map_eq_some_iff.1 stands
    rw [← same] at relayer
    exact relayer rfl

/-- Nothing waits for a sink any more, and the channel to it does not count. -/
theorem abandon (accounted : scene.Accounted (some session) hand) (wired : scene.Wired)
    (way : (scene.sources device).byPeer[(⟨sink, .sink⟩ : Endpoint)]? = some session) :
    (scene.withSource device ((scene.sources device).abandon sink)).Accounted (some session)
      (scene.errands device
        ((scene.sources device).relays.live.toList.filter fun entry => entry.2.target = sink) ++
          hand) := by
  refine accounted.withSource ((accounted.tidy device).abandon sink) ?_ ?_
  · intro token correlation held
    exact accounted.live_of (Standing.getElem?_abandon held).1
  · intro burden spared
    have before := accounted.balance spared
    rw [@passed_abandon scene device sink] at before
    rw [claimed_abandon wired way spared, pledged_abandon wired way spared, List.count_append]
    omega

end Abandoning

/-! ## What is in hand is waited for -/

section InHand

variable {session : SessionId} {sink : DeviceId} {request : Request} {owner : Option Ticket}

theorem mem_of_count {α : Type} {items : List α} {stands : α → Option Burden} {burden : Burden}
    (positive : 0 < (items.filterMap stands).count burden) :
    ∃ item ∈ items, stands item = some burden :=
  List.mem_filterMap.1 (List.count_pos_iff.1 positive)

theorem claimed_or_pledged {burden : Burden}
    (accounted : scene.Accounted doomed (burden :: hand)) (spared : burden.Spares doomed) :
    0 < scene.claimed burden ∨ 0 < scene.pledged burden := by
  have balance := accounted.balance spared
  rw [List.count_cons_self] at balance
  omega

theorem call_of_lane
    (accounted : scene.Accounted doomed (.lane session .direct request owner :: hand))
    (spared : doomed ≠ some session)
    (lane : scene.lane? session = some ⟨⟨device, .source⟩, ⟨sink, .sink⟩⟩) :
    ∃ ticket, owner = some ticket ∧
      (Call.direct sink request, ticket) ∈ (scene.sources device).waiting := by
  have debtor : scene.debtor (.lane session .direct request owner) = some device := by
    rw [Scene.debtor, lane]
    rfl
  rcases accounted.claimed_or_pledged spared with claimed | pledged
  · rw [claimed_of_debtor debtor] at claimed
    obtain ⟨⟨call, ticket⟩, listed, claims⟩ := mem_of_count claimed
    rw [claim?, lane, Option.bind_some] at claims
    cases call with
    | relayed _ _ _ => cases claims
    | direct peer wanted =>
        rw [directDebt?] at claims
        by_cases same : peer = sink
        · rw [if_pos same] at claims
          cases claims
          rw [← same]
          exact ⟨ticket, rfl, listed⟩
        · rw [if_neg same] at claims
          cases claims
  · rw [pledged_of_debtor debtor] at pledged
    obtain ⟨⟨token, correlation⟩, _, pledges⟩ := mem_of_count pledged
    rw [pledge?, lane, Option.bind_some, relayedDebt?] at pledges
    split at pledges
    · cases pledges
    · cases pledges

theorem token_of_lane {token : RelayToken}
    (accounted : scene.Accounted doomed (.lane session (.relayed token) request owner :: hand))
    (spared : doomed ≠ some session)
    (lane : scene.lane? session = some ⟨⟨device, .source⟩, ⟨sink, .sink⟩⟩) :
    ∃ correlation : Correlation,
      (scene.sources device).relays.live[token]? = some correlation ∧
        correlation.target = sink ∧ correlation.request = request ∧
        scene.owner device token = owner := by
  have debtor : scene.debtor (.lane session (.relayed token) request owner) = some device := by
    rw [Scene.debtor, lane]
    rfl
  rcases accounted.claimed_or_pledged spared with claimed | pledged
  · rw [claimed_of_debtor debtor] at claimed
    obtain ⟨⟨call, ticket⟩, _, claims⟩ := mem_of_count claimed
    rw [claim?, lane, Option.bind_some] at claims
    cases call with
    | relayed _ _ _ => cases claims
    | direct peer wanted =>
        rw [directDebt?] at claims
        split at claims
        · cases claims
        · cases claims
  · rw [pledged_of_debtor debtor] at pledged
    obtain ⟨⟨used, correlation⟩, listed, pledges⟩ := mem_of_count pledged
    rw [pledge?, lane, Option.bind_some, relayedDebt?] at pledges
    by_cases same : correlation.target = sink
    · rw [if_pos same] at pledges
      cases pledges
      exact ⟨correlation, Table.mem_toList.1 listed, same, rfl, rfl⟩
    · rw [if_neg same] at pledges
      cases pledges

theorem call_of_relay {relayer : DeviceId}
    (accounted : scene.Accounted doomed (.relay device relayer sink request owner :: hand)) :
    ∃ ticket, owner = some ticket ∧
      (Call.relayed relayer sink request, ticket) ∈ (scene.sources device).waiting := by
  have debtor : scene.debtor (.relay device relayer sink request owner) = some device := rfl
  rcases accounted.claimed_or_pledged trivial with claimed | pledged
  · rw [claimed_of_debtor debtor] at claimed
    obtain ⟨⟨call, ticket⟩, listed, claims⟩ := mem_of_count claimed
    cases call with
    | direct _ _ => cases claims
    | relayed _ _ _ =>
        cases claims
        exact ⟨ticket, rfl, listed⟩
  · rw [pledged_of_debtor debtor] at pledged
    obtain ⟨_, _, pledges⟩ := mem_of_count pledged
    cases pledges

end InHand

end Accounted

end Scene

end InputSharing
