import InputSharing.Proofs.Source.Ledger
import InputSharing.Proofs.Source.Parts
import InputSharing.Proofs.Source.Quiet
import InputSharing.Proofs.Table

/-!
# Relaying keeps its account balanced

What a source does about relaying is taken apart into the steps that
`Account.Balanced` knows.  While the end of a sink is reported to the origins of
several requests, those that have yet to hear of it are in hand.
-/

namespace InputSharing.Source

namespace Turn

variable {τ : Type}

/-! ## Tokens in use -/

section Relaying

variable (turn : Turn τ)

/-- A turn with other requests outstanding. -/
def withLive (live : Table RelayToken Correlation) : Turn τ :=
  { turn with
    source := { turn.source with relays := { turn.source.relays with live } } }

theorem completeRelay_eq [Transport τ] (token : RelayToken) (message : Correlation → Message) :
    turn.completeRelay token message =
      let usedUp := turn.withLive (turn.source.relays.live.erase token)
      match turn.source.relays.live[token]? with
      | none => usedUp
      | some correlation =>
          match correlation.origin with
          | none => usedUp
          | some origin => usedUp.post origin (message correlation) := by
  rw [completeRelay, Channels.completeRelay]
  simp only [Relays.consume]
  cases turn.source.relays.live[token]? with
  | none => rfl
  | some correlation =>
      cases present : correlation.origin with
      | none => simp only [present]; rfl
      | some origin => simp only [present]; rfl

/-- A token is used up, and its request may be reported on to where it came from. -/
theorem completeRelay_cases [Transport τ] (token : RelayToken)
    (message : Correlation → Message) :
    let usedUp := turn.withLive (turn.source.relays.live.erase token)
    turn.completeRelay token message = usedUp ∨
      ∃ correlation origin, turn.source.relays.live[token]? = some correlation ∧
        correlation.origin = some origin ∧
        turn.completeRelay token message = usedUp.post origin (message correlation) := by
  rw [completeRelay_eq]
  dsimp only
  split
  · exact Or.inl rfl
  · next correlation live =>
    split
    · exact Or.inl rfl
    · next origin present => exact Or.inr ⟨correlation, origin, live, present, rfl⟩

/-- A result that is reported leaves all but the token alone. -/
theorem sent_completeRelay [Transport τ] (token : RelayToken)
    (message : Correlation → Message) :
    Sent (turn.withLive (turn.source.relays.live.erase token))
      (turn.completeRelay token message) := by
  obtain silent | ⟨correlation, origin, _, _, reported⟩ := turn.completeRelay_cases token message
  · rw [silent]
    exact Sent.refl _
  · rw [reported]
    exact sent_post _ _ _

/-- The token that the next request gets. -/
def nextToken : RelayToken := ⟨turn.source.relays.last.number + 1⟩

variable {turn} in
theorem nextToken_number (room : turn.source.relays.last.number.toNat + 1 < UInt64.size) :
    turn.nextToken.number.toNat = turn.source.relays.last.number.toNat + 1 := by
  rw [nextToken, UInt64.toNat_add]
  exact Nat.mod_eq_of_lt room

/-- A request has been given its token and has been sent to the sink. -/
def passOn [Transport τ] (session : SessionId) (inquiry : Inquiry) :
    Except SharingError Unit × Turn τ :=
  let relays : Relays :=
    { last := turn.nextToken
      live := turn.source.relays.live.insert turn.nextToken inquiry.correlation }
  let started : Turn τ := { turn with source := { turn.source with relays } }
  started.send session (.relayed turn.nextToken turn.source.device inquiry.request)

theorem forward_eq [Transport τ] (inquiry : Inquiry) :
    turn.forward inquiry.origin inquiry.source inquiry.sink inquiry.request =
      match turn.connect inquiry.sink .sink with
      | (.error error, reached) =>
          reached.post inquiry.origin
            (.relayResult inquiry.source inquiry.sink (inquiry.request.failure error.statusCode))
      | (.ok session, reached) =>
          match reached.passOn session inquiry with
          | (.ok (), passed) => passed
          | (.error error, passed) =>
              passed.completeRelay reached.nextToken fun correlation =>
                correlation.report (correlation.request.failure error.statusCode) := by
  rw [forward]
  rcases turn.connect inquiry.sink .sink with ⟨error | session, reached⟩
  · rfl
  · change
      (match reached.passOn session inquiry with
        | (.ok (), passed) => passed
        | (.error error, passed) =>
            passed.completeRelay reached.nextToken fun correlation =>
              correlation.failure error.statusCode) = _
    dsimp only
    rcases reached.passOn session inquiry with ⟨error | _, passed⟩
    · rfl
    · rfl

/-- A request is refused where its sink is not reached.  Otherwise it is passed on, and may
have to be settled at once. -/
theorem forward_cases [Transport τ] (inquiry : Inquiry) :
    (∃ result,
        turn.forward inquiry.origin inquiry.source inquiry.sink inquiry.request =
          (turn.connect inquiry.sink .sink).2.post inquiry.origin
            (.relayResult inquiry.source inquiry.sink result)) ∨
      ∃ session, (turn.connect inquiry.sink .sink).1 = .ok session ∧
        let reached := (turn.connect inquiry.sink .sink).2
        let passed := (reached.passOn session inquiry).2
        (turn.forward inquiry.origin inquiry.source inquiry.sink inquiry.request = passed ∨
          ∃ result : Correlation → RelayResult,
            turn.forward inquiry.origin inquiry.source inquiry.sink inquiry.request =
              passed.completeRelay reached.nextToken fun correlation =>
                correlation.report (result correlation)) := by
  rw [forward_eq]
  rcases turn.connect inquiry.sink .sink with ⟨error | session, reached⟩
  · exact Or.inl ⟨_, rfl⟩
  · refine Or.inr ⟨session, rfl, ?_⟩
    dsimp only
    rcases reached.passOn session inquiry with ⟨error | _, passed⟩
    · exact Or.inr ⟨fun correlation => correlation.request.failure error.statusCode, rfl⟩
    · exact Or.inl rfl

end Relaying

/-! ## Accounts of turns -/

/-- The account of a turn.  Some requests can be in hand: their tokens are no
longer live, and their results have still to be sent. -/
def account (asked : List Inquiry) (answers : List Answer) (gone : List SessionId)
    (inHand : List (RelayToken × Correlation)) (turn : Turn (Recorded τ)) : Account where
  asked
  verdicts := turn.verdicts
  issued := turn.issued
  answers
  gone
  outstanding := inHand ++ turn.source.relays.live.toList

section Accounts

variable {asked : List Inquiry} {answers : List Answer} {gone : List SessionId}
  {inHand : List (RelayToken × Correlation)} {before after turn : Turn (Recorded τ)}

theorem Quiet.account_eq (quiet : Quiet before after) :
    after.account asked answers gone inHand = before.account asked answers gone inHand := by
  rw [account, account, quiet.verdicts_eq, quiet.issued_eq, quiet.relays_eq]

/-- A result that the transport is given settles the request that is first in
hand. -/
theorem balanced_post [Transport τ] {token : RelayToken} {correlation : Correlation}
    {origin : SessionId}
    (balanced : (turn.account asked answers gone ((token, correlation) :: inHand)).Balanced)
    (present : correlation.origin = some origin) {result : RelayResult}
    (justified :
      ∀ inquiry : Inquiry, inquiry.request = correlation.request →
        inquiry.sink = correlation.target →
        Settlement.IsFailure ⟨inquiry, some token, result⟩ ∨
          Settlement.IsAnswer turn.issued answers ⟨inquiry, some token, result⟩) :
    ((turn.post origin (correlation.report result)).account asked answers gone
      inHand).Balanced := by
  let inquiry : Inquiry :=
    ⟨origin, correlation.source, correlation.target, correlation.request⟩
  have named : correlation.inquiry? = some inquiry := by
    rw [Correlation.inquiry?, present]
    rfl
  have settled := balanced.settle rfl named (justified inquiry rfl rfl)
  have verdicts := turn.verdicts_send origin (correlation.report result)
  have issued := turn.issued_send origin (correlation.report result)
  rw [account, post, verdicts, issued, relays_send]
  simpa [Correlation.report, Message.verdict?, Message.issue?, account, inquiry] using settled

theorem balanced_reportLoss [Transport τ] {token : RelayToken} {correlation : Correlation}
    (balanced : (turn.account asked answers gone ((token, correlation) :: inHand)).Balanced) :
    ((turn.reportLoss correlation).account asked answers gone inHand).Balanced := by
  rw [reportLoss]
  split
  · next detached => exact balanced.discard rfl detached
  · next origin present =>
    refine balanced_post balanced present ?_
    intro inquiry request _
    have fails : Status.disconnected ≠ Status.ok := by decide
    left
    rw [← request]
    exact Settlement.isFailure_failure inquiry (some token) fails

theorem balanced_foldl_reportLoss [Transport τ]
    (balanced : (turn.account asked answers gone inHand).Balanced) :
    (((inHand.map Prod.snd).foldl reportLoss turn).account asked answers gone []).Balanced := by
  induction inHand generalizing turn with
  | nil =>
      exact balanced
  | cons first rest inductionHypothesis =>
      exact inductionHypothesis (balanced_reportLoss balanced)

end Accounts

/-! ## Using tokens up -/

section Consuming

variable [Transport τ] {asked : List Inquiry} {answers : List Answer} {gone : List SessionId}
  (turn : Turn (Recorded τ))

theorem fades_reportLoss (correlation : Correlation) :
    Fades turn (turn.reportLoss correlation) := by
  rw [reportLoss]
  split
  · exact (Quiet.refl turn).fades
  · next origin _ =>
    refine ⟨rfl, ?_, fun token live => live⟩
    rw [post, issued_send]
    exact List.append_nil _

theorem fades_foldl_reportLoss (correlations : List Correlation) :
    Fades turn (correlations.foldl reportLoss turn) := by
  induction correlations generalizing turn with
  | nil =>
      exact (Quiet.refl turn).fades
  | cons first rest inductionHypothesis =>
      exact (turn.fades_reportLoss first).trans (inductionHypothesis (turn.reportLoss first))

theorem fades_completeRelay (token : RelayToken) (result : Correlation → RelayResult) :
    Fades turn
      (turn.completeRelay token fun correlation => correlation.report (result correlation)) := by
  have usedUp : Fades turn (turn.withLive (turn.source.relays.live.erase token)) := by
    refine ⟨rfl, rfl, ?_⟩
    intro tested live
    exact ((Table.mem_erase_iff _ _ _).1 live).2
  obtain silent | ⟨correlation, origin, _, _, reported⟩ :=
    turn.completeRelay_cases token fun correlation => correlation.report (result correlation)
  · rw [silent]
    exact usedUp
  · rw [reported]
    refine usedUp.trans ⟨rfl, ?_, fun tested live => live⟩
    rw [post, issued_send]
    exact List.append_nil _

theorem balanced_completeRelay {token : RelayToken} {correlation : Correlation}
    (balanced : (turn.account asked answers gone []).Balanced)
    (found : turn.source.relays.live[token]? = some correlation)
    (result : Correlation → RelayResult)
    (justified :
      ∀ inquiry : Inquiry, inquiry.request = correlation.request →
        inquiry.sink = correlation.target →
        Settlement.IsFailure ⟨inquiry, some token, result correlation⟩ ∨
          Settlement.IsAnswer turn.issued answers ⟨inquiry, some token, result correlation⟩) :
    ((turn.completeRelay token fun correlation =>
      correlation.report (result correlation)).account asked answers gone []).Balanced := by
  have usedUp := balanced.perm (Table.toList_erase_perm found)
  rw [completeRelay_eq, found]
  dsimp only
  cases present : correlation.origin with
  | none => exact usedUp.discard rfl present
  | some origin => exact balanced_post usedUp present justified

/-! ## The end of a sink -/

theorem dropSink_eq (sink : DeviceId) :
    ∃ forgotten : Turn (Recorded τ),
      Quiet
        (turn.withLive
          (turn.source.relays.live.filter fun _ correlation => correlation.target ≠ sink))
        forgotten ∧
      turn.dropSink sink =
        (((turn.source.relays.live.toList.filter fun entry =>
          entry.2.target = sink).map Prod.snd).foldl reportLoss forgotten) := by
  let kept :=
    turn.withLive
      (turn.source.relays.live.filter fun _ correlation => correlation.target ≠ sink)
  let unknown : Turn (Recorded τ) :=
    { kept with
      source :=
        { kept.source with
          beliefs := turn.source.beliefs.erase sink
          latencies := turn.source.latencies.erase sink } }
  exact ⟨unknown.failWhere (Call.isTo sink) .disconnected, ⟨rfl, rfl, rfl⟩, rfl⟩

theorem fades_dropSink (sink : DeviceId) : Fades turn (turn.dropSink sink) := by
  obtain ⟨forgotten, quiet, equal⟩ := turn.dropSink_eq sink
  have abandoned :
      Fades turn
        (turn.withLive
          (turn.source.relays.live.filter fun _ correlation => correlation.target ≠ sink)) := by
    refine ⟨rfl, rfl, ?_⟩
    intro token live
    exact Std.ExtTreeMap.mem_of_mem_filter live
  rw [equal]
  exact (abandoned.trans quiet.fades).trans (forgotten.fades_foldl_reportLoss _)

theorem balanced_dropSink (sink : DeviceId)
    (balanced : (turn.account asked answers gone []).Balanced) :
    ((turn.dropSink sink).account asked answers gone []).Balanced := by
  obtain ⟨forgotten, quiet, equal⟩ := turn.dropSink_eq sink
  have split :=
    Table.toList_filter_perm turn.source.relays.live fun correlation => correlation.target ≠ sink
  have abandoned := balanced.perm split
  rw [equal]
  apply balanced_foldl_reportLoss
  rw [quiet.account_eq]
  simpa [account, withLive, verdicts, issued] using abandoned

theorem quiet_disconnect (sink : DeviceId) :
    Quiet turn (turn.withChannels (turn.channels.disconnect sink .sink)) := by
  have silent :
      ∃ deed : List Deed,
        (turn.channels.disconnect sink .sink).line.deeds = turn.line.deeds ++ deed ∧
          deed.filterMap Deed.verdict? = [] ∧ deed.filterMap Deed.issue? = [] := by
    rw [Channels.disconnect]
    split
    · exact ⟨[], (List.append_nil _).symm, rfl, rfl⟩
    · next session _ => exact ⟨[.hungUp session], rfl, rfl, rfl⟩
  obtain ⟨deed, deeds, noVerdict, noIssue⟩ := silent
  have written :
      (turn.withChannels (turn.channels.disconnect sink .sink)).line.deeds =
        turn.line.deeds ++ deed :=
    deeds
  refine ⟨rfl, ?_, ?_⟩
  · rw [verdicts, written, List.filterMap_append, noVerdict]
    exact List.append_nil _
  · rw [issued, written, List.filterMap_append, noIssue]
    exact List.append_nil _

theorem fades_retire (sink : DeviceId) : Fades turn (turn.retire sink) :=
  (turn.fades_dropSink sink).trans ((turn.dropSink sink).quiet_disconnect sink).fades

theorem balanced_retire (sink : DeviceId)
    (balanced : (turn.account asked answers gone []).Balanced) :
    ((turn.retire sink).account asked answers gone []).Balanced := by
  have dropped := turn.balanced_dropSink sink balanced
  have quiet := (turn.dropSink sink).quiet_disconnect sink
  rw [retire, quiet.account_eq]
  exact dropped

theorem fades_retireIfUnprepared (sink : DeviceId) (reply : Reply) :
    Fades turn (turn.retireIfUnprepared sink reply) := by
  rw [retireIfUnprepared.eq_def]
  split
  · split
    · exact turn.fades_retire sink
    · exact (Quiet.refl turn).fades
  · exact (Quiet.refl turn).fades

theorem balanced_retireIfUnprepared (sink : DeviceId) (reply : Reply)
    (balanced : (turn.account asked answers gone []).Balanced) :
    ((turn.retireIfUnprepared sink reply).account asked answers gone []).Balanced := by
  rw [retireIfUnprepared.eq_def]
  split
  · split
    · exact turn.balanced_retire sink balanced
    · exact balanced
  · exact balanced

/-! ## Answers of sinks -/

theorem fades_onReply (sink : DeviceId) (reply : Reply) :
    Fades turn (turn.onReply sink reply) :=
  (turn.quiet_answered sink reply).fades.trans (fades_retireIfUnprepared _ sink reply)

theorem balanced_onReply (sink : DeviceId) (reply : Reply)
    (balanced : (turn.account asked answers gone []).Balanced) :
    ((turn.onReply sink reply).account asked answers gone []).Balanced := by
  apply balanced_retireIfUnprepared
  rw [(turn.quiet_answered sink reply).account_eq]
  exact balanced

theorem fades_onRelayedReply (sink : DeviceId) (token : RelayToken) (reply : Reply) :
    Fades turn (turn.onRelayedReply sink token reply) := by
  rw [onRelayedReply]
  split
  · exact (Quiet.refl turn).fades
  · split
    · have absorbed := (turn.quiet_absorb sink reply).fades
      have completed := fades_completeRelay (turn.absorb sink reply) token fun _ => reply.toResult
      exact (absorbed.trans completed).trans (fades_retireIfUnprepared _ sink reply)
    · exact (Quiet.refl turn).fades

theorem balanced_onRelayedReply (sink : DeviceId) (token : RelayToken) (reply : Reply)
    (balanced : (turn.account asked answers gone []).Balanced)
    (answered : ⟨sink, token, reply⟩ ∈ answers) :
    ((turn.onRelayedReply sink token reply).account asked answers gone []).Balanced := by
  rw [onRelayedReply]
  split
  · exact balanced
  · next correlation found =>
    split
    · next target =>
      have quiet := turn.quiet_absorb sink reply
      have listed : (token, correlation) ∈ ([] ++ turn.source.relays.live.toList) :=
        Table.mem_toList.2 found
      have issued := balanced.issued_of_outstanding listed
      rw [← quiet.account_eq] at balanced
      have kept : (turn.absorb sink reply).source.relays.live[token]? = some correlation := by
        rw [quiet.relays_eq]
        exact found
      apply balanced_retireIfUnprepared
      refine balanced_completeRelay _ balanced kept (fun _ => reply.toResult) ?_
      · intro inquiry request asked
        refine Or.inr ⟨token, reply, rfl, ?_, ?_, rfl⟩
        · rw [request, quiet.issued_eq]
          exact issued
        · rw [asked, target]
          exact answered
    · exact balanced

/-! ## Channels that are gone -/

theorem fades_closed (session : SessionId) : Fades turn (turn.closed session) := by
  rw [closed]
  dsimp only
  split
  · exact ⟨rfl, rfl, fun token live => live⟩
  · next channel _ =>
    split
    · have known :
          Quiet turn
            { turn with
              source :=
                { turn.source with registry := (turn.source.registry.closed session).2 } } :=
        ⟨rfl, rfl, rfl⟩
      exact known.fades.trans (fades_dropSink _ channel.peer)
    · exact ⟨rfl, rfl, fun token live => live⟩
    · refine ⟨rfl, rfl, ?_⟩
      intro token live
      exact Std.ExtTreeMap.mem_map.1 live

theorem balanced_closed (session : SessionId)
    (balanced : (turn.account asked answers gone []).Balanced) :
    ((turn.closed session).account asked answers (gone ++ [session]) []).Balanced := by
  have later := balanced.mono [] [session]
  rw [List.append_nil] at later
  rw [closed]
  dsimp only
  split
  · exact later
  · split
    · exact balanced_dropSink _ _ later
    · exact later
    · have detached := balanced.detach session
      simpa [account, Relays.abandonOrigin, Correlation.detach, verdicts, issued] using detached

/-! ## Requests to pass on -/

theorem issued_passOn (session : SessionId) (inquiry : Inquiry) :
    (turn.passOn session inquiry).2.issued = turn.issued ++ [(turn.nextToken, inquiry.request)] :=
  issued_send _ session _

theorem relays_passOn (session : SessionId) (inquiry : Inquiry) :
    (turn.passOn session inquiry).2.source.relays =
      { last := turn.nextToken
        live := turn.source.relays.live.insert turn.nextToken inquiry.correlation } :=
  rfl

theorem balanced_refuse (inquiry : Inquiry) {status : Int32} (fails : status ≠ Status.ok)
    (balanced : (turn.account asked answers gone []).Balanced) :
    ((turn.post inquiry.origin
      (.relayResult inquiry.source inquiry.sink (inquiry.request.failure status))).account
        (asked ++ [inquiry]) answers gone []).Balanced := by
  have refused := balanced.refuse inquiry fails
  rw [account, post, verdicts_send, issued_send, relays_send]
  simpa [Message.verdict?, Message.issue?, account] using refused

theorem balanced_passOn (session : SessionId) (inquiry : Inquiry)
    (fresh : turn.nextToken ∉ turn.tokens)
    (balanced : (turn.account asked answers gone []).Balanced) :
    ((turn.passOn session inquiry).2.account (asked ++ [inquiry]) answers gone []).Balanced := by
  have idle : turn.nextToken ∉ turn.source.relays.live := by
    intro live
    obtain ⟨correlation, found⟩ := (Table.mem_iff_exists _ _).1 live
    have issued := balanced.issued_of_outstanding (Table.mem_toList.2 found)
    exact fresh (List.mem_map.2 ⟨_, issued, rfl⟩)
  have passed := balanced.pass inquiry fresh
  have reordered := passed.perm (Table.toList_insert_perm idle).symm
  have verdicts :
      (turn.passOn session inquiry).2.verdicts = turn.verdicts :=
    (verdicts_send _ session _).trans (List.append_nil _)
  rw [account, verdicts, issued_passOn, relays_passOn]
  exact reordered

theorem balanced_forward (inquiry : Inquiry) (fresh : turn.nextToken ∉ turn.tokens)
    (balanced : (turn.account asked answers gone []).Balanced) :
    ((turn.forward inquiry.origin inquiry.source inquiry.sink inquiry.request).account
      (asked ++ [inquiry]) answers gone []).Balanced := by
  have quiet := turn.quiet_connect inquiry.sink .sink
  rw [forward_eq]
  split
  · next error reached failed =>
    have status := turn.channels.statusCode_of_connect (congrArg Prod.fst failed)
    have fails : error.statusCode ≠ Status.ok := by
      rw [status]
      decide
    rw [failed] at quiet
    apply balanced_refuse reached inquiry fails
    rw [quiet.account_eq]
    exact balanced
  · next session reached connected =>
    rw [connected] at quiet
    have unused : reached.nextToken ∉ reached.tokens := by
      rw [nextToken, tokens, quiet.relays_eq, quiet.issued_eq]
      exact fresh
    have booksOpen : (reached.account asked answers gone []).Balanced := by
      rw [quiet.account_eq]
      exact balanced
    have passed := reached.balanced_passOn session inquiry unused booksOpen
    have relays := reached.relays_passOn session inquiry
    split
    · next sent =>
      rw [sent] at passed
      exact passed
    · next error after sent =>
      have status := Channels.statusCode_of_send _ (congrArg Prod.fst sent)
      have fails : error.statusCode ≠ Status.ok := by
        rw [status]
        decide
      rw [sent] at passed relays
      have found : after.source.relays.live[reached.nextToken]? = some inquiry.correlation := by
        rw [relays, Table.getElem?_insert_eq, if_pos rfl]
      refine after.balanced_completeRelay passed found
        (fun correlation => correlation.request.failure error.statusCode) ?_
      intro tested request _
      left
      rw [← request]
      exact Settlement.isFailure_failure tested (some reached.nextToken) fails

end Consuming

/-! ## Tokens -/

/-- A turn gives out one token, and no other token becomes live by it. -/
structure Mints [Transport τ] (before after : Turn (Recorded τ)) : Prop where
  last_eq : after.source.relays.last = before.nextToken
  tokens_eq : after.tokens = before.tokens ++ [before.nextToken]
  live_subset :
    ∀ token ∈ after.source.relays.live,
      token = before.nextToken ∨ token ∈ before.source.relays.live

section Minting

variable [Transport τ] (turn : Turn (Recorded τ))

theorem mints_passOn (session : SessionId) (inquiry : Inquiry) :
    Mints turn (turn.passOn session inquiry).2 := by
  refine ⟨rfl, ?_, ?_⟩
  · rw [tokens, issued_passOn, List.map_append]
    rfl
  · intro token live
    rw [relays_passOn, Std.ExtTreeMap.mem_insert] at live
    rcases live with new | old
    · exact Or.inl (Std.compare_eq_iff_eq.1 new).symm
    · exact Or.inr old

theorem mints_of_fades {before middle after : Turn (Recorded τ)}
    (mints : Mints before middle) (fades : Fades middle after) : Mints before after := by
  refine ⟨fades.last_eq.trans mints.last_eq, ?_, ?_⟩
  · rw [tokens, fades.issued_eq]
    exact mints.tokens_eq
  · intro token live
    exact mints.live_subset token (fades.live_subset token live)

theorem mints_of_quiet {before middle after : Turn (Recorded τ)}
    (quiet : Quiet before middle) (mints : Mints middle after) : Mints before after := by
  obtain ⟨last, tokens_eq, subset⟩ := mints
  rw [nextToken, quiet.relays_eq] at last tokens_eq subset
  refine ⟨last, ?_, subset⟩
  rw [tokens_eq, tokens, quiet.issued_eq]
  rfl

theorem forward_fades_or_mints (inquiry : Inquiry) :
    Fades turn (turn.forward inquiry.origin inquiry.source inquiry.sink inquiry.request) ∨
      Mints turn (turn.forward inquiry.origin inquiry.source inquiry.sink inquiry.request) := by
  have quiet := turn.quiet_connect inquiry.sink .sink
  have mints (session : SessionId) := mints_of_quiet quiet (mints_passOn _ session inquiry)
  obtain ⟨result, refused⟩ | ⟨session, _, passed | ⟨result, settled⟩⟩ := turn.forward_cases inquiry
  · left
    rw [refused]
    refine quiet.fades.trans ⟨rfl, ?_, fun token live => live⟩
    rw [post, issued_send]
    exact List.append_nil _
  · right
    rw [passed]
    exact mints session
  · right
    rw [settled]
    exact mints_of_fades (mints session) (fades_completeRelay _ _ _)

theorem onMessage_fades_or_mints (now : UInt64) (session : SessionId) (peer : DeviceId)
    (message : Message) :
    Fades turn (turn.onMessage now session peer message) ∨
      Mints turn (turn.onMessage now session peer message) := by
  cases message with
  | reply _ reply => exact Or.inl (turn.fades_onReply peer reply)
  | relayedReply token _ reply => exact Or.inl (turn.fades_onRelayedReply peer token reply)
  | relayRequest _ source sink request =>
      exact turn.forward_fades_or_mints ⟨session, source, sink, request⟩
  | keyState _ key => exact Or.inl (turn.quiet_releaseKeys now peer [key]).fades
  | keyStates _ keys => exact Or.inl (turn.quiet_releaseKeys now peer keys).fades
  | inputEvents _ events => exact Or.inl (turn.quiet_inject peer events).fades
  | latencyEcho _ sentAtUs => exact Or.inl (turn.quiet_onEcho now peer sentAtUs).fades
  | relayResult source sink result => exact Or.inl (turn.quiet_onResult source sink result).fades
  | request _ _ => exact Or.inl (Quiet.refl turn).fades
  | latencyProbe _ _ => exact Or.inl (Quiet.refl turn).fades
  | relayed _ _ _ => exact Or.inl (Quiet.refl turn).fades

/-- Whatever happens to a source, it gives out at most one token. -/
theorem undergo_fades_or_mints (occurrence : Occurrence) :
    Fades turn (turn.undergo occurrence) ∨ Mints turn (turn.undergo occurrence) := by
  cases occurrence with
  | call ticket call => exact Or.inl (turn.quiet_call ticket call).fades
  | opened session peer => exact Or.inl (turn.quiet_opened session peer).fades
  | closed session => exact Or.inl (turn.fades_closed session)
  | tick now => exact Or.inl (turn.quiet_tick now).fades
  | message now session message =>
      change Fades turn (turn.handle now session message) ∨
        Mints turn (turn.handle now session message)
      rw [handle]
      split
      · exact Or.inl (Quiet.refl turn).fades
      · next peer _ => exact turn.onMessage_fades_or_mints now session peer message

end Minting

/-! ## Any occurrence -/

section Occurrences

variable [Transport τ] {asked : List Inquiry} {answers : List Answer} {gone : List SessionId}
  (turn : Turn (Recorded τ))

/-- Whatever message is taken, the account stays balanced. -/
theorem balanced_onMessage (now : UInt64) (session : SessionId) (peer : DeviceId)
    (message : Message) (fresh : turn.nextToken ∉ turn.tokens)
    (known : turn.source.registry.peer? session = some peer)
    (balanced : (turn.account asked answers gone []).Balanced) :
    ((turn.onMessage now session peer message).account
      (asked ++
        (Occurrence.inquiry? turn.source.registry (.message now session message)).toList)
      (answers ++
        (Occurrence.answer? turn.source.registry (.message now session message)).toList)
      gone []).Balanced := by
  have unrelated {after : Turn (Recorded τ)} (quiet : Quiet turn after) :
      (after.account (asked ++ []) (answers ++ []) gone []).Balanced := by
    rw [quiet.account_eq, List.append_nil, List.append_nil]
    exact balanced
  cases message with
  | reply _ reply =>
      have answered := turn.balanced_onReply peer reply balanced
      simpa [Occurrence.inquiry?, Occurrence.answer?, onMessage] using answered
  | relayedReply token _ reply =>
      let answer : Answer := ⟨peer, token, reply⟩
      have heard : (turn.account asked (answers ++ [answer]) gone []).Balanced := by
        simpa [account] using balanced.mono [answer] []
      have listed : answer ∈ answers ++ [answer] :=
        List.mem_append_right answers (List.mem_singleton.2 rfl)
      have answered := turn.balanced_onRelayedReply peer token reply heard listed
      simpa [Occurrence.inquiry?, Occurrence.answer?, onMessage, known, answer] using answered
  | relayRequest _ source sink request =>
      have member : session ∈ turn.source.registry.bySession := by
        obtain ⟨channel, found, _⟩ := Option.map_eq_some_iff.1 known
        exact Table.mem_of_getElem? found
      have forwarded := turn.balanced_forward ⟨session, source, sink, request⟩ fresh balanced
      simpa [Occurrence.inquiry?, Occurrence.answer?, onMessage, member] using forwarded
  | keyState _ key => exact unrelated (turn.quiet_releaseKeys now peer [key])
  | keyStates _ keys => exact unrelated (turn.quiet_releaseKeys now peer keys)
  | inputEvents _ events => exact unrelated (turn.quiet_inject peer events)
  | latencyEcho _ sentAtUs => exact unrelated (turn.quiet_onEcho now peer sentAtUs)
  | relayResult source sink result => exact unrelated (turn.quiet_onResult source sink result)
  | request _ _ => exact unrelated (Quiet.refl turn)
  | latencyProbe _ _ => exact unrelated (Quiet.refl turn)
  | relayed _ _ _ => exact unrelated (Quiet.refl turn)

theorem balanced_undergo (occurrence : Occurrence) (fresh : turn.nextToken ∉ turn.tokens)
    (balanced : (turn.account asked answers gone []).Balanced) :
    ((turn.undergo occurrence).account
      (asked ++ (occurrence.inquiry? turn.source.registry).toList)
      (answers ++ (occurrence.answer? turn.source.registry).toList)
      (gone ++ occurrence.gone?.toList) []).Balanced := by
  have unrelated {after : Turn (Recorded τ)} (quiet : Quiet turn after) :
      (after.account (asked ++ []) (answers ++ []) (gone ++ []) []).Balanced := by
    rw [quiet.account_eq, List.append_nil, List.append_nil, List.append_nil]
    exact balanced
  cases occurrence with
  | call ticket call => exact unrelated (turn.quiet_call ticket call)
  | opened session peer => exact unrelated (turn.quiet_opened session peer)
  | tick now => exact unrelated (turn.quiet_tick now)
  | closed session =>
      have closed := turn.balanced_closed session balanced
      simpa [Occurrence.inquiry?, Occurrence.answer?, Occurrence.gone?, undergo] using closed
  | message now session message =>
      have result :
          ((turn.handle now session message).account
            (asked ++
              (Occurrence.inquiry? turn.source.registry (.message now session message)).toList)
            (answers ++
              (Occurrence.answer? turn.source.registry (.message now session message)).toList)
            gone []).Balanced := by
        rw [handle]
        split
        · next unknown =>
          have absent : session ∉ turn.source.registry.bySession :=
            Table.not_mem_of_getElem? (Option.map_eq_none_iff.1 unknown)
          have noInquiry :
              Occurrence.inquiry? turn.source.registry (.message now session message) = none := by
            cases message <;> simp [Occurrence.inquiry?, absent]
          have noAnswer :
              Occurrence.answer? turn.source.registry (.message now session message) = none := by
            cases message <;> simp [Occurrence.answer?, unknown]
          rw [noInquiry, noAnswer]
          simpa using balanced
        · next peer known =>
          exact turn.balanced_onMessage now session peer message fresh known balanced
      simpa [Occurrence.gone?, undergo] using result

end Occurrences

end Turn

end InputSharing.Source
