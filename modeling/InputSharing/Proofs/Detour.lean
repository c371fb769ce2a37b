import InputSharing.Proofs.Sink.Keys
import InputSharing.Proofs.Sink.Ownership
import InputSharing.Proofs.Source.Closing
import InputSharing.Proofs.Source.Conservation

/-!
# Direct and relayed requests agree

A request can come to a sink directly or through a relaying node, and an answer can
come to a source for a call of its own or for a request that it has passed on.  At
both ends the two ways lead to the same state.

A sink makes of a request what it would make of it the other way, and only its
answer, which it sends last, takes another form.  A source takes in from an answer
to a passed-on request what it would take in from an answer to a call of its own.  If
the sink leaves, its channel is closed and the calls to it fail either way, but for the
call that the answer is to, which ends with the answer only if the answer is to it.
-/

namespace InputSharing

/-! ## At the sink -/

namespace Sink.Turn

section Serving

variable {τ κ : Type} [Transport τ] [Collector κ]

/-- Which way a request has come is asked only when its answer is sent. -/
theorem serve_cases (turn : Turn τ κ) (session : SessionId) (request : Request) :
    (∀ via, turn.serve session via request = turn) ∨
      ∃ (decided : Turn τ κ) (reply : Reply), reply.request = request ∧
        ∀ via, turn.serve session via request = decided.answer session via reply := by
  cases request with
  | prepare =>
    simp only [serve, onPrepare]
    cases turn.sink.registry.peer? session with
    | none => exact Or.inl fun _ => rfl
    | some peer => exact Or.inr ⟨_, .prepared _ _, rfl, fun _ => rfl⟩
  | unprepare =>
    simp only [serve, onUnprepare]
    cases turn.sink.switches[session]? with
    | none => exact Or.inr ⟨_, .unprepared _, rfl, fun _ => rfl⟩
    | some switch => exact Or.inr ⟨_, .unprepared _, rfl, fun _ => rfl⟩
  | startByType types =>
    obtain ⟨candidates, status, granted, starts⟩ := turn.onStartByType_eq session types
    exact Or.inr ⟨_, .startedByType status types granted, rfl, starts⟩
  | stopByType types =>
    simp only [serve, onStopByType]
    cases turn.sink.switches[session]? with
    | none => exact Or.inr ⟨_, .stoppedByType _ _ _, rfl, fun _ => rfl⟩
    | some switch => exact Or.inr ⟨_, .stoppedByType _ _ _, rfl, fun _ => rfl⟩
  | startByHandles handles =>
    obtain ⟨candidates, status, granted, starts⟩ := turn.onStartByHandles_eq session handles
    exact Or.inr ⟨_, .startedByHandles status handles granted, rfl, starts⟩
  | stopByHandles handles =>
    simp only [serve, onStopByHandles]
    cases turn.sink.switches[session]? with
    | none => exact Or.inr ⟨_, .stoppedByHandles _ _ _, rfl, fun _ => rfl⟩
    | some _ => exact Or.inr ⟨_, .stoppedByHandles _ _ _, rfl, fun _ => rfl⟩

end Serving

variable {τ κ : Type}

/-- Two turns come from one by the same request, directly and with a token.  They differ
only in the form of the answer, which is the last frame that is sent; or neither sends
anything. -/
structure Mirrors (session : SessionId) (token : RelayToken) (request : Request)
    (before direct relayed : Turn (Recorded τ) κ) : Prop where
  sink : relayed.sink = direct.sink
  collector : relayed.collector = direct.collector
  notices : relayed.notices = direct.notices
  deeds :
    (direct.line.deeds = before.line.deeds ∧ relayed.line.deeds = before.line.deeds) ∨
      ∃ (earlier : List Deed) (sequence : UInt64) (device : DeviceId) (reply : Reply)
        (answer relayedAnswer : Except TransportError Unit),
        reply.request = request ∧
        direct.line.deeds =
          earlier ++ [.transmitted session (.composed sequence (.reply device reply)) answer] ∧
        relayed.line.deeds =
          earlier ++
            [.transmitted session (.composed sequence (.relayedReply token device reply))
              relayedAnswer]

variable [Transport τ]

/-- What is sent does not matter for what a sink keeps of it. -/
theorem post_eq (turn : Turn (Recorded τ) κ) (session : SessionId) (message : Message) :
    turn.post session message =
      { turn with
        sink :=
          { turn.sink with
            registry :=
              { turn.sink.registry with counter := turn.sink.registry.counter.next.2 } }
        line :=
          (Transport.transmit turn.line session
            (.composed turn.sink.registry.counter.next.1 message)).2 } := by
  rw [post, Channels.send]
  dsimp only
  split
  · next refused => rw [refused]
  · next accepted => rw [accepted]

variable [Collector κ]

theorem mirrors_serve (turn : Turn (Recorded τ) κ) (session : SessionId) (token : RelayToken)
    (request : Request) :
    Mirrors session token request turn (turn.serve session .direct request)
      (turn.serve session (.relayed token) request) := by
  obtain unserved | ⟨decided, reply, answers, serves⟩ := turn.serve_cases session request
  · rw [unserved, unserved]
    exact ⟨rfl, rfl, rfl, Or.inl ⟨rfl, rfl⟩⟩
  · rw [serves, serves, answer, answer, post_eq, post_eq]
    refine ⟨rfl, rfl, rfl, Or.inr ?_⟩
    exact ⟨decided.line.deeds, decided.sink.registry.counter.next.1, decided.sink.device, reply,
      _, _, answers, rfl, rfl⟩

end Sink.Turn

/-! ## At the source -/

namespace Deed

/-- The session of a channel that was closed from this side. -/
def hungUp? : Deed → Option SessionId
  | .hungUp session => some session
  | _ => none

end Deed

namespace Source.Turn

variable {τ : Type}

/-- Two turns have the same channels and know the same of sinks. -/
structure Alike (first second : Turn τ) : Prop where
  beliefs : second.source.beliefs = first.source.beliefs
  latencies : second.source.latencies = first.source.latencies
  byPeer : second.source.registry.byPeer = first.source.registry.byPeer
  bySession : second.source.registry.bySession = first.source.registry.bySession

namespace Alike

variable {first second third : Turn τ}

theorem symm (alike : Alike first second) : Alike second first :=
  ⟨alike.beliefs.symm, alike.latencies.symm, alike.byPeer.symm, alike.bySession.symm⟩

theorem trans (alike : Alike first second) (also : Alike second third) : Alike first third :=
  ⟨also.beliefs.trans alike.beliefs, also.latencies.trans alike.latencies,
    also.byPeer.trans alike.byPeer, also.bySession.trans alike.bySession⟩

theorem of_sent (sent : Sent first second) : Alike first second := by
  obtain ⟨counter, line, rfl⟩ := sent
  exact ⟨rfl, rfl, rfl, rfl⟩

end Alike

/-- The channels that a source has closed, the first one first. -/
def hungUp (turn : Turn (Recorded τ)) : List SessionId :=
  turn.line.deeds.filterMap Deed.hungUp?

section Retiring

variable [Transport τ] (turn : Turn (Recorded τ))

theorem hungUp_post (session : SessionId) (message : Message) :
    (turn.post session message).hungUp = turn.hungUp := by
  obtain ⟨sequence, answer, deeds⟩ := turn.deeds_send session message
  rw [hungUp, post, deeds, List.filterMap_append]
  exact List.append_nil _

theorem hungUp_reportLoss (correlation : Correlation) :
    (turn.reportLoss correlation).hungUp = turn.hungUp := by
  rw [reportLoss]
  split
  · rfl
  · exact turn.hungUp_post _ _

theorem hungUp_dropSink (sink : DeviceId) : (turn.dropSink sink).hungUp = turn.hungUp := by
  have all (correlations : List Correlation) (turn : Turn (Recorded τ)) :
      (correlations.foldl reportLoss turn).hungUp = turn.hungUp := by
    induction correlations generalizing turn with
    | nil => rfl
    | cons first rest inductionHypothesis =>
      exact (inductionHypothesis (turn.reportLoss first)).trans (turn.hungUp_reportLoss first)
  exact all _ ((turn.forget sink).failWhere (Call.isTo sink) .disconnected)

/-- The retirement of a sink: it is forgotten, the calls to it fail, and the channel to
it is closed, if there is one. -/
structure Retires (sink : DeviceId) (before after : Turn (Recorded τ)) : Prop where
  beliefs : after.source.beliefs = before.source.beliefs.erase sink
  latencies : after.source.latencies = before.source.latencies.erase sink
  byPeer : after.source.registry.byPeer = before.source.registry.byPeer.erase ⟨sink, .sink⟩
  bySession : after.source.registry.bySession =
    match before.source.registry.channel? sink .sink with
    | none => before.source.registry.bySession
    | some session => before.source.registry.bySession.erase session
  hungUp : after.hungUp = before.hungUp ++ (before.source.registry.channel? sink .sink).toList
  ends : Ends (Call.isTo sink) before after

theorem retires (sink : DeviceId) : Retires sink turn (turn.retire sink) := by
  have record := turn.hungUp_dropSink sink
  obtain ⟨counter, line, dropped⟩ := turn.sent_dropSink sink
  cases there : turn.source.registry.channel? sink .sink with
  | none =>
    have erased : turn.source.registry.byPeer.erase ⟨sink, .sink⟩ = turn.source.registry.byPeer :=
      Table.erase_eq_self_iff.2 (Table.not_mem_of_getElem? there)
    rw [retire_of_unreached there]
    refine ⟨?_, ?_, ?_, ?_, ?_, turn.ends_dropSink sink⟩
    · rw [dropped]
      rfl
    · rw [dropped]
      rfl
    · rw [dropped, erased]
      rfl
    · rw [dropped, there]
      rfl
    · rw [record, there]
      exact (List.append_nil _).symm
  | some session =>
    have ends := turn.ends_dropSink sink
    rw [retire_of_reached there]
    refine ⟨?_, ?_, ?_, ?_, ?_, ⟨ends.completions, ends.waiting⟩⟩
    · rw [dropped]
      rfl
    · rw [dropped]
      rfl
    · rw [dropped]
      rfl
    · rw [dropped, there]
      rfl
    · rw [there, ← record]
      exact List.filterMap_append

omit [Transport τ] in
theorem Retires.alike {sink : DeviceId} {first second retired other : Turn (Recorded τ)}
    (one : Retires sink first retired) (two : Retires sink second other)
    (alike : Alike first second) : Alike retired other where
  beliefs := by
    rw [two.beliefs, one.beliefs, alike.beliefs]
  latencies := by
    rw [two.latencies, one.latencies, alike.latencies]
  byPeer := by
    rw [two.byPeer, one.byPeer, alike.byPeer]
  bySession := by
    rw [two.bySession, one.bySession, Registry.channel?, Registry.channel?, alike.byPeer,
      alike.bySession]

/-! ## Answers -/

omit [Transport τ] in
theorem alike_complete (call : Call) (outcome : Outcome) :
    Alike turn (turn.complete call outcome) :=
  ⟨rfl, rfl, rfl, rfl⟩

theorem alike_completeRelay (token : RelayToken) (message : Correlation → Message) :
    Alike turn (turn.completeRelay token message) := by
  have erased : Alike turn (turn.withLive (turn.source.relays.live.erase token)) :=
    ⟨rfl, rfl, rfl, rfl⟩
  exact erased.trans (.of_sent (turn.sent_completeRelay token message))

theorem hungUp_completeRelay (token : RelayToken) (message : Correlation → Message) :
    (turn.completeRelay token message).hungUp = turn.hungUp := by
  obtain silent | ⟨correlation, origin, _, _, reported⟩ := turn.completeRelay_cases token message
  · rw [silent]
    rfl
  · rw [reported]
    exact hungUp_post _ _ _

end Retiring

/-- Two turns come from one by the same answer of a sink, to a call and to a request that
was passed on.  The source then has the same channels and knows the same of sinks.  If the
sink has left, it has closed the same channel, and the same calls have failed but for the
call that the answer was to, if there is one. -/
structure Mirrors (sink : DeviceId) (reply : Reply) (before direct relayed : Turn (Recorded τ)) :
    Prop where
  alike : Alike direct relayed
  closed : relayed.hungUp = direct.hungUp
  ended : reply = .unprepared Status.ok →
    direct.hungUp = before.hungUp ++ (before.source.registry.channel? sink .sink).toList ∧
    Ends (Call.isTo sink) before relayed ∧
    direct.source.pending.waiting = relayed.source.pending.waiting ∧
    direct.completions =
      before.completions ++
        ((before.source.pending.waiting.lookup (.direct sink .unprepare)).toList.map
          fun ticket => ⟨ticket, .ok .done⟩) ++
        (before.source.pending.waiting.filter fun entry =>
          entry.1.isTo sink && entry.1 ≠ .direct sink .unprepare).map
          fun entry => ⟨entry.2, .error .disconnected⟩

variable [Transport τ]

omit [Transport τ] in
/-- An answer ends the call that waits under its key and no other. -/
theorem complete_agrees (turn : Turn (Recorded τ)) (call : Call) (outcome : Outcome) :
    (turn.complete call outcome).completions =
        turn.completions ++
          ((turn.source.pending.waiting.lookup call).toList.map fun ticket => ⟨ticket, outcome⟩) ∧
      (turn.complete call outcome).source.pending.waiting =
        turn.source.pending.waiting.filter fun entry => entry.1 ≠ call := by
  rw [complete, Pending.complete]
  cases found : turn.source.pending.waiting.lookup call with
  | none =>
    have others : ∀ entry ∈ turn.source.pending.waiting, decide (entry.1 ≠ call) = true := by
      intro entry listed
      refine decide_eq_true ?_
      rintro rfl
      exact Pending.not_mem_keys_of_lookup found (List.mem_map_of_mem listed)
    exact ⟨rfl, (List.filter_eq_self.2 others).symm⟩
  | some ticket => exact ⟨rfl, rfl⟩

theorem mirrors_onReply (turn : Turn (Recorded τ)) {token : RelayToken}
    {correlation : Correlation} (live : turn.source.relays.live[token]? = some correlation)
    (reply : Reply) :
    Mirrors correlation.target reply turn (turn.onReply correlation.target reply)
      (turn.onRelayedReply correlation.target token reply) := by
  let sink := correlation.target
  let absorbed := turn.absorb sink reply
  let completed := absorbed.complete (.direct sink reply.request) reply.outcome
  let reported := absorbed.completeRelay token fun correlation => correlation.report reply.toResult
  have direct : turn.onReply sink reply = completed.retireIfUnprepared sink reply := rfl
  have relayed : turn.onRelayedReply sink token reply =
      reported.retireIfUnprepared sink reply := by
    rw [onRelayedReply, Relays.peek, live]
    exact if_pos rfl
  have alike : Alike completed reported :=
    (absorbed.alike_complete _ _).symm.trans (absorbed.alike_completeRelay token _)
  have record : reported.hungUp = completed.hungUp := absorbed.hungUp_completeRelay token _
  rw [direct, relayed]
  by_cases leaves : reply = .unprepared Status.ok
  · subst leaves
    have unchanged : absorbed = turn := if_pos rfl
    have first := completed.retires sink
    have second := reported.retires sink
    have there (after : Turn (Recorded τ)) (same : Alike turn after) :
        after.source.registry.channel? sink .sink = turn.source.registry.channel? sink .sink := by
      rw [Registry.channel?, Registry.channel?, same.byPeer]
    have kept : Alike turn completed := unchanged ▸ absorbed.alike_complete _ _
    have closed : (completed.retire sink).hungUp =
        turn.hungUp ++ (turn.source.registry.channel? sink .sink).toList := by
      rw [first.hungUp, there completed kept]
      exact congrArg (fun turn => turn.hungUp ++ _) unchanged
    obtain ⟨completions, waiting⟩ :=
      turn.complete_agrees (.direct sink .unprepare) (.ok .done)
    have ended : completed = turn.complete (.direct sink .unprepare) (.ok .done) :=
      congrArg (fun turn => complete turn _ _) unchanged
    have untouched : reported.completions = turn.completions ∧
        reported.source.pending = turn.source.pending := by
      obtain ⟨counter, line, sent⟩ := turn.sent_completeRelay token fun correlation =>
        correlation.report (.unprepare Status.ok)
      have same : reported = turn.completeRelay token fun correlation =>
          correlation.report (.unprepare Status.ok) :=
        congrArg (fun turn => completeRelay turn _ _) unchanged
      rw [same, sent]
      exact ⟨rfl, rfl⟩
    refine ⟨first.alike second alike, ?_, fun _ => ⟨closed, ⟨?_, ?_⟩, ?_, ?_⟩⟩
    · change (reported.retire sink).hungUp = (completed.retire sink).hungUp
      rw [second.hungUp, first.hungUp, record, there completed kept,
        there reported (kept.trans alike)]
    · change (reported.retire sink).completions = _
      rw [second.ends.completions, untouched.1, untouched.2]
    · change (reported.retire sink).source.pending.waiting = _
      rw [second.ends.waiting, untouched.2]
    · change (completed.retire sink).source.pending.waiting =
        (reported.retire sink).source.pending.waiting
      rw [second.ends.waiting, first.ends.waiting, untouched.2, ended, waiting,
        List.filter_filter]
      refine List.filter_congr ?_
      intro entry _
      by_cases its : entry.1 = .direct sink .unprepare
      · rw [its]
        simp [Call.isTo]
      · simp [its]
    · change (completed.retire sink).completions = _
      rw [first.ends.completions, ended, completions, waiting, List.filter_filter]
  · rw [completed.retireIfUnprepared_of_stays leaves, reported.retireIfUnprepared_of_stays leaves]
    exact ⟨alike, record, fun same => absurd same leaves⟩

end Source.Turn

/-! ## Both ends -/

/-- A sink does the same about a request whether it comes directly or with a token, and
says the same but for the form of its answer, which carries the token.  A source does the
same about an answer of a sink whether it is to a call of its own or to a request that it
has passed on to the sink and that is still open. -/
theorem detour_agrees {τ κ : Type} [Transport τ] [Collector κ] :
    (∀ (turn : Sink.Turn (Recorded τ) κ) (session : SessionId) (token : RelayToken)
        (device : DeviceId) (request : Request),
      Sink.Turn.Mirrors session token request turn
        (turn.handle session (.request device request))
        (turn.handle session (.relayed token device request))) ∧
    ∀ (turn : Source.Turn (Recorded τ)) (now : UInt64) (session : SessionId)
        (token : RelayToken) (correlation : Correlation) (device : DeviceId) (reply : Reply),
      turn.source.registry.peer? session = some correlation.target →
      turn.source.relays.live[token]? = some correlation →
      Source.Turn.Mirrors correlation.target reply turn
        (turn.handle now session (.reply device reply))
        (turn.handle now session (.relayedReply token device reply)) := by
  constructor
  · intro turn session token device request
    exact turn.mirrors_serve session token request
  · intro turn now session token correlation device reply known live
    rw [Source.Turn.handle, Source.Turn.handle, known]
    exact turn.mirrors_onReply live reply

/-- The laptop has passed a request on to the tablet, and has two calls of its own waiting
there. -/
def engaged : Source.Turn (Recorded Scripted) :=
  (Source.relayed.turn.undergo (.call 7 (.direct ⟨"tablet"⟩ .unprepare))).undergo
    (.call 8 (.direct ⟨"tablet"⟩ .prepare))

theorem detour_agrees_engaged :
    let leaves : Reply := .unprepared Status.ok
    let direct := engaged.handle 0 ⟨100⟩ (.reply ⟨"tablet"⟩ leaves)
    let relayed := engaged.handle 0 ⟨100⟩ (.relayedReply ⟨2⟩ ⟨"tablet"⟩ leaves)
    engaged.source.registry.peer? ⟨100⟩ = some ⟨"tablet"⟩ ∧
      engaged.source.relays.live.contains ⟨2⟩ = true ∧
      Source.Turn.Mirrors ⟨"tablet"⟩ leaves engaged direct relayed ∧
      direct.hungUp = [⟨100⟩] ∧ direct.completions.map Completion.ticket = [7, 8] ∧
      Sink.Turn.Mirrors ⟨1⟩ ⟨2⟩ .unprepare Sink.lending
        (Sink.lending.handle ⟨1⟩ (.request ⟨"desk"⟩ .unprepare))
        (Sink.lending.handle ⟨1⟩ (.relayed ⟨2⟩ ⟨"desk"⟩ .unprepare)) := by
  intro leaves direct relayed
  let correlation : Correlation :=
    { origin := some ⟨1⟩
      source := ⟨"laptop"⟩
      target := ⟨"tablet"⟩
      request := .startByType TypeMask.mouse }
  have known : engaged.source.registry.peer? ⟨100⟩ = some correlation.target := by
    decide +kernel
  have live : engaged.source.relays.live[(⟨2⟩ : RelayToken)]? = some correlation := by
    decide +kernel
  obtain ⟨atSink, atSource⟩ := @detour_agrees Scripted (Metered Hardware) _ _
  exact ⟨known, by decide +kernel, atSource engaged 0 ⟨100⟩ ⟨2⟩ correlation _ leaves known live,
    by decide +kernel, by decide +kernel, atSink Sink.lending ⟨1⟩ ⟨2⟩ ⟨"desk"⟩ .unprepare⟩

end InputSharing
