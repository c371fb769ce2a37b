import InputSharing.Channel.Scripted
import InputSharing.Proofs.Source.Conservation
import InputSharing.Proofs.Source.Origins
import InputSharing.Proofs.Source.Unasked

/-!
# What the answer to a passed-on request ends

A request that is passed on `Stems` from one that was asked.  The answer of the sink comes
under the token of the request, and it repeats a request of its own.  The source reports
what the answer says to the asking node, which finds its call again by what is repeated, and
uses the token up.

So an answer `Discerns` the request, if it ends this request or none, only as long as it
repeats it.
-/

namespace InputSharing

theorem Reply.request_toResult (reply : Reply) : reply.toResult.request = reply.request := by
  cases reply <;> rfl

namespace Correlation

/-- The call for which the asking node waits. -/
def call (correlation : Correlation) : Call :=
  .relayed correlation.source correlation.target correlation.request

/-- What the asking node is told, if its channel is still there. -/
def verdict? (correlation : Correlation) (reply : Reply) : Option Verdict :=
  correlation.origin.map fun origin =>
    ⟨origin, correlation.source, correlation.target, reply.toResult⟩

/-- A request is passed on as it was asked. -/
structure Stems (correlation : Correlation) (inquiry : Inquiry) : Prop where
  call : correlation.call = .relayed inquiry.source inquiry.sink inquiry.request
  origin : ∀ origin, correlation.origin = some origin → inquiry.origin = origin

theorem Stems.detach {correlation : Correlation} {inquiry : Inquiry}
    (stems : correlation.Stems inquiry) (session : SessionId) :
    (correlation.detach session).Stems inquiry where
  call := by
    refine Eq.trans ?_ stems.call
    rw [Correlation.detach]
    split
    · rfl
    · rfl
  origin := fun origin present => stems.origin origin (origin_detach present).1

end Correlation

/-- The call that ends at the asking node. -/
def Verdict.call (verdict : Verdict) : Call :=
  .relayed verdict.source verdict.sink verdict.result.request

namespace Source

namespace Turn

variable {τ : Type}

/-- An answer under a token ends only the request that was passed on under it. -/
structure Discerns (token : RelayToken) (correlation : Correlation) (reply : Reply)
    (before after : Turn (Recorded τ)) : Prop where
  /-- If the token is used up and a result is sent for it, then the result ends the call for
  which the asking node waits. -/
  told : token ∉ after.source.relays.live → correlation.origin ≠ none →
    ∀ (verdict : Verdict) (later : List Verdict),
      after.verdicts = before.verdicts ++ verdict :: later → verdict.call = correlation.call
  /-- An answer to anything else leaves the request outstanding. -/
  kept : reply.request ≠ correlation.request →
    after.source.relays.live[token]? = some correlation
  /-- It leaves the session with the sink as it was. -/
  stays : reply.request ≠ correlation.request → ∀ session : SessionId,
    before.source.registry.channel? correlation.target .sink = some session →
      after.source.registry.channel? correlation.target .sink = some session

/-- What the answer of a sink to a passed-on request leads to. -/
structure Concludes (token : RelayToken) (correlation : Correlation) (reply : Reply)
    (before after : Turn (Recorded τ)) : Prop where
  spent : token ∉ after.source.relays.live
  told : ∃ later, after.verdicts = before.verdicts ++ (correlation.verdict? reply).toList ++ later
  forgotten : reply = .unprepared Status.ok → after.source.Forgotten correlation.target
  stays : reply ≠ .unprepared Status.ok →
    after.source.registry.byPeer = before.source.registry.byPeer ∧
      after.source.registry.bySession = before.source.registry.bySession

variable {token : RelayToken} {correlation : Correlation} {reply : Reply}
  {before after : Turn (Recorded τ)}

theorem Concludes.discerns_iff (concludes : Concludes token correlation reply before after) :
    Discerns token correlation reply before after ↔ reply.request = correlation.request := by
  constructor
  · intro discerns
    by_contra other
    exact concludes.spent (Table.mem_of_getElem? (discerns.kept other))
  · intro same
    refine ⟨?_, fun other => absurd same other, fun other => absurd same other⟩
    intro _ present verdict later grown
    obtain ⟨origin, named⟩ := Option.ne_none_iff_exists'.1 present
    obtain ⟨more, told⟩ := concludes.told
    rw [Correlation.verdict?, named, Option.map_some, Option.toList_some, List.append_assoc] at told
    have first := List.append_cancel_left (grown.symm.trans told)
    rw [(List.cons.inj first).1, Verdict.call, Correlation.call, Reply.request_toResult, same]

theorem verdicts_grow {peer : DeviceId} {ended? : Option Call} {asked? : Option Inquiry}
    (confined : Confined peer ended? asked? before after) :
    ∃ later, after.verdicts = before.verdicts ++ later := by
  obtain ⟨deeds, grown, -⟩ := confined.deeds
  refine ⟨deeds.filterMap Deed.verdict?, ?_⟩
  rw [verdicts, verdicts, grown, List.filterMap_append]

variable (turn : Turn (Recorded τ))

theorem registry_absorb (sink : DeviceId) (reply : Reply) :
    (turn.absorb sink reply).source.registry = turn.source.registry := by
  rw [absorb.eq_def]
  split
  · split
    · rfl
    · rfl
    · rfl
  · rfl

variable [Transport τ]

theorem verdicts_completeRelay (live : turn.source.relays.live[token]? = some correlation) :
    (turn.completeRelay token fun correlation => correlation.report reply.toResult).verdicts =
      turn.verdicts ++ (correlation.verdict? reply).toList := by
  rw [completeRelay_eq, live]
  dsimp only
  cases named : correlation.origin with
  | none =>
      rw [Correlation.verdict?, named]
      exact (List.append_nil _).symm
  | some origin =>
      rw [Correlation.verdict?, named]
      exact verdicts_send _ origin _

theorem concludes_onRelayedReply
    (live : turn.source.relays.live[token]? = some correlation) (reply : Reply) :
    Concludes token correlation reply turn
      (turn.onRelayedReply correlation.target token reply) := by
  have absorbed := turn.quiet_absorb correlation.target reply
  have kept := absorbed.relays_eq ▸ live
  let told := (turn.absorb correlation.target reply).completeRelay token fun correlation =>
    correlation.report reply.toResult
  have result : turn.onRelayedReply correlation.target token reply =
      told.retireIfUnprepared correlation.target reply := by
    rw [onRelayedReply, Relays.peek, live]
    exact if_pos rfl
  obtain ⟨counter, line, sent⟩ :=
    (turn.absorb correlation.target reply).sent_completeRelay token fun correlation =>
      correlation.report reply.toResult
  have spent : token ∉ told.source.relays.live := by
    change token ∉ (completeRelay _ _ _).source.relays.live
    rw [sent]
    exact fun again => ((Table.mem_erase_iff _ _ _).1 again).1 rfl
  have reports : told.verdicts = turn.verdicts ++ (correlation.verdict? reply).toList := by
    rw [← absorbed.verdicts_eq]
    exact verdicts_completeRelay _ kept
  have ends := told.fades_retireIfUnprepared correlation.target reply
  have confined :
      Confined correlation.target none none told
        (told.retireIfUnprepared correlation.target reply) :=
    told.confined_retireIfUnprepared correlation.target reply
  obtain ⟨later, grown⟩ := verdicts_grow confined
  rw [result]
  refine ⟨fun again => spent (ends.live_subset token again), ⟨later, ?_⟩, ?_, ?_⟩
  · rw [grown, reports]
  · rintro rfl
    exact told.forgotten_retire correlation.target
  · intro remains
    have registry := turn.registry_absorb correlation.target reply
    rw [retireIfUnprepared_of_stays remains]
    change (completeRelay _ _ _).source.registry.byPeer = _ ∧
      (completeRelay _ _ _).source.registry.bySession = _
    rw [sent, ← registry]
    exact ⟨rfl, rfl⟩

end Turn

/-! ## Every history -/

section Histories

variable {τ : Type} [Transport τ] {device : DeviceId} {course : Course τ}

/-- Every outstanding request stems from one that was asked. -/
theorem Reached.stems (reached : Reached device course) {token : RelayToken}
    {correlation : Correlation}
    (live : course.turn.source.relays.live[token]? = some correlation) :
    ∃ inquiry ∈ course.asked, correlation.Stems inquiry := by
  induction reached generalizing token correlation with
  | start line => exact absurd (live.symm.trans Std.ExtTreeMap.getElem?_empty) (by simp)
  | elsewhere line _ inductionHypothesis => exact inductionHypothesis live
  | @undergo earlier occurrence _ inductionHypothesis =>
      have older {correlation : Correlation}
          (found : earlier.turn.source.relays.live[token]? = some correlation) :
          ∃ inquiry ∈ (earlier.undergo occurrence).asked, correlation.Stems inquiry := by
        obtain ⟨inquiry, asked, stems⟩ := inductionHypothesis found
        exact ⟨inquiry, List.mem_append_left _ asked, stems⟩
      have unchanged (quiet : earlier.turn.Quiet (earlier.turn.undergo occurrence)) :
          ∃ inquiry ∈ (earlier.undergo occurrence).asked, correlation.Stems inquiry :=
        older (quiet.relays_eq ▸ live)
      cases occurrence with
      | call ticket call => exact unchanged (earlier.turn.quiet_call ticket call)
      | opened session peer => exact unchanged (earlier.turn.quiet_opened session peer)
      | tick now => exact unchanged (earlier.turn.quiet_tick now)
      | closed session =>
          obtain ⟨before, found, same⟩ := earlier.turn.live_of_closed live
          obtain ⟨inquiry, asked, stems⟩ := older found
          rcases same with rfl | rfl
          · exact ⟨inquiry, asked, stems⟩
          · exact ⟨inquiry, asked, stems.detach session⟩
      | message now session message =>
          change (earlier.turn.handle now session message).source.relays.live[token]? = _ at live
          rw [Turn.handle] at live
          split at live
          · exact older live
          · next peer known =>
            have confined := earlier.turn.confined_onMessage now session peer message
            rcases confined.live_new token correlation live with found | ⟨-, asked⟩
            · exact older found
            · obtain ⟨inquiry, asks, rfl⟩ := Option.map_eq_some_iff.1 asked
              refine ⟨inquiry, List.mem_append_right _ ?_, ⟨rfl, fun _ => Option.some.inj⟩⟩
              obtain ⟨channel, present, -⟩ := Option.map_eq_some_iff.1 known
              cases message <;> cases asks
              rw [Occurrence.inquiry?, if_pos (Table.mem_of_getElem? present)]
              exact List.mem_singleton_self _

/-- An answer of a sink under a token that was given to it uses the token up, whatever it
answers.  The first thing that is sent is what the answer says, to the asking node, under
the names of the request that stood under the token.  The session with the sink ends if the
answer says that the sink is unprepared, and only then.  So an answer ends no other request
than the one it was asked exactly if it repeats this request. -/
theorem relayed_answer_discerns_iff (reached : Reached device course) {session : SessionId}
    {token : RelayToken} {correlation : Correlation}
    (live : course.turn.source.relays.live[token]? = some correlation)
    (known : course.turn.source.registry.peer? session = some correlation.target)
    (now : UInt64) (speaker : DeviceId) (reply : Reply) :
    let after := course.turn.handle now session (.relayedReply token speaker reply)
    (∃ inquiry ∈ course.asked, correlation.Stems inquiry) ∧
      Turn.Concludes token correlation reply course.turn after ∧
      (Turn.Discerns token correlation reply course.turn after ↔
        reply.request = correlation.request) := by
  have concludes := course.turn.concludes_onRelayedReply live reply
  dsimp only
  rw [Turn.handle, known]
  exact ⟨reached.stems live, concludes, concludes.discerns_iff⟩

theorem relayed_answer_discerns_relayed :
    let after := relayed.turn.handle 0 ⟨100⟩
      (.relayedReply ⟨2⟩ ⟨"tablet"⟩
        (.startedByType Status.ok TypeMask.mouse TypeMask.mouse))
    Reached ⟨"laptop"⟩ relayed ∧
      relayed.turn.source.registry.peer? ⟨100⟩ = some ⟨"tablet"⟩ ∧
      ∃ correlation : Correlation, correlation.target = ⟨"tablet"⟩ ∧
        relayed.turn.source.relays.live[(⟨2⟩ : RelayToken)]? = some correlation ∧
        Turn.Discerns ⟨2⟩ correlation
          (.startedByType Status.ok TypeMask.mouse TypeMask.mouse) relayed.turn after := by
  have live : relayed.turn.source.relays.live[(⟨2⟩ : RelayToken)]? =
      some ⟨some ⟨1⟩, ⟨"laptop"⟩, ⟨"tablet"⟩, .startByType TypeMask.mouse⟩ := by
    decide +kernel
  have known : relayed.turn.source.registry.peer? ⟨100⟩ = some ⟨"tablet"⟩ := by decide +kernel
  obtain ⟨-, -, discerns_iff⟩ :=
    relayed_answer_discerns_iff reached_relayed live known 0 ⟨"tablet"⟩
      (.startedByType Status.ok TypeMask.mouse TypeMask.mouse)
  exact ⟨reached_relayed, known, _, rfl, live, discerns_iff.2 rfl⟩

/-- The tablet was asked to start, and answers under the token of this request that it is
unprepared.  The token is used up, the desk is told so, and the channel to the tablet is
closed. -/
theorem relayed_answer_ends_other :
    let after := relayed.turn.handle 0 ⟨100⟩
      (.relayedReply ⟨2⟩ ⟨"tablet"⟩ (.unprepared Status.ok))
    Reached ⟨"laptop"⟩ relayed ∧
      relayed.turn.source.registry.peer? ⟨100⟩ = some ⟨"tablet"⟩ ∧
      relayed.turn.source.relays.live[(⟨2⟩ : RelayToken)]? =
        some ⟨some ⟨1⟩, ⟨"laptop"⟩, ⟨"tablet"⟩, .startByType TypeMask.mouse⟩ ∧
      after.source.relays.live.contains ⟨2⟩ = false ∧
      after.verdicts =
        relayed.turn.verdicts ++ [⟨⟨1⟩, ⟨"laptop"⟩, ⟨"tablet"⟩, .unprepare Status.ok⟩] ∧
      relayed.turn.source.registry.channel? ⟨"tablet"⟩ .sink = some ⟨100⟩ ∧
      after.source.registry.channel? ⟨"tablet"⟩ .sink = none :=
  ⟨reached_relayed, by decide +kernel, by decide +kernel, by decide +kernel, by decide +kernel,
    by decide +kernel, by decide +kernel⟩

end Histories

end Source

end InputSharing
