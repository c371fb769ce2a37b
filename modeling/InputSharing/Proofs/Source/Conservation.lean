import InputSharing.Channel.Scripted
import InputSharing.Proofs.Source.Relaying

/-!
# Relaying loses nothing

Whatever happens to a source, every request to pass on that it handles is
settled by exactly one result, or is outstanding under a token of its own, until
the channel on which it came is reported closed.
-/

namespace InputSharing.Source

/-! ## Token numbers -/

/-- The tokens that a source gives out first. -/
def firstTokens (count : Nat) : List RelayToken :=
  (List.range count).map fun index => ⟨UInt64.ofNat (index + 1)⟩

theorem firstTokens_succ (count : Nat) :
    firstTokens (count + 1) = firstTokens count ++ [⟨UInt64.ofNat (count + 1)⟩] := by
  simp [firstTokens, List.range_succ]

theorem not_mem_firstTokens {count : Nat} (few : count < UInt64.size) :
    (⟨UInt64.ofNat (count + 1)⟩ : RelayToken) ∉ firstTokens count := by
  intro listed
  obtain ⟨index, member, same⟩ := List.mem_map.1 listed
  have earlier : index < count := List.mem_range.1 member
  have numbers := congrArg (fun token : RelayToken => token.number.toNat) same
  have size : UInt64.size = 2 ^ 64 := rfl
  simp only [UInt64.toNat_ofNat'] at numbers
  omega

theorem nodup_firstTokens {count : Nat} (few : count ≤ UInt64.size) :
    (firstTokens count).Nodup := by
  induction count with
  | zero =>
      exact List.nodup_nil
  | succ count inductionHypothesis =>
      have smaller : count < UInt64.size := by omega
      rw [firstTokens_succ, List.nodup_append]
      refine ⟨inductionHypothesis (by omega), List.nodup_singleton _, ?_⟩
      intro token listed last isLast same
      rw [List.mem_singleton.1 isLast] at same
      rw [same] at listed
      exact not_mem_firstTokens smaller listed

namespace Turn

variable {τ : Type}

/-- A source numbers its tokens in order. -/
structure Numbered (turn : Turn (Recorded τ)) : Prop where
  tokens_eq : turn.tokens = firstTokens turn.tokens.length
  last_eq : turn.source.relays.last = ⟨UInt64.ofNat turn.tokens.length⟩

namespace Numbered

variable {before after : Turn (Recorded τ)}

theorem nextToken_eq (numbered : before.Numbered) :
    before.nextToken = ⟨UInt64.ofNat (before.tokens.length + 1)⟩ := by
  rw [nextToken, numbered.last_eq, UInt64.ofNat_add]
  rfl

theorem fresh (numbered : before.Numbered) (few : before.tokens.length < UInt64.size) :
    before.nextToken ∉ before.tokens := by
  rw [numbered.nextToken_eq, numbered.tokens_eq]
  simpa [firstTokens] using not_mem_firstTokens few

theorem fades (numbered : before.Numbered) (fades : Fades before after) : after.Numbered := by
  have same : after.tokens = before.tokens := congrArg (List.map Prod.fst) fades.issued_eq
  refine ⟨?_, ?_⟩
  · rw [same]
    exact numbered.tokens_eq
  · rw [same, fades.last_eq]
    exact numbered.last_eq

theorem mints [Transport τ] (numbered : before.Numbered) (mints : Mints before after) :
    after.Numbered := by
  have length : after.tokens.length = before.tokens.length + 1 := by
    rw [mints.tokens_eq]
    exact List.length_append
  refine ⟨?_, ?_⟩
  · rw [length, firstTokens_succ, ← numbered.tokens_eq, ← numbered.nextToken_eq]
    exact mints.tokens_eq
  · rw [length, mints.last_eq]
    exact numbered.nextToken_eq

end Numbered

end Turn

/-! ## Courses -/

namespace Course

variable {τ : Type}

/-- What holds of every course whose source has not run out of tokens. -/
structure Sound (course : Course τ) : Prop where
  numbered : course.turn.Numbered
  balanced : (course.turn.account course.asked course.answers course.gone []).Balanced
  spent_perm :
    (course.spent ++ course.turn.source.relays.live.keys).Perm course.turn.tokens

/-- The tokens that an occurrence can use up. -/
def usable (before after : Turn (Recorded τ)) : List RelayToken :=
  before.source.relays.live.keys ++ after.tokens.drop before.tokens.length

variable [Transport τ] {before after : Turn (Recorded τ)}

theorem tokens_split (change : before.Fades after ∨ before.Mints after) :
    after.tokens = before.tokens ++ after.tokens.drop before.tokens.length := by
  rcases change with fades | mints
  · have same : after.tokens = before.tokens := congrArg (List.map Prod.fst) fades.issued_eq
    rw [same, List.drop_length, List.append_nil]
  · rw [mints.tokens_eq, List.drop_left]

/-- Only usable tokens are live afterwards. -/
theorem live_usable (change : before.Fades after ∨ before.Mints after) {token : RelayToken}
    (live : token ∈ after.source.relays.live) : token ∈ usable before after := by
  rcases change with fades | mints
  · have old := fades.live_subset token live
    exact List.mem_append_left _ (Std.ExtTreeMap.mem_keys.2 old)
  · rcases mints.live_subset token live with new | old
    · refine List.mem_append_right _ ?_
      rw [mints.tokens_eq, List.drop_left, new]
      exact List.mem_singleton.2 rfl
    · exact List.mem_append_left _ (Std.ExtTreeMap.mem_keys.2 old)

/-- Every usable token is used up or live. -/
theorem usable_perm (change : before.Fades after ∨ before.Mints after)
    (nodup : (usable before after).Nodup) :
    ((usable before after).filter (fun token => token ∉ after.source.relays.live) ++
      after.source.relays.live.keys).Perm (usable before after) := by
  have split :=
    List.filter_append_perm (fun token => decide (token ∉ after.source.relays.live))
      (usable before after)
  refine List.Perm.trans (List.Perm.append_left _ ?_) split
  rw [List.perm_ext_iff_of_nodup (Table.nodup_keys _) (nodup.filter _)]
  intro token
  rw [Std.ExtTreeMap.mem_keys, List.mem_filter]
  constructor
  · intro live
    exact ⟨live_usable change live, by simpa using live⟩
  · rintro ⟨_, live⟩
    simpa using live

theorem Sound.undergo {course : Course τ} (sound : course.Sound) (occurrence : Occurrence)
    (few : (course.undergo occurrence).turn.tokens.length < UInt64.size) :
    (course.undergo occurrence).Sound := by
  have change := course.turn.undergo_fades_or_mints occurrence
  have tokens := tokens_split change
  have fewBefore : course.turn.tokens.length < UInt64.size := by
    have length := congrArg List.length tokens
    rw [List.length_append] at length
    have after : (course.turn.undergo occurrence).tokens.length < UInt64.size := few
    omega
  have fresh := sound.numbered.fresh fewBefore
  have numbered : (course.turn.undergo occurrence).Numbered := by
    rcases change with fades | mints
    · exact sound.numbered.fades fades
    · exact sound.numbered.mints mints
  refine ⟨numbered, course.turn.balanced_undergo occurrence fresh sound.balanced, ?_⟩
  let after := course.turn.undergo occurrence
  have known : (course.spent ++ usable course.turn after).Perm after.tokens := by
    rw [tokens, usable, ← List.append_assoc]
    exact sound.spent_perm.append_right _
  have nodup : (usable course.turn after).Nodup := by
    have all : after.tokens.Nodup := by
      rw [numbered.tokens_eq]
      exact nodup_firstTokens (Nat.le_of_lt few)
    exact ((known.nodup_iff.2 all).of_append_right)
  have used := usable_perm change nodup
  have spent :
      ((course.undergo occurrence).spent ++ after.source.relays.live.keys).Perm
        (course.spent ++ usable course.turn after) := by
    have grown := used.append_left course.spent
    rw [← List.append_assoc] at grown
    exact grown
  exact spent.trans known

end Course

variable {τ : Type} [Transport τ] {device : DeviceId} {course : Course τ}

theorem Reached.sound (reached : Reached device course)
    (few : course.turn.tokens.length < UInt64.size) : course.Sound := by
  induction reached with
  | start line =>
      refine ⟨⟨rfl, rfl⟩, ⟨[], [], ?_⟩, List.Perm.refl _⟩
      constructor <;>
        simp [Turn.account, Turn.verdicts, Turn.issued, Account.expected, Table.nodup_keys]
  | @undergo earlier occurrence before inductionHypothesis =>
      have tokens :=
        Course.tokens_split (earlier.turn.undergo_fades_or_mints occurrence)
      have length := congrArg List.length tokens
      rw [List.length_append] at length
      have after : (earlier.turn.undergo occurrence).tokens.length < UInt64.size := few
      exact (inductionHypothesis (by omega)).undergo occurrence few
  | elsewhere line before inductionHypothesis =>
      have sound := inductionHypothesis few
      exact ⟨⟨sound.numbered.tokens_eq, sound.numbered.last_eq⟩, sound.balanced, sound.spent_perm⟩

/-! ## What is owed on one channel -/

section Balance

variable {account : Account} {settlements : List Settlement} {lost : List Inquiry}
  {origin : SessionId}

/-- The requests that came on a channel are those that were settled and those
that are outstanding, until the channel is gone. -/
theorem asked_on_channel (books : account.BalancedBy settlements lost)
    (present : origin ∉ account.gone) :
    (account.asked.filter fun inquiry => inquiry.origin = origin).Perm
      (((settlements.filter fun settlement => settlement.inquiry.origin = origin).map
          Settlement.inquiry) ++
        account.expected.filter fun inquiry => inquiry.origin = origin) := by
  have kept := books.asked_perm.filter fun inquiry => decide (inquiry.origin = origin)
  have none_lost : lost.filter (fun inquiry => decide (inquiry.origin = origin)) = [] := by
    rw [List.filter_eq_nil_iff]
    intro inquiry listed same
    have gone := books.gone_of_lost inquiry listed
    rw [of_decide_eq_true same] at gone
    exact present gone
  rw [List.filter_append, List.filter_append, none_lost, List.append_nil, List.filter_map] at kept
  exact kept

theorem countP_verdicts (books : account.BalancedBy settlements lost) :
    (account.verdicts.countP fun verdict => verdict.origin = origin) =
      (settlements.filter fun settlement => settlement.inquiry.origin = origin).length := by
  rw [books.verdicts_eq, List.countP_map, List.countP_eq_length_filter]
  rfl

omit [Transport τ] in
theorem length_expected (turn : Turn (Recorded τ)) {asked : List Inquiry}
    {answers : List Answer} {gone : List SessionId} :
    ((turn.account asked answers gone []).expected.filter fun inquiry =>
      inquiry.origin = origin).length = turn.source.relays.countOrigin origin := by
  have same (entry : RelayToken × Correlation) :
      (entry.2.inquiry?.filter fun inquiry => inquiry.origin = origin).isSome =
        decide (entry.2.origin = some origin) := by
    cases present : entry.2.origin with
    | none => simp [Correlation.inquiry?, present]
    | some named =>
        by_cases equal : named = origin
        · simp [Correlation.inquiry?, present, equal, Option.filter]
        · simp [Correlation.inquiry?, present, equal, Option.filter]
  rw [Account.expected, List.filter_filterMap, List.length_filterMap_eq_countP,
    Relays.countOrigin, ← List.countP_eq_length_filter]
  simp only [same]
  rfl

end Balance

/-- As long as a source has tokens left, whatever happens to it and whatever its
transport does: on a channel that has not been reported closed, as many requests
to pass on were handled as results were sent or are still to come; tokens are
given out once and used up once; and every result that was sent belongs to one
request, whose names it carries.  It is either what the sink answered under the
token of this request, or a failure of this request that grants nothing. -/
theorem relaying_conserves (reached : Reached device course)
    (few : course.turn.tokens.length < UInt64.size) :
    (∀ origin : SessionId, origin ∉ course.gone →
      (course.asked.countP fun inquiry => inquiry.origin = origin) =
        (course.turn.verdicts.countP fun verdict => verdict.origin = origin) +
          course.turn.source.relays.countOrigin origin) ∧
    course.turn.source.relays.last.number.toNat = course.turn.tokens.length ∧
    course.turn.tokens.Nodup ∧
    course.spent.Nodup ∧
    (course.spent ++ course.turn.source.relays.live.keys).Perm course.turn.tokens ∧
    ∃ settlements : List Settlement,
      course.turn.verdicts = settlements.map Settlement.verdict ∧
      (∀ origin : SessionId, origin ∉ course.gone →
        (course.asked.filter fun inquiry => inquiry.origin = origin).Perm
          (((settlements.filter fun settlement => settlement.inquiry.origin = origin).map
              Settlement.inquiry) ++
            (course.turn.source.relays.live.toList.filterMap fun entry =>
              entry.2.inquiry?).filter fun inquiry => inquiry.origin = origin)) ∧
      (settlements.filterMap Settlement.token ++
        course.turn.source.relays.live.keys).Nodup ∧
      ∀ settlement ∈ settlements,
        settlement.IsFailure ∨ settlement.IsAnswer course.turn.issued course.answers := by
  have sound := reached.sound few
  have nodup : course.turn.tokens.Nodup := by
    rw [sound.numbered.tokens_eq]
    exact nodup_firstTokens (Nat.le_of_lt few)
  obtain ⟨settlements, lost, books⟩ := sound.balanced
  refine ⟨?_, ?_, nodup, ?_, sound.spent_perm, settlements, books.verdicts_eq, ?_, ?_,
    books.justified⟩
  · intro origin present
    have asked := (asked_on_channel books present).length_eq
    rw [List.length_append, List.length_map, ← countP_verdicts books, length_expected] at asked
    rw [List.countP_eq_length_filter]
    exact asked
  · rw [sound.numbered.last_eq]
    exact UInt64.toNat_ofNat_of_lt few
  · exact (sound.spent_perm.nodup_iff.2 nodup).of_append_left
  · intro origin present
    exact asked_on_channel books present
  · have tokens := books.tokens_nodup
    rw [← Std.ExtTreeMap.map_fst_toList_eq_keys]
    exact tokens

/-- The laptop has passed two requests of the desk on to the tablet, which has
answered the first one. -/
def relayed : Course Scripted :=
  let start : Course Scripted :=
    { turn := { source := { device := ⟨"laptop"⟩ }, line := { line := {} } } }
  let opened := start.undergo (.opened ⟨1⟩ ⟨"desk"⟩)
  let first :=
    opened.undergo
      (.message 0 ⟨1⟩ (.relayRequest ⟨"desk"⟩ ⟨"laptop"⟩ ⟨"tablet"⟩ .prepare))
  let second :=
    first.undergo
      (.message 0 ⟨1⟩
        (.relayRequest ⟨"desk"⟩ ⟨"laptop"⟩ ⟨"tablet"⟩ (.startByType TypeMask.mouse)))
  second.undergo
    (.message 0 ⟨100⟩ (.relayedReply ⟨1⟩ ⟨"tablet"⟩ (.prepared Status.ok [])))

theorem reached_relayed : Reached ⟨"laptop"⟩ relayed :=
  .undergo _ (.undergo _ (.undergo _ (.undergo _ (.start _))))

theorem relaying_conserves_relayed :
    Reached ⟨"laptop"⟩ relayed ∧ relayed.turn.tokens.length < UInt64.size ∧
      relayed.turn.verdicts.length = 1 ∧
      (relayed.asked.countP fun inquiry => inquiry.origin = ⟨1⟩) =
        (relayed.turn.verdicts.countP fun verdict => verdict.origin = ⟨1⟩) +
          relayed.turn.source.relays.countOrigin ⟨1⟩ := by
  have few : relayed.turn.tokens.length < UInt64.size := by decide +kernel
  have present : (⟨1⟩ : SessionId) ∉ relayed.gone := by decide +kernel
  exact ⟨reached_relayed, few, by decide +kernel,
    (relaying_conserves reached_relayed few).1 ⟨1⟩ present⟩

end InputSharing.Source
