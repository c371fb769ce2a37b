import InputSharing.Proofs.Pending
import Mathlib.Data.List.Induction

/-!
# How a waiting call ends

Every call that is inserted ends at most once.  When and how is decided by what is done: it
ends at once if another call waits under its key, and otherwise with the first operation that
concerns its key, be it an answer for exactly this key or a failure of all keys of some kind.

A `Diary` are waiting calls with a record of the calls that have ended.
-/

namespace InputSharing.Pending

variable {κ ρ : Type}

/-! ## Operations -/

/-- What is done with waiting calls. -/
inductive Operation (κ ρ : Type) where
  | insert (key : κ)
  | complete (key : κ) (result : Except SharingError ρ)
  | contains (key : κ)
  | failWhere (doomed : κ → Bool) (error : SharingError)

/-- What the caller of an operation is told. -/
inductive Answer where
  | nothing
  | found (present : Bool)
  | count (number : Nat)
  deriving DecidableEq

/-- What comes of an operation: the calls that end, and the answer. -/
structure Outcome (ρ : Type) where
  ended : List (Completion ρ) := []
  answer : Answer := .nothing

namespace Operation

variable [DecidableEq κ]

/-- How an operation ends a call that waits under a key, if it does. -/
def endingOf? (key : κ) : Operation κ ρ → Option (Except SharingError ρ)
  | .complete answered result => if answered = key then some result else none
  | .failWhere doomed error => if doomed key then some (.error error) else none
  | _ => none

/-- The call that an operation inserts. -/
def issued (ticket : Ticket) : Operation κ ρ → List (κ × Ticket)
  | .insert key => [(key, ticket)]
  | _ => []

/-- The call that an operation turns away. -/
def refused (pending : Pending κ) (ticket : Ticket) : Operation κ ρ → List (Completion ρ)
  | .insert key => if pending.contains key then [⟨ticket, .error .alreadyPending⟩] else []
  | _ => []

/-- The call that an operation lets wait. -/
def admitted (pending : Pending κ) (ticket : Ticket) : Operation κ ρ → List (κ × Ticket)
  | .insert key => if pending.contains key then [] else [(key, ticket)]
  | _ => []

section Admission

variable {pending : Pending κ} {ticket : Ticket} {operation : Operation κ ρ}

theorem mem_refused {completion : Completion ρ} :
    completion ∈ operation.refused pending ticket ↔
      ∃ key, operation = .insert key ∧ pending.contains key = true ∧
        completion = ⟨ticket, .error .alreadyPending⟩ := by
  cases operation with
  | insert key =>
      by_cases occupied : pending.contains key = true
      · simp [refused, occupied]
      · simp [refused, occupied]
  | complete key result => simp [refused]
  | contains key => simp [refused]
  | failWhere doomed error => simp [refused]

theorem admitted_eq (pending : Pending κ) (ticket : Ticket) (operation : Operation κ ρ) :
    operation.admitted pending ticket = [] ∨
      ∃ key, operation = .insert key ∧ pending.contains key = false ∧
        operation.admitted pending ticket = [(key, ticket)] := by
  cases operation with
  | insert key =>
      by_cases occupied : pending.contains key = true
      · simp [admitted, occupied]
      · simp [admitted, occupied]
  | complete key result => simp [admitted]
  | contains key => simp [admitted]
  | failWhere doomed error => simp [admitted]

end Admission

end Operation

variable [DecidableEq κ]

/-- Do one thing.  A call that is inserted gets the given ticket. -/
def perform (pending : Pending κ) (ticket : Ticket) :
    Operation κ ρ → Outcome ρ × Pending κ
  | .insert key =>
      let (refused, pending) := pending.insert key ticket
      ({ ended := refused.toList }, pending)
  | .complete key result =>
      let (ended, pending) := pending.complete key result
      ({ ended := ended.toList, answer := .found ended.isSome }, pending)
  | .contains key => ({ answer := .found (pending.contains key) }, pending)
  | .failWhere doomed error =>
      let (ended, pending) := pending.failWhere doomed error
      ({ ended, answer := .count ended.length }, pending)

/-- The waiting calls that an operation ends. -/
def endedBy (pending : Pending κ) (operation : Operation κ ρ) : List (Completion ρ) :=
  pending.waiting.filterMap fun entry => (operation.endingOf? entry.1).map (⟨entry.2, ·⟩)

theorem contains_iff {pending : Pending κ} {key : κ} :
    pending.contains key = true ↔ ∃ ticket, (key, ticket) ∈ pending.waiting := by
  rw [contains, Option.isSome_iff_exists]
  constructor
  · rintro ⟨ticket, found⟩
    exact ⟨ticket, mem_of_lookup found⟩
  · rintro ⟨ticket, listed⟩
    cases found : pending.waiting.lookup key with
    | none => exact absurd (List.mem_map_of_mem listed) (not_mem_keys_of_lookup found)
    | some other => exact ⟨other, rfl⟩

/-- Where keys are distinct, an answer ends the one call that waits under its key. -/
theorem endedBy_complete {pending : Pending κ}
    (distinct : (pending.waiting.map Prod.fst).Nodup) (key : κ) (result : Except SharingError ρ) :
    pending.endedBy (.complete key result) = (pending.complete key result).1.toList := by
  rw [complete]
  cases found : pending.waiting.lookup key with
  | none =>
      have absent := not_mem_keys_of_lookup found
      rw [endedBy, Option.toList_none, List.filterMap_eq_nil_iff]
      intro entry listed
      have other : key ≠ entry.1 := by
        intro same
        exact absent (same ▸ List.mem_map_of_mem listed)
      simp [Operation.endingOf?, other]
  | some ticket =>
      have others :
          (pending.waiting.filter fun entry => entry.1 ≠ key).filterMap
            (fun entry : κ × Ticket =>
              ((Operation.complete key result).endingOf? entry.1).map
                fun result => (⟨entry.2, result⟩ : Completion ρ)) = [] := by
        rw [List.filterMap_eq_nil_iff]
        intro entry listed
        have other : ¬ key = entry.1 := by
          intro same
          have kept := (List.mem_filter.1 listed).2
          simp [same] at kept
        simp [Operation.endingOf?, other]
      have one := (perm_of_key distinct (mem_of_lookup found)).filterMap
        fun entry : κ × Ticket =>
          ((Operation.complete key result).endingOf? entry.1).map
            fun result => (⟨entry.2, result⟩ : Completion ρ)
      rw [List.filterMap_cons, others] at one
      simpa [endedBy, Operation.endingOf?] using one

/-- An answer is told whether it has ended a call. -/
theorem perform_complete {pending : Pending κ}
    (distinct : (pending.waiting.map Prod.fst).Nodup) (ticket : Ticket) (key : κ)
    (result : Except SharingError ρ) :
    (pending.perform ticket (.complete key result)).1 =
      { ended := (pending.waiting.filter fun entry => entry.1 = key).map fun entry =>
          ⟨entry.2, result⟩
        answer := .found (pending.waiting.any fun entry => entry.1 = key) } := by
  have ends := endedBy_complete distinct key result
  have listed :
      pending.endedBy (.complete key result) =
        (pending.waiting.filter fun entry => entry.1 = key).map fun entry =>
          ⟨entry.2, result⟩ := by
    rw [endedBy]
    induction pending.waiting with
    | nil => simp
    | cons first rest inductionHypothesis =>
        rw [List.filterMap_cons, inductionHypothesis]
        by_cases same : first.1 = key
        · simp [Operation.endingOf?, same]
        · have other : ¬ key = first.1 := fun equal => same equal.symm
          simp [Operation.endingOf?, same, other]
  have told :
      (pending.complete key result).1.isSome = pending.waiting.any fun entry => entry.1 = key := by
    have known : (pending.complete key result).1.isSome = pending.contains key := by
      rw [complete, contains]
      cases pending.waiting.lookup key with
      | none => simp
      | some waiting => simp
    rw [known, Bool.eq_iff_iff, contains_iff, List.any_eq_true]
    constructor
    · rintro ⟨waiting, waits⟩
      exact ⟨(key, waiting), waits, by simp⟩
    · rintro ⟨⟨waitingKey, waiting⟩, waits, same⟩
      obtain rfl : waitingKey = key := by simpa using same
      exact ⟨waiting, waits⟩
  simp [perform, ← ends, listed, told]

/-- What an operation does, whatever it is: it turns a call away or lets it wait, it ends the
waiting calls whose keys it concerns, and it leaves the others alone. -/
theorem ended_perform {pending : Pending κ} (distinct : (pending.waiting.map Prod.fst).Nodup)
    (ticket : Ticket) (operation : Operation κ ρ) :
    (pending.perform ticket operation).1.ended =
      operation.refused pending ticket ++ pending.endedBy operation := by
  have idle (operation : Operation κ ρ) (spares : ∀ key, operation.endingOf? key = none) :
      pending.endedBy operation = [] := by
    simp [endedBy, spares]
  cases operation with
  | insert key =>
      rw [idle (.insert key) (by simp [Operation.endingOf?])]
      by_cases occupied : pending.contains key = true
      · simp [perform, insert, Operation.refused, occupied]
      · simp [perform, insert, Operation.refused, occupied]
  | complete key result =>
      simp [perform, Operation.refused, endedBy_complete distinct]
  | contains key =>
      rw [idle (.contains key) (by simp [Operation.endingOf?])]
      simp [perform, Operation.refused]
  | failWhere doomed error =>
      simp only [perform, failWhere, Operation.refused, endedBy, Operation.endingOf?,
        List.nil_append]
      induction pending.waiting with
      | nil => simp
      | cons first rest inductionHypothesis =>
          by_cases hit : doomed first.1 = true
          · simp [hit, inductionHypothesis]
          · simp [hit, inductionHypothesis]

theorem waiting_perform (pending : Pending κ) (ticket : Ticket) (operation : Operation κ ρ) :
    (pending.perform ticket operation).2.waiting =
      (pending.waiting.filter fun entry => (operation.endingOf? entry.1).isNone) ++
        operation.admitted pending ticket := by
  cases operation with
  | insert key =>
      by_cases occupied : pending.contains key = true
      · simp [perform, insert, Operation.admitted, Operation.endingOf?, occupied]
      · simp [perform, insert, Operation.admitted, Operation.endingOf?, occupied]
  | complete key result =>
      have others :
          (pending.waiting.filter fun entry =>
            ((Operation.complete key result).endingOf? entry.1).isNone) =
          pending.waiting.filter fun entry => entry.1 ≠ key := by
        apply List.filter_congr
        intro entry listed
        by_cases same : key = entry.1
        · simp [Operation.endingOf?, same]
        · simp [Operation.endingOf?, same, eq_comm]
      rw [others]
      simp only [perform, complete, Operation.admitted, List.append_nil]
      cases found : pending.waiting.lookup key with
      | none =>
          have absent := not_mem_keys_of_lookup found
          symm
          rw [List.filter_eq_self]
          intro entry listed
          have other : entry.1 ≠ key := by
            intro same
            exact absent (same ▸ List.mem_map_of_mem listed)
          simpa using other
      | some waiting => simp
  | contains key =>
      simp [perform, Operation.admitted, Operation.endingOf?]
  | failWhere doomed error =>
      simp only [perform, failWhere, Operation.admitted, List.append_nil]
      apply List.filter_congr
      intro entry listed
      by_cases hit : doomed entry.1 = true
      · simp [Operation.endingOf?, hit]
      · simp [Operation.endingOf?, hit]

/-! ## One ticket -/

theorem endedBy_of_absent {pending : Pending κ} {ticket : Ticket}
    (absent : ticket ∉ pending.waiting.map Prod.snd) (operation : Operation κ ρ) :
    (pending.endedBy operation).filter (fun completion => completion.ticket = ticket) = [] := by
  rw [List.filter_eq_nil_iff]
  intro completion listed
  obtain ⟨entry, waits, ends⟩ := List.mem_filterMap.1 listed
  obtain ⟨result, -, rfl⟩ := Option.map_eq_some_iff.1 ends
  have other : entry.2 ≠ ticket := by
    intro same
    exact absent (same ▸ List.mem_map_of_mem waits)
  simpa using other

/-- Where tickets are distinct, an operation ends a waiting call once, if it concerns its key. -/
theorem endedBy_of_waiting {pending : Pending κ}
    (distinct : (pending.waiting.map Prod.snd).Nodup) {key : κ} {ticket : Ticket}
    (waits : (key, ticket) ∈ pending.waiting) (operation : Operation κ ρ) :
    (pending.endedBy operation).filter (fun completion => completion.ticket = ticket) =
      (operation.endingOf? key).toList.map (⟨ticket, ·⟩) := by
  obtain ⟨entries⟩ := pending
  induction entries with
  | nil => cases waits
  | cons first rest inductionHypothesis =>
      obtain ⟨fresh, later⟩ := List.nodup_cons.1 distinct
      have skipped (entry : κ × Ticket) :
          endedBy ⟨entry :: rest⟩ operation =
            (operation.endingOf? entry.1).toList.map (⟨entry.2, ·⟩) ++
              endedBy ⟨rest⟩ operation := by
        simp only [endedBy, List.filterMap_cons]
        cases operation.endingOf? entry.1 with
        | none => simp
        | some result => simp
      rw [skipped, List.filter_append]
      rcases List.mem_cons.1 waits with rfl | waitsLater
      · have absent : ticket ∉ (⟨rest⟩ : Pending κ).waiting.map Prod.snd := by
          simpa using fresh
        rw [endedBy_of_absent absent]
        cases operation.endingOf? key with
        | none => simp
        | some result => simp
      · have other : first.2 ≠ ticket := by
          intro same
          exact fresh (same ▸ List.mem_map_of_mem waitsLater)
        rw [inductionHypothesis later waitsLater]
        cases operation.endingOf? first.1 with
        | none => simp
        | some result => simp [other]

/-! ## Histories -/

/-- Waiting calls with a record of the calls that have ended, each with the number of the
operation that ended it.  The ticket of a call is the number of the operation that inserted it. -/
structure Diary (κ ρ : Type) where
  pending : Pending κ := {}
  /-- How many operations there were. -/
  time : Nat := 0
  ended : List (Nat × Completion ρ) := []

namespace Diary

def perform (diary : Diary κ ρ) (operation : Operation κ ρ) : Diary κ ρ :=
  let (outcome, pending) := diary.pending.perform diary.time operation
  { pending
    time := diary.time + 1
    ended := diary.ended ++ outcome.ended.map fun completion => (diary.time, completion) }

@[simp]
theorem time_perform (diary : Diary κ ρ) (operation : Operation κ ρ) :
    (diary.perform operation).time = diary.time + 1 := rfl

def run (diary : Diary κ ρ) (operations : List (Operation κ ρ)) : Diary κ ρ :=
  operations.foldl perform diary

/-- What there is after some operations, starting with nothing. -/
def after (operations : List (Operation κ ρ)) : Diary κ ρ := run {} operations

/-- When and how the call with a ticket ended. -/
def endingsOf (diary : Diary κ ρ) (ticket : Ticket) : List (Nat × Except SharingError ρ) :=
  (diary.ended.filter fun entry => entry.2.ticket = ticket).map fun entry =>
    (entry.1, entry.2.result)

/-- No two calls wait under one key or with one ticket, and tickets are numbers of earlier
operations. -/
structure Orderly (diary : Diary κ ρ) : Prop where
  keys : (diary.pending.waiting.map Prod.fst).Nodup
  tickets : (diary.pending.waiting.map Prod.snd).Nodup
  inserted : ∀ entry ∈ diary.pending.waiting, entry.2 < diary.time
  past : ∀ entry ∈ diary.ended, entry.2.ticket < diary.time

theorem endingsOf_perform (diary : Diary κ ρ) (operation : Operation κ ρ) (ticket : Ticket) :
    (diary.perform operation).endingsOf ticket =
      diary.endingsOf ticket ++
        ((diary.pending.perform diary.time operation).1.ended.filter
          fun completion => completion.ticket = ticket).map
            fun completion => (diary.time, completion.result) := by
  simp [perform, endingsOf, List.filter_map, Function.comp_def]

theorem refused_of_ne {pending : Pending κ} {ticket time : Ticket} (other : time ≠ ticket)
    (operation : Operation κ ρ) :
    (operation.refused pending time).filter (fun completion => completion.ticket = ticket) =
      [] := by
  rw [List.filter_eq_nil_iff]
  intro completion listed
  obtain ⟨key, -, -, rfl⟩ := Operation.mem_refused.1 listed
  simpa using other

/-- An operation ends the call that it turns away, and calls that wait. -/
theorem mem_ended_perform {pending : Pending κ} (distinct : (pending.waiting.map Prod.fst).Nodup)
    {time : Ticket} {operation : Operation κ ρ} {completion : Completion ρ}
    (ends : completion ∈ (pending.perform time operation).1.ended) :
    (∃ key, operation = .insert key) ∧ completion.ticket = time ∨
      ∃ key, (key, completion.ticket) ∈ pending.waiting := by
  rw [ended_perform distinct, List.mem_append] at ends
  rcases ends with turned | ended
  · obtain ⟨key, rfl, -, rfl⟩ := Operation.mem_refused.1 turned
    exact Or.inl ⟨⟨key, rfl⟩, rfl⟩
  · obtain ⟨entry, waits, ends⟩ := List.mem_filterMap.1 ended
    obtain ⟨result, -, rfl⟩ := Option.map_eq_some_iff.1 ends
    exact Or.inr ⟨entry.1, waits⟩

/-- What waits after an operation has waited before, or was inserted with the operation. -/
theorem mem_waiting_perform {diary : Diary κ ρ} {operation : Operation κ ρ} {entry : κ × Ticket}
    (waits : entry ∈ (diary.perform operation).pending.waiting) :
    (entry ∈ diary.pending.waiting ∧ operation.endingOf? entry.1 = none) ∨
      (operation = .insert entry.1 ∧ entry.2 = diary.time) := by
  rw [perform, waiting_perform, List.mem_append, List.mem_filter] at waits
  rcases waits with ⟨waited, spared⟩ | admitted
  · exact Or.inl ⟨waited, by simpa using spared⟩
  · rcases operation.admitted_eq diary.pending diary.time with none_new | ⟨key, rfl, -, new⟩
    · simp [none_new] at admitted
    · rw [new, List.mem_singleton] at admitted
      simp [admitted]

/-- The first of some operations that concerns a key, and how it ends the call that waits
there.  The first operation has the given number. -/
def firstEnding (key : κ) (time : Nat) :
    List (Operation κ ρ) → Option (Nat × Except SharingError ρ)
  | [] => none
  | operation :: later =>
      match operation.endingOf? key with
      | some result => some (time, result)
      | none => firstEnding key (time + 1) later

namespace Orderly

variable {diary : Diary κ ρ} {key : κ} {ticket : Ticket}

theorem perform (orderly : diary.Orderly) (operation : Operation κ ρ) :
    (diary.perform operation).Orderly := by
  have waiting := diary.pending.waiting_perform diary.time operation
  have kept := List.filter_sublist (l := diary.pending.waiting)
    (p := fun entry => (operation.endingOf? entry.1).isNone)
  have keys := (kept.map Prod.fst).nodup orderly.keys
  have tickets := (kept.map Prod.snd).nodup orderly.tickets
  refine ⟨?_, ?_, ?_, ?_⟩
  · rw [Diary.perform, waiting]
    rcases operation.admitted_eq diary.pending diary.time with none_new | ⟨key, -, free, new⟩
    · simpa [none_new] using keys
    · have fresh := mt ((kept.map Prod.fst).subset ·) (not_mem_keys free)
      rw [new, List.map_append, List.map_singleton, List.nodup_append_comm]
      exact List.nodup_cons.2 ⟨fresh, keys⟩
  · rw [Diary.perform, waiting]
    rcases operation.admitted_eq diary.pending diary.time with none_new | ⟨key, -, -, new⟩
    · simpa [none_new] using tickets
    · have fresh : diary.time ∉ diary.pending.waiting.map Prod.snd := by
        intro listed
        obtain ⟨entry, waits, same⟩ := List.mem_map.1 listed
        exact Nat.ne_of_lt (orderly.inserted entry waits) same
      rw [new, List.map_append, List.map_singleton, List.nodup_append_comm]
      exact List.nodup_cons.2 ⟨mt ((kept.map Prod.snd).subset ·) fresh, tickets⟩
  · intro entry waits
    rcases mem_waiting_perform waits with ⟨waited, -⟩ | ⟨-, new⟩
    · exact Nat.lt_succ_of_lt (orderly.inserted entry waited)
    · exact Nat.lt_succ_of_le (Nat.le_of_eq new)
  · intro entry listed
    rcases List.mem_append.1 listed with earlier | now
    · exact Nat.lt_succ_of_lt (orderly.past entry earlier)
    · obtain ⟨completion, ends, rfl⟩ := List.mem_map.1 now
      rcases mem_ended_perform orderly.keys ends with ⟨-, new⟩ | ⟨key, waited⟩
      · exact Nat.lt_succ_of_le (Nat.le_of_eq new)
      · exact Nat.lt_succ_of_lt (orderly.inserted _ waited)

/-- A call that waits ends with an operation that concerns its key. -/
theorem endingsOf_waiting (orderly : diary.Orderly)
    (waits : (key, ticket) ∈ diary.pending.waiting) (operation : Operation κ ρ) :
    (diary.perform operation).endingsOf ticket =
      diary.endingsOf ticket ++ (operation.endingOf? key).toList.map (diary.time, ·) := by
  have other : diary.time ≠ ticket := Nat.ne_of_gt (orderly.inserted _ waits)
  rw [endingsOf_perform, ended_perform orderly.keys, List.filter_append, refused_of_ne other,
    endedBy_of_waiting orderly.tickets waits]
  simp

/-- A call that does not wait has ended for good. -/
theorem endingsOf_absent (orderly : diary.Orderly)
    (absent : ticket ∉ diary.pending.waiting.map Prod.snd) (past : ticket < diary.time)
    (operation : Operation κ ρ) :
    (diary.perform operation).endingsOf ticket = diary.endingsOf ticket := by
  have other : diary.time ≠ ticket := Nat.ne_of_gt past
  rw [endingsOf_perform, ended_perform orderly.keys, List.filter_append, refused_of_ne other,
    endedBy_of_absent absent]
  simp

theorem absent_perform (absent : ticket ∉ diary.pending.waiting.map Prod.snd)
    (past : ticket < diary.time) (operation : Operation κ ρ) :
    ticket ∉ (diary.perform operation).pending.waiting.map Prod.snd := by
  intro listed
  obtain ⟨entry, waits, rfl⟩ := List.mem_map.1 listed
  rcases mem_waiting_perform waits with ⟨waited, -⟩ | ⟨-, new⟩
  · exact absent (List.mem_map_of_mem waited)
  · exact Nat.ne_of_lt past new

theorem waits_perform (waits : (key, ticket) ∈ diary.pending.waiting)
    {operation : Operation κ ρ} (spared : operation.endingOf? key = none) :
    (key, ticket) ∈ (diary.perform operation).pending.waiting := by
  rw [Diary.perform, waiting_perform]
  apply List.mem_append_left
  exact List.mem_filter.2 ⟨waits, by simpa using spared⟩

/-- A call that an operation has ended does not wait any more. -/
theorem absent_of_ends (orderly : diary.Orderly)
    (waits : (key, ticket) ∈ diary.pending.waiting) {operation : Operation κ ρ}
    {result : Except SharingError ρ} (ends : operation.endingOf? key = some result) :
    ticket ∉ (diary.perform operation).pending.waiting.map Prod.snd := by
  intro listed
  obtain ⟨entry, waitsStill, rfl⟩ := List.mem_map.1 listed
  rcases mem_waiting_perform waitsStill with ⟨waited, spared⟩ | ⟨-, new⟩
  · have same := List.inj_on_of_nodup_map orderly.tickets waited waits rfl
    rw [same, ends] at spared
    cases spared
  · exact Nat.ne_of_lt (orderly.inserted _ waits) new

theorem run (orderly : diary.Orderly) (operations : List (Operation κ ρ)) :
    (diary.run operations).Orderly := by
  induction operations generalizing diary with
  | nil => exact orderly
  | cons operation later inductionHypothesis =>
      exact inductionHypothesis (orderly.perform operation)

theorem endingsOf_run_absent (orderly : diary.Orderly)
    (absent : ticket ∉ diary.pending.waiting.map Prod.snd) (past : ticket < diary.time)
    (operations : List (Operation κ ρ)) :
    (diary.run operations).endingsOf ticket = diary.endingsOf ticket := by
  induction operations generalizing diary with
  | nil => simp [Diary.run]
  | cons operation later inductionHypothesis =>
      have settled := inductionHypothesis (orderly.perform operation)
        (absent_perform absent past operation) (Nat.lt_succ_of_lt past)
      rw [orderly.endingsOf_absent absent past] at settled
      exact settled

/-- A call waits until the first operation that concerns its key, and ends with it. -/
theorem endingsOf_run_waiting (orderly : diary.Orderly)
    (waits : (key, ticket) ∈ diary.pending.waiting) (operations : List (Operation κ ρ)) :
    (diary.run operations).endingsOf ticket =
      diary.endingsOf ticket ++ (firstEnding key diary.time operations).toList := by
  induction operations generalizing diary with
  | nil => simp [Diary.run, firstEnding]
  | cons operation later inductionHypothesis =>
      have now := orderly.endingsOf_waiting waits operation
      cases ends : operation.endingOf? key with
      | none =>
          have still : (key, ticket) ∈ (diary.perform operation).pending.waiting :=
            waits_perform waits ends
          have settled := inductionHypothesis (orderly.perform operation) still
          rw [now] at settled
          simpa [Diary.run, firstEnding, ends] using settled
      | some result =>
          have past := orderly.inserted _ waits
          have gone := orderly.absent_of_ends waits ends
          have settled := (orderly.perform operation).endingsOf_run_absent gone
            (Nat.lt_succ_of_lt past) later
          rw [now] at settled
          simpa [Diary.run, firstEnding, ends] using settled

theorem waits_run (waits : (key, ticket) ∈ diary.pending.waiting)
    {operations : List (Operation κ ρ)}
    (spared : firstEnding key diary.time operations = none) :
    (key, ticket) ∈ (diary.run operations).pending.waiting := by
  induction operations generalizing diary with
  | nil => exact waits
  | cons operation later inductionHypothesis =>
      cases ends : operation.endingOf? key with
      | none =>
          apply inductionHypothesis (waits_perform waits ends)
          simpa [firstEnding, ends] using spared
      | some result => simp [firstEnding, ends] at spared

end Orderly

/-! ## Every history -/

theorem after_snoc (operations : List (Operation κ ρ)) (operation : Operation κ ρ) :
    after (operations ++ [operation]) = (after operations).perform operation := by
  simp [after, run]

theorem after_append (earlier later : List (Operation κ ρ)) :
    after (earlier ++ later) = (after earlier).run later := by
  simp [after, run]

theorem time_after (operations : List (Operation κ ρ)) :
    (after operations).time = operations.length := by
  induction operations using List.reverseRecOn with
  | nil => simp [after, run]
  | append_singleton operations operation inductionHypothesis =>
      simp [after_snoc, inductionHypothesis]

theorem orderly_after (operations : List (Operation κ ρ)) : (after operations).Orderly := by
  have nothing : ({} : Diary κ ρ).Orderly := ⟨by simp, by simp, by simp, by simp⟩
  exact nothing.run operations

omit [DecidableEq κ] in
/-- A ticket that has not been given out has not ended. -/
theorem endingsOf_future {diary : Diary κ ρ} (orderly : diary.Orderly) {ticket : Ticket}
    (future : diary.time ≤ ticket) : diary.endingsOf ticket = [] := by
  have none_listed :
      diary.ended.filter (fun entry => entry.2.ticket = ticket) = [] := by
    rw [List.filter_eq_nil_iff]
    intro entry listed
    have other : entry.2.ticket ≠ ticket :=
      Nat.ne_of_lt (Nat.lt_of_lt_of_le (orderly.past entry listed) future)
    simpa using other
  simp [endingsOf, none_listed]

/-- How a call ends that is inserted between some operations and others, and when: at once if
its key is occupied, and otherwise with the first later operation that concerns its key. -/
def fate (before : List (Operation κ ρ)) (key : κ) (later : List (Operation κ ρ)) :
    Option (Nat × Except SharingError ρ) :=
  if (after before).pending.contains key then some (before.length, .error .alreadyPending)
  else firstEnding key (before.length + 1) later

theorem endingsOf_perform_insert (diary : Diary κ ρ) (key : κ) :
    (diary.perform (.insert key)).endingsOf diary.time =
      diary.endingsOf diary.time ++
        if diary.pending.contains key then [(diary.time, .error .alreadyPending)] else [] := by
  rw [endingsOf_perform]
  by_cases occupied : diary.pending.contains key = true
  · simp [Pending.perform, insert, occupied]
  · simp [Pending.perform, insert, occupied]

theorem endingsOf_insert (before : List (Operation κ ρ)) (key : κ)
    (later : List (Operation κ ρ)) :
    (after (before ++ .insert key :: later)).endingsOf before.length =
      (fate before key later).toList := by
  have orderly := orderly_after before
  have time := time_after before
  have next := orderly.perform (.insert key)
  have nothing := endingsOf_future orderly (Nat.le_refl (after before).time)
  have now := (after before).endingsOf_perform_insert key
  have split : after (before ++ .insert key :: later) =
      ((after before).perform (.insert key)).run later := by
    simp [after_append, run]
  rw [split, fate, ← time]
  by_cases occupied : (after before).pending.contains key = true
  · have absent :
        (after before).time ∉
          ((after before).perform (.insert key)).pending.waiting.map Prod.snd := by
      intro listed
      obtain ⟨entry, waits, same⟩ := List.mem_map.1 listed
      simp only [perform, Pending.perform, insert, occupied, if_true] at waits
      exact Nat.ne_of_lt (orderly.inserted entry waits) same
    rw [next.endingsOf_run_absent absent (Nat.lt_succ_self _), now, nothing]
    simp [occupied]
  · have waits : (key, (after before).time) ∈
        ((after before).perform (.insert key)).pending.waiting := by
      simp [perform, Pending.perform, insert, occupied]
    rw [next.endingsOf_run_waiting waits, now, nothing]
    simp [occupied]

/-- Until a call ends its key is known. -/
theorem contains_of_fate {before : List (Operation κ ρ)} {key : κ}
    {later : List (Operation κ ρ)} (unended : fate before key later = none) :
    (after (before ++ .insert key :: later)).pending.contains key = true := by
  have time := time_after before
  rw [fate] at unended
  split at unended
  · cases unended
  · next free =>
    have waits : (key, (after before).time) ∈
        ((after before).perform (.insert key)).pending.waiting := by
      simp [perform, Pending.perform, insert, free]
    have spared :
        firstEnding key ((after before).perform (.insert key)).time later = none := by
      simpa [time] using unended
    have still := Orderly.waits_run waits spared
    rw [contains_iff]
    exact ⟨(after before).time, by simpa [after_append, run] using still⟩

/-- The calls that were inserted, each with its ticket. -/
def inserted (operations : List (Operation κ ρ)) : List (κ × Ticket) :=
  operations.zipIdx.flatMap fun entry => entry.1.issued entry.2

/-- The calls that were inserted and have not ended. -/
def outstanding (operations : List (Operation κ ρ)) : List (κ × Ticket) :=
  (inserted operations).filter fun entry => ((after operations).endingsOf entry.2).isEmpty

omit [DecidableEq κ] in
theorem inserted_snoc (operations : List (Operation κ ρ)) (operation : Operation κ ρ) :
    inserted (operations ++ [operation]) =
      inserted operations ++ operation.issued operations.length := by
  simp [inserted, List.zipIdx_append]

/-- Of the call that an operation inserts there is no end exactly if it is let wait. -/
theorem filter_issued {diary : Diary κ ρ} (orderly : diary.Orderly)
    (operation : Operation κ ρ) :
    (operation.issued diary.time).filter (fun entry =>
        ((diary.perform operation).endingsOf entry.2).isEmpty) =
      operation.admitted diary.pending diary.time := by
  cases operation with
  | insert key =>
      have now := diary.endingsOf_perform_insert key
      rw [endingsOf_future orderly (Nat.le_refl _)] at now
      by_cases occupied : diary.pending.contains key = true
      · simp [Operation.issued, Operation.admitted, occupied, now]
      · simp [Operation.issued, Operation.admitted, occupied, now]
  | complete key result => simp [Operation.issued, Operation.admitted]
  | contains key => simp [Operation.issued, Operation.admitted]
  | failWhere doomed error => simp [Operation.issued, Operation.admitted]

/-- A call that has not ended still waits unless an operation concerns its key. -/
theorem isEmpty_endingsOf_perform {diary : Diary κ ρ} (orderly : diary.Orderly)
    {entry : κ × Ticket}
    (waits : (diary.endingsOf entry.2).isEmpty = true → entry ∈ diary.pending.waiting)
    (operation : Operation κ ρ) :
    ((diary.perform operation).endingsOf entry.2).isEmpty =
      ((operation.endingOf? entry.1).isNone && (diary.endingsOf entry.2).isEmpty) := by
  cases ended : diary.endingsOf entry.2 with
  | nil =>
      rw [orderly.endingsOf_waiting (waits (by simp [ended])), ended]
      cases operation.endingOf? entry.1 with
      | none => simp
      | some result => simp
  | cons ending more =>
      rw [endingsOf_perform, ended]
      simp

/-- The calls that wait are those that were inserted and have not ended, the oldest first. -/
theorem waiting_after (operations : List (Operation κ ρ)) :
    (after operations).pending.waiting = outstanding operations := by
  induction operations using List.reverseRecOn with
  | nil => simp [after, run, outstanding, inserted]
  | append_singleton operations operation inductionHypothesis =>
      have orderly := orderly_after operations
      have older :
          (inserted operations).filter (fun entry =>
              (((after operations).perform operation).endingsOf entry.2).isEmpty) =
            (outstanding operations).filter fun entry =>
              (operation.endingOf? entry.1).isNone := by
        rw [outstanding, List.filter_filter]
        apply List.filter_congr
        intro entry listed
        apply isEmpty_endingsOf_perform orderly
        intro unended
        rw [inductionHypothesis]
        exact List.mem_filter.2 ⟨listed, unended⟩
      have newer := filter_issued orderly operation
      rw [time_after] at newer
      rw [outstanding, inserted_snoc, after_snoc, List.filter_append, older, newer, perform,
        waiting_perform, inductionHypothesis, time_after]

/-- Only calls that were inserted end. -/
theorem inserted_of_ended (operations : List (Operation κ ρ)) :
    ∀ entry ∈ (after operations).ended, ∃ key, (key, entry.2.ticket) ∈ inserted operations := by
  induction operations using List.reverseRecOn with
  | nil => simp [after, run]
  | append_singleton operations operation inductionHypothesis =>
      have orderly := orderly_after operations
      intro entry listed
      rw [inserted_snoc]
      rw [after_snoc] at listed
      rcases List.mem_append.1 listed with earlier | now
      · obtain ⟨key, known⟩ := inductionHypothesis entry earlier
        exact ⟨key, List.mem_append_left _ known⟩
      · obtain ⟨completion, ends, rfl⟩ := List.mem_map.1 now
        rcases mem_ended_perform orderly.keys ends with ⟨⟨key, rfl⟩, new⟩ | ⟨key, waits⟩
        · exact ⟨key, by simp [Operation.issued, new, time_after]⟩
        · rw [waiting_after] at waits
          exact ⟨key, List.mem_append_left _ (List.mem_filter.1 waits).1⟩

/-- Whatever is done with waiting calls, a call that is inserted ends at most once, and never
before: at once, with the refusal, exactly if another call waits under its key, and otherwise
with the first operation that concerns its key, with what this operation brings.  Until then
its key is known.  An answer says whether it ended a call, a failure says how many it ended,
and as many calls wait as were inserted and have not ended. -/
theorem insertions_end_once (operations : List (Operation κ ρ)) :
    (∀ (before : List (Operation κ ρ)) (key : κ) (later : List (Operation κ ρ)),
      operations = before ++ .insert key :: later →
        (after operations).endingsOf before.length = (fate before key later).toList ∧
          (fate before key later = none →
            (after operations).pending.contains key = true)) ∧
    (∀ entry ∈ (after operations).ended,
      ∃ key, (key, entry.2.ticket) ∈ inserted operations) ∧
    (∀ key : κ, (after operations).pending.contains key = true ↔
      ∃ ticket, (key, ticket) ∈ outstanding operations) ∧
    (after operations).pending.size = (outstanding operations).length ∧
    (∀ (key : κ) (result : Except SharingError ρ),
      ((after operations).pending.perform operations.length (.complete key result)).1 =
        { ended := ((outstanding operations).filter fun entry => entry.1 = key).map fun entry =>
            ⟨entry.2, result⟩
          answer := .found ((outstanding operations).any fun entry => entry.1 = key) }) ∧
    (∀ (doomed : κ → Bool) (error : SharingError),
      ((after operations).pending.perform operations.length (.failWhere doomed error)).1 =
        { ended := ((outstanding operations).filter fun entry => doomed entry.1).map fun entry =>
            (⟨entry.2, .error error⟩ : Completion ρ)
          answer := .count ((outstanding operations).filter fun entry =>
            doomed entry.1).length }) := by
  have orderly := orderly_after operations
  have waiting := waiting_after operations
  refine ⟨?_, inserted_of_ended operations, ?_, ?_, ?_, ?_⟩
  · rintro before key later rfl
    exact ⟨endingsOf_insert before key later, contains_of_fate⟩
  · intro key
    rw [contains_iff, waiting]
  · rw [size, waiting]
  · intro key result
    rw [← waiting]
    exact perform_complete orderly.keys operations.length key result
  · intro doomed error
    simp [Pending.perform, failWhere, waiting]

/-- A key is used again and again: the second call comes too early, the first one is answered,
and the third one fails with all others. -/
def reused : List (Operation Nat Nat) :=
  [.insert 5, .insert 5, .complete 5 (.ok 7), .insert 5, .complete 6 (.ok 8),
    .failWhere (fun _ => true) .disconnected]

theorem insertions_end_once_reused :
    (after reused).endingsOf 0 = [(2, .ok 7)] ∧
      (after reused).endingsOf 1 = [(1, .error .alreadyPending)] ∧
      (after reused).endingsOf 3 = [(5, .error .disconnected)] ∧
      (after reused).pending.size = (outstanding reused).length := by
  obtain ⟨ends, -, -, size, -⟩ := insertions_end_once reused
  have first := (ends [] 5 _ rfl).1
  have second := (ends [.insert 5] 5 _ rfl).1
  have third := (ends [.insert 5, .insert 5, .complete 5 (.ok 7)] 5 _ rfl).1
  exact ⟨first, second, third, size⟩

end Diary

end InputSharing.Pending
