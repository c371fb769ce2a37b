import InputSharing.Pending
import Mathlib.Data.List.Nodup
import Mathlib.Data.List.Perm.Basic

/-!
# Waiting calls and their tickets

No operation on waiting calls loses a ticket: a ticket that no longer waits is the
ticket of a completion.
-/

namespace InputSharing.Pending

variable {κ ρ : Type}

/-- The tickets of the calls that wait. -/
def tickets (pending : Pending κ) : List Ticket := pending.waiting.map Prod.snd

theorem tickets_failWhere (pending : Pending κ) (doomed : κ → Bool) (error : SharingError) :
    let failed : List (Completion ρ) × Pending κ := pending.failWhere doomed error
    (failed.1.map Completion.ticket ++ failed.2.tickets).Perm pending.tickets := by
  intro failed
  have split := List.filter_append_perm (fun entry => doomed entry.1) pending.waiting
  have tickets := split.map Prod.snd
  rw [List.map_append] at tickets
  change (List.map _ (List.map _ _) ++ _).Perm _
  rw [List.map_map]
  exact tickets

variable [DecidableEq κ]

theorem mem_of_lookup {entries : List (κ × Ticket)} {key : κ} {ticket : Ticket}
    (found : entries.lookup key = some ticket) : (key, ticket) ∈ entries := by
  induction entries with
  | nil =>
      cases found
  | cons first rest inductionHypothesis =>
      rw [List.lookup_cons] at found
      by_cases same : key = first.1
      · rw [beq_iff_eq.2 same] at found
        rw [← Option.some.inj found, same]
        exact List.mem_cons_self
      · rw [beq_eq_false_iff_ne.2 same] at found
        exact List.mem_cons_of_mem first (inductionHypothesis found)

theorem not_mem_keys_of_lookup {entries : List (κ × Ticket)} {key : κ}
    (absent : entries.lookup key = none) : key ∉ entries.map Prod.fst := by
  intro listed
  obtain ⟨entry, member, same⟩ := List.mem_map.1 listed
  have different := List.lookup_eq_none_iff.1 absent entry member
  rw [same] at different
  simp at different

theorem not_mem_keys {pending : Pending κ} {key : κ} (new : pending.contains key = false) :
    key ∉ pending.waiting.map Prod.fst := by
  apply not_mem_keys_of_lookup
  rw [contains, Option.isSome_eq_false_iff] at new
  exact Option.isNone_iff_eq_none.1 new

/-- When keys are distinct, what waits under one of them is a single entry. -/
theorem perm_of_key {entries : List (κ × Ticket)} {key : κ} {ticket : Ticket}
    (distinct : (entries.map Prod.fst).Nodup) (listed : (key, ticket) ∈ entries) :
    entries.Perm ((key, ticket) :: entries.filter fun entry => entry.1 ≠ key) := by
  induction entries with
  | nil =>
      cases listed
  | cons first rest inductionHypothesis =>
      rw [List.map_cons, List.nodup_cons] at distinct
      rcases List.mem_cons.1 listed with here | later
      · have others : ∀ entry ∈ rest, decide (entry.1 ≠ key) = true := by
          intro entry member
          apply decide_eq_true
          intro same
          apply distinct.1
          rw [← here]
          change key ∈ _
          rw [← same]
          exact List.mem_map_of_mem member
        rw [← here, List.filter_cons_of_neg (by simp), List.filter_eq_self.2 others]
      · have different : first.1 ≠ key := by
          intro same
          apply distinct.1
          rw [same]
          exact List.mem_map.2 ⟨_, later, rfl⟩
        rw [List.filter_cons_of_pos (by simpa using different)]
        exact ((inductionHypothesis distinct.2 later).cons first).trans
          (List.Perm.swap _ _ _)

theorem eq_of_key {entries : List (κ × Ticket)} {key : κ} {first second : Ticket}
    (distinct : (entries.map Prod.fst).Nodup) (one : (key, first) ∈ entries)
    (other : (key, second) ∈ entries) : first = second := by
  have perm := perm_of_key distinct one
  rcases List.mem_cons.1 (perm.subset other) with same | kept
  · exact (congrArg Prod.snd same).symm
  · have different := (List.mem_filter.1 kept).2
    simp at different

end InputSharing.Pending
