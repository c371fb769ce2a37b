import InputSharing.Proofs.Table
import InputSharing.Sharing
import Mathlib.Logic.Function.Basic

/-!
# Marks

The state of a handle is its last mark.

A `Change` is a handle that has got another state.  Changes that `Unfold` from some states
never give a handle the state that it has already; replayed over the handles that were
shared, they give those that are shared now.
-/

namespace InputSharing

namespace Tracker

theorem stateOf_markOne
    (tracker : Tracker) (target : SharingState) (marked handle : HandleId) :
    (tracker.markOne target marked).stateOf handle =
      if marked = handle then target else tracker.stateOf handle := by
  by_cases same : marked = handle
  · simp [markOne, stateOf, same]
  · simp [markOne, stateOf, Std.ExtTreeMap.getElem?_insert, same]

/-- Marking a list of handles gives each of them the new mark and leaves the
others alone. -/
theorem marks_mark
    (tracker : Tracker) (target : SharingState) (handles : List HandleId)
    (handle : HandleId) :
    (tracker.mark target handles).1.marks[handle]? =
      if handle ∈ handles then some target else tracker.marks[handle]? := by
  induction handles generalizing tracker with
  | nil =>
      simp [mark]
  | cons first rest inductionHypothesis =>
      have split :
          (tracker.mark target (first :: rest)).1 =
            ((tracker.markOne target first).mark target rest).1 := by
        simp only [mark]
        split <;> rfl
      rw [split, inductionHypothesis, markOne, Table.getElem?_insert_eq]
      by_cases later : handle ∈ rest
      · simp [later]
      · simp [later, eq_comm]

theorem stateOf_mark
    (tracker : Tracker) (target : SharingState) (handles : List HandleId)
    (handle : HandleId) :
    (tracker.mark target handles).1.stateOf handle =
      if handle ∈ handles then target else tracker.stateOf handle := by
  rw [stateOf, marks_mark]
  split
  · rfl
  · rfl

/-- Of different handles, those are told whose state was another one. -/
theorem changed_mark
    (tracker : Tracker) (target : SharingState) {handles : List HandleId}
    (different : handles.Nodup) :
    (tracker.mark target handles).2 =
      handles.filter fun handle => tracker.stateOf handle ≠ target := by
  induction handles generalizing tracker with
  | nil =>
      simp [mark]
  | cons first rest inductionHypothesis =>
      obtain ⟨fresh, later⟩ := List.nodup_cons.1 different
      have changed :
          ((tracker.markOne target first).mark target rest).2 =
            rest.filter fun handle => tracker.stateOf handle ≠ target := by
        rw [inductionHypothesis _ later]
        apply List.filter_congr
        intro handle listed
        have other : first ≠ handle := fun same => fresh (same ▸ listed)
        rw [stateOf_markOne, if_neg other]
      by_cases same : tracker.stateOf first = target
      · simp [mark, changed, same]
      · simp [mark, changed, same]

theorem mem_throughOut {tracker : Tracker} {handle : HandleId} :
    handle ∈ tracker.throughOut ↔ tracker.stateOf handle = .throughOut := by
  rw [throughOut, List.mem_map, stateOf]
  constructor
  · rintro ⟨⟨listed, state⟩, kept, rfl⟩
    obtain ⟨entry, out⟩ := List.mem_filter.1 kept
    rw [Table.mem_toList.1 entry]
    simpa using out
  · intro out
    cases found : tracker.marks[handle]? with
    | none =>
        rw [found] at out
        cases out
    | some state =>
        rw [found] at out
        refine ⟨(handle, state), List.mem_filter.2 ⟨Table.mem_toList.2 found, ?_⟩, rfl⟩
        simpa using out

end Tracker

/-! ## Changes -/

/-- A handle gets a state. -/
abbrev Change : Type := SharingState × HandleId

namespace Change

/-- What a change makes of the set of shared handles. -/
def apply (shared : HandleSet) : Change → HandleSet
  | (.throughOut, handle) => shared.insert handle
  | (.throughIn, handle) => shared.erase handle

/-- What is shared after some changes. -/
def replay (shared : HandleSet) (changes : List Change) : HandleSet := changes.foldl apply shared

/-- The states that a handle gets. -/
def statesOf (handle : HandleId) (changes : List Change) : List SharingState :=
  (changes.filter fun change => change.2 = handle).map Prod.fst

theorem mem_apply {shared : HandleSet} {change : Change} {handle : HandleId} :
    handle ∈ apply shared change ↔
      if change.2 = handle then change.1 = .throughOut else handle ∈ shared := by
  obtain ⟨state, changed⟩ := change
  cases state with
  | throughOut => by_cases same : changed = handle <;> simp [apply, same]
  | throughIn => by_cases same : changed = handle <;> simp [apply, same]

end Change

/-- Changes lead from some states to others, and each of them changes something. -/
inductive Unfolds : (HandleId → SharingState) → List Change → (HandleId → SharingState) → Prop
  | nil {states : HandleId → SharingState} : Unfolds states [] states
  | cons {states last : HandleId → SharingState} {state : SharingState} {handle : HandleId}
      {changes : List Change} :
      states handle ≠ state → Unfolds (Function.update states handle state) changes last →
      Unfolds states ((state, handle) :: changes) last

namespace Unfolds

variable {first middle last : HandleId → SharingState} {changes more : List Change}

theorem append (earlier : Unfolds first changes middle) (later : Unfolds middle more last) :
    Unfolds first (changes ++ more) last := by
  induction earlier with
  | nil => exact later
  | cons different _ inductionHypothesis => exact .cons different (inductionHypothesis later)

theorem mem_replay (unfolds : Unfolds first changes last) {shared : HandleSet}
    (current : ∀ handle, handle ∈ shared ↔ first handle = .throughOut) (handle : HandleId) :
    handle ∈ Change.replay shared changes ↔ last handle = .throughOut := by
  induction unfolds generalizing shared with
  | nil => exact current handle
  | @cons states last state changed changes different _ inductionHypothesis =>
      apply inductionHypothesis
      intro tested
      rw [Change.mem_apply, Function.update_apply]
      by_cases same : tested = changed
      · simp [same]
      · have other : changed ≠ tested := fun equal => same equal.symm
        simp [same, other, current]

/-- The states of a handle alternate. -/
theorem isChain (unfolds : Unfolds first changes last) (handle : HandleId) :
    List.IsChain (fun earlier later => earlier ≠ later)
      (first handle :: Change.statesOf handle changes) := by
  induction unfolds with
  | nil => exact List.IsChain.singleton _
  | @cons states last state changed changes different _ inductionHypothesis =>
      rw [Function.update_apply] at inductionHypothesis
      by_cases same : handle = changed
      · subst same
        rw [if_pos rfl] at inductionHypothesis
        have listed :
            Change.statesOf handle ((state, handle) :: changes) =
              state :: Change.statesOf handle changes := by
          simp [Change.statesOf]
        rw [listed]
        exact List.isChain_cons_cons.2 ⟨different, inductionHypothesis⟩
      · rw [if_neg same] at inductionHypothesis
        have other : changed ≠ handle := fun equal => same equal.symm
        have skipped :
            Change.statesOf handle ((state, changed) :: changes) =
              Change.statesOf handle changes := by
          simp [Change.statesOf, other]
        rw [skipped]
        exact inductionHypothesis

end Unfolds

/-- Exactly the changes of a list of marks are told, in their order. -/
theorem Tracker.unfolds_mark (tracker : Tracker) (target : SharingState)
    (handles : List HandleId) :
    Unfolds tracker.stateOf ((tracker.mark target handles).2.map fun handle => (target, handle))
      (tracker.mark target handles).1.stateOf := by
  induction handles generalizing tracker with
  | nil => exact .nil
  | cons first rest inductionHypothesis =>
      have marked :
          (tracker.markOne target first).stateOf =
            Function.update tracker.stateOf first target := by
        funext handle
        rw [stateOf_markOne, Function.update_apply]
        simp only [eq_comm]
      have later := inductionHypothesis (tracker.markOne target first)
      rw [marked] at later
      by_cases same : tracker.stateOf first = target
      · rw [← same, Function.update_eq_self] at later
        simpa [mark, same] using later
      · simpa [mark, same] using Unfolds.cons same later

end InputSharing
