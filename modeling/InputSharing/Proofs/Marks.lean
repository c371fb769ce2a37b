import InputSharing.Proofs.Tracker
import Mathlib.Data.List.Destutter

/-!
# A tracker and the marks it has seen

The calls of a tracker are a sequence of marks, one handle at a time.  A tracker keeps the
last mark of each handle and tells when it differs from the one before, where a handle
without a mark is local: the states that are told of a handle are its marks without those that
left it as it was.
-/

namespace InputSharing

namespace Change

theorem statesOf_append (handle : HandleId) (first second : List Change) :
    statesOf handle (first ++ second) = statesOf handle first ++ statesOf handle second := by
  simp [statesOf]

theorem statesOf_cons_self (handle : HandleId) (state : SharingState) (changes : List Change) :
    statesOf handle ((state, handle) :: changes) = state :: statesOf handle changes := by
  simp [statesOf]

theorem statesOf_cons_of_ne {handle changed : HandleId} (other : changed ≠ handle)
    (state : SharingState) (changes : List Change) :
    statesOf handle ((state, changed) :: changes) = statesOf handle changes := by
  simp [statesOf, other]

/-- The last mark of a handle. -/
def last? (handle : HandleId) (marks : List Change) : Option SharingState :=
  (statesOf handle marks).getLast?

theorem last?_append (handle : HandleId) (first second : List Change) :
    last? handle (first ++ second) = (last? handle second).or (last? handle first) := by
  simp [last?, statesOf_append, List.getLast?_append]

theorem last?_eq_none_iff {handle : HandleId} {marks : List Change} :
    last? handle marks = none ↔ ∀ mark ∈ marks, mark.2 ≠ handle := by
  simp [last?, statesOf]

/-- What one call marks. -/
theorem last?_map (handle : HandleId) (target : SharingState) (handles : List HandleId) :
    last? handle (handles.map (target, ·)) = if handle ∈ handles then some target else none := by
  induction handles with
  | nil => simp [last?, statesOf]
  | cons first rest inductionHypothesis =>
      rw [List.map_cons, ← List.singleton_append, last?_append, inductionHypothesis]
      by_cases later : handle ∈ rest
      · simp [later]
      · by_cases same : first = handle
        · simp [later, same, last?, statesOf]
        · have other : ¬ handle = first := fun equal => same equal.symm
          simp [later, same, other, last?, statesOf]

end Change

namespace Tracker

/-! ## Several calls -/

/-- One call: all handles of a list get one mark. -/
abbrev Marking : Type := SharingState × List HandleId

/-- Make several calls.  Each of them answers with the handles whose state changed. -/
def markAll (tracker : Tracker) : List Marking → Tracker × List (List HandleId)
  | [] => (tracker, [])
  | marking :: rest =>
      let (marked, changed) := tracker.mark marking.1 marking.2
      let (last, answers) := marked.markAll rest
      (last, changed :: answers)

/-- The marks of some calls, one handle at a time. -/
def marksOf (markings : List Marking) : List Change :=
  markings.flatMap fun marking => marking.2.map (marking.1, ·)

/-- What the answers of some calls tell: these handles have got the mark of the call. -/
def told (markings : List Marking) (answers : List (List HandleId)) : List Change :=
  (markings.zip answers).flatMap fun entry => entry.2.map (entry.1.1, ·)

theorem marks_markAll (tracker : Tracker) (markings : List Marking) (handle : HandleId) :
    (tracker.markAll markings).1.marks[handle]? =
      (Change.last? handle (marksOf markings)).or tracker.marks[handle]? := by
  induction markings generalizing tracker with
  | nil => simp [markAll, marksOf, Change.last?, Change.statesOf]
  | cons marking rest inductionHypothesis =>
      have all : marksOf (marking :: rest) = marking.2.map (marking.1, ·) ++ marksOf rest := by
        simp [marksOf]
      rw [all, Change.last?_append, Change.last?_map, markAll]
      dsimp only
      rw [inductionHypothesis, marks_mark]
      by_cases marked : handle ∈ marking.2
      · simp [marked]
      · simp [marked]

/-- An answer lists marked handles in the order of the call. -/
theorem mark_sublist (tracker : Tracker) (target : SharingState) (handles : List HandleId) :
    (tracker.mark target handles).2.Sublist handles := by
  induction handles generalizing tracker with
  | nil => simp [mark]
  | cons first rest inductionHypothesis =>
      have later := inductionHypothesis (tracker.markOne target first)
      by_cases same : tracker.stateOf first = target
      · simpa [mark, same] using later.cons first
      · simpa [mark, same] using later

theorem answers_sublist (tracker : Tracker) (markings : List Marking) :
    List.Forall₂ (fun marking answer => List.Sublist answer marking.2) markings
      (tracker.markAll markings).2 := by
  induction markings generalizing tracker with
  | nil => simp [markAll]
  | cons marking rest inductionHypothesis =>
      exact .cons (tracker.mark_sublist marking.1 marking.2) (inductionHypothesis _)

/-! ## What is told of one handle -/

/-- The marks of one call, and any marks after them: what is told of a handle is its marks
without those that left it as it was. -/
theorem states_mark {handle : HandleId} {later : Tracker → List Change} {marks : List Change}
    (continued : ∀ tracker : Tracker,
      tracker.stateOf handle :: Change.statesOf handle (later tracker) =
        (Change.statesOf handle marks).destutter' (· ≠ ·) (tracker.stateOf handle))
    (tracker : Tracker) (target : SharingState) (handles : List HandleId) :
    tracker.stateOf handle ::
        Change.statesOf handle ((tracker.mark target handles).2.map (target, ·) ++
          later (tracker.mark target handles).1) =
      (Change.statesOf handle (handles.map (target, ·) ++ marks)).destutter' (· ≠ ·)
        (tracker.stateOf handle) := by
  induction handles generalizing tracker with
  | nil => simpa [mark] using continued tracker
  | cons first rest inductionHypothesis =>
      have after := inductionHypothesis (tracker.markOne target first)
      rw [stateOf_markOne] at after
      by_cases same : first = handle
      · subst same
        rw [if_pos rfl] at after
        by_cases unchanged : tracker.stateOf first = target
        · simp only [mark, unchanged, if_true, List.map_cons, List.cons_append,
            Change.statesOf_cons_self, List.destutter'_cons, ne_eq, not_true_eq_false, if_false]
          exact after
        · simp only [mark, unchanged, if_false, List.map_cons, List.cons_append,
            Change.statesOf_cons_self, List.destutter'_cons, ne_eq, not_false_eq_true, if_true]
          rw [after]
      · rw [if_neg same] at after
        by_cases unchanged : tracker.stateOf first = target
        · simp only [mark, unchanged, if_true, List.map_cons, List.cons_append,
            Change.statesOf_cons_of_ne same]
          exact after
        · simp only [mark, unchanged, if_false, List.map_cons, List.cons_append,
            Change.statesOf_cons_of_ne same]
          exact after

theorem told_cons (marking : Marking) (rest : List Marking) (changed : List HandleId)
    (answers : List (List HandleId)) :
    told (marking :: rest) (changed :: answers) =
      changed.map (marking.1, ·) ++ told rest answers := by
  simp [told]

theorem states_markAll (tracker : Tracker) (markings : List Marking) (handle : HandleId) :
    tracker.stateOf handle ::
        Change.statesOf handle (told markings (tracker.markAll markings).2) =
      (Change.statesOf handle (marksOf markings)).destutter' (· ≠ ·)
        (tracker.stateOf handle) := by
  induction markings generalizing tracker with
  | nil => simp [told, marksOf, Change.statesOf]
  | cons marking rest inductionHypothesis =>
      have all : marksOf (marking :: rest) = marking.2.map (marking.1, ·) ++ marksOf rest := by
        simp [marksOf]
      rw [all, markAll, told_cons]
      exact states_mark inductionHypothesis tracker marking.1 marking.2

/-- The answers list the handles of the changes that are told. -/
theorem map_snd_told (tracker : Tracker) (markings : List Marking) :
    (told markings (tracker.markAll markings).2).map Prod.snd =
      (tracker.markAll markings).2.flatten := by
  induction markings generalizing tracker with
  | nil => simp [told, markAll]
  | cons marking rest inductionHypothesis =>
      rw [markAll, told_cons]
      simp [inductionHypothesis, Function.comp_def]

/-- Shared handles are listed in the strict order of their names. -/
theorem throughOut_pairwise (tracker : Tracker) :
    tracker.throughOut.Pairwise fun first second => compare first second = .lt := by
  have ordered := Std.ExtTreeMap.ordered_keys_toList (t := tracker.marks)
  exact List.Pairwise.map _ (fun _ _ less => less) (ordered.filter _)

/-- Whatever is marked in whatever calls, a tracker knows the last mark of every handle that
was ever marked, and of no other: these handles and marks are its entries, a handle is shared
exactly if its last mark says so, and the list of the shared handles is in strict order and
lists each of them once.  What the calls answer of a handle, each time with the mark of the
call, are the marks of the handle without those that leave it as it was; and no call answers
with anything but handles of its list, in the order of the list. -/
theorem tracker_follows_marks (markings : List Marking) :
    (∀ handle : HandleId, (({} : Tracker).markAll markings).1.stateOf handle = .throughOut ↔
      Change.last? handle (marksOf markings) = some .throughOut) ∧
    (∀ handle : HandleId, (({} : Tracker).markAll markings).1.marks[handle]? =
      Change.last? handle (marksOf markings)) ∧
    (∀ handle : HandleId, handle ∈ (({} : Tracker).markAll markings).1.marks ↔
      ∃ marking ∈ markings, handle ∈ marking.2) ∧
    ((({} : Tracker).markAll markings).1.throughOut.Pairwise fun first second =>
      compare first second = .lt) ∧
    (({} : Tracker).markAll markings).1.throughOut.Nodup ∧
    (∀ handle : HandleId, handle ∈ (({} : Tracker).markAll markings).1.throughOut ↔
      (({} : Tracker).markAll markings).1.stateOf handle = .throughOut) ∧
    (told markings (({} : Tracker).markAll markings).2).map Prod.snd =
      (({} : Tracker).markAll markings).2.flatten ∧
    (∀ handle : HandleId,
      SharingState.throughIn ::
          Change.statesOf handle (told markings (({} : Tracker).markAll markings).2) =
        (SharingState.throughIn :: Change.statesOf handle (marksOf markings)).destutter (· ≠ ·)) ∧
    List.Forall₂ (fun marking answer => List.Sublist answer marking.2) markings
      (({} : Tracker).markAll markings).2 := by
  have entries (handle : HandleId) :
      (({} : Tracker).markAll markings).1.marks[handle]? =
        Change.last? handle (marksOf markings) := by
    rw [marks_markAll]
    simp
  have ordered := throughOut_pairwise (({} : Tracker).markAll markings).1
  refine ⟨?_, entries, ?_, ordered, ?_, ?_, map_snd_told _ markings, ?_, answers_sublist _ markings⟩
  · intro handle
    rw [stateOf, entries]
    cases Change.last? handle (marksOf markings) with
    | none => simp
    | some state => simp
  · intro handle
    rw [Table.mem_iff_exists, entries, ← Option.isSome_iff_exists, ← Option.ne_none_iff_isSome,
      ne_eq, Change.last?_eq_none_iff]
    simp [marksOf]
  · refine ordered.imp ?_
    rintro first second less rfl
    simp at less
  · intro handle
    exact mem_throughOut
  · intro handle
    have told := states_markAll {} markings handle
    simpa [stateOf, List.destutter_cons'] using told

/-- A handle that is listed twice changes once, and a handle that was local all along has a
mark but no change. -/
example :
    (({} : Tracker).markAll
        [(.throughOut, [⟨"b"⟩, ⟨"a"⟩, ⟨"b"⟩]), (.throughIn, [⟨"c"⟩, ⟨"a"⟩])]).2 =
      [[⟨"b"⟩, ⟨"a"⟩], [⟨"a"⟩]] := by
  decide +kernel

end Tracker

end InputSharing
