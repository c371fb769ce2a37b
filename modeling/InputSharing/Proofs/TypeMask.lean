import InputSharing.Identity
import InputSharing.Proofs.Table
import InputSharing.TypeMask

/-!
# Masks as sets of classes

A device class is told by its place among the bits of a mask.  Masks are the same
when they have the same classes, and the operations on masks are those on sets.
-/

namespace InputSharing.TypeMask

/-- A mask has the class at a place. -/
instance : Membership Nat TypeMask where
  mem mask place := mask.bits.toBitVec.getLsbD place = true

instance (mask : TypeMask) (place : Nat) : Decidable (place ∈ mask) :=
  inferInstanceAs (Decidable (mask.bits.toBitVec.getLsbD place = true))

variable {first second : TypeMask} {place : Nat}

theorem mem_def : place ∈ first ↔ first.bits.toBitVec.getLsbD place = true := Iff.rfl

theorem ext (same : ∀ place, place ∈ first ↔ place ∈ second) : first = second := by
  have bits : first.bits = second.bits := by
    apply UInt32.toBitVec_inj.1
    apply BitVec.eq_of_getLsbD_eq
    intro place _
    rw [Bool.eq_iff_iff]
    exact same place
  cases first
  cases second
  exact congrArg TypeMask.mk bits

/-! ## Operations -/

theorem not_mem_empty : place ∉ (∅ : TypeMask) := by
  change ¬(0#32).getLsbD place = true
  simp

theorem mem_union : place ∈ first ∪ second ↔ place ∈ first ∨ place ∈ second := by
  change (first.bits.toBitVec ||| second.bits.toBitVec).getLsbD place = true ↔ _
  rw [BitVec.getLsbD_or, Bool.or_eq_true]
  rfl

theorem mem_inter : place ∈ first ∩ second ↔ place ∈ first ∧ place ∈ second := by
  change (first.bits.toBitVec &&& second.bits.toBitVec).getLsbD place = true ↔ _
  rw [BitVec.getLsbD_and, Bool.and_eq_true]
  rfl

theorem mem_sdiff : place ∈ first \ second ↔ place ∈ first ∧ place ∉ second := by
  change (first.bits.toBitVec &&& ~~~second.bits.toBitVec).getLsbD place = true ↔ _
  rw [BitVec.getLsbD_and, Bool.and_eq_true, BitVec.getLsbD_not, mem_def, mem_def]
  constructor
  · intro both
    obtain ⟨held, away⟩ := both
    rw [Bool.and_eq_true, Bool.not_eq_true'] at away
    exact ⟨held, Bool.eq_false_iff.1 away.2⟩
  · intro both
    obtain ⟨held, away⟩ := both
    have inside := BitVec.lt_of_getLsbD held
    rw [Bool.and_eq_true, Bool.not_eq_true', decide_eq_true_iff]
    exact ⟨held, inside, Bool.eq_false_iff.2 away⟩

theorem isEmpty_iff : first.isEmpty = true ↔ ∀ place, place ∉ first := by
  constructor
  · intro empty place
    have bits : first = ∅ := congrArg TypeMask.mk (eq_of_beq empty)
    rw [bits]
    exact not_mem_empty
  · intro none
    have bits : first = ∅ := ext fun place => iff_of_false (none place) not_mem_empty
    rw [bits]
    rfl

theorem contains_iff : first.contains second = true ↔ ∀ place ∈ second, place ∈ first := by
  rw [contains, beq_iff_eq]
  constructor
  · intro same place member
    rw [← same] at member
    exact (mem_inter.1 member).1
  · intro within
    apply ext
    intro place
    rw [mem_inter]
    exact and_iff_right_of_imp (within place)

theorem intersects_iff :
    first.intersects second = true ↔ ∃ place, place ∈ first ∧ place ∈ second := by
  rw [intersects, Bool.not_eq_true', Bool.eq_false_iff, ne_eq, isEmpty_iff, not_forall]
  simp only [not_not, mem_inter]

/-! ## Unions of many masks -/

/-- All the classes that some handles have. -/
def unionOf (shares : Table HandleId TypeMask) : TypeMask :=
  shares.toList.foldl (fun union entry => union ∪ entry.2) ∅

theorem mem_foldl_union {α : Type} (classes : α → TypeMask) (entries : List α)
    (start : TypeMask) :
    place ∈ entries.foldl (fun union entry => union ∪ classes entry) start ↔
      place ∈ start ∨ ∃ entry ∈ entries, place ∈ classes entry := by
  induction entries generalizing start with
  | nil => simp
  | cons entry rest inductionHypothesis =>
      rw [List.foldl_cons, inductionHypothesis, mem_union, List.exists_mem_cons_iff, or_assoc]

theorem mem_unionOf {shares : Table HandleId TypeMask} :
    place ∈ unionOf shares ↔
      ∃ (handle : HandleId) (types : TypeMask), shares[handle]? = some types ∧ place ∈ types := by
  rw [unionOf, mem_foldl_union fun entry : HandleId × TypeMask => entry.2]
  constructor
  · intro given
    obtain ⟨⟨handle, types⟩, listed, member⟩ := given.resolve_left not_mem_empty
    exact ⟨handle, types, Table.mem_toList.1 listed, member⟩
  · intro given
    obtain ⟨handle, types, found, member⟩ := given
    exact Or.inr ⟨(handle, types), Table.mem_toList.2 found, member⟩

end InputSharing.TypeMask
