import InputSharing.Digits
import Mathlib.Data.Nat.Basic

/-!
# Digits and their characters

A character is a digit if it stands for a number of the base.  In base ten the digits
of a written number are read back, whatever follows them, as long as it does not begin
with another digit.
-/

namespace InputSharing.Digits

/-- A character is a digit if it stands for a number below sixteen, as a small letter or as
a capital one. -/
theorem value?_eq_some_iff {char : Char} {value : Nat} :
    value? char = some value ↔
      value < 16 ∧ (char = Nat.digitChar value ∨ char = (Nat.digitChar value).toUpper) := by
  constructor
  · intro read
    have known : char.toNat < 103 := by
      rw [value?] at read
      split_ifs at read with decimal small capital
      · exact Nat.lt_of_le_of_lt (m := 57) decimal.2 (by decide)
      · exact Nat.lt_of_le_of_lt (m := 102) small.2 (by decide)
      · exact Nat.lt_of_le_of_lt (m := 70) capital.2 (by decide)
    have all : ∀ code < 103, ∀ value ∈ value? (Char.ofNat code), value < 16 ∧
        (Char.ofNat code = Nat.digitChar value ∨
          Char.ofNat code = (Nat.digitChar value).toUpper) := by
      decide
    have found := all char.toNat known value
    rw [Char.ofNat_toNat] at found
    exact found read
  · rintro ⟨small, rfl | rfl⟩
    · have all : ∀ tested < 16, value? (Nat.digitChar tested) = some tested := by decide
      exact all value small
    · have all : ∀ tested < 16, value? (Nat.digitChar tested).toUpper = some tested := by decide
      exact all value small

theorem below?_sixteen_eq_some_iff {char : Char} {value : Nat} :
    below? 16 char = some value ↔
      value < 16 ∧ (char = Nat.digitChar value ∨ char = (Nat.digitChar value).toUpper) := by
  rw [below?, Option.filter_eq_some_iff, value?_eq_some_iff, decide_eq_true_eq]
  exact and_iff_left_of_imp And.left

theorem below?_ten_eq_some_iff {char : Char} {value : Nat} :
    below? 10 char = some value ↔ value < 10 ∧ char = Nat.digitChar value := by
  have same : ∀ tested < 10, (Nat.digitChar tested).toUpper = Nat.digitChar tested := by decide
  rw [below?, Option.filter_eq_some_iff, value?_eq_some_iff, decide_eq_true_eq]
  constructor
  · rintro ⟨⟨_, small | capital⟩, bound⟩
    · exact ⟨bound, small⟩
    · exact ⟨bound, capital.trans (same value bound)⟩
  · rintro ⟨bound, rfl⟩
    exact ⟨⟨by omega, Or.inl rfl⟩, bound⟩

theorem take_of_not_digit {text : List Char}
    (ends : text.head?.bind (below? 10) = none) : take 10 text = ([], text) := by
  cases text with
  | nil =>
      rfl
  | cons first rest =>
      have absent : below? 10 first = none := ends
      rw [take, absent]

theorem take_map_digitChar {digits : List Nat} (small : ∀ digit ∈ digits, digit < 10)
    {rest : List Char} (ends : rest.head?.bind (below? 10) = none) :
    take 10 (digits.map Nat.digitChar ++ rest) = (digits, rest) := by
  induction digits with
  | nil =>
      exact take_of_not_digit ends
  | cons first more inductionHypothesis =>
      have read := below?_ten_eq_some_iff.2 ⟨small first List.mem_cons_self, rfl⟩
      have later := inductionHypothesis fun digit listed =>
        small digit (List.mem_cons_of_mem first listed)
      rw [List.map_cons, List.cons_append, take, read]
      simp only [later]

theorem eq_append_of_take {text rest : List Char} {digits : List Nat}
    (taken : take 10 text = (digits, rest)) : text = digits.map Nat.digitChar ++ rest := by
  induction text generalizing digits with
  | nil =>
      cases taken
      rfl
  | cons char more inductionHypothesis =>
      rw [take] at taken
      split at taken
      · next value read =>
        cases taken
        rw [List.map_cons, List.cons_append, ← inductionHypothesis rfl,
          ← (below?_ten_eq_some_iff.1 read).2]
      · cases taken
        rfl

/-- What is taken off the front of a text are digits of base ten, all that there are. -/
theorem take_eq_iff {text rest : List Char} {digits : List Nat} :
    take 10 text = (digits, rest) ↔
      (∀ digit ∈ digits, digit < 10) ∧ text = digits.map Nat.digitChar ++ rest ∧
        rest.head?.bind (below? 10) = none := by
  constructor
  · intro taken
    have small : ∀ digit ∈ (take 10 text).1, digit < 10 := fun _ => lt_of_mem_take
    have ends := below?_head?_take 10 text
    rw [taken] at small ends
    exact ⟨small, eq_append_of_take taken, ends⟩
  · rintro ⟨small, rfl, ends⟩
    exact take_map_digitChar small ends

theorem toNumber_concat (base : Nat) (digits : List Nat) (last : Nat) :
    toNumber base (digits ++ [last]) = base * toNumber base digits + last := by
  rw [toNumber, List.foldl_append]
  rfl

/-- The digits of a number in base ten, the most significant first. -/
structure Decimal (number : Nat) (digits : List Nat) : Prop where
  written : Nat.toDigits 10 number = digits.map Nat.digitChar
  small : ∀ digit ∈ digits, digit < 10
  toNumber_eq : toNumber 10 digits = number
  nonempty : digits ≠ []
  /-- Only zero itself begins with a zero. -/
  leading : ∀ second more, digits ≠ 0 :: second :: more

theorem exists_decimal (number : Nat) : ∃ digits : List Nat, Decimal number digits := by
  induction number using Nat.strongRecOn with
  | ind number inductionHypothesis =>
      by_cases small : number < 10
      · refine ⟨[number], Nat.toDigits_of_lt_base small, ?_, ?_, List.cons_ne_nil _ _, ?_⟩
        · intro digit listed
          rw [List.mem_singleton.1 listed]
          exact small
        · simp [toNumber]
        · intro second more equal
          injection equal with _ tail
          cases tail
      · have large : 10 ≤ number := Nat.le_of_not_lt small
        obtain ⟨digits, decimal⟩ := inductionHypothesis (number / 10) (by omega)
        refine ⟨digits ++ [number % 10], ?_, ?_, ?_, ?_, ?_⟩
        · rw [Nat.toDigits_of_base_le (by decide) large, decimal.written, List.map_append]
          rfl
        · intro digit listed
          rcases List.mem_append.1 listed with upper | last
          · exact decimal.small digit upper
          · rw [List.mem_singleton.1 last]
            exact Nat.mod_lt number (by decide)
        · rw [toNumber_concat, decimal.toNumber_eq]
          omega
        · simp
        · intro second more equal
          cases upper : digits with
          | nil => exact decimal.nonempty upper
          | cons first rest =>
              rw [upper, List.cons_append] at equal
              injection equal with zero tail
              cases rest with
              | nil =>
                  have value := decimal.toNumber_eq
                  rw [upper, zero] at value
                  have nothing : toNumber 10 [0] = 0 := rfl
                  omega
              | cons next others =>
                  rw [zero] at upper
                  exact decimal.leading next others upper

end InputSharing.Digits
