/-!
# Digits

Numerals are written in bases up to sixteen.  This module takes the digits of a
numeral off the front of a text and gives the number that they denote.
-/

namespace InputSharing.Digits

/-- The value of a digit.  Small and capital letters are alike. -/
def value? (char : Char) : Option Nat :=
  if '0' ≤ char ∧ char ≤ '9' then some (char.toNat - '0'.toNat)
  else if 'a' ≤ char ∧ char ≤ 'f' then some (char.toNat - 'a'.toNat + 10)
  else if 'A' ≤ char ∧ char ≤ 'F' then some (char.toNat - 'A'.toNat + 10)
  else none

def below? (base : Nat) (char : Char) : Option Nat :=
  (value? char).filter fun value => value < base

/-- The digits at the front of a text, and the text after them. -/
def take (base : Nat) : List Char → List Nat × List Char
  | [] => ([], [])
  | char :: rest =>
      match below? base char with
      | some value =>
          let (more, last) := take base rest
          (value :: more, last)
      | none => ([], char :: rest)

def toNumber (base : Nat) (digits : List Nat) : Nat :=
  digits.foldl (fun number digit => base * number + digit) 0

theorem below?_lt {base value : Nat} {char : Char} (read : below? base char = some value) :
    value < base := by
  simp only [below?, Option.filter_eq_some_iff, decide_eq_true_eq] at read
  exact read.2

/-- Only digits of the base are taken. -/
theorem lt_of_mem_take {base digit : Nat} {text : List Char}
    (taken : digit ∈ (take base text).1) : digit < base := by
  induction text with
  | nil => simp [take] at taken
  | cons char rest later =>
      simp only [take] at taken
      split at taken
      · next value read =>
        rcases List.mem_cons.1 taken with first | further
        · exact first ▸ below?_lt read
        · exact later further
      · simp at taken

theorem below?_head?_take (base : Nat) (text : List Char) :
    (take base text).2.head?.bind (below? base) = none := by
  induction text with
  | nil => rfl
  | cons char rest later =>
      simp only [take]
      split
      · exact later
      · next none_read => simpa using none_read

end InputSharing.Digits
