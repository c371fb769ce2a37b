import InputSharing.Digits

/-!
# The magnitude of a decimal numeral

A numeral that is not an integer of 64 bits stands for a binary floating-point
number of 53 significant bits.  Its value is never used, but a numeral whose
number would be infinite is refused.

The number of a numeral is found in four steps, each with its own limit:

* the digits are gathered, whole part first, as long as the gathered number
  fits into 64 bits, and the digits left over only shift the decimal point;
* the exponent is gathered as long as it fits into 31 bits;
* the gathered number is rounded to 53 bits;
* it is multiplied by a power of ten, itself rounded to 53 bits, and the
  product is rounded again.
-/

namespace InputSharing.Json

/-- A decimal numeral, split into its parts.  Digits are numbers below ten. -/
structure Numeral where
  negative : Bool
  whole : List Nat
  /-- The digits after the decimal point, if there is a point. -/
  fraction : Option (List Nat)
  /-- The sign (true for a minus) and the digits of the exponent, if there is
  one. -/
  exponent : Option (Bool × List Nat)

/-- Gather digits onto `start` as long as the number stays within a limit.
Gives the number and the digits that were left over. -/
def gather (limit start : Nat) : List Nat → Nat × List Nat
  | [] => (start, [])
  | digit :: rest =>
      if limit < 10 * start + digit then (start, digit :: rest)
      else gather limit (10 * start + digit) rest

/-- Round to 53 significant bits, to the nearer number and from the middle to
the even one. -/
def round53 (number : Nat) : Nat :=
  let excess := number.log2 + 1 - 53
  let unit := Nat.pow 2 excess
  let quotient := number / unit
  let twice := 2 * (number % unit)
  let up := unit < twice ∨ (unit = twice ∧ quotient % 2 = 1)
  (if up then quotient + 1 else quotient) * unit

/-- The least number that rounds to infinity: halfway between the largest
finite number and the power of two above it. -/
def infinity : Nat := (Nat.pow 2 54 - 1) * Nat.pow 2 970

/-- Whether a number of 64 bits times a power of ten is infinite. -/
def overflows (number : Nat) (power : Int) : Bool :=
  number != 0 && decide (0 ≤ power) &&
    (decide (308 < power) ||
      decide (infinity ≤ round53 number * round53 (Nat.pow 10 power.toNat)))

namespace Numeral

/-- The digits of a numeral as one number of 64 bits and the power of ten that
belongs to it. -/
def significand (numeral : Numeral) : Nat × Int :=
  let (whole, left) := gather 0xFFFFFFFFFFFFFFFF 0 numeral.whole
  let fraction := numeral.fraction.getD []
  let (number, unused) := gather 0xFFFFFFFFFFFFFFFF whole fraction
  (number, (left.length : Int) - (fraction.length - unused.length : Nat))

def isInfinite (numeral : Numeral) : Bool :=
  let (number, power) := numeral.significand
  match numeral.exponent with
  | none => overflows number power
  | some (minus, digits) =>
      match gather 0x7FFFFFFF 0 digits with
      | (exponent, []) =>
          overflows number (if minus then power - exponent else power + exponent)
      | (_, _ :: _) => number != 0 && !minus

/-- The integer that a numeral denotes, when it has neither point nor exponent
and fits into 64 bits.  Negative zero is not an integer. -/
def integer? (numeral : Numeral) : Option Int :=
  match numeral.fraction, numeral.exponent with
  | none, none =>
      let number := Digits.toNumber 10 numeral.whole
      if numeral.negative then
        if number = 0 ∨ 0x8000000000000000 < number then none else some (-(number : Int))
      else if 0x10000000000000000 ≤ number then none
      else some number
  | _, _ => none

end Numeral

end InputSharing.Json
