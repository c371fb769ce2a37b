import InputSharing.Digits
import InputSharing.Toml.Value

/-!
# Numbers in TOML

An integer is written in base ten with an optional sign, or in base sixteen,
eight or two without one, and has 64 bits with a sign.  A float has a fraction
or an exponent, or is a word.  Single underscores may stand between digits.

The value of a float is not kept, but a positive numeral too large for a double
is refused.
-/

namespace InputSharing.Toml

/-! ## Digits -/

/-- One or more digits, with single underscores between them. -/
def digits? (base : Nat) (text : List Char) : Option (List Nat × List Char) :=
  match Digits.take base text with
  | ([], _) => none
  | (found, '_' :: rest) =>
      if rest.length < text.length then
        (digits? base rest).map fun (more, last) => (found ++ more, last)
      else none
  | read => some read
  termination_by text.length

def sign : List Char → Bool × List Char
  | '-' :: rest => (true, rest)
  | '+' :: rest => (false, rest)
  | text => (false, text)

/-- The digits before the point.  Only zero itself begins with a zero. -/
def whole? (text : List Char) : Option (List Nat × List Char) :=
  match digits? 10 text with
  | some (0 :: _ :: _, _) => none
  | read => read

/-! ## Integers -/

def fitting? (value : Int) : Option Toml :=
  if -0x8000000000000000 ≤ value ∧ value < 0x8000000000000000 then some (.integer value) else none

/-- An integer in a base other than ten, given the text after the letter that
tells the base. -/
def based? (base : Nat) (text : List Char) : Option (Toml × List Char) := do
  let (digits, rest) ← digits? base text
  let value ← fitting? (Digits.toNumber base digits)
  some (value, rest)

/-! ## Floats -/

/-- The least number that rounds to infinity: halfway between the largest
finite double and the power of two above it. -/
def infinity : Nat := Nat.pow 2 1024 - Nat.pow 2 970

/-- Whether the number of some decimal digits times a power of ten is too large
for a double.  A quick look at the number of digits settles all but the numbers
of the same length as the limit. -/
def overflows (digits : List Nat) (power : Int) : Bool :=
  let significant := digits.dropWhile fun digit => digit = 0
  let number := Digits.toNumber 10 significant
  let length : Int := significant.length + power
  if number = 0 ∨ length < 309 then false
  else if 309 < length then true
  else if 0 ≤ power then decide (infinity ≤ number * Nat.pow 10 power.toNat)
  else decide (infinity * Nat.pow 10 power.natAbs ≤ number)

/-- The fraction of a numeral, if there is one. -/
def fraction? : List Char → Option (Option (List Nat) × List Char)
  | '.' :: rest => (digits? 10 rest).map fun (digits, last) => (some digits, last)
  | text => some (none, text)

/-- The exponent of a numeral, if there is one. -/
def exponent? : List Char → Option (Option Int × List Char)
  | [] => some (none, [])
  | char :: rest =>
      if char = 'e' ∨ char = 'E' then do
        let (minus, unsigned) := sign rest
        let (digits, last) ← digits? 10 unsigned
        let size : Int := Digits.toNumber 10 digits
        some (some (if minus then -size else size), last)
      else some (none, char :: rest)

def decimal? (text : List Char) : Option (Toml × List Char) := do
  let (minus, unsigned) := sign text
  let (whole, afterWhole) ← whole? unsigned
  let (fraction, afterFraction) ← fraction? afterWhole
  let (exponent, rest) ← exponent? afterFraction
  match fraction, exponent with
  | none, none =>
      let size : Int := Digits.toNumber 10 whole
      let value ← fitting? (if minus then -size else size)
      some (value, rest)
  | _, _ =>
      let digits := fraction.getD []
      let power := exponent.getD 0 - digits.length
      if !minus && overflows (whole ++ digits) power then none else some (.float, rest)

def word? (text : List Char) : Option (Toml × List Char) :=
  match (sign text).2 with
  | 'i' :: 'n' :: 'f' :: rest => some (.float, rest)
  | 'n' :: 'a' :: 'n' :: rest => some (.float, rest)
  | _ => none

def number? : List Char → Option (Toml × List Char)
  | '0' :: 'x' :: rest => based? 16 rest
  | '0' :: 'o' :: rest => based? 8 rest
  | '0' :: 'b' :: rest => based? 2 rest
  | text => (word? text).or (decimal? text)

end InputSharing.Toml
