import InputSharing.Digits
import InputSharing.Toml.Value

/-!
# Dates and times in TOML

A moment is a date, a time of the day, or a date followed by a time and perhaps
by the distance from universal time.  Every part has a fixed number of digits
and a range; a month has the days that the calendar gives it.
-/

namespace InputSharing.Toml

/-- Take off a number of a fixed number of digits, in a range with both ends
included. -/
def part? (width least greatest : Nat) (text : List Char) : Option (Nat × List Char) := do
  let digits ← (text.take width).mapM (Digits.below? 10)
  let value := Digits.toNumber 10 digits
  if digits.length = width ∧ least ≤ value ∧ value ≤ greatest then
    some (value, text.drop width)
  else none

def mark? (expected : Char) : List Char → Option (List Char)
  | char :: rest => if char = expected then some rest else none
  | [] => none

def isLeapYear (year : Nat) : Bool := year % 4 = 0 && (year % 100 != 0 || year % 400 = 0)

def daysOf (year month : Nat) : Nat :=
  if month = 2 then if isLeapYear year then 29 else 28
  else if month = 4 ∨ month = 6 ∨ month = 9 ∨ month = 11 then 30
  else 31

def date? (text : List Char) : Option (List Char) := do
  let (year, text) ← part? 4 0 9999 text
  let text ← mark? '-' text
  let (month, text) ← part? 2 1 12 text
  let text ← mark? '-' text
  let (_, text) ← part? 2 1 (daysOf year month) text
  some text

/-- Take off a time of the day.  A minute may end with a leap second. -/
def time? (text : List Char) : Option (List Char) := do
  let (_, text) ← part? 2 0 23 text
  let text ← mark? ':' text
  let (_, text) ← part? 2 0 59 text
  let text ← mark? ':' text
  let (_, text) ← part? 2 0 60 text
  match text with
  | '.' :: rest =>
      let (digits, last) := Digits.take 10 rest
      if digits.isEmpty then none else some last
  | _ => some text

/-- Take off the distance from universal time, if there is one. -/
def offset? : List Char → Option (List Char)
  | [] => some []
  | char :: rest =>
      if char = 'Z' ∨ char = 'z' then some rest
      else if char = '+' ∨ char = '-' then do
        let (_, text) ← part? 2 0 23 rest
        let text ← mark? ':' text
        let (_, text) ← part? 2 0 59 text
        some text
      else some (char :: rest)

/-- Take off what follows a date: a time, if there is one. -/
def afterDate? : List Char → Option (List Char)
  | [] => some []
  | char :: rest =>
      if char = 'T' ∨ char = 't' ∨ char = ' ' then
        match time? rest with
        | some last => offset? last
        | none => some (char :: rest)
      else some (char :: rest)

def moment? (text : List Char) : Option (Toml × List Char) :=
  (((date? text).bind afterDate?).or (time? text)).map fun rest => (.dateTime, rest)

end InputSharing.Toml
