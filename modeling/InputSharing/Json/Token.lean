import InputSharing.Json.Magnitude

/-!
# JSON tokens

The text of a JSON value is a sequence of tokens with blanks between them.
`Token.scan` splits a text into its tokens, and gives nothing when a piece of
the text is no token.
-/

namespace InputSharing.Json

/-- A smallest meaningful piece of JSON text. -/
inductive Token where
  | openObject
  | closeObject
  | openArray
  | closeArray
  | comma
  | colon
  | null
  | bool (value : Bool)
  | int (value : Int)
  | real
  | string (text : String)
  deriving DecidableEq, Repr

namespace Token

def isBlank (char : Char) : Bool :=
  char = ' ' || char = '\t' || char = '\n' || char = '\r'

/-! ## Strings -/

/-- The number that four hexadecimal digits denote, and the text after them. -/
def hexUnit? : List Char → Option (Nat × List Char)
  | first :: second :: third :: fourth :: rest => do
      let a ← Digits.below? 16 first
      let b ← Digits.below? 16 second
      let c ← Digits.below? 16 third
      let d ← Digits.below? 16 fourth
      some (((a * 16 + b) * 16 + c) * 16 + d, rest)
  | _ => none

def isHighHalf (unit : Nat) : Bool := 0xD800 ≤ unit && unit < 0xDC00

def isLowHalf (unit : Nat) : Bool := 0xDC00 ≤ unit && unit < 0xE000

/-- The character that follows the escape for a unit.  A character beyond
sixteen bits is written as a pair of units, and no half stands alone. -/
def unit? (text : List Char) : Option (Char × List Char) := do
  let (unit, rest) ← hexUnit? text
  if isHighHalf unit then
    match rest with
    | '\\' :: 'u' :: more =>
        let (low, after) ← hexUnit? more
        if isLowHalf low then
          some (Char.ofNat (0x10000 + (unit - 0xD800) * 0x400 + (low - 0xDC00)), after)
        else none
    | _ => none
  else if isLowHalf unit then none
  else some (Char.ofNat unit, rest)

/-- The character that an escape denotes, given the text after the backslash. -/
def escape? : List Char → Option (Char × List Char)
  | '"' :: rest => some ('"', rest)
  | '\\' :: rest => some ('\\', rest)
  | '/' :: rest => some ('/', rest)
  | 'b' :: rest => some ('\x08', rest)
  | 'f' :: rest => some ('\x0c', rest)
  | 'n' :: rest => some ('\n', rest)
  | 'r' :: rest => some ('\r', rest)
  | 't' :: rest => some ('\t', rest)
  | 'u' :: rest => unit? rest
  | _ => none

theorem hexUnit?_length {text rest : List Char} {unit : Nat}
    (read : hexUnit? text = some (unit, rest)) : rest.length < text.length := by
  unfold hexUnit? at read
  split at read
  · simp [Option.bind_eq_some_iff] at read
    obtain ⟨_, _, _, _, _, _, _, _, _, rfl⟩ := read
    simp
    omega
  · simp at read

theorem unit?_length {text rest : List Char} {char : Char}
    (read : unit? text = some (char, rest)) : rest.length < text.length := by
  simp only [unit?, Option.bind_eq_bind, Option.bind_eq_some_iff] at read
  obtain ⟨⟨unit, after⟩, first, read⟩ := read
  have shorter := hexUnit?_length first
  simp only at read
  split at read
  · split at read
    · next more =>
      simp only [Option.bind_eq_some_iff] at read
      obtain ⟨⟨low, last⟩, second, read⟩ := read
      have shorter_still := hexUnit?_length second
      split at read <;> simp_all
      omega
    · simp at read
  · split at read <;> simp_all

theorem escape?_length {text rest : List Char} {char : Char}
    (read : escape? text = some (char, rest)) : rest.length < text.length := by
  unfold escape? at read
  split at read <;> simp_all
  have shorter := unit?_length read
  omega

/-- The characters of a string and the text after its closing quote, given the
text after its opening quote.  Control characters must be escaped. -/
def characters? : List Char → Option (List Char × List Char)
  | [] => none
  | '"' :: rest => some ([], rest)
  | '\\' :: rest =>
      match _read : escape? rest with
      | none => none
      | some (char, after) =>
          (characters? after).map fun (text, last) => (char :: text, last)
  | char :: rest =>
      if char < ' ' then none
      else (characters? rest).map fun (text, last) => (char :: text, last)
  termination_by text => text.length
  decreasing_by
  · have := escape?_length _read
    simp only [List.length_cons]
    omega
  · simp only [List.length_cons]
    omega

/-! ## Numerals -/

def someDigits? (text : List Char) : Option (List Nat × List Char) :=
  match Digits.take 10 text with
  | ([], _) => none
  | read => some read

/-- The whole part of a numeral.  Only zero itself starts with a zero. -/
def whole? (text : List Char) : Option (List Nat × List Char) :=
  match someDigits? text with
  | some (0 :: _ :: _, _) => none
  | read => read

/-- The fraction of a numeral, if there is one. -/
def fraction? : List Char → Option (Option (List Nat) × List Char)
  | '.' :: rest => (someDigits? rest).map fun (read, after) => (some read, after)
  | text => some (none, text)

def sign : List Char → Bool × List Char
  | '-' :: rest => (true, rest)
  | '+' :: rest => (false, rest)
  | text => (false, text)

/-- The exponent of a numeral, if there is one. -/
def exponent? : List Char → Option (Option (Bool × List Nat) × List Char)
  | [] => some (none, [])
  | char :: rest =>
      if char = 'e' ∨ char = 'E' then
        let (minus, unsigned) := sign rest
        (someDigits? unsigned).map fun (read, after) => (some (minus, read), after)
      else some (none, char :: rest)

def numeral? (text : List Char) : Option (Numeral × List Char) := do
  let (negative, unsigned) :=
    match text with
    | '-' :: rest => (true, rest)
    | _ => (false, text)
  let (whole, afterWhole) ← whole? unsigned
  let (fraction, afterFraction) ← fraction? afterWhole
  let (exponent, after) ← exponent? afterFraction
  some (⟨negative, whole, fraction, exponent⟩, after)

def ofNumeral? (numeral : Numeral) : Option Token :=
  match numeral.integer? with
  | some value => some (int value)
  | none => if numeral.isInfinite then none else some real

/-! ## Tokens -/

def next? : List Char → Option (Token × List Char)
  | '\x7b' :: rest => some (openObject, rest)
  | '\x7d' :: rest => some (closeObject, rest)
  | '[' :: rest => some (openArray, rest)
  | ']' :: rest => some (closeArray, rest)
  | ',' :: rest => some (comma, rest)
  | ':' :: rest => some (colon, rest)
  | 'n' :: 'u' :: 'l' :: 'l' :: rest => some (null, rest)
  | 't' :: 'r' :: 'u' :: 'e' :: rest => some (bool true, rest)
  | 'f' :: 'a' :: 'l' :: 's' :: 'e' :: rest => some (bool false, rest)
  | '"' :: rest =>
      (characters? rest).map fun (text, after) => (string (String.ofList text), after)
  | text => do
      let (numeral, after) ← numeral? text
      let token ← ofNumeral? numeral
      some (token, after)

/-- The tokens of a text.  A step that does not shorten the text would never
end, so it counts as no token. -/
def scan (text : List Char) : Option (List Token) :=
  match text with
  | [] => some []
  | char :: rest =>
      if isBlank char then scan rest
      else
        match next? (char :: rest) with
        | none => none
        | some (token, after) =>
            if after.length < (char :: rest).length then (scan after).map (token :: ·)
            else none
  termination_by text.length
  decreasing_by
  · simp only [List.length_cons]
    omega
  · assumption

end Token

end InputSharing.Json
