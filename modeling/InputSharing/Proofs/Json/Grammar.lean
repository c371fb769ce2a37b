import InputSharing.Json.Reader

/-!
# The grammar of JSON text

What a JSON text is, said without reading one.  A text spells the tokens of a value
one after another, with blanks before, between and after them.  A string may be
spelled in many ways, since each of its characters may be escaped; a number, as any
numeral that stands for it.

Two rules go beyond the syntax: arrays and objects do not lie too deep inside one
another, and no number is infinite.
-/

namespace InputSharing.Json

/-! ## Digits -/

/-- A digit of base sixteen, small or capital. -/
def HexDigit (value : Nat) (char : Char) : Prop :=
  value < 16 ∧ (char = Nat.digitChar value ∨ char = (Nat.digitChar value).toUpper)

/-- Digits of base ten, at least one of them. -/
structure Decimals (digits : List Nat) (text : List Char) : Prop where
  nonempty : digits ≠ []
  small : ∀ digit ∈ digits, digit < 10
  text_eq : text = digits.map Nat.digitChar

/-! ## Strings -/

/-- Four digits of base sixteen, and the number that they denote. -/
inductive HexUnit : Nat → List Char → Prop
  | digits {a b c d : Nat} {first second third fourth : Char} :
      HexDigit a first → HexDigit b second → HexDigit c third → HexDigit d fourth →
        HexUnit (((a * 16 + b) * 16 + c) * 16 + d) [first, second, third, fourth]

/-- A character as units of sixteen bits.  No half of a pair stands alone, since it is the
number of no character. -/
inductive SpellsUnits : Char → List Char → Prop
  | single {char : Char} {digits : List Char} :
      HexUnit char.toNat digits → SpellsUnits char digits
  /-- A character beyond sixteen bits, ten bits of it in each of two units. -/
  | pair {char : Char} {high low : Nat} {first second : List Char} :
      high < 0x400 → low < 0x400 → char.toNat = 0x10000 + high * 0x400 + low →
        HexUnit (0xD800 + high) first → HexUnit (0xDC00 + low) second →
          SpellsUnits char (first ++ '\\' :: 'u' :: second)

/-- The letters that escape a character, each with its character. -/
def escapes : List (Char × Char) :=
  [('"', '"'), ('\\', '\\'), ('/', '/'), ('b', '\x08'), ('f', '\x0c'), ('n', '\n'),
    ('r', '\r'), ('t', '\t')]

/-- How a character may be spelled after a backslash. -/
inductive SpellsEscape : Char → List Char → Prop
  | letter {letter char : Char} : (letter, char) ∈ escapes → SpellsEscape char [letter]
  | units {char : Char} {text : List Char} :
      SpellsUnits char text → SpellsEscape char ('u' :: text)

/-- How a character may be spelled inside a string.  Control characters, the quote and
the backslash do not stand for themselves. -/
inductive SpellsChar : Char → List Char → Prop
  | plain {char : Char} : ' ' ≤ char → char ≠ '"' → char ≠ '\\' → SpellsChar char [char]
  | escape {char : Char} {text : List Char} :
      SpellsEscape char text → SpellsChar char ('\\' :: text)

/-- How some characters may be spelled inside a string. -/
inductive SpellsText : List Char → List Char → Prop
  | nil : SpellsText [] []
  | cons {char : Char} {text piece spelling : List Char} :
      SpellsChar char piece → SpellsText text spelling →
        SpellsText (char :: text) (piece ++ spelling)

/-! ## Numerals -/

/-- The whole part of a numeral.  Only zero itself starts with a zero. -/
structure SpellsWhole (digits : List Nat) (text : List Char) : Prop extends
    Decimals digits text where
  leading : ∀ more, digits = 0 :: more → more = []

inductive SpellsFraction : Option (List Nat) → List Char → Prop
  | absent : SpellsFraction none []
  | present {digits : List Nat} {text : List Char} :
      Decimals digits text → SpellsFraction (some digits) ('.' :: text)

/-- The sign of an exponent, true for a minus. -/
inductive SpellsSign : Bool → List Char → Prop
  | absent : SpellsSign false []
  | plus : SpellsSign false ['+']
  | minus : SpellsSign true ['-']

inductive SpellsExponent : Option (Bool × List Nat) → List Char → Prop
  | absent : SpellsExponent none []
  | present {letter : Char} {minus : Bool} {digits : List Nat} {sign text : List Char} :
      letter = 'e' ∨ letter = 'E' → SpellsSign minus sign → Decimals digits text →
        SpellsExponent (some (minus, digits)) (letter :: (sign ++ text))

/-- The sign of a numeral, true for a minus.  There is no plus. -/
def minus : Bool → List Char
  | true => ['-']
  | false => []

inductive SpellsNumeral : Numeral → List Char → Prop
  | parts {negative : Bool} {whole : List Nat} {fraction : Option (List Nat)}
      {exponent : Option (Bool × List Nat)} {first second third : List Char} :
      SpellsWhole whole first → SpellsFraction fraction second →
        SpellsExponent exponent third →
          SpellsNumeral ⟨negative, whole, fraction, exponent⟩
            (minus negative ++ (first ++ (second ++ third)))

/-- An integer that fits into 64 bits, with or without a sign. -/
def Token.Fits (value : Int) : Prop := -0x8000000000000000 ≤ value ∧ value < 0x10000000000000000

/-- A numeral that stands for an integer of 64 bits.  Negative zero does not. -/
structure Numeral.Counts (numeral : Numeral) (value : Int) : Prop where
  fraction_eq : numeral.fraction = none
  exponent_eq : numeral.exponent = none
  natAbs_eq : value.natAbs = Digits.toNumber 10 numeral.whole
  negative_iff : numeral.negative = true ↔ value < 0
  fits : Token.Fits value

/-! ## Tokens -/

namespace Token

/-- The spelling of a token that has only one. -/
def symbol? : Token → Option (List Char)
  | openObject => some ['\x7b']
  | closeObject => some ['\x7d']
  | openArray => some ['[']
  | closeArray => some [']']
  | comma => some [',']
  | colon => some [':']
  | null => some ['n', 'u', 'l', 'l']
  | bool true => some ['t', 'r', 'u', 'e']
  | bool false => some ['f', 'a', 'l', 's', 'e']
  | int _ | real | string _ => none

/-- How a token may be spelled. -/
inductive Spelled : Token → List Char → Prop
  | symbol {token : Token} {text : List Char} :
      token.symbol? = some text → Spelled token text
  | int {numeral : Numeral} {value : Int} {text : List Char} :
      SpellsNumeral numeral text → numeral.Counts value → Spelled (.int value) text
  | real {numeral : Numeral} {text : List Char} :
      SpellsNumeral numeral text → (∀ value, ¬numeral.Counts value) →
        numeral.isInfinite = false → Spelled .real text
  | string {content : String} {text : List Char} :
      SpellsText content.toList text → Spelled (.string content) ('"' :: text ++ ['"'])

/-- A text spells some tokens one after another, with blanks anywhere around them. -/
inductive Spells : List Token → List Char → Prop
  | nil : Spells [] []
  | blank {char : Char} {tokens : List Token} {text : List Char} :
      isBlank char = true → Spells tokens text → Spells tokens (char :: text)
  | token {token : Token} {tokens : List Token} {piece text : List Char} :
      token.Spelled piece → Spells tokens text → Spells (token :: tokens) (piece ++ text)

end Token

/-! ## Values -/

mutual

/-- The tokens of a value. -/
def tokens : Json → List Token
  | null => [.null]
  | bool value => [.bool value]
  | int value => [.int value]
  | real => [.real]
  | string text => [.string text]
  | array elements => .openArray :: elementTokens elements ++ [.closeArray]
  | object fields => .openObject :: fieldTokens fields ++ [.closeObject]

def elementTokens : List Json → List Token
  | [] => []
  | [element] => tokens element
  | element :: more => tokens element ++ .comma :: elementTokens more

def fieldTokens : List (String × Json) → List Token
  | [] => []
  | [(name, value)] => .string name :: .colon :: tokens value
  | (name, value) :: more =>
      .string name :: .colon :: tokens value ++ .comma :: fieldTokens more

end

theorem elementTokens_cons_cons (first second : Json) (more : List Json) :
    elementTokens (first :: second :: more) =
      first.tokens ++ .comma :: elementTokens (second :: more) :=
  rfl

theorem fieldTokens_cons_cons (first second : String × Json) (more : List (String × Json)) :
    fieldTokens (first :: second :: more) =
      .string first.1 :: .colon :: first.2.tokens ++ .comma :: fieldTokens (second :: more) :=
  rfl

/-- A value in which arrays and objects lie at most so deep inside one another. -/
inductive Nests : (depth : Nat) → Json → Prop
  | null (depth : Nat) : Nests depth .null
  | bool (depth : Nat) (value : Bool) : Nests depth (.bool value)
  | int (depth : Nat) (value : Int) : Nests depth (.int value)
  | real (depth : Nat) : Nests depth .real
  | string (depth : Nat) (text : String) : Nests depth (.string text)
  | array {depth : Nat} {elements : List Json}
      (inner : ∀ element ∈ elements, Nests depth element) : Nests (depth + 1) (.array elements)
  | object {depth : Nat} {fields : List (String × Json)}
      (inner : ∀ field ∈ fields, Nests depth field.2) : Nests (depth + 1) (.object fields)

/-- A text is JSON and denotes a value. -/
structure DenotedBy (json : Json) (text : String) : Prop where
  nests : Nests depthLimit json
  spells : Token.Spells json.tokens text.toList

end InputSharing.Json
