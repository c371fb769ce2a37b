import InputSharing.Toml.Text

/-!
# Writing strings in TOML

A string can be written in four styles.  The first of them that needs no escape
is taken: between double quotes, between single quotes, and then the same on
several lines between three quotes.  A string that none of them can hold is
written with escapes between double quotes, three of them if it has a newline.
-/

namespace InputSharing.Toml

/-- A style in which a string is written. -/
structure Style where
  /-- The quotes are single ones, and nothing is escaped. -/
  literal : Bool
  /-- There are three quotes on either side, and newlines stand for
  themselves. -/
  long : Bool
  deriving DecidableEq, Repr

namespace Style

/-! ## The choice of a style -/

def isControl (char : Char) : Bool := !isPlain char && char != '\n'

/-- The length of the longest run of a character, given the length of the run
before the text. -/
def longestRun (quote : Char) : (run : Nat) → List Char → Nat
  | run, [] => run
  | run, char :: rest =>
      if char = quote then longestRun quote (run + 1) rest
      else max run (longestRun quote 0 rest)

def quote (style : Style) : Char := if style.literal then '\'' else '"'

/-- Whether a style holds a string without escapes.  A tab is written as an
escape where there are any, but it never decides. -/
def holds (style : Style) (text : List Char) : Bool :=
  !text.any isControl &&
    (style.literal || !text.contains '\\') &&
    (style.long || !text.contains '\n') &&
    decide (longestRun style.quote 0 text ≤ if style.long then 2 else 0)

def of (text : List Char) : Style :=
  let styles : List Style :=
    [⟨false, false⟩, ⟨true, false⟩, ⟨false, true⟩, ⟨true, true⟩]
  (styles.find? fun style => style.holds text).getD ⟨false, text.contains '\n'⟩

/-! ## Escapes -/

def largeHex (digit : Nat) : Char := (Nat.digitChar digit).toUpper

/-- The escape of a character other than the double quote, if it needs one. -/
def escape? (style : Style) (char : Char) : Option (List Char) :=
  if char = '\\' then some ['\\', '\\']
  else if char = '\t' then some ['\\', 't']
  else if char = '\n' then if style.long then none else some ['\\', 'n']
  else if isPlain char then none
  else if char = '\x08' then some ['\\', 'b']
  else if char = '\x0c' then some ['\\', 'f']
  else if char = '\r' then some ['\\', 'r']
  else some ['\\', 'u', '0', '0', largeHex (char.toNat / 16), largeHex (char.toNat % 16)]

/-- The characters of a string between double quotes, given how many quotes
directly before them are not escaped.  There may be two in a long string. -/
def escaped (style : Style) : (quotes : Nat) → List Char → List Char
  | _, [] => []
  | quotes, char :: rest =>
      if char = '"' then
        if style.long ∧ quotes < 2 then '"' :: escaped style (quotes + 1) rest
        else '\\' :: '"' :: escaped style 0 rest
      else
        match style.escape? char with
        | some escape => escape ++ escaped style 0 rest
        | none => char :: escaped style 0 rest

/-- A string as it is written in a style.  A newline that does not belong to the
string comes first when the string has newlines of its own. -/
def write (style : Style) (text : List Char) : List Char :=
  let quotes := List.replicate (if style.long then 3 else 1) style.quote
  let first := if style.long ∧ text.contains '\n' then ['\n'] else []
  let inner := if style.literal then text else style.escaped 0 text
  quotes ++ first ++ inner ++ quotes

end Style

def quoted (text : String) : String :=
  String.ofList ((Style.of text.toList).write text.toList)

end InputSharing.Toml
