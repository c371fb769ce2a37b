import InputSharing.Digits
import InputSharing.Toml.Value

/-!
# Strings and names in TOML

A string stands between single or double quotes; between double quotes, a
backslash begins an escape.  A string between three quotes on either side may
hold newlines, and up to two quotes may stand directly before the three that end
it.  A name is either a string between one quote on either side, or bare.

The readers of this module take what they read off the front of a text, and
give the rest of the text with it.
-/

namespace InputSharing.Toml

/-! ## Characters -/

def isBlank (char : Char) : Bool := char = ' ' || char = '\t'

/-- The characters that stand for themselves in comments and strings: all but
the control characters, of which only the tab does. -/
def isPlain (char : Char) : Bool := char = '\t' || (' ' ≤ char && char != '\x7f')

def isBare (char : Char) : Bool := char.isAlphanum || char = '_' || char = '-'

def skipBlanks (text : List Char) : List Char := text.dropWhile isBlank

/-- Skip blanks, newlines and comments, within a comment at first or not. -/
def skipLines : (comment : Bool) → List Char → List Char
  | _, [] => []
  | comment, char :: rest =>
      if char = '\n' then skipLines false rest
      else if comment then if isPlain char then skipLines true rest else char :: rest
      else if isBlank char then skipLines false rest
      else if char = '#' then skipLines true rest
      else char :: rest

/-- Skip the rest of a line, in which nothing but a comment may stand. -/
def endOfLine? (text : List Char) : Option (List Char) :=
  let afterComment :=
    match skipBlanks text with
    | '#' :: comment => comment.dropWhile isPlain
    | rest => rest
  match afterComment with
  | [] => some []
  | '\n' :: rest => some rest
  | _ :: _ => none

/-! ## Escapes -/

/-- The character whose number is written with `count` hexadecimal digits. -/
def numbered? (count : Nat) (text : List Char) : Option (Char × List Char) := do
  let digits ← (text.take count).mapM (Digits.below? 16)
  let number := Digits.toNumber 16 digits
  if digits.length = count ∧ number.isValidChar then
    some (Char.ofNat number, text.drop count)
  else none

/-- The character that an escape denotes, given the text after the backslash. -/
def escape? : List Char → Option (Char × List Char)
  | '"' :: rest => some ('"', rest)
  | '\\' :: rest => some ('\\', rest)
  | 'b' :: rest => some ('\x08', rest)
  | 'f' :: rest => some ('\x0c', rest)
  | 'n' :: rest => some ('\n', rest)
  | 'r' :: rest => some ('\r', rest)
  | 't' :: rest => some ('\t', rest)
  | 'u' :: rest => numbered? 4 rest
  | 'U' :: rest => numbered? 8 rest
  | _ => none

/-- A backslash at the end of a line joins the line to the next one that is not
blank. -/
def joint? (text : List Char) : Option (List Char) :=
  match skipBlanks text with
  | '\n' :: rest => some (rest.dropWhile fun char => isBlank char || char = '\n')
  | _ => none

/-! ## Strings on one line -/

def literal? : List Char → Option (List Char × List Char)
  | [] => none
  | char :: rest =>
      if char = '\'' then some ([], rest)
      else if isPlain char then
        (literal? rest).map fun (text, last) => (char :: text, last)
      else none

def basic? (text : List Char) : Option (List Char × List Char) :=
  match text with
  | [] => none
  | '"' :: rest => some ([], rest)
  | '\\' :: rest => do
      let (char, after) ← escape? rest
      if after.length ≤ rest.length then
        let (more, last) ← basic? after
        some (char :: more, last)
      else none
  | char :: rest =>
      if isPlain char then (basic? rest).map fun (more, last) => (char :: more, last)
      else none
  termination_by text.length

/-! ## Strings on several lines -/

/-- Up to two quotes that belong to a string although three others stood before
them. -/
def spareQuotes (quote : Char) : List Char → List Char × List Char
  | first :: second :: rest =>
      if first = quote ∧ second = quote then ([quote, quote], rest)
      else if first = quote then ([quote], second :: rest)
      else ([], first :: second :: rest)
  | [first] => if first = quote then ([quote], []) else ([], [first])
  | [] => ([], [])

def longLiteral? : List Char → Option (List Char × List Char)
  | [] => none
  | '\'' :: '\'' :: '\'' :: rest => some (spareQuotes '\'' rest)
  | char :: rest =>
      if char = '\n' ∨ isPlain char then
        (longLiteral? rest).map fun (text, last) => (char :: text, last)
      else none

def longBasic? (text : List Char) : Option (List Char × List Char) :=
  match text with
  | [] => none
  | '"' :: '"' :: '"' :: rest => some (spareQuotes '"' rest)
  | '\\' :: rest =>
      match joint? rest with
      | some after => if after.length ≤ rest.length then longBasic? after else none
      | none => do
          let (char, after) ← escape? rest
          if after.length ≤ rest.length then
            let (more, last) ← longBasic? after
            some (char :: more, last)
          else none
  | char :: rest =>
      if char = '\n' ∨ isPlain char then
        (longBasic? rest).map fun (more, last) => (char :: more, last)
      else none
  termination_by text.length

/-- A newline directly after the opening quotes does not belong to a string. -/
def skipFirstNewline : List Char → List Char
  | '\n' :: rest => rest
  | text => text

def string? (text : List Char) : Option (String × List Char) :=
  let read :=
    match text with
    | '"' :: '"' :: '"' :: rest => longBasic? (skipFirstNewline rest)
    | '\'' :: '\'' :: '\'' :: rest => longLiteral? (skipFirstNewline rest)
    | '"' :: rest => basic? rest
    | '\'' :: rest => literal? rest
    | _ => none
  read.map fun (characters, rest) => (String.ofList characters, rest)

/-! ## Names -/

def keyLimit : Nat := 79

def name? (text : List Char) : Option (String × List Char) :=
  let read :=
    match text with
    | '"' :: rest => basic? rest
    | '\'' :: rest => literal? rest
    | _ =>
        let bare := text.takeWhile isBare
        if bare.isEmpty then none else some (bare, text.dropWhile isBare)
  read.map fun (characters, rest) => (String.ofList characters, rest)

/-- Names with points between them, and blanks around each of them. -/
def names? (text : List Char) : Option (List String × List Char) := do
  let (name, after) ← name? (skipBlanks text)
  match skipBlanks after with
  | '.' :: rest =>
      if rest.length < text.length then
        let (more, last) ← names? rest
        some (name :: more, last)
      else none
  | rest => some ([name], rest)
  termination_by text.length

def key? (text : List Char) : Option (Key × List Char) := do
  let (names, rest) ← names? text
  let name ← names.getLast?
  if names.length ≤ keyLimit then some (⟨names.dropLast, name⟩, rest) else none

end InputSharing.Toml
