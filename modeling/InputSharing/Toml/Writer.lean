import InputSharing.Toml.Quoted

/-!
# Writing TOML

`Toml.write?` gives the text of a document.  The entries of a table that are not
tables themselves come first, one on a line, and the tables inside it follow,
each under its heading.  A blank line stands before every heading but the
first.

A document cannot be written when it has an integer beyond 64 bits with a sign,
a value that is not kept exactly, or a table inside an array.
-/

namespace InputSharing.Toml

/-! ## Values -/

/-- An array as it is written, given its elements as they are written.  More
than one element stand on lines of their own. -/
def bracketed : (elements : List String) → String
  | [] => "[]"
  | [element] => "[" ++ element ++ "]"
  | elements => "[" ++ String.join (elements.map fun element => "\n    " ++ element ++ ",") ++ "\n]"

mutual

def text? : Toml → Option String
  | .string text => some (quoted text)
  | .integer value =>
      if -0x8000000000000000 ≤ value ∧ value < 0x8000000000000000 then some (toString value)
      else none
  | .boolean value => some (if value then "true" else "false")
  | .array elements => (texts? elements).map bracketed
  | .float | .dateTime | .table _ _ | .tables _ => none

def texts? : List Toml → Option (List String)
  | [] => some []
  | element :: more => do
      let first ← text? element
      let rest ← texts? more
      some (first :: rest)

end

/-! ## Tables -/

def writeName (name : String) : String :=
  if !name.isEmpty && name.all isBare then name
  else String.ofList (Style.write ⟨false, false⟩ name.toList)

def dottedNames (path : List String) : String := ".".intercalate (path.map writeName)

def isUnderHeading : Toml → Bool
  | .table _ _ | .tables _ => true
  | _ => false

def lines? (entries : Entries) : Option (List String) :=
  (entries.filter fun entry => !isUnderHeading entry.2).mapM fun entry =>
    (text? entry.2).map fun text => writeName entry.1 ++ " = " ++ text ++ "\n"

def block? (heading : String) (entries : Entries) : Option String :=
  (lines? entries).map fun lines => heading ++ "\n" ++ String.join lines

mutual

/-- The tables inside a table as they are written, given the names on the way to
the table. -/
def blocks? (path : List String) : Entries → Option (List String)
  | [] => some []
  | (name, value) :: more => do
      let first ← tableBlocks? (path ++ [name]) value
      let rest ← blocks? path more
      some (first ++ rest)

/-- A value as it is written under a heading; nothing for one that is not. -/
def tableBlocks? (path : List String) : Toml → Option (List String)
  | .table _ entries => do
      let first ← block? ("[" ++ dottedNames path ++ "]") entries
      let inner ← blocks? path entries
      some (first :: inner)
  | .tables elements => repeatedBlocks? path elements
  | .string _ | .integer _ | .float | .boolean _ | .dateTime | .array _ => some []

def repeatedBlocks? (path : List String) : List Entries → Option (List String)
  | [] => some []
  | entries :: more => do
      let first ← block? ("[[" ++ dottedNames path ++ "]]") entries
      let inner ← blocks? path entries
      let rest ← repeatedBlocks? path more
      some (first :: inner ++ rest)

end

def write? (entries : Entries) : Option String := do
  let lines ← lines? entries
  let blocks ← blocks? [] entries
  let first := if lines.isEmpty then [] else [String.join lines]
  some ("\n".intercalate (first ++ blocks))

end InputSharing.Toml
