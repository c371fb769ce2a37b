import InputSharing.Toml.Moment
import InputSharing.Toml.Number
import InputSharing.Toml.Text

/-!
# Reading TOML

`Toml.document?` gives the table that a document states, or nothing when the
text is not TOML.

A document is a sequence of lines, each of which ends with a newline or with a
carriage return and a newline.  A line states a value of the table whose heading
came last, or is a heading.  Arrays and tables between brackets and braces may
lie inside one another up to `Toml.depthLimit` deep.  An array may go on over
several lines; a table between braces may not.
-/

namespace InputSharing.Toml

/-! ## Values -/

/-- The greatest number of arrays and tables in braces that lie inside one
another. -/
def depthLimit : Nat := 79

def scalar? : List Char → Option (Toml × List Char)
  | 't' :: 'r' :: 'u' :: 'e' :: rest => some (.boolean true, rest)
  | 'f' :: 'a' :: 'l' :: 's' :: 'e' :: rest => some (.boolean false, rest)
  | '"' :: rest => (string? ('"' :: rest)).map fun (text, last) => (.string text, last)
  | '\'' :: rest => (string? ('\'' :: rest)).map fun (text, last) => (.string text, last)
  | text => (moment? text).or (number? text)

/-- The elements of an array up to its end.  A comma may stand after the last
one. -/
def elements? (value? : List Char → Option (Toml × List Char)) (text : List Char) :
    Option (List Toml × List Char) :=
  match skipLines false text with
  | ']' :: rest => some ([], rest)
  | start => do
      let (element, after) ← value? start
      match skipLines false after with
      | ',' :: rest =>
          if rest.length < text.length then
            let (more, last) ← elements? value? rest
            some (element :: more, last)
          else none
      | ']' :: rest => some ([element], rest)
      | _ => none
  termination_by text.length

def pair? (value? : List Char → Option (Toml × List Char)) (text : List Char) :
    Option ((Key × Toml) × List Char) := do
  let (key, after) ← key? text
  match after with
  | '=' :: start =>
      let (value, rest) ← value? (skipBlanks start)
      some ((key, value), rest)
  | _ => none

/-- The entries of a table in braces up to its end, of which there is at least
one. -/
def pairs? (value? : List Char → Option (Toml × List Char)) (text : List Char) :
    Option (List (Key × Toml) × List Char) := do
  let (pair, after) ← pair? value? text
  match skipBlanks after with
  | ',' :: rest =>
      if rest.length < text.length then
        let (more, last) ← pairs? value? rest
        some (pair :: more, last)
      else none
  | '\x7d' :: rest => some ([pair], rest)
  | _ => none
  termination_by text.length

def closed? (pairs : List (Key × Toml)) : Option Toml :=
  let state (current : Table) (pair : Key × Toml) : Option Table :=
    current.assign? pair.1 pair.2
  (pairs.foldlM state ⟨.closed, []⟩).map Table.toToml

/-- A value inside which arrays and tables in braces lie at most `depth`
deep. -/
def value? : (depth : Nat) → List Char → Option (Toml × List Char)
  | depth + 1, '[' :: rest =>
      (elements? (value? depth) rest).map fun (elements, last) => (.array elements, last)
  | depth + 1, '\x7b' :: rest =>
      match skipBlanks rest with
      | '\x7d' :: last => some (.table .closed [], last)
      | start => do
          let (pairs, last) ← pairs? (value? depth) start
          let table ← closed? pairs
          some (table, last)
  | _, text => scalar? text

/-! ## Documents -/

/-- What one line of a document states. -/
inductive Statement where
  | assignment (key : Key) (value : Toml)
  | heading (key : Key)
  /-- One more table under a repeated heading. -/
  | repeated (key : Key)

def statement? : List Char → Option (Statement × List Char)
  | '[' :: '[' :: rest => do
      let (key, after) ← key? rest
      match after with
      | ']' :: ']' :: last => some (.repeated key, last)
      | _ => none
  | '[' :: rest => do
      let (key, after) ← key? rest
      match after with
      | ']' :: last => some (.heading key, last)
      | _ => none
  | text => (pair? (value? depthLimit) text).map fun ((key, value), last) =>
      (.assignment key value, last)

def statements? (text : List Char) : Option (List Statement) :=
  match skipLines false text with
  | [] => some []
  | start => do
      let (statement, after) ← statement? start
      let rest ← endOfLine? after
      if rest.length < text.length then
        let more ← statements? rest
        some (statement :: more)
      else none
  termination_by text.length

/-- The table of a document as far as it is stated, and the path of the table
whose heading came last. -/
structure Draft where
  root : Table := ⟨.defined, []⟩
  heading : List String := []

def Draft.follow? (draft : Draft) : Statement → Option Draft
  | .assignment key value => do
      let root ← draft.root.along .implied (Table.assign? key value) draft.heading
      some { draft with root }
  | .heading key => do
      let root ← draft.root.define? key
      some ⟨root, key.path ++ [key.name]⟩
  | .repeated key => do
      let root ← draft.root.append? key
      some ⟨root, key.path ++ [key.name]⟩

def withNewlines : List Char → List Char
  | '\r' :: '\n' :: rest => '\n' :: withNewlines rest
  | char :: rest => char :: withNewlines rest
  | [] => []

/-- A text without the mark that may stand at the beginning of a file. -/
def withoutMark : List Char → List Char
  | '\ufeff' :: rest => rest
  | text => text

def document? (text : String) : Option Entries := do
  let statements ← statements? (withNewlines (withoutMark text.toList))
  let draft ← statements.foldlM Draft.follow? {}
  some draft.root.entries

end InputSharing.Toml
