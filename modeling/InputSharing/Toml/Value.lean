import Std.Data.ExtTreeMap

/-!
# TOML values

A TOML document is a table: entries with names, some of which hold tables in
turn.  A document states its entries one by one, and the statements that may
still add to a table depend on how the table came about:

* a `defined` table has a heading of its own; no dotted name leads into it;
* an `implied` table was only passed through by the heading of a table inside
  it, so one heading of its own may follow;
* a `dotted` table was made by a dotted name; further dotted names may lead
  into it, but no heading defines it again;
* a `closed` table is written between braces, and nothing is added to it.

Every name is stated once at most.  Numbers with a fraction, dates and times
are told apart from other values, but what they are worth is not kept.
-/

namespace InputSharing

/-- How a table came about. -/
inductive Toml.Kind where
  | defined
  | implied
  | dotted
  | closed
  deriving DecidableEq, Repr

/-- A TOML value. -/
inductive Toml where
  | string (text : String)
  | integer (value : Int)
  /-- A number with a fraction or an exponent. -/
  | float
  | boolean (value : Bool)
  /-- A date, a time, or both. -/
  | dateTime
  | array (elements : List Toml)
  | table (kind : Toml.Kind) (entries : List (String × Toml))
  /-- The tables with one repeated heading, in the order of the document. -/
  | tables (elements : List (List (String × Toml)))
  deriving Inhabited

namespace Toml

/-- Entries with their names. -/
abbrev Entries : Type := List (String × Toml)

/-- A table to which entries are added. -/
structure Table where
  kind : Kind
  entries : Entries := []

/-- A dotted name: the names of the tables on the way, and a last name. -/
structure Key where
  path : List String
  name : String

namespace Table

/-! ## Entries -/

/-- Hold a value under a name, in the place of an earlier one. -/
def put (table : Table) (name : String) (value : Toml) : Table :=
  if (table.entries.lookup name).isSome then
    { table with
      entries := table.entries.map fun entry =>
        if entry.1 = name then (name, value) else entry }
  else { table with entries := table.entries ++ [(name, value)] }

def add? (table : Table) (name : String) (value : Toml) : Option Table :=
  if (table.entries.lookup name).isSome then none else some (table.put name value)

def toToml (table : Table) : Toml := .table table.kind table.entries

/-- Change the table at the end of a path.  A table that is missing on the way
is made, of kind `made`.  A path of repeated tables leads into the last of
them. -/
def along (made : Kind) (change : Table → Option Table) :
    (path : List String) → Table → Option Table
  | [], current => change current
  | name :: path, current =>
      match current.entries.lookup name with
      | none =>
          (along made change path ⟨made, []⟩).map fun inner => current.put name inner.toToml
      | some (.table kind entries) =>
          if kind = .closed ∨ (kind = .defined ∧ made = .dotted) then none
          else
            (along made change path ⟨kind, entries⟩).map fun inner =>
              current.put name inner.toToml
      | some (.tables elements) => do
          let last ← elements.getLast?
          let inner ← along made change path ⟨.defined, last⟩
          some (current.put name (.tables (elements.dropLast ++ [inner.entries])))
      | some _ => none

/-! ## Statements -/

def assign? (key : Key) (value : Toml) (table : Table) : Option Table :=
  let change (inner : Table) : Option Table :=
    if key.path.isEmpty ∨ inner.kind = .dotted then inner.add? key.name value else none
  along .dotted change key.path table

def define? (key : Key) (table : Table) : Option Table :=
  let change (outer : Table) : Option Table :=
    match outer.entries.lookup key.name with
    | none => some (outer.put key.name (.table .defined []))
    | some (.table .implied entries) => some (outer.put key.name (.table .defined entries))
    | some _ => none
  along .implied change key.path table

def append? (key : Key) (table : Table) : Option Table :=
  let change (outer : Table) : Option Table :=
    match outer.entries.lookup key.name with
    | none => some (outer.put key.name (.tables [[]]))
    | some (.tables elements) => some (outer.put key.name (.tables (elements ++ [[]])))
    | some _ => none
  along .implied change key.path table

end Table

end Toml

end InputSharing
