import InputSharing.Json.Value
import InputSharing.Toml.Value

/-!
# TOML values and JSON values

The values of both formats are much the same.  A null value has no counterpart
in TOML, so it is left out; the kinds of tables have none in JSON.
-/

namespace InputSharing.Toml

mutual

def ofJson? : Json → Option Toml
  | .null => none
  | .bool value => some (.boolean value)
  | .int value => some (.integer value)
  | .real => some .float
  | .string text => some (.string text)
  | .array elements => some (.array (ofElements elements))
  | .object fields => some (.table .defined (ofFields fields))

def ofElements : List Json → List Toml
  | [] => []
  | element :: more => (ofJson? element).toList ++ ofElements more

def ofFields : List (String × Json) → Entries
  | [] => []
  | (name, value) :: more =>
      match ofJson? value with
      | some value => (name, value) :: ofFields more
      | none => ofFields more

end

mutual

/-- The JSON value of a TOML value.  A moment is not kept, and neither is the
value of a float. -/
def toJson : Toml → Json
  | .string text => .string text
  | .integer value => .int value
  | .float => .real
  | .boolean value => .bool value
  | .dateTime => .null
  | .array elements => .array (elementsToJson elements)
  | .table _ entries => .object (entriesToJson entries)
  | .tables elements => .array (tablesToJson elements)

def elementsToJson : List Toml → List Json
  | [] => []
  | element :: more => element.toJson :: elementsToJson more

def entriesToJson : Entries → List (String × Json)
  | [] => []
  | (name, value) :: more => (name, value.toJson) :: entriesToJson more

def tablesToJson : List Entries → List Json
  | [] => []
  | entries :: more => .object (entriesToJson entries) :: tablesToJson more

end

end InputSharing.Toml
