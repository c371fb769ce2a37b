import Std.Data.ExtTreeMap

/-!
# JSON values

The payload of a frame is a JSON object.  Integers that fit into 64 bits, with
or without a sign, are kept exactly.  Every other number is `real`: no field of
a payload may hold one, so its value is not kept.
-/

namespace InputSharing

/-- A JSON value. -/
inductive Json where
  | null
  | bool (value : Bool)
  | int (value : Int)
  /-- A number with a fraction or an exponent, negative zero, or an integer
  beyond 64 bits. -/
  | real
  | string (text : String)
  | array (elements : List Json)
  /-- The fields in the order in which they are written. -/
  | object (fields : List (String × Json))
  deriving Inhabited

namespace Json

/-- The field of a given name.  When a name is written several times, the last
field of that name counts. -/
def field? (fields : List (String × Json)) (name : String) : Option Json :=
  fields.reverse.lookup name

def bool? : Json → Option Bool
  | bool value => some value
  | _ => none

def string? : Json → Option String
  | string text => some text
  | _ => none

def array? : Json → Option (List Json)
  | array elements => some elements
  | _ => none

def object? : Json → Option (List (String × Json))
  | object fields => some fields
  | _ => none

def intWithin? (least greatest : Int) : Json → Option Int
  | int value => if least ≤ value ∧ value ≤ greatest then some value else none
  | _ => none

def uint64? (json : Json) : Option UInt64 :=
  (json.intWithin? 0 0xFFFFFFFFFFFFFFFF).map fun value => value.toNat.toUInt64

def uint32? (json : Json) : Option UInt32 :=
  (json.intWithin? 0 0xFFFFFFFF).map fun value => value.toNat.toUInt32

def uint16? (json : Json) : Option UInt16 :=
  (json.intWithin? 0 0xFFFF).map fun value => value.toNat.toUInt16

def int32? (json : Json) : Option Int32 :=
  (json.intWithin? (-0x80000000) 0x7FFFFFFF).map Int32.ofInt

end Json

end InputSharing
