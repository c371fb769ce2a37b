import InputSharing.Address.Basic
import InputSharing.Digits

/-!
# Reading addresses

`Address.read?` reads the text of an address.

* Four numbers have points between them, up to three digits each, and do not
  begin with a needless zero.
* Eight groups stand in square brackets with colons between them, up to four
  hexadecimal digits each.  Two colons stand for one or more zero groups.  The
  last two groups, of all or of those after the two colons, may be written as
  four numbers.  An interface may follow, after a percent sign.
* The port follows after a colon.  The port and the interface may begin with
  zeros.
-/

namespace InputSharing

namespace Host

/-- What a reader takes off the front of a text, and the rest of the text. -/
abbrev Taken (α : Type) : Type := Option (α × List Char)

/-! ## Numbers -/

def octet? (text : List Char) : Taken UInt8 :=
  let (found, rest) := Digits.take 10 text
  let value := Digits.toNumber 10 found
  if found.isEmpty ∨ 3 < found.length ∨ (found.head? = some 0 ∧ 1 < found.length) then none
  else if value < UInt8.size then some (value.toUInt8, rest)
  else none

def group? (text : List Char) : Taken UInt16 :=
  let (found, rest) := Digits.take 16 text
  if found.isEmpty ∨ 4 < found.length then none
  else some ((Digits.toNumber 16 found).toUInt16, rest)

def below? (limit : Nat) (text : List Char) : Taken Nat :=
  let (found, rest) := Digits.take 10 text
  let value := Digits.toNumber 10 found
  if found.isEmpty then none else if value < limit then some (value, rest) else none

def exactly? (expected : Char) : List Char → Taken Unit
  | char :: rest => if char = expected then some ((), rest) else none
  | [] => none

/-! ## Hosts -/

def octets? (text : List Char) : Option (Vector UInt8 4 × List Char) := do
  let (first, text) ← octet? text
  let (_, text) ← exactly? '.' text
  let (second, text) ← octet? text
  let (_, text) ← exactly? '.' text
  let (third, text) ← octet? text
  let (_, text) ← exactly? '.' text
  let (fourth, text) ← octet? text
  some (#v[first, second, third, fourth], text)

/-- Groups that were taken off. -/
structure Groups where
  groups : List UInt16
  /-- The last two groups were written as four numbers. -/
  endsDotted : Bool
  rest : List Char

/-- Take off groups, as many as there are and at most `room`.  A colon comes
before each of them, except before the `first` one. -/
def groups : (room : Nat) → (first : Bool) → List Char → Groups
  | 0, _, text => ⟨[], false, text⟩
  | room + 1, first, text =>
      match if first then some ((), text) else exactly? ':' text with
      | none => ⟨[], false, text⟩
      | some (_, start) =>
          match if room = 0 then none else octets? start with
          | some (octets, rest) => ⟨groupsOf octets, true, rest⟩
          | none =>
              match group? start with
              | none => ⟨[], false, text⟩
              | some (group, rest) =>
                  let more := groups room false rest
                  { more with groups := group :: more.groups }

def eight (groups : List UInt16) : Vector UInt16 8 :=
  Vector.ofFn fun place => groups[place.val]?.getD 0

/-- Take off the groups of a host, eight or fewer with two colons. -/
def allGroups? (text : List Char) : Taken (Vector UInt16 8) :=
  let head := groups 8 true text
  if head.groups.length = 8 then some (eight head.groups, head.rest)
  else if head.endsDotted then none
  else
    match head.rest with
    | ':' :: ':' :: rest =>
        let tail := groups (7 - head.groups.length) true rest
        let zeros := List.replicate (8 - head.groups.length - tail.groups.length) 0
        some (eight (head.groups ++ zeros ++ tail.groups), tail.rest)
    | _ => none

/-- Take off an interface, if there is one. -/
def scope? : List Char → Taken UInt32
  | '%' :: rest => (below? UInt32.size rest).map fun (value, last) => (value.toUInt32, last)
  | text => some (0, text)

def take? (text : List Char) : Option (Host × List Char) :=
  match text with
  | '[' :: start => do
      let (groups, text) ← allGroups? start
      let (scope, text) ← scope? text
      let (_, text) ← exactly? ']' text
      some (v6 groups scope, text)
  | text => do
      let (octets, text) ← octets? text
      some (v4 octets, text)

end Host

namespace Address

/-- Read an address, all of the text. -/
def read? (text : String) : Option Address := do
  let (host, text) ← Host.take? text.toList
  let (_, text) ← Host.exactly? ':' text
  let (port, text) ← Host.below? UInt16.size text
  if text.isEmpty then some ⟨host, port.toUInt16⟩ else none

end Address

end InputSharing
