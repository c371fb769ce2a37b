import Std.Data.ExtTreeMap
import Std.Data.ExtTreeSet

/-!
# Identifiers

Every name that crosses a boundary has a type of its own, so that the handle of
a device is never taken for the name of a node:

* a `DeviceId` names a node on the network;
* a `HandleId` names one physical input device of a node;
* a `SessionId` names one open channel;
* a `RelayToken` names one forwarded request.

All of them are ordered, names by their code points and numbers by size.  A
`Table` is a finite map over such a key.  Two tables with the same entries are
equal, and a table lists its entries in the order of its keys.
-/

namespace InputSharing

open Std

/-- Comparing by an injective key tells distinct values apart. -/
theorem lawfulEqCmp_compareOn {α β : Type} [Ord β] [LawfulEqOrd β] (key : α → β)
    (key_injective : ∀ first second, key first = key second → first = second) :
    LawfulEqCmp (compareOn key) where
  compare_self := fun {tested} => ReflCmp.compare_self (a := key tested)
  eq_of_compare := fun {first second} equal =>
    key_injective first second (LawfulEqCmp.eq_of_compare equal)

/-! ## Names -/

/-- The network name of a node. -/
structure DeviceId where
  text : String
  deriving DecidableEq, Repr, Inhabited

instance : Ord DeviceId := ⟨compareOn DeviceId.text⟩

instance : TransOrd DeviceId := inferInstanceAs (TransCmp (compareOn DeviceId.text))

instance : LawfulEqOrd DeviceId :=
  lawfulEqCmp_compareOn DeviceId.text fun ⟨_⟩ ⟨_⟩ equal => congrArg DeviceId.mk equal

/-- The name of one physical input device of a sink. -/
structure HandleId where
  text : String
  deriving DecidableEq, Repr, Inhabited

instance : Ord HandleId := ⟨compareOn HandleId.text⟩

instance : TransOrd HandleId := inferInstanceAs (TransCmp (compareOn HandleId.text))

instance : LawfulEqOrd HandleId :=
  lawfulEqCmp_compareOn HandleId.text fun ⟨_⟩ ⟨_⟩ equal => congrArg HandleId.mk equal

/-! ## Numbers -/

/-- The number of one open channel. -/
structure SessionId where
  number : UInt32
  deriving DecidableEq, Repr, Inhabited

namespace SessionId

instance : Ord SessionId := ⟨compareOn SessionId.number⟩

instance : TransOrd SessionId := inferInstanceAs (TransCmp (compareOn SessionId.number))

instance : LawfulEqOrd SessionId :=
  lawfulEqCmp_compareOn SessionId.number fun ⟨_⟩ ⟨_⟩ equal => congrArg SessionId.mk equal

/-- The text under which a session appears in messages to people. -/
def display (session : SessionId) : String :=
  "session#" ++ toString session.number.toNat

end SessionId

/-- The number a relaying node gives to one forwarded request.  It travels to
the sink with the request and comes back unchanged in the answer. -/
structure RelayToken where
  number : UInt64
  deriving DecidableEq, Repr, Inhabited

namespace RelayToken

instance : Ord RelayToken := ⟨compareOn RelayToken.number⟩

instance : TransOrd RelayToken := inferInstanceAs (TransCmp (compareOn RelayToken.number))

instance : LawfulEqOrd RelayToken :=
  lawfulEqCmp_compareOn RelayToken.number fun ⟨_⟩ ⟨_⟩ equal => congrArg RelayToken.mk equal

/-- The text under which a token appears in messages to people. -/
def display (token : RelayToken) : String :=
  "relay#" ++ toString token.number.toNat

end RelayToken

/-! ## Roles and endpoints -/

/-- The two halves of a node: one asks for devices, the other owns them. -/
inductive Role where
  | source
  | sink
  deriving DecidableEq, Repr, Inhabited

namespace Role

def all : List Role := [source, sink]

def name : Role → String
  | source => "Source"
  | sink => "Sink"

def ofName? (name : String) : Option Role := all.find? fun role => role.name = name

def rank : Role → Nat
  | source => 0
  | sink => 1

instance : Ord Role := ⟨compareOn rank⟩

instance : TransOrd Role := inferInstanceAs (TransCmp (compareOn rank))

instance : LawfulEqOrd Role :=
  lawfulEqCmp_compareOn rank fun first second equal => by
    cases first <;> cases second <;> simp_all [rank]

end Role

/-- One half of one node, as an address on the network. -/
structure Endpoint where
  device : DeviceId
  role : Role
  deriving DecidableEq, Repr, Inhabited

namespace Endpoint

instance : Ord Endpoint := ⟨compareLex (compareOn device) (compareOn role)⟩

instance : TransOrd Endpoint :=
  inferInstanceAs (TransCmp (compareLex (compareOn device) (compareOn role)))

instance : LawfulEqOrd Endpoint where
  compare_self := fun {tested} =>
    @ReflCmp.compare_self _ (compareLex (compareOn device) (compareOn role)) _ tested
  eq_of_compare := fun {first second} equal => by
    obtain ⟨same_device, same_role⟩ := compareLex_eq_eq.mp equal
    obtain ⟨first_device, first_role⟩ := first
    obtain ⟨second_device, second_role⟩ := second
    obtain rfl : first_device = second_device := LawfulEqCmp.eq_of_compare same_device
    obtain rfl : first_role = second_role := LawfulEqCmp.eq_of_compare same_role
    rfl

end Endpoint

/-! ## Tables and sets of handles -/

/-- A finite map, determined by its entries and listed by key. -/
abbrev Table (κ ν : Type) [Ord κ] : Type := ExtTreeMap κ ν compare

/-- A finite set of device handles, determined by its members and listed in
the order of their names. -/
abbrev HandleSet : Type := ExtTreeSet HandleId compare

namespace HandleSet

def ofList (handles : List HandleId) : HandleSet := ExtTreeSet.ofList handles compare

@[simp]
theorem mem_ofList (handles : List HandleId) (handle : HandleId) :
    handle ∈ ofList handles ↔ handle ∈ handles := by
  simp [ofList, ExtTreeSet.mem_ofList]

/-- A set is the set of the handles it lists. -/
@[simp]
theorem ofList_toList (handles : HandleSet) : ofList handles.toList = handles :=
  ExtTreeSet.ext_mem fun handle => by simp [ExtTreeSet.mem_toList]

def ofKeys {ν : Type} (table : Table HandleId ν) : HandleSet := ofList table.keys

end HandleSet

end InputSharing
