import InputSharing.Identity
import InputSharing.TypeMask

/-!
# Input events and devices

What a device produces, what a sink reports about keys that are still held, and
how a sink describes a device.
-/

namespace InputSharing

/-! ## Codes -/

namespace EventClass

def sync : UInt16 := 0

def key : UInt16 := 1

def relative : UInt16 := 2

def absolute : UInt16 := 3

end EventClass

namespace KeyValue

def released : Int32 := 0

def pressed : Int32 := 1

def repeated : Int32 := 2

end KeyValue

/-! ## Events -/

/-- One event read from a device.  `whenUs` is the time of reading, in
microseconds. -/
structure InputEvent where
  handle : HandleId
  eventClass : UInt16
  code : UInt16
  value : Int32
  whenUs : UInt64
  deriving DecidableEq, Repr, Inhabited

/-- The state of one key of one device. -/
structure KeyState where
  handle : HandleId
  code : UInt16
  value : Int32
  deriving DecidableEq, Repr, Inhabited

/-- A device as its sink describes it. -/
structure Device where
  handle : HandleId
  name : String
  types : TypeMask
  deriving DecidableEq, Repr, Inhabited

/-- The key combinations that a sink keeps for itself, each a list of key
codes. -/
abbrev AllowList : Type := List (List UInt32)

end InputSharing
