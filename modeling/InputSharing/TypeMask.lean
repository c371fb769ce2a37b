/-!
# Classes of input devices

A `TypeMask` is a set of device classes, one bit a class.  Only three classes
have a name; the other bits travel unchanged.
-/

namespace InputSharing

/-- A set of device classes, one bit for each class. -/
structure TypeMask where
  bits : UInt32
  deriving DecidableEq, Repr, Inhabited

namespace TypeMask

def mouse : TypeMask := ⟨1⟩

def keyboard : TypeMask := ⟨2⟩

def touchpad : TypeMask := ⟨4⟩

instance : EmptyCollection TypeMask := ⟨⟨0⟩⟩

instance : Union TypeMask := ⟨fun first second => ⟨first.bits ||| second.bits⟩⟩

instance : Inter TypeMask := ⟨fun first second => ⟨first.bits &&& second.bits⟩⟩

instance : SDiff TypeMask := ⟨fun first second => ⟨first.bits &&& ~~~second.bits⟩⟩

def isEmpty (mask : TypeMask) : Bool := mask.bits == 0

def contains (mask other : TypeMask) : Bool := (mask ∩ other) == other

def intersects (mask other : TypeMask) : Bool := !(mask ∩ other).isEmpty

/-! ## Text -/

/-- The classes that have a name, in the order in which they are named. -/
def named : List (TypeMask × String) :=
  [(mouse, "mouse"), (keyboard, "keyboard"), (touchpad, "touchpad")]

def unnamed (mask : TypeMask) : TypeMask :=
  named.foldl (fun rest entry => rest \ entry.1) mask

def capitalHex (number : Nat) : String :=
  String.ofList ((Nat.toDigits 16 number).map Char.toUpper)

/-- The names of the classes with bars between them; the bits without a name
follow as one number. -/
def display (mask : TypeMask) : String :=
  if mask.isEmpty then
    "none"
  else
    let names := (named.filter fun entry => mask.contains entry.1).map Prod.snd
    let rest := mask.unnamed
    "|".intercalate names ++
      if rest.isEmpty then "" else "|0x" ++ capitalHex rest.bits.toNat

end TypeMask

end InputSharing
