import InputSharing.Digits

/-!
# Bytes

Numbers travel with their most significant byte first, and text travels in
UTF-8.
-/

namespace InputSharing

/-- A piece of a byte stream. -/
abbrev Bytes : Type := List UInt8

namespace Bytes

/-! ## Numbers -/

/-- The last `width` bytes of a number, the most significant first. -/
def ofNumber : (width : Nat) → (number : Nat) → Bytes
  | 0, _ => []
  | width + 1, number => ofNumber width (number / 256) ++ [number.toUInt8]

def toNumber (bytes : Bytes) : Nat :=
  bytes.foldl (fun number byte => 256 * number + byte.toNat) 0

/-- The number in the `width` bytes that follow the first `offset` ones. -/
def numberAt (offset width : Nat) (bytes : Bytes) : Nat :=
  toNumber ((bytes.drop offset).take width)

@[simp]
theorem length_ofNumber (width number : Nat) : (ofNumber width number).length = width := by
  induction width generalizing number with
  | zero => rfl
  | succ width shorter => simp [ofNumber, shorter]

/-- A number comes back from its bytes, up to what they can hold. -/
theorem toNumber_ofNumber (width number : Nat) :
    toNumber (ofNumber width number) = number % Nat.pow 256 width := by
  induction width generalizing number with
  | zero => simp [ofNumber, toNumber, Nat.mod_one]
  | succ width shorter =>
      have upper := shorter (number / 256)
      simp only [toNumber] at upper
      simp only [ofNumber, toNumber, List.foldl_append, List.foldl_cons, List.foldl_nil, upper]
      have low : number.toUInt8.toNat = number % 256 := by simp
      rw [low, Nat.pow_eq, Nat.pow_eq, Nat.pow_succ, Nat.mul_comm (256 ^ width) 256, Nat.mod_mul]
      omega

/-! ## Hexadecimal digits -/

def digit (number : UInt8) : Char :=
  Char.ofNat (if number < 10 then 48 + number.toNat else 87 + number.toNat)

/-- Bytes as people read them, two small hexadecimal digits each. -/
def toHex (bytes : Bytes) : String :=
  String.ofList (bytes.flatMap fun byte => [digit (byte / 16), digit (byte % 16)])

/-- Read pairs of hexadecimal digits after the bytes `read`, the last of which
comes first. -/
def readDigits? : List Char → (read : Bytes) → Option Bytes
  | [], read => some read.reverse
  | [_], _ => none
  | high :: low :: rest, read =>
      match Digits.below? 16 high, Digits.below? 16 low with
      | some upper, some lower => readDigits? rest ((16 * upper + lower).toUInt8 :: read)
      | _, _ => none

def ofHex? (text : String) : Option Bytes := readDigits? text.toList []

/-! ## Text -/

def ofText (text : String) : Bytes := text.toUTF8.data.toList

def toText? (bytes : Bytes) : Option String := String.fromUTF8? ⟨bytes.toArray⟩

/-- A text comes back from its bytes. -/
@[simp]
theorem toText?_ofText (text : String) : toText? (ofText text) = some text := by
  simp only [toText?, ofText, Array.toArray_toList]
  exact dif_pos text.isValidUTF8

end Bytes

end InputSharing
