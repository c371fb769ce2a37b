import InputSharing.Frame.Header
import InputSharing.Identity

/-!
# The pieces of a byte stream

What one node sends to another over a stream of bytes begins with a greeting,
which names the node that opened the channel.  Frames follow it, one directly
after another, and the header of each tells where it ends.

The greeting is the length of the name in two bytes, and the name.
-/

namespace InputSharing.Wire

/-- What stands at the front of the bytes that have arrived so far. -/
inductive Front (α : Type) where
  /-- A whole piece, and the bytes after it. -/
  | whole (piece : α) (rest : Bytes)
  /-- The beginning of a piece. -/
  | unfinished
  /-- Nothing that can be the beginning of a piece. -/
  | broken
  deriving DecidableEq

/-! ## Greetings -/

/-- The greeting of a node, unless its name is too long. -/
def greeting? (device : DeviceId) : Option Bytes :=
  let name := Bytes.ofText device.text
  if name.length < UInt16.size then some (Bytes.ofNumber 2 name.length ++ name) else none

def greeting (bytes : Bytes) : Front DeviceId :=
  let length := Bytes.numberAt 0 2 bytes
  let after := bytes.drop 2
  if bytes.length < 2 ∨ after.length < length then .unfinished
  else
    match Bytes.toText? (after.take length) with
    | none => .broken
    | some name => .whole ⟨name⟩ (after.drop length)

/-! ## Frames -/

def payloadLimit : Nat := 0x100000

/-- The frame at the front of some bytes.  A frame may hold a message that is
not known, but its version has to be. -/
def frame (bytes : Bytes) : Front Bytes :=
  if bytes.length < headerSize then .unfinished
  else
    match frameLength bytes with
    | .error _ => .broken
    | .ok length =>
        if headerSize + payloadLimit < length then .broken
        else if bytes.length < length then .unfinished
        else .whole (bytes.take length) (bytes.drop length)

theorem frame_shorter {bytes piece rest : Bytes} (read : frame bytes = .whole piece rest) :
    rest.length < bytes.length := by
  unfold frame at read
  split at read
  · simp at read
  · next enough =>
    split at read
    · simp at read
    · next length measured =>
      split at read
      · simp at read
      · split at read
        · simp at read
        · next complete =>
          have positive : 0 < length := by
            simp only [frameLength, bind, Except.bind] at measured
            split at measured
            · simp at measured
            · simp only [Except.ok.injEq] at measured
              have : 0 < headerSize := by decide
              omega
          simp only [Front.whole.injEq] at read
          obtain ⟨_, rfl⟩ := read
          simp only [List.length_drop]
          omega

end InputSharing.Wire
