import InputSharing.Frame.Header
import InputSharing.Frame.Payload
import InputSharing.Json.Reader
import InputSharing.Json.Writer

/-!
# Frames

A frame is a header and a payload.  `encode` gives the bytes of a message as a
frame, and `decode` reads the frame at the start of some bytes: it gives the
message and the length of the frame, or the first fault.
-/

namespace InputSharing.Frame

/-- The bytes of a frame.  The header declares the length of the payload up to
what four bytes can hold. -/
def encode (message : Message) (sequence timestampUs : UInt64) : Bytes :=
  let payload := Bytes.ofText message.payload.write
  let header : Header :=
    { command := message.command
      payloadLength := payload.length.toUInt32
      sequence
      timestampUs }
  header.write ++ payload

/-- The message that some bytes hold as the payload of a given kind. -/
def decodePayload (command : Command) (bytes : Bytes) : Except FrameError Message :=
  match (Bytes.toText? bytes).bind Json.read? with
  | none => .error .notJson
  | some payload => Message.ofPayload command payload

/-- The message of the frame at the start of some bytes, and the length of the
frame. -/
def decode (bytes : Bytes) : Except FrameError (Message × Nat) := do
  let header ← Header.read bytes
  let declared := header.payloadLength.toNat
  let available := bytes.length - headerSize
  if available < declared then
    .error (.payloadLengthMismatch declared available)
  else
    let message ← decodePayload header.command ((bytes.drop headerSize).take declared)
    .ok (message, headerSize + declared)

/-- The frames at the start of some bytes: those that decode, one after another,
and then the first fault.  Every frame comes with the number in its header, and
so does the fault when its header can be read. -/
structure Stream where
  frames : List (UInt64 × Message × Nat)
  /-- The fault that ends the stream, unless the bytes end with a frame. -/
  fault : Option (Option UInt64 × FrameError)

def sequence? (bytes : Bytes) : Option UInt64 :=
  (Header.read bytes).toOption.map Header.sequence

def decodeAll (bytes : Bytes) : Stream :=
  match bytes with
  | [] => ⟨[], none⟩
  | first :: rest =>
      match decode (first :: rest) with
      | .error fault => ⟨[], some (sequence? (first :: rest), fault)⟩
      | .ok (message, length) =>
          let sequence := (sequence? (first :: rest)).getD 0
          -- A frame has at least one byte, so dropping `length - 1` bytes of `rest` drops it.
          let stream := decodeAll (rest.drop (length - 1))
          ⟨(sequence, message, length) :: stream.frames, stream.fault⟩
  termination_by bytes.length
  decreasing_by simp only [List.length_cons, List.length_drop]; omega

end InputSharing.Frame
