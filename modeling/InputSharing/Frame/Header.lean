import InputSharing.Command
import InputSharing.Frame.Bytes
import InputSharing.Frame.Error

/-!
# Frame headers

A frame starts with a header of 28 bytes, all numbers with their most
significant byte first:

* the version of the protocol, one byte;
* three reserved bytes, written as zero and not looked at when read;
* the number of the command, four bytes;
* the length of the payload, four bytes;
* the number of the frame, eight bytes;
* the time of sending in microseconds, eight bytes.
-/

namespace InputSharing

def protocolVersion : UInt8 := 1

/-- What the header of a frame says. -/
structure Header where
  command : Command
  payloadLength : UInt32
  sequence : UInt64
  timestampUs : UInt64
  deriving DecidableEq, Repr

namespace Header

def write (header : Header) : Bytes :=
  [protocolVersion, 0, 0, 0] ++ Bytes.ofNumber 4 header.command.code.toNat ++
    Bytes.ofNumber 4 header.payloadLength.toNat ++ Bytes.ofNumber 8 header.sequence.toNat ++
    Bytes.ofNumber 8 header.timestampUs.toNat

/-- Whether some bytes can start with a header at all: there are enough of them
and the version is right. -/
def check (bytes : Bytes) : Except FrameError Unit :=
  if bytes.length < headerSize then .error (.insufficientData bytes.length)
  else
    match bytes with
    | version :: _ =>
        if version = protocolVersion then .ok () else .error (.unsupportedVersion version)
    | [] => .error (.insufficientData 0)

def declaredLength (bytes : Bytes) : Nat := Bytes.numberAt 8 4 bytes

def commandNumber (bytes : Bytes) : UInt32 := (Bytes.numberAt 4 4 bytes).toUInt32

def read (bytes : Bytes) : Except FrameError Header := do
  check bytes
  match Command.ofCode? (commandNumber bytes) with
  | none => .error (.unknownCommand (commandNumber bytes))
  | some command =>
      .ok
        { command
          payloadLength := (declaredLength bytes).toUInt32
          sequence := (Bytes.numberAt 12 8 bytes).toUInt64
          timestampUs := (Bytes.numberAt 20 8 bytes).toUInt64 }

end Header

/-- The length of the frame at the start of some bytes, header included.  The
command is not looked at, so that a reader can step over a frame that it does
not know. -/
def frameLength (bytes : Bytes) : Except FrameError Nat := do
  Header.check bytes
  .ok (headerSize + Header.declaredLength bytes)

end InputSharing
