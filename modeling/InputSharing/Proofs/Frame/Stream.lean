import InputSharing.Frame.Codec
import InputSharing.Proofs.Frame.Payload
import InputSharing.Proofs.Frame.Written

/-!
# Frames come back from a stream of bytes

A frame is read back from its bytes, whatever follows them, and so is every frame
of a stream in turn.  The payload of a frame must not be longer than its header
can say.
-/

namespace InputSharing

namespace Bytes

theorem numberAt_ofNumber {offset width : Nat} {before : Bytes} (place : before.length = offset)
    (number : Nat) (after : Bytes) :
    numberAt offset width (before ++ (ofNumber width number ++ after)) =
      number % Nat.pow 256 width := by
  have taken : (ofNumber width number ++ after).take width = ofNumber width number :=
    List.take_left' (length_ofNumber width number)
  rw [numberAt, List.drop_left' place, taken, toNumber_ofNumber]

end Bytes

/-! ## Headers -/

namespace Header

theorem length_write (header : Header) : header.write.length = headerSize := by
  simp [write, headerSize]

theorem check_write (header : Header) (rest : Bytes) :
    check (header.write ++ rest) = .ok () := by
  have long : ¬ (header.write ++ rest).length < headerSize := by
    rw [List.length_append, length_write]
    omega
  rw [check.eq_def, if_neg long]
  rfl

/-- The header of a frame, taken apart at its numbers. -/
theorem write_append (header : Header) (rest : Bytes) :
    header.write ++ rest =
      [protocolVersion, 0, 0, 0] ++ (Bytes.ofNumber 4 header.command.code.toNat ++
        (Bytes.ofNumber 4 header.payloadLength.toNat ++
          (Bytes.ofNumber 8 header.sequence.toNat ++
            (Bytes.ofNumber 8 header.timestampUs.toNat ++ rest)))) := by
  simp only [write, List.append_assoc]

theorem commandNumber_write (header : Header) (rest : Bytes) :
    commandNumber (header.write ++ rest) = header.command.code := by
  have bound := header.command.code.toNat_lt
  rw [commandNumber, write_append, Bytes.numberAt_ofNumber (by simp),
    Nat.mod_eq_of_lt bound]
  exact UInt32.ofNat_toNat

theorem declaredLength_write (header : Header) (rest : Bytes) :
    declaredLength (header.write ++ rest) = header.payloadLength.toNat := by
  have bound := header.payloadLength.toNat_lt
  rw [declaredLength, write_append, ← List.append_assoc, Bytes.numberAt_ofNumber (by simp),
    Nat.mod_eq_of_lt bound]

theorem sequence_write (header : Header) (rest : Bytes) :
    Bytes.numberAt 12 8 (header.write ++ rest) = header.sequence.toNat := by
  have bound := header.sequence.toNat_lt
  rw [write_append, ← List.append_assoc, ← List.append_assoc,
    Bytes.numberAt_ofNumber (by simp), Nat.mod_eq_of_lt bound]

theorem timestampUs_write (header : Header) (rest : Bytes) :
    Bytes.numberAt 20 8 (header.write ++ rest) = header.timestampUs.toNat := by
  have bound := header.timestampUs.toNat_lt
  rw [write_append, ← List.append_assoc, ← List.append_assoc, ← List.append_assoc,
    Bytes.numberAt_ofNumber (by simp), Nat.mod_eq_of_lt bound]

/-- A header comes back from its bytes. -/
theorem read_write (header : Header) (rest : Bytes) :
    read (header.write ++ rest) = .ok header := by
  have length := declaredLength_write header rest
  have sequence := sequence_write header rest
  have timestampUs := timestampUs_write header rest
  rw [read, check_write, commandNumber_write, Command.ofCode?_code, length, sequence, timestampUs]
  simp [bind, Except.bind]

end Header

/-! ## Frames -/

/-- A message with the numbers that its frame is stamped with. -/
structure Stamped where
  message : Message
  sequence : UInt64
  timestampUs : UInt64

namespace Stamped

def bytes (stamped : Stamped) : Bytes :=
  Frame.encode stamped.message stamped.sequence stamped.timestampUs

def payload (stamped : Stamped) : Bytes := Bytes.ofText stamped.message.payload.write

def header (stamped : Stamped) : Header where
  command := stamped.message.command
  payloadLength := stamped.payload.length.toUInt32
  sequence := stamped.sequence
  timestampUs := stamped.timestampUs

/-- The header can say how long the payload is. -/
def Fits (stamped : Stamped) : Prop := stamped.payload.length < UInt32.size

variable {stamped : Stamped}

theorem bytes_eq (stamped : Stamped) : stamped.bytes = stamped.header.write ++ stamped.payload :=
  rfl

theorem payloadLength_header (fits : stamped.Fits) :
    stamped.header.payloadLength.toNat = stamped.payload.length :=
  UInt32.toNat_ofNat_of_lt fits

theorem length_bytes (stamped : Stamped) :
    stamped.bytes.length = headerSize + stamped.payload.length := by
  rw [bytes_eq, List.length_append, Header.length_write]

theorem readHeader_bytes (stamped : Stamped) (rest : Bytes) :
    Header.read (stamped.bytes ++ rest) = .ok stamped.header := by
  rw [bytes_eq, List.append_assoc]
  exact Header.read_write stamped.header (stamped.payload ++ rest)

theorem decodePayload_payload (stamped : Stamped) :
    Frame.decodePayload stamped.message.command stamped.payload = .ok stamped.message := by
  rw [Frame.decodePayload, payload, Bytes.toText?_ofText, Option.bind_some,
    Message.read?_write_payload]
  exact Message.ofPayload_payload stamped.message

theorem decode_bytes (fits : stamped.Fits) (rest : Bytes) :
    Frame.decode (stamped.bytes ++ rest) = .ok (stamped.message, stamped.bytes.length) := by
  have header := stamped.readHeader_bytes rest
  have declared := payloadLength_header fits
  have available :
      ¬ (stamped.bytes ++ rest).length - headerSize < stamped.header.payloadLength.toNat := by
    rw [List.length_append, length_bytes, declared]
    omega
  have after : (stamped.bytes ++ rest).drop headerSize = stamped.payload ++ rest := by
    rw [bytes_eq, List.append_assoc]
    exact List.drop_left' (Header.length_write stamped.header)
  have whole :
      (stamped.payload ++ rest).take stamped.header.payloadLength.toNat = stamped.payload :=
    List.take_left' declared.symm
  have message := stamped.decodePayload_payload
  rw [Frame.decode, header]
  dsimp only [bind, Except.bind]
  rw [if_neg available, after, whole]
  rw [show stamped.header.command = stamped.message.command from rfl, message, declared,
    length_bytes]

end Stamped

/-! ## Streams -/

namespace Frame

/-- Read a number of frames from the start of some bytes: the header of each, its
message and its length, and the bytes that are left. -/
def readFrames : Nat → Bytes → Except FrameError (List (Header × Message × Nat) × Bytes)
  | 0, bytes => .ok ([], bytes)
  | count + 1, bytes => do
      let header ← Header.read bytes
      let (message, length) ← decode bytes
      let (more, rest) ← readFrames count (bytes.drop length)
      .ok ((header, message, length) :: more, rest)

/-- What is read of a frame. -/
def reading (stamped : Stamped) : Header × Message × Nat :=
  (stamped.header, stamped.message, stamped.bytes.length)

theorem readFrames_flatMap {frames : List Stamped} (fits : ∀ stamped ∈ frames, stamped.Fits)
    (trailing : Bytes) :
    readFrames frames.length (frames.flatMap Stamped.bytes ++ trailing) =
      .ok (frames.map reading, trailing) := by
  induction frames with
  | nil =>
      rfl
  | cons first more inductionHypothesis =>
      have later := inductionHypothesis fun stamped listed =>
        fits stamped (List.mem_cons_of_mem first listed)
      have header := first.readHeader_bytes (more.flatMap Stamped.bytes ++ trailing)
      have message := Stamped.decode_bytes (fits first List.mem_cons_self)
        (more.flatMap Stamped.bytes ++ trailing)
      rw [List.flatMap_cons, List.append_assoc, List.length_cons, readFrames, header, message]
      dsimp only [bind, Except.bind]
      rw [List.drop_left, later]
      rfl

theorem sequence?_bytes (stamped : Stamped) (rest : Bytes) :
    sequence? (stamped.bytes ++ rest) = some stamped.sequence := by
  rw [sequence?, stamped.readHeader_bytes rest]
  rfl

/-- The frames of a stream and its fault, after a frame that can be read. -/
theorem decodeAll_bytes {stamped : Stamped} (fits : stamped.Fits) (rest : Bytes) :
    decodeAll (stamped.bytes ++ rest) =
      ⟨(stamped.sequence, stamped.message, stamped.bytes.length) :: (decodeAll rest).frames,
        (decodeAll rest).fault⟩ := by
  have message := Stamped.decode_bytes fits rest
  have sequence := sequence?_bytes stamped rest
  have length := stamped.length_bytes
  have dropped : (stamped.bytes ++ rest).drop stamped.bytes.length = rest := List.drop_left
  cases written : stamped.bytes ++ rest with
  | nil =>
      have empty := congrArg List.length (List.append_eq_nil_iff.1 written).1
      rw [length, headerSize, List.length_nil] at empty
      omega
  | cons first more =>
      obtain ⟨shorter, one⟩ : ∃ shorter, stamped.bytes.length = shorter + 1 :=
        ⟨headerSize + stamped.payload.length - 1, by rw [length, headerSize]; omega⟩
      rw [written] at message sequence dropped
      rw [one, List.drop_succ_cons] at dropped
      rw [decodeAll, message]
      simp only [one, Nat.add_sub_cancel, dropped, sequence, Option.getD_some]

theorem decodeAll_flatMap {frames : List Stamped} (fits : ∀ stamped ∈ frames, stamped.Fits)
    (trailing : Bytes) :
    decodeAll (frames.flatMap Stamped.bytes ++ trailing) =
      ⟨(frames.map fun stamped => (stamped.sequence, stamped.message, stamped.bytes.length)) ++
          (decodeAll trailing).frames,
        (decodeAll trailing).fault⟩ := by
  induction frames with
  | nil =>
      rfl
  | cons first more inductionHypothesis =>
      have later := inductionHypothesis fun stamped listed =>
        fits stamped (List.mem_cons_of_mem first listed)
      rw [List.flatMap_cons, List.append_assoc, decodeAll_bytes (fits first List.mem_cons_self),
        later]
      rfl

/-- Frames of any messages, stamped with any numbers, come back from their bytes
one after another, whatever follows them: the header of each with its command,
the length of its payload and its numbers, then its message, and its own length.
A reader that goes on until something is amiss finds these frames first and then
what follows. -/
theorem stream_round_trip (frames : List Stamped) (trailing : Bytes)
    (fits : ∀ stamped ∈ frames, stamped.Fits) :
    readFrames frames.length (frames.flatMap Stamped.bytes ++ trailing) =
      .ok (frames.map reading, trailing) ∧
    (∀ stamped ∈ frames,
      stamped.header.payloadLength.toNat = stamped.payload.length ∧
        stamped.bytes.length = headerSize + stamped.payload.length) ∧
    decodeAll (frames.flatMap Stamped.bytes ++ trailing) =
      ⟨(frames.map fun stamped => (stamped.sequence, stamped.message, stamped.bytes.length)) ++
          (decodeAll trailing).frames,
        (decodeAll trailing).fault⟩ := by
  refine ⟨readFrames_flatMap fits trailing, ?_, decodeAll_flatMap fits trailing⟩
  intro stamped listed
  exact ⟨Stamped.payloadLength_header (fits stamped listed), stamped.length_bytes⟩

/-- Two frames, one of them with text that must be escaped. -/
def sampleFrames : List Stamped :=
  [⟨.request ⟨"d\"\u0001é"⟩ (.startByHandles (HandleSet.ofList [⟨"b"⟩, ⟨"a"⟩])), 7,
      0xFFFFFFFFFFFFFFFF⟩,
    ⟨.inputEvents ⟨""⟩ [⟨⟨"kbd"⟩, 1, 0xFFFF, -0x80000000, 0xFFFFFFFFFFFFFFFF⟩], 8, 0⟩]

theorem stream_round_trip_sample :
    (∀ stamped ∈ sampleFrames, stamped.Fits) ∧
      readFrames 2 (sampleFrames.flatMap Stamped.bytes ++ [1, 0]) =
        .ok (sampleFrames.map reading, [1, 0]) := by
  have fits : ∀ stamped ∈ sampleFrames, stamped.Fits := by
    intro stamped listed
    rcases List.mem_cons.1 listed with first | second
    · rw [first]
      unfold Stamped.Fits
      decide +kernel
    · rw [List.mem_singleton.1 second]
      unfold Stamped.Fits
      decide +kernel
  exact ⟨fits, (stream_round_trip sampleFrames [1, 0] fits).1⟩

end Frame

end InputSharing
