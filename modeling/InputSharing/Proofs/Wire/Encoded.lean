import InputSharing.Proofs.Wire.Receiving

/-!
# Which frames pass

A frame that was composed from a message says truly how long it is, as far as four bytes
can say it.  A receiver takes it if its payload is not longer than a receiver allows, and
goes on with what follows.  At a longer frame the receiver closes the channel.
-/

namespace InputSharing

namespace Header

/-- The bytes of a header are those of the grammar. -/
theorem heads_write (header : Header) :
    Frame.Heads header.command.code header.payloadLength header.write := by
  refine ⟨[0, 0, 0],
    Bytes.ofNumber 8 header.sequence.toNat ++ Bytes.ofNumber 8 header.timestampUs.toNat, rfl, ?_,
    ?_⟩
  · rw [List.length_append, Bytes.length_ofNumber, Bytes.length_ofNumber]
  · rw [write, List.append_assoc _ (Bytes.ofNumber 8 _)]
    rfl

end Header

namespace Wire

section Composed

variable {stamped : Stamped}

theorem passable_bytes (fits : stamped.Fits) (small : stamped.payload.length ≤ 0x100000) :
    Passable stamped.bytes :=
  ⟨_, _, _, stamped.payload, stamped.bytes_eq, stamped.header.heads_write,
    (Stamped.payloadLength_header fits).symm, small⟩

theorem frame_of_large (fits : stamped.Fits) (large : 0x100000 < stamped.payload.length)
    (rest : Bytes) : frame (stamped.bytes ++ rest) = .broken := by
  have declared := Stamped.payloadLength_header fits
  have above : payloadLimit < stamped.header.payloadLength.toNat := by
    rw [declared]
    exact large
  rw [stamped.bytes_eq, List.append_assoc, frame_of_heads stamped.header.heads_write, if_pos above]

/-- No frame stands at the front of bytes that begin with a frame that is too long. -/
theorem cut_of_large (fits : stamped.Fits) (large : 0x100000 < stamped.payload.length)
    (rest : Bytes) : Cut (stamped.bytes ++ rest) [] := by
  refine .nil fun piece remains found => ?_
  rw [frame_of_large fits large] at found
  cases found

/-- A composed frame whose length its header can say is announced with its true length.
After a greeting and any frames that pass, it is passed on whole if its payload has at
most `2 ^ 20` bytes, and the frames after it are found where they begin.  If the payload
is longer, the channel is closed, and nothing of this frame or of what follows it is
passed on. -/
theorem composed_frame_passes (fits : stamped.Fits) (session : SessionId) :
    Header.read stamped.bytes = .ok stamped.header ∧
    stamped.header.payloadLength.toNat = stamped.payload.length ∧
    stamped.bytes.length = headerSize + stamped.payload.length ∧
    ∀ (peer : DeviceId) (earlier : List Bytes) (rest : Bytes) (portions : List Bytes),
      Greets portions.flatten peer (earlier.flatten ++ (stamped.bytes ++ rest)) →
      (∀ piece ∈ earlier, Passable piece) →
        (stamped.payload.length ≤ 0x100000 →
          (∃ pieces, Cut rest pieces) ∧
            ∀ pieces, Cut rest pieces →
              Receiver.start.run session portions =
                .opened session peer ::
                  (earlier ++ stamped.bytes :: pieces).map (.frame session) ++
                    [.closed session]) ∧
        (0x100000 < stamped.payload.length →
          Receiver.start.run session portions =
            .opened session peer :: earlier.map (.frame session) ++ [.closed session]) := by
  have read := stamped.readHeader_bytes []
  rw [List.append_nil] at read
  refine ⟨read, Stamped.payloadLength_header fits, stamped.length_bytes, ?_⟩
  intro peer earlier rest portions greets passable
  constructor
  · intro small
    obtain ⟨found, row, _⟩ := Receiver.exists_row session rest
    refine ⟨⟨found, row⟩, fun pieces row => ?_⟩
    have all := Cut.append passable (row.cons (passable_bytes fits small))
    exact Receiver.run_of_greeted session greets all
  · intro large
    have before := Cut.append passable (cut_of_large fits large rest)
    rw [List.append_nil] at before
    exact Receiver.run_of_greeted session greets before

end Composed

/-- A frame of the usual size passes, between another frame and bytes that are none. -/
theorem composed_frame_passes_ordinary :
    Frame.ordinaryFrame.Fits ∧
      Receiver.start.run ⟨7⟩
          [[0, 4] ++ Bytes.ofText "desk" ++ Frame.strangeFrame ++ Frame.ordinaryFrame.bytes ++
            List.replicate 30 2] =
        [.opened ⟨7⟩ ⟨"desk"⟩, .frame ⟨7⟩ Frame.strangeFrame, .frame ⟨7⟩ Frame.ordinaryFrame.bytes,
          .closed ⟨7⟩] := by
  have fits : Frame.ordinaryFrame.Fits := by
    unfold Stamped.Fits
    decide +kernel
  have small : Frame.ordinaryFrame.payload.length ≤ 0x100000 := by
    decide +kernel
  have earlier : ∀ piece ∈ [Frame.strangeFrame], Passable piece :=
    List.forall_mem_singleton.2 passable_strangeFrame
  have greets :
      Greets [[0, 4] ++ Bytes.ofText "desk" ++ Frame.strangeFrame ++ Frame.ordinaryFrame.bytes ++
          List.replicate 30 2].flatten ⟨"desk"⟩
        ([Frame.strangeFrame].flatten ++ (Frame.ordinaryFrame.bytes ++ List.replicate 30 2)) := by
    constructor
    · decide
    · decide +kernel
  obtain ⟨_, _, _, passes⟩ := composed_frame_passes fits ⟨7⟩
  exact ⟨fits, ((passes _ _ _ _ greets earlier).1 small).2 _ cut_foreign⟩

/-! ## A frame that does not pass -/

/-- A request about a sink whose name has a given number of letters. -/
def lengthyRequest (letters : Nat) : Stamped :=
  ⟨.relayRequest ⟨"a"⟩ ⟨"b"⟩ ⟨String.ofList (List.replicate letters 'a')⟩ .prepare, 0, 0⟩

theorem flatMap_writeChar_replicate (letters : Nat) :
    (List.replicate letters 'a').flatMap Json.writeChar = List.replicate letters 'a' := by
  induction letters with
  | zero => rfl
  | succ fewer inductionHypothesis =>
    rw [List.replicate_succ, List.flatMap_cons, inductionHypothesis]
    rfl

theorem size_utf8Encode_replicate (letters : Nat) :
    (List.replicate letters 'a').utf8Encode.size = letters := by
  induction letters with
  | zero => rfl
  | succ fewer inductionHypothesis =>
    have one : ['a'].utf8Encode.size = 1 := by decide
    rw [List.replicate_succ, List.utf8Encode_cons, ByteArray.size_append, inductionHypothesis,
      one, Nat.add_comm]

theorem characters_lengthyRequest (letters : Nat) :
    (lengthyRequest letters).message.payload.characters =
      "\x7b\"deviceId\":\"a\",\"sinkId\":\"".toList ++
        (List.replicate letters 'a' ++ "\",\"srcId\":\"b\"\x7d".toList) := by
  have object : (lengthyRequest letters).message.payload =
      .object
        [("deviceId", .string "a"),
          ("sinkId", .string (String.ofList (List.replicate letters 'a'))),
          ("srcId", .string "b")] := rfl
  rw [object]
  simp only [Json.characters, Json.fieldCharacters, Json.writeString, String.toList_ofList,
    flatMap_writeChar_replicate]
  simp only [List.cons_append, List.append_assoc]
  rfl

theorem length_payload_lengthyRequest (letters : Nat) :
    (lengthyRequest letters).payload.length = letters + 40 := by
  have front : "\x7b\"deviceId\":\"a\",\"sinkId\":\"".toList.utf8Encode.size = 26 := by decide
  have back : "\",\"srcId\":\"b\"\x7d".toList.utf8Encode.size = 14 := by decide
  have size : (lengthyRequest letters).payload.length =
      (lengthyRequest letters).message.payload.characters.utf8Encode.size := by
    rw [Stamped.payload, Json.write, Bytes.ofText, String.toUTF8, String.toByteArray_ofList]
    exact Array.length_toList
  rw [size, characters_lengthyRequest, List.utf8Encode_append, List.utf8Encode_append,
    ByteArray.size_append, ByteArray.size_append, front, back, size_utf8Encode_replicate]
  omega

/-- A greeting and a request about a sink with a long name. -/
def lengthyStream (letters : Nat) : Bytes := [0, 1, 97] ++ (lengthyRequest letters).bytes

theorem run_lengthyStream {letters : Nat} (large : 0x100000 < letters + 40)
    (fits : letters + 40 < UInt32.size) (session : SessionId) :
    Receiver.start.run session [lengthyStream letters] =
      [.opened session ⟨"a"⟩, .closed session] := by
  have length := length_payload_lengthyRequest letters
  rw [← length] at large fits
  have greets : Greets [lengthyStream letters].flatten ⟨"a"⟩ (lengthyRequest letters).bytes := by
    refine ⟨by decide, ?_⟩
    rw [List.flatten_singleton]
    rfl
  have nothing := cut_of_large fits large []
  rw [List.append_nil] at nothing
  exact Receiver.run_of_greeted session greets nothing

/-- At a frame with more than a million letters, which was composed from a message, the
receiver closes the channel and does not pass the frame on. -/
theorem lengthy_request_stops :
    (lengthyRequest 0x100000).payload.length = 0x100028 ∧
      Receiver.start.run ⟨7⟩ [lengthyStream 0x100000] = [.opened ⟨7⟩ ⟨"a"⟩, .closed ⟨7⟩] ∧
        TransportEvent.frame ⟨7⟩ (lengthyRequest 0x100000).bytes ∉
          Receiver.start.run ⟨7⟩ [lengthyStream 0x100000] := by
  have large : 0x100000 < 0x100000 + 40 := by decide
  have told := run_lengthyStream large (by decide) ⟨7⟩
  refine ⟨length_payload_lengthyRequest 0x100000, told, ?_⟩
  rw [told]
  rintro (_ | ⟨_, _ | ⟨_, listed⟩⟩)
  cases listed

end Wire

end InputSharing
