import InputSharing.Proofs.Frame.Decoding

/-!
# Framing agrees with decoding

A frame is measured by `frameLength`, its header is read by `Header.read`, and its
message by `Frame.decode`.  Each of them looks at the header by itself.  They refuse
the same bytes as no header, and otherwise they agree about where a frame ends, so
that a frame that is refused can be stepped over.
-/

namespace InputSharing.Frame

/-! ## Lengths -/

theorem Headless.frameLength_eq {bytes : Bytes} {fault : FrameError}
    (headless : Headless bytes fault) : frameLength bytes = .error fault := by
  rw [frameLength, headless.check_eq]
  rfl

theorem Heads.frameLength_eq {number declared : UInt32} {head : Bytes}
    (heads : Heads number declared head) (rest : Bytes) :
    frameLength (head ++ rest) = .ok (headerSize + declared.toNat) := by
  rw [frameLength, heads.check_eq, heads.declaredLength_eq]
  rfl

theorem frameLength_eq_error_iff {bytes : Bytes} {fault : FrameError} :
    frameLength bytes = .error fault ↔ Headless bytes fault := by
  refine ⟨fun fails => ?_, Headless.frameLength_eq⟩
  rcases headless_or_heads bytes with ⟨other, headless⟩ | ⟨_, _, head, rest, rfl, heads⟩
  · rw [headless.frameLength_eq] at fails
    cases fails
    exact headless
  · rw [heads.frameLength_eq] at fails
    cases fails

/-- A frame that has a length starts with a header that declares it. -/
theorem exists_heads {bytes : Bytes} {length : Nat} (framed : frameLength bytes = .ok length) :
    ∃ (number declared : UInt32) (head rest : Bytes),
      bytes = head ++ rest ∧ Heads number declared head ∧
        length = headerSize + declared.toNat := by
  rcases headless_or_heads bytes with ⟨_, headless⟩ | ⟨number, declared, head, rest, rfl, heads⟩
  · rw [headless.frameLength_eq] at framed
    cases framed
  · rw [heads.frameLength_eq] at framed
    cases framed
    exact ⟨number, declared, head, rest, rfl, heads, rfl⟩

/-- The length of a frame is told by as many bytes as a header has. -/
theorem frameLength_take {bytes : Bytes} (long : headerSize ≤ bytes.length) :
    frameLength (bytes.take headerSize) = frameLength bytes := by
  rcases headless_or_heads bytes with ⟨_, headless⟩ | ⟨_, _, head, rest, rfl, heads⟩
  · cases headless with
    | insufficientData few => omega
    | @unsupportedVersion version rest _ other =>
      have enough : headerSize ≤ (version :: rest.take 27).length := by
        rw [List.length_cons, List.length_take]
        rw [List.length_cons, headerSize] at long
        rw [headerSize]
        omega
      have cut := (Headless.unsupportedVersion enough other).frameLength_eq
      exact cut.trans (Headless.unsupportedVersion long other).frameLength_eq.symm
  · have alone := heads.frameLength_eq []
    rw [List.append_nil] at alone
    rw [List.take_left' heads.length_eq, alone, heads.frameLength_eq]

theorem frameLength_eq_of_take_eq {bytes other : Bytes} (long : headerSize ≤ bytes.length)
    (same : other.take headerSize = bytes.take headerSize) :
    frameLength other = frameLength bytes := by
  have cut : headerSize ≤ (other.take headerSize).length := by
    rw [same, List.length_take]
    omega
  have longOther : headerSize ≤ other.length := by
    rw [List.length_take] at cut
    omega
  rw [← frameLength_take longOther, same, frameLength_take long]

/-- Where a header can be read, the frame is as long as the header says. -/
theorem frameLength_of_read {bytes : Bytes} {header : Header}
    (read : Header.read bytes = .ok header) :
    frameLength bytes = .ok (headerSize + header.payloadLength.toNat) := by
  rcases headless_or_heads bytes with ⟨_, headless⟩ | ⟨number, _, head, rest, rfl, heads⟩
  · rw [headless.read_eq] at read
    cases read
  · cases known : Command.ofCode? number with
    | none =>
      rw [read_of_unknown heads known] at read
      cases read
    | some command =>
      obtain rfl := Command.code_of_ofCode? known
      rw [read_of_known heads] at read
      cases read
      exact heads.frameLength_eq rest

/-- A header that cannot be read is no header, or its command is not known; in that
case the frame has a length all the same. -/
theorem headless_or_unknown_of_read {bytes : Bytes} {fault : FrameError}
    (fails : Header.read bytes = .error fault) :
    Headless bytes fault ∨
      ∃ number length, fault = .unknownCommand number ∧ frameLength bytes = .ok length := by
  rcases headless_or_heads bytes with ⟨_, headless⟩ | ⟨number, _, head, rest, rfl, heads⟩
  · rw [headless.read_eq] at fails
    cases fails
    exact Or.inl headless
  · refine Or.inr ?_
    cases known : Command.ofCode? number with
    | none =>
      rw [read_of_unknown heads known] at fails
      cases fails
      exact ⟨number, _, rfl, heads.frameLength_eq rest⟩
    | some command =>
      obtain rfl := Command.code_of_ofCode? known
      rw [read_of_known heads] at fails
      cases fails

/-! ## Whole frames -/

/-- A frame gives the same whatever follows it, a message or a fault. -/
theorem decode_append {piece : Bytes} (whole : frameLength piece = .ok piece.length)
    (rest : Bytes) : decode (piece ++ rest) = decode piece := by
  obtain ⟨number, declared, head, payload, rfl, heads, length⟩ := exists_heads whole
  have complete : payload.length = declared.toNat := by
    rw [List.length_append, heads.length_eq] at length
    omega
  rw [List.append_assoc]
  cases known : Command.ofCode? number with
  | none =>
    rw [decode, decode, read_of_unknown heads known, read_of_unknown heads known]
    rfl
  | some command =>
    obtain rfl := Command.code_of_ofCode? known
    have alone : ¬payload.length < declared.toNat := by omega
    have followed : ¬(payload ++ rest).length < declared.toNat := by
      rw [List.length_append]
      omega
    rw [decode_of_heads heads, decode_of_heads heads, if_neg alone, if_neg followed,
      List.take_left' complete, List.take_of_length_le (Nat.le_of_eq complete)]

/-- A payload that is all there is never said to be cut short. -/
theorem decodePayload_ne_mismatch (command : Command) (bytes : Bytes) (declared available : Nat) :
    decodePayload command bytes ≠ .error (.payloadLengthMismatch declared available) := by
  intro fails
  cases decodePayload_eq_iff.1 fails

theorem decode_eq_mismatch_iff {bytes : Bytes} {declared available : Nat} :
    decode bytes = .error (.payloadLengthMismatch declared available) ↔
      ∃ header length, Header.read bytes = .ok header ∧ frameLength bytes = .ok length ∧
        bytes.length < length ∧ declared = header.payloadLength.toNat ∧
        available = bytes.length - headerSize := by
  rcases headless_or_heads bytes with ⟨_, headless⟩ | ⟨number, said, head, rest, rfl, heads⟩
  · constructor
    · intro fails
      rw [headless.decode_eq] at fails
      cases headless with
      | insufficientData _ => cases fails
      | unsupportedVersion _ _ => cases fails
    · rintro ⟨_, _, read, _⟩
      rw [headless.read_eq] at read
      cases read
  · cases known : Command.ofCode? number with
    | none =>
      have unread := read_of_unknown heads known rest
      constructor
      · intro fails
        rw [decode, unread] at fails
        cases fails
      · rintro ⟨_, _, read, _⟩
        rw [unread] at read
        cases read
    | some command =>
      obtain rfl := Command.code_of_ofCode? known
      have size : (head ++ rest).length = headerSize + rest.length := by
        rw [List.length_append, heads.length_eq]
      rw [decode_of_heads heads, read_of_known heads, heads.frameLength_eq, size]
      by_cases missing : rest.length < said.toNat
      · rw [if_pos missing]
        constructor
        · intro fails
          cases fails
          exact ⟨_, _, rfl, rfl, by omega, rfl, by omega⟩
        · rintro ⟨header, length, read, framed, _, rfl, rfl⟩
          cases read
          rw [Nat.add_sub_cancel_left]
      · rw [if_neg missing]
        constructor
        · intro fails
          cases outcome : decodePayload command (rest.take said.toNat) with
          | ok _ =>
            rw [outcome] at fails
            cases fails
          | error fault =>
            rw [outcome] at fails
            cases fails
            exact absurd outcome (decodePayload_ne_mismatch _ _ _ _)
        · rintro ⟨header, length, read, framed, short, _⟩
          cases framed
          omega

/-! ## Frames that decode -/

section Decoded

variable {bytes : Bytes} {message : Message} {length : Nat}

/-- What decodes starts with a header of a known command, and its payload is there. -/
theorem exists_heads_of_decode (decoded : decode bytes = .ok (message, length)) :
    ∃ (command : Command) (declared : UInt32) (head rest : Bytes),
      bytes = head ++ rest ∧ Heads command.code declared head ∧
        declared.toNat ≤ rest.length ∧ length = headerSize + declared.toNat := by
  rcases headless_or_heads bytes with ⟨_, headless⟩ | ⟨number, declared, head, rest, rfl, heads⟩
  · rw [headless.decode_eq] at decoded
    cases decoded
  · cases known : Command.ofCode? number with
    | none =>
      rw [decode, read_of_unknown heads known] at decoded
      cases decoded
    | some command =>
      obtain rfl := Command.code_of_ofCode? known
      rw [decode_of_heads heads] at decoded
      by_cases missing : rest.length < declared.toNat
      · rw [if_pos missing] at decoded
        cases decoded
      · rw [if_neg missing] at decoded
        cases outcome : decodePayload command (rest.take declared.toNat) with
        | error _ =>
          rw [outcome] at decoded
          cases decoded
        | ok _ =>
          rw [outcome] at decoded
          cases decoded
          exact ⟨command, declared, head, rest, rfl, heads, Nat.not_lt.1 missing, rfl⟩

theorem frameLength_of_decode (decoded : decode bytes = .ok (message, length)) :
    frameLength bytes = .ok length := by
  obtain ⟨_, _, head, rest, rfl, heads, _, rfl⟩ := exists_heads_of_decode decoded
  exact heads.frameLength_eq rest

theorem length_le_of_decode (decoded : decode bytes = .ok (message, length)) :
    length ≤ bytes.length := by
  obtain ⟨_, _, head, rest, rfl, heads, complete, rfl⟩ := exists_heads_of_decode decoded
  rw [List.length_append, heads.length_eq]
  omega

/-- The bytes of a message are a whole frame. -/
theorem frameLength_taken (decoded : decode bytes = .ok (message, length)) :
    frameLength (bytes.take length) = .ok (bytes.take length).length := by
  have framed := frameLength_of_decode decoded
  have enough := length_le_of_decode decoded
  obtain ⟨_, _, _, _, _, _, _, size⟩ := exists_heads_of_decode decoded
  have same : (bytes.take length).take headerSize = bytes.take headerSize := by
    rw [List.take_take, Nat.min_eq_left (by omega)]
  rw [frameLength_eq_of_take_eq (by omega) same, framed, List.length_take, Nat.min_eq_left enough]

theorem decode_taken_append (decoded : decode bytes = .ok (message, length)) (rest : Bytes) :
    decode (bytes.take length ++ rest) = .ok (message, length) := by
  have whole := frameLength_taken decoded
  have alone := decode_append whole (bytes.drop length)
  rw [List.take_append_drop] at alone
  rw [decode_append whole, ← alone, decoded]

/-- A frame that is cut short gives no message: its header is not there, or its payload
is not. -/
theorem decode_front (decoded : decode bytes = .ok (message, length)) {front : Bytes}
    (begins : front <+: bytes) (shorter : front.length < length) :
    decode front =
      if front.length < headerSize then .error (.insufficientData front.length)
      else .error (.payloadLengthMismatch (length - headerSize) (front.length - headerSize)) := by
  obtain ⟨command, declared, head, rest, rfl, heads, _, rfl⟩ := exists_heads_of_decode decoded
  by_cases few : front.length < headerSize
  · rw [if_pos few]
    exact (Headless.insufficientData few).decode_eq
  · have whole : head <+: front := by
      refine List.prefix_of_prefix_length_le (List.prefix_append head rest) begins ?_
      rw [heads.length_eq]
      omega
    obtain ⟨part, rfl⟩ := whole
    have size : (head ++ part).length = headerSize + part.length := by
      rw [List.length_append, heads.length_eq]
    rw [size] at shorter
    have missing : part.length < declared.toNat := by omega
    rw [if_neg few, decode_of_heads heads, if_pos missing, size, Nat.add_sub_cancel_left,
      Nat.add_sub_cancel_left]

end Decoded

/-! ## Stepping over frames -/

/-- Read frame after frame, each by itself.  A frame that is refused is stepped over by
its length.  The bytes that are left have no whole frame in front. -/
def survey (bytes : Bytes) : List (Except FrameError (Message × Nat)) × Bytes :=
  match _measured : frameLength bytes with
  | .error _ => ([], bytes)
  | .ok length =>
      if bytes.length < length then ([], bytes)
      else
        let (frames, left) := survey (bytes.drop length)
        (decode bytes :: frames, left)
  termination_by bytes.length
  decreasing_by
    obtain ⟨_, _, _, _, _, _, size⟩ := exists_heads _measured
    rw [List.length_drop]
    rw [headerSize] at size
    omega

theorem survey_append {piece : Bytes} (whole : frameLength piece = .ok piece.length)
    (rest : Bytes) :
    survey (piece ++ rest) = (decode piece :: (survey rest).1, (survey rest).2) := by
  have long : headerSize ≤ piece.length := by
    obtain ⟨_, _, _, _, _, _, size⟩ := exists_heads whole
    omega
  have framed : frameLength (piece ++ rest) = .ok piece.length := by
    rw [← whole]
    exact frameLength_eq_of_take_eq long (List.take_append_of_le_length long)
  have enough : ¬(piece ++ rest).length < piece.length := by
    rw [List.length_append]
    omega
  rw [survey]
  split
  · next fails =>
    rw [framed] at fails
    cases fails
  · next measured =>
    rw [framed] at measured
    cases measured
    rw [if_neg enough, List.drop_left, decode_append whole]

/-- A reader that steps over what it refuses finds every frame. -/
theorem survey_flatten {pieces : List Bytes}
    (whole : ∀ piece ∈ pieces, frameLength piece = .ok piece.length) (trailing : Bytes) :
    survey (pieces.flatten ++ trailing) =
      (pieces.map decode ++ (survey trailing).1, (survey trailing).2) := by
  induction pieces with
  | nil => rfl
  | cons first more inductionHypothesis =>
    have later := inductionHypothesis fun piece listed =>
      whole piece (List.mem_cons_of_mem first listed)
    rw [List.flatten_cons, List.append_assoc, survey_append (whole first List.mem_cons_self),
      later]
    rfl

/-- Measuring, reading a header and decoding agree about all bytes.

They refuse the same bytes as no header.  Where a header can be read, the frame is as
long as it says, and as many bytes as a header has tell this length.  A payload is
missing exactly if there are fewer bytes than that.  A message takes as many bytes as
its frame is long; it is the same whatever follows them, and no shorter front of them
gives any message.  A frame with a command that is not known has a length, so that a
reader that steps over what it refuses finds every frame after it. -/
theorem framing_agrees :
    (∀ bytes : Bytes,
      (∀ fault, frameLength bytes = .error fault ↔ Headless bytes fault) ∧
      (∀ fault, Headless bytes fault →
        Header.read bytes = .error fault ∧ decode bytes = .error fault) ∧
      (∀ fault, Header.read bytes = .error fault → Headless bytes fault ∨
        ∃ number length, fault = .unknownCommand number ∧ frameLength bytes = .ok length) ∧
      (∀ header, Header.read bytes = .ok header →
        frameLength bytes = .ok (headerSize + header.payloadLength.toNat)) ∧
      (∀ other : Bytes, headerSize ≤ bytes.length →
        other.take headerSize = bytes.take headerSize →
          frameLength other = frameLength bytes) ∧
      (∀ declared available,
        decode bytes = .error (.payloadLengthMismatch declared available) ↔
          ∃ header length, Header.read bytes = .ok header ∧ frameLength bytes = .ok length ∧
            bytes.length < length ∧ declared = header.payloadLength.toNat ∧
            available = bytes.length - headerSize) ∧
      (∀ message length, decode bytes = .ok (message, length) →
        frameLength bytes = .ok length ∧ length ≤ bytes.length ∧
        (∀ rest, decode (bytes.take length ++ rest) = .ok (message, length)) ∧
        ∀ front, front <+: bytes → front.length < length →
          decode front =
            if front.length < headerSize then .error (.insufficientData front.length)
            else
              .error
                (.payloadLengthMismatch (length - headerSize) (front.length - headerSize)))) ∧
    ∀ (pieces : List Bytes) (trailing : Bytes),
      (∀ piece ∈ pieces, frameLength piece = .ok piece.length) →
        survey (pieces.flatten ++ trailing) =
          (pieces.map decode ++ (survey trailing).1, (survey trailing).2) := by
  refine ⟨fun bytes => ⟨?_, ?_, ?_, ?_, ?_, ?_, ?_⟩, ?_⟩
  · exact fun fault => frameLength_eq_error_iff
  · exact fun fault headless => ⟨headless.read_eq, headless.decode_eq⟩
  · exact fun fault => headless_or_unknown_of_read
  · exact fun header => frameLength_of_read
  · exact fun other => frameLength_eq_of_take_eq
  · exact fun declared available => decode_eq_mismatch_iff
  · intro message length decoded
    refine ⟨frameLength_of_decode decoded, length_le_of_decode decoded,
      decode_taken_append decoded, ?_⟩
    exact fun front => decode_front decoded
  · exact fun pieces trailing whole => survey_flatten whole trailing

/-- A frame with a command that nobody knows. -/
def strangeFrame : Bytes :=
  [1, 0, 0, 0, 0, 0, 0xEE, 0xEE, 0, 0, 0, 2] ++ List.replicate 16 0 ++ [0x7B, 0x7D]

def ordinaryFrame : Stamped := ⟨.request ⟨"desk"⟩ .prepare, 7, 0⟩

/-- The message that follows a frame with an unknown command is found. -/
theorem framing_agrees_strange :
    (∀ piece ∈ [strangeFrame, ordinaryFrame.bytes], frameLength piece = .ok piece.length) ∧
      survey ([strangeFrame, ordinaryFrame.bytes].flatten ++ [1, 0]) =
        ([.error (.unknownCommand 0xEEEE),
          .ok (ordinaryFrame.message, ordinaryFrame.bytes.length)], [1, 0]) := by
  have whole : ∀ piece ∈ [strangeFrame, ordinaryFrame.bytes],
      frameLength piece = .ok piece.length := by
    decide +kernel
  have refused : decode strangeFrame = .error (.unknownCommand 0xEEEE) := by
    decide
  have fits : ordinaryFrame.Fits := by
    unfold Stamped.Fits
    decide +kernel
  have found := Stamped.decode_bytes fits []
  rw [List.append_nil] at found
  have trailing : survey [1, 0] = ([], [1, 0]) := by
    rw [survey]
    rfl
  refine ⟨whole, ?_⟩
  rw [framing_agrees.2 _ [1, 0] whole, trailing, List.map_cons, List.map_cons, refused, found]
  rfl

end InputSharing.Frame
