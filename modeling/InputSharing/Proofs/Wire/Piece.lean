import InputSharing.Proofs.Frame.Framing
import InputSharing.Wire.Piece

/-!
# What stands at the front of a stream

Greetings and frames, said without reading them.  `greeting` and `frame` find exactly
what was said, and bytes that come later do not change what has been found.
-/

namespace InputSharing.Wire

open InputSharing.Frame (Heads Headless headless_or_heads)

/-! ## Frames -/

/-- A frame that may pass: a header of the right version with any command, and as many
bytes as the header declares, at most `2 ^ 20`. -/
def Passable (piece : Bytes) : Prop :=
  ∃ (number declared : UInt32) (head payload : Bytes),
    piece = head ++ payload ∧ Heads number declared head ∧
      payload.length = declared.toNat ∧ payload.length ≤ 0x100000

theorem frame_of_short {bytes : Bytes} (few : bytes.length < headerSize) :
    frame bytes = .unfinished := by
  rw [frame, if_pos few]

theorem frame_of_version {version : UInt8} {rest : Bytes}
    (long : headerSize ≤ (version :: rest).length) (other : version ≠ protocolVersion) :
    frame (version :: rest) = .broken := by
  rw [frame, if_neg (Nat.not_lt.2 long), (Headless.unsupportedVersion long other).frameLength_eq]

/-- After a header all depends on the length that it declares. -/
theorem frame_of_heads {number declared : UInt32} {head : Bytes}
    (heads : Heads number declared head) (tail : Bytes) :
    frame (head ++ tail) =
      if payloadLimit < declared.toNat then .broken
      else if tail.length < declared.toNat then .unfinished
      else .whole (head ++ tail.take declared.toNat) (tail.drop declared.toNat) := by
  have size : (head ++ tail).length = headerSize + tail.length := by
    rw [List.length_append, heads.length_eq]
  have long : ¬headerSize + tail.length < headerSize := by omega
  have limit : headerSize + payloadLimit < headerSize + declared.toNat ↔
      payloadLimit < declared.toNat := Nat.add_lt_add_iff_left
  have missing : headerSize + tail.length < headerSize + declared.toNat ↔
      tail.length < declared.toNat := Nat.add_lt_add_iff_left
  have taken : (head ++ tail).take (headerSize + declared.toNat) =
      head ++ tail.take declared.toNat := by
    rw [← heads.length_eq, List.take_length_add_append]
  have dropped : (head ++ tail).drop (headerSize + declared.toNat) =
      tail.drop declared.toNat := by
    rw [← heads.length_eq, List.drop_length_add_append]
  rw [frame, size, if_neg long, heads.frameLength_eq]
  simp only [limit, missing, taken, dropped]

theorem frame_eq_whole_iff {bytes piece rest : Bytes} :
    frame bytes = .whole piece rest ↔ bytes = piece ++ rest ∧ Passable piece := by
  constructor
  · intro found
    rcases headless_or_heads bytes with ⟨_, headless⟩ | ⟨number, declared, head, tail, rfl, heads⟩
    · cases headless with
      | insufficientData few =>
        rw [frame_of_short few] at found
        cases found
      | unsupportedVersion long other =>
        rw [frame_of_version long other] at found
        cases found
    · rw [frame_of_heads heads] at found
      by_cases large : payloadLimit < declared.toNat
      · rw [if_pos large] at found
        cases found
      · by_cases missing : tail.length < declared.toNat
        · rw [if_neg large, if_pos missing] at found
          cases found
        · rw [if_neg large, if_neg missing] at found
          cases found
          have size : (tail.take declared.toNat).length = declared.toNat := by
            rw [List.length_take]
            omega
          refine ⟨?_, number, declared, head, _, rfl, heads, size, ?_⟩
          · rw [List.append_assoc, List.take_append_drop]
          · rw [size]
            exact Nat.not_lt.1 large
  · rintro ⟨rfl, number, declared, head, payload, rfl, heads, size, small⟩
    have fits : ¬payloadLimit < declared.toNat := by
      rw [← size]
      exact Nat.not_lt.2 small
    have enough : ¬(payload ++ rest).length < declared.toNat := by
      rw [List.length_append]
      omega
    rw [List.append_assoc, frame_of_heads heads, if_neg fits, if_neg enough,
      List.take_left' size, List.drop_left' size]

theorem frame_append_of_whole {bytes piece rest : Bytes} (found : frame bytes = .whole piece rest)
    (more : Bytes) : frame (bytes ++ more) = .whole piece (rest ++ more) := by
  obtain ⟨rfl, passable⟩ := frame_eq_whole_iff.1 found
  exact frame_eq_whole_iff.2 ⟨List.append_assoc _ _ _, passable⟩

theorem frame_append_of_broken {bytes : Bytes} (found : frame bytes = .broken) (more : Bytes) :
    frame (bytes ++ more) = .broken := by
  rcases headless_or_heads bytes with ⟨_, headless⟩ | ⟨number, declared, head, tail, rfl, heads⟩
  · cases headless with
    | insufficientData few =>
      rw [frame_of_short few] at found
      cases found
    | @unsupportedVersion version rest long other =>
      have longer : headerSize ≤ (version :: (rest ++ more)).length := by
        rw [List.length_cons, List.length_append]
        rw [List.length_cons] at long
        omega
      exact frame_of_version longer other
  · rw [frame_of_heads heads] at found
    by_cases large : payloadLimit < declared.toNat
    · rw [List.append_assoc, frame_of_heads heads, if_pos large]
    · rw [if_neg large] at found
      split at found
      · cases found
      · cases found

/-! ## Greetings -/

/-- A stream begins with the greeting of a node: the length of its name in two bytes,
and its name in UTF-8. -/
def Greets (stream : Bytes) (peer : DeviceId) (rest : Bytes) : Prop :=
  (Bytes.ofText peer.text).length < 0x10000 ∧
    stream =
      Bytes.ofNumber 2 (Bytes.ofText peer.text).length ++ (Bytes.ofText peer.text ++ rest)

/-- Two bytes are those of a number of 16 bits. -/
theorem short_or_number (bytes : Bytes) :
    bytes.length < 2 ∨
      ∃ (number : Nat) (after : Bytes),
        number < 0x10000 ∧ bytes = Bytes.ofNumber 2 number ++ after := by
  by_cases few : bytes.length < 2
  · exact Or.inl few
  · have two : (bytes.take 2).length = 2 := by
      rw [List.length_take]
      omega
    have small := Bytes.toNumber_lt (bytes.take 2)
    have back := Bytes.ofNumber_toNumber (bytes.take 2)
    rw [two] at small back
    refine Or.inr ⟨Bytes.toNumber (bytes.take 2), bytes.drop 2, small, ?_⟩
    rw [back, List.take_append_drop]

theorem greeting_of_short {bytes : Bytes} (few : bytes.length < 2) :
    greeting bytes = .unfinished := by
  rw [greeting]
  exact if_pos (Or.inl few)

theorem greeting_of_number {number : Nat} (small : number < 0x10000) (after : Bytes) :
    greeting (Bytes.ofNumber 2 number ++ after) =
      if after.length < number then .unfinished
      else
        match Bytes.toText? (after.take number) with
        | none => .broken
        | some name => .whole ⟨name⟩ (after.drop number) := by
  have nothing : ([] : Bytes).length = 0 := rfl
  have length : Bytes.numberAt 0 2 (Bytes.ofNumber 2 number ++ after) = number :=
    (Bytes.numberAt_ofNumber nothing number after).trans (Nat.mod_eq_of_lt small)
  have two := Bytes.length_ofNumber 2 number
  have dropped : (Bytes.ofNumber 2 number ++ after).drop 2 = after := List.drop_left' two
  have long : ¬(Bytes.ofNumber 2 number ++ after).length < 2 := by
    rw [List.length_append, two]
    omega
  rw [greeting, length, dropped]
  by_cases missing : after.length < number
  · rw [if_pos missing]
    exact if_pos (Or.inr missing)
  · rw [if_neg missing]
    exact if_neg (not_or.2 ⟨long, missing⟩)

theorem greeting_eq_whole_iff {bytes : Bytes} {peer : DeviceId} {rest : Bytes} :
    greeting bytes = .whole peer rest ↔ Greets bytes peer rest := by
  constructor
  · intro found
    rcases short_or_number bytes with few | ⟨number, after, small, rfl⟩
    · rw [greeting_of_short few] at found
      cases found
    · rw [greeting_of_number small] at found
      by_cases missing : after.length < number
      · rw [if_pos missing] at found
        cases found
      · rw [if_neg missing] at found
        cases read : Bytes.toText? (after.take number) with
        | none =>
          rw [read] at found
          cases found
        | some name =>
          rw [read] at found
          cases found
          have taken := Bytes.ofText_of_toText? read
          have length : (Bytes.ofText name).length = number := by
            rw [← taken, List.length_take]
            omega
          refine ⟨?_, ?_⟩
          · rw [length]
            exact small
          · rw [length, ← taken, List.take_append_drop]
  · rintro ⟨small, rfl⟩
    have enough :
        ¬(Bytes.ofText peer.text ++ rest).length < (Bytes.ofText peer.text).length := by
      rw [List.length_append]
      omega
    rw [greeting_of_number small, if_neg enough, List.take_left, Bytes.toText?_ofText,
      List.drop_left]

theorem greeting_append_of_whole {bytes : Bytes} {peer : DeviceId} {rest : Bytes}
    (found : greeting bytes = .whole peer rest) (more : Bytes) :
    greeting (bytes ++ more) = .whole peer (rest ++ more) := by
  obtain ⟨small, rfl⟩ := greeting_eq_whole_iff.1 found
  refine greeting_eq_whole_iff.2 ⟨small, ?_⟩
  rw [List.append_assoc, List.append_assoc]

theorem greeting_append_of_broken {bytes : Bytes} (found : greeting bytes = .broken)
    (more : Bytes) : greeting (bytes ++ more) = .broken := by
  rcases short_or_number bytes with few | ⟨number, after, small, rfl⟩
  · rw [greeting_of_short few] at found
    cases found
  · rw [greeting_of_number small] at found
    by_cases missing : after.length < number
    · rw [if_pos missing] at found
      cases found
    · rw [if_neg missing] at found
      have enough : ¬(after ++ more).length < number := by
        rw [List.length_append]
        omega
      have same : (after ++ more).take number = after.take number :=
        List.take_append_of_le_length (Nat.not_lt.1 missing)
      rw [List.append_assoc, greeting_of_number small, if_neg enough, same]
      cases read : Bytes.toText? (after.take number) with
      | none => rfl
      | some name =>
        rw [read] at found
        cases found

/-- A node whose name is not too long greets with it. -/
theorem greeting?_of_short_name {device : DeviceId}
    (short : (Bytes.ofText device.text).length < 0x10000) :
    ∃ greeting, greeting? device = some greeting ∧
      ∀ rest, Greets (greeting ++ rest) device rest := by
  refine ⟨_, if_pos short, fun rest => ⟨short, ?_⟩⟩
  rw [List.append_assoc]

end InputSharing.Wire
