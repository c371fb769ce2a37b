import InputSharing.Proofs.Table
import InputSharing.Proofs.Wire.Piece
import InputSharing.Wire.Endpoint
import InputSharing.Wire.Receiver

/-!
# What a receiver tells of a stream

A receiver tells the same of a stream in whatever portions it arrives.  After the
greeting it tells of the longest row of frames that stands at the front of the stream,
and then that the channel is closed.  What an endpoint sends on a channel that it opened
is such a stream.
-/

namespace InputSharing.Wire

/-! ## The frames at the front of a stream -/

/-- The longest row of frames that may pass at the front of some bytes. -/
structure Cut (bytes : Bytes) (pieces : List Bytes) : Prop where
  passable : ∀ piece ∈ pieces, Passable piece
  front : pieces.flatten <+: bytes
  longest :
    ∀ {others : List Bytes}, (∀ piece ∈ others, Passable piece) → others.flatten <+: bytes →
      others <+: pieces

theorem Passable.frame_eq {piece : Bytes} (passable : Passable piece) (rest : Bytes) :
    frame (piece ++ rest) = .whole piece rest :=
  frame_eq_whole_iff.2 ⟨rfl, passable⟩

namespace Cut

variable {bytes piece rest : Bytes} {pieces : List Bytes}

theorem unique {others : List Bytes} (cut : Cut bytes pieces) (again : Cut bytes others) :
    pieces = others :=
  (again.longest cut.passable cut.front).eq_of_length_le
    (cut.longest again.passable again.front).length_le

/-- No frame stands at the front of bytes of which `frame` finds none. -/
theorem nil (nothing : ∀ piece rest, frame bytes ≠ .whole piece rest) : Cut bytes [] := by
  refine ⟨nofun, List.nil_prefix, ?_⟩
  intro others passable front
  cases others with
  | nil => exact List.prefix_rfl
  | cons first more =>
    obtain ⟨rest, rfl⟩ := front
    have found := (passable first List.mem_cons_self).frame_eq (more.flatten ++ rest)
    rw [← List.append_assoc, ← List.flatten_cons] at found
    exact absurd found (nothing _ _)

theorem cons (passable : Passable piece) (cut : Cut rest pieces) :
    Cut (piece ++ rest) (piece :: pieces) := by
  refine ⟨List.forall_mem_cons.2 ⟨passable, cut.passable⟩, ?_, ?_⟩
  · rw [List.flatten_cons]
    exact (List.prefix_append_right_inj piece).2 cut.front
  · intro others allPassable front
    cases others with
    | nil => exact List.nil_prefix
    | cons first more =>
      obtain ⟨firstPassable, morePassable⟩ := List.forall_mem_cons.1 allPassable
      obtain ⟨left, split⟩ := front
      have found := firstPassable.frame_eq (more.flatten ++ left)
      rw [← List.append_assoc, ← List.flatten_cons, split, passable.frame_eq] at found
      injection found with same remains
      subst same
      have shorter : more <+: pieces := cut.longest morePassable ⟨left, remains.symm⟩
      exact (List.prefix_cons_inj piece).2 shorter

/-- Frames that may pass come before those that follow them. -/
theorem append {first : List Bytes} (passable : ∀ piece ∈ first, Passable piece)
    (cut : Cut rest pieces) : Cut (first.flatten ++ rest) (first ++ pieces) := by
  induction first with
  | nil => exact cut
  | cons piece more inductionHypothesis =>
    obtain ⟨piecePassable, morePassable⟩ := List.forall_mem_cons.1 passable
    rw [List.flatten_cons, List.append_assoc, List.cons_append]
    exact cons piecePassable (inductionHypothesis morePassable)

/-- Frames that may pass are all of the frames at the front of their bytes. -/
theorem flatten (passable : ∀ piece ∈ pieces, Passable piece) : Cut pieces.flatten pieces := by
  have nothing : Cut ([] : Bytes) [] := nil fun piece rest found => by cases found
  have row := append passable nothing
  rw [List.append_nil, List.append_nil] at row
  exact row

end Cut

/-! ## Portions -/

namespace Receiver

variable (session : SessionId)

/-- How bytes are cut depends on what stands at their front. -/
theorem cut_eq (bytes : Bytes) :
    cut session bytes =
      match frame bytes with
      | .broken => ([.closed session], ended)
      | .unfinished => ([], framing bytes)
      | .whole piece rest =>
          (.frame session piece :: (cut session rest).1, (cut session rest).2) := by
  rw [cut]
  split
  · next found => rw [found]
  · next found => rw [found]
  · next found => rw [found]

theorem cut_of_broken {bytes : Bytes} (found : frame bytes = .broken) :
    cut session bytes = ([.closed session], ended) := by
  rw [cut_eq, found]

theorem cut_of_unfinished {bytes : Bytes} (found : frame bytes = .unfinished) :
    cut session bytes = ([], framing bytes) := by
  rw [cut_eq, found]

theorem cut_of_whole {bytes piece rest : Bytes} (found : frame bytes = .whole piece rest) :
    cut session bytes =
      (.frame session piece :: (cut session rest).1, (cut session rest).2) := by
  rw [cut_eq, found]

/-- What is held back is joined with what comes later. -/
theorem cut_append (bytes more : Bytes) :
    cut session (bytes ++ more) =
      ((cut session bytes).1 ++ ((cut session bytes).2.feed session more).1,
        ((cut session bytes).2.feed session more).2) := by
  induction bytes using cut.induct session with
  | case1 bytes found =>
    rw [cut_of_broken session found,
      cut_of_broken session (frame_append_of_broken found more)]
    rfl
  | case2 bytes found =>
    rw [cut_of_unfinished session found]
    rfl
  | case3 bytes piece rest found _ _ _ inductionHypothesis =>
    rw [cut_of_whole session found,
      cut_of_whole session (frame_append_of_whole found more), inductionHypothesis]
    rfl

theorem feed_append (receiver : Receiver) (first second : Bytes) :
    receiver.feed session (first ++ second) =
      ((receiver.feed session first).1 ++
          ((receiver.feed session first).2.feed session second).1,
        ((receiver.feed session first).2.feed session second).2) := by
  cases receiver with
  | ended => rfl
  | framing held =>
    change cut session (held ++ (first ++ second)) = _
    rw [← List.append_assoc, cut_append]
    rfl
  | greeted held =>
    simp only [feed, ← List.append_assoc]
    cases found : greeting (held ++ first) with
    | broken =>
      rw [greeting_append_of_broken found]
      rfl
    | unfinished => rfl
    | whole peer rest =>
      rw [greeting_append_of_whole found]
      dsimp only
      rw [cut_append]
      rfl

/-- In which portions a stream arrives does not matter. -/
theorem run_cons_eq (receiver : Receiver) (portion : Bytes) (more : List Bytes) :
    receiver.run session (portion :: more) =
      (receiver.feed session (portion ++ more.flatten)).1 ++
        (receiver.feed session (portion ++ more.flatten)).2.finish session := by
  induction more generalizing receiver portion with
  | nil =>
    rw [List.flatten_nil, List.append_nil]
    rfl
  | cons next others inductionHypothesis =>
    have later := inductionHypothesis (receiver.feed session portion).2 next
    rw [List.flatten_cons, feed_append, List.append_assoc, ← later]
    rfl

theorem run_start_eq (portions : List Bytes) :
    start.run session portions =
      (start.feed session portions.flatten).1 ++
        (start.feed session portions.flatten).2.finish session := by
  cases portions with
  | nil => rfl
  | cons portion more =>
    rw [run_cons_eq]
    rfl

/-! ## Whole streams -/

/-- A receiver that awaits frames tells of the frames at the front of what comes, and
then that the channel is closed. -/
theorem exists_row (bytes : Bytes) :
    ∃ pieces, Cut bytes pieces ∧
      (cut session bytes).1 ++ (cut session bytes).2.finish session =
        pieces.map (.frame session) ++ [.closed session] := by
  induction bytes using cut.induct session with
  | case1 bytes found =>
    refine ⟨[], .nil fun piece rest whole => ?_, ?_⟩
    · rw [found] at whole
      cases whole
    · rw [cut_of_broken session found]
      rfl
  | case2 bytes found =>
    refine ⟨[], .nil fun piece rest whole => ?_, ?_⟩
    · rw [found] at whole
      cases whole
    · rw [cut_of_unfinished session found]
      rfl
  | case3 bytes piece rest found _ _ _ inductionHypothesis =>
    obtain ⟨pieces, row, told⟩ := inductionHypothesis
    obtain ⟨rfl, passable⟩ := frame_eq_whole_iff.1 found
    refine ⟨piece :: pieces, row.cons passable, ?_⟩
    rw [cut_of_whole session found, List.map_cons, List.cons_append, List.cons_append, told]

theorem cut_finish_eq {bytes : Bytes} {pieces : List Bytes} (row : Cut bytes pieces) :
    (cut session bytes).1 ++ (cut session bytes).2.finish session =
      pieces.map (.frame session) ++ [.closed session] := by
  obtain ⟨others, same, told⟩ := exists_row session bytes
  rw [row.unique same, told]

/-- A stream without a greeting is not spoken of. -/
theorem run_of_stranger {portions : List Bytes}
    (stranger : ∀ peer rest, ¬Greets portions.flatten peer rest) :
    start.run session portions = [] := by
  rw [run_start_eq, start, feed, List.nil_append]
  cases found : greeting portions.flatten with
  | broken => rfl
  | unfinished => rfl
  | whole peer rest => exact absurd (greeting_eq_whole_iff.1 found) (stranger peer rest)

theorem run_of_greeted {portions : List Bytes} {peer : DeviceId} {rest : Bytes}
    {pieces : List Bytes} (greets : Greets portions.flatten peer rest) (row : Cut rest pieces) :
    start.run session portions =
      .opened session peer :: pieces.map (.frame session) ++ [.closed session] := by
  have found := greeting_eq_whole_iff.2 greets
  have told := cut_finish_eq session row
  rw [run_start_eq, start, feed, List.nil_append, found]
  dsimp only
  rw [List.cons_append, List.cons_append, told]

end Receiver

/-! ## What is sent -/

namespace Endpoint

variable {α : Type}

/-- Send frames on a channel, one after another. -/
def transmitAll (endpoint : Endpoint α) (session : SessionId) (frames : List Bytes) :
    Endpoint α :=
  frames.foldl (fun reached frame => (reached.transmit session frame).2) endpoint

/-- What goes out on an open channel is its greeting and all frames in order. -/
theorem sent_transmitAll {endpoint : Endpoint α} {session : SessionId} {greeting : Bytes}
    {frames : List Bytes} (found : endpoint.channels[session]? = some ⟨greeting, frames, true⟩)
    (more : List Bytes) :
    (endpoint.transmitAll session more).sent session = greeting ++ (frames ++ more).flatten := by
  induction more generalizing endpoint frames with
  | nil =>
    rw [transmitAll, List.foldl_nil, sent, found, List.append_nil]
    rfl
  | cons first others inductionHypothesis =>
    have grown : (endpoint.transmit session first).2.channels[session]? =
        some ⟨greeting, frames ++ [first], true⟩ := by
      rw [transmit, found]
      exact Std.ExtTreeMap.getElem?_insert_self
    have later := inductionHypothesis grown
    rw [List.append_assoc, List.singleton_append] at later
    exact later

theorem dial_of_short_name {endpoint : Endpoint α} {answers : α → Bool} {peer : DeviceId}
    {role : Role} {address : α}
    (known : (endpoint.peers[peer]?.bind fun addresses => addresses.of? role) = some address)
    (answered : answers address = true) {greeting : Bytes}
    (greets : greeting? endpoint.device = some greeting) :
    endpoint.dial answers peer role =
      (.ok endpoint.nextSession, [], endpoint.withChannel { greeting }) := by
  rw [dial, known]
  dsimp only
  rw [answered, if_pos rfl, greets]

end Endpoint

/-! ## Reception -/

/-- A stream that arrives in any portions is received exactly.

Of a stream that does not begin with a greeting nothing is told.  Otherwise the channel
is opened under the name in the greeting, then comes every frame of the longest row of
frames that follows, and then the channel is closed, once and at the end.  So an
endpoint whose name is not too long is heard with all frames that it sends, in order, if
their payloads are no longer than a receiver takes. -/
theorem reception_exact (session : SessionId) (portions : List Bytes) :
    ((∀ peer rest, ¬Greets portions.flatten peer rest) →
      Receiver.start.run session portions = []) ∧
    (∀ peer rest, Greets portions.flatten peer rest →
      (∃ pieces, Cut rest pieces) ∧
        ∀ pieces, Cut rest pieces →
          Receiver.start.run session portions =
            .opened session peer :: pieces.map (.frame session) ++ [.closed session]) ∧
    ∀ {α : Type} (endpoint : Endpoint α) (answers : α → Bool) (peer : DeviceId) (role : Role)
      (address : α) (frames : List Bytes),
      (endpoint.peers[peer]?.bind fun addresses => addresses.of? role) = some address →
      answers address = true → (Bytes.ofText endpoint.device.text).length < 0x10000 →
      (∀ piece ∈ frames, Passable piece) →
        ∃ near connected, endpoint.dial answers peer role = (.ok near, [], connected) ∧
          ((connected.transmitAll near frames).sent near = portions.flatten →
            Receiver.start.run session portions =
              .opened session endpoint.device :: frames.map (.frame session) ++
                [.closed session]) := by
  refine ⟨Receiver.run_of_stranger session, ?_, ?_⟩
  · intro peer rest greets
    obtain ⟨pieces, row, _⟩ := Receiver.exists_row session rest
    exact ⟨⟨pieces, row⟩, fun others other => Receiver.run_of_greeted session greets other⟩
  · intro α endpoint answers peer role address frames known answered short passable
    obtain ⟨greeting, said, greets⟩ := greeting?_of_short_name short
    refine ⟨_, _, Endpoint.dial_of_short_name known answered said, fun arrived => ?_⟩
    have found : (endpoint.withChannel { greeting }).channels[endpoint.nextSession]? =
        some ⟨greeting, [], true⟩ := Std.ExtTreeMap.getElem?_insert_self
    rw [Endpoint.sent_transmitAll found, List.nil_append] at arrived
    have begins := greets frames.flatten
    rw [arrived] at begins
    exact Receiver.run_of_greeted session begins (.flatten passable)

/-- A stream in three portions: a greeting, a frame with an unknown command, and bytes of
another version. -/
def tornStream : List Bytes :=
  [[0], [4] ++ Bytes.ofText "desk" ++ Frame.strangeFrame.take 20,
    Frame.strangeFrame.drop 20 ++ List.replicate 30 2]

theorem passable_strangeFrame : Passable Frame.strangeFrame := by
  have alone : frame Frame.strangeFrame = .whole Frame.strangeFrame [] := by decide
  exact (frame_eq_whole_iff.1 alone).2

/-- Bytes of another version are no frame. -/
theorem cut_foreign : Cut (List.replicate 30 2) [] := by
  have broken : frame (List.replicate 30 2) = .broken := by decide
  refine .nil fun piece rest found => ?_
  rw [broken] at found
  cases found

theorem reception_exact_torn :
    Greets tornStream.flatten ⟨"desk"⟩ (Frame.strangeFrame ++ List.replicate 30 2) ∧
      Cut (Frame.strangeFrame ++ List.replicate 30 2) [Frame.strangeFrame] ∧
        Receiver.start.run ⟨7⟩ tornStream =
          [.opened ⟨7⟩ ⟨"desk"⟩, .frame ⟨7⟩ Frame.strangeFrame, .closed ⟨7⟩] := by
  have greets :
      Greets tornStream.flatten ⟨"desk"⟩ (Frame.strangeFrame ++ List.replicate 30 2) := by
    constructor
    · decide
    · decide
  have row : Cut (Frame.strangeFrame ++ List.replicate 30 2) [Frame.strangeFrame] :=
    .cons passable_strangeFrame cut_foreign
  exact ⟨greets, row, ((reception_exact ⟨7⟩ tornStream).2.1 _ _ greets).2 _ row⟩

end InputSharing.Wire
