import InputSharing.Proofs.Frame.Stream
import InputSharing.Proofs.Indexes
import Mathlib.Data.List.Chain

/-!
# The numbers of the frames on a channel

A registry numbers the frames of all its channels with one counter, and a number is used up
even when the transport refuses the frame.  A receiver knows its own channel only.  It sees
no gap between two frames exactly if the attempts to send that lie between them, on any
channel, start the counter over a whole number of times; so as a rule if there are none.
-/

namespace InputSharing

/-! ## Lists -/

/-- Neighbours in what is kept of a list are kept entries with no kept entry between them. -/
theorem isChain_filter_iff {α : Type} {related : α → α → Prop} {kept : α → Bool}
    {entries : List α} :
    List.IsChain related (entries.filter kept) ↔
      ∀ (before : List α) (first : α) (between : List α) (second : α) (later : List α),
        entries = before ++ first :: (between ++ second :: later) →
        kept first = true → kept second = true → (∀ entry ∈ between, kept entry = false) →
          related first second := by
  rw [List.isChain_iff_forall_rel_of_append_cons_cons]
  constructor
  · intro chained before first between second later split keepsFirst keepsSecond skipped
    have none_between : between.filter kept = [] := by
      simpa [List.filter_eq_nil_iff] using skipped
    have neighbours :
        entries.filter kept = before.filter kept ++ first :: second :: later.filter kept := by
      simp [split, keepsFirst, keepsSecond, none_between]
    exact chained neighbours
  · intro related_of_split first second l₁ l₂ filtered
    obtain ⟨before, rest, split, -, restFiltered⟩ := List.filter_eq_append_iff.1 filtered
    obtain ⟨skipped, more, restSplit, -, keepsFirst, moreFiltered⟩ :=
      List.filter_eq_cons_iff.1 restFiltered
    obtain ⟨between, later, moreSplit, unkept, keepsSecond, -⟩ :=
      List.filter_eq_cons_iff.1 moreFiltered
    apply related_of_split (before ++ skipped) first between second later
    · simp [split, restSplit, moreSplit]
    · exact keepsFirst
    · exact keepsSecond
    · intro entry listed
      simpa using unkept entry listed

/-! ## The counter -/

namespace FrameCounter

theorem take_add (counter : FrameCounter) (first second : Nat) :
    counter.take (first + second) =
      ((counter.take first).1 ++ ((counter.take first).2.take second).1,
        ((counter.take first).2.take second).2) := by
  induction first generalizing counter with
  | zero => simp [take]
  | succ count inductionHypothesis =>
      rw [Nat.add_right_comm]
      simp [take, inductionHypothesis]

/-- The numbers that are given out follow one another, as far as 64 bits go. -/
theorem getElem?_take (counter : FrameCounter) {count index : Nat} (within : index < count) :
    (counter.take count).1[index]? = some (counter.issued + UInt64.ofNat index) := by
  induction count generalizing counter index with
  | zero => omega
  | succ count inductionHypothesis =>
      cases index with
      | zero => simp [take, next]
      | succ index =>
          simp only [take, next, List.getElem?_cons_succ]
          rw [inductionHypothesis _ (by omega), UInt64.ofNat_add]
          simp only [Option.some.injEq]
          ac_rfl

/-- A receiver sees no gap between two numbers exactly if the counter has started over a
whole number of times between them. -/
theorem isGap_apart (number : UInt64) (between : Nat) :
    isGap (some number) (number + UInt64.ofNat (between + 1)) = false ↔
      UInt64.size ∣ between := by
  have step :
      number + UInt64.ofNat (between + 1) = number + 1 ↔ UInt64.ofNat between = 0 := by
    rw [UInt64.ofNat_add]
    constructor
    · intro same
      have sums : UInt64.ofNat between + UInt64.ofNat 1 = 0 + 1 := by
        simpa using same
      simpa using sums
    · intro zero
      simp [zero]
  have multiple : UInt64.ofNat between = 0 ↔ UInt64.size ∣ between := by
    rw [← UInt64.toNat_inj, UInt64.toNat_ofNat', Nat.dvd_iff_mod_eq_zero]
    simp [UInt64.size]
  simp only [isGap, bne_eq_false_iff_eq]
  rw [step, multiple]

end FrameCounter

/-! ## Attempts to send -/

/-- One attempt to send a frame. -/
structure Attempt where
  session : SessionId
  /-- The number in the header of the frame. -/
  sequence : UInt64
  /-- Whether the transport took the frame. -/
  accepted : Bool
  deriving DecidableEq, Repr

namespace Attempt

/-- Whether the frame went out on a session. -/
def reached (session : SessionId) (attempt : Attempt) : Bool :=
  attempt.accepted && attempt.session = session

end Attempt

def Deed.attempt? : Deed → Option Attempt
  | .transmitted session (.composed sequence _) answer =>
      some { session, sequence, accepted := answer.isOk }
  | _ => none

/-- A frame that is handed to the transport is one that the endpoint composed, and its header
shows the number of the frame, at whatever time it is written. -/
def Deed.Numbered : Deed → Prop
  | .transmitted _ parcel _ =>
      ∃ (sequence : UInt64) (message : Message), parcel = .composed sequence message ∧
        ∀ timestampUs : UInt64,
          Frame.sequence? (Frame.encode message sequence timestampUs) = some sequence
  | _ => True

namespace Recorded

variable {τ : Type}

/-- The attempts to send a frame, on any channel, the first one first. -/
def attempts (record : Recorded τ) : List Attempt := record.deeds.filterMap Deed.attempt?

/-- The numbers of the frames that the transport took on a session. -/
def numbersOn (record : Recorded τ) (session : SessionId) : List UInt64 :=
  (record.attempts.filter (Attempt.reached session)).map Attempt.sequence

end Recorded

/-- Numbers among which a receiver sees no gap. -/
def Unbroken (numbers : List UInt64) : Prop :=
  List.IsChain (fun last received => FrameCounter.isGap (some last) received = false) numbers

instance (numbers : List UInt64) : Decidable (Unbroken numbers) :=
  inferInstanceAs (Decidable (List.IsChain _ numbers))

/-! ## Every run -/

/-- What happens to the channels of an endpoint. -/
inductive ChannelMove (τ : Type) where
  /-- The endpoint does something, or hears of something. -/
  | step (step : ChannelStep)
  /-- The transport changes by itself; what it accepts from now on may be different. -/
  | elsewhere (line : τ)

namespace Channels

variable {τ : Type}

/-- Some deeds are done, with numbers that the counter gives out for them. -/
structure Spends (before after : Channels (Recorded τ)) (done : List Deed) : Prop where
  deeds : after.line.deeds = before.line.deeds ++ done
  numbered : ∀ deed ∈ done, deed.Numbered
  counted : before.registry.counter.take (done.filterMap Deed.attempt?).length =
    ((done.filterMap Deed.attempt?).map Attempt.sequence, after.registry.counter)

namespace Spends

variable {first middle last : Channels (Recorded τ)} {done more : List Deed}

/-- A change that sends nothing uses up no number. -/
theorem of_silent (deeds : last.line.deeds = first.line.deeds ++ done)
    (silent : ∀ deed ∈ done, deed.attempt? = none ∧ deed.Numbered)
    (counter : last.registry.counter = first.registry.counter) : Spends first last done where
  deeds := deeds
  numbered := fun deed listed => (silent deed listed).2
  counted := by
    have nothing : done.filterMap Deed.attempt? = [] := by
      rw [List.filterMap_eq_nil_iff]
      intro deed listed
      exact (silent deed listed).1
    simp [nothing, FrameCounter.take, counter]

theorem append (earlier : Spends first middle done) (later : Spends middle last more) :
    Spends first last (done ++ more) where
  deeds := by simp [later.deeds, earlier.deeds]
  numbered := by
    intro deed listed
    rcases List.mem_append.1 listed with before | after
    · exact earlier.numbered deed before
    · exact later.numbered deed after
  counted := by
    rw [List.filterMap_append, List.length_append, FrameCounter.take_add, earlier.counted]
    simp [later.counted]

end Spends

section Moves

variable [Transport τ]

def move (channels : Channels (Recorded τ)) : ChannelMove τ → Channels (Recorded τ)
  | .step step => channels.step step
  | .elsewhere line => { channels with line := { channels.line with line } }

def run (channels : Channels (Recorded τ)) (moves : List (ChannelMove τ)) :
    Channels (Recorded τ) :=
  moves.foldl move channels

theorem spends_connect (channels : Channels (Recorded τ)) (peer : DeviceId) (role : Role) :
    ∃ done, Spends channels (channels.connect peer role).2 done := by
  cases known : channels.registry.channel? peer role with
  | some session =>
      rw [channels.connect_of_known known]
      exact ⟨[], .of_silent (by simp) (by simp) (by simp)⟩
  | none =>
      have deeds :
          (channels.connect peer role).2.line.deeds =
            channels.line.deeds ++
              [.dialled ⟨peer, role⟩ (Transport.dial channels.line.line peer role).1] := by
        rw [channels.line_connect_of_unknown known]
        rfl
      have counter :
          (channels.connect peer role).2.registry.counter = channels.registry.counter := by
        rcases dialled : Transport.dial channels.line peer role with ⟨refusal | session, line⟩
        · rw [channels.connect_of_refused known dialled]
        · rw [channels.connect_of_dialled known dialled]
          simp [Registry.enter]
      exact ⟨_, .of_silent deeds (by simp [Deed.attempt?, Deed.Numbered]) counter⟩

theorem spends_disconnect (channels : Channels (Recorded τ)) (peer : DeviceId) (role : Role) :
    ∃ done, Spends channels (channels.disconnect peer role) done := by
  cases known : channels.registry.channel? peer role with
  | none =>
      rw [channels.disconnect_of_unknown known]
      exact ⟨[], .of_silent (by simp) (by simp) (by simp)⟩
  | some session =>
      rw [disconnect, known]
      refine ⟨[.hungUp session], .of_silent ?_ ?_ ?_⟩
      · simp [Transport.hangUp]
      · simp [Deed.attempt?, Deed.Numbered]
      · simp

theorem spends_send (channels : Channels (Recorded τ)) (session : SessionId) (message : Message) :
    ∃ done, Spends channels (channels.send session message).2 done := by
  have counter :
      (channels.send session message).2.registry.counter = channels.registry.counter.next.2 := by
    rw [send]
    dsimp only
    split
    · simp
    · simp
  have deeds := congrArg Recorded.deeds (channels.line_send session message)
  refine ⟨_, deeds, ?_, ?_⟩
  · intro deed listed
    obtain rfl := List.mem_singleton.1 listed
    refine ⟨_, message, rfl, ?_⟩
    intro timestampUs
    simpa [Stamped.bytes] using
      Frame.sequence?_bytes ⟨message, channels.registry.counter.next.1, timestampUs⟩ []
  · simp [Deed.attempt?, FrameCounter.take, counter]

theorem spends_move (channels : Channels (Recorded τ)) (move : ChannelMove τ) :
    ∃ done, Spends channels (channels.move move) done := by
  cases move with
  | step step =>
      cases step with
      | connect peer role => exact spends_connect channels peer role
      | disconnect peer role => exact spends_disconnect channels peer role
      | opened session peer =>
          exact ⟨[], .of_silent (by simp [Channels.move, step]) (by simp)
            (by simp [Channels.move, step, Registry.opened, Registry.enter])⟩
      | closed session =>
          exact ⟨[], .of_silent (by simp [Channels.move, step]) (by simp)
            (by simp [Channels.move, step, Registry.counter_closed])⟩
      | send session message => exact spends_send channels session message
  | elsewhere line =>
      exact ⟨[], .of_silent (by simp [Channels.move]) (by simp) (by simp [Channels.move])⟩

theorem spends_run (channels : Channels (Recorded τ)) (moves : List (ChannelMove τ)) :
    ∃ done, Spends channels (channels.run moves) done := by
  induction moves generalizing channels with
  | nil => exact ⟨[], .of_silent (by simp [run]) (by simp) (by simp [run])⟩
  | cons move rest inductionHypothesis =>
      obtain ⟨done, now⟩ := channels.spends_move move
      obtain ⟨more, later⟩ := inductionHypothesis (channels.move move)
      exact ⟨done ++ more, now.append later⟩

/-- Whatever an endpoint does with its channels, and whatever its transport takes, the frames
of all channels are numbered with one counter: their headers show the numbers that it gives
out, one after another.  So the receiver of one channel sees no gap exactly if, between any
two frames that went out on this channel one after the other, the counter started over a whole
number of times for attempts to send that the receiver does not see, be it that they were
made on other channels or that they were refused. -/
theorem unbroken_iff (line : τ) (moves : List (ChannelMove τ)) :
    (∀ deed ∈ ((start line).run moves).line.deeds, deed.Numbered) ∧
    ((start line).run moves).line.attempts.map Attempt.sequence =
      (({} : FrameCounter).take ((start line).run moves).line.attempts.length).1 ∧
    ∀ session : SessionId,
      Unbroken (((start line).run moves).line.numbersOn session) ↔
        ∀ (before : List Attempt) (first : Attempt) (between : List Attempt) (second : Attempt)
          (later : List Attempt),
          ((start line).run moves).line.attempts =
              before ++ first :: (between ++ second :: later) →
            first.reached session = true → second.reached session = true →
            (∀ attempt ∈ between, attempt.reached session = false) →
              UInt64.size ∣ between.length := by
  obtain ⟨done, spends⟩ := (start line).spends_run moves
  have deeds : ((start line).run moves).line.deeds = done := by
    simpa [start] using spends.deeds
  have counted :
      ((start line).run moves).line.attempts.map Attempt.sequence =
        (({} : FrameCounter).take ((start line).run moves).line.attempts.length).1 := by
    rw [Recorded.attempts, deeds]
    exact (congrArg Prod.fst spends.counted).symm
  refine ⟨?_, counted, ?_⟩
  · rw [deeds]
    exact spends.numbered
  · intro session
    rw [Unbroken, Recorded.numbersOn, List.isChain_map, isChain_filter_iff]
    -- Both sides look at the same pairs; what is left is one pair at its two places.
    refine forall₅_congr ?_
    intro before first between second later
    apply forall_congr'
    intro split
    have number (index : Nat) (attempt : Attempt)
        (there : ((start line).run moves).line.attempts[index]? = some attempt) :
        attempt.sequence = UInt64.ofNat index := by
      have within : index < ((start line).run moves).line.attempts.length :=
        (List.getElem?_eq_some_iff.1 there).1
      have listed := congrArg (fun numbers : List UInt64 => numbers[index]?) counted
      simpa [there, FrameCounter.getElem?_take _ within] using listed
    have here := number before.length first (by simp [split])
    have there := number (before.length + (between.length + 1)) second (by simp [split])
    rw [here, there, UInt64.ofNat_add, FrameCounter.isGap_apart]

end Moves

/-! ## Two channels -/

/-- The desk asks two sinks in turn. -/
def alternating : List (ChannelMove Scripted) :=
  [.step (.connect ⟨"keyboard"⟩ .sink),
    .step (.connect ⟨"mouse"⟩ .sink),
    .step (.send ⟨100⟩ (.request ⟨"desk"⟩ .prepare)),
    .step (.send ⟨101⟩ (.request ⟨"desk"⟩ .prepare)),
    .step (.send ⟨100⟩ (.request ⟨"desk"⟩ .unprepare))]

/-- Every frame goes out and none is lost; still the receiver on the first channel sees a gap. -/
theorem numbers_skip :
    ¬ ∀ (moves : List (ChannelMove Scripted)) (session : SessionId),
      Unbroken (((start {}).run moves).line.numbersOn session) := by
  intro unbroken
  have numbers : ((start {}).run alternating).line.numbersOn ⟨100⟩ = [0, 2] := by
    decide +kernel
  have seen := unbroken alternating ⟨100⟩
  rw [numbers] at seen
  exact absurd seen (by decide)

/-- The attempt on the other channel is what breaks the row. -/
theorem unbroken_iff_alternating :
    ((start {}).run alternating).line.attempts =
        [⟨⟨100⟩, 0, true⟩, ⟨⟨101⟩, 1, true⟩, ⟨⟨100⟩, 2, true⟩] ∧
      ¬ Unbroken (((start {}).run alternating).line.numbersOn ⟨100⟩) := by
  have attempts :
      ((start {}).run alternating).line.attempts =
        [⟨⟨100⟩, 0, true⟩, ⟨⟨101⟩, 1, true⟩, ⟨⟨100⟩, 2, true⟩] := by
    decide +kernel
  refine ⟨attempts, ?_⟩
  intro unbroken
  obtain ⟨-, -, iff⟩ := unbroken_iff ({} : Scripted) alternating
  have multiple := (iff ⟨100⟩).1 unbroken [] ⟨⟨100⟩, 0, true⟩ [⟨⟨101⟩, 1, true⟩]
    ⟨⟨100⟩, 2, true⟩ [] attempts (by decide) (by decide) (by decide)
  exact absurd multiple (by decide)

end Channels

end InputSharing
