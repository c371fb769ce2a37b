import InputSharing.Proofs.Sink.Keys
import Mathlib.Data.List.Induction

/-!
# Simulated hardware on a bench

On a bench devices are told what to produce, and reading them is started and stopped.  Which
keys are held then depends on the events alone, and which events are captured depends on the
starts and stops alone: an event is captured if a start succeeded before and no stop came since.

A `Trial` is hardware with a record of its answers and of the events that were taken from it.
-/

namespace InputSharing

/-! ## The last press or release of a key -/

section LastValue

variable {key : Key}

/-- An event presses or releases a key. -/
def InputEvent.Moves (key : Key) (event : InputEvent) : Prop :=
  event.eventClass = EventClass.key ∧ (event.handle, event.code) = key ∧
    (event.value = KeyValue.pressed ∨ event.value = KeyValue.released)

instance (event : InputEvent) : Decidable (event.Moves key) :=
  inferInstanceAs (Decidable (_ ∧ _ ∧ (_ ∨ _)))

theorem InputEvent.move_eq (event : InputEvent) (down : Bool) :
    event.move key down =
      if event.Moves key then decide (event.value = KeyValue.pressed) else down := by
  by_cases ofKey : event.eventClass = EventClass.key ∧ (event.handle, event.code) = key
  · by_cases pressed : event.value = KeyValue.pressed
    · simp [move, Moves, ofKey, pressed]
    · by_cases released : event.value = KeyValue.released
      · simp [move, Moves, ofKey, released]
      · simp [move, Moves, ofKey, pressed, released]
  · have other : ¬ event.Moves key := fun moves => ofKey ⟨moves.1, moves.2.1⟩
    simp [move, ofKey, other]

/-- The value of the last event that presses or releases a key. -/
def lastValue? (key : Key) (events : List InputEvent) : Option Int32 :=
  (events.filter fun event => event.Moves key).getLast?.map InputEvent.value

theorem lastValue?_snoc (events : List InputEvent) (event : InputEvent) :
    lastValue? key (events ++ [event]) =
      if event.Moves key then some event.value else lastValue? key events := by
  by_cases moves : event.Moves key
  · simp [lastValue?, moves]
  · simp [lastValue?, moves]

/-- A key is down if its last press or release was a press. -/
theorem downAfter_eq (key : Key) (events : List InputEvent) :
    downAfter key false events = decide (lastValue? key events = some KeyValue.pressed) := by
  induction events using List.reverseRecOn with
  | nil => simp [downAfter, lastValue?]
  | append_singleton events event inductionHypothesis =>
      have step : downAfter key false (events ++ [event]) =
          event.move key (downAfter key false events) := by
        simp [downAfter]
      rw [step, inductionHypothesis, InputEvent.move_eq, lastValue?_snoc]
      by_cases moves : event.Moves key
      · simp [moves]
      · simp [moves]

end LastValue

/-! ## The order of a report -/

/-- The order of a report: by device and by code. -/
def KeyState.Before (first second : KeyState) : Prop :=
  compare first.handle second.handle = .lt ∨
    (first.handle = second.handle ∧ first.code < second.code)

instance : Std.Irrefl KeyState.Before where
  irrefl state := by simp [KeyState.Before]

namespace Hardware

/-- Held keys are reported in order. -/
theorem pairwise_heldKeys (hardware : Hardware) (handles : HandleSet) :
    (hardware.heldKeys handles).Pairwise KeyState.Before := by
  have reported {handle : HandleId} {codes : KeyCodes} {state : KeyState}
      (listed : state ∈ if handle ∈ handles then
        codes.toList.map fun code => (⟨handle, code, KeyValue.pressed⟩ : KeyState) else []) :
      state.handle = handle := by
    split at listed
    · obtain ⟨code, -, rfl⟩ := List.mem_map.1 listed
      rfl
    · cases listed
  rw [heldKeys, List.pairwise_flatMap]
  constructor
  · rintro ⟨handle, codes⟩ -
    by_cases wanted : handle ∈ handles
    · have sorted := codes.ordered_toList
      simpa [wanted, List.pairwise_map, KeyState.Before, Std.compare_eq_lt] using sorted
    · simp [wanted]
  · refine hardware.held.ordered_keys_toList.imp ?_
    rintro first second less state here other there
    rw [KeyState.Before, reported here, reported there]
    exact Or.inl less

/-- Where somebody takes captured events, an event is captured if the devices are being read. -/
theorem emit_of_listening {hardware : Hardware} (listening : hardware.listening = true)
    (event : InputEvent) :
    hardware.emit event =
      (hardware.capturing,
        { hardware with
          held := hardware.heldAfter event
          captured := hardware.captured ++ if hardware.capturing then [event] else [] }) := by
  by_cases reading : hardware.capturing = true
  · simp [emit, listening, reading]
  · simp [emit, reading]

/-! ## What is done on a bench -/

/-- What is done with simulated hardware. -/
inductive Act where
  | emit (event : InputEvent)
  /-- Make the next start fail. -/
  | failNextStart
  | start
  | stop
  /-- Take the events that were captured. -/
  | take
  deriving DecidableEq

/-- The event that an act emits, if it does. -/
def Act.event? : Act → Option InputEvent
  | .emit event => some event
  | _ => none

/-- An act was done where some condition held, and another one was not done since. -/
def Since (condition : List Act → Prop) (opening closing : Act) (acts : List Act) : Prop :=
  ∃ before between, acts = before ++ opening :: between ∧ condition before ∧ closing ∉ between

section Since

variable {condition : List Act → Prop} {opening closing : Act}

theorem since_iff {acts : List Act} :
    Since condition opening closing acts ↔
      ∃ index, index < acts.length ∧ acts[index]? = some opening ∧
        condition (acts.take index) ∧ closing ∉ acts.drop (index + 1) := by
  constructor
  · rintro ⟨before, between, rfl, held, unclosed⟩
    exact ⟨before.length, by simp, by simp, by simpa using held, by simpa using unclosed⟩
  · rintro ⟨index, inside, found, held, unclosed⟩
    refine ⟨acts.take index, acts.drop (index + 1), ?_, held, unclosed⟩
    obtain ⟨_, rfl⟩ := List.getElem?_eq_some_iff.1 found
    simp

instance [DecidablePred condition] : DecidablePred (Since condition opening closing) :=
  fun _ => decidable_of_iff _ since_iff.symm

theorem not_since_nil : ¬ Since condition opening closing [] := by
  simp [Since]

theorem since_snoc {acts : List Act} {act : Act} :
    Since condition opening closing (acts ++ [act]) ↔
      (act = opening ∧ condition acts) ∨
        (act ≠ closing ∧ Since condition opening closing acts) := by
  constructor
  · rintro ⟨before, between, split, held, unclosed⟩
    rcases between.eq_nil_or_concat with rfl | ⟨between, last, rfl⟩
    · obtain ⟨rfl, rfl⟩ := List.append_singleton_inj.1 split
      exact Or.inl ⟨rfl, held⟩
    · rw [List.concat_eq_append, ← List.cons_append, ← List.append_assoc] at split
      obtain ⟨rfl, rfl⟩ := List.append_singleton_inj.1 split
      simp only [List.concat_eq_append, List.mem_append, List.mem_singleton, not_or] at unclosed
      exact Or.inr ⟨Ne.symm unclosed.2, before, between, rfl, held, unclosed.1⟩
  · rintro (⟨rfl, held⟩ | ⟨other, before, between, rfl, held, unclosed⟩)
    · exact ⟨acts, [], rfl, held, List.not_mem_nil⟩
    · refine ⟨before, between ++ [act], by simp, held, ?_⟩
      simp [unclosed, Ne.symm other]

end Since

/-- The next start fails: this was asked for, and there was no start since. -/
def Doomed : List Act → Prop := Since (fun _ => True) .failNextStart .start

instance : DecidablePred Doomed :=
  inferInstanceAs (DecidablePred (Since (fun _ => True) .failNextStart .start))

/-- The devices are being read: a start succeeded, and there was no stop since. -/
def Reading : List Act → Prop := Since (fun before => ¬ Doomed before) .start .stop

instance : DecidablePred Reading :=
  inferInstanceAs (DecidablePred (Since (fun before => ¬ Doomed before) .start .stop))

theorem doomed_snoc {acts : List Act} {act : Act} :
    Doomed (acts ++ [act]) ↔ act = .failNextStart ∨ (act ≠ .start ∧ Doomed acts) := by
  simp [Doomed, since_snoc]

theorem reading_snoc {acts : List Act} {act : Act} :
    Reading (acts ++ [act]) ↔
      (act = .start ∧ ¬ Doomed acts) ∨ (act ≠ .stop ∧ Reading acts) := by
  simp [Reading, since_snoc]

/-- The events that are emitted. -/
def emitted (acts : List Act) : List InputEvent := acts.filterMap Act.event?

/-- The events that are emitted, each with whether the devices are being read when it is.  Some
acts came before. -/
def readings (past : List Act) : List Act → List (InputEvent × Bool)
  | [] => []
  | act :: later =>
      (act.event?.toList.map fun event => (event, decide (Reading past))) ++
        readings (past ++ [act]) later

theorem readings_append (past first second : List Act) :
    readings past (first ++ second) = readings past first ++ readings (past ++ first) second := by
  induction first generalizing past with
  | nil => simp [readings]
  | cons act rest inductionHypothesis => simp [readings, inductionHypothesis]

theorem map_fst_readings (past acts : List Act) :
    (readings past acts).map Prod.fst = emitted acts := by
  induction acts generalizing past with
  | nil => simp [readings, emitted]
  | cons act later inductionHypothesis =>
      have rest := inductionHypothesis (past ++ [act])
      cases emits : act.event? with
      | none => simpa [readings, emitted, emits] using rest
      | some event => simpa [readings, emitted, emits] using rest

/-! ## Trials -/

/-- Hardware with a record of what came of the acts. -/
structure Trial where
  hardware : Hardware
  /-- Every event that was emitted, with the answer. -/
  answers : List (InputEvent × Bool) := []
  /-- The events that were taken. -/
  taken : List InputEvent := []

namespace Trial

def perform (trial : Trial) : Act → Trial
  | .emit event =>
      let (captured, hardware) := trial.hardware.emit event
      { trial with hardware, answers := trial.answers ++ [(event, captured)] }
  | .failNextStart => { trial with hardware := { trial.hardware with failNextStart := true } }
  | .start => { trial with hardware := trial.hardware.start.2 }
  | .stop => { trial with hardware := trial.hardware.stop }
  | .take =>
      let (events, hardware) := trial.hardware.take
      { trial with hardware, taken := trial.taken ++ events }

/-- What there is after some acts with new hardware. -/
def after (devices : List Device) (acts : List Act) : Trial :=
  acts.foldl perform { hardware := ofDevices devices }

/-- The events that were captured, whether or not they have been taken. -/
def delivered (trial : Trial) : List InputEvent := trial.taken ++ trial.hardware.captured

/-- What an act leaves alone unless it emits an event. -/
theorem perform_of_silent (trial : Trial) {act : Act} (silent : act.event? = none) :
    (trial.perform act).answers = trial.answers ∧
      (trial.perform act).delivered = trial.delivered ∧
      (trial.perform act).hardware.held = trial.hardware.held ∧
      (trial.perform act).hardware.listening = trial.hardware.listening := by
  cases act with
  | emit event => cases silent
  | failNextStart => simp [perform, delivered]
  | start =>
      cases fails : trial.hardware.failNextStart with
      | true => simp [perform, Hardware.start, delivered, fails]
      | false => simp [perform, Hardware.start, delivered, fails]
  | stop => simp [perform, Hardware.stop, delivered]
  | take => simp [perform, Hardware.take, delivered]

/-- What holds of a trial after some acts. -/
structure Follows (trial : Trial) (acts : List Act) : Prop where
  capturing : trial.hardware.capturing = decide (Reading acts)
  doomed : trial.hardware.failNextStart = decide (Doomed acts)
  listening : trial.hardware.listening = true
  answers : trial.answers = readings [] acts
  delivered : trial.delivered = (trial.answers.filter Prod.snd).map Prod.fst
  holds : ∀ key, trial.hardware.holds key = downAfter key false (trial.answers.map Prod.fst)

namespace Follows

variable {trial : Trial} {acts : List Act}

theorem new (devices : List Device) : (after devices []).Follows [] where
  capturing := by simp [after, ofDevices, Reading, not_since_nil]
  doomed := by simp [after, ofDevices, Doomed, not_since_nil]
  listening := by simp [after, ofDevices]
  answers := by simp [after, readings]
  delivered := by simp [after, Trial.delivered, ofDevices]
  holds key := by simp [after, ofDevices, Hardware.holds, keysOf, downAfter]

theorem capturing_perform (follows : trial.Follows acts) (act : Act) :
    (trial.perform act).hardware.capturing = decide (Reading (acts ++ [act])) := by
  have now := follows.capturing
  cases act with
  | emit event =>
      simp [perform, emit_of_listening follows.listening, reading_snoc, now]
  | failNextStart => simp [perform, reading_snoc, now]
  | start =>
      -- A start that fails leaves the devices being read if they are.
      by_cases doomed : Doomed acts
      · simp [perform, Hardware.start, follows.doomed, reading_snoc, doomed, now]
      · simp [perform, Hardware.start, follows.doomed, reading_snoc, doomed]
  | stop => simp [perform, Hardware.stop, reading_snoc]
  | take => simp [perform, Hardware.take, reading_snoc, now]

theorem doomed_perform (follows : trial.Follows acts) (act : Act) :
    (trial.perform act).hardware.failNextStart = decide (Doomed (acts ++ [act])) := by
  have now := follows.doomed
  cases act with
  | emit event =>
      simp [perform, emit_of_listening follows.listening, doomed_snoc, now]
  | failNextStart => simp [perform, doomed_snoc]
  | start =>
      by_cases doomed : Doomed acts
      · simp [perform, Hardware.start, now, doomed_snoc, doomed]
      · simp [perform, Hardware.start, now, doomed_snoc, doomed]
  | stop => simp [perform, Hardware.stop, doomed_snoc, now]
  | take => simp [perform, Hardware.take, doomed_snoc, now]

/-- An event is captured if the devices are being read, and counts for its key anyway. -/
theorem perform_emit (follows : trial.Follows acts) (event : InputEvent) :
    (trial.perform (.emit event)).Follows (acts ++ [.emit event]) := by
  have emitted := emit_of_listening follows.listening event
  refine ⟨follows.capturing_perform _, follows.doomed_perform _, ?_, ?_, ?_, ?_⟩
  · simp [Trial.perform, emitted, follows.listening]
  · simp [Trial.perform, emitted, readings_append, readings, Act.event?, follows.answers,
      follows.capturing]
  · have before := follows.delivered
    rw [Trial.delivered] at before
    cases reading : trial.hardware.capturing with
    | true => simp [Trial.perform, emitted, Trial.delivered, reading, ← before]
    | false => simp [Trial.perform, emitted, Trial.delivered, reading, ← before]
  · intro key
    simp [Trial.perform, holds_emit, follows.holds, downAfter]

theorem perform_silent (follows : trial.Follows acts) {act : Act} (silent : act.event? = none) :
    (trial.perform act).Follows (acts ++ [act]) := by
  obtain ⟨answers, delivered, held, listening⟩ := trial.perform_of_silent silent
  refine ⟨follows.capturing_perform act, follows.doomed_perform act, ?_, ?_, ?_, ?_⟩
  · rw [listening, follows.listening]
  · rw [answers, follows.answers, readings_append]
    simp [readings, silent]
  · rw [delivered, answers, follows.delivered]
  · intro key
    rw [answers, ← follows.holds, Hardware.holds, Hardware.holds, keysOf, keysOf, held]

theorem perform (follows : trial.Follows acts) (act : Act) :
    (trial.perform act).Follows (acts ++ [act]) := by
  cases act with
  | emit event => exact follows.perform_emit event
  | failNextStart | start | stop | take => exact follows.perform_silent (by simp [Act.event?])

end Follows

theorem follows_after (devices : List Device) (acts : List Act) :
    (after devices acts).Follows acts := by
  induction acts using List.reverseRecOn with
  | nil => exact Follows.new devices
  | append_singleton acts act inductionHypothesis =>
      have next := inductionHypothesis.perform act
      simpa [after] using next

/-- Whatever is done with simulated hardware, it reports the keys of the given devices whose last
press or release was a press, in order and each once.  It answers of every event whether a start
succeeded before it and no stop came since, and it delivers the events for which it answered so,
in order.  A start fails if and only if this was asked for and no start came since. -/
theorem trial_follows_acts (devices : List Device) (acts : List Act) :
    (∀ handles : HandleSet,
      ((after devices acts).hardware.heldKeys handles).Pairwise KeyState.Before ∧
        ((after devices acts).hardware.heldKeys handles).Nodup ∧
        ∀ state, state ∈ (after devices acts).hardware.heldKeys handles ↔
          state.handle ∈ handles ∧ state.value = KeyValue.pressed ∧
            lastValue? (state.handle, state.code) (emitted acts) = some KeyValue.pressed) ∧
    (after devices acts).answers = readings [] acts ∧
    (after devices acts).delivered = ((readings [] acts).filter Prod.snd).map Prod.fst ∧
    ((after devices acts).hardware.start.1.isOk = true ↔ ¬ Doomed acts) := by
  have follows := follows_after devices acts
  refine ⟨?_, follows.answers, ?_, ?_⟩
  · intro handles
    have sorted := (after devices acts).hardware.pairwise_heldKeys handles
    refine ⟨sorted, sorted.nodup, ?_⟩
    intro state
    rw [mem_heldKeys, follows.holds, downAfter_eq, follows.answers, map_fst_readings]
    simp
  · rw [follows.delivered, follows.answers]
  · by_cases doomed : Doomed acts
    · simp [Hardware.start, follows.doomed, doomed, Except.isOk, Except.toBool]
    · simp [Hardware.start, follows.doomed, doomed, Except.isOk, Except.toBool]

/-- A start that fails while the devices are being read does not stop the reading. -/
example :
    (readings []
      [.failNextStart, .start, .emit default, .start, .failNextStart, .start, .emit default,
        .stop, .emit default]).map Prod.snd =
      [false, true, false] := by
  decide

end Trial

end Hardware

end InputSharing
