import InputSharing.Hardware.Simulated
import InputSharing.Proofs.Observation
import InputSharing.Proofs.Registry
import InputSharing.Proofs.Sink.Parts
import InputSharing.Source.Inbound

/-!
# Keys that are down

A key of a device is down when its last press was not followed by its release.
This module follows one key at a time: through the table of held keys that the
hardware keeps, through lists of events, and through the frames of a session, whose
receiver plays events and reports of held keys on a virtual device.
-/

namespace InputSharing

/-! ## One key -/

/-- A key of a device. -/
abbrev Key : Type := HandleId × UInt16

namespace InputEvent

/-- Whether a key is down after an event. -/
def move (key : Key) (down : Bool) (event : InputEvent) : Bool :=
  if event.eventClass = EventClass.key ∧ (event.handle, event.code) = key then
    if event.value = KeyValue.pressed then true
    else if event.value = KeyValue.released then false
    else down
  else down

theorem move_of_other {key : Key} {event : InputEvent} (other : event.handle ≠ key.1)
    (down : Bool) : event.move key down = down := by
  apply if_neg
  rintro ⟨_, same⟩
  exact other (congrArg Prod.fst same)

/-- A key that is down for one observer is down for another who saw it go down
before. -/
theorem move_mono {key : Key} {less more : Bool} (below : less = true → more = true)
    (event : InputEvent) : event.move key less = true → event.move key more = true := by
  unfold move
  split
  · split
    · exact id
    · split
      · exact id
      · exact below
  · exact below

end InputEvent

/-- Whether a key is down after some events. -/
def downAfter (key : Key) (down : Bool) (events : List InputEvent) : Bool :=
  events.foldl (InputEvent.move key) down

section Lists

variable {key : Key}

theorem downAfter_append (down : Bool) (first second : List InputEvent) :
    downAfter key down (first ++ second) = downAfter key (downAfter key down first) second :=
  List.foldl_append

theorem downAfter_of_others {events : List InputEvent}
    (others : ∀ event ∈ events, event.handle ≠ key.1) (down : Bool) :
    downAfter key down events = down := by
  induction events generalizing down with
  | nil => rfl
  | cons event rest inductionHypothesis =>
    have later : ∀ other ∈ rest, other.handle ≠ key.1 := by
      intro other listed
      exact others other (List.mem_cons_of_mem event listed)
    change downAfter key (event.move key down) rest = down
    rw [event.move_of_other (others event List.mem_cons_self), inductionHypothesis later]

theorem downAfter_mono {less more : Bool} (below : less = true → more = true)
    (events : List InputEvent) :
    downAfter key less events = true → downAfter key more events = true := by
  induction events generalizing less more with
  | nil => exact below
  | cons event rest inductionHypothesis =>
    exact inductionHypothesis (event.move_mono below)

end Lists

/-! ## The hardware -/

namespace Hardware

/-- Whether a key is held. -/
def holds (hardware : Hardware) (key : Key) : Bool := (hardware.keysOf key.1).contains key.2

theorem held_emit (hardware : Hardware) (event : InputEvent) :
    (hardware.emit event).2.held = hardware.heldAfter event := by
  unfold emit
  dsimp only
  split
  · rfl
  · rfl

/-- The table of held keys follows every event. -/
theorem holds_emit (hardware : Hardware) (event : InputEvent) (key : Key) :
    (hardware.emit event).2.holds key = event.move key (hardware.holds key) := by
  obtain ⟨handle, code⟩ := key
  have entry (codes : KeyCodes) :
      ((hardware.held.insert event.handle codes)[handle]?.getD ∅).contains code =
        if event.handle = handle then codes.contains code else hardware.holds (handle, code) := by
    rw [Table.getElem?_insert_eq]
    split
    · rfl
    · rfl
  rw [holds, keysOf, held_emit]
  by_cases elsewhere : event.handle ≠ handle
  · rw [event.move_of_other elsewhere, heldAfter]
    split
    · split
      · rw [entry, if_neg elsewhere]
      · split
        · rw [entry, if_neg elsewhere]
        · rfl
    · rfl
  · have here : event.handle = handle := Decidable.not_not.1 elsewhere
    have codes : hardware.holds (handle, code) = (hardware.keysOf event.handle).contains code := by
      rw [here]
      rfl
    rw [heldAfter, InputEvent.move, codes]
    simp only [here, Prod.mk.injEq, true_and]
    rw [here] at entry
    by_cases ofKey : event.eventClass = EventClass.key
    · simp only [ofKey, if_true, true_and]
      by_cases pressed : event.value = KeyValue.pressed
      · simp only [pressed, if_true, entry, Std.ExtTreeSet.contains_insert]
        by_cases same : event.code = code
        · simp [same]
        · simp [same]
      · by_cases released : event.value = KeyValue.released
        · simp only [released, show ¬KeyValue.released = KeyValue.pressed by decide, if_true,
            if_false, entry, Std.ExtTreeSet.contains_erase]
          by_cases same : event.code = code
          · simp [same]
          · simp [same]
        · simp only [pressed, released, if_false, ite_self]
          rfl
    · simp only [ofKey, if_false, false_and]
      rfl

/-- The keys that are reported are those that are held on the given devices. -/
theorem mem_heldKeys (hardware : Hardware) (handles : HandleSet) (state : KeyState) :
    state ∈ hardware.heldKeys handles ↔
      state.handle ∈ handles ∧ state.value = KeyValue.pressed ∧
        hardware.holds (state.handle, state.code) = true := by
  obtain ⟨handle, code, value⟩ := state
  rw [heldKeys, List.mem_flatMap]
  constructor
  · rintro ⟨⟨device, codes⟩, listed, reported⟩
    have found : hardware.held[device]? = some codes := Table.mem_toList.1 listed
    dsimp only at reported
    split at reported
    · next wanted =>
      obtain ⟨pressed, member, same⟩ := List.mem_map.1 reported
      cases same
      refine ⟨wanted, rfl, ?_⟩
      rw [holds, keysOf, found]
      exact Std.ExtTreeSet.mem_toList.1 member
    · cases reported
  · rintro ⟨wanted, pressed, holds⟩
    dsimp only at wanted pressed
    cases found : hardware.held[handle]? with
    | none =>
      rw [Hardware.holds, keysOf, found] at holds
      cases holds.symm.trans Std.ExtTreeSet.contains_empty
    | some codes =>
      rw [Hardware.holds, keysOf, found] at holds
      refine ⟨(handle, codes), Table.mem_toList.2 found, ?_⟩
      dsimp only
      rw [if_pos wanted, pressed]
      exact List.mem_map.2 ⟨code, Std.ExtTreeSet.mem_toList.2 holds, rfl⟩

end Hardware

/-! ## What a receiver plays -/

/-- The releases that a source injects for keys that were held. -/
def releases (keys : List KeyState) : List InputEvent :=
  (keys.filter fun state => state.value ≠ KeyValue.released).map (Source.Turn.releaseOf 0)

/-- What the receiver of a message injects. -/
def Message.played : Message → List InputEvent
  | .inputEvents _ events => events
  | .keyState _ state => releases [state]
  | .keyStates _ states => releases states
  | _ => []

/-- The source half of a node that has prepared a sink injects what is played. -/
theorem Source.Turn.inject_played {τ : Type} [Transport τ] {turn : Source.Turn τ}
    {sink : DeviceId} (prepared : turn.source.beliefs.contains sink = true)
    (session : SessionId) {message : Message} (plays : message.played ≠ []) :
    (turn.onMessage 0 session sink message).injections =
      turn.injections ++ message.played.map fun event => (sink, event) := by
  have injected (events : List InputEvent) :
      (turn.inject sink events).injections =
        turn.injections ++ events.map fun event => (sink, event) := by
    rw [inject, if_pos prepared]
  cases message with
  | inputEvents _ events => exact injected events
  | keyState _ state => exact injected (releases [state])
  | keyStates _ states => exact injected (releases states)
  | _ => exact absurd rfl plays

/-- A report of held keys lets go of the keys that it names. -/
theorem downAfter_releases (key : Key) (down : Bool) (states : List KeyState) :
    downAfter key down (releases states) =
      (down && !states.any fun state =>
        state.value ≠ KeyValue.released ∧ (state.handle, state.code) = key) := by
  induction states generalizing down with
  | nil => exact (Bool.and_true down).symm
  | cons state rest inductionHypothesis =>
    rw [List.any_cons, releases, List.filter_cons]
    by_cases named : state.value ≠ KeyValue.released
    · rw [if_pos (decide_eq_true named)]
      change downAfter key ((Source.Turn.releaseOf 0 state).move key down) (releases rest) = _
      have moved :
          (Source.Turn.releaseOf 0 state).move key down =
            (down && !decide ((state.handle, state.code) = key)) := by
        by_cases same : (state.handle, state.code) = key
        · rw [InputEvent.move, if_pos ⟨rfl, same⟩]
          simp [same, Source.Turn.releaseOf, KeyValue.released, KeyValue.pressed]
        · rw [InputEvent.move, if_neg fun both => same both.2]
          simp [same]
      rw [inductionHypothesis, moved, Bool.and_assoc, ← Bool.not_or]
      simp [named]
    · rw [if_neg (by simpa using named)]
      change downAfter key down (releases rest) = _
      rw [inductionHypothesis]
      simp [named]

/-- A report of the keys that are held on some devices lets go of just these. -/
theorem downAfter_heldKeys (hardware : Hardware) (handles : HandleSet) (key : Key)
    (down : Bool) :
    downAfter key down (releases (hardware.heldKeys handles)) =
      (down && !(decide (key.1 ∈ handles) && hardware.holds key)) := by
  rw [downAfter_releases]
  congr 2
  rw [Bool.eq_iff_iff, List.any_eq_true, Bool.and_eq_true, decide_eq_true_iff]
  constructor
  · rintro ⟨state, reported, named⟩
    obtain ⟨_, same⟩ := of_decide_eq_true named
    obtain ⟨wanted, _, holds⟩ := (hardware.mem_heldKeys handles state).1 reported
    rw [← same]
    exact ⟨wanted, holds⟩
  · rintro ⟨wanted, holds⟩
    have named : KeyValue.pressed ≠ KeyValue.released := by decide
    refine ⟨⟨key.1, key.2, KeyValue.pressed⟩, ?_, decide_eq_true ⟨named, rfl⟩⟩
    exact (hardware.mem_heldKeys handles _).2 ⟨wanted, rfl, holds⟩

/-! ## What a session is told -/

/-- What a frame that was given to the transport brings to the receiver of a
session. -/
def Deed.handed (session : SessionId) : Deed → List InputEvent
  | .transmitted carrier (.composed _ message) _ =>
      if carrier = session then message.played else []
  | _ => []

/-- What a frame that the transport took brings to the receiver of a session. -/
def Deed.delivered (session : SessionId) : Deed → List InputEvent
  | .transmitted carrier (.composed _ message) (.ok ()) =>
      if carrier = session then message.played else []
  | _ => []

/-- The transport has not refused a frame. -/
def Deed.passed : Deed → Bool
  | .transmitted _ _ (.error _) => false
  | _ => true

theorem Deed.handed_of_passed {deed : Deed} (passed : deed.passed = true)
    (session : SessionId) : deed.handed session = deed.delivered session := by
  cases deed with
  | transmitted carrier parcel answer =>
    cases answer with
    | error refusal => cases passed
    | ok accepted =>
      cases parcel with
      | composed sequence message => rfl
      | raw bytes => rfl
  | dialled _ _ | hungUp _ => rfl

namespace Sink.Turn

variable {τ κ : Type}

/-- What the receiver of a session has played of the frames that the transport
took. -/
def played (turn : Turn (Recorded τ) κ) (session : SessionId) : List InputEvent :=
  turn.line.deeds.flatMap (Deed.delivered session)

/-- What a session has been told. -/
def told (turn : Turn (Recorded τ) κ) (session : SessionId) : List InputEvent :=
  turn.line.deeds.flatMap (Deed.handed session)

/-- What a session has been told and what it will be told next. -/
def outlook (turn : Turn (Recorded τ) κ) (session : SessionId) : List InputEvent :=
  turn.told session ++ turn.sink.aside session

theorem told_eq_played {turn : Turn (Recorded τ) κ}
    (passed : ∀ deed ∈ turn.line.deeds, deed.passed = true) (session : SessionId) :
    turn.told session = turn.played session := by
  rw [told, played, List.flatMap_def, List.flatMap_def]
  congr 1
  apply List.map_congr_left
  intro deed listed
  exact Deed.handed_of_passed (passed deed listed) session

section Sending

variable [Transport τ] (turn : Turn (Recorded τ) κ)

theorem deeds_post (session : SessionId) (message : Message) :
    ∃ (sequence : UInt64) (answer : Except TransportError Unit),
      (turn.post session message).line.deeds =
        turn.line.deeds ++ [.transmitted session (.composed sequence message) answer] := by
  have line :=
    (⟨turn.sink.registry, turn.line⟩ : Channels (Recorded τ)).line_send session message
  exact ⟨_, _, congrArg Recorded.deeds line⟩

theorem grows_post (session : SessionId) (message : Message) :
    turn.line.deeds <+: (turn.post session message).line.deeds := by
  obtain ⟨sequence, answer, deeds⟩ := turn.deeds_post session message
  rw [deeds]
  exact List.prefix_append _ _

theorem grows_flushSession (session : SessionId) :
    turn.line.deeds <+: (turn.flushSession session).line.deeds := by
  unfold flushSession
  split
  · exact List.prefix_rfl
  · exact List.prefix_rfl
  · exact grows_post _ session _

theorem told_post (session tested : SessionId) (message : Message) :
    (turn.post session message).told tested =
      turn.told tested ++ if session = tested then message.played else [] := by
  obtain ⟨sequence, answer, deeds⟩ := turn.deeds_post session message
  rw [told, deeds, List.flatMap_append]
  congr 1
  exact List.append_nil _

/-- Nothing changes for a session when what waits for it is sent. -/
theorem outlook_flushSession (session tested : SessionId) :
    (turn.flushSession session).outlook tested = turn.outlook tested := by
  unfold flushSession
  split
  · rfl
  · rfl
  · next first rest waits =>
    let emptied : Turn (Recorded τ) κ :=
      { turn with sink := { turn.sink with outbox := turn.sink.outbox.insert session [] } }
    let batch : Message := .inputEvents turn.sink.device (first :: rest)
    have aside : (emptied.post session batch).sink.aside tested =
        if session = tested then [] else turn.sink.aside tested := by
      obtain ⟨counter, line, equal⟩ := emptied.sent_post session batch
      rw [equal]
      change (turn.sink.outbox.insert session [])[tested]?.getD [] = _
      rw [Table.getElem?_insert_eq]
      split
      · rfl
      · rfl
    change (emptied.post session batch).told tested ++ (emptied.post session batch).sink.aside
      tested = turn.told tested ++ turn.sink.aside tested
    rw [emptied.told_post, aside, List.append_assoc]
    congr 1
    by_cases same : session = tested
    · subst same
      rw [if_pos rfl, if_pos rfl, List.append_nil, Sink.aside, waits]
      rfl
    · rw [if_neg same, if_neg same]
      rfl

omit [Transport τ] in
theorem outlook_collect (session tested : SessionId) (event : InputEvent) :
    (turn.collect session event).outlook tested =
      turn.outlook tested ++ if session = tested then [event] else [] := by
  rw [outlook, aside_collect, ← List.append_assoc]
  rfl

end Sending

end Sink.Turn

end InputSharing
