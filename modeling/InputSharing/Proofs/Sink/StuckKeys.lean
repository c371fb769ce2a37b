import InputSharing.Proofs.Sink.Stopping

/-!
# Keys that stay down

A `Bench` is a sink on simulated devices, whose captured events wait in a queue
until the sink takes them.  A key is stuck for a session when the receiver of the
session still has it down although the session has lost the device.

The sink reports what the hardware holds at the moment of a stop, and what it has
sent lags behind by the events in the queue.  So a key is not let go of if its
release is still in the queue.  Where the queue is empty at every stop, no key is
ever stuck.
-/

namespace InputSharing.Sink

/-! ## Benches -/

/-- What can happen to a sink and its devices while its channels stay. -/
inductive Motion where
  /-- Another node opens a channel. -/
  | opened (session : SessionId) (peer : DeviceId)
  /-- A message arrives on a channel. -/
  | message (session : SessionId) (message : Message)
  /-- A device produces an event. -/
  | emit (event : InputEvent)
  /-- The sink takes the oldest captured event. -/
  | deliver
  /-- The events that have been put aside are to be sent. -/
  | flush
  /-- The next attempt to read the devices will fail. -/
  | jam
  /-- The user adds a listener. -/
  | listen

namespace Turn

variable {τ : Type}

def withHardware (turn : Turn τ (Metered Hardware)) (hardware : Hardware) :
    Turn τ (Metered Hardware) :=
  { turn with collector := { turn.collector with hardware } }

/-- The captured events that nobody has taken yet. -/
def queue (turn : Turn τ (Metered Hardware)) : List InputEvent :=
  turn.collector.hardware.captured

def holds (turn : Turn τ (Metered Hardware)) (key : Key) : Bool :=
  turn.collector.hardware.holds key

variable [Transport τ]

def deliver (turn : Turn τ (Metered Hardware)) : Turn τ (Metered Hardware) :=
  match turn.queue with
  | [] => turn
  | event :: rest =>
      ((turn.withHardware { turn.collector.hardware with captured := rest }).captured event).2

def perform (turn : Turn τ (Metered Hardware)) : Motion → Turn τ (Metered Hardware)
  | .opened session peer => turn.opened session peer
  | .message session message => turn.handle session message
  | .emit event => turn.withHardware (turn.collector.hardware.emit event).2
  | .deliver => turn.deliver
  | .flush => turn.flush
  | .jam => turn.withHardware { turn.collector.hardware with failNextStart := true }
  | .listen => turn.listen

end Turn

/-- A motion is possible unless it opens a channel that the sink knows. -/
def Motion.Possible (sink : Sink) : Motion → Prop
  | .opened session _ => session ∉ sink.registry.bySession
  | _ => True

/-- Whether a motion is a request that may take handles back. -/
def Motion.takesBack : Motion → Bool
  | .message _ request => request.takesBack
  | _ => false

/-- A sink and its devices. -/
structure Bench (τ : Type) where
  turn : Turn (Recorded τ) (Metered Hardware)
  /-- Nothing was in the queue whenever a request came to end sharing. -/
  prompt : Bool := true

namespace Bench

variable {τ : Type} [Transport τ]

def perform (bench : Bench τ) (motion : Motion) : Bench τ where
  turn := bench.turn.perform motion
  prompt := bench.prompt && (!motion.takesBack || bench.turn.queue.isEmpty)

/-- The benches of a sink that started with the given settings. -/
inductive Reached (device : DeviceId) (allowList : AllowList) (batchMax : Nat) :
    Bench τ → Prop
  | start (line : τ) (devices : List Device) :
      Reached device allowList batchMax
        { turn :=
            { sink := Sink.start device allowList batchMax
              line := { line }
              collector := { hardware := Hardware.ofDevices devices } } }
  | perform {bench : Bench τ} (motion : Motion) :
      Reached device allowList batchMax bench →
      motion.Possible bench.turn.sink →
      Reached device allowList batchMax (bench.perform motion)
  /-- The transport changes by itself. -/
  | elsewhere {bench : Bench τ} (line : τ) :
      Reached device allowList batchMax bench →
      Reached device allowList batchMax
        { bench with turn := { bench.turn with line := { bench.turn.line with line } } }

variable {device : DeviceId} {allowList : AllowList} {batchMax : Nat} {bench : Bench τ}

/-- Devices that produce events, and events that wait, are hardware that changes by
itself. -/
theorem Reached.sink (reached : bench.Reached device allowList batchMax) :
    Sink.Reached device allowList batchMax bench.turn := by
  induction reached with
  | start line devices => exact .start line _
  | elsewhere line _ inductionHypothesis =>
    exact .elsewhere line _ inductionHypothesis
  | @perform bench motion _ possible inductionHypothesis =>
    have moved (hardware : Hardware) :
        Sink.Reached device allowList batchMax (bench.turn.withHardware hardware) :=
      .elsewhere bench.turn.line.line hardware inductionHypothesis
    cases motion with
    | opened session peer => exact .undergo (.opened session peer) inductionHypothesis possible
    | message session message =>
      exact .undergo (.message session message) inductionHypothesis trivial
    | emit event => exact moved _
    | deliver =>
      change Sink.Reached device allowList batchMax bench.turn.deliver
      unfold Turn.deliver
      split
      · exact inductionHypothesis
      · exact .undergo (.captured _) (moved _) trivial
    | flush => exact .undergo .flush inductionHypothesis trivial
    | jam => exact moved _
    | listen => exact .undergo .listen inductionHypothesis trivial

end Bench

/-! ## What is put aside -/

namespace Turn

variable {τ : Type} {turn before after : Turn (Recorded τ) (Metered Hardware)}

/-- Events wait for the session that owns their handle; and the hardware is read as
the sink wants. -/
structure Tidy (turn : Turn (Recorded τ) (Metered Hardware)) : Prop where
  owned : ∀ session, ∀ event ∈ turn.sink.aside session,
    turn.sink.owners[event.handle]? = some session
  geared : turn.Geared
  listening : turn.collector.hardware.listening = true

theorem Tidy.calm (tidy : before.Tidy) (calm : Calm before after) : after.Tidy where
  owned session event listed :=
    calm.kept _ _ (tidy.owned session event (calm.aside_subset session listed))
  geared := calm.geared tidy.geared
  listening := calm.same.2.2.trans tidy.listening

theorem Tidy.yields (tidy : before.Tidy) {session : SessionId} {released : HandleSet}
    (yields : Yields session released before after) : after.Tidy where
  owned tested event listed := by
    obtain ⟨earlier, kept⟩ := yields.aside_kept tested event listed
    have owned := tidy.owned tested event earlier
    rw [yields.owners_eq, if_neg]
    · exact owned
    · intro gone
      have mine := yields.lent event.handle gone
      exact kept (Option.some.inj (owned.symm.trans mine)) gone
  geared := yields.geared tidy.geared
  listening := yields.same.2.2.trans tidy.listening

/-- A key of a device that a session does not own waits in no batch for it. -/
theorem Tidy.coming_eq (tidy : turn.Tidy) {session : SessionId} {key : Key}
    (lost : turn.sink.owners[key.1]? ≠ some session) :
    turn.isComing session key = downAfter key false (turn.told session) := by
  rw [isComing, outlook, downAfter_append]
  apply downAfter_of_others
  intro event listed same
  exact lost (same ▸ tidy.owned session event listed)

variable [Transport τ]

theorem calm_flush (turn : Turn (Recorded τ) (Metered Hardware)) : Calm turn turn.flush := by
  have all (sessions : List SessionId) (turn : Turn (Recorded τ) (Metered Hardware)) :
      Calm turn (sessions.foldl flushSession turn) := by
    induction sessions generalizing turn with
    | nil => exact Calm.refl turn
    | cons session rest inductionHypothesis =>
      exact (turn.calm_flushSession session).trans (inductionHypothesis _)
  exact all turn.sink.outbox.keys turn

/-! ## Captured events -/

/-- An event goes to the owner of its handle. -/
structure Routes (event : InputEvent) (before after : Turn (Recorded τ) (Metered Hardware)) :
    Prop where
  coming_eq : ∀ tested key, after.isComing tested key =
    if before.sink.owners[event.handle]? = some tested then
      event.move key (before.isComing tested key)
    else before.isComing tested key
  aside_owned : ∀ tested, ∀ waiting ∈ after.sink.aside tested,
    waiting ∈ before.sink.aside tested ∨ before.sink.owners[waiting.handle]? = some tested
  owners_eq : after.sink.owners = before.sink.owners
  collector_eq : after.collector = before.collector
  capturing_eq : after.sink.capturing = before.sink.capturing

omit [Transport τ] in
theorem routes_collect {session : SessionId} {event : InputEvent}
    (owned : turn.sink.owners[event.handle]? = some session) :
    Routes event turn (turn.collect session event) where
  coming_eq tested key := by
    rw [isComing, outlook_collect, downAfter_append, owned]
    by_cases same : session = tested
    · rw [if_pos same, if_pos (congrArg some same)]
      rfl
    · rw [if_neg same, if_neg fun equal => same (Option.some.inj equal)]
      rfl
  aside_owned tested waiting listed := by
    rw [aside_collect] at listed
    cases List.mem_append.1 listed with
    | inl earlier => exact Or.inl earlier
    | inr last =>
      split at last
      · next same =>
        rw [List.mem_singleton.1 last, ← same]
        exact Or.inr owned
      · cases last
  owners_eq := rfl
  collector_eq := rfl
  capturing_eq := rfl

theorem routes_captured (turn : Turn (Recorded τ) (Metered Hardware)) (books : Books turn.sink)
    (event : InputEvent) : Routes event turn (turn.captured event).2 := by
  cases owned : turn.sink.owners[event.handle]? with
  | none =>
    have stays : turn.captured event = (.throughIn, turn) := by
      obtain stays | ⟨session, other, _⟩ := turn.captured_cases event
      · exact stays
      · rw [owned] at other
        cases other
    rw [stays]
    refine ⟨?_, fun _ _ => Or.inl, rfl, rfl, rfl⟩
    intro tested key
    rw [owned, if_neg nofun]
  | some session =>
    have out : turn.sink.tracker.stateOf event.handle = .throughOut :=
      (books.throughOut_iff event.handle).2 (Table.mem_of_getElem? owned)
    have collects := routes_collect owned
    have goes : (turn.captured event).2 =
        if turn.sink.batchLimit ≤ (turn.sink.outbox[session]?.getD [] ++ [event]).length then
          (turn.collect session event).flushSession session
        else turn.collect session event := by
      rw [captured, if_neg fun other => other out, owned]
      rfl
    rw [goes]
    split
    · have flushes := (turn.collect session event).calm_flushSession session
      obtain ⟨counter, line, equal⟩ := (turn.collect session event).sent_flushSession session
      refine ⟨?_, ?_, ?_, ?_, ?_⟩
      · intro tested key
        exact (flushes.coming_eq tested key).trans (collects.coming_eq tested key)
      · intro tested waiting listed
        exact collects.aside_owned tested waiting (flushes.aside_subset tested listed)
      · rw [equal]
        rfl
      · rw [equal]
        rfl
      · rw [equal]
        rfl
    · exact collects

/-! ## Prompt runs -/

/-- What holds as long as nothing is in the queue whenever a request comes to end
sharing: no key is down where the device was lost, and a key that is down and will
not go up by the events in the queue is held. -/
structure Followed (turn : Turn (Recorded τ) (Metered Hardware)) : Prop where
  silent : ∀ (session : SessionId) (key : Key),
    turn.sink.owners[key.1]? ≠ some session → turn.isComing session key = false
  held : ∀ session key,
    downAfter key (turn.isComing session key) turn.queue = true → turn.holds key = true
  idle : turn.sink.capturing = false → turn.queue = []

namespace Followed

omit [Transport τ] in
theorem calm (followed : before.Followed) (calm : Calm before after) : after.Followed where
  silent session key lost := by
    rw [calm.coming_eq]
    exact followed.silent session key fun owned => lost (calm.kept _ _ owned)
  held session key down := by
    have queue : after.queue = before.queue := calm.same.2.1
    have holds : after.holds key = before.holds key := by
      rw [Turn.holds, Hardware.holds, Hardware.keysOf, calm.same.1]
      rfl
    rw [holds]
    rw [calm.coming_eq, queue] at down
    exact followed.held session key down
  idle stopped := by
    have earlier : before.sink.capturing = false := by
      cases capturing : before.sink.capturing with
      | false => rfl
      | true => exact (calm.reads capturing).symm.trans stopped
    exact calm.same.2.1.trans (followed.idle earlier)

omit [Transport τ] in
/-- Where nothing is in the queue, a session that loses handles hears of every key
that it has down. -/
theorem yields (followed : before.Followed) (empty : before.queue = []) {session : SessionId}
    {released : HandleSet} (yields : Yields session released before after) : after.Followed where
  silent tested key lost := by
    rw [yields.coming_eq]
    split
    · cases down : before.isComing tested key with
      | false => rfl
      | true =>
        have held : before.holds key = true := by
          apply followed.held tested key
          rw [down, empty]
          rfl
        rw [show before.collector.hardware.holds key = true from held]
        rfl
    · next other =>
      apply followed.silent tested key
      intro owned
      apply other
      rw [yields.owners_eq] at lost
      split at lost
      · next gone =>
        have mine := yields.lent key.1 gone
        exact ⟨Option.some.inj (owned.symm.trans mine), gone⟩
      · exact absurd owned lost
  held tested key down := by
    have queue : after.queue = before.queue := yields.same.2.1
    have holds : after.holds key = before.holds key := by
      rw [Turn.holds, Hardware.holds, Hardware.keysOf, yields.same.1]
      rfl
    rw [holds]
    rw [queue, yields.coming_eq] at down
    split at down
    · apply followed.held tested key
      rw [empty] at down ⊢
      exact (Bool.and_eq_true_iff.1 down).1
    · exact followed.held tested key down
  idle _ := yields.same.2.1.trans empty

omit [Transport τ] in
theorem emit (followed : before.Followed) (tidy : before.Tidy)
    (reading : before.sink.capturing = true ↔ ∃ handle : HandleId, handle ∈ before.sink.owners)
    (event : InputEvent) :
    (before.withHardware (before.collector.hardware.emit event).2).Followed := by
  let after := before.withHardware (before.collector.hardware.emit event).2
  have holds (key : Key) : after.holds key = event.move key (before.holds key) :=
    before.collector.hardware.holds_emit event key
  have queue : after.queue =
      if before.sink.capturing then before.queue ++ [event] else before.queue := by
    change (before.collector.hardware.emit event).2.captured = _
    have geared : before.collector.hardware.capturing = before.sink.capturing := tidy.geared
    rw [Hardware.emit, geared, tidy.listening, Bool.and_true]
    split
    · rfl
    · rfl
  refine ⟨followed.silent, ?_, ?_⟩
  · intro session key down
    change after.holds key = true
    change downAfter key (before.isComing session key) after.queue = true at down
    rw [holds]
    rw [queue] at down
    cases capturing : before.sink.capturing with
    | true =>
      rw [capturing, if_pos rfl, downAfter_append] at down
      exact event.move_mono (followed.held session key) down
    | false =>
      have lost : before.sink.owners[key.1]? ≠ some session := by
        intro owned
        have reads := reading.2 ⟨key.1, Table.mem_of_getElem? owned⟩
        rw [capturing] at reads
        cases reads
      rw [capturing, if_neg Bool.false_ne_true, followed.idle capturing,
        followed.silent session key lost] at down
      cases down
  · intro stopped
    have idle : before.sink.capturing = false := stopped
    change after.queue = []
    rw [queue, if_neg (Bool.eq_false_iff.1 idle)]
    exact followed.idle idle

omit [Transport τ] in
/-- An event leaves the queue. -/
theorem routes (followed : before.Followed) {event : InputEvent} {rest : List InputEvent}
    (waits : before.queue = event :: rest)
    (routes : Routes event
      (before.withHardware { before.collector.hardware with captured := rest }) after) :
    after.Followed := by
  have queue : after.queue = rest := by
    rw [Turn.queue, routes.collector_eq]
    rfl
  have holds (key : Key) : after.holds key = before.holds key := by
    rw [Turn.holds, routes.collector_eq]
    rfl
  have coming (session : SessionId) (key : Key) : after.isComing session key =
      if before.sink.owners[event.handle]? = some session then
        event.move key (before.isComing session key)
      else before.isComing session key :=
    routes.coming_eq session key
  have lost (session : SessionId) (key : Key)
      (unowned : before.sink.owners[key.1]? ≠ some session) :
      after.isComing session key = false := by
    rw [coming]
    split
    · next owned =>
      rw [event.move_of_other fun same => unowned (same ▸ owned)]
      exact followed.silent session key unowned
    · exact followed.silent session key unowned
  refine ⟨?_, ?_, ?_⟩
  · intro session key unowned
    rw [routes.owners_eq] at unowned
    exact lost session key unowned
  · intro session key down
    have before_held := followed.held session key
    rw [waits] at before_held
    rw [holds]
    apply before_held
    change downAfter key (event.move key (before.isComing session key)) rest = true
    rw [queue] at down
    by_cases here : event.handle = key.1
    · by_cases owned : before.sink.owners[key.1]? = some session
      · rw [coming, if_pos (here ▸ owned)] at down
        exact down
      · rw [lost session key owned] at down
        exact downAfter_mono (fun never => absurd never Bool.false_ne_true) rest down
    · rw [event.move_of_other here]
      rw [coming, event.move_of_other here, ite_self] at down
      exact down
  · intro stopped
    rw [routes.capturing_eq] at stopped
    have empty := followed.idle stopped
    rw [waits] at empty
    cases empty

end Followed

/-! ## Motions -/

theorem calm_perform (turn : Turn (Recorded τ) (Metered Hardware)) {motion : Motion}
    (keeps : motion.takesBack = false) :
    Calm turn (turn.perform motion) ∨ (∃ event, motion = .emit event) ∨ motion = .deliver := by
  cases motion with
  | opened session peer =>
    exact Or.inl (turn.calm_of_books rfl rfl (fun _ _ => id) ⟨rfl, rfl, rfl⟩ id id)
  | message session message => exact Or.inl (turn.calm_handle session keeps)
  | emit event => exact Or.inr (Or.inl ⟨event, rfl⟩)
  | deliver => exact Or.inr (Or.inr rfl)
  | flush => exact Or.inl turn.calm_flush
  | jam => exact Or.inl (turn.calm_of_books rfl rfl (fun _ _ => id) ⟨rfl, rfl, rfl⟩ id id)
  | listen => exact Or.inl (turn.calm_of_books rfl rfl (fun _ _ => id) ⟨rfl, rfl, rfl⟩ id id)

theorem yields_perform (turn : Turn (Recorded τ) (Metered Hardware)) (books : Books turn.sink)
    {motion : Motion} (takes : motion.takesBack = true) :
    ∃ session released, Yields session released turn (turn.perform motion) := by
  cases motion with
  | message session message => exact ⟨session, turn.yields_handle books session takes⟩
  | opened _ _ | emit _ | deliver | flush | jam | listen => cases takes

theorem Tidy.emit (tidy : turn.Tidy) (event : InputEvent) :
    (turn.perform (.emit event)).Tidy := by
  have frame : (turn.collector.hardware.emit event).2.capturing =
        turn.collector.hardware.capturing ∧
      (turn.collector.hardware.emit event).2.listening = turn.collector.hardware.listening := by
    unfold Hardware.emit
    dsimp only
    split
    · exact ⟨rfl, rfl⟩
    · exact ⟨rfl, rfl⟩
  exact ⟨tidy.owned, frame.1.trans tidy.geared, frame.2.trans tidy.listening⟩

theorem Tidy.deliver (tidy : turn.Tidy) (books : Books turn.sink) : turn.deliver.Tidy := by
  unfold Turn.deliver
  split
  · exact tidy
  · next event rest waits =>
    let taken := turn.withHardware { turn.collector.hardware with captured := rest }
    have routes := taken.routes_captured books event
    refine ⟨?_, ?_, ?_⟩
    · intro session waiting listed
      rw [routes.owners_eq]
      cases routes.aside_owned session waiting listed with
      | inl earlier => exact tidy.owned session waiting earlier
      | inr owned => exact owned
    · rw [Geared, routes.collector_eq, routes.capturing_eq]
      exact tidy.geared
    · rw [routes.collector_eq]
      exact tidy.listening

theorem Followed.deliver (followed : turn.Followed) (books : Books turn.sink) :
    turn.deliver.Followed := by
  unfold Turn.deliver
  split
  · exact followed
  · next event rest waits =>
    let taken := turn.withHardware { turn.collector.hardware with captured := rest }
    exact followed.routes waits (taken.routes_captured books event)

end Turn

namespace Bench

variable {τ : Type} [Transport τ] {device : DeviceId} {allowList : AllowList} {batchMax : Nat}
  {bench : Bench τ}

theorem Reached.tidy (reached : bench.Reached device allowList batchMax) : bench.turn.Tidy := by
  induction reached with
  | start line devices =>
    refine ⟨?_, rfl, rfl⟩
    intro session event listed
    rw [Sink.aside, Sink.start, Std.ExtTreeMap.getElem?_empty] at listed
    cases listed
  | elsewhere line _ inductionHypothesis =>
    exact ⟨inductionHypothesis.owned, inductionHypothesis.geared, inductionHypothesis.listening⟩
  | @perform bench motion reached possible inductionHypothesis =>
    have books := reached.sink.ownership.books
    cases takes : motion.takesBack with
    | true =>
      obtain ⟨session, released, yields⟩ := bench.turn.yields_perform books takes
      exact inductionHypothesis.yields yields
    | false =>
      obtain calm | ⟨event, rfl⟩ | rfl := bench.turn.calm_perform takes
      · exact inductionHypothesis.calm calm
      · exact inductionHypothesis.emit event
      · exact inductionHypothesis.deliver books

theorem Reached.followed (reached : bench.Reached device allowList batchMax)
    (prompt : bench.prompt = true) : bench.turn.Followed := by
  induction reached with
  | start line devices =>
    have nothing (session : SessionId) (key : Key) :
        Turn.isComing
          { sink := Sink.start device allowList batchMax
            line := { line : Recorded τ }
            collector := { hardware := Hardware.ofDevices devices : Metered Hardware } }
          session key = false := by
      rw [Turn.isComing, Turn.outlook, Sink.aside, Sink.start, Std.ExtTreeMap.getElem?_empty]
      rfl
    refine ⟨fun session key _ => nothing session key, ?_, fun _ => rfl⟩
    intro session key down
    rw [nothing] at down
    cases down
  | elsewhere line _ inductionHypothesis =>
    have followed := inductionHypothesis prompt
    exact ⟨followed.silent, followed.held, followed.idle⟩
  | @perform bench motion reached possible inductionHypothesis =>
    obtain ⟨earlier, inTime⟩ := Bool.and_eq_true_iff.1 prompt
    have followed := inductionHypothesis earlier
    have ownership := reached.sink.ownership
    cases takes : motion.takesBack with
    | true =>
      rw [takes, Bool.not_true, Bool.false_or] at inTime
      obtain ⟨session, released, yields⟩ := bench.turn.yields_perform ownership.books takes
      exact followed.yields (List.isEmpty_iff.1 inTime) yields
    | false =>
      obtain calm | ⟨event, rfl⟩ | rfl := bench.turn.calm_perform takes
      · exact followed.calm calm
      · exact followed.emit reached.tidy ownership.reading.capturing_iff event
      · exact followed.deliver ownership.books

end Bench

/-! ## Keys that stay down -/

namespace Turn

variable {τ : Type}

/-- The receiver of a session has a key down on a device that the session does not
own. -/
def Stuck (turn : Turn (Recorded τ) (Metered Hardware)) (session : SessionId) (key : Key) :
    Prop :=
  downAfter key false (turn.played session) = true ∧ turn.sink.owners[key.1]? ≠ some session

instance (turn : Turn (Recorded τ) (Metered Hardware)) (session : SessionId) (key : Key) :
    Decidable (turn.Stuck session key) :=
  inferInstanceAs (Decidable (_ ∧ _))

/-- The transport has refused no frame. -/
def AllPassed (turn : Turn (Recorded τ) (Metered Hardware)) : Prop :=
  ∀ deed ∈ turn.line.deeds, deed.passed = true

instance (turn : Turn (Recorded τ) (Metered Hardware)) : Decidable turn.AllPassed :=
  inferInstanceAs (Decidable (∀ deed ∈ _, _))

variable {turn : Turn (Recorded τ) (Metered Hardware)}

theorem Tidy.stuck_iff (tidy : turn.Tidy) (passed : turn.AllPassed) {session : SessionId}
    {key : Key} :
    turn.Stuck session key ↔
      turn.isComing session key = true ∧ turn.sink.owners[key.1]? ≠ some session := by
  constructor
  · rintro ⟨down, lost⟩
    rw [tidy.coming_eq lost, told_eq_played passed]
    exact ⟨down, lost⟩
  · rintro ⟨down, lost⟩
    rw [tidy.coming_eq lost, told_eq_played passed] at down
    exact ⟨down, lost⟩

/-- A session that loses handles has no key stuck exactly if it had none before and
the keys of these handles that are down are held. -/
theorem Yields.stuck_iff {after : Turn (Recorded τ) (Metered Hardware)} {session : SessionId}
    {released : HandleSet} (yields : Yields session released turn after) (tidy : turn.Tidy)
    (passed : after.AllPassed) :
    (∀ key, ¬after.Stuck session key) ↔
      (∀ key, ¬turn.Stuck session key) ∧
        ∀ key : Key, turn.sink.owners[key.1]? = some session →
          after.sink.owners[key.1]? ≠ some session →
            turn.isComing session key = true → turn.holds key = true := by
  have earlier : turn.AllPassed := fun deed listed => passed deed (yields.grows.subset listed)
  simp only [tidy.stuck_iff earlier, (tidy.yields yields).stuck_iff passed, not_and, ne_eq,
    Decidable.not_not]
  constructor
  · intro none
    refine ⟨?_, ?_⟩
    · intro key down
      apply Decidable.byContradiction
      intro lost
      have kept : key.1 ∉ released := fun gone => lost (yields.lent key.1 gone)
      have still := none key
      rw [yields.coming_eq, if_neg fun both => kept both.2, yields.owners_eq, if_neg kept] at still
      exact lost (still down)
    · intro key owned lost down
      have gone : key.1 ∈ released := by
        apply Decidable.byContradiction
        intro kept
        rw [yields.owners_eq, if_neg kept] at lost
        exact lost owned
      cases held : turn.holds key with
      | true => rfl
      | false =>
        have still := none key
        rw [yields.coming_eq, if_pos ⟨rfl, gone⟩, down,
          show turn.collector.hardware.holds key = false from held] at still
        exact absurd (still rfl) lost
  · rintro ⟨before, held⟩ key down
    apply Decidable.byContradiction
    intro lost
    by_cases gone : key.1 ∈ released
    · rw [yields.coming_eq, if_pos ⟨rfl, gone⟩, Bool.and_eq_true_iff] at down
      have holds := held key (yields.lent key.1 gone) lost down.1
      rw [show turn.collector.hardware.holds key = true from holds] at down
      cases down.2
    · rw [yields.coming_eq, if_neg fun both => gone both.2] at down
      rw [yields.owners_eq, if_neg gone] at lost
      exact lost (before key down)

end Turn

section Benches

variable {τ : Type} [Transport τ] {device : DeviceId} {allowList : AllowList} {batchMax : Nat}
  {bench : Bench τ}

/-- As long as the transport refuses no frame: when a request to end sharing has been
handled, no key is stuck for its session exactly if none was before and every key
that is down on a handle that was taken back is still held by the hardware.  And as
long as nothing was in the queue whenever such a request came, no key is ever stuck
for any session. -/
theorem stop_frees_keys_iff (reached : bench.Reached device allowList batchMax) :
    (∀ (session : SessionId) (message : Message), message.takesBack = true →
      (bench.turn.handle session message).AllPassed →
        ((∀ key, ¬(bench.turn.handle session message).Stuck session key) ↔
          (∀ key, ¬bench.turn.Stuck session key) ∧
            ∀ key : Key, bench.turn.sink.owners[key.1]? = some session →
              (bench.turn.handle session message).sink.owners[key.1]? ≠ some session →
                bench.turn.isComing session key = true → bench.turn.holds key = true)) ∧
    (bench.prompt = true → bench.turn.AllPassed →
      ∀ (session : SessionId) (key : Key), ¬bench.turn.Stuck session key) := by
  refine ⟨?_, ?_⟩
  · intro session message takes passed
    obtain ⟨released, yields⟩ :=
      bench.turn.yields_handle reached.sink.ownership.books session takes
    exact yields.stuck_iff reached.tidy passed
  · intro prompt passed session key stuck
    obtain ⟨down, lost⟩ := (reached.tidy.stuck_iff passed).1 stuck
    rw [(reached.followed prompt).silent session key lost] at down
    cases down

end Benches

/-- The event of a key of the keyboard. -/
def stroke (value : Int32) : InputEvent :=
  { handle := ⟨"keyboard"⟩, eventClass := EventClass.key, code := 30, value, whenUs := 0 }

/-- The desk has borrowed the keyboard of the tablet and has been sent the press of a
key. -/
def typing : Bench Scripted :=
  let start : Bench Scripted :=
    { turn :=
        { sink := Sink.start ⟨"tablet"⟩ [] 1
          line := { line := Scripted.enable {} ⟨1⟩ }
          collector :=
            { hardware :=
                Hardware.ofDevices [⟨⟨"keyboard"⟩, "Keyboard", TypeMask.keyboard⟩] } } }
  let opened := start.perform (.opened ⟨1⟩ ⟨"desk"⟩)
  let prepared := opened.perform (.message ⟨1⟩ (.request ⟨"desk"⟩ .prepare))
  let started :=
    prepared.perform (.message ⟨1⟩ (.request ⟨"desk"⟩ (.startByType TypeMask.keyboard)))
  (started.perform (.emit (stroke KeyValue.pressed))).perform .deliver

/-- The request of the desk to have no keyboard any more. -/
def stopTyping : Message := .request ⟨"desk"⟩ (.stopByType TypeMask.keyboard)

theorem reached_typing : typing.Reached ⟨"tablet"⟩ [] 1 := by
  have fresh : (Motion.opened ⟨1⟩ ⟨"desk"⟩).Possible (Sink.start ⟨"tablet"⟩ [] 1) :=
    Std.ExtTreeMap.not_mem_empty
  exact .perform _ (.perform _ (.perform _ (.perform _ (.perform _ (.start _ _) fresh) trivial)
    trivial) trivial) trivial

/-- The key is still held when sharing ends, and the desk is told so. -/
theorem stop_frees_keys_typing :
    let stopped := typing.perform (.message ⟨1⟩ stopTyping)
    stopped.Reached ⟨"tablet"⟩ [] 1 ∧ stopped.prompt = true ∧ stopped.turn.AllPassed ∧
      downAfter (⟨"keyboard"⟩, 30) false (typing.turn.played ⟨1⟩) = true ∧
      (∀ (session : SessionId) (key : Key), ¬stopped.turn.Stuck session key) ∧
      ∀ key : Key, typing.turn.sink.owners[key.1]? = some ⟨1⟩ →
        stopped.turn.sink.owners[key.1]? ≠ some ⟨1⟩ →
          typing.turn.isComing ⟨1⟩ key = true → typing.turn.holds key = true := by
  intro stopped
  have reached : stopped.Reached ⟨"tablet"⟩ [] 1 := .perform _ reached_typing trivial
  have prompt : stopped.prompt = true := by decide +kernel
  have passed : stopped.turn.AllPassed := by decide +kernel
  have free := (stop_frees_keys_iff reached).2 prompt passed
  have exact := (stop_frees_keys_iff reached_typing).1 ⟨1⟩ stopTyping rfl passed
  exact ⟨reached, prompt, passed, by decide +kernel, free, (exact.1 fun key => free ⟨1⟩ key).2⟩

/-- The tablet has told the desk that it has no keyboard any more. -/
def saidStopped : Deed → Bool
  | .transmitted session (.composed _ (.reply _ reply)) (.ok ()) =>
      session = ⟨1⟩ ∧ reply = .stoppedByType Status.ok TypeMask.keyboard TypeMask.keyboard
  | _ => false

/-- The key has gone up, but its release is still in the queue when sharing ends. -/
theorem stop_keeps_key_down :
    let released := typing.perform (.emit (stroke KeyValue.released))
    let stopped := released.perform (.message ⟨1⟩ stopTyping)
    stopped.Reached ⟨"tablet"⟩ [] 1 ∧ (stopped.perform .deliver).turn.AllPassed ∧
      released.turn.queue = [stroke KeyValue.released] ∧
      stopped.turn.line.deeds.getLast?.any saidStopped = true ∧
      stopped.turn.Stuck ⟨1⟩ (⟨"keyboard"⟩, 30) ∧
      (stopped.perform .deliver).turn.Stuck ⟨1⟩ (⟨"keyboard"⟩, 30) :=
  ⟨.perform _ (.perform _ reached_typing trivial) trivial, by decide +kernel, by decide +kernel,
    by decide +kernel, by decide +kernel, by decide +kernel⟩

end InputSharing.Sink
