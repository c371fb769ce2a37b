import InputSharing.Hardware.Lax
import InputSharing.Proofs.Sink.Frames
import InputSharing.Proofs.Sink.Ownership
import InputSharing.Proofs.Sink.Settling

/-!
# What a request to start grants

A request to start asks for classes of devices, or for handles with all their classes.
The hardware lists devices, but what it lists does not count unless it is asked for, nor
does a handle that belongs to another session.  What is left is granted as a whole.

Nothing is granted to a session that is not prepared, and nothing while the devices
should be read and cannot.  Such a request leaves nothing behind but its answer.
-/

namespace InputSharing

namespace Shares

/-- What is granted is added to what is shared, handle by handle. -/
theorem getElem?_join_eq_merge (shares granted : Shares) (handle : HandleId) :
    (shares.join granted)[handle]? =
      Option.merge (fun old new => old ∪ new) shares[handle]? granted[handle]? := by
  have only (types : TypeMask) : ∅ ∪ types = types := by
    apply TypeMask.ext
    simp [TypeMask.mem_union, TypeMask.not_mem_empty]
  rw [getElem?_join]
  cases granted[handle]? with
  | none => cases shares[handle]? <;> rfl
  | some types =>
      cases shares[handle]? with
      | none => exact congrArg some (only types)
      | some owned => rfl

end Shares

namespace Sink

/-! ## Requests to start -/

/-- What a request to start asks for. -/
inductive Start where
  | byType (types : TypeMask)
  | byHandles (handles : HandleSet)

namespace Start

def request : Start → Request
  | byType types => .startByType types
  | byHandles handles => .startByHandles handles

/-- The answer repeats what was asked for and tells the classes or the handles that are
granted. -/
def reply (status : Int32) (granted : Shares) : Start → Reply
  | byType types => .startedByType status types (TypeMask.unionOf granted)
  | byHandles handles => .startedByHandles status handles (HandleSet.ofKeys granted)

variable {κ : Type} [Collector κ]

/-- A listed device is asked for, to be shared for some classes. -/
def Asks (hardware : κ) (start : Start) (handle : HandleId) (classes : TypeMask) : Prop :=
  match start with
  | byType types =>
      ∃ device, (Collector.ofTypes hardware types)[handle]? = some device ∧
        (∃ place, place ∈ device.types ∧ place ∈ types) ∧ classes = device.types ∩ types
  | byHandles handles =>
      ∃ device, (Collector.ofHandles hardware handles)[handle]? = some device ∧
        handle ∈ handles ∧ classes = device.types

/-- The listed devices that are asked for. -/
def candidates (hardware : κ) : Start → Shares
  | byType types =>
      ((Collector.ofTypes hardware types).filter fun _ device =>
        device.types.intersects types).map fun _ device => device.types ∩ types
  | byHandles handles =>
      ((Collector.ofHandles hardware handles).filter fun handle _ =>
        handle ∈ handles).map fun _ device => device.types

theorem getElem?_candidates (hardware : κ) (start : Start) (handle : HandleId)
    (classes : TypeMask) :
    (start.candidates hardware)[handle]? = some classes ↔ start.Asks hardware handle classes := by
  cases start with
  | byType types =>
      simp only [candidates, Asks, Std.ExtTreeMap.getElem?_map, Std.ExtTreeMap.getElem?_filter',
        Option.map_eq_some_iff, Option.filter_eq_some_iff, TypeMask.intersects_iff, and_assoc,
        eq_comm (a := classes)]
  | byHandles handles =>
      simp only [candidates, Asks, Std.ExtTreeMap.getElem?_map, Std.ExtTreeMap.getElem?_filter',
        Option.map_eq_some_iff, Option.filter_eq_some_iff, decide_eq_true_eq, and_assoc,
        eq_comm (a := classes)]

end Start

/-! ## Outcomes -/

section Outcomes

variable {τ κ : Type} [Collector κ] (session : SessionId) (answer : Message)
  (before after : Turn (Recorded τ) (Metered κ))

/-- The answer is all that is left of a request.  Only the hardware may have changed. -/
structure Refuses (hardware : κ) : Prop where
  sends : Sends session [answer] before.line after.line
  sink : ∃ counter,
    after.sink = { before.sink with registry := { before.sink.registry with counter } }
  notices : after.notices = before.notices
  collector : after.collector = { before.collector with hardware }

/-- A session is granted handles, and nothing else happens but what this takes: the
listeners hear of the handles that it did not own before, and if nothing was owned at all
then the devices are read from now on. -/
structure Lends (switch : Switch) (granted : Shares) : Prop where
  sends : Sends session [answer] before.line after.line
  owned : ∃ handles, after.sink.switches[session]? = some { switch with handles } ∧
    ∀ handle : HandleId, handles[handle]? =
      Option.merge (fun old new => old ∪ new) switch.handles[handle]? granted[handle]?
  others : ∀ tested, session ≠ tested →
    after.sink.switches[tested]? = before.sink.switches[tested]?
  owners : ∀ handle : HandleId, after.sink.owners[handle]? =
    if handle ∈ granted then some session else before.sink.owners[handle]?
  states : ∀ handle, after.sink.tracker.stateOf handle =
    if handle ∈ granted then .throughOut else before.sink.tracker.stateOf handle
  told : ∃ gained : List HandleId, gained.Nodup ∧
    (∀ handle, handle ∈ gained ↔ handle ∈ granted ∧ handle ∉ switch.handles) ∧
    after.notices = before.notices ++ before.sink.announced .throughOut gained
  capturing : after.sink.capturing = (before.sink.capturing || !granted.isEmpty)
  collector : after.collector =
    if before.sink.capturing || granted.isEmpty then before.collector
    else
      { before.collector with
        hardware := (Collector.startCapture before.collector.hardware).2
        starts := before.collector.starts + 1 }
  rest : ∃ counter tracker switches owners capturing,
    after.sink =
      { before.sink with
        registry := { before.sink.registry with counter }
        tracker, switches, owners, capturing }

end Outcomes

/-- Something should be granted while nothing is owned, and the hardware refuses to be
read. -/
def Hindered {τ κ : Type} [Collector κ] (turn : Turn τ (Metered κ)) (granted : Shares) : Prop :=
  (∃ handle, handle ∈ granted) ∧ (∀ handle, handle ∉ turn.sink.owners) ∧
    ∃ error, (Collector.startCapture turn.collector.hardware).1 = .error error

namespace Turn

variable {τ κ : Type}

section Granting

variable {turn : Turn (Recorded τ) (Metered κ)} {session : SessionId} {switch : Switch}
  {granted : Shares}

/-- What is marked are the handles that are new to the session. -/
theorem notices_own (books : Books turn.sink)
    (free : ∀ handle ∈ granted, ∀ owner,
      turn.sink.owners[handle]? = some owner → owner = session)
    (prepared : turn.sink.switches[session]? = some switch) :
    ∃ gained : List HandleId, gained.Nodup ∧
      (∀ handle, handle ∈ gained ↔ handle ∈ granted ∧ handle ∉ switch.handles) ∧
      (turn.own session switch granted).notices =
        turn.notices ++ turn.sink.announced .throughOut gained := by
  let added := granted.filter fun handle _ => handle ∉ switch.handles
  have mem_added (handle : HandleId) :
      handle ∈ added.keys ↔ handle ∈ granted ∧ handle ∉ switch.handles := by
    rw [Std.ExtTreeMap.mem_keys,
      Table.mem_filter_key granted fun handle => decide (handle ∉ switch.handles),
      decide_eq_true_iff]
  refine ⟨added.keys, Table.nodup_keys added, mem_added, ?_⟩
  refine notices_mark (Table.nodup_keys added) ?_
  intro handle listed out
  obtain ⟨member, new⟩ := (mem_added handle).1 listed
  obtain ⟨owner, owned⟩ :=
    (Table.mem_iff_exists _ _).1 ((books.throughOut_iff handle).1 out)
  obtain rfl := free handle member owner owned
  exact new ((books.owned_iff prepared handle).1 owned)

/-- What a session owns already is entered under it. -/
theorem owners_own_of_books (books : Books turn.sink)
    (prepared : turn.sink.switches[session]? = some switch) (handle : HandleId) :
    (turn.own session switch granted).sink.owners[handle]? =
      if handle ∈ granted then some session else turn.sink.owners[handle]? := by
  rw [owners_own]
  by_cases given : handle ∈ granted
  · by_cases had : handle ∈ switch.handles
    · have mine := (books.owned_iff prepared handle).2 had
      simp [given, had, mine]
    · simp [given, had]
  · simp [given]

theorem stateOf_own_of_books (books : Books turn.sink)
    (prepared : turn.sink.switches[session]? = some switch) (handle : HandleId) :
    (turn.own session switch granted).sink.tracker.stateOf handle =
      if handle ∈ granted then .throughOut else turn.sink.tracker.stateOf handle := by
  rw [stateOf_own]
  by_cases given : handle ∈ granted
  · by_cases had : handle ∈ switch.handles
    · have mine := (books.owned_iff prepared handle).2 had
      have out := (books.throughOut_iff handle).2 (Table.mem_of_getElem? mine)
      simp [given, had, out]
    · simp [given, had]
  · simp [given]

variable [Transport τ]

/-- Nothing happens but that the answer is sent. -/
theorem refuses_post (turn : Turn (Recorded τ) (Metered κ)) (session : SessionId)
    (answer : Message) (hardware : κ) :
    Refuses session answer turn
      (({ turn with collector := { turn.collector with hardware } } :
        Turn (Recorded τ) (Metered κ)).post session answer) hardware := by
  let refused : Turn (Recorded τ) (Metered κ) :=
    { turn with collector := { turn.collector with hardware } }
  have sends := refused.sends_post session answer
  obtain ⟨counter, line, sent⟩ := refused.sent_post session answer
  rw [sent] at sends
  change Refuses session answer turn (refused.post session answer) hardware
  rw [sent]
  exact ⟨sends, ⟨counter, rfl⟩, rfl, rfl⟩

variable [Collector κ]

/-- The devices are read when something has been granted. -/
def begun (turn : Turn (Recorded τ) (Metered κ)) (granted : Shares) :
    Turn (Recorded τ) (Metered κ) :=
  { turn with
    sink := { turn.sink with capturing := turn.sink.capturing || !granted.isEmpty }
    collector :=
      if turn.sink.capturing || granted.isEmpty then turn.collector
      else
        { turn.collector with
          hardware := (Collector.startCapture turn.collector.hardware).2
          starts := turn.collector.starts + 1 } }

omit [Transport τ] in
theorem begun_of_unneeded (unneeded : turn.sink.capturing = true ∨ granted.isEmpty = true) :
    turn.begun granted = turn := by
  rcases unneeded with capturing | nothing
  · simp only [begun, capturing, Bool.true_or, if_true]
    rw [← capturing]
  · simp [begun, nothing]

/-- Handles are entered for a session, and the answer is sent. -/
theorem lends_own (books : Books turn.sink)
    (free : ∀ handle ∈ granted, ∀ owner,
      turn.sink.owners[handle]? = some owner → owner = session)
    (prepared : turn.sink.switches[session]? = some switch) (answer : Message) :
    Lends session answer turn
      (((turn.begun granted).own session switch granted).post session answer) switch granted := by
  let entered := (turn.begun granted).own session switch granted
  have sends := entered.sends_post session answer
  have switches (tested : SessionId) : entered.sink.switches[tested]? =
      if session = tested then some { switch with handles := gain switch granted }
      else turn.sink.switches[tested]? :=
    Table.getElem?_insert_eq ..
  have owners : ∀ handle : HandleId,
      (turn.own session switch granted).sink.owners[handle]? = _ :=
    owners_own_of_books books prepared
  have states : ∀ handle, (turn.own session switch granted).sink.tracker.stateOf handle = _ :=
    stateOf_own_of_books books prepared
  obtain ⟨gained, different, mem_gained, told⟩ := notices_own books free prepared
  obtain ⟨counter, line, sent⟩ := entered.sent_post session answer
  rw [sent] at sends
  change Lends session answer turn (entered.post session answer) switch granted
  rw [sent]
  exact
    { sends
      owned :=
        ⟨_, (switches session).trans (if_pos rfl),
          Shares.getElem?_join_eq_merge switch.handles granted⟩
      others := fun tested other => (switches tested).trans (if_neg other)
      owners
      states
      told := ⟨gained, different, mem_gained, told⟩
      capturing := rfl
      collector := rfl
      rest := ⟨counter, _, _, _, _, rfl⟩ }

end Granting

section Available

variable {turn : Turn τ κ} {session : SessionId} {candidates : Shares} {handle : HandleId}

theorem getElem?_available {classes : TypeMask} :
    (turn.available session candidates)[handle]? = some classes ↔
      candidates[handle]? = some classes ∧
        ∀ owner, turn.sink.owners[handle]? = some owner → owner = session := by
  rw [available, Std.ExtTreeMap.getElem?_filter', Option.filter_eq_some_iff]
  refine and_congr_right fun _ => ?_
  cases turn.sink.owners[handle]? with
  | none => simp
  | some owner => simp

end Available

variable [Collector κ]

/-- Both kinds of requests to start are dealt with alike. -/
theorem serve_start [Transport τ] (turn : Turn τ κ) (session : SessionId) (via : Via)
    (start : Start) :
    turn.serve session via start.request =
      match turn.grant session (start.candidates turn.collector) with
      | (.error error, after) => after.answer session via (start.reply error.statusCode ∅)
      | (.ok granted, after) => after.answer session via (start.reply Status.ok granted) := by
  have no_classes : TypeMask.unionOf ∅ = ∅ := by
    apply TypeMask.ext
    simp [TypeMask.mem_unionOf, TypeMask.not_mem_empty]
  have no_handles : HandleSet.ofKeys (∅ : Shares) = ∅ := by
    simp [HandleSet.ofKeys, HandleSet.ofList]
  cases start with
  | byType types =>
      change turn.onStartByType session via types = _
      simp only [Start.reply, no_classes]
      rfl
  | byHandles handles =>
      change turn.onStartByHandles session via handles = _
      simp only [Start.reply, no_handles]
      rfl

section Reading

variable {turn : Turn τ (Metered κ)} {hardware : κ}

theorem ensureCapture_of_refused {error : HardwareError} (idle : turn.sink.capturing = false)
    (refused : Collector.startCapture turn.collector.hardware = (.error error, hardware)) :
    turn.ensureCapture =
      (.error error, { turn with collector := { turn.collector with hardware } }) := by
  simp [ensureCapture, idle, Collector.startCapture, refused]

theorem ensureCapture_of_started (idle : turn.sink.capturing = false)
    (started : Collector.startCapture turn.collector.hardware = (.ok (), hardware)) :
    turn.ensureCapture =
      (.ok (),
        { turn with
          sink := { turn.sink with capturing := true }
          collector :=
            { turn.collector with hardware, starts := turn.collector.starts + 1 } }) := by
  simp [ensureCapture, idle, Collector.startCapture, started]

end Reading

end Turn

/-! ## Every request to start -/

section Starting

variable {τ κ : Type} [Transport τ] [Collector κ] {turn : Turn (Recorded τ) (Metered κ)}
  {session : SessionId} {switch : Switch} {candidates : Shares}

omit [Transport τ] in
theorem Ownership.grant_of_hindered (ownership : Ownership turn)
    (prepared : turn.sink.switches[session]? = some switch)
    (hindered : Hindered turn (turn.available session candidates)) :
    turn.grant session candidates =
      (.error .captureFailed,
        { turn with
          collector :=
            { turn.collector with
              hardware := (Collector.startCapture turn.collector.hardware).2 } }) := by
  obtain ⟨⟨handle, member⟩, nobody, error, fails⟩ := hindered
  have something : (turn.available session candidates).isEmpty ≠ true := by
    intro nothing
    rw [Std.ExtTreeMap.isEmpty_iff.1 nothing] at member
    exact Std.ExtTreeMap.not_mem_empty member
  have idle : turn.sink.capturing = false := by
    rw [Bool.eq_false_iff]
    intro capturing
    obtain ⟨handle, owned⟩ := ownership.reading.capturing_iff.1 capturing
    exact nobody handle owned
  have refused := Turn.ensureCapture_of_refused idle (Prod.ext fails rfl)
  rw [Turn.grant_of_prepared prepared, if_neg something, refused]

omit [Transport τ] in
theorem Ownership.grant_of_unhindered (ownership : Ownership turn)
    (prepared : turn.sink.switches[session]? = some switch)
    (unhindered : ¬ Hindered turn (turn.available session candidates)) :
    turn.grant session candidates =
      (.ok (turn.available session candidates),
        (turn.begun (turn.available session candidates)).own session switch
          (turn.available session candidates)) := by
  rw [Turn.grant_of_prepared prepared]
  cases nothing : (turn.available session candidates).isEmpty with
  | true => rw [if_pos rfl, Turn.begun_of_unneeded (Or.inr nothing)]
  | false =>
      rw [if_neg Bool.false_ne_true]
      cases capturing : turn.sink.capturing with
      | true =>
          have running : turn.ensureCapture = (.ok (), turn) := by
            rw [Turn.ensureCapture, if_pos capturing]
          rw [running, Turn.begun_of_unneeded (Or.inl capturing)]
      | false =>
          have nobody (handle : HandleId) : handle ∉ turn.sink.owners := by
            intro owned
            have busy := ownership.reading.capturing_iff.2 ⟨handle, owned⟩
            rw [capturing] at busy
            cases busy
          cases tried : (Collector.startCapture turn.collector.hardware).1 with
          | error error =>
              exact absurd ⟨Table.exists_mem_of_isEmpty nothing, nobody, error, tried⟩ unhindered
          | ok done =>
              rw [Turn.ensureCapture_of_started capturing (Prod.ext tried rfl)]
              simp [Turn.begun, capturing, nothing]

variable {device : DeviceId} {allowList : AllowList} {batchMax : Nat}

/-- Whatever a listing names, a session is granted those devices that it asks for and that
no other session owns, all of them, and no others.  The one answer tells what is
granted.  A request is refused if the session is not prepared, or if something should be
granted, nothing is owned yet, and the devices cannot be read; a refused request changes
nothing. -/
theorem start_grants_available (reached : Reached device allowList batchMax turn)
    (session : SessionId) (via : Via) (caller : DeviceId) (start : Start) :
    let after := turn.handle session (via.asking caller start.request)
    let hardware := turn.collector.hardware
    let answer (status : Int32) (granted : Shares) :=
      via.message turn.sink.device (start.reply status granted)
    ∃ available : Shares,
      (∀ (handle : HandleId) (classes : TypeMask), available[handle]? = some classes ↔
        start.Asks hardware handle classes ∧
          ∀ owner, turn.sink.owners[handle]? = some owner → owner = session) ∧
      (turn.sink.switches[session]? = none →
        Refuses session (answer Status.switchNotFound ∅) turn after hardware) ∧
      ∀ switch, turn.sink.switches[session]? = some switch →
        (Hindered turn available →
          Refuses session (answer Status.captureFailed ∅) turn after
            (Collector.startCapture hardware).2) ∧
        (¬ Hindered turn available →
          Lends session (answer Status.ok available) turn after switch available) := by
  dsimp only
  rw [turn.handle_asking]
  refine ⟨turn.available session (start.candidates turn.collector), ?_, ?_, ?_⟩
  · intro handle classes
    rw [Turn.getElem?_available, Start.getElem?_candidates]
    rfl
  · intro absent
    rw [Turn.serve_start, Turn.grant_of_absent absent]
    exact turn.refuses_post session _ turn.collector.hardware
  · intro switch prepared
    refine ⟨?_, ?_⟩
    · intro hindered
      rw [Turn.serve_start, reached.ownership.grant_of_hindered prepared hindered]
      exact turn.refuses_post session _ _
    · intro unhindered
      rw [Turn.serve_start, reached.ownership.grant_of_unhindered prepared unhindered]
      refine Turn.lends_own reached.ownership.books ?_ prepared _
      exact fun handle member => turn.owner_of_available session member

end Starting

/-- A sink whose listings name all its devices, before anything happens. -/
def lavish : Turn (Recorded Scripted) (Metered LaxHardware) where
  sink := Sink.start ⟨"tablet"⟩ [] 2
  line := { line := {} }
  collector :=
    { hardware :=
        { hardware :=
            Hardware.ofDevices
              [⟨⟨"mouse"⟩, "Mouse", TypeMask.mouse⟩,
                ⟨⟨"keyboard"⟩, "Keyboard", TypeMask.keyboard⟩] } }

/-- Two nodes have opened channels to the sink. -/
def visited : Turn (Recorded Scripted) (Metered LaxHardware) :=
  (lavish.undergo (.opened ⟨1⟩ ⟨"desk"⟩)).undergo (.opened ⟨2⟩ ⟨"couch"⟩)

theorem reached_visited : Reached ⟨"tablet"⟩ [] 2 visited := by
  have begun : Reached ⟨"tablet"⟩ [] 2 lavish := .start _ _
  have fresh : (Occurrence.opened ⟨1⟩ ⟨"desk"⟩).Possible lavish.sink := by
    simp [Occurrence.Possible, lavish, Sink.start]
  refine (begun.undergo _ fresh).undergo _ ?_
  simp [Occurrence.Possible, Turn.undergo, Turn.opened, Turn.withRegistry, Registry.opened,
    Registry.enter, lavish, Sink.start]

/-- Both nodes have prepared the sink, and the desk has borrowed the mouse. -/
def crowded : Turn (Recorded Scripted) (Metered LaxHardware) :=
  [(⟨1⟩, .request ⟨"desk"⟩ .prepare), (⟨2⟩, .request ⟨"couch"⟩ .prepare),
    (⟨1⟩, .request ⟨"desk"⟩ (.startByType TypeMask.mouse))].foldl
      (fun turn letter => turn.handle letter.1 letter.2) visited

theorem reached_crowded : Reached ⟨"tablet"⟩ [] 2 crowded :=
  reached_visited.handleAll _

/-- The couch asks for everything and does not get the mouse. -/
theorem start_grants_available_crowded :
    Reached ⟨"tablet"⟩ [] 2 crowded ∧ ∃ (switch : Switch) (available : Shares),
      Lends ⟨2⟩
        (.reply crowded.sink.device
          (.startedByType Status.ok (TypeMask.mouse ∪ TypeMask.keyboard)
            (TypeMask.unionOf available)))
        crowded
        (crowded.handle ⟨2⟩
          (.request ⟨"couch"⟩ (.startByType (TypeMask.mouse ∪ TypeMask.keyboard))))
        switch available ∧
      ⟨"mouse"⟩ ∉ available := by
  have prepared : (⟨2⟩ : SessionId) ∈ crowded.sink.switches := by
    rw [← Std.ExtTreeMap.contains_iff_mem]
    decide +kernel
  have owned : crowded.sink.owners[(⟨"mouse"⟩ : HandleId)]? = some ⟨1⟩ := by
    decide +kernel
  obtain ⟨switch, found⟩ := (Table.mem_iff_exists _ _).1 prepared
  obtain ⟨available, characterized, -, granted⟩ :=
    start_grants_available reached_crowded ⟨2⟩ .direct ⟨"couch"⟩
      (.byType (TypeMask.mouse ∪ TypeMask.keyboard))
  refine ⟨reached_crowded, switch, available, (granted switch found).2 ?_, ?_⟩
  · rintro ⟨-, nobody, -⟩
    exact nobody _ (Table.mem_of_getElem? owned)
  · intro member
    obtain ⟨classes, got⟩ := (Table.mem_iff_exists _ _).1 member
    have same := ((characterized _ classes).1 got).2 ⟨1⟩ owned
    exact absurd same (by decide)

end Sink

end InputSharing
