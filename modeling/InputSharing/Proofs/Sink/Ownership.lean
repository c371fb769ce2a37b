import InputSharing.Channel.Scripted
import InputSharing.Hardware.Simulated
import InputSharing.Proofs.Sink.Books
import InputSharing.Proofs.Sink.History

/-!
# Who owns a device

A sink keeps several books about its devices: the switches of its sessions, the
owners of its handles, the marks of the tracker, the events put aside for each
session, and whether the devices are being read.  Whatever happens to the sink,
these books agree.

`Books` is the agreement of what the sink itself writes down, and `Reading` ties
the ownership to the meters of the hardware.  Every part of a turn keeps both, and
so does every occurrence.
-/

namespace InputSharing.Sink

/-- The devices are being read exactly while a handle has an owner, and the
meters of the hardware say so too. -/
structure Reading {τ κ : Type} (turn : Turn τ (Metered κ)) : Prop where
  capturing_iff : turn.sink.capturing = true ↔ ∃ handle, handle ∈ turn.sink.owners
  meters :
    (turn.collector.starts : Int) - turn.collector.stops =
      if turn.sink.capturing then 1 else 0

/-! ## Reading the devices -/

section Devices

variable {τ κ : Type} {turn : Turn τ (Metered κ)}

theorem Reading.of_sent {after : Turn τ (Metered κ)} (reading : Reading turn)
    (sent : Turn.Sent turn after) : Reading after := by
  obtain ⟨counter, line, rfl⟩ := sent
  exact ⟨reading.capturing_iff, reading.meters⟩

variable [Collector κ]

/-- Reading stops when nothing is owned any more. -/
theorem Reading.stopIfIdle
    (running : (∃ handle, handle ∈ turn.sink.owners) → turn.sink.capturing = true)
    (meters :
      (turn.collector.starts : Int) - turn.collector.stops =
        if turn.sink.capturing then 1 else 0) :
    Reading turn.stopIfIdle := by
  unfold Turn.stopIfIdle
  by_cases idle : turn.sink.owners.isEmpty && turn.sink.capturing
  · rw [if_pos idle]
    obtain ⟨nobody, capturing⟩ := Bool.and_eq_true_iff.1 idle
    rw [if_pos capturing] at meters
    refine ⟨?_, ?_⟩
    · constructor
      · intro impossible
        cases impossible
      · rintro ⟨handle, owned⟩
        have empty := Std.ExtTreeMap.isEmpty_iff.1 nobody
        rw [empty] at owned
        exact absurd owned Std.ExtTreeMap.not_mem_empty
    · simp only [Collector.stopCapture, Bool.false_eq_true, if_false]
      push_cast
      omega
  · rw [if_neg idle]
    refine ⟨⟨?_, running⟩, meters⟩
    intro capturing
    have occupied : turn.sink.owners.isEmpty = false := by
      simpa [capturing] using idle
    exact Table.exists_mem_of_isEmpty occupied

/-- An attempt to read the devices fails, or is not needed, or succeeds. -/
theorem ensureCapture_cases (turn : Turn τ (Metered κ)) :
    (∃ error hardware,
        turn.sink.capturing = false ∧
          turn.ensureCapture =
            (.error error, { turn with collector := { turn.collector with hardware } })) ∨
      turn.sink.capturing = true ∧ turn.ensureCapture = (.ok (), turn) ∨
      ∃ hardware,
        turn.sink.capturing = false ∧
          turn.ensureCapture =
            (.ok (),
              { turn with
                sink := { turn.sink with capturing := true }
                collector :=
                  { turn.collector with hardware, starts := turn.collector.starts + 1 } }) := by
  unfold Turn.ensureCapture
  cases capturing : turn.sink.capturing with
  | true =>
      exact Or.inr (Or.inl ⟨rfl, rfl⟩)
  | false =>
      simp only [Bool.false_eq_true, if_false, Collector.startCapture]
      cases answer : Collector.startCapture turn.collector.hardware with
      | mk result hardware =>
          cases result with
          | error error =>
              exact Or.inl ⟨error, hardware, trivial, rfl⟩
          | ok done =>
              exact Or.inr (Or.inr ⟨hardware, trivial, rfl⟩)

end Devices

section Owning

variable {τ κ : Type} {turn : Turn τ (Metered κ)} {session : SessionId} {switch : Switch}
  {granted : Table HandleId TypeMask}

theorem Reading.own_nothing (reading : Reading turn)
    (nothing : granted.isEmpty = true) :
    Reading (turn.own session switch granted) := by
  have same (handle : HandleId) :
      handle ∈ (turn.own session switch granted).sink.owners ↔
        handle ∈ turn.sink.owners := by
    have absent : handle ∉ granted := by
      rw [Std.ExtTreeMap.isEmpty_iff.1 nothing]
      exact Std.ExtTreeMap.not_mem_empty
    rw [Table.mem_iff_exists (turn.own session switch granted).sink.owners,
      Turn.owners_own, Table.mem_iff_exists turn.sink.owners]
    simp [absent]
  refine ⟨?_, reading.meters⟩
  simp only [same]
  exact reading.capturing_iff

theorem Reading.own_something (books : Books turn.sink)
    (prepared : turn.sink.switches[session]? = some switch)
    (capturing : turn.sink.capturing = true)
    (meters : (turn.collector.starts : Int) - turn.collector.stops = 1)
    (something : granted.isEmpty = false) :
    Reading (turn.own session switch granted) := by
  obtain ⟨handle, member⟩ := Table.exists_mem_of_isEmpty something
  have owned : handle ∈ (turn.own session switch granted).sink.owners := by
    rw [Table.mem_iff_exists, Turn.owners_own]
    refine ⟨session, ?_⟩
    by_cases mine : handle ∈ switch.handles
    · rw [if_neg fun fresh => fresh.2 mine]
      exact (books.owner_iff handle session).2 ⟨switch, prepared, mine⟩
    · rw [if_pos ⟨member, mine⟩]
  refine ⟨?_, ?_⟩
  · exact iff_of_true capturing ⟨handle, owned⟩
  · have still : (turn.own session switch granted).sink.capturing = true := capturing
    rw [if_pos still]
    exact meters

end Owning

/-! ## Both together -/

/-- Everything that a sink knows about the ownership of its devices agrees. -/
structure Ownership {τ κ : Type} (turn : Turn τ (Metered κ)) : Prop where
  books : Books turn.sink
  reading : Reading turn

namespace Ownership

variable {τ κ : Type} {turn : Turn τ (Metered κ)}

theorem of_sent {after : Turn τ (Metered κ)} (ownership : Ownership turn)
    (sent : Turn.Sent turn after) : Ownership after :=
  ⟨ownership.books.of_sent sent, ownership.reading.of_sent sent⟩

/-- A session that owns nothing may be forgotten. -/
theorem forget (ownership : Ownership turn) {session : SessionId}
    (nothing : ∀ handle : HandleId, turn.sink.owners[handle]? ≠ some session) :
    Ownership (turn.vacate session) := by
  refine ⟨ownership.books.forget nothing (fun tested => Table.getElem?_erase_eq ..) rfl rfl
    (fun tested different => rfl) ?_, ?_⟩
  · intro tested member
    exact (Table.mem_erase_iff ..).1 member
  · exact ⟨ownership.reading.capturing_iff, ownership.reading.meters⟩

section Parts

variable [Transport τ]

theorem post (ownership : Ownership turn) (session : SessionId) (message : Message) :
    Ownership (turn.post session message) :=
  ownership.of_sent (Turn.sent_post turn session message)

theorem flushSession (ownership : Ownership turn) (session : SessionId) :
    Ownership (turn.flushSession session) := by
  refine ⟨ownership.books.flushSession session, ?_⟩
  obtain ⟨counter, line, equal⟩ := Turn.sent_flushSession turn session
  rw [equal]
  exact ⟨ownership.reading.capturing_iff, ownership.reading.meters⟩

variable [Collector κ]

theorem release (ownership : Ownership turn) (session : SessionId)
    (requested : HandleSet) (reportKeys : Bool) :
    Ownership (turn.release session requested reportKeys).2 := by
  refine ⟨ownership.books.release session requested reportKeys, ?_⟩
  obtain untouched | ⟨switch, prepared, something⟩ := turn.release_cases session requested
  · rw [untouched]
    exact ownership.reading
  · obtain ⟨sent, ⟨counter, line, rfl⟩, equal⟩ :=
      Turn.release_eq prepared something reportKeys
    rw [equal]
    refine Reading.stopIfIdle ?_ ownership.reading.meters
    rintro ⟨handle, owned⟩
    have before : handle ∈ turn.sink.owners := Std.ExtTreeMap.mem_of_mem_filter owned
    exact ownership.reading.capturing_iff.2 ⟨handle, before⟩

omit [Transport τ] in
/-- A session may be granted whatever no other session owns. -/
theorem grant (ownership : Ownership turn) (session : SessionId)
    (candidates : Table HandleId TypeMask) :
    Ownership (turn.grant session candidates).2 := by
  refine ⟨ownership.books.grant session candidates, ?_⟩
  obtain ⟨books, reading⟩ := ownership
  cases prepared : turn.sink.switches[session]? with
  | none =>
      rw [Turn.grant_of_absent prepared]
      exact reading
  | some switch =>
      rw [Turn.grant_of_prepared prepared]
      cases something : (turn.available session candidates).isEmpty with
      | true =>
          rw [if_pos rfl]
          exact reading.own_nothing something
      | false =>
          rw [if_neg Bool.false_ne_true]
          rcases ensureCapture_cases turn with
            ⟨error, hardware, idle, refused⟩ | ⟨capturing, running⟩ |
              ⟨hardware, idle, started⟩
          · rw [refused]
            exact ⟨reading.capturing_iff, reading.meters⟩
          · rw [running]
            have meters := reading.meters
            rw [if_pos capturing] at meters
            exact Reading.own_something books prepared capturing meters something
          · rw [started]
            have meters := reading.meters
            simp only [idle, Bool.false_eq_true, if_false] at meters
            let begun : Turn τ (Metered κ) :=
              { turn with
                sink := { turn.sink with capturing := true }
                collector :=
                  { turn.collector with hardware, starts := turn.collector.starts + 1 } }
            have same : Books begun.sink :=
              books.of_same rfl rfl rfl rfl fun session member => member
            have counted :
                (begun.collector.starts : Int) - begun.collector.stops = 1 := by
              simp only [begun]
              push_cast
              omega
            exact Reading.own_something same prepared rfl counted something

/-! ## Messages -/

omit [Collector κ] in
theorem onPrepare (ownership : Ownership turn) (session : SessionId) (via : Via) :
    Ownership (turn.onPrepare session via) := by
  unfold Turn.onPrepare
  split
  · exact ownership
  · next peer known =>
    refine post ⟨ownership.books.prepare known, ?_⟩ session _
    exact ⟨ownership.reading.capturing_iff, ownership.reading.meters⟩

theorem onUnprepare (ownership : Ownership turn) (session : SessionId) (via : Via) :
    Ownership (turn.onUnprepare session via) := by
  unfold Turn.onUnprepare
  split
  · exact ownership.post session _
  · next switch prepared =>
    have nothing :=
      Turn.owners_release_all prepared (ownership.books.owned_iff prepared) true
    have flushed :=
      (ownership.release session (HandleSet.ofKeys switch.handles) true).flushSession session
    refine (flushed.forget ?_).post session _
    rw [Turn.owners_flushSession]
    exact nothing

theorem onStartByType (ownership : Ownership turn) (session : SessionId) (via : Via)
    (types : TypeMask) :
    Ownership (turn.onStartByType session via types) := by
  obtain ⟨candidates, status, granted, starts⟩ := turn.onStartByType_eq session types
  rw [starts]
  exact (ownership.grant session candidates).post session _

theorem onStartByHandles (ownership : Ownership turn) (session : SessionId) (via : Via)
    (handles : HandleSet) :
    Ownership (turn.onStartByHandles session via handles) := by
  obtain ⟨candidates, status, granted, starts⟩ := turn.onStartByHandles_eq session handles
  rw [starts]
  exact (ownership.grant session candidates).post session _

theorem onStopByType (ownership : Ownership turn) (session : SessionId) (via : Via)
    (types : TypeMask) :
    Ownership (turn.onStopByType session via types) := by
  unfold Turn.onStopByType
  split
  · exact ownership.post session _
  · next switch prepared =>
    refine post (release ?_ session _ true) session _
    refine ⟨ownership.books.reclass prepared ?_, ?_⟩
    · intro handle
      exact Std.ExtTreeMap.mem_map
    · exact ⟨ownership.reading.capturing_iff, ownership.reading.meters⟩

theorem onStopByHandles (ownership : Ownership turn) (session : SessionId) (via : Via)
    (handles : HandleSet) :
    Ownership (turn.onStopByHandles session via handles) := by
  unfold Turn.onStopByHandles
  split
  · exact ownership.post session _
  · exact (ownership.release session handles true).post session _

theorem handle (ownership : Ownership turn) (session : SessionId) (message : Message) :
    Ownership (turn.handle session message) := by
  have serve (via : Via) (request : Request) :
      Ownership (turn.serve session via request) := by
    cases request with
    | prepare => exact ownership.onPrepare session via
    | unprepare => exact ownership.onUnprepare session via
    | startByType types => exact ownership.onStartByType session via types
    | stopByType types => exact ownership.onStopByType session via types
    | startByHandles handles => exact ownership.onStartByHandles session via handles
    | stopByHandles handles => exact ownership.onStopByHandles session via handles
  cases message with
  | request device request => exact serve .direct request
  | relayed token device request => exact serve (.relayed token) request
  | latencyProbe device sentAtUs => exact ownership.post session _
  | _ => exact ownership

/-! ## Channels and events -/

omit [Transport τ] [Collector κ] in
/-- A new channel meets no switch. -/
theorem opened (ownership : Ownership turn) {session : SessionId} (peer : DeviceId)
    (fresh : session ∉ turn.sink.registry.bySession) :
    Ownership (turn.opened session peer) := by
  refine ⟨ownership.books.opened ?_, ?_⟩
  · intro known entered
    rw [Registry.peer?, Std.ExtTreeMap.getElem?_eq_none fresh] at entered
    cases entered
  · exact ⟨ownership.reading.capturing_iff, ownership.reading.meters⟩

omit [Transport τ] [Collector κ] in
theorem quiet (ownership : Ownership turn) (session : SessionId) :
    Ownership (turn.quiet session) := by
  refine ⟨ownership.books.of_same rfl rfl rfl rfl ?_, ?_⟩
  · intro tested member
    exact ((Table.mem_erase_iff ..).1 member).2
  · exact ⟨ownership.reading.capturing_iff, ownership.reading.meters⟩

theorem closed (ownership : Ownership turn) (session : SessionId) :
    Ownership (turn.closed session) := by
  have calm := ownership.quiet session
  refine ⟨ownership.books.closed session, ?_⟩
  cases prepared : turn.sink.switches[session]? with
  | none =>
      rw [Turn.closed_of_unprepared prepared]
      exact ⟨calm.reading.capturing_iff, calm.reading.meters⟩
  | some switch =>
      rw [Turn.closed_of_prepared prepared]
      have kept := calm.release session (HandleSet.ofKeys switch.handles) false
      exact ⟨kept.reading.capturing_iff, kept.reading.meters⟩

omit [Collector κ] in
theorem captured (ownership : Ownership turn) (event : InputEvent) :
    Ownership (turn.captured event).2 := by
  rcases turn.captured_cases event with stays | ⟨session, owned, goes⟩
  · rw [stays]
    exact ownership
  · have collected : Ownership (turn.collect session event) :=
      ⟨ownership.books.enqueue owned _, ownership.reading.capturing_iff,
        ownership.reading.meters⟩
    rw [goes]
    dsimp only
    split
    · exact collected.flushSession session
    · exact collected

omit [Collector κ] in
theorem flush (ownership : Ownership turn) : Ownership turn.flush := by
  unfold Turn.flush
  induction turn.sink.outbox.keys generalizing turn with
  | nil => exact ownership
  | cons session rest inductionHypothesis =>
      exact inductionHypothesis (ownership.flushSession session)

theorem undergo (ownership : Ownership turn) {occurrence : Occurrence}
    (possible : occurrence.Possible turn.sink) :
    Ownership (turn.undergo occurrence) := by
  cases occurrence with
  | opened session peer => exact ownership.opened peer possible
  | message session message => exact ownership.handle session message
  | closed session => exact ownership.closed session
  | captured event => exact ownership.captured event
  | flush => exact ownership.flush
  | listen =>
      obtain ⟨books, reading⟩ := ownership
      exact ⟨books.of_same rfl rfl rfl rfl fun session member => member,
        reading.capturing_iff, reading.meters⟩

end Parts

end Ownership

/-! ## Every history -/

section Histories

variable {τ κ : Type} [Transport τ] [Collector κ]
  {device : DeviceId} {allowList : AllowList} {batchMax : Nat}
  {turn : Turn (Recorded τ) (Metered κ)}

theorem Reached.ownership (reached : Reached device allowList batchMax turn) :
    Ownership turn := by
  induction reached with
  | start line hardware =>
      refine ⟨Books.start device allowList batchMax, ?_, ?_⟩
      · simp [Sink.start]
      · simp [Sink.start]
  | undergo occurrence before possible ownership =>
      exact ownership.undergo possible
  | elsewhere line hardware before ownership =>
      exact ⟨ownership.books, ownership.reading.capturing_iff, ownership.reading.meters⟩

/-- In every turn that a sink can reach, whatever its transport and its hardware
do: sessions own exactly the handles of their switches, and no handle lies in
two switches; exactly the owned handles go out; the devices are being read
exactly while a handle is owned, and reading was then started once more often
than stopped, and otherwise equally often; the registry knows every session with
a switch or with events put aside, under the peer of its switch. -/
theorem ownership_agrees (reached : Reached device allowList batchMax turn) :
    (∀ (handle : HandleId) (session : SessionId),
      turn.sink.owners[handle]? = some session ↔
        ∃ switch : Switch, turn.sink.switches[session]? = some switch ∧ handle ∈ switch.handles) ∧
    (∀ (handle : HandleId) (first second : SessionId) (firstSwitch secondSwitch : Switch),
      turn.sink.switches[first]? = some firstSwitch →
      turn.sink.switches[second]? = some secondSwitch →
      handle ∈ firstSwitch.handles → handle ∈ secondSwitch.handles → first = second) ∧
    (∀ handle : HandleId, turn.sink.tracker.stateOf handle = .throughOut ↔
      handle ∈ turn.sink.owners) ∧
    (turn.sink.capturing = true ↔ ∃ handle : HandleId, handle ∈ turn.sink.owners) ∧
    (turn.collector.starts : Int) - turn.collector.stops =
      (if turn.sink.capturing then 1 else 0) ∧
    (∀ (session : SessionId) (switch : Switch), turn.sink.switches[session]? = some switch →
      turn.sink.registry.peer? session = some switch.peer) ∧
    ∀ session ∈ turn.sink.outbox, ∃ switch : Switch,
      turn.sink.switches[session]? = some switch ∧
        turn.sink.registry.peer? session = some switch.peer := by
  obtain ⟨books, reading⟩ := reached.ownership
  refine ⟨books.owner_iff, ?_, books.throughOut_iff, reading.capturing_iff, reading.meters,
    books.peer_of_switch, ?_⟩
  · intro handle first second firstSwitch secondSwitch foundFirst foundSecond inFirst inSecond
    exact books.session_unique foundFirst foundSecond inFirst inSecond
  · intro session waiting
    have member := books.switch_of_outbox session waiting
    obtain ⟨switch, prepared⟩ := (Table.mem_iff_exists turn.sink.switches session).1 member
    exact ⟨switch, prepared, books.peer_of_switch session switch prepared⟩

end Histories

/-- A sink with one mouse, before anything happens. -/
def idle : Turn (Recorded Scripted) (Metered Hardware) where
  sink := Sink.start ⟨"tablet"⟩ [] 2
  line := { line := {} }
  collector := { hardware := Hardware.ofDevices [⟨⟨"mouse"⟩, "Mouse", TypeMask.mouse⟩] }

/-- The desk has prepared the sink and borrowed its mouse. -/
def lending : Turn (Recorded Scripted) (Metered Hardware) :=
  ((idle.undergo (.opened ⟨1⟩ ⟨"desk"⟩)).undergo
    (.message ⟨1⟩ (.request ⟨"desk"⟩ .prepare))).undergo
      (.message ⟨1⟩ (.request ⟨"desk"⟩ (.startByType TypeMask.mouse)))

theorem reached_lending : Reached ⟨"tablet"⟩ [] 2 lending := by
  have begun : Reached ⟨"tablet"⟩ [] 2 idle := .start _ _
  have fresh : (Occurrence.opened ⟨1⟩ ⟨"desk"⟩).Possible idle.sink := by
    simp [Occurrence.Possible, idle, Sink.start]
  have opened := begun.undergo _ fresh
  have prepared := opened.undergo (.message ⟨1⟩ (.request ⟨"desk"⟩ .prepare)) trivial
  exact prepared.undergo (.message ⟨1⟩ (.request ⟨"desk"⟩ (.startByType TypeMask.mouse))) trivial

theorem ownership_agrees_lending :
    Reached ⟨"tablet"⟩ [] 2 lending ∧ lending.sink.owners.contains ⟨"mouse"⟩ = true ∧
      (lending.sink.capturing = true ↔ ∃ handle : HandleId, handle ∈ lending.sink.owners) := by
  refine ⟨reached_lending, by decide +kernel, ?_⟩
  exact (ownership_agrees reached_lending).2.2.2.1

end InputSharing.Sink
