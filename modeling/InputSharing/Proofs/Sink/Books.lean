import InputSharing.Proofs.Registry
import InputSharing.Proofs.Sink.Parts

/-!
# The books of a sink

A sink keeps several books about its devices: the switches of its sessions, the
owners of its handles, the marks of the tracker, and the events put aside for each
session.  Whatever a sink does, these books agree.
-/

namespace InputSharing.Sink

/-- The books of a sink agree with one another and with its registry. -/
structure Books (sink : Sink) : Prop where
  /-- A session owns exactly the handles of its switch. -/
  owner_iff (handle : HandleId) (session : SessionId) :
    sink.owners[handle]? = some session ↔
      ∃ switch, sink.switches[session]? = some switch ∧ handle ∈ switch.handles
  /-- The handles that go out are those with an owner. -/
  throughOut_iff (handle : HandleId) :
    sink.tracker.stateOf handle = .throughOut ↔ handle ∈ sink.owners
  /-- A session with a switch is known under the peer of the switch. -/
  peer_of_switch (session : SessionId) (switch : Switch) :
    sink.switches[session]? = some switch →
      sink.registry.peer? session = some switch.peer
  /-- Events are put aside for sessions with a switch only. -/
  switch_of_outbox (session : SessionId) :
    session ∈ sink.outbox → session ∈ sink.switches

namespace Books

variable {sink : Sink}

/-- No handle lies in two switches. -/
theorem session_unique (books : Books sink) {handle : HandleId}
    {first second : SessionId} {firstSwitch secondSwitch : Switch}
    (foundFirst : sink.switches[first]? = some firstSwitch)
    (foundSecond : sink.switches[second]? = some secondSwitch)
    (inFirst : handle ∈ firstSwitch.handles) (inSecond : handle ∈ secondSwitch.handles) :
    first = second := by
  have ownedFirst := (books.owner_iff handle first).2 ⟨firstSwitch, foundFirst, inFirst⟩
  have ownedSecond := (books.owner_iff handle second).2 ⟨secondSwitch, foundSecond, inSecond⟩
  exact Option.some.inj (ownedFirst.symm.trans ownedSecond)

theorem start (device : DeviceId) (allowList : AllowList) (batchMax : Nat) :
    Books (Sink.start device allowList batchMax) where
  owner_iff handle session := by
    simp [Sink.start]
  throughOut_iff handle := by
    simp [Sink.start, Tracker.stateOf]
  peer_of_switch session switch found := by
    simp [Sink.start] at found
  switch_of_outbox session member := by
    simp [Sink.start] at member

/-! ## Books that are rewritten -/

/-- The books do not speak of the numbers of frames, of the reading of devices
and of listeners, and the outbox may lose sessions. -/
theorem of_same {after : Sink} (books : Books sink)
    (switches : after.switches = sink.switches) (owners : after.owners = sink.owners)
    (tracker : after.tracker = sink.tracker)
    (bySession : after.registry.bySession = sink.registry.bySession)
    (outbox : ∀ session ∈ after.outbox, session ∈ sink.outbox) :
    Books after where
  owner_iff handle session := by
    rw [owners, switches]
    exact books.owner_iff handle session
  throughOut_iff handle := by
    rw [owners, tracker]
    exact books.throughOut_iff handle
  peer_of_switch session switch found := by
    rw [Registry.peer?, bySession]
    exact books.peer_of_switch session switch (switches ▸ found)
  switch_of_outbox session member := by
    rw [switches]
    exact books.switch_of_outbox session (outbox session member)

theorem of_sent {τ κ : Type} {before after : Turn τ κ} (books : Books before.sink)
    (sent : Turn.Sent before after) : Books after.sink := by
  obtain ⟨counter, line, rfl⟩ := sent
  exact books.of_same rfl rfl rfl rfl fun session member => member

theorem stopIfIdle {τ κ : Type} [Collector κ] {turn : Turn τ κ}
    (books : Books turn.sink) : Books turn.stopIfIdle.sink := by
  unfold Turn.stopIfIdle
  split
  · exact books.of_same rfl rfl rfl rfl fun session member => member
  · exact books

/-- A session that is known may get a switch. -/
theorem prepare (books : Books sink) {session : SessionId} {peer : DeviceId}
    (known : sink.registry.peer? session = some peer) :
    Books { sink with switches := sink.switches.insertIfNew session { peer } } := by
  have entries (tested : SessionId) :
      (sink.switches.insertIfNew session { peer })[tested]? =
        if session = tested ∧ session ∉ sink.switches then some { peer }
        else sink.switches[tested]? := by
    rw [Std.ExtTreeMap.getElem?_insertIfNew]
    simp only [Std.compare_eq_iff_eq]
  refine ⟨?_, books.throughOut_iff, ?_, ?_⟩
  · intro handle tested
    rw [entries, books.owner_iff handle tested]
    by_cases fresh : session = tested ∧ session ∉ sink.switches
    · obtain ⟨rfl, absent⟩ := fresh
      simp [absent]
    · rw [if_neg fresh]
  · intro tested switch
    rw [entries]
    intro found
    split at found
    · next fresh =>
      cases found
      exact fresh.1 ▸ known
    · exact books.peer_of_switch tested switch found
  · intro tested member
    exact Std.ExtTreeMap.mem_insertIfNew.2 (Or.inr (books.switch_of_outbox tested member))

/-- The classes of the handles of a session do not matter. -/
theorem reclass (books : Books sink) {session : SessionId} {switch : Switch}
    (prepared : sink.switches[session]? = some switch)
    {classes : Table HandleId TypeMask}
    (same : ∀ handle, handle ∈ classes ↔ handle ∈ switch.handles) :
    Books
      { sink with
        switches := sink.switches.insert session { switch with handles := classes } } := by
  refine ⟨?_, books.throughOut_iff, ?_, ?_⟩
  · intro handle tested
    rw [books.owner_iff handle tested, Table.getElem?_insert_eq]
    by_cases equal : session = tested
    · subst equal
      simp [prepared, same]
    · rw [if_neg equal]
  · intro tested other
    rw [Table.getElem?_insert_eq]
    intro found
    split at found
    · next equal =>
      cases found
      exact equal ▸ books.peer_of_switch session switch prepared
    · exact books.peer_of_switch tested other found
  · intro tested member
    exact Std.ExtTreeMap.mem_insert.2 (Or.inr (books.switch_of_outbox tested member))

/-- A session that owns nothing may lose its switch. -/
theorem forget {after : Sink} (books : Books sink) {session : SessionId}
    (nothing : ∀ handle : HandleId, sink.owners[handle]? ≠ some session)
    (switches : ∀ tested, after.switches[tested]? =
      if session = tested then none else sink.switches[tested]?)
    (owners : after.owners = sink.owners) (tracker : after.tracker = sink.tracker)
    (peers : ∀ tested, session ≠ tested →
      after.registry.peer? tested = sink.registry.peer? tested)
    (outbox : ∀ tested ∈ after.outbox, session ≠ tested ∧ tested ∈ sink.outbox) :
    Books after := by
  refine ⟨?_, ?_, ?_, ?_⟩
  · intro handle tested
    rw [switches, owners]
    by_cases same : session = tested
    · subst same
      simp [nothing handle]
    · rw [if_neg same]
      exact books.owner_iff handle tested
  · intro handle
    rw [owners, tracker]
    exact books.throughOut_iff handle
  · intro tested switch found
    rw [switches] at found
    split at found
    · cases found
    · next different =>
      rw [peers tested different]
      exact books.peer_of_switch tested switch found
  · intro tested member
    obtain ⟨different, before⟩ := outbox tested member
    rw [Table.mem_iff_exists after.switches, switches, if_neg different,
      ← Table.mem_iff_exists]
    exact books.switch_of_outbox tested before

/-! ## Ownership that changes -/

section Changing

variable {τ κ : Type} {turn : Turn τ κ} {session : SessionId} {switch : Switch}

theorem owned_iff (books : Books sink)
    (prepared : sink.switches[session]? = some switch) (handle : HandleId) :
    sink.owners[handle]? = some session ↔ handle ∈ switch.handles := by
  rw [books.owner_iff handle session, prepared]
  simp

/-- Handles without an owner may be given to a prepared session. -/
theorem own {granted : Table HandleId TypeMask} (books : Books turn.sink)
    (prepared : turn.sink.switches[session]? = some switch)
    (free : ∀ handle ∈ granted, ∀ owner,
      turn.sink.owners[handle]? = some owner → owner = session) :
    Books (turn.own session switch granted).sink where
  owner_iff handle tested := by
    rw [Turn.owners_own, Turn.switches_own, Table.getElem?_insert_eq]
    by_cases same : session = tested
    · subst same
      have mine := owned_iff books prepared handle
      simp only [if_true, Option.some.injEq, exists_eq_left', Turn.mem_gain]
      by_cases gained : handle ∈ granted ∧ handle ∉ switch.handles
      · simp [gained]
      · rw [if_neg gained, mine]
        constructor
        · exact Or.inl
        · rintro (before | given)
          · exact before
          · exact Decidable.byContradiction fun fresh => gained ⟨given, fresh⟩
    · rw [if_neg same]
      by_cases gained : handle ∈ granted ∧ handle ∉ switch.handles
      · rw [if_pos gained, ← books.owner_iff handle tested]
        constructor
        · intro equal
          exact absurd (Option.some.inj equal) same
        · intro owned
          exact absurd (free handle gained.1 tested owned).symm same
      · rw [if_neg gained]
        exact books.owner_iff handle tested
  throughOut_iff handle := by
    rw [Turn.stateOf_own, Table.mem_iff_exists (turn.own session switch granted).sink.owners,
      Turn.owners_own]
    by_cases gained : handle ∈ granted ∧ handle ∉ switch.handles
    · simp [gained]
    · rw [if_neg gained, if_neg gained, ← Table.mem_iff_exists]
      exact books.throughOut_iff handle
  peer_of_switch tested found := by
    rw [Turn.switches_own, Table.getElem?_insert_eq]
    intro entered
    split at entered
    · next same =>
      cases entered
      exact same ▸ books.peer_of_switch session switch prepared
    · exact books.peer_of_switch tested found entered
  switch_of_outbox tested member := by
    rw [Turn.switches_own, Std.ExtTreeMap.mem_insert]
    exact Or.inr (books.switch_of_outbox tested member)

/-- Handles of a prepared session may lose their owner. -/
theorem disown {released : HandleSet} (books : Books turn.sink)
    (prepared : turn.sink.switches[session]? = some switch)
    (mine : ∀ handle ∈ released, handle ∈ switch.handles) (reportKeys : Bool) :
    Books (turn.disown session switch released reportKeys).sink where
  owner_iff handle tested := by
    rw [Turn.owners_disown, Turn.switches_disown, Table.getElem?_insert_eq]
    by_cases same : session = tested
    · subst same
      have owned := owned_iff books prepared handle
      simp only [if_true, Option.some.injEq, exists_eq_left', Turn.mem_keep]
      by_cases gone : handle ∈ released
      · simp [gone]
      · simp [gone, owned]
    · rw [if_neg same, ← books.owner_iff handle tested]
      by_cases gone : handle ∈ released
      · have owned := (owned_iff books prepared handle).2 (mine handle gone)
        simp [gone, owned, same]
      · rw [if_neg gone]
  throughOut_iff handle := by
    rw [Turn.stateOf_disown,
      Table.mem_iff_exists (turn.disown session switch released reportKeys).sink.owners,
      Turn.owners_disown]
    by_cases gone : handle ∈ released
    · simp [gone]
    · rw [if_neg gone, if_neg gone, ← Table.mem_iff_exists]
      exact books.throughOut_iff handle
  peer_of_switch tested found := by
    rw [Turn.switches_disown, Table.getElem?_insert_eq]
    intro entered
    split at entered
    · next same =>
      cases entered
      exact same ▸ books.peer_of_switch session switch prepared
    · exact books.peer_of_switch tested found entered
  switch_of_outbox tested member := by
    rw [Turn.switches_disown, Std.ExtTreeMap.mem_insert]
    rw [Turn.mem_outbox_disown] at member
    exact Or.inr (books.switch_of_outbox tested member)

end Changing

/-! ## Parts of a reaction -/

section Parts

variable {τ κ : Type} {turn : Turn τ κ}

/-- A channel may be opened again to the same peer. -/
theorem opened (books : Books turn.sink) {session : SessionId} {peer : DeviceId}
    (same :
      ∀ known, turn.sink.registry.peer? session = some known → known = peer) :
    Books (turn.opened session peer).sink := by
  refine ⟨books.owner_iff, books.throughOut_iff, ?_, books.switch_of_outbox⟩
  intro tested switch found
  have known := books.peer_of_switch tested switch found
  have entered :
      (turn.opened session peer).sink.registry.bySession[tested]? =
        if session = tested then
          some { peer, remoteRole := .source, session, outbound := false }
        else turn.sink.registry.bySession[tested]? :=
    Table.getElem?_insert_eq ..
  rw [Registry.peer?, entered]
  split
  · next equal =>
    rw [← equal] at known
    exact congrArg some (same _ known).symm
  · exact known

theorem enqueue (books : Books turn.sink) {handle : HandleId} {session : SessionId}
    (owned : turn.sink.owners[handle]? = some session) (waiting : List InputEvent) :
    Books { turn.sink with outbox := turn.sink.outbox.insert session waiting } := by
  refine ⟨books.owner_iff, books.throughOut_iff, books.peer_of_switch, ?_⟩
  intro tested member
  rw [Std.ExtTreeMap.mem_insert, Std.compare_eq_iff_eq] at member
  rcases member with rfl | before
  · obtain ⟨switch, prepared, _⟩ := (books.owner_iff handle session).1 owned
    exact Table.mem_of_getElem? prepared
  · exact books.switch_of_outbox tested before

theorem flushSession [Transport τ] (books : Books turn.sink) (session : SessionId) :
    Books (turn.flushSession session).sink := by
  have emptied :
      Books { turn.sink with outbox := turn.sink.outbox.modify session fun _ => [] } :=
    books.of_same rfl rfl rfl rfl fun tested member => Std.ExtTreeMap.mem_modify.1 member
  exact emptied.of_sent (Turn.sent_flushSession turn session)

variable [Collector κ]

theorem release [Transport τ] (books : Books turn.sink) (session : SessionId)
    (requested : HandleSet) (reportKeys : Bool) :
    Books (turn.release session requested reportKeys).2.sink := by
  obtain untouched | ⟨switch, prepared, something⟩ := turn.release_cases session requested
  · rw [untouched]
    exact books
  · obtain ⟨sent, sending, equal⟩ := Turn.release_eq prepared something reportKeys
    rw [equal]
    have mine (handle : HandleId) (member : handle ∈ Turn.releasable switch requested) :
        handle ∈ switch.handles :=
      (Turn.mem_releasable.1 member).1
    exact ((books.disown prepared mine reportKeys).of_sent sending).stopIfIdle

/-- A session may be granted whatever no other session owns. -/
theorem grant (books : Books turn.sink) (session : SessionId)
    (candidates : Table HandleId TypeMask) :
    Books (turn.grant session candidates).2.sink := by
  obtain ⟨capturing, collector, granted⟩ := turn.grant_cases session candidates
  let begun : Turn τ κ := { turn with sink := { turn.sink with capturing }, collector }
  have still : Books begun.sink := books.of_same rfl rfl rfl rfl fun tested member => member
  obtain refused | ⟨switch, prepared, given⟩ := granted
  · rw [refused]
    exact still
  · rw [given]
    exact still.own prepared fun handle member => turn.owner_of_available session member

theorem closed [Transport τ] (books : Books turn.sink) (session : SessionId) :
    Books (turn.closed session).sink := by
  let registry := (turn.sink.registry.closed session).2
  have outbox (tested : SessionId) (member : tested ∈ (turn.quiet session).sink.outbox) :
      session ≠ tested ∧ tested ∈ turn.sink.outbox :=
    (Table.mem_erase_iff ..).1 member
  have calm : Books (turn.quiet session).sink :=
    books.of_same rfl rfl rfl rfl fun tested member => (outbox tested member).2
  have peers (tested : SessionId) (different : session ≠ tested) :
      registry.peer? tested = turn.sink.registry.peer? tested :=
    Registry.peer?_closed turn.sink.registry different
  cases prepared : turn.sink.switches[session]? with
  | none =>
      rw [Turn.closed_of_unprepared prepared]
      refine calm.forget ?_ ?_ rfl rfl peers ?_
      · intro handle owned
        obtain ⟨switch, found, _⟩ := (books.owner_iff handle session).1 owned
        rw [prepared] at found
        cases found
      · intro tested
        split
        · next same => exact same ▸ prepared
        · rfl
      · intro tested member
        exact ⟨(outbox tested member).1, member⟩
  | some switch =>
      rw [Turn.closed_of_prepared prepared]
      let requested := HandleSet.ofKeys switch.handles
      have kept := calm.release session requested false
      have found : (turn.quiet session).sink.switches[session]? = some switch := prepared
      refine kept.forget (Turn.owners_release_all found (calm.owned_iff found) false)
        (fun tested => Table.getElem?_erase_eq ..) rfl rfl ?_ ?_
      · intro tested different
        have same := Turn.bySession_release (turn.quiet session) session requested false
        rw [Registry.peer?, Registry.peer?, same]
        exact peers tested different
      · intro tested member
        have before :=
          (Turn.mem_outbox_release (turn.quiet session) session requested false tested).1 member
        exact ⟨(outbox tested before).1, member⟩

end Parts

end Books

end InputSharing.Sink
