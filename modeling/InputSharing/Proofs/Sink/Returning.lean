import InputSharing.Proofs.Sink.Endings

/-!
# What a request to stop takes back

A session may give up classes of devices, handles, or everything.  Handles that it loses
have no owner any more, and the listeners hear of each of them.

The session is told in a fixed order: first come the events that still wait for it, then
the keys that are held on the handles that it loses, and then the answer.  The devices are
read no longer when the last handle that anybody owned is taken back.
-/

namespace InputSharing.Sink

/-! ## What is left -/

/-- The classes that a handle keeps if it is not lost. -/
def Stop.rest (classes : TypeMask) : Stop → TypeMask
  | byType types => classes \ types
  | byHandles _ | all => classes

/-- Some handles are taken back, and with them the last ones that anybody owned. -/
def Drains (sink : Sink) (released : HandleSet) : Prop :=
  released.isEmpty = false ∧ ∀ handle ∈ sink.owners, handle ∈ released

/-- What becomes of the switch of a session and of the events that wait for it. -/
def Stop.Leaves (session : SessionId) (switch : Switch) (released : HandleSet)
    (before after : Sink) : Stop → Prop
  | all => session ∉ after.switches ∧ session ∉ after.outbox
  | stop =>
      (∃ handles, after.switches[session]? = some { switch with handles } ∧
        ∀ handle : HandleId, handles[handle]? =
          if handle ∈ released then none
          else switch.handles[handle]?.map fun classes => stop.rest classes) ∧
      after.outbox[session]? =
        before.outbox[session]?.map fun waiting => if released.isEmpty then waiting else []

/-- Handles are taken back from a session, which is sent some messages.  What becomes of
its switch and of its outbox is not told. -/
structure Returns {τ κ : Type} [Collector κ] (session : SessionId) (released : HandleSet)
    (messages : List Message) (before after : Turn (Recorded τ) (Metered κ)) : Prop where
  sends : Sends session messages before.line after.line
  owners : ∀ handle : HandleId, after.sink.owners[handle]? =
    if handle ∈ released then none else before.sink.owners[handle]?
  states : ∀ handle, after.sink.tracker.stateOf handle =
    if handle ∈ released then .throughIn else before.sink.tracker.stateOf handle
  told : after.notices = before.notices ++ before.sink.announced .throughIn released.toList
  drained : before.sink.Drains released →
    after.sink.capturing = false ∧ after.collector = Collector.stopCapture before.collector
  running : ¬ before.sink.Drains released →
    after.sink.capturing = before.sink.capturing ∧ after.collector = before.collector
  switches : ∀ tested, session ≠ tested →
    after.sink.switches[tested]? = before.sink.switches[tested]?
  outboxes : ∀ tested, session ≠ tested →
    after.sink.outbox[tested]? = before.sink.outbox[tested]?
  rest : ∃ counter tracker switches owners outbox capturing,
    after.sink =
      { before.sink with
        registry := { before.sink.registry with counter }
        tracker, switches, owners, outbox, capturing }

section Returning

variable {τ κ : Type} [Transport τ] [Collector κ] {session : SessionId} {switch : Switch}
  {before after turn : Turn (Recorded τ) (Metered κ)}

/-- The devices are read no longer exactly if the last owner is gone. -/
theorem Departs.drains_iff {departure : Departure}
    (departs : Departs session departure before after) (earlier : Ownership before)
    (later : Ownership after) :
    before.sink.Drains departure.released ↔
      before.sink.capturing = true ∧ after.sink.capturing = false := by
  rw [earlier.reading.capturing_iff, Bool.eq_false_iff, ne_eq, later.reading.capturing_iff]
  constructor
  · rintro ⟨something, all⟩
    obtain ⟨handle, member⟩ := exists_mem_of_nonempty something
    refine ⟨⟨handle, Table.mem_of_getElem? (departs.lent handle member)⟩, ?_⟩
    rintro ⟨left, owned⟩
    obtain ⟨before, kept⟩ := departs.mem_owners.1 owned
    exact kept (all left before)
  · rintro ⟨⟨handle, owned⟩, nobody⟩
    have all (tested : HandleId) (before : tested ∈ before.sink.owners) :
        tested ∈ departure.released := by
      by_contra kept
      exact nobody ⟨tested, departs.mem_owners.2 ⟨before, kept⟩⟩
    refine ⟨?_, all⟩
    rw [Bool.eq_false_iff]
    intro nothing
    have member := all handle owned
    rw [Std.ExtTreeSet.isEmpty_iff.1 nothing] at member
    exact Std.ExtTreeSet.not_mem_empty member

theorem Departs.returns {departure : Departure}
    (departs : Departs session departure before after) (earlier : Ownership before)
    (later : Ownership after) (kept : departure.severs = false) :
    Returns session departure.released departure.messages before after where
  sends := by
    have line : after.line = (before.outlet.postAll _).line := congrArg Outlet.line departs.outlet
    rw [line]
    exact before.outlet.sends_postAll session departure.messages
  owners := departs.owners
  states handle := by
    rw [Tracker.stateOf, departs.marks]
    split
    · rfl
    · rfl
  told := departs.told
  drained drained := by
    obtain ⟨reading, idle⟩ := (departs.drains_iff earlier later).1 drained
    rcases departs.halts with ⟨same, -⟩ | ⟨-, -, stopped⟩
    · cases idle.symm.trans (same.trans reading)
    · exact ⟨idle, stopped⟩
  running busy := by
    rcases departs.halts with same | ⟨reading, idle, -⟩
    · exact same
    · exact absurd ((departs.drains_iff earlier later).2 ⟨reading, idle⟩) busy
  switches tested other := (departs.switches tested).trans (if_neg other)
  outboxes tested other := (departs.outboxes tested).trans (if_neg other)
  rest := by
    obtain ⟨counter, registry⟩ := departs.registry
    obtain ⟨device, allowList, batchLimit, listeners⟩ := departs.settings
    rw [kept] at registry
    exact ⟨counter, _, _, _, _, _,
      Sink.ext device allowList batchLimit registry rfl rfl rfl rfl listeners rfl⟩

theorem Stop.getElem?_lowers (stop : Stop) (switch : Switch) (handle : HandleId) :
    (stop.lowers switch).handles[handle]? =
      switch.handles[handle]?.map fun classes => stop.rest classes := by
  cases stop with
  | byType types => exact Std.ExtTreeMap.getElem?_map
  | byHandles handles => exact Option.map_id'.symm
  | all => exact Option.map_id'.symm

theorem getElem?_leave (switch : Switch) (requested : HandleSet) (handle : HandleId) :
    (Shares.leave switch.handles requested)[handle]? =
      if handle ∈ Turn.releasable switch requested then none else switch.handles[handle]? := by
  rw [← Turn.keep_releasable, Turn.keep, Std.ExtTreeMap.getElem?_filter']
  by_cases gone : handle ∈ Turn.releasable switch requested
  · cases switch.handles[handle]? <;> simp [gone]
  · cases switch.handles[handle]? <;> simp [gone]

theorem Departs.leaves {via : Via} {stop : Stop}
    (prepared : turn.sink.switches[session]? = some switch)
    (departs : Departs session (turn.stopped session via stop) turn after) :
    stop.Leaves session switch (stop.released switch) turn.sink after.sink := by
  have switches := (departs.switches session).trans (if_pos rfl)
  have outbox := (departs.outboxes session).trans (if_pos rfl)
  rw [Turn.stopped, prepared] at switches outbox
  have left (handle : HandleId) :
      (Shares.leave (stop.lowers switch).handles (stop.names switch))[handle]? =
        if handle ∈ stop.released switch then none
        else switch.handles[handle]?.map fun classes => stop.rest classes := by
    rw [getElem?_leave, stop.getElem?_lowers]
    rfl
  cases stop with
  | byType types => exact ⟨⟨_, switches, left⟩, outbox⟩
  | byHandles handles => exact ⟨⟨_, switches, left⟩, outbox⟩
  | all => exact ⟨Table.not_mem_of_getElem? switches, Table.not_mem_of_getElem? outbox⟩

theorem Ownership.stopByHandles (ownership : Ownership turn)
    (prepared : turn.sink.switches[session]? = some switch) (via : Via) (handles : HandleSet) :
    let released := Turn.releasable switch handles
    let after := turn.onStopByHandles session via handles
    Returns session released
        (turn.farewell session released ++
          [via.message turn.sink.device (.stoppedByHandles Status.ok handles released)])
        turn after ∧
      (Stop.byHandles handles).Leaves session switch released turn.sink after.sink := by
  have departs := ownership.departs_stopByHandles prepared via handles
  have leaves := departs.leaves prepared
  rw [Turn.stopped, prepared] at departs
  exact ⟨departs.returns ownership (ownership.onStopByHandles session via handles) rfl, leaves⟩

theorem Ownership.stopByType (ownership : Ownership turn)
    (prepared : turn.sink.switches[session]? = some switch) (via : Via) (types : TypeMask) :
    ∃ released : HandleSet,
      (∀ handle, handle ∈ released ↔ (Stop.byType types).Takes switch.handles handle) ∧
      Returns session released
        (turn.farewell session released ++
          [via.message turn.sink.device
            (.stoppedByType Status.ok types (TypeMask.unionOf switch.handles ∩ types))])
        turn (turn.onStopByType session via types) ∧
      (Stop.byType types).Leaves session switch released turn.sink
        (turn.onStopByType session via types).sink := by
  have departs := ownership.departs_stopByType prepared via types
  have leaves := departs.leaves prepared
  rw [Turn.stopped, prepared] at departs
  exact ⟨_, fun handle => Stop.mem_released,
    departs.returns ownership (ownership.onStopByType session via types) rfl, leaves⟩

theorem Ownership.unprepare {limit : Nat} (ownership : Ownership turn) (neat : turn.Neat limit)
    (prepared : turn.sink.switches[session]? = some switch) (via : Via) :
    ∃ released : HandleSet,
      (∀ handle, handle ∈ released ↔ Stop.all.Takes switch.handles handle) ∧
      Returns session released
        (turn.farewell session released ++
          [via.message turn.sink.device (.unprepared Status.ok)])
        turn (turn.onUnprepare session via) ∧
      Stop.all.Leaves session switch released turn.sink
        (turn.onUnprepare session via).sink := by
  have departs := ownership.departs_unprepare neat prepared via
  have leaves := departs.leaves prepared
  rw [Turn.stopped, prepared] at departs
  exact ⟨_, fun handle => Stop.mem_released,
    departs.returns ownership (ownership.onUnprepare session via) rfl, leaves⟩

variable {device : DeviceId} {allowList : AllowList} {batchMax : Nat}

/-- A session that stops loses exactly the handles that it gives up, and they go back to the
machine: nobody owns them, and every listener hears of each of them once.  Nothing else
changes hands.  The session is sent all its events that wait and the held keys of the
handles, if it loses any, and then one answer.  The devices are read no longer exactly if
the last handle that was owned is lost. -/
theorem stop_returns_asked (reached : Reached device allowList batchMax turn)
    (prepared : turn.sink.switches[session]? = some switch) (via : Via) (caller : DeviceId)
    (stop : Stop) :
    let after := turn.handle session (via.asking caller stop.request)
    ∃ released : HandleSet,
      (∀ handle, handle ∈ released ↔ stop.Takes switch.handles handle) ∧
      Returns session released
        (turn.farewell session released ++
          [via.message turn.sink.device (stop.reply switch.handles released)])
        turn after ∧
      stop.Leaves session switch released turn.sink after.sink := by
  dsimp only
  rw [turn.handle_asking]
  cases stop with
  | byType types => exact reached.ownership.stopByType prepared via types
  | byHandles handles =>
      exact ⟨_, fun handle => Turn.mem_releasable,
        reached.ownership.stopByHandles prepared via handles⟩
  | all => exact reached.ownership.unprepare reached.neat prepared via

end Returning

/-- The desk gives everything up, and so it loses the mouse. -/
theorem stop_returns_asked_lending :
    Reached ⟨"tablet"⟩ [] 2 lending ∧ ∃ (switch : Switch) (released : HandleSet),
      lending.sink.switches[(⟨1⟩ : SessionId)]? = some switch ∧ ⟨"mouse"⟩ ∈ released ∧
      Returns ⟨1⟩ released
        (lending.farewell ⟨1⟩ released ++
          [.reply lending.sink.device (.unprepared Status.ok)])
        lending (lending.handle ⟨1⟩ (.request ⟨"desk"⟩ .unprepare)) := by
  have owned : lending.sink.owners[(⟨"mouse"⟩ : HandleId)]? = some ⟨1⟩ := by
    decide +kernel
  obtain ⟨switch, found, member⟩ := (reached_lending.ownership.books.owner_iff _ _).1 owned
  obtain ⟨released, taken, returns, -⟩ :=
    stop_returns_asked reached_lending found .direct ⟨"desk"⟩ .all
  exact ⟨reached_lending, switch, released, found, (taken _).2 member, returns⟩

end InputSharing.Sink
