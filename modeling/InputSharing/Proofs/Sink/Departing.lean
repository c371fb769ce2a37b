import InputSharing.Proofs.Sink.Outlet
import InputSharing.Proofs.Sink.Ownership

/-!
# Sessions that give something up

`Departs` tells everything that changes when a session gives handles up: it is sent
something, the handles have no owner any more, and what the sink keeps for that session is
what its `Departure` says.  Nothing of this concerns another session, except that the
devices are read no longer when nothing is owned.

Taking handles back is one such departure; others are made from it by what is sent and
forgotten besides.
-/

namespace InputSharing

/-! ## Channels that may have gone -/

namespace Registry

/-- The registry after the channel of a session may have gone. -/
def part (registry : Registry) (session : SessionId) (severs : Bool) : Registry :=
  if severs then (registry.closed session).2 else registry

theorem part_withCounter (registry : Registry) (counter : FrameCounter) (session : SessionId)
    (severs : Bool) :
    ({ registry with counter }.part session severs) =
      { registry.part session severs with counter } := by
  cases severs with
  | false => rfl
  | true => exact registry.closed_withCounter counter session

theorem part_part (registry : Registry) (first second : SessionId) (one other : Bool) :
    (registry.part first one).part second other = (registry.part second other).part first one := by
  cases one with
  | false => rfl
  | true =>
      cases other with
      | false => rfl
      | true => exact registry.closed_closed first second

end Registry

namespace Sink

attribute [ext] Sink

/-! ## Reading the devices -/

namespace Turn

variable {τ κ : Type}

/-- The devices are read no longer, or that they are read has not changed. -/
def Halts [Collector κ] (before after : Turn τ κ) : Prop :=
  after.sink.capturing = before.sink.capturing ∧ after.collector = before.collector ∨
    before.sink.capturing = true ∧ after.sink.capturing = false ∧
      after.collector = Collector.stopCapture before.collector

namespace Halts

variable [Collector κ] {before middle after other : Turn τ κ}

theorem trans (first : Halts before middle) (second : Halts middle after) : Halts before after := by
  rcases first with ⟨same, still⟩ | ⟨reading, idle, stopped⟩
  · rw [Halts, same, still] at second
    exact second
  · rcases second with ⟨same, still⟩ | ⟨again, -, -⟩
    · exact .inr ⟨reading, same.trans idle, still.trans stopped⟩
    · cases idle.symm.trans again

/-- The hardware is told once to stop, whichever way that came about. -/
theorem collector_eq (here : Halts before after) (there : Halts before other)
    (same : after.sink.capturing = other.sink.capturing) : after.collector = other.collector := by
  rcases here with ⟨alike, still⟩ | ⟨reading, idle, stopped⟩
  · rcases there with ⟨-, stays⟩ | ⟨reading, idle, -⟩
    · exact still.trans stays.symm
    · rw [alike, reading, idle] at same
      cases same
  · rcases there with ⟨alike, -⟩ | ⟨-, -, stops⟩
    · rw [idle, alike, reading] at same
      cases same
    · exact stopped.trans stops.symm

end Halts

/-- Nothing else changes when reading stops. -/
theorem stopIfIdle_halts [Collector κ] (turn : Turn τ κ) :
    ∃ (capturing : Bool) (collector : κ),
      turn.stopIfIdle = { turn with sink := { turn.sink with capturing }, collector } ∧
        Halts turn turn.stopIfIdle := by
  unfold stopIfIdle
  split
  · next idle =>
    exact ⟨false, _, rfl, .inr ⟨(Bool.and_eq_true_iff.1 idle).2, rfl, rfl⟩⟩
  · exact ⟨_, _, rfl, .inl ⟨rfl, rfl⟩⟩

end Turn

/-! ## Everything that changes -/

/-- What becomes of a session that ends what it shares. -/
structure Departure where
  /-- The handles that are taken back. -/
  released : HandleSet := ∅
  /-- The switch that is left. -/
  switch : Option Switch
  /-- The events that still wait. -/
  waiting : Option (List InputEvent)
  /-- What the session is sent. -/
  messages : List Message := []
  /-- Whether its channel is forgotten. -/
  severs : Bool := false

/-- A session departs. -/
structure Departs {τ κ : Type} [Transport τ] [Collector κ] (session : SessionId)
    (departure : Departure) (before after : Turn (Recorded τ) (Metered κ)) : Prop where
  lent : ∀ handle ∈ departure.released, before.sink.owners[handle]? = some session
  outlet : after.outlet = before.outlet.postAll (Posting.allTo session departure.messages)
  registry : ∃ counter, after.sink.registry =
    { before.sink.registry.part session departure.severs with counter }
  owners : ∀ handle : HandleId, after.sink.owners[handle]? =
    if handle ∈ departure.released then none else before.sink.owners[handle]?
  marks : ∀ handle : HandleId, after.sink.tracker.marks[handle]? =
    if handle ∈ departure.released then some .throughIn
    else before.sink.tracker.marks[handle]?
  told : after.notices =
    before.notices ++ before.sink.announced .throughIn departure.released.toList
  switches : ∀ tested, after.sink.switches[tested]? =
    if session = tested then departure.switch else before.sink.switches[tested]?
  outboxes : ∀ tested, after.sink.outbox[tested]? =
    if session = tested then departure.waiting else before.sink.outbox[tested]?
  halts : Turn.Halts before after
  settings : after.sink.device = before.sink.device ∧
    after.sink.allowList = before.sink.allowList ∧
    after.sink.batchLimit = before.sink.batchLimit ∧
    after.sink.listeners = before.sink.listeners

/-- Two turns differ in nothing but the switch of a session and its events that wait. -/
def Turn.Differs {τ κ : Type} (session : SessionId) (before after : Turn τ κ) : Prop :=
  ∃ switches outbox,
    after = { before with sink := { before.sink with switches, outbox } } ∧
      ∀ tested, session ≠ tested →
        switches[tested]? = before.sink.switches[tested]? ∧
          outbox[tested]? = before.sink.outbox[tested]?

namespace Turn

variable {τ κ : Type}

theorem Differs.refl (session : SessionId) (turn : Turn τ κ) : turn.Differs session turn :=
  ⟨_, _, rfl, fun _ _ => ⟨rfl, rfl⟩⟩

theorem differs_vacate (turn : Turn τ κ) (session : SessionId) :
    turn.Differs session (turn.vacate session) := by
  refine ⟨_, _, rfl, ?_⟩
  intro tested other
  rw [Table.getElem?_erase_eq, Table.getElem?_erase_eq, if_neg other, if_neg other]
  exact ⟨rfl, rfl⟩

end Turn

namespace Departs

variable {τ κ : Type} [Transport τ] [Collector κ] {session : SessionId} {departure : Departure}
  {before after : Turn (Recorded τ) (Metered κ)}

theorem nothing (session : SessionId) (turn : Turn (Recorded τ) (Metered κ)) :
    Departs session
      { switch := turn.sink.switches[session]?, waiting := turn.sink.outbox[session]? }
      turn turn where
  lent _ member := absurd member Std.ExtTreeSet.not_mem_empty
  outlet := rfl
  registry := ⟨_, rfl⟩
  owners _ := (if_neg Std.ExtTreeSet.not_mem_empty).symm
  marks _ := (if_neg Std.ExtTreeSet.not_mem_empty).symm
  told := (List.append_nil _).symm
  switches tested := Table.getElem?_eq_ite (fun _ _ => rfl) tested
  outboxes tested := Table.getElem?_eq_ite (fun _ _ => rfl) tested
  halts := .inl ⟨rfl, rfl⟩
  settings := ⟨rfl, rfl, rfl, rfl⟩

theorem mem_owners (departs : Departs session departure before after) {handle : HandleId} :
    handle ∈ after.sink.owners ↔
      handle ∈ before.sink.owners ∧ handle ∉ departure.released := by
  rw [Table.mem_iff_exists, Table.mem_iff_exists, departs.owners]
  by_cases taken : handle ∈ departure.released
  · simp [taken]
  · simp [taken]

/-- What is kept for the session changes before and after. -/
theorem between {first last : Turn (Recorded τ) (Metered κ)}
    (departs : Departs session departure before after) (entering : first.Differs session before)
    (leaving : after.Differs session last) :
    Departs session
      { departure with
        switch := last.sink.switches[session]?, waiting := last.sink.outbox[session]? }
      first last := by
  obtain ⟨switches, outbox, rfl, others⟩ := entering
  obtain ⟨leftSwitches, leftOutbox, rfl, leftOthers⟩ := leaving
  refine
    { departs with
      switches := fun tested => Table.getElem?_eq_ite ?_ tested
      outboxes := fun tested => Table.getElem?_eq_ite ?_ tested }
  · intro tested other
    have kept := (departs.switches tested).trans (if_neg other)
    exact (leftOthers tested other).1.trans (kept.trans (others tested other).1)
  · intro tested other
    have kept := (departs.outboxes tested).trans (if_neg other)
    exact (leftOthers tested other).2.trans (kept.trans (others tested other).2)

theorem answer (departs : Departs session departure before after) (via : Via) (reply : Reply) :
    Departs session
      { departure with
        messages := departure.messages ++ [via.message before.sink.device reply] }
      before (after.answer session via reply) := by
  have outlet := after.outlet_post session (via.message after.sink.device reply)
  rw [departs.outlet, departs.settings.1, ← Outlet.postAll_concat] at outlet
  obtain ⟨counter, line, sent⟩ := after.sent_post session (via.message after.sink.device reply)
  obtain ⟨earlier, registry⟩ := departs.registry
  rw [Turn.answer]
  rw [departs.settings.1] at sent ⊢
  rw [sent] at outlet ⊢
  refine { departs with outlet := ?_, registry := ⟨counter, ?_⟩ }
  · rw [outlet, Posting.allTo, Posting.allTo, List.map_append]
    rfl
  · rw [registry]

/-- The channel of a session that was sent nothing is forgotten. -/
theorem sever (departs : Departs session departure before after)
    (silent : departure.messages = []) :
    Departs session { departure with severs := true } before
      (after.withRegistry (before.sink.registry.closed session).2) := by
  refine { departs with outlet := ?_, registry := ⟨_, rfl⟩ }
  have outlet := departs.outlet
  rw [silent] at outlet
  have line : after.line = before.line := congrArg Outlet.line outlet
  have counter := before.sink.registry.counter_closed session
  rw [silent]
  exact congrArg₂ Outlet.mk counter line

end Departs

/-! ## Taking handles back -/

/-- What a session is sent about handles that it loses. -/
def Turn.farewell {τ κ : Type} [Collector κ] (turn : Turn τ κ) (session : SessionId)
    (released : HandleSet) : List Message :=
  if released.isEmpty then []
  else
    Message.ofEvents turn.sink.device (turn.sink.aside session) ++
      Message.ofKeys turn.sink.device (Collector.heldKeys turn.collector released)

theorem nodup_handles (handles : HandleSet) : handles.toList.Nodup := by
  have distinct := Std.ExtTreeSet.distinct_toList (t := handles)
  refine distinct.imp ?_
  intro first second different same
  exact different (Std.compare_eq_iff_eq.2 same)

theorem exists_mem_of_nonempty {handles : HandleSet} (something : handles.isEmpty = false) :
    ∃ handle, handle ∈ handles := by
  have some_handle : handles.toList ≠ [] := by
    intro nothing
    rw [← Std.ExtTreeSet.isEmpty_toList, nothing] at something
    cases something
  obtain ⟨handle, listed⟩ := List.exists_mem_of_ne_nil handles.toList some_handle
  exact ⟨handle, Std.ExtTreeSet.mem_toList.1 listed⟩

section Releasing

variable {τ κ : Type} [Transport τ] [Collector κ] {turn : Turn (Recorded τ) (Metered κ)}
  {session : SessionId} {switch : Switch}

theorem outlet_release (prepared : turn.sink.switches[session]? = some switch)
    (requested : HandleSet) (reportKeys : Bool) :
    (turn.release session requested reportKeys).2.outlet =
      turn.outlet.postAll
        (Posting.allTo session
          (if reportKeys then turn.farewell session (Turn.releasable switch requested)
            else [])) := by
  let released := Turn.releasable switch requested
  cases something : released.isEmpty with
  | true =>
      rw [Turn.release_of_isEmpty prepared something, Turn.farewell, if_pos something, ite_self]
      rfl
  | false =>
      let taken := turn.lower session switch released
      have outlet :
          (turn.release session requested reportKeys).2.outlet =
            (taken.dismiss session released reportKeys).outlet := by
        rw [Turn.release_of_owned prepared something]
        dsimp only
        unfold Turn.stopIfIdle
        split
        · rfl
        · rfl
      rw [outlet]
      cases reportKeys with
      | false => rfl
      | true =>
          let flushed := taken.flushSession session
          have same :
              flushed.collector = turn.collector ∧ flushed.sink.device = turn.sink.device := by
            obtain ⟨counter, line, sent⟩ := taken.sent_flushSession session
            simp only [flushed]
            rw [sent]
            exact ⟨rfl, rfl⟩
          have reported := flushed.outlet_reportHeldKeys session released
          rw [same.1, same.2, taken.outlet_flushSession, ← Outlet.postAll_append] at reported
          rw [if_pos rfl, Turn.farewell, if_neg (Bool.eq_false_iff.1 something), Posting.allTo,
            List.map_append]
          exact reported

omit [Transport τ] [Collector κ] in
/-- Each handle that is taken back was owned, so the listeners hear of all of them. -/
theorem Books.notices_disown (books : Books turn.sink) {released : HandleSet}
    (mine : ∀ handle ∈ released, turn.sink.owners[handle]? = some session) (reportKeys : Bool) :
    (turn.disown session switch released reportKeys).notices =
      turn.notices ++ turn.sink.announced .throughIn released.toList := by
  refine Turn.notices_mark (nodup_handles released) ?_
  intro handle listed inside
  have owned := mine handle (Std.ExtTreeSet.mem_toList.1 listed)
  have out := (books.throughOut_iff handle).2 (Table.mem_of_getElem? owned)
  cases inside.symm.trans out

theorem Ownership.departs_release (ownership : Ownership turn)
    (prepared : turn.sink.switches[session]? = some switch) (requested : HandleSet)
    (reportKeys : Bool) :
    let after := (turn.release session requested reportKeys).2
    Departs session
      { released := Turn.releasable switch requested
        switch := after.sink.switches[session]?
        waiting := after.sink.outbox[session]?
        messages :=
          if reportKeys then turn.farewell session (Turn.releasable switch requested) else [] }
      turn after := by
  dsimp only
  have outlet := outlet_release prepared requested reportKeys
  cases something : (Turn.releasable switch requested).isEmpty with
  | true =>
      have nothing : Turn.releasable switch requested = ∅ :=
        Std.ExtTreeSet.isEmpty_iff.1 something
      rw [Turn.release_of_isEmpty prepared something, Turn.farewell, if_pos something, ite_self,
        nothing]
      exact .nothing session turn
  | false =>
      let released := Turn.releasable switch requested
      have mine (handle : HandleId) (member : handle ∈ released) :
          turn.sink.owners[handle]? = some session :=
        (ownership.books.owned_iff prepared handle).2 (Turn.mem_releasable.1 member).1
      obtain ⟨sent, disowned, equal⟩ := Turn.release_eq prepared something reportKeys
      obtain ⟨capturing, collector, idle, halts⟩ := sent.stopIfIdle_halts
      obtain ⟨counter, line, rfl⟩ := disowned
      rw [idle] at halts
      rw [equal, idle] at outlet ⊢
      exact
        { lent := mine
          outlet
          registry := ⟨counter, rfl⟩
          owners := turn.owners_disown session switch released reportKeys
          marks := turn.marks_disown session switch released reportKeys
          told := ownership.books.notices_disown mine reportKeys
          switches := fun tested => Table.getElem?_eq_ite
            (fun _ other => (Table.getElem?_insert_eq ..).trans (if_neg other)) tested
          outboxes := fun tested => Table.getElem?_eq_ite
            (fun _ other => (Table.getElem?_modify_eq ..).trans (if_neg other)) tested
          halts
          settings := ⟨rfl, rfl, rfl, rfl⟩ }

theorem outbox_release (prepared : turn.sink.switches[session]? = some switch)
    (requested : HandleSet) :
    (turn.release session requested true).2.sink.outbox[session]? =
      turn.sink.outbox[session]?.map fun waiting =>
        if (Turn.releasable switch requested).isEmpty then waiting else [] := by
  cases something : (Turn.releasable switch requested).isEmpty with
  | true =>
      rw [Turn.release_of_isEmpty prepared something]
      simp
  | false =>
      obtain ⟨counter, capturing, equal⟩ := Turn.sink_release prepared something true
      rw [equal]
      refine (Table.getElem?_modify_eq ..).trans ?_
      simp

end Releasing

end Sink

end InputSharing
