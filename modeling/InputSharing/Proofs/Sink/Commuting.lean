import InputSharing.Proofs.Sink.Endings
import InputSharing.Proofs.Sink.Starting

/-!
# Endings of different sessions

When two sessions end what they share, it does not matter which of them is first.  Neither
departure looks at what is kept for the other session, so each is the same whether or not
the other has happened, and together they change the same entries of every book.

What depends on the order is which of them takes the last handle back, and so makes the
devices be read no longer.  But this happens once in either order, and no held keys are
asked for afterwards.
-/

namespace InputSharing

namespace Sink

/-! ## What a listener hears of a handle -/

namespace Notice

/-- The calls of a listener about a handle, the first one first. -/
def calls (listener : Nat) (handle : HandleId) (notices : List Notice) : List SharingState :=
  (notices.filter fun notice => notice.listener = listener ∧ notice.handle = handle).map state

variable (listener : Nat) {handle : HandleId}

theorem calls_append (first second : List Notice) :
    calls listener handle (first ++ second) =
      calls listener handle first ++ calls listener handle second := by
  rw [calls, List.filter_append, List.map_append]
  rfl

/-- Nothing is told of a handle whose state does not change. -/
theorem calls_announced (sink : Sink) (state : SharingState) {handles : List HandleId}
    (other : handle ∉ handles) : calls listener handle (sink.announced state handles) = [] := by
  rw [calls, List.map_eq_nil_iff, List.filter_eq_nil_iff]
  intro notice told
  obtain ⟨changed, listed, given⟩ := List.mem_flatMap.1 told
  obtain ⟨hearer, -, rfl⟩ := List.mem_map.1 given
  have different : changed ≠ handle := fun same => other (same ▸ listed)
  simp [different]

end Notice

/-! ## Another session -/

section Apart

variable {τ κ : Type} [Transport τ] [Collector κ] {parting session : SessionId}
  {departure : Departure} {before after : Turn (Recorded τ) (Metered κ)}

/-- The held keys of a handle are asked for only while it is owned, and then the devices are
still read. -/
theorem Departs.farewell_eq (departs : Departs parting departure before after)
    (apart : parting ≠ session) (later : Ownership after) {released : HandleSet}
    (mine : ∀ handle ∈ released, before.sink.owners[handle]? = some session) :
    after.farewell session released = before.farewell session released := by
  cases something : released.isEmpty with
  | true => rw [Turn.farewell, Turn.farewell, if_pos something, if_pos something]
  | false =>
      obtain ⟨handle, member⟩ := exists_mem_of_nonempty something
      have elsewhere : handle ∉ departure.released := by
        intro taken
        exact apart (Option.some.inj ((departs.lent handle taken).symm.trans (mine handle member)))
      have owned := Table.mem_of_getElem? (mine handle member)
      have reading : after.sink.capturing = true :=
        later.reading.capturing_iff.2 ⟨handle, departs.mem_owners.2 ⟨owned, elsewhere⟩⟩
      have collector : after.collector = before.collector := by
        rcases departs.halts with ⟨-, same⟩ | ⟨-, idle, -⟩
        · exact same
        · cases idle.symm.trans reading
      have waits : after.sink.aside session = before.sink.aside session := by
        rw [aside, aside, departs.outboxes, if_neg apart]
      rw [Turn.farewell, Turn.farewell, departs.settings.1, collector, waits]

/-- What an ending takes from a session does not depend on whether another one is gone. -/
theorem Departs.departure_eq (departs : Departs parting departure before after)
    (apart : parting ≠ session) (earlier : Ownership before) (later : Ownership after)
    (ending : Ending) :
    after.departure session ending = before.departure session ending := by
  have switch : after.sink.switches[session]? = before.sink.switches[session]? := by
    rw [departs.switches, if_neg apart]
  have waiting : after.sink.outbox[session]? = before.sink.outbox[session]? := by
    rw [departs.outboxes, if_neg apart]
  cases ending with
  | lost => rw [Turn.departure, Turn.departure, handlesOf, handlesOf, switch]
  | stops via caller stop =>
      rw [Turn.departure, Turn.departure, Turn.stopped, Turn.stopped, switch, waiting,
        departs.settings.1]
      cases prepared : before.sink.switches[session]? with
      | none => rfl
      | some switch =>
          have mine (handle : HandleId) (member : handle ∈ stop.released switch) :
              before.sink.owners[handle]? = some session :=
            (earlier.books.owned_iff prepared handle).2 (Stop.mem_released.1 member).owned
          dsimp only
          rw [departs.farewell_eq apart later mine]

end Apart

/-! ## Two departures -/

section Two

variable {τ κ : Type} [Transport τ] [Collector κ] {first second : SessionId}
  {one other : Departure} {turn left right forth back : Turn (Recorded τ) (Metered κ)}

variable (one_left : Departs first one turn left) (other_forth : Departs second other left forth)
  (other_right : Departs second other turn right) (one_back : Departs first one right back)
  (apart : first ≠ second)

include one_left other_right apart in
/-- No handle is taken back twice. -/
theorem Departs.disjoint (handle : HandleId) (taken : handle ∈ other.released) :
    handle ∉ one.released := by
  intro again
  have owned := (one_left.lent handle again).symm.trans (other_right.lent handle taken)
  exact apart (Option.some.inj owned)

include one_left other_forth other_right one_back

theorem Departs.outlets :
    forth.outlet =
        turn.outlet.postAll
          (Posting.allTo first one.messages ++ Posting.allTo second other.messages) ∧
      back.outlet =
        turn.outlet.postAll
          (Posting.allTo second other.messages ++ Posting.allTo first one.messages) := by
  rw [other_forth.outlet, one_left.outlet, one_back.outlet, other_right.outlet,
    Outlet.postAll_append, Outlet.postAll_append]
  exact ⟨rfl, rfl⟩

theorem Departs.registry_comm : forth.sink.registry = back.sink.registry := by
  obtain ⟨here, there⟩ := one_left.outlets other_forth other_right one_back
  have counter : forth.sink.registry.counter = back.sink.registry.counter := by
    have given := congrArg Outlet.counter here
    have taken := congrArg Outlet.counter there
    rw [Outlet.counter_postAll, List.length_append] at given taken
    rw [Nat.add_comm] at taken
    exact given.trans taken.symm
  obtain ⟨_, left⟩ := one_left.registry
  obtain ⟨_, right⟩ := other_right.registry
  obtain ⟨_, forth⟩ := other_forth.registry
  obtain ⟨_, back⟩ := one_back.registry
  rw [left, Registry.part_withCounter] at forth
  rw [right, Registry.part_withCounter, Registry.part_part] at back
  rw [forth, back] at counter ⊢
  exact congrArg _ counter

include apart

theorem Departs.sentTo_comm (session : SessionId) :
    forth.line.sentTo session = back.line.sentTo session := by
  obtain ⟨here, there⟩ := one_left.outlets other_forth other_right one_back
  change forth.outlet.line.sentTo session = back.outlet.line.sentTo session
  rw [here, there, Outlet.sentTo_postAll, Outlet.sentTo_postAll, Posting.messagesTo_swap apart]

theorem Departs.answersTo_comm (impartial : turn.outlet.Impartial) (session : SessionId) :
    forth.line.answersTo session = back.line.answersTo session := by
  obtain ⟨here, there⟩ := one_left.outlets other_forth other_right one_back
  change forth.outlet.line.answersTo session = back.outlet.line.answersTo session
  rw [here, there]
  exact impartial.answersTo_eq (Posting.messagesTo_swap apart one.messages other.messages)

theorem Departs.owners_comm : forth.sink.owners = back.sink.owners := by
  apply Std.ExtTreeMap.ext_getElem?
  intro handle
  rw [other_forth.owners, one_left.owners, one_back.owners, other_right.owners]
  exact ite_ite_comm _ _ _ _ (one_left.disjoint other_right apart handle)

theorem Departs.sink_comm (capturing : forth.sink.capturing = back.sink.capturing) :
    forth.sink = back.sink := by
  have marks : forth.sink.tracker.marks = back.sink.tracker.marks := by
    apply Std.ExtTreeMap.ext_getElem?
    intro handle
    rw [other_forth.marks, one_left.marks, one_back.marks, other_right.marks]
    exact ite_ite_comm _ _ _ _ (one_left.disjoint other_right apart handle)
  have other_of_eq (tested : SessionId) (same : second = tested) : ¬ first = tested :=
    fun equal => apart (equal.trans same.symm)
  have switches : forth.sink.switches = back.sink.switches := by
    apply Std.ExtTreeMap.ext_getElem?
    intro tested
    rw [other_forth.switches, one_left.switches, one_back.switches, other_right.switches]
    exact ite_ite_comm _ _ _ _ (other_of_eq tested)
  have outboxes : forth.sink.outbox = back.sink.outbox := by
    apply Std.ExtTreeMap.ext_getElem?
    intro tested
    rw [other_forth.outboxes, one_left.outboxes, one_back.outboxes, other_right.outboxes]
    exact ite_ite_comm _ _ _ _ (other_of_eq tested)
  obtain ⟨deviceLeft, allowLeft, limitLeft, listenersLeft⟩ := one_left.settings
  obtain ⟨deviceForth, allowForth, limitForth, listenersForth⟩ := other_forth.settings
  obtain ⟨deviceRight, allowRight, limitRight, listenersRight⟩ := other_right.settings
  obtain ⟨deviceBack, allowBack, limitBack, listenersBack⟩ := one_back.settings
  apply Sink.ext
  · rw [deviceForth, deviceLeft, deviceBack, deviceRight]
  · rw [allowForth, allowLeft, allowBack, allowRight]
  · rw [limitForth, limitLeft, limitBack, limitRight]
  · exact one_left.registry_comm other_forth other_right one_back
  · exact congrArg Tracker.mk marks
  · exact switches
  · exact one_left.owners_comm other_forth other_right one_back apart
  · exact capturing
  · rw [listenersForth, listenersLeft, listenersBack, listenersRight]
  · exact outboxes

theorem Departs.calls_comm (listener : Nat) (handle : HandleId) :
    Notice.calls listener handle forth.notices = Notice.calls listener handle back.notices := by
  have announced (after : Sink) (same : after.listeners = turn.sink.listeners) :
      after.announced = turn.sink.announced := by
    funext state handles
    rw [Sink.announced, Sink.announced, same]
  rw [other_forth.told, one_left.told, one_back.told, other_right.told,
    announced left.sink one_left.settings.2.2.2, announced right.sink other_right.settings.2.2.2]
  simp only [Notice.calls_append, List.append_assoc]
  by_cases taken : handle ∈ other.released
  · have kept := one_left.disjoint other_right apart handle taken
    rw [← Std.ExtTreeSet.mem_toList] at kept
    rw [Notice.calls_announced listener turn.sink .throughIn kept, List.nil_append, List.append_nil]
  · rw [← Std.ExtTreeSet.mem_toList] at taken
    rw [Notice.calls_announced listener turn.sink .throughIn taken, List.nil_append,
      List.append_nil]

end Two

/-! ## Every order -/

theorem Ending.possible (ending : Ending) (session : SessionId) (sink : Sink) :
    (ending.occurrence session).Possible sink := by
  cases ending with
  | stops via caller stop => trivial
  | lost => trivial

section Histories

variable {τ κ : Type} [Transport τ] [Collector κ] {device : DeviceId} {allowList : AllowList}
  {batchMax : Nat} {turn : Turn (Recorded τ) (Metered κ)}

/-- Two different sessions may end what they share in either order, each in its own way.  The
sink comes to the same state, and so does the hardware, which was told equally often to stop.
Every session is sent the same messages, of which an impartial transport takes the same, and
every listener is told the same about every handle. -/
theorem endings_commute (reached : Reached device allowList batchMax turn)
    {first second : SessionId} (apart : first ≠ second) (one other : Ending) :
    let forth := (turn.undergo (one.occurrence first)).undergo (other.occurrence second)
    let back := (turn.undergo (other.occurrence second)).undergo (one.occurrence first)
    forth.sink = back.sink ∧ forth.collector = back.collector ∧
      (∀ session, forth.line.sentTo session = back.line.sentTo session) ∧
      (turn.outlet.Impartial →
        ∀ session, forth.line.answersTo session = back.line.answersTo session) ∧
      ∀ listener handle,
        Notice.calls listener handle forth.notices = Notice.calls listener handle back.notices := by
  intro forth back
  have left := reached.departs first one
  have right := reached.departs second other
  have onLeft := reached.undergo (one.occurrence first) (one.possible first _)
  have onRight := reached.undergo (other.occurrence second) (other.possible second _)
  have forthDeparts := onLeft.departs second other
  have backDeparts := onRight.departs first one
  rw [left.departure_eq apart reached.ownership onLeft.ownership] at forthDeparts
  rw [right.departure_eq apart.symm reached.ownership onRight.ownership] at backDeparts
  have forthReading := (onLeft.undergo _ (other.possible second _)).ownership.reading
  have backReading := (onRight.undergo _ (one.possible first _)).ownership.reading
  have owners := left.owners_comm forthDeparts right backDeparts apart
  have capturing : forth.sink.capturing = back.sink.capturing := by
    rw [Bool.eq_iff_iff, forthReading.capturing_iff, backReading.capturing_iff, owners]
  refine ⟨left.sink_comm forthDeparts right backDeparts apart capturing, ?_, ?_, ?_, ?_⟩
  · exact (left.halts.trans forthDeparts.halts).collector_eq (right.halts.trans backDeparts.halts)
      capturing
  · exact left.sentTo_comm forthDeparts right backDeparts apart
  · exact left.answersTo_comm forthDeparts right backDeparts apart
  · exact left.calls_comm forthDeparts right backDeparts apart

end Histories

/-- The desk has borrowed the mouse and the couch the keyboard. -/
def divided : Turn (Recorded Scripted) (Metered LaxHardware) :=
  crowded.handle ⟨2⟩ (.request ⟨"couch"⟩ (.startByType TypeMask.keyboard))

/-- The desk gives everything up and the channel of the couch is gone, in either order.  The
devices are read until both have happened. -/
theorem endings_commute_divided :
    Reached ⟨"tablet"⟩ [] 2 divided ∧ divided.outlet.Impartial ∧
      divided.sink.owners[(⟨"mouse"⟩ : HandleId)]? = some ⟨1⟩ ∧
      divided.sink.owners[(⟨"keyboard"⟩ : HandleId)]? = some ⟨2⟩ ∧
      let asked := divided.undergo (.message ⟨1⟩ (.request ⟨"desk"⟩ .unprepare))
      let lost := divided.undergo (.closed ⟨2⟩)
      let forth := asked.undergo (.closed ⟨2⟩)
      let back := lost.undergo (.message ⟨1⟩ (.request ⟨"desk"⟩ .unprepare))
      asked.sink.capturing = true ∧ lost.sink.capturing = true ∧
        forth.sink.capturing = false ∧ forth.sink = back.sink ∧
        forth.collector = back.collector ∧
        ∀ session, forth.line.answersTo session = back.line.answersTo session := by
  have reached : Reached ⟨"tablet"⟩ [] 2 divided :=
    reached_crowded.undergo
      (.message ⟨2⟩ (.request ⟨"couch"⟩ (.startByType TypeMask.keyboard))) trivial
  have impartial := divided.outlet.impartial_scripted
  have apart : (⟨1⟩ : SessionId) ≠ ⟨2⟩ := by decide
  obtain ⟨sinks, collectors, -, answers, -⟩ :=
    endings_commute reached apart (.stops .direct ⟨"desk"⟩ .all) .lost
  refine ⟨reached, impartial, by decide +kernel, by decide +kernel, ?_, ?_, ?_, sinks, collectors,
    answers impartial⟩
  · decide +kernel
  · decide +kernel
  · decide +kernel

end Sink

end InputSharing
