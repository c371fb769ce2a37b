import InputSharing.Proofs.Table
import InputSharing.Proofs.Tracker
import InputSharing.Sink.Inbound

/-!
# What the parts of a turn change

Sending changes nothing but the numbers of frames and the transport.  This
module says of each part of a turn which fields it changes, so that statements
about whole turns need not look into them again.
-/

namespace InputSharing.Sink

/-- The events that wait for a session. -/
def aside (sink : Sink) (session : SessionId) : List InputEvent :=
  sink.outbox[session]?.getD []

/-- What the listeners hear when handles change their state: each of them hears of every
handle. -/
def announced (sink : Sink) (state : SharingState) (handles : List HandleId) : List Notice :=
  handles.flatMap fun handle =>
    (List.range sink.listeners).map fun listener => { listener, state, handle }

namespace Turn

variable {τ κ : Type}

/-- The listeners hear of different handles that were in another state. -/
theorem notices_mark {turn : Turn τ κ} {state : SharingState} {handles : List HandleId}
    (different : handles.Nodup)
    (changing : ∀ handle ∈ handles, turn.sink.tracker.stateOf handle ≠ state) :
    (turn.mark state handles).notices = turn.notices ++ turn.sink.announced state handles := by
  have notices :
      (turn.mark state handles).notices =
        turn.notices ++ turn.sink.announced state (turn.sink.tracker.mark state handles).2 :=
    rfl
  have all : (turn.sink.tracker.mark state handles).2 = handles := by
    rw [Tracker.changed_mark _ _ different, List.filter_eq_self]
    simpa using changing
  rw [notices, all]

/-- The turn `after` is `before`, except that something has been sent. -/
def Sent (before after : Turn τ κ) : Prop :=
  ∃ (counter : FrameCounter) (line : τ),
    after =
      { before with
        sink := { before.sink with registry := { before.sink.registry with counter } }
        line }

namespace Sent

theorem refl (turn : Turn τ κ) : Sent turn turn :=
  ⟨turn.sink.registry.counter, turn.line, rfl⟩

theorem trans {before middle after : Turn τ κ}
    (first : Sent before middle) (second : Sent middle after) :
    Sent before after := by
  obtain ⟨_, _, rfl⟩ := first
  obtain ⟨counter, line, rfl⟩ := second
  exact ⟨counter, line, rfl⟩

end Sent

section Sending

variable [Transport τ]

theorem sent_post (turn : Turn τ κ) (session : SessionId) (message : Message) :
    Sent turn (turn.post session message) := by
  unfold post Channels.send
  dsimp only
  split
  · exact ⟨_, _, rfl⟩
  · exact ⟨_, _, rfl⟩

/-- The outbox of a session after its events have been sent. -/
theorem sent_flushSession (turn : Turn τ κ) (session : SessionId) :
    Sent
      { turn with
        sink :=
          { turn.sink with
            outbox := turn.sink.outbox.modify session fun _ => [] } }
      (turn.flushSession session) := by
  unfold flushSession
  split
  · next absent =>
    have unchanged :
        turn.sink.outbox.modify session (fun _ => []) = turn.sink.outbox :=
      Table.modify_eq_self fun waiting found => by
        rw [absent] at found
        cases found
    rw [unchanged]
    exact Sent.refl turn
  · next found =>
    have unchanged :
        turn.sink.outbox.modify session (fun _ => []) = turn.sink.outbox :=
      Table.modify_eq_self fun waiting same =>
        Option.some.inj (found.symm.trans same)
    rw [unchanged]
    exact Sent.refl turn
  · next first rest found =>
    rw [Table.modify_eq_insert found]
    exact sent_post _ session _

/-- A captured event is put aside for a session. -/
def collect (turn : Turn τ κ) (session : SessionId) (event : InputEvent) : Turn τ κ :=
  let waiting := turn.sink.outbox[session]?.getD [] ++ [event]
  { turn with sink := { turn.sink with outbox := turn.sink.outbox.insert session waiting } }

/-- A captured event stays on the machine, or it is put aside for the owner of its handle, who is
sent what waits as soon as it is enough. -/
theorem captured_cases (turn : Turn τ κ) (event : InputEvent) :
    turn.captured event = (.throughIn, turn) ∨
      ∃ session, turn.sink.owners[event.handle]? = some session ∧
        turn.captured event =
          (.throughOut,
            if turn.sink.batchLimit ≤ (turn.sink.outbox[session]?.getD [] ++ [event]).length then
              (turn.collect session event).flushSession session
            else turn.collect session event) := by
  by_cases out : turn.sink.tracker.stateOf event.handle ≠ .throughOut
  · left
    rw [captured, if_pos out]
  · cases owned : turn.sink.owners[event.handle]? with
    | none =>
        left
        rw [captured, if_neg out, owned]
    | some session =>
        right
        refine ⟨session, rfl, ?_⟩
        rw [captured, if_neg out, owned]
        rfl

theorem owners_flushSession (turn : Turn τ κ) (session : SessionId) :
    (turn.flushSession session).sink.owners = turn.sink.owners := by
  obtain ⟨counter, line, equal⟩ := sent_flushSession turn session
  rw [equal]

theorem sent_reportHeldKeys [Collector κ]
    (turn : Turn τ κ) (session : SessionId) (handles : HandleSet) :
    Sent turn (turn.reportHeldKeys session handles) := by
  unfold reportHeldKeys
  split
  · exact Sent.refl turn
  · exact sent_post turn session _
  · exact sent_post turn session _

end Sending

/-! ## Events that wait -/

section Waiting

theorem aside_modify (sink : Sink) (session tested : SessionId)
    (change : List InputEvent → List InputEvent) (nothing : change [] = []) :
    ({ sink with outbox := sink.outbox.modify session change } : Sink).aside tested =
      if session = tested then change (sink.aside tested) else sink.aside tested := by
  rw [aside, aside]
  change (sink.outbox.modify session change)[tested]?.getD [] = _
  rw [Table.getElem?_modify_eq]
  split
  · cases sink.outbox[tested]? with
    | none => exact nothing.symm
    | some events => rfl
  · rfl

theorem aside_erase (sink : Sink) (session tested : SessionId) :
    ({ sink with outbox := sink.outbox.erase session } : Sink).aside tested =
      if session = tested then [] else sink.aside tested := by
  rw [aside, aside]
  change (sink.outbox.erase session)[tested]?.getD [] = _
  rw [Table.getElem?_erase_eq]
  split
  · rfl
  · rfl

theorem aside_collect (turn : Turn τ κ) (session tested : SessionId)
    (event : InputEvent) :
    (turn.collect session event).sink.aside tested =
      turn.sink.aside tested ++ if session = tested then [event] else [] := by
  rw [Sink.aside, Turn.collect, Table.getElem?_insert_eq]
  split
  · next same =>
    subst same
    rfl
  · exact (List.append_nil _).symm

/-- Nothing is left aside when everything has been sent. -/
theorem aside_of_sent {turn after : Turn τ κ} {session : SessionId}
    (sent :
      Sent
        { turn with
          sink := { turn.sink with outbox := turn.sink.outbox.modify session fun _ => [] } }
        after) :
    after.sink.aside session = [] := by
  obtain ⟨counter, line, rfl⟩ := sent
  exact (aside_modify turn.sink session session (fun _ => []) rfl).trans (if_pos rfl)

end Waiting

/-! ## Granting handles -/

section Granting

variable (turn : Turn τ κ) (session : SessionId) (switch : Switch)
  (granted : Table HandleId TypeMask)

/-- The handles of a switch after some have been granted. -/
def gain : Table HandleId TypeMask :=
  switch.handles ∪ granted.map fun handle types => (switch.handles[handle]?.getD ∅) ∪ types

theorem mem_gain {handle : HandleId} :
    handle ∈ gain switch granted ↔ handle ∈ switch.handles ∨ handle ∈ granted := by
  simp [gain, Std.ExtTreeMap.mem_union_iff]

theorem switches_own :
    (turn.own session switch granted).sink.switches =
      turn.sink.switches.insert session { switch with handles := gain switch granted } :=
  rfl

theorem owners_own (handle : HandleId) :
    (turn.own session switch granted).sink.owners[handle]? =
      if handle ∈ granted ∧ handle ∉ switch.handles then some session
      else turn.sink.owners[handle]? := by
  have owners :
      (turn.own session switch granted).sink.owners =
        turn.sink.owners ∪
          (granted.filter fun handle _ => handle ∉ switch.handles).map fun _ _ => session :=
    rfl
  rw [owners, Std.ExtTreeMap.getElem?_union, Std.ExtTreeMap.getElem?_map,
    Std.ExtTreeMap.getElem?_filter']
  by_cases mine : handle ∈ switch.handles
  · cases granted[handle]? <;> simp [mine]
  · cases found : granted[handle]? with
    | none =>
        have absent : handle ∉ granted := Table.not_mem_of_getElem? found
        simp [absent]
    | some types =>
        have member : handle ∈ granted := Table.mem_of_getElem? found
        simp [mine, member]

theorem stateOf_own (handle : HandleId) :
    (turn.own session switch granted).sink.tracker.stateOf handle =
      if handle ∈ granted ∧ handle ∉ switch.handles then .throughOut
      else turn.sink.tracker.stateOf handle := by
  have tracker :
      (turn.own session switch granted).sink.tracker =
        (turn.sink.tracker.mark .throughOut
          (granted.filter fun handle _ => handle ∉ switch.handles).keys).1 :=
    rfl
  rw [tracker, Tracker.stateOf_mark]
  congr 1
  simp [Std.ExtTreeMap.mem_keys, Std.ExtTreeMap.mem_filter]

/-- Those candidates that no other session owns. -/
def available (candidates : Table HandleId TypeMask) : Table HandleId TypeMask :=
  candidates.filter fun handle _ =>
    match turn.sink.owners[handle]? with
    | none => true
    | some owner => owner = session

theorem owner_of_available {candidates : Table HandleId TypeMask} {handle : HandleId}
    (member : handle ∈ turn.available session candidates) (owner : SessionId)
    (owned : turn.sink.owners[handle]? = some owner) : owner = session := by
  have kept :=
    (Table.mem_filter_key candidates
      (fun handle =>
        match turn.sink.owners[handle]? with
        | none => true
        | some owner => owner = session)
      handle).1 member
  simpa [owned] using kept.2

/-- An attempt to read the devices changes nothing else. -/
theorem ensureCapture_eq [Collector κ] (turn : Turn τ κ) :
    ∃ (capturing : Bool) (collector : κ),
      turn.ensureCapture.2 = { turn with sink := { turn.sink with capturing }, collector } := by
  unfold ensureCapture
  split
  · exact ⟨turn.sink.capturing, turn.collector, rfl⟩
  · split
    · exact ⟨turn.sink.capturing, _, rfl⟩
    · exact ⟨true, _, rfl⟩

theorem grant_of_absent [Collector κ] {turn : Turn τ κ} {session : SessionId}
    (absent : turn.sink.switches[session]? = none)
    (candidates : Table HandleId TypeMask) :
    turn.grant session candidates = (.error .switchNotFound, turn) := by
  unfold grant
  rw [absent]

theorem grant_of_prepared [Collector κ] {turn : Turn τ κ} {session : SessionId}
    {switch : Switch} (prepared : turn.sink.switches[session]? = some switch)
    (candidates : Table HandleId TypeMask) :
    turn.grant session candidates =
      if (turn.available session candidates).isEmpty then
        (.ok (turn.available session candidates),
          turn.own session switch (turn.available session candidates))
      else
        match turn.ensureCapture with
        | (.error _, turn) => (.error .captureFailed, turn)
        | (.ok (), after) =>
            (.ok (turn.available session candidates),
              after.own session switch (turn.available session candidates)) := by
  unfold grant
  rw [prepared]
  rfl

/-- A session is given what is available to it, or nothing.  Either way the devices may be
read from now on. -/
theorem grant_cases [Collector κ] (turn : Turn τ κ) (session : SessionId)
    (candidates : Table HandleId TypeMask) :
    ∃ (capturing : Bool) (collector : κ),
      let begun : Turn τ κ := { turn with sink := { turn.sink with capturing }, collector }
      (turn.grant session candidates).2 = begun ∨
        ∃ switch, turn.sink.switches[session]? = some switch ∧
          (turn.grant session candidates).2 =
            begun.own session switch (turn.available session candidates) := by
  cases prepared : turn.sink.switches[session]? with
  | none =>
      rw [grant_of_absent prepared]
      exact ⟨turn.sink.capturing, turn.collector, Or.inl rfl⟩
  | some switch =>
      rw [grant_of_prepared prepared]
      split
      · exact ⟨turn.sink.capturing, turn.collector, Or.inr ⟨switch, rfl, rfl⟩⟩
      · obtain ⟨capturing, collector, same⟩ := turn.ensureCapture_eq
        refine ⟨capturing, collector, ?_⟩
        split
        · next tried =>
          rw [tried] at same
          exact Or.inl same
        · next after tried =>
          rw [tried] at same
          refine Or.inr ⟨switch, rfl, ?_⟩
          rw [← same]

section Starting

variable [Transport τ] [Collector κ]

/-- A request to start asks for a granting, and is answered. -/
theorem onStartByType_eq (turn : Turn τ κ) (session : SessionId) (types : TypeMask) :
    ∃ (candidates : Table HandleId TypeMask) (status : Int32) (granted : TypeMask),
      ∀ via, turn.onStartByType session via types =
        (turn.grant session candidates).2.answer session via
          (.startedByType status types granted) := by
  simp only [onStartByType]
  split
  · next refused => exact ⟨_, _, _, fun _ => by rw [refused]⟩
  · next given => exact ⟨_, _, _, fun _ => by rw [given]⟩

theorem onStartByHandles_eq (turn : Turn τ κ) (session : SessionId) (handles : HandleSet) :
    ∃ (candidates : Table HandleId TypeMask) (status : Int32) (granted : HandleSet),
      ∀ via, turn.onStartByHandles session via handles =
        (turn.grant session candidates).2.answer session via
          (.startedByHandles status handles granted) := by
  simp only [onStartByHandles]
  split
  · next refused => exact ⟨_, _, _, fun _ => by rw [refused]⟩
  · next given => exact ⟨_, _, _, fun _ => by rw [given]⟩

end Starting

end Granting

/-! ## Taking handles back -/

/-- The handles of a switch that are among the requested ones. -/
def releasable (switch : Switch) (requested : HandleSet) : HandleSet :=
  (HandleSet.ofKeys switch.handles).filter fun handle => handle ∈ requested

theorem mem_releasable {switch : Switch} {requested : HandleSet} {handle : HandleId} :
    handle ∈ releasable switch requested ↔
      handle ∈ switch.handles ∧ handle ∈ requested := by
  simp [releasable, HandleSet.ofKeys]

/-- The handles of a switch after some have been taken back. -/
def keep (switch : Switch) (released : HandleSet) : Table HandleId TypeMask :=
  switch.handles.filter fun handle _ => handle ∉ released

theorem mem_keep {switch : Switch} {released : HandleSet} {handle : HandleId} :
    handle ∈ keep switch released ↔ handle ∈ switch.handles ∧ handle ∉ released := by
  rw [keep, Table.mem_filter_key switch.handles fun handle => handle ∉ released]
  rw [decide_eq_true_iff]

/-- A turn whose books no longer hold some handles of a prepared session.  The
events that wait for the session are gone if they have been sent; otherwise
those of the handles are. -/
def disown (turn : Turn τ κ) (session : SessionId) (switch : Switch)
    (released : HandleSet) (reportKeys : Bool) : Turn τ κ :=
  ({ turn with
    sink :=
      { turn.sink with
        switches :=
          turn.sink.switches.insert session { switch with handles := keep switch released }
        owners := turn.sink.owners.filter fun handle _ => handle ∉ released
        outbox :=
          turn.sink.outbox.modify session fun events =>
            if reportKeys then [] else events.filter fun event => event.handle ∉ released } } :
    Turn τ κ).mark .throughIn released.toList

section Disowning

variable (turn : Turn τ κ) (session : SessionId) (switch : Switch)
  (released : HandleSet) (reportKeys : Bool)

theorem switches_disown :
    (turn.disown session switch released reportKeys).sink.switches =
      turn.sink.switches.insert session { switch with handles := keep switch released } :=
  rfl

theorem owners_disown (handle : HandleId) :
    (turn.disown session switch released reportKeys).sink.owners[handle]? =
      if handle ∈ released then none else turn.sink.owners[handle]? := by
  have owners :
      (turn.disown session switch released reportKeys).sink.owners =
        turn.sink.owners.filter fun handle _ => handle ∉ released :=
    rfl
  rw [owners, Std.ExtTreeMap.getElem?_filter']
  by_cases gone : handle ∈ released
  · cases turn.sink.owners[handle]? <;> simp [gone]
  · cases turn.sink.owners[handle]? <;> simp [gone]

theorem marks_disown (handle : HandleId) :
    (turn.disown session switch released reportKeys).sink.tracker.marks[handle]? =
      if handle ∈ released then some .throughIn else turn.sink.tracker.marks[handle]? := by
  have tracker :
      (turn.disown session switch released reportKeys).sink.tracker =
        (turn.sink.tracker.mark .throughIn released.toList).1 :=
    rfl
  rw [tracker, Tracker.marks_mark]
  simp only [Std.ExtTreeSet.mem_toList]

theorem stateOf_disown (handle : HandleId) :
    (turn.disown session switch released reportKeys).sink.tracker.stateOf handle =
      if handle ∈ released then .throughIn else turn.sink.tracker.stateOf handle := by
  rw [Tracker.stateOf, marks_disown]
  split
  · rfl
  · rfl

theorem mem_outbox_disown (tested : SessionId) :
    tested ∈ (turn.disown session switch released reportKeys).sink.outbox ↔
      tested ∈ turn.sink.outbox :=
  Std.ExtTreeMap.mem_modify

end Disowning

section Releasing

variable [Transport τ] [Collector κ]

theorem release_of_absent {turn : Turn τ κ} {session : SessionId}
    (absent : turn.sink.switches[session]? = none)
    (requested : HandleSet) (reportKeys : Bool) :
    turn.release session requested reportKeys = (∅, turn) := by
  unfold release
  rw [absent]

theorem release_of_isEmpty {turn : Turn τ κ} {session : SessionId} {switch : Switch}
    (prepared : turn.sink.switches[session]? = some switch)
    {requested : HandleSet} (nothing : (releasable switch requested).isEmpty = true)
    (reportKeys : Bool) :
    turn.release session requested reportKeys = (∅, turn) := by
  unfold release
  rw [prepared]
  exact if_pos nothing

/-- Nothing is taken back from a session, or some of what it has. -/
theorem release_cases (turn : Turn τ κ) (session : SessionId) (requested : HandleSet) :
    (∀ reportKeys, turn.release session requested reportKeys = (∅, turn)) ∨
      ∃ switch, turn.sink.switches[session]? = some switch ∧
        (releasable switch requested).isEmpty = false := by
  cases prepared : turn.sink.switches[session]? with
  | none => exact Or.inl (release_of_absent prepared requested)
  | some switch =>
      cases something : (releasable switch requested).isEmpty with
      | true => exact Or.inl (release_of_isEmpty prepared something)
      | false => exact Or.inr ⟨switch, rfl, something⟩

/-- Handles leave the switch of a session. -/
def lower (turn : Turn τ κ) (session : SessionId) (switch : Switch) (released : HandleSet) :
    Turn τ κ :=
  { turn with
    sink :=
      { turn.sink with
        switches :=
          turn.sink.switches.insert session { switch with handles := keep switch released } } }

/-- What a session still has to hear about handles that it loses. -/
def dismiss (turn : Turn τ κ) (session : SessionId) (released : HandleSet) (reportKeys : Bool) :
    Turn τ κ :=
  if reportKeys then (turn.flushSession session).reportHeldKeys session released else turn

/-- Handles lose their owner, and no event of them waits for a session. -/
def clear (turn : Turn τ κ) (session : SessionId) (released : HandleSet) : Turn τ κ :=
  ({ turn with
    sink :=
      { turn.sink with
        owners := turn.sink.owners.filter fun handle _ => handle ∉ released
        outbox :=
          turn.sink.outbox.modify session fun events =>
            events.filter fun event => event.handle ∉ released } } :
    Turn τ κ).mark .throughIn released.toList

theorem release_of_owned {turn : Turn τ κ} {session : SessionId} {switch : Switch}
    (prepared : turn.sink.switches[session]? = some switch)
    {requested : HandleSet} (something : (releasable switch requested).isEmpty = false)
    (reportKeys : Bool) :
    turn.release session requested reportKeys =
      let released := releasable switch requested
      (released,
        (((turn.lower session switch released).dismiss session released reportKeys).clear session
          released).stopIfIdle) := by
  unfold release
  rw [prepared]
  exact if_neg (Bool.eq_false_iff.1 something)

/-- Taking handles back changes the books as `disown` says, sends something, and
stops the reading of the devices when nothing is owned any more. -/
theorem release_eq {turn : Turn τ κ} {session : SessionId} {switch : Switch}
    (prepared : turn.sink.switches[session]? = some switch)
    {requested : HandleSet} (something : (releasable switch requested).isEmpty = false)
    (reportKeys : Bool) :
    ∃ sent : Turn τ κ,
      Sent (turn.disown session switch (releasable switch requested) reportKeys) sent ∧
        turn.release session requested reportKeys =
          (releasable switch requested, sent.stopIfIdle) := by
  let released := releasable switch requested
  let taken := turn.lower session switch released
  refine ⟨(taken.dismiss session released reportKeys).clear session released, ?_,
    release_of_owned prepared something reportKeys⟩
  cases reportKeys with
  | false =>
      exact Sent.refl _
  | true =>
      have sent :
          Sent
            { taken with
              sink :=
                { taken.sink with outbox := taken.sink.outbox.modify session fun _ => [] } }
            (taken.dismiss session released true) :=
        (sent_flushSession taken session).trans (sent_reportHeldKeys _ session released)
      obtain ⟨counter, line, equal⟩ := sent
      refine ⟨counter, line, ?_⟩
      have twice :
          (turn.sink.outbox.modify session fun _ => []).modify session
              (fun events => events.filter fun event => event.handle ∉ released) =
            turn.sink.outbox.modify session fun _ => [] :=
        Table.modify_modify ..
      rw [equal]
      simp only [clear, taken, lower, disown, twice, if_true]
      rfl

/-- Without a report nothing is sent. -/
theorem release_silently {turn : Turn τ κ} {session : SessionId} {switch : Switch}
    (prepared : turn.sink.switches[session]? = some switch)
    {requested : HandleSet} (something : (releasable switch requested).isEmpty = false) :
    turn.release session requested false =
      (releasable switch requested,
        (turn.disown session switch (releasable switch requested) false).stopIfIdle) := by
  unfold release
  rw [prepared]
  exact if_neg (Bool.eq_false_iff.1 something)

/-- What the sink looks like after handles have been taken back. -/
theorem sink_release {turn : Turn τ κ} {session : SessionId} {switch : Switch}
    (prepared : turn.sink.switches[session]? = some switch)
    {requested : HandleSet} (something : (releasable switch requested).isEmpty = false)
    (reportKeys : Bool) :
    ∃ (counter : FrameCounter) (capturing : Bool),
      (turn.release session requested reportKeys).2.sink =
        let disowned :=
          (turn.disown session switch (releasable switch requested) reportKeys).sink
        { disowned with registry := { disowned.registry with counter }, capturing } := by
  obtain ⟨sent, ⟨counter, line, rfl⟩, equal⟩ := release_eq prepared something reportKeys
  rw [equal]
  unfold stopIfIdle
  split
  · exact ⟨counter, false, rfl⟩
  · exact ⟨counter, turn.sink.capturing, rfl⟩

/-- Nothing is left to a session from which all its handles are taken back. -/
theorem owners_release_all {turn : Turn τ κ} {session : SessionId} {switch : Switch}
    (prepared : turn.sink.switches[session]? = some switch)
    (owned_iff : ∀ handle,
      turn.sink.owners[handle]? = some session ↔ handle ∈ switch.handles)
    (reportKeys : Bool) (handle : HandleId) :
    (turn.release session (HandleSet.ofKeys switch.handles) reportKeys).2.sink.owners[handle]? ≠
      some session := by
  intro owned
  have releasable_of_mem (member : handle ∈ switch.handles) :
      handle ∈ releasable switch (HandleSet.ofKeys switch.handles) :=
    mem_releasable.2 ⟨member, by simpa [HandleSet.ofKeys] using member⟩
  cases something : (releasable switch (HandleSet.ofKeys switch.handles)).isEmpty with
  | true =>
      rw [release_of_isEmpty prepared something] at owned
      have member := releasable_of_mem ((owned_iff handle).1 owned)
      rw [Std.ExtTreeSet.isEmpty_iff.1 something] at member
      exact Std.ExtTreeSet.not_mem_empty member
  | false =>
      obtain ⟨counter, capturing, equal⟩ := sink_release prepared something reportKeys
      rw [equal] at owned
      have disowned := owned
      simp only [owners_disown] at disowned
      split at disowned
      · cases disowned
      · next still =>
        exact still (releasable_of_mem ((owned_iff handle).1 disowned))

theorem bySession_release (turn : Turn τ κ) (session : SessionId)
    (requested : HandleSet) (reportKeys : Bool) :
    (turn.release session requested reportKeys).2.sink.registry.bySession =
      turn.sink.registry.bySession := by
  obtain untouched | ⟨switch, prepared, something⟩ := turn.release_cases session requested
  · rw [untouched]
  · obtain ⟨counter, capturing, equal⟩ := sink_release prepared something reportKeys
    rw [equal]
    rfl

theorem mem_outbox_release (turn : Turn τ κ) (session : SessionId)
    (requested : HandleSet) (reportKeys : Bool) (tested : SessionId) :
    tested ∈ (turn.release session requested reportKeys).2.sink.outbox ↔
      tested ∈ turn.sink.outbox := by
  obtain untouched | ⟨switch, prepared, something⟩ := turn.release_cases session requested
  · rw [untouched]
  · obtain ⟨counter, capturing, equal⟩ := sink_release prepared something reportKeys
    rw [equal]
    exact mem_outbox_disown turn session switch _ reportKeys tested

/-- Where nothing is reported, the registry is not looked at. -/
theorem release_withRegistry (turn : Turn τ κ) (session : SessionId)
    (requested : HandleSet) (registry : Registry) :
    (turn.withRegistry registry).release session requested false =
      ((turn.release session requested false).1,
        (turn.release session requested false).2.withRegistry registry) := by
  have idle (turn : Turn τ κ) :
      (turn.withRegistry registry).stopIfIdle = turn.stopIfIdle.withRegistry registry := by
    unfold stopIfIdle
    by_cases stops : (turn.sink.owners.isEmpty && turn.sink.capturing) = true
    · rw [if_pos stops]
      exact if_pos stops
    · rw [if_neg stops]
      exact if_neg stops
  cases prepared : turn.sink.switches[session]? with
  | none =>
      have same : (turn.withRegistry registry).sink.switches[session]? = none := prepared
      rw [release_of_absent prepared, release_of_absent same]
  | some switch =>
      have same : (turn.withRegistry registry).sink.switches[session]? = some switch :=
        prepared
      cases something : (releasable switch requested).isEmpty with
      | true =>
          rw [release_of_isEmpty prepared something, release_of_isEmpty same something]
      | false =>
          rw [release_silently prepared something, release_silently same something]
          exact congrArg _ (idle (turn.disown session switch _ false))

/-- A session is forgotten. -/
def vacate (turn : Turn τ κ) (session : SessionId) : Turn τ κ :=
  { turn with
    sink :=
      { turn.sink with
        switches := turn.sink.switches.erase session
        outbox := turn.sink.outbox.erase session } }

theorem onUnprepare_of_prepared {turn : Turn τ κ} {session : SessionId} {switch : Switch}
    (prepared : turn.sink.switches[session]? = some switch) (via : Via) :
    turn.onUnprepare session via =
      let released := (turn.release session (HandleSet.ofKeys switch.handles) true).2
      ((released.flushSession session).vacate session).answer session via
        (.unprepared Status.ok) := by
  unfold onUnprepare
  rw [prepared]
  rfl

/-! ## Channels that are gone -/

/-- A turn without the events that wait for a session. -/
def quiet (turn : Turn τ κ) (session : SessionId) : Turn τ κ :=
  { turn with sink := { turn.sink with outbox := turn.sink.outbox.erase session } }

theorem closed_of_unprepared {turn : Turn τ κ} {session : SessionId}
    (unprepared : turn.sink.switches[session]? = none) :
    turn.closed session =
      (turn.quiet session).withRegistry (turn.sink.registry.closed session).2 := by
  unfold closed
  dsimp only
  rw [unprepared]
  rfl

/-- Nothing is sent, so the release is the same under the registry of before. -/
theorem closed_of_prepared {turn : Turn τ κ} {session : SessionId} {switch : Switch}
    (prepared : turn.sink.switches[session]? = some switch) :
    turn.closed session =
      let released :=
        ((turn.quiet session).release session (HandleSet.ofKeys switch.handles) false).2
      let parted := released.withRegistry (turn.sink.registry.closed session).2
      { parted with
        sink := { parted.sink with switches := released.sink.switches.erase session } } := by
  have silent :=
    release_withRegistry (turn.quiet session) session (HandleSet.ofKeys switch.handles)
      (turn.sink.registry.closed session).2
  unfold closed
  dsimp only
  rw [prepared]
  exact congrArg
    (fun outcome : HandleSet × Turn τ κ =>
      { outcome.2 with
        sink :=
          { outcome.2.sink with switches := outcome.2.sink.switches.erase session } })
    silent

end Releasing

end Turn

end InputSharing.Sink
