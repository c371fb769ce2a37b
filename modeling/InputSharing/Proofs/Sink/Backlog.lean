import InputSharing.Network.Reaction
import InputSharing.Proofs.Backlog
import InputSharing.Proofs.Sink.Parts

/-!
# What a sink leaves to be done

A sink keeps the captured events that it has put aside, and its hardware those that it
has captured.  A batch goes out in one frame that weighs no more than the events in it, so
sending what waits makes the backlog lighter.  What a sink does about an event is paid for
by the weight of the event.
-/

namespace InputSharing.Sink

/-- What a sink keeps beside the hub, with the events that nobody has taken from its hardware. -/
def burden (sink : Sink) (hardware : Hardware) : Nat := sink.load + 5 * hardware.captured.length

/-- The weight of the events that wait for one session. -/
def weightAside (entry : SessionId × List InputEvent) : Nat := 3 * entry.2.length

/-- The weight of an answer. -/
def Via.weight : Via → Nat
  | direct => 3
  | relayed _ => 5

theorem Via.weight_message (via : Via) (device : DeviceId) (reply : Reply) :
    (via.message device reply).weight = via.weight := by
  cases via with
  | direct => rfl
  | relayed token => rfl

namespace Turn

open Hub (Port)

def backlog (turn : Turn (Port Parcel) Hardware) : Backlog :=
  ⟨turn.line.hub, turn.sink.burden turn.collector⟩

open Backlog (Shifts)

variable (turn : Turn (Port Parcel) Hardware)

/-- The outbox has changed, and nothing else. -/
def withOutbox {τ κ : Type} (turn : Turn τ κ) (outbox : Table SessionId (List InputEvent)) :
    Turn τ κ :=
  { turn with sink := { turn.sink with outbox } }

theorem shifts_withOutbox {outbox : Table SessionId (List InputEvent)} {change : Int}
    (weights :
      (weigh weightAside outbox.toList : Int) ≤
        weigh weightAside turn.sink.outbox.toList + change) :
    Shifts change turn.backlog (turn.withOutbox outbox).backlog := by
  refine .of_kept rfl ?_
  change
    ((weigh weightAside outbox.toList + 5 * turn.collector.captured.length : Nat) : Int) ≤
      ((weigh weightAside turn.sink.outbox.toList + 5 * turn.collector.captured.length : Nat) :
        Int) + change
  omega

/-! ## Sending -/

theorem shifts_post (session : SessionId) (message : Message) :
    Shifts (message.weight + 1) turn.backlog (turn.post session message).backlog := by
  let channels : Channels (Port Parcel) := ⟨turn.sink.registry, turn.line⟩
  let sequence := turn.sink.registry.counter.next.1
  have sent :
      (turn.post session message).backlog =
        ⟨(turn.line.hub.transmit turn.line.here session (.composed sequence message)).2,
          turn.sink.burden turn.collector⟩ := by
    have hub := congrArg Port.hub (channels.line_send session message)
    exact congrArg (fun hub => (⟨hub, turn.sink.burden turn.collector⟩ : Backlog)) hub
  rw [sent]
  exact Backlog.shifts_transmit turn.line.hub _ _ session (.composed sequence message)

theorem shifts_answer (session : SessionId) (via : Via) (reply : Reply) :
    Shifts (via.weight + 1) turn.backlog (turn.answer session via reply).backlog := by
  have sent := turn.shifts_post session (via.message turn.sink.device reply)
  rw [via.weight_message] at sent
  exact sent

/-- The events that go out pay for their frame, and one of them is saved. -/
theorem shifts_flushSession_of_waiting {session : SessionId} {first : InputEvent}
    {rest : List InputEvent} (waits : turn.sink.outbox[session]? = some (first :: rest)) :
    Shifts (-1) turn.backlog (turn.flushSession session).backlog := by
  let emptied := turn.withOutbox (turn.sink.outbox.insert session [])
  have freed : Shifts (-(3 * (rest.length + 1))) turn.backlog emptied.backlog := by
    have replaced := Table.weigh_insert weightAside waits []
    simp only [weightAside, List.length_cons, List.length_nil] at replaced
    exact turn.shifts_withOutbox (by omega)
  have sent := emptied.shifts_post session (.inputEvents turn.sink.device (first :: rest))
  have flushed : Shifts (-(3 * (rest.length + 1)) + 2) turn.backlog
      (emptied.post session (.inputEvents turn.sink.device (first :: rest))).backlog :=
    freed.trans sent
  rw [flushSession, waits]
  exact flushed.mono (by omega)

theorem shifts_flushSession (session : SessionId) :
    Shifts 0 turn.backlog (turn.flushSession session).backlog := by
  cases waits : turn.sink.outbox[session]? with
  | none =>
      rw [flushSession, waits]
      exact .refl _
  | some events =>
      cases events with
      | nil =>
          rw [flushSession, waits]
          exact .refl _
      | cons first rest => exact (turn.shifts_flushSession_of_waiting waits).mono (by omega)

theorem shifts_flushAll (sessions : List SessionId) :
    Shifts 0 turn.backlog (sessions.foldl flushSession turn).backlog :=
  (Shifts.foldl shifts_flushSession sessions turn).mono (by omega)

/-- What another session is sent leaves alone what waits for a session. -/
theorem outbox_flushSession_of_ne {session other : SessionId} (different : other ≠ session) :
    (turn.flushSession other).sink.outbox[session]? = turn.sink.outbox[session]? := by
  obtain ⟨counter, line, sent⟩ := sent_flushSession turn other
  rw [sent]
  exact (Table.getElem?_modify_eq _ _ _ _).trans (if_neg different)

/-- A flush in which something goes out makes the backlog lighter. -/
theorem shifts_flushAll_of_waiting {sessions : List SessionId} {session : SessionId}
    (listed : session ∈ sessions) {first : InputEvent} {rest : List InputEvent}
    (waits : turn.sink.outbox[session]? = some (first :: rest)) :
    Shifts (-1) turn.backlog (sessions.foldl flushSession turn).backlog := by
  -- Until its turn comes, what waits for the session stays where it is.
  induction sessions generalizing turn with
  | nil => cases listed
  | cons next others inductionHypothesis =>
      by_cases here : next = session
      · subst here
        have flushed := turn.shifts_flushSession_of_waiting waits
        exact (flushed.trans ((turn.flushSession next).shifts_flushAll others)).mono (by omega)
      · have later := (List.mem_cons.1 listed).resolve_left fun same => here same.symm
        have still := (turn.outbox_flushSession_of_ne here).trans waits
        have flushed := inductionHypothesis (turn.flushSession next) later still
        exact ((turn.shifts_flushSession next).trans flushed).mono (by omega)

theorem shifts_flush_of_waiting {session : SessionId} {first : InputEvent}
    {rest : List InputEvent} (waits : turn.sink.outbox[session]? = some (first :: rest)) :
    Shifts (-1) turn.backlog turn.flush.backlog :=
  turn.shifts_flushAll_of_waiting (Std.ExtTreeMap.mem_keys.2 (Table.mem_of_getElem? waits)) waits

/-- Where nothing waits, nothing is sent. -/
theorem flush_of_empty
    (empty :
      ∀ (session : SessionId) (events : List InputEvent),
        turn.sink.outbox[session]? = some events → events = []) :
    turn.flush = turn := by
  have still (session : SessionId) : turn.flushSession session = turn := by
    unfold flushSession
    split
    · rfl
    · rfl
    · next first rest waits => cases empty session _ waits
  rw [flush]
  induction turn.sink.outbox.keys with
  | nil => rfl
  | cons first rest inductionHypothesis =>
      rw [List.foldl_cons, still]
      exact inductionHypothesis

theorem shifts_captured (event : InputEvent) :
    Shifts 3 turn.backlog (turn.captured event).2.backlog := by
  have collected (session : SessionId) :
      Shifts 3 turn.backlog (turn.collect session event).backlog := by
    apply turn.shifts_withOutbox
    cases found : turn.sink.outbox[session]? with
    | none =>
        have entered := Table.weigh_insert_of_unknown weightAside found [event]
        exact Int.le_of_eq (congrArg Int.ofNat entered)
    | some events =>
        have replaced := Table.weigh_insert weightAside found (events ++ [event])
        simp only [weightAside, List.length_append, List.length_singleton] at replaced
        rw [Option.getD_some]
        omega
  rcases turn.captured_cases event with stays | ⟨session, _, goes⟩
  · rw [stays]
    exact (Shifts.refl _).mono (by omega)
  · rw [goes]
    dsimp only
    split
    · exact ((collected session).trans (shifts_flushSession _ session)).mono (by omega)
    · exact collected session

/-! ## Ownership -/

theorem shifts_reportHeldKeys (session : SessionId) (handles : HandleSet) :
    Shifts 2 turn.backlog (turn.reportHeldKeys session handles).backlog := by
  unfold reportHeldKeys
  split
  · exact (Shifts.refl _).mono (by omega)
  · next key _ => exact turn.shifts_post session (.keyState turn.sink.device key)
  · exact turn.shifts_post session (.keyStates turn.sink.device _)

/-- Hardware keeps what it has captured when it is started. -/
theorem shifts_ensureCapture : Shifts 0 turn.backlog turn.ensureCapture.2.backlog := by
  have captured : turn.collector.start.2.captured = turn.collector.captured := by
    rw [Hardware.start]
    split
    · rfl
    · rfl
  have same :
      (⟨turn.line.hub, turn.sink.burden turn.collector.start.2⟩ : Backlog) = turn.backlog :=
    congrArg
      (fun events : List InputEvent =>
        (⟨turn.line.hub, turn.sink.load + 5 * events.length⟩ : Backlog))
      captured
  unfold ensureCapture
  split
  · exact .refl _
  · rcases started : turn.collector.start with ⟨error | _, hardware⟩
    · have starts : Collector.startCapture turn.collector = (.error error, hardware) := started
      rw [started] at same
      rw [starts, ← same]
      exact .refl _
    · have starts : Collector.startCapture turn.collector = (.ok (), hardware) := started
      rw [started] at same
      rw [starts, ← same]
      exact .refl _

theorem shifts_grant (session : SessionId) (candidates : Table HandleId TypeMask) :
    Shifts 0 turn.backlog (turn.grant session candidates).2.backlog := by
  cases prepared : turn.sink.switches[session]? with
  | none =>
      rw [grant_of_absent prepared]
      exact .refl _
  | some switch =>
      have captures := turn.shifts_ensureCapture
      rw [grant_of_prepared prepared]
      split
      · exact .refl _
      · rcases ensured : turn.ensureCapture with ⟨error | _, after⟩
        · rw [ensured] at captures
          exact captures
        · rw [ensured] at captures
          exact captures

theorem shifts_stopIfIdle : Shifts 0 turn.backlog turn.stopIfIdle.backlog := by
  rw [stopIfIdle]
  split
  · exact .of_kept rfl (Int.le_of_eq (Int.add_zero _).symm)
  · exact .refl _

/-- No event of the handles waits any longer. -/
theorem shifts_clear (session : SessionId) (released : HandleSet) :
    Shifts 0 turn.backlog (turn.clear session released).backlog := by
  let left (events : List InputEvent) : List InputEvent :=
    events.filter fun event => event.handle ∉ released
  have fewer (events : List InputEvent) : 3 * (left events).length ≤ 3 * events.length :=
    Nat.mul_le_mul_left 3 (List.length_filter_le _ events)
  have lighter :
      weigh weightAside (turn.sink.outbox.modify session left).toList ≤
        weigh weightAside turn.sink.outbox.toList :=
    Table.weigh_modify_le _ turn.sink.outbox fewer
  have cleared :
      Shifts 0 turn.backlog (turn.withOutbox (turn.sink.outbox.modify session left)).backlog :=
    turn.shifts_withOutbox (by omega)
  exact cleared

/-- Nothing waits for a session any longer. -/
theorem shifts_quiet (session : SessionId) :
    Shifts 0 turn.backlog (turn.quiet session).backlog := by
  have lighter := Table.weigh_erase_le weightAside turn.sink.outbox session
  exact turn.shifts_withOutbox (by omega)

/-- Taking handles back costs no more than a report of the keys that are held. -/
theorem shifts_release (session : SessionId) (requested : HandleSet) (reportKeys : Bool) :
    Shifts (if reportKeys then 2 else 0) turn.backlog
      (turn.release session requested reportKeys).2.backlog := by
  have nothing : Shifts (if reportKeys then 2 else 0) turn.backlog turn.backlog := by
    cases reportKeys with
    | true => exact (Shifts.refl _).mono (by omega)
    | false => exact .refl _
  obtain untouched | ⟨switch, prepared, something⟩ := turn.release_cases session requested
  · rw [untouched]
    exact nothing
  · let released := releasable switch requested
    let lowered := turn.lower session switch released
    have dismissed : Shifts (if reportKeys then 2 else 0) turn.backlog
        (lowered.dismiss session released reportKeys).backlog := by
      cases reportKeys with
      | true =>
          exact (lowered.shifts_flushSession session).trans
            (shifts_reportHeldKeys _ session released)
      | false => exact .refl _
    rw [release_of_owned prepared something]
    have cleared := dismissed.trans (shifts_clear _ session released)
    exact (cleared.trans (shifts_stopIfIdle _)).mono (by omega)

theorem shifts_closed (session : SessionId) :
    Shifts 0 turn.backlog (turn.closed session).backlog := by
  have quiet := turn.shifts_quiet session
  cases prepared : turn.sink.switches[session]? with
  | none =>
      rw [closed_of_unprepared prepared]
      exact quiet
  | some switch =>
      rw [closed_of_prepared prepared]
      exact quiet.trans (shifts_release _ session (HandleSet.ofKeys switch.handles) false)

/-! ## Requests -/

section Requests

variable (session : SessionId) (via : Via)

theorem shifts_onPrepare :
    Shifts (via.weight + 3) turn.backlog (turn.onPrepare session via).backlog := by
  rw [onPrepare]
  split
  · exact (Shifts.refl _).mono (by omega)
  · next peer _ =>
    let prepared : Turn (Port Parcel) Hardware :=
      { turn with
        sink := { turn.sink with switches := turn.sink.switches.insertIfNew session { peer } } }
    have answered :=
      prepared.shifts_answer session via (.prepared Status.ok turn.sink.allowList)
    exact answered.mono (by omega)

theorem shifts_onUnprepare :
    Shifts (via.weight + 3) turn.backlog (turn.onUnprepare session via).backlog := by
  rw [onUnprepare]
  split
  · exact (turn.shifts_answer session via _).mono (by omega)
  · next switch _ =>
    let released := (turn.release session (HandleSet.ofKeys switch.handles) true).2
    let flushed := released.flushSession session
    let gone : Turn (Port Parcel) Hardware :=
      { flushed with
        sink :=
          { flushed.sink with
            switches := flushed.sink.switches.erase session
            outbox := flushed.sink.outbox.erase session } }
    have silenced : Shifts 2 turn.backlog gone.backlog :=
      ((turn.shifts_release session (HandleSet.ofKeys switch.handles) true).trans
        (released.shifts_flushSession session)).trans (flushed.shifts_quiet session)
    exact (silenced.trans (gone.shifts_answer session via (.unprepared Status.ok))).mono (by omega)

theorem shifts_onStartByType (types : TypeMask) :
    Shifts (via.weight + 3) turn.backlog (turn.onStartByType session via types).backlog := by
  obtain ⟨candidates, status, granted, starts⟩ := turn.onStartByType_eq session types
  rw [starts]
  have given := turn.shifts_grant session candidates
  exact (given.trans (shifts_answer _ session via _)).mono (by omega)

theorem shifts_onStartByHandles (handles : HandleSet) :
    Shifts (via.weight + 3) turn.backlog (turn.onStartByHandles session via handles).backlog := by
  obtain ⟨candidates, status, granted, starts⟩ := turn.onStartByHandles_eq session handles
  rw [starts]
  have given := turn.shifts_grant session candidates
  exact (given.trans (shifts_answer _ session via _)).mono (by omega)

theorem shifts_onStopByType (types : TypeMask) :
    Shifts (via.weight + 3) turn.backlog (turn.onStopByType session via types).backlog := by
  unfold onStopByType
  split
  · exact (turn.shifts_answer session via _).mono (by omega)
  · next switch _ =>
    let left := switch.handles.map fun _ owned => owned \ types
    let touched := switch.handles.filter fun _ owned => owned.intersects types
    let emptied := HandleSet.ofKeys (touched.filter fun _ owned => (owned \ types).isEmpty)
    let lowered : Turn (Port Parcel) Hardware :=
      { turn with
        sink :=
          { turn.sink with
            switches := turn.sink.switches.insert session { switch with handles := left } } }
    have released : Shifts 2 turn.backlog (lowered.release session emptied true).2.backlog :=
      lowered.shifts_release session emptied true
    exact (released.trans (shifts_answer _ session via _)).mono (by omega)

theorem shifts_onStopByHandles (handles : HandleSet) :
    Shifts (via.weight + 3) turn.backlog (turn.onStopByHandles session via handles).backlog := by
  unfold onStopByHandles
  split
  · exact (turn.shifts_answer session via _).mono (by omega)
  · have released := turn.shifts_release session handles true
    exact (released.trans (shifts_answer _ session via _)).mono (by omega)

/-- A report of held keys and an answer cost less than the request. -/
theorem shifts_serve (request : Request) :
    Shifts (via.weight + 3) turn.backlog (turn.serve session via request).backlog := by
  cases request with
  | prepare => exact turn.shifts_onPrepare session via
  | unprepare => exact turn.shifts_onUnprepare session via
  | startByType types => exact turn.shifts_onStartByType session via types
  | stopByType types => exact turn.shifts_onStopByType session via types
  | startByHandles handles => exact turn.shifts_onStartByHandles session via handles
  | stopByHandles handles => exact turn.shifts_onStopByHandles session via handles

end Requests

/-! ## Everything that a sink reacts to -/

theorem shifts_handle (session : SessionId) (message : Message) :
    Shifts (message.weight - 1) turn.backlog (turn.handle session message).backlog := by
  have pays := message.one_le_weight
  cases message with
  | request named request => exact turn.shifts_serve session .direct request
  | relayed token named request => exact turn.shifts_serve session (.relayed token) request
  | latencyProbe named sentAtUs =>
      exact turn.shifts_post session (.latencyEcho turn.sink.device sentAtUs)
  | _ => exact (Shifts.refl _).mono (by omega)

/-- The weight of an event pays for everything that it brings about. -/
theorem shifts_react (event : SinkEvent) :
    Shifts (event.weight - 1) turn.backlog (event.react turn).backlog := by
  cases event with
  | captured event => exact turn.shifts_captured event
  | listen => exact .refl _
  | transport event =>
      cases event with
      | opened session peer => exact .refl _
      | closed session => exact turn.shifts_closed session
      | frame session parcel =>
          have pays := parcel.one_le_weight
          have nothing : Shifts (parcel.weight - 1) turn.backlog turn.backlog :=
            (Shifts.refl _).mono (by omega)
          change Shifts (parcel.weight - 1) _ _
          rw [SinkEvent.react, Dispatched.dispatch]
          split
          · exact nothing
          · next sequence message reads =>
            have lighter := Parcel.weight_of_read reads
            split
            · exact (turn.shifts_handle session message).mono (by omega)
            · exact nothing

end Turn

end InputSharing.Sink
