import InputSharing.Proofs.Sink.Books
import InputSharing.Proofs.Sink.History
import InputSharing.Proofs.Sink.Keys

/-!
# Batches

A sink sends events in batches.  What a session was sent, followed by what waits for it,
is what is `destined` for it.  A reaction that `Spools` changes nothing about this, and
all of them do, but for a captured event, which comes last, and for the end of a channel,
with which what waits is lost.

An event waits only for the owner of its handle.  For this, what waits has to be sent
before a handle is taken back; then there is nothing left that would have to be
dropped.
-/

namespace InputSharing

/-! ## What is sent and what waits -/

def Message.batch? : Message → Option (List InputEvent)
  | .inputEvents _ events => some events
  | _ => none

/-- The batch of events that was given to the transport for a session. -/
def Deed.batch? (session : SessionId) : Deed → Option (List InputEvent)
  | .transmitted carrier (.composed _ message) _ =>
      if carrier = session then message.batch? else none
  | _ => none

namespace Sink

namespace Turn

variable {τ κ : Type}

/-- The batches that a session was sent, the first one first. -/
def batches (turn : Turn (Recorded τ) κ) (session : SessionId) : List (List InputEvent) :=
  turn.line.deeds.filterMap (Deed.batch? session)

/-- The events that a session was sent, and then those that wait for it. -/
def destined (turn : Turn (Recorded τ) κ) (session : SessionId) : List InputEvent :=
  (turn.batches session).flatten ++ turn.sink.aside session

/-- Batches have their size, fewer events wait than make a batch, and each of them waits
for the owner of its handle. -/
structure Neat (limit : Nat) (turn : Turn (Recorded τ) κ) : Prop where
  limit_eq : turn.sink.batchLimit = limit
  batch_sized : ∀ session, ∀ batch ∈ turn.batches session,
    1 ≤ batch.length ∧ batch.length ≤ limit
  aside_short : ∀ session, (turn.sink.aside session).length < limit
  aside_owned : ∀ session, ∀ event ∈ turn.sink.aside session,
    turn.sink.owners[event.handle]? = some session

/-- A reaction opens and closes nothing, and sends events, but neither loses nor adds any. -/
structure Spools (before after : Turn (Recorded τ) κ) : Prop where
  bySession_eq : after.sink.registry.bySession = before.sink.registry.bySession
  destined_eq : ∀ session, after.destined session = before.destined session
  neat : ∀ limit, before.Neat limit → after.Neat limit

namespace Spools

variable {before middle after : Turn (Recorded τ) κ}

/-- Nothing is sent, what waits goes on waiting, and the owners of its handles stay. -/
theorem of_same
    (bySession : after.sink.registry.bySession = before.sink.registry.bySession)
    (batches : ∀ session, after.batches session = before.batches session)
    (aside : ∀ session, after.sink.aside session = before.sink.aside session)
    (limit : after.sink.batchLimit = before.sink.batchLimit)
    (owners : ∀ session, ∀ event ∈ before.sink.aside session,
      before.sink.owners[event.handle]? = some session →
        after.sink.owners[event.handle]? = some session) : Spools before after where
  bySession_eq := bySession
  destined_eq := by
    intro session
    rw [destined, destined, batches, aside]
  neat := by
    intro bound neat
    refine ⟨limit.trans neat.limit_eq, ?_, ?_, ?_⟩
    · intro session
      rw [batches]
      exact neat.batch_sized session
    · intro session
      rw [aside]
      exact neat.aside_short session
    · intro session event waits
      rw [aside] at waits
      exact owners session event waits (neat.aside_owned session event waits)

theorem refl (turn : Turn (Recorded τ) κ) : Spools turn turn :=
  of_same rfl (fun _ => rfl) (fun _ => rfl) rfl fun _ _ _ owned => owned

theorem trans (first : Spools before middle) (second : Spools middle after) :
    Spools before after where
  bySession_eq := second.bySession_eq.trans first.bySession_eq
  destined_eq := fun session => (second.destined_eq session).trans (first.destined_eq session)
  neat := fun limit neat => second.neat limit (first.neat limit neat)

end Spools

/-! ## Sending -/

section Sending

variable [Transport τ] (turn : Turn (Recorded τ) κ)

theorem batches_post (session tested : SessionId) (message : Message) :
    (turn.post session message).batches tested =
      turn.batches tested ++ if session = tested then message.batch?.toList else [] := by
  obtain ⟨sequence, answer, deeds⟩ := turn.deeds_post session message
  have last : Deed.batch? tested (.transmitted session (.composed sequence message) answer) =
      if session = tested then message.batch? else none :=
    rfl
  rw [batches, deeds, List.filterMap_append, List.filterMap_cons, List.filterMap_nil, last]
  congr 1
  by_cases same : session = tested
  · rw [if_pos same, if_pos same]
    cases message.batch? with
    | none => rfl
    | some events => rfl
  · rw [if_neg same, if_neg same]

theorem spools_post (session : SessionId) {message : Message} (plain : message.batch? = none) :
    Spools turn (turn.post session message) := by
  have batches (tested : SessionId) :
      (turn.post session message).batches tested = turn.batches tested := by
    rw [batches_post, plain]
    split
    · exact List.append_nil _
    · exact List.append_nil _
  obtain ⟨counter, line, sent⟩ := turn.sent_post session message
  rw [sent] at batches ⊢
  exact .of_same rfl batches (fun _ => rfl) rfl fun _ _ _ owned => owned

/-- What waits for a session is sent to it in one batch. -/
theorem batches_flushSession (session tested : SessionId) :
    (turn.flushSession session).batches tested =
      turn.batches tested ++
        if session = tested ∧ turn.sink.aside session ≠ [] then [turn.sink.aside session]
        else [] := by
  unfold flushSession
  split
  · next absent =>
    have nothing : turn.sink.aside session = [] := by rw [aside, absent]; rfl
    rw [if_neg fun both => both.2 nothing, List.append_nil]
  · next empty =>
    have nothing : turn.sink.aside session = [] := by rw [aside, empty]; rfl
    rw [if_neg fun both => both.2 nothing, List.append_nil]
  · next first rest waits =>
    have something : turn.sink.aside session = first :: rest := by rw [aside, waits]; rfl
    rw [batches_post, something]
    simp only [ne_eq, reduceCtorEq, not_false_eq_true, and_true]
    rfl

theorem aside_flushSession (session tested : SessionId) :
    (turn.flushSession session).sink.aside tested =
      if session = tested then [] else turn.sink.aside tested := by
  obtain ⟨counter, line, sent⟩ := turn.sent_flushSession session
  rw [sent]
  exact aside_modify turn.sink session tested (fun _ => []) rfl

/-- A batch may be as long as the sink was told. -/
theorem Neat.of_flushed {limit : Nat} (session : SessionId)
    (bound : turn.sink.batchLimit = limit)
    (sized : ∀ tested, ∀ batch ∈ turn.batches tested, 1 ≤ batch.length ∧ batch.length ≤ limit)
    (full : (turn.sink.aside session).length ≤ limit)
    (short : ∀ tested, session ≠ tested → (turn.sink.aside tested).length < limit)
    (positive : 0 < limit)
    (owned : ∀ tested, ∀ event ∈ turn.sink.aside tested,
      turn.sink.owners[event.handle]? = some tested) :
    (turn.flushSession session).Neat limit where
  limit_eq := by
    obtain ⟨counter, line, sent⟩ := turn.sent_flushSession session
    rw [sent]
    exact bound
  batch_sized := by
    intro tested batch listed
    rw [batches_flushSession] at listed
    rcases List.mem_append.1 listed with earlier | last
    · exact sized tested batch earlier
    · split at last
      · next waits =>
        rw [List.mem_singleton.1 last]
        exact ⟨List.length_pos_iff.2 waits.2, full⟩
      · cases last
  aside_short := by
    intro tested
    rw [aside_flushSession]
    split
    · exact positive
    · next other => exact short tested other
  aside_owned := by
    intro tested event waits
    rw [aside_flushSession] at waits
    rw [owners_flushSession]
    split at waits
    · cases waits
    · exact owned tested event waits

theorem destined_flushSession (session tested : SessionId) :
    (turn.flushSession session).destined tested = turn.destined tested := by
  rw [destined, batches_flushSession, aside_flushSession, destined]
  by_cases same : session = tested
  · subst same
    rw [if_pos rfl]
    by_cases nothing : turn.sink.aside session = []
    · rw [if_neg fun both => both.2 nothing, nothing, List.append_nil, List.append_nil,
        List.append_nil]
    · rw [if_pos ⟨rfl, nothing⟩, List.flatten_append, List.flatten_singleton, List.append_nil]
  · rw [if_neg fun both => same both.1, if_neg same, List.append_nil]

theorem spools_flushSession (session : SessionId) : Spools turn (turn.flushSession session) where
  bySession_eq := by
    obtain ⟨counter, line, sent⟩ := turn.sent_flushSession session
    rw [sent]
  destined_eq := turn.destined_flushSession session
  neat := by
    intro limit neat
    exact .of_flushed turn session neat.limit_eq neat.batch_sized
      (Nat.le_of_lt (neat.aside_short session)) (fun tested _ => neat.aside_short tested)
      (Nat.zero_lt_of_lt (neat.aside_short session)) neat.aside_owned

theorem spools_flush : Spools turn turn.flush := by
  rw [flush]
  generalize turn.sink.outbox.keys = sessions
  induction sessions generalizing turn with
  | nil =>
      exact Spools.refl turn
  | cons session rest inductionHypothesis =>
      exact (turn.spools_flushSession session).trans (inductionHypothesis _)

end Sending

/-! ## Ownership -/

section Ownership

variable (turn : Turn (Recorded τ) κ)

/-- What a session is granted was its own or nobody's. -/
theorem spools_own {session : SessionId} (switch : Switch) {granted : Table HandleId TypeMask}
    (free : ∀ handle ∈ granted, ∀ owner,
      turn.sink.owners[handle]? = some owner → owner = session) :
    Spools turn (turn.own session switch granted) := by
  refine .of_same rfl (fun _ => rfl) (fun _ => rfl) rfl ?_
  intro tested event _ owned
  rw [owners_own]
  split
  · next gained => rw [free event.handle gained.1 tested owned]
  · exact owned

/-- Nothing has to be dropped when handles are taken back from a session for which nothing
waits. -/
theorem spools_clear {session : SessionId} {released : HandleSet}
    (empty : turn.sink.aside session = [])
    (mine : ∀ handle ∈ released, turn.sink.owners[handle]? = some session) :
    Spools turn (turn.clear session released) := by
  have aside (tested : SessionId) :
      (turn.clear session released).sink.aside tested = turn.sink.aside tested := by
    refine (aside_modify turn.sink session tested _ rfl).trans ?_
    split
    · next same => rw [← same, empty, List.filter_nil]
    · rfl
  refine .of_same rfl (fun _ => rfl) aside rfl ?_
  intro tested event waits owned
  have kept : event.handle ∉ released := by
    intro gone
    have same := Option.some.inj (owned.symm.trans (mine event.handle gone))
    rw [same, empty] at waits
    cases waits
  change (turn.sink.owners.filter fun handle _ => handle ∉ released)[event.handle]? = _
  rw [Std.ExtTreeMap.getElem?_filter', owned]
  simp [kept]

variable [Collector κ]

theorem spools_stopIfIdle : Spools turn turn.stopIfIdle := by
  unfold stopIfIdle
  split
  · exact .of_same rfl (fun _ => rfl) (fun _ => rfl) rfl fun _ _ _ owned => owned
  · exact Spools.refl turn

theorem spools_grant (session : SessionId) (candidates : Table HandleId TypeMask) :
    Spools turn (turn.grant session candidates).2 := by
  obtain ⟨capturing, collector, granted⟩ := turn.grant_cases session candidates
  let begun : Turn (Recorded τ) κ :=
    { turn with sink := { turn.sink with capturing }, collector }
  have still : Spools turn begun :=
    .of_same rfl (fun _ => rfl) (fun _ => rfl) rfl fun _ _ _ owned => owned
  obtain refused | ⟨switch, _, given⟩ := granted
  · rw [refused]
    exact still
  · rw [given]
    exact still.trans
      (begun.spools_own switch fun handle member => turn.owner_of_available session member)

variable [Transport τ]

theorem spools_reportHeldKeys (session : SessionId) (handles : HandleSet) :
    Spools turn (turn.reportHeldKeys session handles) := by
  unfold reportHeldKeys
  split
  · exact Spools.refl turn
  · exact turn.spools_post session rfl
  · exact turn.spools_post session rfl

/-- Handles are taken back from a session after it was sent what waits for it, or when
nothing does. -/
theorem spools_release (books : Books turn.sink) (session : SessionId) (requested : HandleSet)
    (reportKeys : Bool) (empty : reportKeys = false → turn.sink.aside session = []) :
    Spools turn (turn.release session requested reportKeys).2 := by
  obtain untouched | ⟨switch, prepared, something⟩ := turn.release_cases session requested
  · rw [untouched]
    exact Spools.refl turn
  · rw [release_of_owned prepared something]
    let released := releasable switch requested
    let taken := turn.lower session switch released
    have lowered : Spools turn taken :=
      .of_same rfl (fun _ => rfl) (fun _ => rfl) rfl fun _ _ _ owned => owned
    have mine (handle : HandleId) (member : handle ∈ released) :
        turn.sink.owners[handle]? = some session :=
      (books.owned_iff prepared handle).2 (mem_releasable.1 member).1
    have parts : Spools taken (taken.dismiss session released reportKeys) ∧
        (taken.dismiss session released reportKeys).sink.aside session = [] ∧
        (taken.dismiss session released reportKeys).sink.owners = turn.sink.owners := by
      cases reportKeys with
      | false => exact ⟨Spools.refl taken, empty rfl, rfl⟩
      | true =>
        have sent := (sent_flushSession taken session).trans
          (sent_reportHeldKeys (taken.flushSession session) session released)
        refine ⟨(taken.spools_flushSession session).trans
          (spools_reportHeldKeys _ session released), aside_of_sent sent, ?_⟩
        obtain ⟨counter, line, equal⟩ := sent
        change ((taken.flushSession session).reportHeldKeys session released).sink.owners = _
        rw [equal]
        rfl
    obtain ⟨dismissed, gone, owners⟩ := parts
    have cleared := spools_clear _ gone fun handle member => owners ▸ mine handle member
    exact ((lowered.trans dismissed).trans cleared).trans (spools_stopIfIdle _)

/-! ## Messages -/

omit [Collector κ] in
theorem spools_answer (session : SessionId) (via : Via) (reply : Reply) :
    Spools turn (turn.answer session via reply) := by
  refine turn.spools_post session ?_
  cases via with
  | direct => rfl
  | relayed token => rfl

omit [Collector κ] in
theorem spools_onPrepare (session : SessionId) (via : Via) :
    Spools turn (turn.onPrepare session via) := by
  unfold onPrepare
  split
  · exact Spools.refl turn
  · next peer known =>
    let prepared : Turn (Recorded τ) κ :=
      { turn with
        sink := { turn.sink with switches := turn.sink.switches.insertIfNew session { peer } } }
    have entered : Spools turn prepared :=
      .of_same rfl (fun _ => rfl) (fun _ => rfl) rfl fun _ _ _ owned => owned
    exact entered.trans (prepared.spools_answer session via _)

/-- What waits is sent before it is forgotten. -/
theorem spools_onUnprepare (books : Books turn.sink) (session : SessionId) (via : Via) :
    Spools turn (turn.onUnprepare session via) := by
  unfold onUnprepare
  split
  · exact turn.spools_answer session via _
  · next switch prepared =>
    let flushed :=
      (turn.release session (HandleSet.ofKeys switch.handles) true).2.flushSession session
    have released :=
      turn.spools_release books session (HandleSet.ofKeys switch.handles) true nofun
    have left : Spools flushed (flushed.vacate session) := by
      refine .of_same rfl (fun _ => rfl) ?_ rfl fun _ _ _ owned => owned
      intro tested
      refine (aside_erase flushed.sink session tested).trans ?_
      split
      · next same =>
        rw [← same, aside_flushSession, if_pos rfl]
      · rfl
    exact ((released.trans (spools_flushSession _ session)).trans left).trans
      ((flushed.vacate session).spools_answer session via _)

theorem spools_onStartByType (session : SessionId) (via : Via) (types : TypeMask) :
    Spools turn (turn.onStartByType session via types) := by
  obtain ⟨candidates, status, granted, starts⟩ := turn.onStartByType_eq session types
  rw [starts]
  exact (turn.spools_grant session candidates).trans (spools_answer _ session via _)

theorem spools_onStartByHandles (session : SessionId) (via : Via) (handles : HandleSet) :
    Spools turn (turn.onStartByHandles session via handles) := by
  obtain ⟨candidates, status, granted, starts⟩ := turn.onStartByHandles_eq session handles
  rw [starts]
  exact (turn.spools_grant session candidates).trans (spools_answer _ session via _)

theorem spools_onStopByType (books : Books turn.sink) (session : SessionId) (via : Via)
    (types : TypeMask) : Spools turn (turn.onStopByType session via types) := by
  unfold onStopByType
  split
  · exact turn.spools_answer session via _
  · next switch prepared =>
    let left := switch.handles.map fun _ owned => owned \ types
    let lowered : Turn (Recorded τ) κ :=
      { turn with
        sink :=
          { turn.sink with
            switches := turn.sink.switches.insert session { switch with handles := left } } }
    have same : Spools turn lowered :=
      .of_same rfl (fun _ => rfl) (fun _ => rfl) rfl fun _ _ _ owned => owned
    have still : Books lowered.sink := by
      refine books.reclass prepared ?_
      intro handle
      exact Std.ExtTreeMap.mem_map
    exact (same.trans (lowered.spools_release still session _ true nofun)).trans
      (spools_answer _ session via _)

theorem spools_onStopByHandles (books : Books turn.sink) (session : SessionId) (via : Via)
    (handles : HandleSet) : Spools turn (turn.onStopByHandles session via handles) := by
  unfold onStopByHandles
  split
  · exact turn.spools_answer session via _
  · exact (turn.spools_release books session handles true nofun).trans
      (spools_answer _ session via _)

theorem spools_handle (books : Books turn.sink) (session : SessionId) (message : Message) :
    Spools turn (turn.handle session message) := by
  have serve (via : Via) (request : Request) :
      Spools turn (turn.serve session via request) := by
    cases request with
    | prepare => exact turn.spools_onPrepare session via
    | unprepare => exact turn.spools_onUnprepare books session via
    | startByType types => exact turn.spools_onStartByType session via types
    | stopByType types => exact turn.spools_onStopByType books session via types
    | startByHandles handles => exact turn.spools_onStartByHandles session via handles
    | stopByHandles handles => exact turn.spools_onStopByHandles books session via handles
  cases message with
  | request device request => exact serve .direct request
  | relayed token device request => exact serve (.relayed token) request
  | latencyProbe device sentAtUs => exact turn.spools_post session rfl
  | _ => exact Spools.refl turn

/-! ## The end of a channel -/

/-- What waits for a session is lost with its channel, and only this. -/
theorem spools_closed (books : Books turn.sink) (session : SessionId) :
    Spools ((turn.quiet session).withRegistry (turn.sink.registry.closed session).2)
      (turn.closed session) := by
  cases prepared : turn.sink.switches[session]? with
  | none =>
    rw [closed_of_unprepared prepared]
    exact Spools.refl _
  | some switch =>
    rw [closed_of_prepared prepared]
    have calm : Books (turn.quiet session).sink := by
      refine books.of_same rfl rfl rfl rfl ?_
      intro tested member
      exact ((Table.mem_erase_iff ..).1 member).2
    have nothing : (turn.quiet session).sink.aside session = [] :=
      (aside_erase turn.sink session session).trans (if_pos rfl)
    have released := (turn.quiet session).spools_release calm session
      (HandleSet.ofKeys switch.handles) false fun _ => nothing
    refine ⟨rfl, released.destined_eq, ?_⟩
    intro limit neat
    have after := released.neat limit
      ⟨neat.limit_eq, neat.batch_sized, neat.aside_short, neat.aside_owned⟩
    exact ⟨after.limit_eq, after.batch_sized, after.aside_short, after.aside_owned⟩

theorem destined_closed (books : Books turn.sink) (session tested : SessionId) :
    (turn.closed session).destined tested =
      if session = tested then (turn.batches session).flatten else turn.destined tested := by
  rw [(turn.spools_closed books session).destined_eq]
  change (turn.batches tested).flatten ++ (turn.quiet session).sink.aside tested = _
  rw [quiet, aside_erase]
  split
  · next same => rw [same, List.append_nil]
  · rfl

theorem Neat.closed {limit : Nat} {turn : Turn (Recorded τ) κ} (neat : turn.Neat limit)
    (books : Books turn.sink) (session : SessionId) : (turn.closed session).Neat limit := by
  have rest (tested : SessionId) :
      (turn.quiet session).sink.aside tested =
        if session = tested then [] else turn.sink.aside tested :=
    aside_erase turn.sink session tested
  apply (turn.spools_closed books session).neat limit
  refine ⟨neat.limit_eq, neat.batch_sized, ?_, ?_⟩
  · intro tested
    change ((turn.quiet session).sink.aside tested).length < limit
    rw [rest]
    split
    · exact Nat.zero_lt_of_lt (neat.aside_short session)
    · exact neat.aside_short tested
  · intro tested event waits
    change event ∈ (turn.quiet session).sink.aside tested at waits
    rw [rest] at waits
    split at waits
    · cases waits
    · exact neat.aside_owned tested event waits

/-! ## Captured events -/

section Capturing

omit [Collector κ]

/-- An event that goes out is put behind what waits for the owner of its handle. -/
theorem destined_captured (event : InputEvent) (tested : SessionId) :
    (turn.captured event).2.destined tested =
      turn.destined tested ++
        if (turn.capture event).channel? = some tested then [event] else [] := by
  rcases turn.captured_cases event with stays | ⟨session, owned, goes⟩
  · have unrouted : (turn.capture event).channel? = none := by
      rw [Capture.channel?, capture, stays]
    rw [stays, unrouted, if_neg nofun, List.append_nil]
  · have routed : (turn.capture event).channel? = some session := by
      rw [Capture.channel?, capture, goes]
      exact owned
    have collected : (turn.collect session event).destined tested =
        turn.destined tested ++ if session = tested then [event] else [] := by
      rw [destined, aside_collect, ← List.append_assoc]
      rfl
    rw [goes, routed]
    simp only [Option.some.injEq]
    rw [← collected]
    split
    · exact destined_flushSession _ session tested
    · rfl

theorem Neat.captured {limit : Nat} {turn : Turn (Recorded τ) κ} (neat : turn.Neat limit)
    (event : InputEvent) : (turn.captured event).2.Neat limit := by
  rcases turn.captured_cases event with stays | ⟨session, owned, goes⟩
  · rw [stays]
    exact neat
  · have length (tested : SessionId) :
        ((turn.collect session event).sink.aside tested).length =
          (turn.sink.aside tested).length + if session = tested then 1 else 0 := by
      rw [aside_collect, List.length_append]
      split
      · rfl
      · rfl
    have waiting : (turn.sink.outbox[session]?.getD [] ++ [event]).length =
        (turn.sink.aside session).length + 1 :=
      List.length_append
    have owners : ∀ tested, ∀ waits ∈ (turn.collect session event).sink.aside tested,
        turn.sink.owners[waits.handle]? = some tested := by
      intro tested waits listed
      rw [aside_collect] at listed
      rcases List.mem_append.1 listed with earlier | last
      · exact neat.aside_owned tested waits earlier
      · split at last
        · next same =>
          rw [List.mem_singleton.1 last, ← same]
          exact owned
        · cases last
    rw [goes, waiting, neat.limit_eq]
    have room := neat.aside_short session
    dsimp only
    split
    · refine .of_flushed _ session neat.limit_eq neat.batch_sized ?_ ?_ (by omega) owners
      · rw [length, if_pos rfl]
        exact room
      · intro tested other
        rw [length, if_neg other]
        exact neat.aside_short tested
    · next few =>
      refine ⟨neat.limit_eq, neat.batch_sized, ?_, owners⟩
      intro tested
      rw [length]
      have short := neat.aside_short tested
      split
      · next same =>
        subst same
        omega
      · exact short

end Capturing

end Ownership

end Turn

/-- An event goes out exactly if its handle is owned. -/
theorem Books.throughOut_captured {τ κ : Type} [Transport τ] {turn : Turn (Recorded τ) κ}
    (books : Books turn.sink) (event : InputEvent) :
    (turn.captured event).1 = .throughOut ↔ event.handle ∈ turn.sink.owners := by
  rw [Turn.captured]
  by_cases out : turn.sink.tracker.stateOf event.handle = .throughOut
  · have owned := (books.throughOut_iff event.handle).1 out
    obtain ⟨session, found⟩ := (Table.mem_iff_exists _ _).1 owned
    rw [if_neg (not_not_intro out), found]
    exact iff_of_true rfl owned
  · rw [if_pos out]
    refine iff_of_false ?_ fun owned => out ((books.throughOut_iff event.handle).2 owned)
    intro same
    cases same

end Sink

end InputSharing
