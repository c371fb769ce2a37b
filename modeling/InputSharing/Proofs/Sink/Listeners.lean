import InputSharing.Proofs.Sink.Starting

/-!
# What listeners hear

A listener hears of a handle when its state changes, and at no other time.  All listeners
hear the same in the same order, from the time when they are added.  So a listener that
knew which handles were shared at that time can tell at any later time which are shared:
it has heard of every change, and of each once.

The marks are changed in one way only, and this tells every listener what has changed.
Whatever a sink does `Informs` its listeners because it does no more than this.
-/

namespace InputSharing.Sink

namespace Turn

variable {τ κ : Type}

/-- What a listener has heard, the first thing first. -/
def heard (turn : Turn τ κ) (listener : Nat) : List Change :=
  (turn.notices.filter fun notice => notice.listener = listener).map fun notice =>
    (notice.state, notice.handle)

/-- Nobody but a listener has heard anything. -/
def Addressed (turn : Turn τ κ) : Prop :=
  ∀ notice ∈ turn.notices, notice.listener < turn.sink.listeners

theorem Addressed.heard_of_absent {turn : Turn τ κ} (addressed : turn.Addressed) {listener : Nat}
    (absent : turn.sink.listeners ≤ listener) : turn.heard listener = [] := by
  rw [heard, List.map_eq_nil_iff, List.filter_eq_nil_iff]
  intro notice listed
  have present := addressed notice listed
  simp only [decide_eq_true_eq]
  omega

/-- The listeners hear of some changes, and these are the changes of the marks. -/
structure Informs (changes : List Change) (before after : Turn τ κ) : Prop where
  listeners_le : before.sink.listeners ≤ after.sink.listeners
  heard_eq : ∀ listener < before.sink.listeners,
    after.heard listener = before.heard listener ++ changes
  unfolds : Unfolds before.sink.tracker.stateOf changes after.sink.tracker.stateOf
  addressed : before.Addressed → after.Addressed

/-- Whatever changes between two turns, the listeners hear of it. -/
def Follows (before after : Turn τ κ) : Prop :=
  ∃ changes, Informs changes before after

namespace Follows

variable {before middle after : Turn τ κ}

/-- Nothing is marked and nothing is told. -/
theorem of_same (tracker : after.sink.tracker = before.sink.tracker)
    (notices : after.notices = before.notices)
    (listeners : before.sink.listeners ≤ after.sink.listeners) : Follows before after := by
  refine ⟨[], listeners, ?_, ?_, ?_⟩
  · intro listener _
    rw [heard, notices, List.append_nil]
    rfl
  · rw [tracker]
    exact .nil
  · intro addressed notice listed
    rw [notices] at listed
    exact Nat.lt_of_lt_of_le (addressed notice listed) listeners

theorem refl (turn : Turn τ κ) : Follows turn turn := of_same rfl rfl (Nat.le_refl _)

theorem trans (first : Follows before middle) (second : Follows middle after) :
    Follows before after := by
  obtain ⟨changes, earlier⟩ := first
  obtain ⟨more, later⟩ := second
  refine ⟨changes ++ more, ?_, ?_, ?_, ?_⟩
  · exact Nat.le_trans earlier.listeners_le later.listeners_le
  · intro listener present
    rw [later.heard_eq listener (Nat.lt_of_lt_of_le present earlier.listeners_le),
      earlier.heard_eq listener present, List.append_assoc]
  · exact earlier.unfolds.append later.unfolds
  · exact fun addressed => later.addressed (earlier.addressed addressed)

theorem of_sent (sent : Sent before after) : Follows before after := by
  obtain ⟨counter, line, rfl⟩ := sent
  exact of_same rfl rfl (Nat.le_refl _)

end Follows

/-! ## Marks -/

/-- Each listener hears every change once. -/
theorem heard_announced (sink : Sink) (state : SharingState) (handles : List HandleId)
    {listener : Nat} (present : listener < sink.listeners) :
    ((sink.announced state handles).filter fun notice => notice.listener = listener).map
        (fun notice => (notice.state, notice.handle)) =
      handles.map fun handle => (state, handle) := by
  have once :
      (List.range sink.listeners).filter (fun tested => tested = listener) = [listener] := by
    rw [List.filter_eq]
    simp [List.count_range, present]
  induction handles with
  | nil => rfl
  | cons handle rest inductionHypothesis =>
      rw [announced] at inductionHypothesis ⊢
      rw [List.flatMap_cons, List.filter_append, List.map_append, inductionHypothesis,
        List.filter_map]
      simp only [Function.comp_def, once, List.map_cons, List.map_nil, List.singleton_append]

theorem follows_mark (turn : Turn τ κ) (state : SharingState) (handles : List HandleId) :
    Follows turn (turn.mark state handles) := by
  let changed := (turn.sink.tracker.mark state handles).2
  have notices : (turn.mark state handles).notices =
      turn.notices ++ turn.sink.announced state changed :=
    rfl
  refine ⟨changed.map fun handle => (state, handle), Nat.le_refl _, ?_, ?_, ?_⟩
  · intro listener present
    rw [heard, notices, List.filter_append, List.map_append,
      heard_announced turn.sink state changed present]
    rfl
  · exact turn.sink.tracker.unfolds_mark state handles
  · intro addressed notice listed
    rw [notices, announced] at listed
    rcases List.mem_append.1 listed with earlier | new
    · exact addressed notice earlier
    · obtain ⟨handle, _, told⟩ := List.mem_flatMap.1 new
      obtain ⟨listener, within, rfl⟩ := List.mem_map.1 told
      exact List.mem_range.1 within

/-! ## Parts of a turn -/

section Parts

variable [Transport τ] (turn : Turn τ κ)

theorem follows_flushSession (session : SessionId) :
    Follows turn (turn.flushSession session) := by
  obtain ⟨counter, line, equal⟩ := turn.sent_flushSession session
  rw [equal]
  exact .of_same rfl rfl (Nat.le_refl _)

theorem follows_flush : Follows turn turn.flush := by
  rw [flush]
  generalize turn.sink.outbox.keys = sessions
  induction sessions generalizing turn with
  | nil => exact Follows.refl turn
  | cons session rest inductionHypothesis =>
      exact (turn.follows_flushSession session).trans (inductionHypothesis _)

theorem follows_captured (event : InputEvent) : Follows turn (turn.captured event).2 := by
  rcases turn.captured_cases event with stays | ⟨session, _, goes⟩
  · rw [stays]
    exact Follows.refl turn
  · have collected : Follows turn (turn.collect session event) :=
      .of_same rfl rfl (Nat.le_refl _)
    rw [goes]
    dsimp only
    split
    · exact collected.trans (follows_flushSession _ session)
    · exact collected

theorem follows_answer (session : SessionId) (via : Via) (reply : Reply) :
    Follows turn (turn.answer session via reply) :=
  .of_sent (turn.sent_post session _)

omit [Transport τ] in
theorem follows_own (session : SessionId) (switch : Switch) (granted : Table HandleId TypeMask) :
    Follows turn (turn.own session switch granted) := by
  unfold own
  refine Follows.trans ?_ (follows_mark _ _ _)
  exact .of_same rfl rfl (Nat.le_refl _)

variable [Collector κ]

omit [Transport τ] in
theorem follows_grant (session : SessionId) (candidates : Table HandleId TypeMask) :
    Follows turn (turn.grant session candidates).2 := by
  obtain ⟨capturing, collector, granted⟩ := turn.grant_cases session candidates
  let begun : Turn τ κ := { turn with sink := { turn.sink with capturing }, collector }
  have still : Follows turn begun := .of_same rfl rfl (Nat.le_refl _)
  obtain refused | ⟨switch, _, given⟩ := granted
  · rw [refused]
    exact still
  · rw [given]
    exact still.trans (begun.follows_own session switch _)

theorem follows_release (session : SessionId) (requested : HandleSet) (reportKeys : Bool) :
    Follows turn (turn.release session requested reportKeys).2 := by
  obtain untouched | ⟨switch, prepared, something⟩ := turn.release_cases session requested
  · rw [untouched]
    exact Follows.refl turn
  · obtain ⟨sent, disowned, equal⟩ := release_eq prepared something reportKeys
    have marked : Follows turn
        (turn.disown session switch (releasable switch requested) reportKeys) := by
      unfold disown
      refine Follows.trans ?_ (follows_mark _ _ _)
      exact .of_same rfl rfl (Nat.le_refl _)
    have idle : Follows sent sent.stopIfIdle := by
      unfold stopIfIdle
      split
      · exact .of_same rfl rfl (Nat.le_refl _)
      · exact Follows.refl sent
    rw [equal]
    exact (marked.trans (.of_sent disowned)).trans idle

/-! ## Everything that can happen -/

theorem follows_serve (session : SessionId) (via : Via) (request : Request) :
    Follows turn (turn.serve session via request) := by
  cases request with
  | prepare =>
      change Follows turn (turn.onPrepare session via)
      unfold onPrepare
      split
      · exact Follows.refl turn
      · refine Follows.trans ?_ (follows_answer _ session via _)
        exact .of_same rfl rfl (Nat.le_refl _)
  | startByType types =>
      obtain ⟨candidates, status, granted, starts⟩ := turn.onStartByType_eq session types
      rw [serve, starts]
      exact (turn.follows_grant session candidates).trans (follows_answer _ session via _)
  | startByHandles handles =>
      obtain ⟨candidates, status, granted, starts⟩ := turn.onStartByHandles_eq session handles
      rw [serve, starts]
      exact (turn.follows_grant session candidates).trans (follows_answer _ session via _)
  | unprepare =>
      change Follows turn (turn.onUnprepare session via)
      cases prepared : turn.sink.switches[session]? with
      | none =>
          rw [onUnprepare, prepared]
          exact turn.follows_answer session via _
      | some switch =>
          rw [onUnprepare_of_prepared prepared]
          let released := (turn.release session (HandleSet.ofKeys switch.handles) true).2
          have flushed : Follows turn (released.flushSession session) :=
            (turn.follows_release session _ true).trans (released.follows_flushSession session)
          have vacated : Follows turn ((released.flushSession session).vacate session) :=
            flushed.trans (.of_same rfl rfl (Nat.le_refl _))
          exact vacated.trans (follows_answer _ session via _)
  | stopByType types =>
      change Follows turn (turn.onStopByType session via types)
      cases prepared : turn.sink.switches[session]? with
      | none =>
          rw [onStopByType, prepared]
          exact turn.follows_answer session via _
      | some switch =>
          rw [onStopByType_of_prepared prepared]
          have lessened : Follows turn (turn.lessen session switch types) :=
            .of_same rfl rfl (Nat.le_refl _)
          exact (lessened.trans (follows_release _ session _ true)).trans
            (follows_answer _ session via _)
  | stopByHandles handles =>
      change Follows turn (turn.onStopByHandles session via handles)
      cases prepared : turn.sink.switches[session]? with
      | none =>
          rw [onStopByHandles, prepared]
          exact turn.follows_answer session via _
      | some switch =>
          rw [onStopByHandles_of_prepared prepared]
          exact (turn.follows_release session handles true).trans (follows_answer _ session via _)

theorem follows_handle (session : SessionId) (message : Message) :
    Follows turn (turn.handle session message) := by
  cases message with
  | request device request => exact turn.follows_serve session .direct request
  | relayed token device request => exact turn.follows_serve session (.relayed token) request
  | latencyProbe device sentAtUs => exact .of_sent (turn.sent_post session _)
  | _ => exact Follows.refl turn

theorem follows_closed (session : SessionId) : Follows turn (turn.closed session) := by
  have calm : Follows turn (turn.quiet session) := .of_same rfl rfl (Nat.le_refl _)
  cases prepared : turn.sink.switches[session]? with
  | none =>
      rw [closed_of_unprepared prepared]
      exact calm.trans (.of_same rfl rfl (Nat.le_refl _))
  | some switch =>
      rw [closed_of_prepared prepared]
      have released := (turn.quiet session).follows_release session
        (HandleSet.ofKeys switch.handles) false
      exact (calm.trans released).trans (.of_same rfl rfl (Nat.le_refl _))

theorem follows_undergo (occurrence : Occurrence) :
    Follows turn (turn.undergo occurrence) := by
  cases occurrence with
  | opened session peer => exact .of_same rfl rfl (Nat.le_refl _)
  | message session message => exact turn.follows_handle session message
  | closed session => exact turn.follows_closed session
  | captured event => exact turn.follows_captured event
  | flush => exact turn.follows_flush
  | listen => exact .of_same rfl rfl (Nat.le_succ _)

end Parts

/-! ## Every history -/

section Histories

variable [Transport τ] [Collector κ]

/-- The turns that can come about from an earlier one. -/
inductive Leads (earlier : Turn (Recorded τ) (Metered κ)) : Turn (Recorded τ) (Metered κ) → Prop
  | rest : Leads earlier earlier
  | undergo {turn : Turn (Recorded τ) (Metered κ)} (occurrence : Occurrence) :
      Leads earlier turn → occurrence.Possible turn.sink →
      Leads earlier (turn.undergo occurrence)
  | elsewhere {turn : Turn (Recorded τ) (Metered κ)} (line : τ) (hardware : κ) :
      Leads earlier turn →
      Leads earlier
        { turn with
          line := { turn.line with line }
          collector := { turn.collector with hardware } }

theorem Leads.follows {earlier later : Turn (Recorded τ) (Metered κ)} (leads : Leads earlier later) :
    Follows earlier later := by
  induction leads with
  | rest => exact Follows.refl earlier
  | undergo occurrence _ _ inductionHypothesis =>
      exact inductionHypothesis.trans (follows_undergo _ occurrence)
  | elsewhere line hardware _ inductionHypothesis =>
      exact inductionHypothesis.trans (.of_same rfl rfl (Nat.le_refl _))

end Histories

end Turn

section Histories

variable {τ κ : Type} [Transport τ] [Collector κ]
  {device : DeviceId} {allowList : AllowList} {batchMax : Nat}
  {turn later : Turn (Recorded τ) (Metered κ)}

theorem Reached.addressed (reached : Reached device allowList batchMax turn) :
    turn.Addressed := by
  induction reached with
  | start line hardware =>
      intro notice listed
      cases listed
  | @undergo turn occurrence _ _ addressed =>
      obtain ⟨changes, informs⟩ := turn.follows_undergo occurrence
      exact informs.addressed addressed
  | elsewhere line hardware _ addressed => exact addressed

/-- A listener is added, and anything may happen afterwards.  It hears the same as all
listeners that were there before it.  Replayed over the handles that were shared when it was
added, what it hears gives exactly those that are shared now; and what it hears of one
handle always differs from the state that the handle had. -/
theorem listeners_follow (reached : Reached device allowList batchMax turn)
    (leads : turn.listen.Leads later) :
    ∃ changes : List Change,
      (∀ listener ≤ turn.sink.listeners,
        later.heard listener = turn.heard listener ++ changes) ∧
      later.heard turn.sink.listeners = changes ∧
      Change.replay (HandleSet.ofList turn.sink.tracker.throughOut) changes =
        HandleSet.ofList later.sink.tracker.throughOut ∧
      ∀ handle, List.IsChain (fun earlier later => earlier ≠ later)
        (turn.sink.tracker.stateOf handle :: Change.statesOf handle changes) := by
  obtain ⟨changes, informs⟩ := leads.follows
  have heard (listener : Nat) (present : listener ≤ turn.sink.listeners) :
      later.heard listener = turn.heard listener ++ changes :=
    informs.heard_eq listener (Nat.lt_succ_of_le present)
  have nothing : turn.heard turn.sink.listeners = [] :=
    reached.addressed.heard_of_absent (Nat.le_refl _)
  refine ⟨changes, heard, ?_, ?_, informs.unfolds.isChain⟩
  · rw [heard _ (Nat.le_refl _), nothing, List.nil_append]
  · apply Std.ExtTreeSet.ext_mem
    intro handle
    rw [HandleSet.mem_ofList, Tracker.mem_throughOut]
    apply informs.unfolds.mem_replay
    intro tested
    rw [HandleSet.mem_ofList, Tracker.mem_throughOut]
    rfl

end Histories

/-- The desk gives the mouse back after a listener was added. -/
def returned : Turn (Recorded Scripted) (Metered Hardware) :=
  lending.listen.handle ⟨1⟩ (.request ⟨"desk"⟩ .unprepare)

theorem listeners_follow_returned :
    Reached ⟨"tablet"⟩ [] 2 lending ∧ lending.listen.Leads returned ∧
      returned.heard 0 = [(.throughIn, ⟨"mouse"⟩)] ∧
      Change.replay (HandleSet.ofList lending.sink.tracker.throughOut) (returned.heard 0) =
        HandleSet.ofList returned.sink.tracker.throughOut := by
  have leads : lending.listen.Leads returned :=
    .undergo (.message ⟨1⟩ (.request ⟨"desk"⟩ .unprepare)) .rest trivial
  obtain ⟨changes, -, told, replayed, -⟩ := listeners_follow reached_lending leads
  refine ⟨reached_lending, leads, by decide +kernel, ?_⟩
  have first : lending.sink.listeners = 0 := by decide +kernel
  rw [first] at told
  rw [told]
  exact replayed

end InputSharing.Sink
