import InputSharing.Proofs.Sink.Keys
import InputSharing.Proofs.Sink.Ownership

/-!
# Keys and the end of sharing

When a session loses a device, its receiver is to let go of the keys of that device
that are down.  The sink reports those that the hardware holds at that moment; but
what it has sent so far comes from a queue of captured events that may lag behind.
-/

namespace InputSharing

/-! ## Requests to end sharing -/

/-- Whether a request may take handles from a session. -/
def Request.takesBack : Request → Bool
  | .unprepare | .stopByType _ | .stopByHandles _ => true
  | .prepare | .startByType _ | .startByHandles _ => false

/-- Whether a message is a request to stop sharing or to end the session. -/
def Message.takesBack : Message → Bool
  | .request _ body | .relayed _ _ body => body.takesBack
  | _ => false

namespace Sink.Turn

variable {τ : Type}

/-! ## What a message changes -/

/-- Whether a key is down at the receiver of a session once it has played what it
has been told and will be told next. -/
def isComing {κ : Type} (turn : Turn (Recorded τ) κ) (session : SessionId) (key : Key) : Bool :=
  downAfter key false (turn.outlook session)

/-- The hardware reads its devices exactly when the sink wants it to. -/
def Geared (turn : Turn τ (Metered Hardware)) : Prop :=
  turn.collector.hardware.capturing = turn.sink.capturing

/-- The hardware is as before, except for its reading of devices. -/
def SameKeys (before after : Turn τ (Metered Hardware)) : Prop :=
  after.collector.hardware.held = before.collector.hardware.held ∧
    after.collector.hardware.captured = before.collector.hardware.captured ∧
    after.collector.hardware.listening = before.collector.hardware.listening

/-- Nothing that was lent is taken back, and no key is moved. -/
structure Calm (before after : Turn (Recorded τ) (Metered Hardware)) : Prop where
  grows : before.line.deeds <+: after.line.deeds
  coming_eq : ∀ tested key, after.isComing tested key = before.isComing tested key
  aside_subset : ∀ tested, after.sink.aside tested ⊆ before.sink.aside tested
  kept : ∀ (handle : HandleId) (owner : SessionId),
    before.sink.owners[handle]? = some owner → after.sink.owners[handle]? = some owner
  same : SameKeys before after
  geared : before.Geared → after.Geared
  reads : before.sink.capturing = true → after.sink.capturing = true

/-- A session loses some of its handles, and its receiver hears which keys of them
are held. -/
structure Yields (session : SessionId) (released : HandleSet)
    (before after : Turn (Recorded τ) (Metered Hardware)) : Prop where
  grows : before.line.deeds <+: after.line.deeds
  coming_eq : ∀ tested key, after.isComing tested key =
    if tested = session ∧ key.1 ∈ released then
      before.isComing tested key && !before.collector.hardware.holds key
    else before.isComing tested key
  aside_kept : ∀ tested, ∀ event ∈ after.sink.aside tested,
    event ∈ before.sink.aside tested ∧ (tested = session → event.handle ∉ released)
  lent : ∀ handle ∈ released, before.sink.owners[handle]? = some session
  owners_eq : ∀ handle, after.sink.owners[handle]? =
    if handle ∈ released then none else before.sink.owners[handle]?
  same : SameKeys before after
  geared : before.Geared → after.Geared

/-- What is sent afterwards takes nothing back. -/
theorem Yields.calm {session : SessionId} {released : HandleSet}
    {before middle after : Turn (Recorded τ) (Metered Hardware)}
    (yields : Yields session released before middle) (calm : Calm middle after)
    (owners : after.sink.owners = middle.sink.owners) : Yields session released before after where
  grows := yields.grows.trans calm.grows
  coming_eq tested key := (calm.coming_eq tested key).trans (yields.coming_eq tested key)
  aside_kept tested event listed :=
    yields.aside_kept tested event (calm.aside_subset tested listed)
  lent := yields.lent
  owners_eq handle := (congrArg (·[handle]?) owners).trans (yields.owners_eq handle)
  same := ⟨calm.same.1.trans yields.same.1, calm.same.2.1.trans yields.same.2.1,
    calm.same.2.2.trans yields.same.2.2⟩
  geared := calm.geared ∘ yields.geared

namespace Calm

variable {before middle after : Turn (Recorded τ) (Metered Hardware)}

theorem refl (turn : Turn (Recorded τ) (Metered Hardware)) : Calm turn turn :=
  ⟨List.prefix_rfl, fun _ _ => rfl, fun _ => List.Subset.refl _, fun _ _ => id, ⟨rfl, rfl, rfl⟩,
    id, id⟩

theorem trans (first : Calm before middle) (second : Calm middle after) :
    Calm before after where
  grows := first.grows.trans second.grows
  coming_eq tested key := (second.coming_eq tested key).trans (first.coming_eq tested key)
  aside_subset tested := List.Subset.trans (second.aside_subset tested) (first.aside_subset tested)
  kept handle owner := second.kept handle owner ∘ first.kept handle owner
  same := ⟨second.same.1.trans first.same.1, second.same.2.1.trans first.same.2.1,
    second.same.2.2.trans first.same.2.2⟩
  geared := second.geared ∘ first.geared
  reads := second.reads ∘ first.reads

end Calm

variable [Transport τ] (turn : Turn (Recorded τ) (Metered Hardware))

theorem calm_post (session : SessionId) {message : Message} (silent : message.played = []) :
    Calm turn (turn.post session message) := by
  have told (tested : SessionId) : (turn.post session message).told tested = turn.told tested := by
    rw [told_post, silent, ite_self, List.append_nil]
  obtain ⟨counter, line, equal⟩ := turn.sent_post session message
  have aside (tested : SessionId) :
      (turn.post session message).sink.aside tested = turn.sink.aside tested := by
    rw [equal]
    rfl
  refine ⟨turn.grows_post session message, ?_, ?_, ?_, ?_, ?_, ?_⟩
  · intro tested key
    rw [isComing, outlook, told, aside]
    rfl
  · intro tested event listed
    rw [aside] at listed
    exact listed
  · intro handle owner owned
    rw [equal]
    exact owned
  · rw [equal]
    exact ⟨rfl, rfl, rfl⟩
  · rw [equal]
    exact id
  · rw [equal]
    exact id

theorem calm_answer (session : SessionId) (via : Via) (reply : Reply) :
    Calm turn (turn.answer session via reply) := by
  refine turn.calm_post session ?_
  cases via with
  | direct => rfl
  | relayed token => rfl

theorem calm_flushSession (session : SessionId) : Calm turn (turn.flushSession session) := by
  have coming (tested : SessionId) (key : Key) :
      (turn.flushSession session).isComing tested key = turn.isComing tested key :=
    congrArg (downAfter key false) (turn.outlook_flushSession session tested)
  obtain ⟨counter, line, equal⟩ := turn.sent_flushSession session
  refine ⟨turn.grows_flushSession session, coming, ?_, ?_, ?_, ?_, ?_⟩
  · intro tested event listed
    rw [equal] at listed
    have waits : event ∈ ({ turn.sink with
        outbox := turn.sink.outbox.modify session fun _ => [] } : Sink).aside tested :=
      listed
    rw [aside_modify turn.sink session tested (fun _ => []) rfl] at waits
    split at waits
    · cases waits
    · exact waits
  · intro handle owner owned
    rw [equal]
    exact owned
  · rw [equal]
    exact ⟨rfl, rfl, rfl⟩
  · rw [equal]
    exact id
  · rw [equal]
    exact id

/-! ## Giving -/

omit [Transport τ] in
/-- The books may change as long as no owner is lost. -/
theorem calm_of_books {after : Turn (Recorded τ) (Metered Hardware)} (line : after.line = turn.line)
    (outbox : after.sink.outbox = turn.sink.outbox)
    (kept : ∀ (handle : HandleId) (owner : SessionId),
      turn.sink.owners[handle]? = some owner → after.sink.owners[handle]? = some owner)
    (same : SameKeys turn after) (geared : turn.Geared → after.Geared)
    (reads : turn.sink.capturing = true → after.sink.capturing = true) : Calm turn after := by
  refine ⟨?_, ?_, ?_, kept, same, geared, reads⟩
  · exact line ▸ List.prefix_rfl
  · intro tested key
    rw [isComing, isComing, outlook, outlook, told, told, Sink.aside, Sink.aside, line, outbox]
  · intro tested event listed
    rw [Sink.aside, outbox] at listed
    exact listed

omit [Transport τ] in
theorem calm_own (session : SessionId) (switch : Switch) {granted : Table HandleId TypeMask}
    (free : ∀ handle ∈ granted, ∀ owner,
      turn.sink.owners[handle]? = some owner → owner = session) :
    Calm turn (turn.own session switch granted) := by
  refine turn.calm_of_books rfl rfl ?_ ⟨rfl, rfl, rfl⟩ id id
  intro handle owner owned
  rw [owners_own]
  split
  · next given => rw [free handle given.1 owner owned]
  · exact owned

omit [Transport τ] in
theorem calm_ensureCapture : Calm turn turn.ensureCapture.2 := by
  unfold ensureCapture
  split
  · exact Calm.refl turn
  · next idle =>
    let hardware := turn.collector.hardware
    cases failing : hardware.failNextStart with
    | true =>
      have refused : Collector.startCapture turn.collector =
          (.error (.captureUnavailable Hardware.busy),
            { turn.collector with hardware := { hardware with failNextStart := false } }) := by
        simp only [Collector.startCapture, Hardware.start, hardware, failing, if_true]
      rw [refused]
      exact turn.calm_of_books rfl rfl (fun _ _ => id) ⟨rfl, rfl, rfl⟩ id id
    | false =>
      have started : Collector.startCapture turn.collector =
          (.ok (),
            { turn.collector with
              hardware := { hardware with capturing := true, starts := hardware.starts + 1 }
              starts := turn.collector.starts + 1 }) := by
        simp only [Collector.startCapture, Hardware.start, hardware, failing,
          Bool.false_eq_true, if_false]
      rw [started]
      exact turn.calm_of_books rfl rfl (fun _ _ => id) ⟨rfl, rfl, rfl⟩ (fun _ => rfl)
        (fun _ => rfl)

omit [Transport τ] in
theorem calm_grant (session : SessionId) (candidates : Table HandleId TypeMask) :
    Calm turn (turn.grant session candidates).2 := by
  cases prepared : turn.sink.switches[session]? with
  | none =>
    rw [grant_of_absent prepared]
    exact Calm.refl turn
  | some switch =>
    have free (owners : Turn (Recorded τ) (Metered Hardware))
        (same : owners.sink.owners = turn.sink.owners) :
        ∀ handle ∈ turn.available session candidates, ∀ owner,
          owners.sink.owners[handle]? = some owner → owner = session := by
      intro handle member owner owned
      rw [same] at owned
      exact turn.owner_of_available session member owner owned
    rw [grant_of_prepared prepared]
    split
    · exact turn.calm_own session switch (free turn rfl)
    · have starts := turn.calm_ensureCapture
      obtain ⟨capturing, collector, equal⟩ := ensureCapture_eq turn
      split
      · next refused =>
        rw [refused] at starts
        exact starts
      · next begun =>
        rw [begun] at starts equal
        refine starts.trans (calm_own _ session switch (free _ ?_))
        rw [equal]

/-! ## Taking back -/

omit [Transport τ] in
theorem yields_nothing (session : SessionId) : Yields session ∅ turn turn where
  grows := List.prefix_rfl
  coming_eq _ _ := (if_neg fun both => Std.ExtTreeSet.not_mem_empty both.2).symm
  aside_kept _ _ listed := ⟨listed, fun _ => Std.ExtTreeSet.not_mem_empty⟩
  lent _ member := absurd member Std.ExtTreeSet.not_mem_empty
  owners_eq _ := (if_neg Std.ExtTreeSet.not_mem_empty).symm
  same := ⟨rfl, rfl, rfl⟩
  geared := id

theorem grows_reportHeldKeys (session : SessionId) (handles : HandleSet) :
    turn.line.deeds <+: (turn.reportHeldKeys session handles).line.deeds := by
  unfold reportHeldKeys
  split
  · exact List.prefix_rfl
  · exact turn.grows_post session _
  · exact turn.grows_post session _

theorem told_reportHeldKeys (session tested : SessionId) (handles : HandleSet) :
    (turn.reportHeldKeys session handles).told tested =
      turn.told tested ++
        if session = tested then releases (turn.collector.hardware.heldKeys handles) else [] := by
  have read : Collector.heldKeys turn.collector handles =
      turn.collector.hardware.heldKeys handles :=
    rfl
  unfold reportHeldKeys
  rw [read]
  split
  · next none =>
    rw [none]
    exact (List.append_nil _).symm.trans (congrArg _ (ite_self _).symm)
  · next state one =>
    rw [one, told_post]
    rfl
  · next states _ _ =>
    rw [told_post]
    rfl

omit [Transport τ] in
theorem told_stopIfIdle (tested : SessionId) : turn.stopIfIdle.told tested = turn.told tested := by
  unfold stopIfIdle
  split
  · rfl
  · rfl

theorem grows_release {session : SessionId} {switch : Switch}
    (prepared : turn.sink.switches[session]? = some switch) {requested : HandleSet}
    (something : (releasable switch requested).isEmpty = false) :
    turn.line.deeds <+: (turn.release session requested true).2.line.deeds := by
  let lowered := turn.lower session switch (releasable switch requested)
  let flushed := lowered.flushSession session
  let reported := flushed.reportHeldKeys session (releasable switch requested)
  have line : (turn.release session requested true).2.line = reported.line := by
    rw [release_of_owned prepared something true]
    dsimp only
    unfold stopIfIdle
    split
    · rfl
    · rfl
  rw [line]
  exact (lowered.grows_flushSession session).trans (flushed.grows_reportHeldKeys session _)

/-- The receiver hears of the keys of the handles before these are taken back. -/
theorem outlook_release {session : SessionId} {switch : Switch}
    (prepared : turn.sink.switches[session]? = some switch) {requested : HandleSet}
    (something : (releasable switch requested).isEmpty = false) (tested : SessionId) :
    (turn.release session requested true).2.outlook tested =
      turn.outlook tested ++
        if session = tested then
          releases (turn.collector.hardware.heldKeys (releasable switch requested))
        else [] := by
  let released := releasable switch requested
  let lowered := turn.lower session switch released
  obtain ⟨counter, capturing, equal⟩ := sink_release prepared something true
  have aside : (turn.release session requested true).2.sink.aside tested =
      if session = tested then [] else turn.sink.aside tested := by
    rw [equal]
    exact aside_modify turn.sink session tested (fun _ => []) rfl
  have told : (turn.release session requested true).2.told tested =
      (lowered.flushSession session).told tested ++
        if session = tested then releases (turn.collector.hardware.heldKeys released) else [] := by
    have same : (lowered.flushSession session).collector = turn.collector := by
      obtain ⟨_, _, sent⟩ := lowered.sent_flushSession session
      rw [sent]
      rfl
    rw [release_of_owned prepared something true]
    dsimp only
    rw [told_stopIfIdle, ← same]
    exact (lowered.flushSession session).told_reportHeldKeys session tested released
  have flushed := lowered.outlook_flushSession session tested
  have remains : (lowered.flushSession session).sink.aside tested =
      if session = tested then [] else turn.sink.aside tested := by
    obtain ⟨_, _, sent⟩ := lowered.sent_flushSession session
    rw [sent]
    exact aside_modify turn.sink session tested (fun _ => []) rfl
  rw [outlook, remains] at flushed
  rw [outlook, told, aside]
  by_cases same : session = tested
  · rw [if_pos same, if_pos same, List.append_nil]
    rw [if_pos same, List.append_nil] at flushed
    rw [flushed]
    rfl
  · rw [if_neg same, if_neg same, List.append_nil, List.append_nil]
    rw [if_neg same] at flushed
    exact flushed

/-- What a release takes back from a session. -/
theorem yields_release (books : Books turn.sink) (session : SessionId) (requested : HandleSet) :
    ∃ released, Yields session released turn (turn.release session requested true).2 := by
  obtain untouched | ⟨switch, prepared, something⟩ := turn.release_cases session requested
  · rw [untouched]
    exact ⟨∅, turn.yields_nothing session⟩
  · have outlook := turn.outlook_release prepared something
    obtain ⟨counter, capturing, sink⟩ := sink_release prepared something true
    obtain ⟨sent, ⟨sequence, line, rfl⟩, equal⟩ := release_eq prepared something true
    refine ⟨releasable switch requested, turn.grows_release prepared something, ?_, ?_, ?_, ?_,
      ?_, ?_⟩
    · intro tested key
      rw [isComing, outlook, downAfter_append]
      by_cases same : session = tested
      · rw [if_pos same, downAfter_heldKeys]
        by_cases gone : key.1 ∈ releasable switch requested
        · rw [if_pos ⟨same.symm, gone⟩, decide_eq_true gone, Bool.true_and]
          rfl
        · rw [if_neg fun both => gone both.2, decide_eq_false gone]
          exact Bool.and_true _
      · rw [if_neg same, if_neg fun both => same both.1.symm]
        rfl
    · intro tested event listed
      rw [sink] at listed
      have waits : event ∈ ({ turn.sink with
          outbox := turn.sink.outbox.modify session fun _ => [] } : Sink).aside tested :=
        listed
      rw [aside_modify turn.sink session tested (fun _ => []) rfl] at waits
      split at waits
      · cases waits
      · next other => exact ⟨waits, fun same => absurd same.symm other⟩
    · intro handle member
      exact (books.owned_iff prepared handle).2 (mem_releasable.1 member).1
    · intro handle
      rw [sink]
      exact turn.owners_disown session switch _ true handle
    · rw [equal]
      unfold stopIfIdle
      split
      · exact ⟨rfl, rfl, rfl⟩
      · exact ⟨rfl, rfl, rfl⟩
    · intro geared
      rw [equal]
      unfold stopIfIdle
      split
      · rfl
      · exact geared

/-! ## Messages -/

theorem owners_answer (session : SessionId) (via : Via) (reply : Reply) :
    (turn.answer session via reply).sink.owners = turn.sink.owners := by
  obtain ⟨counter, line, equal⟩ := turn.sent_post session (via.message turn.sink.device reply)
  rw [answer, equal]

theorem yields_answer (session : SessionId) (via : Via) (reply : Reply) :
    Yields session ∅ turn (turn.answer session via reply) :=
  (turn.yields_nothing session).calm (turn.calm_answer session via reply)
    (turn.owners_answer session via reply)

theorem yields_onUnprepare (books : Books turn.sink) (session : SessionId) (via : Via) :
    ∃ released, Yields session released turn (turn.onUnprepare session via) := by
  unfold onUnprepare
  split
  · exact ⟨∅, turn.yields_answer session via _⟩
  · next switch prepared =>
    let requested := HandleSet.ofKeys switch.handles
    obtain ⟨released, yields⟩ := turn.yields_release books session requested
    let parted := (turn.release session requested true).2
    let flushed := parted.flushSession session
    let gone : Turn (Recorded τ) (Metered Hardware) :=
      { flushed with
        sink :=
          { flushed.sink with
            switches := flushed.sink.switches.erase session
            outbox := flushed.sink.outbox.erase session } }
    have emptied : flushed.sink.aside session = [] :=
      aside_of_sent (parted.sent_flushSession session)
    have aside (tested : SessionId) : gone.sink.aside tested = flushed.sink.aside tested := by
      refine (aside_erase flushed.sink session tested).trans ?_
      split
      · next same => rw [← same, emptied]
      · rfl
    have leaves : Calm flushed gone := by
      refine ⟨List.prefix_rfl, ?_, ?_, fun _ _ => id, ⟨rfl, rfl, rfl⟩, id, id⟩
      · intro tested key
        rw [isComing, isComing, outlook, outlook, aside]
        rfl
      · intro tested event listed
        rw [aside] at listed
        exact listed
    have flushes := yields.calm (parted.calm_flushSession session)
      (parted.owners_flushSession session)
    exact ⟨released, (flushes.calm leaves rfl).calm (gone.calm_answer session via _)
      (gone.owners_answer session via _)⟩

theorem yields_onStopByType (books : Books turn.sink) (session : SessionId) (via : Via)
    (types : TypeMask) :
    ∃ released, Yields session released turn (turn.onStopByType session via types) := by
  unfold onStopByType
  split
  · exact ⟨∅, turn.yields_answer session via _⟩
  · next switch prepared =>
    let left := switch.handles.map fun _ owned => owned \ types
    let lowered : Turn (Recorded τ) (Metered Hardware) :=
      { turn with
        sink :=
          { turn.sink with
            switches := turn.sink.switches.insert session { switch with handles := left } } }
    have relabelled : Books lowered.sink :=
      books.reclass prepared fun handle => Std.ExtTreeMap.mem_map
    obtain ⟨released, yields⟩ := lowered.yields_release relabelled session _
    have taken : Yields session released turn (lowered.release session _ true).2 :=
      ⟨yields.grows, yields.coming_eq, yields.aside_kept, yields.lent, yields.owners_eq,
        yields.same, yields.geared⟩
    exact ⟨released, taken.calm (calm_answer _ session via _) (owners_answer _ session via _)⟩

theorem yields_onStopByHandles (books : Books turn.sink) (session : SessionId) (via : Via)
    (handles : HandleSet) :
    ∃ released, Yields session released turn (turn.onStopByHandles session via handles) := by
  unfold onStopByHandles
  split
  · exact ⟨∅, turn.yields_answer session via _⟩
  · obtain ⟨released, yields⟩ := turn.yields_release books session handles
    exact ⟨released, yields.calm (calm_answer _ session via _) (owners_answer _ session via _)⟩

/-- A request to stop sharing takes handles from its own session only. -/
theorem yields_handle (books : Books turn.sink) (session : SessionId) {message : Message}
    (takes : message.takesBack = true) :
    ∃ released, Yields session released turn (turn.handle session message) := by
  have serve (via : Via) (request : Request) (takes : request.takesBack = true) :
      ∃ released, Yields session released turn (turn.serve session via request) := by
    cases request with
    | unprepare => exact turn.yields_onUnprepare books session via
    | stopByType types => exact turn.yields_onStopByType books session via types
    | stopByHandles handles => exact turn.yields_onStopByHandles books session via handles
    | prepare | startByType types | startByHandles handles => cases takes
  cases message with
  | request _ request => exact serve .direct request takes
  | relayed token _ request => exact serve (.relayed token) request takes
  | _ => cases takes

theorem calm_onStartByType (session : SessionId) (via : Via) (types : TypeMask) :
    Calm turn (turn.onStartByType session via types) := by
  obtain ⟨candidates, status, granted, starts⟩ := turn.onStartByType_eq session types
  rw [starts]
  exact (turn.calm_grant session candidates).trans (calm_answer _ session via _)

theorem calm_onStartByHandles (session : SessionId) (via : Via) (handles : HandleSet) :
    Calm turn (turn.onStartByHandles session via handles) := by
  obtain ⟨candidates, status, granted, starts⟩ := turn.onStartByHandles_eq session handles
  rw [starts]
  exact (turn.calm_grant session candidates).trans (calm_answer _ session via _)

/-- No other message takes anything back. -/
theorem calm_handle (session : SessionId) {message : Message}
    (keeps : message.takesBack = false) : Calm turn (turn.handle session message) := by
  have serve (via : Via) (request : Request) (keeps : request.takesBack = false) :
      Calm turn (turn.serve session via request) := by
    cases request with
    | prepare =>
      rw [Turn.serve, onPrepare]
      split
      · exact Calm.refl turn
      · next peer known =>
        let prepared : Turn (Recorded τ) (Metered Hardware) :=
          { turn with
            sink :=
              { turn.sink with switches := turn.sink.switches.insertIfNew session { peer } } }
        have enters : Calm turn prepared :=
          turn.calm_of_books rfl rfl (fun _ _ => id) ⟨rfl, rfl, rfl⟩ id id
        exact enters.trans (prepared.calm_answer session via _)
    | startByType types => exact turn.calm_onStartByType session via types
    | startByHandles handles => exact turn.calm_onStartByHandles session via handles
    | unprepare | stopByType types | stopByHandles handles => cases keeps
  cases message with
  | request _ request => exact serve .direct request keeps
  | relayed token _ request => exact serve (.relayed token) request keeps
  | latencyProbe _ sentAtUs => exact turn.calm_post session rfl
  | _ => exact Calm.refl turn

end Sink.Turn

end InputSharing
