import InputSharing.Proofs.Network.Chronicle
import InputSharing.Proofs.Network.SinkLanes
import InputSharing.Proofs.Network.SinkReactions

/-!
# Reactions of sinks lose nothing

Whatever a sink takes from its queue, and whatever it captures, the lanes to it keep
running, and its books agree.
-/

namespace InputSharing.Sink.Turn

open Hub (Port)

variable {κ : Type} {base view : View} {device : DeviceId} {route : Route}
  {hand : List RelayToken} {injected : List (DeviceId × InputEvent)} {routed : List InputEvent}
  {turn : Turn (Port Parcel) κ} {session : SessionId} {link : Link}

/-! ## Giving and taking back -/

namespace Delivers

variable [Collector κ]

theorem reportHeldKeys (delivers : turn.Delivers base device route hand injected routed)
    (way : base.ways session = some link) (accepts : link.acceptor = ⟨device, .sink⟩)
    (handles : HandleSet) :
    (turn.reportHeldKeys session handles).Delivers base device route hand injected routed := by
  unfold Turn.reportHeldKeys
  split
  · exact delivers
  · exact delivers.post way accepts rfl rfl rfl
  · exact delivers.post way accepts rfl rfl rfl

omit [Collector κ] in
/-- What was granted changes neither the channels nor what is put aside. -/
theorem own (delivers : turn.Delivers base device route hand injected routed) {switch : Switch}
    (prepared : turn.sink.switches[session]? = some switch) (granted : Table HandleId TypeMask) :
    (turn.own session switch granted).Delivers base device route hand injected routed := by
  refine delivers.of_same _ rfl rfl rfl ?_
  intro tested listed
  rw [switches_own, Std.ExtTreeMap.mem_insert, Std.compare_eq_iff_eq] at listed
  rcases listed with rfl | before
  · exact Table.mem_of_getElem? prepared
  · exact before

theorem grant (delivers : turn.Delivers base device route hand injected routed)
    (session : SessionId) (candidates : Table HandleId TypeMask) :
    (turn.grant session candidates).2.Delivers base device route hand injected routed := by
  obtain ⟨capturing, collector, granted⟩ := turn.grant_cases session candidates
  let begun : Turn (Port Parcel) κ :=
    { turn with sink := { turn.sink with capturing }, collector }
  have still : begun.Delivers base device route hand injected routed :=
    delivers.of_same begun rfl rfl rfl fun _ => id
  obtain refused | ⟨switch, prepared, given⟩ := granted
  · rw [refused]
    exact still
  · rw [given]
    exact still.own prepared _

omit [Collector κ] in
theorem lower (delivers : turn.Delivers base device route hand injected routed) {switch : Switch}
    (prepared : turn.sink.switches[session]? = some switch) (released : HandleSet) :
    (turn.lower session switch released).Delivers base device route hand injected routed := by
  refine delivers.of_same _ rfl rfl rfl ?_
  intro tested listed
  rcases Std.ExtTreeMap.mem_insert.1 listed with same | before
  · rw [← Std.LawfulEqCmp.eq_of_compare same]
    exact Table.mem_of_getElem? prepared
  · exact before

omit [Collector κ] in
/-- Nothing is lost with the handles when nothing is put aside. -/
theorem clear (delivers : turn.Delivers base device route hand injected routed)
    (emptied : turn.sink.aside session = []) (released : HandleSet) :
    (turn.clear session released).Delivers base device route hand injected routed := by
  refine delivers.of_same _ rfl rfl ?_ fun _ => id
  refine (aside_modify turn.sink session route.session _ rfl).trans ?_
  split
  · next same =>
    rw [← same, emptied]
    rfl
  · rfl

/-- What is put aside leaves before handles are taken back. -/
theorem release (delivers : turn.Delivers base device route hand injected routed)
    (way : base.ways session = some link) (accepts : link.acceptor = ⟨device, .sink⟩)
    (requested : HandleSet) :
    (turn.release session requested true).2.Delivers base device route hand injected routed := by
  obtain untouched | ⟨switch, prepared, something⟩ := turn.release_cases session requested
  · rw [untouched]
    exact delivers
  · rw [release_of_owned prepared something]
    let released := releasable switch requested
    let lowered := turn.lower session switch released
    have dismissed :
        (lowered.dismiss session released true).Delivers base device route hand injected
          routed :=
      ((delivers.lower prepared released).flushSession way accepts
        Std.ExtTreeMap.mem_insert_self).reportHeldKeys way accepts released
    have emptied : (lowered.dismiss session released true).sink.aside session = [] :=
      aside_of_sent ((sent_flushSession lowered session).trans (sent_reportHeldKeys ..))
    have cleared := dismissed.clear emptied released
    dsimp only
    rw [stopIfIdle]
    split
    · exact cleared.of_same _ rfl rfl rfl fun _ => id
    · exact cleared

omit [Collector κ] in
/-- The answer to a request goes back with the token of the request. -/
theorem answer {via : Via}
    (delivers :
      turn.Delivers base device route (if session = route.session then via.token?.toList else [])
        injected routed)
    (way : base.ways session = some link) (accepts : link.acceptor = ⟨device, .sink⟩)
    (reply : Reply) :
    (turn.answer session via reply).Delivers base device route [] injected routed := by
  have within : (via.message turn.sink.device reply).isBetweenSources = false := by
    cases via <;> rfl
  have nothing : (via.message turn.sink.device reply).brought = [] := by
    cases via <;> rfl
  have token : (via.message turn.sink.device reply).answered? = via.token? := by
    cases via <;> rfl
  apply delivers.say turn rfl rfl way accepts within (List.nil_sublist _)
  · intro ours
    rw [if_pos ours, token, nothing, List.append_nil]
    exact ⟨rfl, rfl, fun brings => absurd rfl brings, Or.inl⟩
  · exact fun _ => ⟨rfl, id⟩

omit [Collector κ] in
/-- Whoever is prepared is told so in the same step. -/
theorem prepare {via : Via} {peer : DeviceId} {allowList : AllowList}
    (delivers :
      turn.Delivers base device route (if session = route.session then via.token?.toList else [])
        injected routed)
    (way : base.ways session = some link) (accepts : link.acceptor = ⟨device, .sink⟩) :
    (({ turn with
        sink := { turn.sink with switches := turn.sink.switches.insertIfNew session { peer } } } :
      Turn (Port Parcel) κ).answer session via (.prepared Status.ok allowList)).Delivers base
      device route [] injected routed := by
  have within :
      (via.message turn.sink.device (.prepared Status.ok allowList)).isBetweenSources = false := by
    cases via <;> rfl
  have nothing : (via.message turn.sink.device (.prepared Status.ok allowList)).brought = [] := by
    cases via <;> rfl
  have token :
      (via.message turn.sink.device (.prepared Status.ok allowList)).answered? = via.token? := by
    cases via <;> rfl
  have grants :
      (via.message turn.sink.device (.prepared Status.ok allowList)).prepares = true := by
    cases via <;> rfl
  let prepared : Turn (Port Parcel) κ :=
    { turn with
      sink := { turn.sink with switches := turn.sink.switches.insertIfNew session { peer } } }
  apply delivers.say prepared rfl rfl way accepts within (List.nil_sublist _)
  · intro ours
    rw [if_pos ours, token, nothing, List.append_nil]
    exact ⟨rfl, rfl, fun brings => absurd rfl brings, fun _ => Or.inr grants⟩
  · intro other
    refine ⟨rfl, ?_⟩
    intro listed
    rcases Std.ExtTreeMap.mem_insertIfNew.1 listed with same | before
    · exact absurd (Std.LawfulEqCmp.eq_of_compare same) other
    · exact before

end Delivers

/-- When a channel is gone nothing is sent, and only what is about the channel changes. -/
theorem closed_spec [Collector κ] (turn : Turn (Port Parcel) κ) (session : SessionId) :
    (turn.closed session).line = turn.line ∧
      (turn.closed session).sink.registry.bySession = turn.sink.registry.bySession.erase session ∧
      (∀ tested, session ≠ tested →
        (turn.closed session).sink.aside tested = turn.sink.aside tested) ∧
      ∀ tested ∈ (turn.closed session).sink.switches, tested ∈ turn.sink.switches := by
  have registry := turn.sink.registry.bySession_closed session
  have quiet (tested : SessionId) (other : session ≠ tested) :
      (turn.quiet session).sink.aside tested = turn.sink.aside tested :=
    (aside_erase turn.sink session tested).trans (if_neg other)
  cases prepared : turn.sink.switches[session]? with
  | none =>
      rw [closed_of_unprepared prepared]
      exact ⟨rfl, registry, quiet, fun _ => id⟩
  | some switch =>
      rw [closed_of_prepared prepared]
      have found : (turn.quiet session).sink.switches[session]? = some switch := prepared
      cases something :
          (releasable switch (HandleSet.ofKeys switch.handles)).isEmpty with
      | true =>
          rw [release_of_isEmpty found something]
          exact ⟨rfl, registry, quiet, fun tested listed => ((Table.mem_erase_iff ..).1 listed).2⟩
      | false =>
          rw [release_silently found something]
          let released := releasable switch (HandleSet.ofKeys switch.handles)
          have disowned (tested : SessionId) (other : session ≠ tested) :
              ((turn.quiet session).disown session switch released false).sink.aside tested =
                turn.sink.aside tested := by
            refine (aside_modify (turn.quiet session).sink session tested _ rfl).trans ?_
            rw [if_neg other]
            exact quiet tested other
          have before (tested : SessionId)
              (listed :
                tested ∈
                  ((turn.quiet session).disown session switch released false).sink.switches.erase
                    session) : tested ∈ turn.sink.switches := by
            rw [Table.mem_erase_iff, switches_disown, Std.ExtTreeMap.mem_insert,
              Std.compare_eq_iff_eq] at listed
            exact listed.2.resolve_left listed.1
          unfold stopIfIdle
          split
          · exact ⟨rfl, registry, disowned, before⟩
          · exact ⟨rfl, registry, disowned, before⟩

/-! ## Requests -/

/-- A sink reacts, its books agree, and nothing is lost. -/
structure Tends (turn : Turn (Port Parcel) κ) (base : View) (device : DeviceId) (route : Route)
    (hand : List RelayToken) (injected : List (DeviceId × InputEvent))
    (routed : List InputEvent) : Prop where
  books : Books turn.sink
  delivers : turn.Delivers base device route hand injected routed

namespace Tends

/-- A session with a switch is that of a way to the sink. -/
theorem accepted (tends : turn.Tends base device route hand injected routed)
    (switched : session ∈ turn.sink.switches) :
    ∃ link, base.ways session = some link ∧ link.acceptor = ⟨device, .sink⟩ := by
  obtain ⟨switch, found⟩ := (Table.mem_iff_exists _ _).1 switched
  have known := tends.books.peer_of_switch session switch found
  obtain ⟨channel, entered, _⟩ := Option.map_eq_some_iff.1 known
  obtain ⟨link, way, accepts, _⟩ := tends.delivers.charted entered
  exact ⟨link, way, accepts⟩

theorem flushSession (tends : turn.Tends base device route hand injected routed)
    (session : SessionId) :
    (turn.flushSession session).Tends base device route hand injected routed := by
  refine ⟨tends.books.flushSession session, ?_⟩
  cases waiting : turn.sink.outbox[session]? with
  | none =>
      rw [Turn.flushSession, waiting]
      exact tends.delivers
  | some events =>
      have switched :=
        tends.books.switch_of_outbox session (Table.mem_of_getElem? waiting)
      obtain ⟨link, way, accepts⟩ := tends.accepted switched
      exact tends.delivers.flushSession way accepts switched

theorem flush (tends : turn.Tends base device route hand injected routed) :
    turn.flush.Tends base device route hand injected routed := by
  unfold Turn.flush
  induction turn.sink.outbox.keys generalizing turn with
  | nil => exact tends
  | cons session rest inductionHypothesis => exact inductionHypothesis (tends.flushSession session)

variable [Collector κ] {via : Via}

omit [Collector κ] in
theorem answer
    (tends :
      turn.Tends base device route (if session = route.session then via.token?.toList else [])
        injected routed)
    (way : base.ways session = some link) (accepts : link.acceptor = ⟨device, .sink⟩)
    (reply : Reply) : (turn.answer session via reply).Tends base device route [] injected routed :=
  ⟨tends.books.of_sent (sent_post ..), tends.delivers.answer way accepts reply⟩

theorem grant (tends : turn.Tends base device route hand injected routed) (session : SessionId)
    (candidates : Table HandleId TypeMask) :
    (turn.grant session candidates).2.Tends base device route hand injected routed :=
  ⟨tends.books.grant session candidates, tends.delivers.grant session candidates⟩

theorem release (tends : turn.Tends base device route hand injected routed)
    (way : base.ways session = some link) (accepts : link.acceptor = ⟨device, .sink⟩)
    (requested : HandleSet) :
    (turn.release session requested true).2.Tends base device route hand injected routed :=
  ⟨tends.books.release session requested true, tends.delivers.release way accepts requested⟩

omit [Collector κ] in
/-- A session that owns nothing and for which nothing waits may be forgotten. -/
theorem forget (tends : turn.Tends base device route hand injected routed)
    (nothing : ∀ handle : HandleId, turn.sink.owners[handle]? ≠ some session)
    (emptied : turn.sink.aside session = []) :
    ({ turn with
        sink :=
          { turn.sink with
            switches := turn.sink.switches.erase session
            outbox := turn.sink.outbox.erase session } } :
      Turn (Port Parcel) κ).Tends base device route hand injected routed := by
  refine ⟨?_, ?_⟩
  · refine tends.books.forget nothing (fun tested => Table.getElem?_erase_eq ..) rfl rfl
      (fun _ _ => rfl) ?_
    intro tested member
    exact (Table.mem_erase_iff ..).1 member
  · refine tends.delivers.of_same _ rfl rfl ?_ ?_
    · refine (aside_erase turn.sink session route.session).trans ?_
      split
      · next same =>
        rw [← same]
        exact emptied.symm
      · rfl
    · intro tested member
      exact ((Table.mem_erase_iff ..).1 member).2

section Requests

variable
  (tends :
    turn.Tends base device route (if session = route.session then via.token?.toList else [])
      injected routed)
  (way : base.ways session = some link) (accepts : link.acceptor = ⟨device, .sink⟩)

include tends way accepts

omit [Collector κ] in
theorem onPrepare : (turn.onPrepare session via).Tends base device route [] injected routed := by
  unfold Turn.onPrepare
  split
  · exact ⟨tends.books, tends.delivers.drop (List.nil_sublist _)⟩
  · next peer known =>
    exact ⟨(tends.books.prepare known).of_sent (sent_post ..), tends.delivers.prepare way accepts⟩

theorem onUnprepare :
    (turn.onUnprepare session via).Tends base device route [] injected routed := by
  unfold Turn.onUnprepare
  split
  · exact tends.answer way accepts _
  · next switch prepared =>
    let released := (turn.release session (HandleSet.ofKeys switch.handles) true).2
    have flushed :=
      (tends.release way accepts (HandleSet.ofKeys switch.handles)).flushSession session
    have emptied : (released.flushSession session).sink.aside session = [] :=
      aside_of_sent (sent_flushSession released session)
    have nothing (handle : HandleId) :
        (released.flushSession session).sink.owners[handle]? ≠ some session := by
      rw [owners_flushSession]
      exact owners_release_all prepared (tends.books.owned_iff prepared) true handle
    exact (flushed.forget nothing emptied).answer way accepts _

theorem onStartByType (types : TypeMask) :
    (turn.onStartByType session via types).Tends base device route [] injected routed := by
  obtain ⟨candidates, status, granted, starts⟩ := turn.onStartByType_eq session types
  rw [starts]
  exact (tends.grant session candidates).answer way accepts _

theorem onStartByHandles (handles : HandleSet) :
    (turn.onStartByHandles session via handles).Tends base device route [] injected routed := by
  obtain ⟨candidates, status, granted, starts⟩ := turn.onStartByHandles_eq session handles
  rw [starts]
  exact (tends.grant session candidates).answer way accepts _

theorem onStopByType (types : TypeMask) :
    (turn.onStopByType session via types).Tends base device route [] injected routed := by
  unfold Turn.onStopByType
  split
  · exact tends.answer way accepts _
  · next switch prepared =>
    refine answer (release ⟨tends.books.reclass prepared ?_, ?_⟩ way accepts _) way accepts _
    · intro handle
      exact Std.ExtTreeMap.mem_map
    · refine tends.delivers.of_same _ rfl rfl rfl ?_
      intro tested listed
      rcases Std.ExtTreeMap.mem_insert.1 listed with same | before
      · rw [← Std.LawfulEqCmp.eq_of_compare same]
        exact Table.mem_of_getElem? prepared
      · exact before

theorem onStopByHandles (handles : HandleSet) :
    (turn.onStopByHandles session via handles).Tends base device route [] injected routed := by
  unfold Turn.onStopByHandles
  split
  · exact tends.answer way accepts _
  · exact (tends.release way accepts handles).answer way accepts _

theorem serve (request : Request) :
    (turn.serve session via request).Tends base device route [] injected routed := by
  cases request with
  | prepare => exact tends.onPrepare way accepts
  | unprepare => exact tends.onUnprepare way accepts
  | startByType types => exact tends.onStartByType way accepts types
  | stopByType types => exact tends.onStopByType way accepts types
  | startByHandles handles => exact tends.onStartByHandles way accepts handles
  | stopByHandles handles => exact tends.onStopByHandles way accepts handles

end Requests

/-- Whatever message a sink takes, the token that came with it goes back or is lost. -/
theorem handle {message : Message}
    (tends :
      turn.Tends base device route
        (if session = route.session then message.asked?.toList else []) injected routed)
    (way : base.ways session = some link) (accepts : link.acceptor = ⟨device, .sink⟩) :
    (turn.handle session message).Tends base device route [] injected routed := by
  have dropped : turn.Tends base device route [] injected routed :=
    ⟨tends.books, tends.delivers.drop (List.nil_sublist _)⟩
  cases message with
  | request _ request =>
      have direct :
          turn.Tends base device route
            (if session = route.session then Via.direct.token?.toList else []) injected routed :=
        tends
      exact direct.serve way accepts request
  | relayed token _ request =>
      have passedOn :
          turn.Tends base device route
            (if session = route.session then (Via.relayed token).token?.toList else []) injected
            routed :=
        tends
      exact passedOn.serve way accepts request
  | latencyProbe _ sentAtUs =>
      exact ⟨dropped.books.of_sent (sent_post ..), dropped.delivers.post way accepts rfl rfl rfl⟩
  | _ => exact dropped

/-! ## Captured events -/

omit [Collector κ] in
/-- A captured event is put aside for the owner of its handle. -/
theorem collect (tends : turn.Tends base device route [] injected routed) {event : InputEvent}
    {session : SessionId} (owned : turn.sink.owners[event.handle]? = some session) :
    (turn.collect session event).Tends base device route [] injected
      (routed ++ if device = route.sink ∧ session = route.session then [event] else []) := by
  obtain ⟨switch, prepared, _⟩ := (tends.books.owner_iff event.handle session).1 owned
  obtain ⟨link, way, _⟩ := tends.accepted (Table.mem_of_getElem? prepared)
  have charted := tends.delivers.charted
  obtain ⟨books, view, posed, running⟩ := tends
  rw [← posed.ways_eq] at way charted
  refine ⟨books.enqueue owned _, _, posed.withSink (turn.collect session event) rfl, ?_⟩
  refine running.collect (turn.collect session event).sink charted way ?_ ?_
  · intro tested
    rw [posed.sink_eq]
    exact turn.aside_collect session tested event
  · rw [posed.sink_eq]
    rfl

omit [Collector κ] in
/-- A captured event is put aside for the owner of its handle, and it may be sent at once. -/
theorem captured (tends : turn.Tends base device route [] injected routed) (event : InputEvent) :
    (turn.captured event).2.Tends base device route [] injected
      (routed ++
        if device = route.sink ∧ (turn.capture event).channel? = some route.session then [event]
        else []) := by
  rcases turn.captured_cases event with stays | ⟨session, owned, goes⟩
  · have nowhere : (turn.capture event).channel? = none := by
      rw [capture, Capture.channel?, stays]
    have elsewhere : ¬(device = route.sink ∧ none = some route.session) := by
      rintro ⟨_, given⟩
      cases given
    rw [stays, nowhere, if_neg elsewhere, List.append_nil]
    exact tends
  · have routedTo : (turn.capture event).channel? = some session := by
      rw [capture, Capture.channel?, goes]
      exact owned
    have collected := tends.collect owned
    rw [goes, routedTo]
    simp only [Option.some.injEq]
    split
    · exact collected.flushSession session
    · exact collected

/-! ## Channels -/

section Events

variable {event : TransportEvent Parcel} {left : List (TransportEvent Parcel)}

omit [Collector κ] in
/-- A sink hears of a channel that a source has opened to it. -/
theorem opened (delivers : view.Delivers route True [] injected routed) (books : Books turn.sink)
    (line : turn.line = ⟨view.hub, ⟨device, .sink⟩⟩) (sink : view.sinks device = turn.sink)
    {peer : DeviceId} (first : view.held ⟨device, .sink⟩ = .opened session peer :: left) :
    (turn.opened session peer).Tends (view.take ⟨device, .sink⟩ left) device route [] injected
      routed := by
  obtain ⟨link, way, suits⟩ := delivers.charted.first first
  have charted := delivers.charted.sinks device
  rw [sink] at charted
  obtain ⟨accepts, caller⟩ : link.acceptor = ⟨device, .sink⟩ ∧ link.opener.device = peer := by
    cases suits with
    | opened accepts caller => exact ⟨accepts, caller⟩
  have begun :
      Posed (view.take ⟨device, .sink⟩ left) device (view.take ⟨device, .sink⟩ left) turn :=
    .begins line sink
  have taken : (view.take ⟨device, .sink⟩ left).Delivers route True [] injected routed :=
    delivers.take first rfl nofun
  refine ⟨books.opened ?_, _, begun.withSink (turn.opened session peer) rfl,
    taken.withSink ?_ ?_ ?_⟩
  · intro known entered
    obtain ⟨channel, found, same⟩ := Option.map_eq_some_iff.1 entered
    obtain ⟨other, sameWay, _, there⟩ := charted found
    obtain rfl : other = link := Option.some.inj (sameWay.symm.trans way)
    rw [← same, ← there, caller]
  · intro tested channel found
    change (turn.sink.registry.bySession.insert session _)[tested]? = _ at found
    rw [Table.getElem?_insert_eq] at found
    split at found
    · next same =>
      rw [← same, ← Option.some.inj found]
      exact ⟨link, way, accepts, caller⟩
    · exact charted found
  · intro _ _
    rw [show (view.take ⟨device, .sink⟩ left).sinks device = turn.sink from sink]
    rfl
  · intro _ _
    rw [show (view.take ⟨device, .sink⟩ left).sinks device = turn.sink from sink]
    exact id

/-- A sink that hears that a channel is gone forgets all about it, and nothing else. -/
theorem closed (delivers : view.Delivers route True [] injected routed) (books : Books turn.sink)
    (line : turn.line = ⟨view.hub, ⟨device, .sink⟩⟩) (sink : view.sinks device = turn.sink)
    (first : view.held ⟨device, .sink⟩ = .closed session :: left) :
    (turn.closed session).Tends (view.take ⟨device, .sink⟩ left) device route [] injected
      routed := by
  have charted := delivers.charted.sinks device
  rw [sink] at charted
  have begun :
      Posed (view.take ⟨device, .sink⟩ left) device (view.take ⟨device, .sink⟩ left) turn :=
    .begins line sink
  obtain ⟨sameLine, bySession, aside, switches⟩ := turn.closed_spec session
  refine ⟨books.closed session, _, begun.withSink (turn.closed session) sameLine,
    delivers.deafen first ?_ ?_ ?_⟩
  · intro tested channel found
    rw [bySession, Table.getElem?_erase_eq] at found
    split at found
    · cases found
    · exact charted found
  · intro other
    rw [sink]
    exact aside _ other
  · intro _ listed
    rw [sink]
    exact switches _ listed

theorem transport (delivers : view.Delivers route True [] injected routed)
    (books : Books turn.sink) (line : turn.line = ⟨view.hub, ⟨device, .sink⟩⟩)
    (sink : view.sinks device = turn.sink)
    (first : view.held ⟨device, .sink⟩ = event :: left) :
    ((SinkEvent.transport event).react turn).Tends (view.take ⟨device, .sink⟩ left) device route []
      injected routed := by
  cases event with
  | opened session peer => exact opened delivers books line sink first
  | closed session => exact closed delivers books line sink first
  | frame session parcel =>
      obtain ⟨link, way, suits⟩ := delivers.charted.first first
      have accepts : link.acceptor = ⟨device, .sink⟩ := by
        apply suits.ends.resolve_left
        intro opens
        have opener := delivers.charted.opener_role way
        rw [opens] at opener
        cases opener
      obtain ⟨sequence, message, rfl⟩ :
          ∃ sequence message, parcel = .composed sequence message := by
        cases suits with
        | frame _ _ => exact ⟨_, _, rfl⟩
      rw [Taking.react_frame]
      have begun :
          Posed (view.take ⟨device, .sink⟩ left) device (view.take ⟨device, .sink⟩ left) turn :=
        .begins line sink
      exact handle ⟨books, _, begun, delivers.listen first⟩ way accepts

end Events

end Tends

end InputSharing.Sink.Turn
