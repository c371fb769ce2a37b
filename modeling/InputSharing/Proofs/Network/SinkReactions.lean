import InputSharing.Network.Reaction
import InputSharing.Proofs.Network.SinkStage

/-!
# Reactions of sinks

A sink answers every request whose channel is still there, on the channel on
which the request came.  Nobody waits for the answers to other requests.
-/

namespace InputSharing

namespace Scene

/-- Which sessions a sink knows does not matter for what is waited for. -/
theorem Consistent.withSink {scene : Scene} {hand : List Burden}
    (consistent : scene.Consistent none hand) {device : DeviceId} {known : SessionId → Prop}
    (kept :
      ∀ session link, scene.links session = some link → scene.sinks device session →
        known session) :
    (scene.withSink device known).Consistent none hand where
  wired := consistent.wired.withSink kept
  orderly := fun member => consistent.orderly member
  accounted :=
    ⟨consistent.accounted.tidy, consistent.accounted.addressed, consistent.accounted.origins,
      consistent.accounted.balance⟩

end Scene

namespace Sink.Turn

open Hub (Port)

variable {κ : Type}

theorem Staged.withSink {setting : Setting} {device : DeviceId} {scene : Scene}
    {turn after : Turn (Port Parcel) κ} (staged : Staged setting device scene turn)
    (line : after.line = turn.line) :
    Staged setting device
      (scene.withSink device fun session => session ∈ after.sink.registry.bySession) after where
  shows := by
    rw [line]
    exact staged.shows.withSink device _
  here_eq := by
    rw [line]
    exact staged.here_eq
  sender_eq := staged.sender_eq
  knows_iff := by
    intro session
    rw [Scene.sinks_withSink_self]
  others_eq := by
    intro other different
    rw [Scene.sinks_withSink_of_ne different]
    exact staged.others_eq different
  links_eq := staged.links_eq
  sources_eq := staged.sources_eq
  registered_eq := staged.registered_eq

/-! ## Answers -/

/-- What has to be answered: a request whose channel is there, or nothing. -/
inductive Due (setting : Setting) (device : DeviceId) (session : SessionId) (via : Via)
    (request : Request) : List Burden → Prop
  | answer {caller : DeviceId}
      (linked : setting.base.links session = some ⟨⟨caller, .source⟩, ⟨device, .sink⟩⟩) :
      Due setting device session via request [.lane session via request setting.cause.call]
  | nothing (gone : setting.base.links session = none) :
      Due setting device session via request []

namespace Stands

variable {setting : Setting} {device : DeviceId} {hand : List Burden}
  {turn : Turn (Port Parcel) κ} {session : SessionId} {via : Via} {request : Request}

theorem answer (stands : Stands setting device hand turn)
    (due : Due setting device session via request hand) {reply : Reply}
    (replies : reply.request = request) :
    Stands setting device [] (turn.answer session via reply) := by
  obtain ⟨scene, staged, wired, orderly, accounted⟩ := stands
  cases due with
  | nothing gone =>
      rw [← staged.links_eq] at gone
      exact ⟨scene, staged.post_gone gone _, wired, orderly, accounted⟩
  | @answer caller linked =>
      rw [← staged.links_eq] at linked
      have leads :
          (⟨⟨caller, .source⟩, ⟨device, .sink⟩⟩ : Link).otherEnd ⟨device, .sink⟩ =
            ⟨caller, .source⟩ := by
        rw [Link.otherEnd, if_neg]
        intro same
        cases same
      let message := via.message turn.sink.device reply
      have noAsk : message.ask? session setting.cause.call = none := by
        cases via <;> rfl
      have answers :
          message.answer? caller session setting.cause.call =
            some (.lane session via request setting.cause.call) := by
        rw [← replies]
        cases via <;> rfl
      have place :
          scene.answeredAt (.lane session via request setting.cause.call) =
            some ⟨caller, .source⟩ := by
        rw [Scene.answeredAt, Scene.lane?, linked]
        rfl
      have fits :
          message.Fits scene.links ⟨caller, .source⟩ setting.cause.sender session := by
        rw [staged.sender_eq]
        have agrees (link : Link) (found : scene.links session = some link) :
            link = ⟨⟨caller, .source⟩, ⟨device, .sink⟩⟩ ∧
              (⟨device, .sink⟩ : Endpoint).role = .sink := by
          rw [linked] at found
          cases found
          exact ⟨rfl, rfl⟩
        cases via with
        | direct => exact agrees
        | relayed token => exact agrees
      obtain ⟨sequence, posted⟩ := staged.post_linked wired linked message setting.cause.call
      rw [leads] at posted
      refine ⟨_, posted, wired.put_frame (wired.links_numbered linked),
        orderly.put ⟨?_, Or.inl rfl⟩, accounted.put_answer noAsk answers place⟩
      intro tested parcel frame
      cases frame
      exact ⟨sequence, message, rfl, fits⟩

/-! ## Requests -/

theorem onPrepare (stands : Stands setting device hand turn)
    (due : Due setting device session via .prepare hand)
    (known : ∀ link, setting.base.links session = some link →
      session ∈ turn.sink.registry.bySession) :
    Stands setting device [] (turn.onPrepare session via) := by
  rw [Turn.onPrepare]
  split
  · next unknown =>
    cases due with
    | nothing gone => exact stands
    | answer linked =>
        have absent := Table.not_mem_of_getElem? (Option.map_eq_none_iff.1 unknown)
        exact absurd (known _ linked) absent
  · apply answer
    · exact stands.of_same rfl rfl
    · exact due
    · rfl

variable [Collector κ]

theorem onUnprepare (stands : Stands setting device hand turn)
    (due : Due setting device session via .unprepare hand) :
    Stands setting device [] (turn.onUnprepare session via) := by
  rw [Turn.onUnprepare]
  split
  · exact stands.answer due rfl
  · next switch _ =>
    have released := stands.release session (HandleSet.ofKeys switch.handles) true
    have flushed := released.flushSession session
    apply answer
    · exact flushed.of_same rfl rfl
    · exact due
    · rfl

theorem onStartByType (stands : Stands setting device hand turn) {types : TypeMask}
    (due : Due setting device session via (.startByType types) hand) :
    Stands setting device [] (turn.onStartByType session via types) := by
  obtain ⟨candidates, status, granted, starts⟩ := turn.onStartByType_eq session types
  rw [starts]
  exact (stands.grant session candidates).answer due rfl

theorem onStartByHandles (stands : Stands setting device hand turn) {handles : HandleSet}
    (due : Due setting device session via (.startByHandles handles) hand) :
    Stands setting device [] (turn.onStartByHandles session via handles) := by
  obtain ⟨candidates, status, granted, starts⟩ := turn.onStartByHandles_eq session handles
  rw [starts]
  exact (stands.grant session candidates).answer due rfl

theorem onStopByType (stands : Stands setting device hand turn) {types : TypeMask}
    (due : Due setting device session via (.stopByType types) hand) :
    Stands setting device [] (turn.onStopByType session via types) := by
  rw [Turn.onStopByType]
  split
  · exact stands.answer due rfl
  · apply answer
    · apply release
      exact stands.of_same rfl rfl
    · exact due
    · rfl

theorem onStopByHandles (stands : Stands setting device hand turn) {handles : HandleSet}
    (due : Due setting device session via (.stopByHandles handles) hand) :
    Stands setting device [] (turn.onStopByHandles session via handles) := by
  rw [Turn.onStopByHandles]
  split
  · exact stands.answer due rfl
  · exact (stands.release session handles true).answer due rfl

theorem serve (stands : Stands setting device hand turn)
    (due : Due setting device session via request hand)
    (known : ∀ link, setting.base.links session = some link →
      session ∈ turn.sink.registry.bySession) :
    Stands setting device [] (turn.serve session via request) := by
  cases request with
  | prepare => exact stands.onPrepare due known
  | unprepare => exact stands.onUnprepare due
  | startByType types => exact stands.onStartByType due
  | stopByType types => exact stands.onStopByType due
  | startByHandles handles => exact stands.onStartByHandles due
  | stopByHandles handles => exact stands.onStopByHandles due

end Stands

/-! ## Taking what comes -/

/-- A sink has taken the first letter that waited for it. -/
structure Taking (setting : Setting) (device : DeviceId) (before : Scene) (letter : Letter)
    (turn : Turn (Port Parcel) κ) : Prop where
  consistent : before.Consistent none []
  waiting : ∃ rest, before.mail ⟨device, .sink⟩ = letter :: rest
  cause_eq : letter.cause.call = setting.cause.call
  staged : Staged setting device (before.take ⟨device, .sink⟩) turn

namespace Taking

variable {setting : Setting} {device : DeviceId} {before : Scene} {letter : Letter}
  {turn : Turn (Port Parcel) κ} {session : SessionId} {sequence : UInt64} {message : Message}

theorem proper (taking : Taking setting device before letter turn) :
    letter.Proper before.links ⟨device, .sink⟩ := by
  obtain ⟨rest, waiting⟩ := taking.waiting
  apply taking.consistent.orderly
  rw [waiting]
  exact List.mem_cons_self

theorem fits (taking : Taking setting device before letter turn)
    (frame : letter.event = .frame session (.composed sequence message)) :
    message.Fits before.links ⟨device, .sink⟩ letter.cause.sender session := by
  obtain ⟨_, other, same, fits⟩ := taking.proper.fits frame
  cases same
  exact fits

theorem taken (taking : Taking setting device before letter turn) {parcel : Parcel}
    (frame : letter.event = .frame session parcel) {hand : List Burden}
    (accounted : (before.take ⟨device, .sink⟩).Accounted none hand) :
    Stands setting device hand turn := by
  obtain ⟨rest, waiting⟩ := taking.waiting
  obtain ⟨wired, orderly, _⟩ := taking.consistent
  refine ⟨_, taking.staged, wired.take waiting ?_, orderly.take _, accounted⟩
  intro tested peer opened
  rw [frame] at opened
  cases opened

/-- What stands for nothing is dropped. -/
theorem stands_of_idle (taking : Taking setting device before letter turn) {parcel : Parcel}
    (frame : letter.event = .frame session parcel)
    (idle : ∀ burden, before.weight ⟨device, .sink⟩ letter burden = 0) :
    Stands setting device [] turn := by
  obtain ⟨rest, waiting⟩ := taking.waiting
  apply taking.taken frame
  apply taking.consistent.accounted.take waiting
  intro burden
  rw [idle, Nat.add_zero]

/-- A request is in hand if its channel is still there. -/
theorem due_of_request (taking : Taking setting device before letter turn) {via : Via}
    {request : Request} (frame : letter.event = .frame session (.composed sequence message))
    (asks : message.ask? session letter.owner = some (.lane session via request letter.owner))
    (noAnswer : message.answer? device session letter.owner = none)
    (accepts :
      ∀ link, before.links session = some link →
        link.acceptor = ⟨device, .sink⟩ ∧ (⟨device, .sink⟩ : Endpoint).role = .sink) :
    ∃ hand, Due setting device session via request hand ∧ Stands setting device hand turn ∧
      ∀ link, setting.base.links session = some link →
        session ∈ turn.sink.registry.bySession := by
  obtain ⟨rest, waiting⟩ := taking.waiting
  have wired := taking.consistent.wired
  have links : before.links = setting.base.links := taking.staged.links_eq
  cases linked : before.links session with
  | none =>
      have stray : before.askedAt (.lane session via request letter.owner) ≠
          some ⟨device, .sink⟩ := by
        rw [Scene.askedAt, Scene.lane?, linked]
        simp
      refine ⟨[], .nothing (by rw [← links]; exact linked), ?_, ?_⟩
      · apply taking.stands_of_idle frame
        intro burden
        exact Scene.weight_of_stray_ask ((Letter.ask?_of_frame frame).trans asks)
          ((Letter.answer?_of_frame frame _).trans noAnswer) stray
      · intro link found
        rw [← links, linked] at found
        cases found
  | some link =>
      have opener := wired.opener_role linked
      have acceptor := (accepts link linked).1
      have knows := wired.knows_of_head waiting frame linked acceptor
      have silent : ¬letter.event.SaysDisconnected := by
        rintro ⟨_, _, _, _, _, reports, _⟩
        rw [frame] at reports
        cases reports
        cases asks
      have owner : letter.owner = setting.cause.call := by
        rcases taking.proper.agrees with same | disconnected
        · exact same.trans taking.cause_eq
        · exact absurd disconnected silent
      obtain ⟨⟨caller, role⟩, there⟩ := link
      cases opener
      cases acceptor
      have place :
          before.askedAt (.lane session via request letter.owner) = some ⟨device, .sink⟩ := by
        rw [Scene.askedAt, Scene.lane?, linked]
        rfl
      have inHand :=
        taking.consistent.accounted.take_ask waiting ((Letter.ask?_of_frame frame).trans asks)
          ((Letter.answer?_of_frame frame _).trans noAnswer) place
      rw [owner] at inHand
      refine ⟨_, .answer (by rw [← links]; exact linked), taking.taken frame inHand, ?_⟩
      intro _ _
      exact (taking.staged.knows_iff session).1 knows

/-! ## News of channels -/

/-- News of a channel changes what the sink knows, and nothing else. -/
theorem stands_of_news (taking : Taking setting device before letter turn)
    {after : Turn (Port Parcel) κ} (line : after.line = turn.line) (noAsk : letter.ask? = none)
    (noAnswer : letter.answer? device = none)
    (kept :
      ∀ session link, before.links session = some link →
        session ∈ turn.sink.registry.bySession → session ∈ after.sink.registry.bySession)
    (heard :
      ∀ session peer, letter.event = .opened session peer →
        session ∈ after.sink.registry.bySession) :
    Stands setting device [] after := by
  obtain ⟨rest, waiting⟩ := taking.waiting
  let informed := before.withSink device fun session => session ∈ after.sink.registry.bySession
  have consistent : informed.Consistent none [] := by
    apply taking.consistent.withSink
    intro session link linked knows
    exact kept session link linked ((taking.staged.knows_iff session).1 knows)
  have staged : Staged setting device (informed.take ⟨device, .sink⟩) after :=
    taking.staged.withSink line
  have orderly : (informed.take ⟨device, .sink⟩).Orderly :=
    Scene.Orderly.take (fun member => consistent.orderly member) _
  refine ⟨_, staged, consistent.wired.take waiting ?_, orderly, ?_⟩
  · intro session peer opened
    rw [Scene.Knows, Scene.sinks_withSink_self]
    exact heard session peer opened
  · apply consistent.accounted.take waiting
    intro burden
    rw [Scene.weight_of_none noAsk noAnswer, Nat.add_zero]

theorem stands_opened (taking : Taking setting device before letter turn) {peer : DeviceId}
    (opened : letter.event = .opened session peer) :
    Stands setting device [] (turn.opened session peer) := by
  apply taking.stands_of_news
  · rfl
  · rw [Letter.ask?, opened]
  · rw [Letter.answer?, opened]
  · intro other link _ known
    exact Std.ExtTreeMap.mem_insert.2 (Or.inr known)
  · intro other caller again
    rw [opened] at again
    cases again
    exact Std.ExtTreeMap.mem_insert_self

/-! ## Frames -/

/-- What is meant for sources stands for nothing at a sink. -/
theorem idle_of_role (taking : Taking setting device before letter turn)
    (frame : letter.event = .frame session (.composed sequence message))
    (foreign : message.role ≠ .sink) (burden : Burden) :
    before.weight ⟨device, .sink⟩ letter burden = 0 := by
  have wired := taking.consistent.wired
  have stray {via : Via} {request : Request}
      (noAsk : message.ask? session letter.owner = none)
      (answers :
        message.answer? device session letter.owner =
          some (.lane session via request letter.owner)) :
      before.weight ⟨device, .sink⟩ letter burden = 0 := by
    refine Scene.weight_of_stray_answer ((Letter.ask?_of_frame frame).trans noAsk)
      ((Letter.answer?_of_frame frame _).trans answers) ?_
    intro place
    cases Scene.role_of_answeredAt wired place
  cases message with
  | request _ _ => exact absurd rfl foreign
  | latencyProbe _ _ => exact absurd rfl foreign
  | relayed _ _ _ => exact absurd rfl foreign
  | reply _ _ => exact stray rfl rfl
  | relayedReply _ _ _ => exact stray rfl rfl
  | relayRequest _ _ _ _ =>
      exact Scene.weight_of_stray_ask (Letter.ask?_of_frame frame)
        (Letter.answer?_of_frame frame _) nofun
  | relayResult _ _ _ =>
      exact Scene.weight_of_stray_answer (Letter.ask?_of_frame frame)
        (Letter.answer?_of_frame frame _) nofun
  | keyState _ _ => exact Scene.weight_of_report frame rfl rfl
  | keyStates _ _ => exact Scene.weight_of_report frame rfl rfl
  | inputEvents _ _ => exact Scene.weight_of_report frame rfl rfl
  | latencyEcho _ _ => exact Scene.weight_of_report frame rfl rfl

variable [Collector κ]

theorem handle_of_role (session : SessionId) (foreign : message.role ≠ .sink)
    (turn : Turn (Port Parcel) κ) : turn.handle session message = turn := by
  cases message with
  | request _ _ => exact absurd rfl foreign
  | latencyProbe _ _ => exact absurd rfl foreign
  | relayed _ _ _ => exact absurd rfl foreign
  | reply _ _ => rfl
  | relayedReply _ _ _ => rfl
  | relayRequest _ _ _ _ => rfl
  | relayResult _ _ _ => rfl
  | keyState _ _ => rfl
  | keyStates _ _ => rfl
  | inputEvents _ _ => rfl
  | latencyEcho _ _ => rfl

theorem stands_handle (taking : Taking setting device before letter turn)
    (frame : letter.event = .frame session (.composed sequence message)) :
    Stands setting device [] (turn.handle session message) := by
  by_cases role : message.role = .sink
  · cases message with
    | request _ request =>
        obtain ⟨hand, due, stands, known⟩ :=
          taking.due_of_request frame rfl rfl (taking.fits frame)
        exact stands.serve due known
    | relayed token _ request =>
        obtain ⟨hand, due, stands, known⟩ :=
          taking.due_of_request frame rfl rfl (taking.fits frame)
        exact stands.serve due known
    | latencyProbe _ _ =>
        have idle := taking.stands_of_idle frame fun _ => Scene.weight_of_report frame rfl rfl
        apply idle.post
        exact ⟨fun _ _ => rfl, fun _ _ _ => rfl, fun _ _ _ _ => trivial⟩
    | reply _ _ => cases role
    | relayedReply _ _ _ => cases role
    | relayRequest _ _ _ _ => cases role
    | relayResult _ _ _ => cases role
    | keyState _ _ => cases role
    | keyStates _ _ => cases role
    | inputEvents _ _ => cases role
    | latencyEcho _ _ => cases role
  · rw [handle_of_role session role]
    exact taking.stands_of_idle frame (taking.idle_of_role frame role)

theorem react_frame (turn : Turn (Port Parcel) κ) (session : SessionId) (sequence : UInt64)
    (message : Message) :
    (SinkEvent.transport (.frame session (.composed sequence message))).react turn =
      turn.handle session message := by
  rw [SinkEvent.react, Dispatched.dispatch, Parcel.read]
  dsimp only
  split
  · rfl
  · next foreign => exact (handle_of_role session foreign turn).symm

/-! ## Any event of the transport -/

theorem stands_closed (taking : Taking setting device before letter turn)
    (closed : letter.event = .closed session) :
    Stands setting device [] (turn.closed session) := by
  obtain ⟨rest, waiting⟩ := taking.waiting
  have listed : letter ∈ before.mail ⟨device, .sink⟩ := by
    rw [waiting]
    exact List.mem_cons_self
  have gone := (taking.consistent.wired.closed_gone listed closed).2
  let silenced : Turn (Port Parcel) κ :=
    { turn with
      sink :=
        { turn.sink with
          registry := (turn.sink.registry.closed session).2
          outbox := turn.sink.outbox.erase session } }
  have silent : Stands setting device [] silenced := by
    apply taking.stands_of_news
    · rfl
    · rw [Letter.ask?, closed]
    · rw [Letter.answer?, closed]
    · intro other link linked known
      change other ∈ (turn.sink.registry.closed session).2.bySession
      rw [Registry.bySession_closed]
      refine (Table.mem_erase_iff _ _ _).2 ⟨?_, known⟩
      intro same
      rw [← same, gone] at linked
      cases linked
    · intro other caller opened
      rw [closed] at opened
      cases opened
  rw [Turn.closed]
  dsimp only
  split
  · exact silent
  · next switch _ =>
    exact (silent.release session (HandleSet.ofKeys switch.handles) false).of_same rfl rfl

/-- Whatever the transport reports to a sink, all is well afterwards. -/
theorem stands_transport (taking : Taking setting device before letter turn) :
    Stands setting device [] ((SinkEvent.transport letter.event).react turn) := by
  cases event : letter.event with
  | opened session peer => exact taking.stands_opened event
  | closed session => exact taking.stands_closed event
  | frame session parcel =>
      obtain ⟨sequence, message, composed, _⟩ := taking.proper.fits event
      rw [composed] at event ⊢
      rw [react_frame]
      exact taking.stands_handle event

end Taking

end Sink.Turn

end InputSharing
