import InputSharing.Proofs.Network.SourceSteps

/-!
# Reactions of sources

A source takes the first event that waits for it.  If the event answers a call
then that call is the one to which the event is put down.
-/

namespace InputSharing

namespace Source.Turn

open Hub (Port)

/-- A reaction is over, and all is well. -/
def Rests (setting : Setting) (device : DeviceId) (turn : Turn (Port Parcel)) : Prop :=
  ∃ scene, Staged setting device scene turn ∧ scene.Consistent none []

/-- A source has taken the first letter that waited for it. -/
structure Taking (setting : Setting) (device : DeviceId) (before : Scene) (letter : Letter)
    (turn : Turn (Port Parcel)) : Prop where
  consistent : before.Consistent none []
  waiting : ∃ rest, before.mail ⟨device, .source⟩ = letter :: rest
  cause_eq : letter.cause.call = setting.cause.call
  ends :
    ∀ {call ticket outcome}, (call, ticket) ∈ (before.sources device).waiting →
      letter.event.Answers outcome call → letter.cause = ⟨some ticket, call.remote⟩ →
      setting.ends ⟨ticket, outcome⟩
  staged : Staged setting device (before.take ⟨device, .source⟩) turn

namespace Taking

variable {setting : Setting} {device : DeviceId} {before : Scene} {letter : Letter}
  {turn : Turn (Port Parcel)} {session : SessionId} {sequence : UInt64}

theorem standing_eq (taking : Taking setting device before letter turn) :
    before.sources device = turn.source.standing :=
  taking.staged.standing_eq

theorem proper (taking : Taking setting device before letter turn) :
    letter.Proper before.links ⟨device, .source⟩ := by
  obtain ⟨rest, waiting⟩ := taking.waiting
  apply taking.consistent.orderly
  rw [waiting]
  exact List.mem_cons_self

theorem fits (taking : Taking setting device before letter turn) {message : Message}
    (frame : letter.event = .frame session (.composed sequence message)) :
    message.Fits before.links ⟨device, .source⟩ letter.cause.sender session := by
  obtain ⟨_, other, same, fits⟩ := taking.proper.fits frame
  cases same
  exact fits

/-- What does not report that a channel is gone is about the call it is put down to. -/
theorem owner_eq (taking : Taking setting device before letter turn)
    (reports : ¬letter.event.SaysDisconnected) : letter.owner = setting.cause.call := by
  rcases taking.proper.agrees with same | disconnected
  · exact same.trans taking.cause_eq
  · exact absurd disconnected reports

theorem taken (taking : Taking setting device before letter turn) {parcel : Parcel}
    (frame : letter.event = .frame session parcel) {hand : List Burden}
    (accounted : (before.take ⟨device, .source⟩).Accounted none hand) :
    (before.take ⟨device, .source⟩).Consistent none hand := by
  obtain ⟨rest, waiting⟩ := taking.waiting
  obtain ⟨wired, orderly, _⟩ := taking.consistent
  refine ⟨wired.take waiting ?_, orderly.take _, accounted⟩
  intro tested peer opened
  rw [frame] at opened
  cases opened

/-! ## What is dropped -/

theorem rests_of_idle (taking : Taking setting device before letter turn) {parcel : Parcel}
    (frame : letter.event = .frame session parcel)
    (idle : ∀ burden, before.weight ⟨device, .source⟩ letter burden = 0)
    {after : Turn (Port Parcel)} (line : after.line = turn.line)
    (named : after.source.device = turn.source.device)
    (standing : after.source.standing = turn.source.standing)
    (completions : after.completions = turn.completions) : Rests setting device after := by
  obtain ⟨rest, waiting⟩ := taking.waiting
  refine ⟨_, taking.staged.of_same line named standing completions, taking.taken frame ?_⟩
  apply taking.consistent.accounted.take waiting
  intro burden
  rw [idle, Nat.add_zero]

theorem unknown_iff (taking : Taking setting device before letter turn) :
    turn.source.registry.peer? session = none ↔
      session ∉ (before.sources device).bySession := by
  rw [taking.standing_eq, Registry.peer?, Option.map_eq_none_iff]
  exact ⟨Table.not_mem_of_getElem?, fun absent => Std.ExtTreeMap.getElem?_eq_none absent⟩

/-- Answers on a channel that the source does not know are dropped. -/
theorem idle_of_unknown (taking : Taking setting device before letter turn) {message : Message}
    {via : Sink.Via} {request : Request}
    (frame : letter.event = .frame session (.composed sequence message))
    (noAsk : message.ask? session letter.owner = none)
    (answers :
      message.answer? device session letter.owner =
        some (.lane session via request letter.owner))
    (unknown : turn.source.registry.peer? session = none) (burden : Burden) :
    before.weight ⟨device, .source⟩ letter burden = 0 := by
  refine Scene.weight_of_stray_answer ((Letter.ask?_of_frame frame).trans noAsk)
    ((Letter.answer?_of_frame frame _).trans answers) ?_
  intro place
  obtain ⟨link, lane, here⟩ := Option.map_eq_some_iff.1 place
  have linked := (Option.filter_eq_some_iff.1 lane).1
  have knows := taking.consistent.wired.opener_knows linked
  rw [here] at knows
  exact taking.unknown_iff.1 unknown knows

/-! ## Answers of sinks -/

/-- An answer of a sink comes on the channel on which the source reaches the sink. -/
theorem way_of_answer (taking : Taking setting device before letter turn) {peer : DeviceId}
    (fits :
      ∀ link, before.links session = some link →
        link = ⟨⟨device, .source⟩, letter.cause.sender⟩ ∧ letter.cause.sender.role = .sink)
    (known : turn.source.registry.peer? session = some peer) :
    letter.cause.sender = ⟨peer, .sink⟩ ∧
      (before.sources device).byPeer[(⟨peer, .sink⟩ : Endpoint)]? = some session := by
  obtain ⟨channel, found, same⟩ := Option.map_eq_some_iff.1 known
  have wired := taking.consistent.wired
  have entered : (before.sources device).bySession[session]? = some channel := by
    rw [taking.standing_eq]
    exact found
  obtain ⟨link, linked, _, leads⟩ := wired.known entered
  obtain ⟨opens, toSink⟩ := fits link linked
  rw [opens] at linked leads
  have way := wired.way linked toSink
  rw [Link.otherEnd, if_pos rfl] at leads
  change letter.cause.sender = channel.remote at leads
  have sender : letter.cause.sender = ⟨peer, .sink⟩ := by
    rw [leads] at toSink ⊢
    rw [Channel.remote, same] at toSink ⊢
    rw [show channel.remoteRole = .sink from toSink]
  refine ⟨sender, ?_⟩
  rw [← sender]
  exact way

theorem rests_retireIfUnprepared {scene : Scene} (staged : Staged setting device scene turn)
    (consistent : scene.Consistent none []) {sink : DeviceId} {session : SessionId}
    (way : (scene.sources device).byPeer[(⟨sink, .sink⟩ : Endpoint)]? = some session)
    (reply : Reply) : Rests setting device (turn.retireIfUnprepared sink reply) := by
  rw [retireIfUnprepared.eq_def]
  split
  · split
    · exact staged.retire consistent way
    · exact ⟨scene, staged, consistent⟩
  · exact ⟨scene, staged, consistent⟩

theorem standing_absorb (turn : Turn (Port Parcel)) (sink : DeviceId) (reply : Reply) :
    (turn.absorb sink reply).line = turn.line ∧
      (turn.absorb sink reply).source.device = turn.source.device ∧
      (turn.absorb sink reply).source.standing = turn.source.standing ∧
      (turn.absorb sink reply).completions = turn.completions := by
  unfold absorb
  split
  · split
    · exact ⟨rfl, rfl, rfl, rfl⟩
    · exact ⟨rfl, rfl, rfl, rfl⟩
    · exact ⟨rfl, rfl, rfl, rfl⟩
  · exact ⟨rfl, rfl, rfl, rfl⟩

theorem rests_onReply (taking : Taking setting device before letter turn) {named peer : DeviceId}
    {reply : Reply}
    (frame : letter.event = .frame session (.composed sequence (.reply named reply)))
    (known : turn.source.registry.peer? session = some peer) :
    Rests setting device (turn.onReply peer reply) := by
  obtain ⟨rest, waiting⟩ := taking.waiting
  have wired := taking.consistent.wired
  obtain ⟨sender, way⟩ := taking.way_of_answer (taking.fits frame) known
  have lane := Scene.lane?_of_way wired way
  have place :
      before.answeredAt (.lane session .direct reply.request letter.owner) =
        some ⟨device, .source⟩ := by
    rw [Scene.answeredAt, lane]
    rfl
  have inHand :=
    taking.consistent.accounted.take_answer waiting (Letter.ask?_of_frame frame)
      (Letter.answer?_of_frame frame _) place
  have taken := taking.taken frame inHand
  obtain ⟨ticket, owner, listed⟩ := inHand.call_of_lane (Option.some_ne_none _).symm lane
  have silent : ¬letter.event.SaysDisconnected := by
    rintro ⟨_, _, _, _, _, reports, _⟩
    rw [frame] at reports
    cases reports
  have cause : letter.cause = ⟨some ticket, ⟨peer, .sink⟩⟩ := by
    rw [← sender, ← owner, taking.owner_eq silent, ← taking.cause_eq]
  have credited : setting.Credits ⟨ticket, reply.outcome⟩ :=
    Or.inr (taking.ends listed ⟨session, sequence, named, reply, frame, rfl, rfl⟩ cause)
  have weights (tested : Burden) :
      (before.take ⟨device, .source⟩).claimWeight device (.direct peer reply.request, ticket)
          tested =
        [Burden.lane session .direct reply.request letter.owner].count tested := by
    rw [owner]
    exact Scene.claimWeight_direct taken.wired way
  obtain ⟨line, same, standing, completions⟩ := standing_absorb turn peer reply
  have absorbed := taking.staged.of_same line same standing completions
  have completed := absorbed.complete (inHand.tidy device).keys_nodup listed credited
  have settled := inHand.settle listed weights
  exact rests_retireIfUnprepared completed
    ⟨taken.wired.withSource rfl rfl, taken.orderly, settled⟩
    (by rw [Scene.sources_withSource_self]; exact way) reply

theorem rests_onRelayedReply (taking : Taking setting device before letter turn)
    {named peer : DeviceId} {token : RelayToken} {reply : Reply}
    (frame : letter.event = .frame session (.composed sequence (.relayedReply token named reply)))
    (known : turn.source.registry.peer? session = some peer) :
    Rests setting device (turn.onRelayedReply peer token reply) := by
  obtain ⟨rest, waiting⟩ := taking.waiting
  obtain ⟨sender, way⟩ := taking.way_of_answer (taking.fits frame) known
  have lane := Scene.lane?_of_way taking.consistent.wired way
  have place :
      before.answeredAt (.lane session (.relayed token) reply.request letter.owner) =
        some ⟨device, .source⟩ := by
    rw [Scene.answeredAt, lane]
    rfl
  have asked : reply.request = reply.toResult.request := by cases reply <;> rfl
  have inHand :=
    taking.consistent.accounted.take_answer waiting (Letter.ask?_of_frame frame)
      (Letter.answer?_of_frame frame _) place
  rw [asked] at inHand
  have silent : ¬letter.event.SaysDisconnected := by
    rintro ⟨_, _, _, _, _, reports, _⟩
    rw [frame] at reports
    cases reports
  obtain ⟨line, same, standing, completions⟩ := standing_absorb turn peer reply
  have absorbed := taking.staged.of_same line same standing completions
  obtain ⟨correlation, later, held, target, completed, rests, byPeer⟩ :=
    absorbed.completeRelay (taking.taken frame inHand) way (Or.inl (taking.owner_eq silent))
  have current : turn.source.relays.peek token = some correlation := by
    have live := congrArg (fun standing => standing.relays.live[token]?) taking.standing_eq
    exact live.symm.trans held
  have still : (later.sources device).byPeer[(⟨peer, .sink⟩ : Endpoint)]? = some session := by
    rw [byPeer]
    exact way
  rw [onRelayedReply, current]
  dsimp only
  rw [if_pos target]
  exact rests_retireIfUnprepared completed rests still reply

/-! ## Relaying -/

theorem rests_onResult (taking : Taking setting device before letter turn)
    {relayer sink : DeviceId} {result : RelayResult}
    (frame :
      letter.event = .frame session (.composed sequence (.relayResult relayer sink result))) :
    Rests setting device (turn.onResult relayer sink result) := by
  obtain ⟨rest, waiting⟩ := taking.waiting
  have inHand :=
    taking.consistent.accounted.take_answer waiting (Letter.ask?_of_frame frame)
      (Letter.answer?_of_frame frame _) rfl
  have taken := taking.taken frame inHand
  obtain ⟨ticket, owner, listed⟩ := inHand.call_of_relay
  have sender := (taking.fits frame).1
  have credited : setting.Credits ⟨ticket, result.outcome⟩ := by
    rcases taking.proper.agrees with same | disconnected
    · right
      have cause : letter.cause = ⟨some ticket, ⟨relayer, .source⟩⟩ := by
        rw [← sender, ← owner, same]
      exact taking.ends listed ⟨session, sequence, result, frame, rfl, rfl⟩ cause
    · left
      obtain ⟨_, _, _, _, other, reports, status⟩ := disconnected
      rw [frame] at reports
      cases reports
      change (SharingError.check result.status).map _ = _
      rw [status]
      rfl
  have weights (tested : Burden) :
      (before.take ⟨device, .source⟩).claimWeight device
          (.relayed relayer sink result.request, ticket) tested =
        [Burden.relay device relayer sink result.request letter.owner].count tested := by
    rw [owner]
    exact Scene.claimWeight_relayed
  exact ⟨_, taking.staged.complete (inHand.tidy device).keys_nodup listed credited,
    taken.wired.withSource rfl rfl, taken.orderly, inHand.settle listed weights⟩

theorem rests_forward (taking : Taking setting device before letter turn) (room : before.HasRoom)
    (tokens : Staged.HasTokens turn) (here : before.registered device)
    {caller relayer sink : DeviceId} {request : Request}
    (frame :
      letter.event =
        .frame session (.composed sequence (.relayRequest caller relayer sink request))) :
    Rests setting device (turn.forward session relayer sink request) := by
  obtain ⟨rest, waiting⟩ := taking.waiting
  obtain ⟨addressed, link, linked, toSource, ends, leads⟩ := taking.fits frame
  change relayer = device at addressed
  have silent : ¬letter.event.SaysDisconnected := by
    rintro ⟨_, _, _, _, _, reports, _⟩
    rw [frame] at reports
    cases reports
  have owner := taking.owner_eq silent
  rw [addressed] at frame ⊢
  have inHand :=
    taking.consistent.accounted.take_ask waiting (Letter.ask?_of_frame frame)
      (Letter.answer?_of_frame frame _) rfl
  rw [owner] at inHand
  exact taking.staged.forward (taking.taken frame inHand) room tokens here linked toSource ends
    leads

/-! ## Any message -/

/-- What one source says to another is never dropped. -/
theorem known_of_fits (taking : Taking setting device before letter turn) {parcel : Parcel}
    (frame : letter.event = .frame session parcel) {link : Link}
    (linked : before.links session = some link) (ends : link.Ends ⟨device, .source⟩) :
    turn.source.registry.peer? session ≠ none := by
  obtain ⟨rest, waiting⟩ := taking.waiting
  intro unknown
  exact taking.unknown_iff.1 unknown
    (taking.consistent.wired.known_of_head waiting frame linked ends)

theorem rests_onMessage (taking : Taking setting device before letter turn)
    (room : before.HasRoom) (tokens : Staged.HasTokens turn) (here : before.registered device)
    (now : UInt64) {message : Message}
    (frame : letter.event = .frame session (.composed sequence message)) {peer : DeviceId}
    (known : turn.source.registry.peer? session = some peer) :
    Rests setting device (turn.onMessage now session peer message) := by
  have injected (events : List InputEvent)
      (idle : ∀ burden, before.weight ⟨device, .source⟩ letter burden = 0) :
      Rests setting device (turn.inject peer events) := by
    rw [inject]
    split
    · exact taking.rests_of_idle frame idle rfl rfl rfl rfl
    · exact taking.rests_of_idle frame idle rfl rfl rfl rfl
  cases message with
  | reply _ reply => exact taking.rests_onReply frame known
  | relayedReply token _ reply => exact taking.rests_onRelayedReply frame known
  | relayRequest _ source sink request => exact taking.rests_forward room tokens here frame
  | relayResult source sink result => exact taking.rests_onResult frame
  | keyState _ key => exact injected _ fun _ => Scene.weight_of_report frame rfl rfl
  | keyStates _ keys => exact injected _ fun _ => Scene.weight_of_report frame rfl rfl
  | inputEvents _ events => exact injected _ fun _ => Scene.weight_of_report frame rfl rfl
  | latencyEcho _ sentAtUs =>
      exact taking.rests_of_idle frame (fun _ => Scene.weight_of_report frame rfl rfl) rfl rfl
        rfl rfl
  | latencyProbe _ _ =>
      exact taking.rests_of_idle frame (fun _ => Scene.weight_of_report frame rfl rfl) rfl rfl
        rfl rfl
  | request _ _ =>
      exact taking.rests_of_idle frame (fun _ => Scene.weight_of_request frame rfl rfl) rfl rfl
        rfl rfl
  | relayed _ _ _ =>
      exact taking.rests_of_idle frame (fun _ => Scene.weight_of_request frame rfl rfl) rfl rfl
        rfl rfl

theorem rests_of_unknown (taking : Taking setting device before letter turn) {message : Message}
    (frame : letter.event = .frame session (.composed sequence message))
    (unknown : turn.source.registry.peer? session = none) : Rests setting device turn := by
  have dropped (idle : ∀ burden, before.weight ⟨device, .source⟩ letter burden = 0) :
      Rests setting device turn :=
    taking.rests_of_idle frame idle rfl rfl rfl rfl
  cases message with
  | reply _ _ => exact dropped (taking.idle_of_unknown frame rfl rfl unknown)
  | relayedReply _ _ _ => exact dropped (taking.idle_of_unknown frame rfl rfl unknown)
  | relayRequest _ _ _ _ =>
      obtain ⟨_, link, linked, _, ends, _⟩ := taking.fits frame
      exact absurd unknown (taking.known_of_fits frame linked ends)
  | relayResult _ _ _ =>
      obtain ⟨_, link, linked, _, ends⟩ := taking.fits frame
      exact absurd unknown (taking.known_of_fits frame linked ends)
  | keyState _ _ => exact dropped fun _ => Scene.weight_of_report frame rfl rfl
  | keyStates _ _ => exact dropped fun _ => Scene.weight_of_report frame rfl rfl
  | inputEvents _ _ => exact dropped fun _ => Scene.weight_of_report frame rfl rfl
  | latencyEcho _ _ => exact dropped fun _ => Scene.weight_of_report frame rfl rfl
  | latencyProbe _ _ => exact dropped fun _ => Scene.weight_of_report frame rfl rfl
  | request _ _ => exact dropped fun _ => Scene.weight_of_request frame rfl rfl
  | relayed _ _ _ => exact dropped fun _ => Scene.weight_of_request frame rfl rfl

theorem rests_handle (taking : Taking setting device before letter turn) (room : before.HasRoom)
    (tokens : Staged.HasTokens turn) (here : before.registered device) (now : UInt64)
    {message : Message} (frame : letter.event = .frame session (.composed sequence message)) :
    Rests setting device (turn.handle now session message) := by
  rw [handle]
  split
  · next unknown => exact taking.rests_of_unknown frame unknown
  · next peer known => exact taking.rests_onMessage room tokens here now frame known

/-! ## Any event of the transport -/

/-- What is meant for sinks changes nothing. -/
theorem handle_of_role (now : UInt64) (session : SessionId) {message : Message}
    (foreign : message.role ≠ .source) (turn : Turn (Port Parcel)) :
    turn.handle now session message = turn := by
  rw [handle]
  split
  · rfl
  · cases message with
    | request _ _ => rfl
    | latencyProbe _ _ => rfl
    | relayed _ _ _ => rfl
    | reply _ _ => exact absurd rfl foreign
    | relayedReply _ _ _ => exact absurd rfl foreign
    | relayRequest _ _ _ _ => exact absurd rfl foreign
    | relayResult _ _ _ => exact absurd rfl foreign
    | keyState _ _ => exact absurd rfl foreign
    | keyStates _ _ => exact absurd rfl foreign
    | inputEvents _ _ => exact absurd rfl foreign
    | latencyEcho _ _ => exact absurd rfl foreign

theorem react_frame (now : UInt64) (turn : Turn (Port Parcel)) (session : SessionId)
    (sequence : UInt64) (message : Message) :
    (SourceEvent.transport (.frame session (.composed sequence message))).react now turn =
      turn.handle now session message := by
  rw [SourceEvent.react, Dispatched.dispatch, Parcel.read]
  dsimp only
  split
  · rfl
  · next foreign => exact (handle_of_role now session foreign turn).symm

theorem rests_opened (taking : Taking setting device before letter turn) {peer : DeviceId}
    (opened : letter.event = .opened session peer) :
    Rests setting device (turn.opened session peer) := by
  obtain ⟨rest, waiting⟩ := taking.waiting
  obtain ⟨wired, orderly, accounted⟩ := taking.consistent
  have listed : letter ∈ before.mail ⟨device, .source⟩ := by
    rw [waiting]
    exact List.mem_cons_self
  have linked := wired.opened_linked listed opened
  refine ⟨(before.hear device session peer).take ⟨device, .source⟩, ?_, ?_, ?_, ?_⟩
  · have entered := taking.staged.withSource (turn.opened session peer) rfl rfl
      (List.append_nil _).symm (List.forall_mem_nil _)
    rw [Scene.hear, taking.standing_eq]
    exact entered
  · refine (wired.hear linked).take waiting ?_
    intro other caller again
    rw [opened] at again
    cases again
    exact Scene.knows_hear
  · exact Scene.Orderly.take (fun member => orderly member) _
  · have entered := accounted.enter device
      { peer, remoteRole := .source, session, outbound := false }
    refine entered.take waiting ?_
    intro burden
    rw [Scene.weight_of_none, Nat.add_zero]
    · rw [Letter.ask?, opened]
    · rw [Letter.answer?, opened]

/-- Whatever the transport reports to a source, all is well afterwards. -/
theorem rests_transport (taking : Taking setting device before letter turn)
    (room : before.HasRoom) (tokens : Staged.HasTokens turn) (here : before.registered device)
    (now : UInt64) :
    Rests setting device ((SourceEvent.transport letter.event).react now turn) := by
  cases event : letter.event with
  | opened session peer => exact taking.rests_opened event
  | closed session =>
      obtain ⟨rest, waiting⟩ := taking.waiting
      have listed : letter ∈ before.mail ⟨device, .source⟩ := by
        rw [waiting]
        exact List.mem_cons_self
      cases (taking.consistent.wired.closed_gone listed event).1
  | frame session parcel =>
      obtain ⟨sequence, message, composed, _⟩ := taking.proper.fits event
      rw [composed] at event ⊢
      rw [react_frame]
      exact taking.rests_handle room tokens here now event

end Taking

end Source.Turn

end InputSharing
