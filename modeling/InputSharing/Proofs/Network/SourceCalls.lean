import InputSharing.Proofs.Network.SourceReactions

/-!
# Calls of sources

A source that is asked for something either refuses at once, or sends a message
and lets the call wait.  What it refuses is put down to the call itself.
-/

namespace InputSharing

namespace Link

/-- The two ends of a link are each other's other ends. -/
theorem otherEnd_otherEnd {link : Link} {here : Endpoint} (ends : link.Ends here) :
    link.otherEnd (link.otherEnd here) = here := by
  obtain ⟨opener, acceptor⟩ := link
  rcases ends with opens | accepts
  · change opener = here at opens
    subst opens
    have there : (⟨opener, acceptor⟩ : Link).otherEnd opener = acceptor := if_pos rfl
    rw [there, otherEnd]
    split
    · next same => exact same.symm
    · rfl
  · change acceptor = here at accepts
    subst accepts
    by_cases same : opener = acceptor
    · have there : (⟨opener, acceptor⟩ : Link).otherEnd acceptor = acceptor := if_pos same
      rw [there, there]
    · have there : (⟨opener, acceptor⟩ : Link).otherEnd acceptor = opener := if_neg same
      rw [there]
      exact if_pos rfl

end Link

namespace Source.Turn

open Hub (Port)

/-- A message may as well be sent after its call has begun to wait. -/
theorem await_send (turn : Turn (Port Parcel)) (session : SessionId) (message : Message)
    (ticket : Ticket) (call : Call) :
    (turn.send session message).1 = ((turn.await ticket call).send session message).1 ∧
      (turn.send session message).2.await ticket call =
        ((turn.await ticket call).send session message).2 :=
  ⟨rfl, rfl⟩

namespace Staged

variable {setting : Setting} {device : DeviceId} {scene : Scene} {turn : Turn (Port Parcel)}
  {call : Call} {ticket : Ticket} {session : SessionId}

/-- A reaction that ends calls and changes nothing else. -/
theorem report (staged : Staged setting device scene turn) {ended : List (Completion Grant)}
    (credited : ∀ completion ∈ ended, setting.Credits completion) :
    Staged setting device scene (turn.report ended) := by
  have reported := staged.withSource (turn.report ended) rfl rfl rfl credited
  have same : (turn.report ended).source.standing = scene.sources device :=
    staged.standing_eq.symm
  rw [same, Scene.withSource_self] at reported
  exact reported

/-- A call that is refused has ended. -/
theorem refuse (staged : Staged setting device scene turn)
    (consistent : scene.Consistent none []) (deals : setting.DealsWith ticket)
    (error : SharingError) : Rests setting device (turn.refuse ticket error).2 := by
  refine ⟨scene, staged.report ?_, consistent⟩
  intro completion listed
  rw [List.mem_singleton.1 listed]
  exact Or.inr (deals.refuses error)

/-- A new call of a source waits under a key of its own. -/
theorem not_mem_keys (staged : Staged setting device scene turn)
    (new : turn.source.pending.contains call = false) :
    call ∉ (scene.sources device).waiting.map Prod.fst := by
  rw [staged.standing_eq]
  exact Pending.not_mem_keys new

/-! ## Requests to sinks -/

theorem ask_direct (staged : Staged setting device scene turn)
    (consistent : scene.Consistent none []) (deals : setting.DealsWith ticket)
    {sink : DeviceId} {request : Request}
    (new : turn.source.pending.contains (.direct sink request) = false)
    (way : (scene.sources device).byPeer[(⟨sink, .sink⟩ : Endpoint)]? = some session) :
    (turn.send session (.request device request)).1 = .ok () ∧
      Rests setting device
        ((turn.send session (.request device request)).2.await ticket
          (.direct sink request)) := by
  obtain ⟨wired, orderly, accounted⟩ := consistent
  have waiting := staged.await ticket new
  have ways : ∀ other wanted, Call.direct sink request = .direct other wanted →
      (⟨other, .sink⟩ : Endpoint) ∈ (scene.sources device).byPeer := by
    intro other wanted same
    cases same
    exact Table.mem_of_getElem? way
  have weights (tested : Burden) :
      scene.claimWeight device (.direct sink request, ticket) tested =
        [Burden.lane session .direct request setting.cause.call].count tested := by
    rw [deals.call_eq]
    exact Scene.claimWeight_direct wired way
  have inHand := accounted.await (staged.not_mem_keys new) ways weights
  have still :
      ((scene.withSource device
        ((scene.sources device).await (.direct sink request, ticket))).sources
          device).byPeer[(⟨sink, .sink⟩ : Endpoint)]? = some session := by
    rw [Scene.sources_withSource_self]
    exact way
  have asks :
      (Message.request device request).ask? session setting.cause.call =
        some (.lane session .direct request setting.cause.call) :=
    rfl
  obtain ⟨accepted, letter, sent, rests⟩ :=
    waiting.send_ask ⟨wired.withSource rfl rfl, orderly, inHand⟩ still asks
      (fun _ _ => rfl) (fun fits => fits)
  obtain ⟨same, after⟩ := turn.await_send session (.request device request) ticket
    (.direct sink request)
  rw [same, after]
  exact ⟨accepted, _, sent, rests⟩

/-! ## Requests to relaying nodes -/

theorem ask_relayed (staged : Staged setting device scene turn)
    (consistent : scene.Consistent none []) (deals : setting.DealsWith ticket)
    {relayer sink : DeviceId} {request : Request}
    (new : turn.source.pending.contains (.relayed relayer sink request) = false)
    (way : (scene.sources device).byPeer[(⟨relayer, .source⟩ : Endpoint)]? = some session) :
    (turn.send session (.relayRequest device relayer sink request)).1 = .ok () ∧
      Rests setting device
        ((turn.send session (.relayRequest device relayer sink request)).2.await ticket
          (.relayed relayer sink request)) := by
  obtain ⟨wired, orderly, accounted⟩ := consistent
  obtain ⟨link, linked, ends, leads⟩ := wired.link_of_reached way
  have toSource : link.acceptor.role = .source := by
    rcases ends with opens | accepts
    · rw [Link.otherEnd, if_pos opens] at leads
      rw [leads]
    · rw [accepts]
  have back := Link.otherEnd_otherEnd ends
  have across := link.ends_otherEnd ⟨device, .source⟩
  have waiting := staged.await ticket new
  have weights (tested : Burden) :
      scene.claimWeight device (.relayed relayer sink request, ticket) tested =
        [Burden.relay device relayer sink request setting.cause.call].count tested := by
    rw [deals.call_eq]
    exact Scene.claimWeight_relayed
  have notDirect (named : DeviceId) (asked : Request)
      (direct : Call.relayed relayer sink request = .direct named asked) :
      (⟨named, .sink⟩ : Endpoint) ∈ (scene.sources device).byPeer := by
    cases direct
  have inHand := accounted.await (staged.not_mem_keys new) notDirect weights
  have wiredWaiting :
      (scene.withSource device
        ((scene.sources device).await (.relayed relayer sink request, ticket))).Wired :=
    wired.withSource rfl rfl
  obtain ⟨sequence, accepted, sent⟩ :=
    waiting.send wiredWaiting linked (.relayRequest device relayer sink request) setting.cause.call
  rw [leads] at sent back across
  obtain ⟨same, after⟩ := turn.await_send session (.relayRequest device relayer sink request)
    ticket (.relayed relayer sink request)
  rw [same, after]
  refine ⟨accepted, _, sent, wiredWaiting.put_frame (wired.links_numbered linked), ?_,
    inHand.put_ask rfl rfl rfl⟩
  refine Scene.Orderly.put (fun member => orderly member) ⟨?_, Or.inl rfl⟩
  intro tested parcel frame
  cases frame
  exact ⟨sequence, _, rfl, rfl, link, linked, toSource, across, back⟩

/-! ## All calls -/

/-- A call is sent on a channel that leads to where it is meant for. -/
theorem ask (staged : Staged setting device scene turn)
    (consistent : scene.Consistent none []) (deals : setting.DealsWith ticket)
    (new : turn.source.pending.contains call = false)
    (way : (scene.sources device).byPeer[call.remote]? = some session) :
    (turn.send session (call.message turn.source.device)).1 = .ok () ∧
      Rests setting device
        ((turn.send session (call.message turn.source.device)).2.await ticket call) := by
  rw [staged.device_eq]
  cases call with
  | direct sink request => exact staged.ask_direct consistent deals new way
  | relayed relayer sink request => exact staged.ask_relayed consistent deals new way

/-- A call finds its channel, or is refused. -/
theorem channelFor (staged : Staged setting device scene turn)
    (consistent : scene.Consistent none []) (room : scene.HasRoom)
    (here : scene.registered device) (call : Call) :
    (∃ error, turn.channelFor call = (.error error, turn)) ∨
      ∃ session after later,
        turn.channelFor call = (.ok session, after) ∧
          Staged setting device later after ∧ later.Consistent none [] ∧
          scene.Extends later device ∧
          (later.sources device).byPeer[call.remote]? = some session := by
  have connected := staged.connect consistent room here (by simp)
  have existing (sink : DeviceId) :
      (∃ error, turn.existing sink = (.error error, turn)) ∨
        ∃ session after later,
          turn.existing sink = (.ok session, after) ∧
            Staged setting device later after ∧ later.Consistent none [] ∧
            scene.Extends later device ∧
            (later.sources device).byPeer[(⟨sink, .sink⟩ : Endpoint)]? = some session := by
    rw [Turn.existing]
    cases known : turn.source.registry.channel? sink .sink with
    | none => exact Or.inl ⟨_, rfl⟩
    | some session =>
        refine Or.inr ⟨session, turn, scene, rfl, staged, consistent,
          ⟨fun linked => linked, rfl, rfl⟩, ?_⟩
        rw [staged.standing_eq]
        exact known
  have started (sink : DeviceId) :
      (∃ error,
          (if turn.source.beliefs.contains sink then turn.existing sink
            else (.error .notPrepared, turn)) = (.error error, turn)) ∨
        ∃ session after later,
          (if turn.source.beliefs.contains sink then turn.existing sink
            else (.error .notPrepared, turn)) = (.ok session, after) ∧
            Staged setting device later after ∧ later.Consistent none [] ∧
            scene.Extends later device ∧
            (later.sources device).byPeer[(⟨sink, .sink⟩ : Endpoint)]? = some session := by
    split
    · exact existing sink
    · exact Or.inl ⟨_, rfl⟩
  cases call with
  | relayed source _ _ => exact connected source .source
  | direct sink request =>
      cases request with
      | prepare => exact connected sink .sink
      | unprepare => exact existing sink
      | startByType _ => exact started sink
      | stopByType _ => exact started sink
      | startByHandles _ => exact started sink
      | stopByHandles _ => exact started sink

/-- A call waits for its answer, or has ended. -/
theorem rests_call (staged : Staged setting device scene turn)
    (consistent : scene.Consistent none []) (room : scene.HasRoom)
    (here : scene.registered device) (deals : setting.DealsWith ticket) (call : Call) :
    Rests setting device (turn.call ticket call).2 := by
  rw [Turn.call]
  split
  · exact staged.refuse consistent deals .alreadyPending
  · next new =>
      rcases staged.channelFor consistent room here call with refused | reached
      · obtain ⟨error, failed⟩ := refused
        rw [failed]
        exact staged.refuse consistent deals error
      · obtain ⟨session, after, later, found, entered, still, more, way⟩ := reached
        have waiting : after.source.pending.waiting = turn.source.pending.waiting := by
          have same := more.waiting_eq
          rw [entered.standing_eq, staged.standing_eq] at same
          exact same
        have unused : after.source.pending.contains call = false := by
          rw [Pending.contains, waiting]
          exact Bool.eq_false_iff.2 new
        obtain ⟨accepted, rests⟩ := entered.ask still deals unused way
        rw [found]
        dsimp only
        have sent :
            after.send session (call.message after.source.device) =
              (.ok (), (after.send session (call.message after.source.device)).2) :=
          Prod.ext accepted rfl
        rw [sent]
        exact rests

/-! ## Measurements -/

/-- The measurement of a delay stands for nothing. -/
theorem rests_probe (staged : Staged setting device scene turn)
    (consistent : scene.Consistent none []) (now : UInt64) (sink : DeviceId) :
    Rests setting device (turn.probe now sink) := by
  rw [Turn.probe]
  cases known : turn.source.registry.channel? sink .sink with
  | none => exact ⟨scene, staged, consistent⟩
  | some session =>
      have way : (scene.sources device).byPeer[(⟨sink, .sink⟩ : Endpoint)]? = some session := by
        rw [staged.standing_eq]
        exact known
      have fits :
          (Message.latencyProbe turn.source.device now).Fits scene.links
            ((⟨⟨device, .source⟩, ⟨sink, .sink⟩⟩ : Link).otherEnd ⟨device, .source⟩)
            setting.cause.sender session :=
        trivial
      obtain ⟨letter, posted, rests⟩ :=
        staged.post_idle consistent (consistent.wired.link_of_lane way)
          (fun _ => rfl) (fun _ _ => rfl) fits
      exact ⟨_, posted, rests⟩

theorem rests_tick (staged : Staged setting device scene turn)
    (consistent : scene.Consistent none []) (now : UInt64) :
    Rests setting device (turn.tick now) := by
  rw [Turn.tick]
  have reached : Rests setting device turn := ⟨scene, staged, consistent⟩
  generalize (turn.source.beliefs.toList.filter _).map Prod.fst = sinks
  clear staged
  induction sinks generalizing turn with
  | nil =>
      exact reached
  | cons sink rest inductionHypothesis =>
      obtain ⟨current, stagedCurrent, consistentCurrent⟩ := reached
      exact inductionHypothesis (stagedCurrent.rests_probe consistentCurrent now sink)

end Staged

end Source.Turn

end InputSharing
