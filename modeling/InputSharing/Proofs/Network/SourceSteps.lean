import InputSharing.Proofs.Network.SourceStage

/-!
# What sources do with what they hear

Whatever a source reacts to, the scene that is left is consistent again.
-/

namespace InputSharing

namespace Request

theorem request_failure (request : Request) (status : Int32) :
    (request.failure status).request = request := by
  cases request <;> rfl

theorem status_failure (request : Request) (status : Int32) :
    (request.failure status).status = status := by
  cases request <;> rfl

end Request

namespace Scene

/-- A link between sources leads to a source. -/
theorem Wired.otherEnd_source {scene : Scene} (wired : scene.Wired) {session : SessionId}
    {link : Link} (linked : scene.links session = some link)
    (toSource : link.acceptor.role = .source) (here : Endpoint) :
    link.otherEnd here = ⟨(link.otherEnd here).device, .source⟩ := by
  have opener := wired.opener_role linked
  obtain ⟨⟨caller, first⟩, ⟨relayer, second⟩⟩ := link
  cases opener
  cases toSource
  rw [Link.otherEnd]
  split
  · rfl
  · rfl

/-- All that is new is channels. -/
structure Extends (before after : Scene) (device : DeviceId) : Prop where
  links_kept : ∀ {session link}, before.links session = some link → after.links session = some link
  waiting_eq : (after.sources device).waiting = (before.sources device).waiting
  relays_eq : (after.sources device).relays = (before.sources device).relays

end Scene

namespace Source.Turn

open Hub (Port)

namespace Staged

variable {setting : Setting} {device : DeviceId} {scene : Scene} {turn : Turn (Port Parcel)}
  {doomed : Option SessionId} {hand : List Burden}

/-! ## Channels -/

/-- Whoever is registered can be reached. -/
theorem connect (staged : Staged setting device scene turn)
    (consistent : scene.Consistent doomed hand) (room : scene.HasRoom)
    (here : scene.registered device)
    (idle : ∀ via request owner, Burden.lane scene.next via request owner ∉ hand)
    (peer : DeviceId) (role : Role) :
    (∃ error, turn.connect peer role = (.error error, turn)) ∨
      ∃ session after later,
        turn.connect peer role = (.ok session, after) ∧
          Staged setting device later after ∧ later.Consistent doomed hand ∧
          scene.Extends later device ∧
          (later.sources device).byPeer[(⟨peer, role⟩ : Endpoint)]? = some session := by
  cases way : (scene.sources device).byPeer[(⟨peer, role⟩ : Endpoint)]? with
  | some session =>
      right
      exact ⟨session, turn, scene, staged.connect_known way, staged, consistent,
        ⟨fun linked => linked, rfl, rfl⟩, way⟩
  | none =>
      by_cases registered : scene.registered peer
      · right
        obtain ⟨after, connected, dialled⟩ := staged.connect_new way registered
        obtain ⟨wired, orderly, accounted⟩ := consistent
        refine ⟨scene.next, after, _, connected, dialled, ⟨?_, ?_, ?_⟩, ⟨?_, ?_, ?_⟩, ?_⟩
        · exact wired.dial room here registered way
        · exact orderly.dial wired room device ⟨peer, role⟩ setting.cause
        · exact accounted.dial wired room way idle setting.cause
        · intro session link linked
          rw [Scene.links_dial_of_ne (wired.ne_next_of_link room linked)]
          exact linked
        · rw [Scene.sources_dial_self]
          rfl
        · rw [Scene.sources_dial_self]
          rfl
        · rw [Scene.sources_dial_self, Standing.enter, Channel.remote, Table.getElem?_insert_eq,
            if_pos rfl]
      · exact Or.inl (staged.connect_unregistered way registered)

/-! ## Messages that nobody waits for -/

/-- A message that stands for nothing can be sent on any link. -/
theorem post_idle (staged : Staged setting device scene turn)
    (consistent : scene.Consistent doomed hand) {session : SessionId} {link : Link}
    (linked : scene.links session = some link) {message : Message}
    (noAsk : ∀ owner, message.ask? session owner = none)
    (noAnswer : ∀ here owner, message.answer? here session owner = none)
    (fits :
      message.Fits scene.links (link.otherEnd ⟨device, .source⟩) setting.cause.sender session) :
    ∃ letter,
      Staged setting device (scene.put (link.otherEnd ⟨device, .source⟩) letter)
          (turn.post session message) ∧
        (scene.put (link.otherEnd ⟨device, .source⟩) letter).Consistent doomed hand := by
  obtain ⟨wired, orderly, accounted⟩ := consistent
  obtain ⟨sequence, _, sent⟩ := staged.send wired linked message setting.cause.call
  refine ⟨_, sent, wired.put_frame (wired.links_numbered linked), orderly.put ⟨?_, Or.inl rfl⟩,
    accounted.put_idle (noAsk _) (noAnswer _ _)⟩
  intro tested parcel frame
  cases frame
  exact ⟨sequence, message, rfl, fits⟩

/-! ## Results of relayed calls -/

/-- A result that is in hand is sent to the node that waits for it. -/
theorem post_result (staged : Staged setting device scene turn) {caller sink : DeviceId}
    {owner : Option Ticket} {result : RelayResult}
    (consistent :
      scene.Consistent doomed (.relay caller device sink result.request owner :: hand))
    {origin : SessionId} {link : Link} (linked : scene.links origin = some link)
    (toSource : link.acceptor.role = .source)
    (leads : link.otherEnd ⟨device, .source⟩ = ⟨caller, .source⟩)
    (agrees : owner = setting.cause.call ∨ result.status = Status.disconnected) :
    ∃ letter,
      Staged setting device (scene.put ⟨caller, .source⟩ letter)
          (turn.post origin (.relayResult device sink result)) ∧
        (scene.put ⟨caller, .source⟩ letter).Consistent doomed hand := by
  obtain ⟨wired, orderly, accounted⟩ := consistent
  obtain ⟨sequence, _, sent⟩ :=
    staged.send wired linked (.relayResult device sink result) owner
  rw [leads] at sent
  have ends := link.ends_otherEnd ⟨device, .source⟩
  rw [leads] at ends
  refine ⟨_, sent, wired.put_frame (wired.links_numbered linked), orderly.put ⟨?_, ?_⟩,
    accounted.put_answer rfl rfl rfl⟩
  · intro session parcel frame
    cases frame
    exact ⟨sequence, _, rfl, staged.sender_eq, link, linked, toSource, ends⟩
  · rcases agrees with same | disconnected
    · exact Or.inl same
    · exact Or.inr ⟨origin, sequence, device, sink, result, rfl, disconnected⟩

/-- The answer to a request that was passed on is reported to the node that asked. -/
theorem completeRelay (staged : Staged setting device scene turn) {sink : DeviceId}
    {session : SessionId} {token : RelayToken} {result : RelayResult} {owner : Option Ticket}
    (consistent :
      scene.Consistent none (.lane session (.relayed token) result.request owner :: hand))
    (way : (scene.sources device).byPeer[(⟨sink, .sink⟩ : Endpoint)]? = some session)
    (agrees : owner = setting.cause.call ∨ result.status = Status.disconnected) :
    ∃ (correlation : Correlation) (later : Scene),
      (scene.sources device).relays.live[token]? = some correlation ∧
        correlation.target = sink ∧
        Staged setting device later
          (turn.completeRelay token fun correlation => correlation.report result) ∧
        later.Consistent none hand ∧
        (later.sources device).byPeer = (scene.sources device).byPeer := by
  obtain ⟨wired, orderly, accounted⟩ := consistent
  have lane := Scene.lane?_of_way wired way
  obtain ⟨correlation, held, target, request, owned⟩ :=
    accounted.token_of_lane (Option.some_ne_none _).symm lane
  obtain ⟨addressed, origin, link, present, linked, toSource, ends⟩ := accounted.live_of held
  have leads := wired.otherEnd_source linked toSource ⟨device, .source⟩
  have errandWeights (tested : Burden) :
      scene.errandWeight device (token, correlation) tested =
        [Burden.relay (link.otherEnd ⟨device, .source⟩).device device sink result.request
          owner].count tested := by
    rw [Scene.errandWeight_of_origin present linked leads, target, request, owned]
  have pledgeWeights (tested : Burden) :
      scene.pledgeWeight device (token, correlation) tested =
        [Burden.lane session (.relayed token) result.request owner].count tested := by
    rw [← target] at way
    rw [Scene.pledgeWeight_of_way wired way, request, owned]
  have consumed := accounted.consume held errandWeights pledgeWeights
  let usedUp := turn.withLive (turn.source.relays.live.erase token)
  have reached :
      Staged setting device
        (scene.withSource device ((scene.sources device).consume token)) usedUp := by
    rw [staged.standing_eq]
    exact staged.withSource usedUp rfl rfl (List.append_nil _).symm (List.forall_mem_nil _)
  have still :
      (scene.withSource device ((scene.sources device).consume token)).Consistent none
        (.relay (link.otherEnd ⟨device, .source⟩).device device sink result.request owner ::
          hand) :=
    ⟨wired.withSource rfl rfl, orderly, consumed⟩
  obtain ⟨letter, posted, rests⟩ := reached.post_result still linked toSource leads agrees
  have current : turn.source.relays.live[token]? = some correlation := by
    rw [staged.standing_eq] at held
    exact held
  have completed :
      turn.completeRelay token (fun correlation => correlation.report result) =
        usedUp.post origin (.relayResult device sink result) := by
    rw [completeRelay_eq, current]
    dsimp only
    rw [present, Correlation.report, addressed, target]
  rw [← completed] at posted
  refine ⟨correlation, _, held, target, posted, rests, ?_⟩
  change ((scene.withSource device _).sources device).byPeer = _
  rw [Scene.sources_withSource_self]
  rfl

/-- There are tokens left. -/
def HasTokens (turn : Turn (Port Parcel)) : Prop :=
  turn.source.relays.last.number.toNat + 1 < UInt64.size

/-- A request that is in hand is sent to a sink. -/
theorem send_ask (staged : Staged setting device scene turn) {sink : DeviceId}
    {session : SessionId} {via : Sink.Via} {request : Request} {message : Message}
    (consistent : scene.Consistent doomed (.lane session via request setting.cause.call :: hand))
    (way : (scene.sources device).byPeer[(⟨sink, .sink⟩ : Endpoint)]? = some session)
    (asks :
      message.ask? session setting.cause.call =
        some (.lane session via request setting.cause.call))
    (noAnswer : ∀ here owner, message.answer? here session owner = none)
    (fits :
      (∀ link, scene.links session = some link →
        link.acceptor = ⟨sink, .sink⟩ ∧ (⟨sink, .sink⟩ : Endpoint).role = .sink) →
        message.Fits scene.links ⟨sink, .sink⟩ setting.cause.sender session) :
    (turn.send session message).1 = .ok () ∧
      ∃ letter,
        Staged setting device (scene.put ⟨sink, .sink⟩ letter) (turn.send session message).2 ∧
          (scene.put ⟨sink, .sink⟩ letter).Consistent doomed hand := by
  obtain ⟨wired, orderly, accounted⟩ := consistent
  have linked := wired.link_of_lane way
  have leads :
      (⟨⟨device, .source⟩, ⟨sink, .sink⟩⟩ : Link).otherEnd ⟨device, .source⟩ = ⟨sink, .sink⟩ :=
    if_pos rfl
  obtain ⟨sequence, accepted, sent⟩ := staged.send wired linked message setting.cause.call
  rw [leads] at sent
  have place :
      scene.askedAt (.lane session via request setting.cause.call) = some ⟨sink, .sink⟩ := by
    rw [Scene.askedAt, Scene.lane?_of_way wired way]
    rfl
  refine ⟨accepted, _, sent, wired.put_frame (wired.links_numbered linked),
    orderly.put ⟨?_, Or.inl rfl⟩, accounted.put_ask asks (noAnswer _ _) place⟩
  intro tested parcel frame
  cases frame
  refine ⟨sequence, message, rfl, fits ?_⟩
  intro link found
  rw [linked] at found
  cases found
  exact ⟨rfl, rfl⟩

/-- A request gets a token and is sent to the sink. -/
theorem passOn (staged : Staged setting device scene turn) {caller sink : DeviceId}
    {request : Request}
    (consistent : scene.Consistent none [.relay caller device sink request setting.cause.call])
    (tokens : HasTokens turn) {origin session : SessionId} {link : Link}
    (linked : scene.links origin = some link) (toSource : link.acceptor.role = .source)
    (ends : link.Ends ⟨device, .source⟩)
    (leads : link.otherEnd ⟨device, .source⟩ = ⟨caller, .source⟩)
    (way : (scene.sources device).byPeer[(⟨sink, .sink⟩ : Endpoint)]? = some session) :
    ∃ after later,
      turn.passOn session ⟨origin, device, sink, request⟩ = (.ok (), after) ∧
        Staged setting device later after ∧ later.Consistent none [] := by
  obtain ⟨wired, orderly, accounted⟩ := consistent
  let token := turn.nextToken
  let correlation := Inquiry.correlation ⟨origin, device, sink, request⟩
  let owned := scene.withOwner device token setting.cause.call
  have numbered : token.number.toNat = (scene.sources device).relays.last.number.toNat + 1 := by
    rw [staged.standing_eq]
    exact nextToken_number tokens
  have fresh : token ∉ (scene.sources device).relays.live := by
    intro live
    have earlier := (accounted.tidy device).tokens_numbered live
    omega
  have wiredOwned : owned.Wired := wired.withOwner device token setting.cause.call
  have wayOwned :
      (owned.sources device).byPeer[(⟨correlation.target, .sink⟩ : Endpoint)]? = some session :=
    way
  have errandWeights (tested : Burden) :
      owned.errandWeight device (token, correlation) tested =
        [Burden.relay caller device sink request setting.cause.call].count tested := by
    have linkedOwned : owned.links origin = some link := linked
    rw [Scene.errandWeight_of_origin (rfl : correlation.origin = some origin) linkedOwned leads,
      Scene.Accounted.owner_withOwner_self]
    rfl
  have pledgeWeights (tested : Burden) :
      owned.pledgeWeight device (token, correlation) tested =
        [Burden.lane session (.relayed token) request setting.cause.call].count tested := by
    rw [Scene.pledgeWeight_of_way wiredOwned wayOwned, Scene.Accounted.owner_withOwner_self]
    rfl
  have started :=
    (accounted.withOwner fresh setting.cause.call).start numbered
      (Table.mem_of_getElem? wayOwned) rfl ⟨origin, link, rfl, linked, toSource, ends⟩
      errandWeights pledgeWeights
  let begun : Turn (Port Parcel) :=
    { turn with
      source :=
        { turn.source with
          relays := { last := token, live := turn.source.relays.live.insert token correlation } } }
  have stagedBegun :
      Staged setting device
        (owned.withSource device ((scene.sources device).start token correlation)) begun := by
    rw [staged.standing_eq]
    exact (staged.withOwner token setting.cause.call).withSource begun rfl rfl
      (List.append_nil _).symm (List.forall_mem_nil _)
  have wayBegun :
      ((owned.withSource device ((scene.sources device).start token correlation)).sources
        device).byPeer[(⟨sink, .sink⟩ : Endpoint)]? = some session := by
    rw [Scene.sources_withSource_self]
    exact way
  have asks :
      (Message.relayed token begun.source.device request).ask? session setting.cause.call =
        some (.lane session (.relayed token) request setting.cause.call) :=
    rfl
  obtain ⟨accepted, letter, sent, rests⟩ :=
    stagedBegun.send_ask ⟨wiredOwned.withSource rfl rfl, orderly, started⟩ wayBegun asks
      (fun _ _ => rfl) (fun fits => fits)
  exact ⟨_, _, Prod.ext accepted rfl, sent, rests⟩

/-- A request is passed on, or refused. -/
theorem forward (staged : Staged setting device scene turn) {caller sink : DeviceId}
    {request : Request}
    (consistent : scene.Consistent none [.relay caller device sink request setting.cause.call])
    (room : scene.HasRoom) (tokens : HasTokens turn) (here : scene.registered device)
    {origin : SessionId} {link : Link} (linked : scene.links origin = some link)
    (toSource : link.acceptor.role = .source) (ends : link.Ends ⟨device, .source⟩)
    (leads : link.otherEnd ⟨device, .source⟩ = ⟨caller, .source⟩) :
    ∃ later,
      Staged setting device later (turn.forward origin device sink request) ∧
        later.Consistent none [] := by
  have inquired := turn.forward_eq ⟨origin, device, sink, request⟩
  dsimp only at inquired
  rw [inquired]
  rcases staged.connect consistent room here (by simp) sink .sink with refused | reached
  · obtain ⟨error, failed⟩ := refused
    rw [failed]
    have failure : request = (request.failure error.statusCode).request :=
      (request.request_failure _).symm
    rw [failure] at consistent
    obtain ⟨letter, posted, rests⟩ :=
      staged.post_result consistent linked toSource leads (Or.inl rfl)
    exact ⟨_, posted, rests⟩
  · obtain ⟨session, after, later, connected, entered, still, more, way⟩ := reached
    have tokensLeft : HasTokens after := by
      have relays := more.relays_eq
      rw [entered.standing_eq, staged.standing_eq] at relays
      rw [HasTokens, show after.source.relays = turn.source.relays from relays]
      exact tokens
    obtain ⟨passed, last, forwarded, sent, rests⟩ :=
      entered.passOn still tokensLeft (more.links_kept linked) toSource ends leads way
    rw [connected]
    dsimp only
    rw [forwarded]
    exact ⟨last, sent, rests⟩

/-- The end of a sink is reported to all who had a request passed on to it. -/
theorem foldl_reportLoss (staged : Staged setting device scene turn)
    {entries : List (RelayToken × Correlation)}
    (consistent : scene.Consistent doomed (scene.errands device entries ++ hand))
    (came :
      ∀ entry ∈ entries,
        entry.2.source = device ∧ Scene.CameOn scene.links device entry.2) :
    ∃ later,
      Staged setting device later ((entries.map Prod.snd).foldl reportLoss turn) ∧
        later.Consistent doomed hand ∧ later.links = scene.links ∧
        later.sources = scene.sources := by
  induction entries generalizing scene turn with
  | nil =>
      exact ⟨scene, staged, consistent, rfl, rfl⟩
  | cons first rest inductionHypothesis =>
      obtain ⟨token, correlation⟩ := first
      obtain ⟨addressed, origin, link, present, linked, toSource, ends⟩ :=
        came _ List.mem_cons_self
      have leads := consistent.wired.otherEnd_source linked toSource ⟨device, .source⟩
      have stands :
          scene.errands device ((token, correlation) :: rest) ++ hand =
            .relay (link.otherEnd ⟨device, .source⟩).device device correlation.target
                (correlation.request.failure Status.disconnected).request
                (scene.owner device token) ::
              (scene.errands device rest ++ hand) := by
        rw [Request.request_failure, Scene.errands, List.filterMap_cons_some, List.cons_append]
        · rfl
        · rw [passedOn?]
          dsimp only
          rw [present, Option.bind_some, linked]
          rfl
      rw [stands] at consistent
      have disconnected := correlation.request.status_failure Status.disconnected
      obtain ⟨letter, posted, still⟩ :=
        staged.post_result consistent linked toSource leads (Or.inr disconnected)
      have reported :
          turn.reportLoss correlation =
            turn.post origin (.relayResult device correlation.target
              (correlation.request.failure Status.disconnected)) := by
        rw [reportLoss, present, Correlation.failure, Correlation.report, addressed]
      rw [← reported] at posted
      have others :
          ∀ entry ∈ rest, entry.2.source = device ∧ Scene.CameOn scene.links device entry.2 :=
        fun entry listed => came entry (List.mem_cons_of_mem _ listed)
      obtain ⟨later, reacted, rests, links, sources⟩ := inductionHypothesis posted still others
      exact ⟨later, reacted, rests, links, sources⟩

/-- The channel to a sink is closed on which nothing is to come any more. -/
theorem disconnect (staged : Staged setting device scene turn) {sink : DeviceId}
    {session : SessionId} (consistent : scene.Consistent (some session) [])
    (way : (scene.sources device).byPeer[(⟨sink, .sink⟩ : Endpoint)]? = some session)
    (noCall :
      ∀ {request ticket}, (Call.direct sink request, ticket) ∉ (scene.sources device).waiting)
    (noToken :
      ∀ {token : RelayToken} {correlation : Correlation},
        (scene.sources device).relays.live[token]? = some correlation →
          correlation.target ≠ sink) :
    ∃ later,
      Staged setting device later (turn.withChannels (turn.channels.disconnect sink .sink)) ∧
        later.Consistent none [] := by
  obtain ⟨wired, orderly, accounted⟩ := consistent
  have linked := wired.link_of_lane way
  have shows := staged.shows.hangUp linked (wired.ends_registered linked).2
  have known : turn.channels.registry.channel? sink .sink = some session := by
    rw [staged.standing_eq] at way
    exact way
  let after : Turn (Port Parcel) :=
    turn.withChannels
      { registry :=
          { turn.source.registry with
            byPeer := turn.source.registry.byPeer.erase ⟨sink, .sink⟩
            bySession := turn.source.registry.bySession.erase session }
        line := { turn.line with hub := turn.line.hub.hangUp turn.line.here session } }
  have changed : turn.withChannels (turn.channels.disconnect sink .sink) = after := by
    rw [Channels.disconnect, known]
    rfl
  refine ⟨scene.hangUp device sink session setting.cause, ?_, ?_, ?_, ?_⟩
  · rw [changed]
    refine ⟨?_, staged.here_eq, staged.sender_eq, staged.device_eq, ?_, ?_, staged.sinks_eq,
      staged.registered_eq, staged.credited⟩
    · rw [← staged.here_eq] at shows
      exact shows
    · rw [Scene.sources_hangUp_self, staged.standing_eq]
      rfl
    · intro other different
      rw [Scene.sources_hangUp_of_ne different]
      exact staged.others_eq different
  · exact wired.hangUp way
  · exact orderly.hangUp wired setting.cause way
  · exact accounted.hangUp wired way (fun _ _ _ listed => (List.not_mem_nil listed).elim) noCall
      noToken setting.cause

/-- A session with a sink ends: all that waits for the sink ends with it. -/
theorem retire (staged : Staged setting device scene turn) (consistent : scene.Consistent none [])
    {sink : DeviceId} {session : SessionId}
    (way : (scene.sources device).byPeer[(⟨sink, .sink⟩ : Endpoint)]? = some session) :
    ∃ later, Staged setting device later (turn.retire sink) ∧ later.Consistent none [] := by
  obtain ⟨wired, orderly, accounted⟩ := consistent
  let entries :=
    (scene.sources device).relays.live.toList.filter fun entry => entry.2.target = sink
  let forgotten : Turn (Port Parcel) :=
    { turn with
      source :=
        { turn.source with
          beliefs := turn.source.beliefs.erase sink
          latencies := turn.source.latencies.erase sink
          relays := (turn.source.relays.abandonTarget sink).2 } }
  let emptied := forgotten.failWhere (Call.isTo sink) .disconnected
  have dropped : turn.dropSink sink = (entries.map Prod.snd).foldl reportLoss emptied := by
    change _ = (List.map _ ((scene.sources device).relays.live.toList.filter _)).foldl _ _
    rw [staged.standing_eq]
    rfl
  have left :
      Staged setting device
        (scene.withSource device ((scene.sources device).abandon sink)) emptied := by
    rw [staged.standing_eq]
    refine staged.withSource emptied rfl rfl rfl ?_
    intro completion listed
    obtain ⟨entry, _, same⟩ := List.mem_map.1 listed
    rw [← same]
    exact Or.inl rfl
  have still :
      (scene.withSource device ((scene.sources device).abandon sink)).Consistent (some session)
        ((scene.withSource device ((scene.sources device).abandon sink)).errands device entries ++
          []) :=
    ⟨wired.withSource rfl rfl, orderly, (accounted.doom session).abandon wired way⟩
  have came :
      ∀ entry ∈ entries, entry.2.source = device ∧ Scene.CameOn scene.links device entry.2 := by
    intro entry listed
    exact accounted.live_of (Table.mem_toList.1 (List.mem_filter.1 listed).1)
  obtain ⟨later, reported, rests, _, sources⟩ := left.foldl_reportLoss still came
  rw [← dropped] at reported
  have here : later.sources device = (scene.sources device).abandon sink := by
    rw [sources, Scene.sources_withSource_self]
  refine reported.disconnect rests ?_ ?_ ?_
  · rw [here]
    exact way
  · intro request ticket listed
    rw [here] at listed
    have kept := (List.mem_filter.1 listed).2
    simp [Call.isTo] at kept
  · intro token correlation held
    rw [here] at held
    exact (Standing.getElem?_abandon held).2

end Staged

end Source.Turn

end InputSharing
