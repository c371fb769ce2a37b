import InputSharing.Proofs.Network.Accounts

/-!
# Channels and burdens

A new channel has no burdens, and a channel that is closed has none any more.  The
burdens of all other channels stay as they are.
-/

namespace InputSharing

namespace Letter

variable {letter : Letter} {session : SessionId} {via : Sink.Via} {request : Request}
  {owner : Option Ticket}

theorem session_of_ask (asks : letter.ask? = some (.lane session via request owner)) :
    letter.event.session = session := by
  rw [ask?] at asks
  split at asks
  · next other sequence message frame =>
    rw [frame]
    cases message <;> cases asks <;> rfl
  · cases asks

theorem session_of_answer {here : DeviceId}
    (answers : letter.answer? here = some (.lane session via request owner)) :
    letter.event.session = session := by
  rw [answer?] at answers
  split at answers
  · next other sequence message frame =>
    rw [frame]
    cases message <;> cases answers <;> rfl
  · cases answers

end Letter

namespace Scene

/-- A scene with other links. -/
def relink (scene : Scene) (links : SessionId → Option Link) (last : SessionId) : Scene :=
  { scene with links, last }

/-- A new link is there, but nobody knows of it. -/
def join (scene : Scene) (device : DeviceId) (remote : Endpoint) : Scene :=
  scene.relink (Function.update scene.links scene.next (some ⟨⟨device, .source⟩, remote⟩))
    scene.next

variable {scene : Scene} {doomed : Option SessionId} {hand : List Burden}

/-! ## Other links -/

section Relinking

variable {links : SessionId → Option Link} {last : SessionId}

theorem balance_relink_of_same {session : SessionId} {via : Sink.Via} {request : Request}
    {owner : Option Ticket}
    (same : (scene.relink links last).lane? session = scene.lane? session) :
    let burden : Burden := .lane session via request owner
    (scene.relink links last).claimed burden = scene.claimed burden ∧
      (scene.relink links last).pledged burden = scene.pledged burden ∧
      (scene.relink links last).carried burden = scene.carried burden := by
  intro burden
  have debtor : (scene.relink links last).debtor burden = scene.debtor burden := by
    rw [Scene.debtor, Scene.debtor, same]
  have claim : (scene.relink links last).claim? burden = scene.claim? burden := by
    funext entry
    rw [claim?, claim?, same]
  have pledge : (scene.relink links last).pledge? burden = scene.pledge? burden := by
    funext entry
    rw [pledge?, pledge?, same]
    rfl
  have askedAt : (scene.relink links last).askedAt burden = scene.askedAt burden := by
    rw [Scene.askedAt, Scene.askedAt, same]
  have answeredAt : (scene.relink links last).answeredAt burden = scene.answeredAt burden := by
    rw [Scene.answeredAt, Scene.answeredAt, same]
  refine ⟨?_, ?_, ?_⟩
  · rw [claimed, claimed, debtor, claim]
    rfl
  · rw [pledged, pledged, debtor, pledge]
    rfl
  · rw [carried, carried, asking, asking, answering, answering, askedAt, answeredAt]
    rfl

/-- A session without a channel to a sink has no burdens. -/
theorem balance_of_no_lane {session : SessionId} (gone : scene.lane? session = none)
    {via : Sink.Via} {request : Request} {owner : Option Ticket} :
    let burden : Burden := .lane session via request owner
    scene.claimed burden = 0 ∧ scene.pledged burden = 0 ∧ scene.carried burden = 0 := by
  simp [claimed, pledged, carried, asking, answering, askedAt, answeredAt, debtor, gone]

theorem passed_relink {burden : Burden}
    (same :
      ∀ (device : DeviceId) (token : RelayToken) (correlation : Correlation),
        (scene.sources device).relays.live[token]? = some correlation →
          correlation.origin.bind links = correlation.origin.bind scene.links) :
    (scene.relink links last).passed burden = scene.passed burden := by
  rw [passed, passed]
  cases burden with
  | lane _ _ _ _ => rfl
  | relay caller relayer sink request owner =>
      dsimp only [Burden.relayer?]
      congr 1
      apply List.filterMap_congr
      rintro ⟨token, correlation⟩ listed
      rw [errand?, errand?, passedOn?, passedOn?]
      change Option.map _ (correlation.origin.bind links) = _
      rw [same relayer token correlation (Table.mem_toList.1 listed)]
      rfl

end Relinking

namespace Accounted

/-- A request that came on one of the links that stay comes from the same node. -/
theorem origin_bind (accounted : scene.Accounted doomed hand) {device : DeviceId}
    {token : RelayToken} {correlation : Correlation} {links : SessionId → Option Link}
    (held : (scene.sources device).relays.live[token]? = some correlation)
    (kept :
      ∀ session link, scene.links session = some link → link.acceptor.role = .source →
        links session = some link) :
    CameOn links device correlation ∧
      correlation.origin.bind links = correlation.origin.bind scene.links := by
  obtain ⟨origin, link, present, linked, toSource, ends⟩ := accounted.origins held
  have still := kept origin link linked toSource
  refine ⟨⟨origin, link, present, still, toSource, ends⟩, ?_⟩
  rw [present, Option.bind_some, Option.bind_some, linked, still]

/-! ## Opening and hearing -/

theorem enter (accounted : scene.Accounted doomed hand) (device : DeviceId) (channel : Channel) :
    (scene.withSource device ((scene.sources device).enter channel)).Accounted doomed hand := by
  refine accounted.withSource ((accounted.tidy device).enter _) accounted.live_of ?_
  intro burden spared
  have before := accounted.balance spared
  rw [claimed_of_waiting, pledged_of_relays, passed_of_relays]
  · exact before
  · rfl
  · rfl
  · rfl

/-- Nothing waits for a sink that a source does not reach. -/
theorem empty_lane (tidy : ∀ device, (scene.sources device).Tidy) {session : SessionId}
    {device sink : DeviceId} (lane : scene.lane? session = some ⟨⟨device, .source⟩, ⟨sink, .sink⟩⟩)
    (unreached : (⟨sink, .sink⟩ : Endpoint) ∉ (scene.sources device).byPeer) {via : Sink.Via}
    {request : Request} {owner : Option Ticket} :
    let burden : Burden := .lane session via request owner
    scene.claimed burden = 0 ∧ scene.pledged burden = 0 := by
  intro burden
  have debtor : scene.debtor burden = some device := by
    rw [Scene.debtor, lane]
    rfl
  refine ⟨?_, ?_⟩
  · rw [claimed_of_debtor debtor]
    apply List.count_eq_zero_of_not_mem
    intro listed
    obtain ⟨⟨call, ticket⟩, member, claims⟩ := List.mem_filterMap.1 listed
    rw [claim?, lane, Option.bind_some] at claims
    cases call with
    | relayed _ _ _ => cases claims
    | direct peer wanted =>
        rw [directDebt?] at claims
        by_cases same : peer = sink
        · rw [same] at member
          exact unreached ((tidy device).way_of_waiting member)
        · rw [if_neg same] at claims
          cases claims
  · rw [pledged_of_debtor debtor]
    apply List.count_eq_zero_of_not_mem
    intro listed
    obtain ⟨⟨token, correlation⟩, member, pledges⟩ := List.mem_filterMap.1 listed
    rw [pledge?, lane, Option.bind_some, relayedDebt?] at pledges
    by_cases same : correlation.target = sink
    · have way := (tidy device).way_of_live (Table.mem_toList.1 member)
      rw [same] at way
      exact unreached way
    · rw [if_neg same] at pledges
      cases pledges

/-- Nothing is carried on a session that nothing is about. -/
theorem carried_of_silence {session : SessionId}
    (silence :
      ∀ {endpoint letter}, letter ∈ scene.mail endpoint → letter.event.session ≠ session)
    {via : Sink.Via} {request : Request} {owner : Option Ticket} :
    scene.carried (.lane session via request owner) = 0 := by
  have unasked :
      (scene.asking (.lane session via request owner)).count (.lane session via request owner) =
        0 := by
    apply List.count_eq_zero_of_not_mem
    intro listed
    rw [asking] at listed
    split at listed
    · cases listed
    · obtain ⟨letter, member, asks⟩ := List.mem_filterMap.1 listed
      exact silence member (Letter.session_of_ask asks)
  have unanswered :
      (scene.answering (.lane session via request owner)).count
          (.lane session via request owner) = 0 := by
    apply List.count_eq_zero_of_not_mem
    intro listed
    rw [answering] at listed
    split at listed
    · cases listed
    · obtain ⟨letter, member, answers⟩ := List.mem_filterMap.1 listed
      exact silence member (Letter.session_of_answer answers)
  rw [carried, unasked, unanswered]

theorem join (accounted : scene.Accounted doomed hand) (wired : scene.Wired)
    (room : scene.HasRoom) {device : DeviceId} {remote : Endpoint}
    (unreached : (scene.sources device).byPeer[remote]? = none)
    (idle : ∀ via request owner, Burden.lane scene.next via request owner ∉ hand) :
    (scene.join device remote).Accounted doomed hand := by
  have kept (session : SessionId) (link : Link) (linked : scene.links session = some link) :
      Function.update scene.links scene.next (some ⟨⟨device, .source⟩, remote⟩) session =
        some link := by
    rw [Function.update_of_ne (wired.ne_next_of_link room linked)]
    exact linked
  have joined : (scene.join device remote).links scene.next = some ⟨⟨device, .source⟩, remote⟩ :=
    Function.update_self ..
  have origins {tested : DeviceId} {token : RelayToken} {correlation : Correlation}
      (held : (scene.sources tested).relays.live[token]? = some correlation) :=
    accounted.origin_bind held fun session link linked _ => kept session link linked
  refine ⟨accounted.tidy, accounted.addressed, fun held => (origins held).1, ?_⟩
  intro burden spared
  have before := accounted.balance spared
  cases burden with
  | relay _ _ _ _ _ =>
      rw [Scene.join, passed_relink fun tested token correlation held => (origins held).2]
      exact before
  | lane session via request owner =>
      by_cases new : session = scene.next
      · have nothing : hand.count (.lane session via request owner) = 0 := by
          rw [new]
          exact List.count_eq_zero_of_not_mem (idle via request owner)
        have idleLane :
            (scene.join device remote).claimed (.lane session via request owner) = 0 ∧
              (scene.join device remote).pledged (.lane session via request owner) = 0 := by
          obtain ⟨peer, role⟩ := remote
          cases role with
          | source =>
              have lane : (scene.join device ⟨peer, .source⟩).lane? session = none := by
                rw [lane?, new, joined]
                rfl
              obtain ⟨claimed, pledged, _⟩ := balance_of_no_lane lane
              exact ⟨claimed, pledged⟩
          | sink =>
              have lane :
                  (scene.join device ⟨peer, .sink⟩).lane? session =
                    some ⟨⟨device, .source⟩, ⟨peer, .sink⟩⟩ := by
                rw [lane?, new, joined]
                rfl
              have tidy : ∀ tested, ((scene.join device ⟨peer, .sink⟩).sources tested).Tidy :=
                accounted.tidy
              exact empty_lane tidy lane (Table.not_mem_of_getElem? unreached)
        have silent :
            (scene.join device remote).carried (.lane session via request owner) = 0 := by
          apply carried_of_silence
          intro endpoint letter member
          rw [new]
          exact wired.ne_next_of_mail room member
        rw [idleLane.1, idleLane.2, silent, nothing]
        rfl
      · have lane : (scene.join device remote).lane? session = scene.lane? session := by
          rw [lane?, lane?]
          exact congrArg _ (Function.update_of_ne new ..)
        obtain ⟨claimed, pledged, carried⟩ := balance_relink_of_same lane
        rw [Scene.join, claimed, pledged, carried]
        exact before

/-- A source can open a channel if no request for it is in hand. -/
theorem dial (accounted : scene.Accounted doomed hand) (wired : scene.Wired)
    (room : scene.HasRoom) {device : DeviceId} {remote : Endpoint}
    (unreached : (scene.sources device).byPeer[remote]? = none)
    (idle : ∀ via request owner, Burden.lane scene.next via request owner ∉ hand)
    (cause : Cause) : (scene.dial device remote cause).Accounted doomed hand := by
  have joined := accounted.join wired room unreached idle
  have entered := joined.enter device
    { peer := remote.device, remoteRole := remote.role, session := scene.next, outbound := true }
  exact entered.put_idle rfl rfl

/-! ## Closing -/

/-- The link of a channel that does not count can be removed. -/
theorem unlink {session : SessionId} (accounted : scene.Accounted (some session) hand)
    {link : Link} (linked : scene.links session = some link)
    (toSink : link.acceptor.role = .sink)
    (idle : ∀ via request owner, Burden.lane session via request owner ∉ hand) :
    (scene.relink (Function.update scene.links session none) scene.last).Accounted none hand := by
  have kept (other : SessionId) (tested : Link) (there : scene.links other = some tested)
      (toSource : tested.acceptor.role = .source) :
      Function.update scene.links session none other = some tested := by
    rw [Function.update_of_ne]
    · exact there
    · intro same
      rw [same, linked] at there
      cases there
      rw [toSink] at toSource
      cases toSource
  have origins {tested : DeviceId} {token : RelayToken} {correlation : Correlation}
      (held : (scene.sources tested).relays.live[token]? = some correlation) :=
    accounted.origin_bind held kept
  refine ⟨accounted.tidy, accounted.addressed, fun held => (origins held).1, ?_⟩
  intro burden _
  cases burden with
  | relay caller relayer sink request owner =>
      have before :=
        accounted.balance (show (Burden.relay caller relayer sink request owner).Spares
          (some session) from trivial)
      rw [passed_relink fun tested token correlation held => (origins held).2]
      exact before
  | lane other via request owner =>
      by_cases same : other = session
      · have nothing : hand.count (.lane other via request owner) = 0 := by
          rw [same]
          exact List.count_eq_zero_of_not_mem (idle via request owner)
        have gone :
            (scene.relink (Function.update scene.links session none) scene.last).lane? other =
              none := by
          rw [lane?, same, relink]
          dsimp only
          rw [Function.update_self]
          rfl
        obtain ⟨claimed, pledged, carried⟩ := balance_of_no_lane gone
        rw [claimed, pledged, carried, nothing]
        rfl
      · have spared : (Burden.lane other via request owner).Spares (some session) := by
          intro equal
          exact same (Option.some.inj equal).symm
        have before := accounted.balance spared
        have lane :
            (scene.relink (Function.update scene.links session none) scene.last).lane? other =
              scene.lane? other := by
          rw [lane?, lane?]
          exact congrArg _ (Function.update_of_ne same ..)
        obtain ⟨claimed, pledged, carried⟩ := balance_relink_of_same lane
        rw [claimed, pledged, carried]
        exact before

/-- A channel on which nothing is to come is closed. -/
theorem hangUp {device sink : DeviceId} {session : SessionId}
    (accounted : scene.Accounted (some session) hand) (wired : scene.Wired)
    (way : (scene.sources device).byPeer[(⟨sink, .sink⟩ : Endpoint)]? = some session)
    (idle : ∀ via request owner, Burden.lane session via request owner ∉ hand)
    (noCall :
      ∀ {request ticket}, (Call.direct sink request, ticket) ∉ (scene.sources device).waiting)
    (noToken :
      ∀ {token : RelayToken} {correlation : Correlation},
        (scene.sources device).relays.live[token]? = some correlation → correlation.target ≠ sink)
    (cause : Cause) : (scene.hangUp device sink session cause).Accounted none hand := by
  have unlinked := accounted.unlink (wired.link_of_lane way) rfl idle
  have forgotten :
      ((scene.relink (Function.update scene.links session none) scene.last).withSource device
        ((scene.sources device).forget ⟨sink, .sink⟩ session)).Accounted none hand := by
    refine unlinked.withSource ((accounted.tidy device).forget noCall noToken)
      unlinked.live_of ?_
    intro burden spared
    have before := unlinked.balance spared
    rw [claimed_of_waiting, pledged_of_relays, passed_of_relays]
    · exact before
    · rfl
    · rfl
    · rfl
  exact forgotten.put_idle rfl rfl

end Accounted

end Scene

end InputSharing
