import InputSharing.Proofs.Network.SourceLanes
import InputSharing.Proofs.Network.SourceReactions
import InputSharing.Proofs.Network.Chronicle

/-!
# Reactions of sources lose nothing

Whatever a source takes from its queue, and whatever it is asked to do, the lanes of
its channels keep running.  It injects exactly the events of the batches that it
takes from a channel that it knows.
-/

namespace InputSharing

/-- The message is a batch of events. -/
def Message.isBatch : Message → Bool
  | .inputEvents _ _ => true
  | _ => false

theorem Message.brought_of_isBatch {message : Message} (plain : message.isBatch = false) :
    message.brought = [] := by
  cases message with
  | inputEvents device events => cases plain
  | _ => rfl

namespace Source.Turn

open Hub (Port)

/-- A reaction is over, and nothing is lost on a route. -/
def Leaves (turn : Turn (Port Parcel)) (base : View) (device : DeviceId) (route : Route)
    (injected : List (DeviceId × InputEvent)) (routed : List InputEvent) : Prop :=
  ∃ ways, Widens base.ways ways ∧
    turn.Delivers { base with ways } device route True [] injected routed

variable {base view : View} {device : DeviceId} {route : Route}
  {injected : List (DeviceId × InputEvent)} {routed : List InputEvent}
  {turn : Turn (Port Parcel)} {session : SessionId} {message : Message}
  {left : List (TransportEvent Parcel)}

theorem Delivers.leaves (delivers : turn.Delivers base device route True [] injected routed) :
    turn.Leaves base device route injected routed :=
  ⟨base.ways, .refl _, delivers⟩

/-- A source has taken a message from its queue. -/
structure Hearing (view : View) (device : DeviceId) (route : Route)
    (injected : List (DeviceId × InputEvent)) (routed : List InputEvent) (session : SessionId)
    (message : Message) (left : List (TransportEvent Parcel)) (turn : Turn (Port Parcel)) :
    Prop where
  delivers : view.Delivers route True [] injected routed
  first :
    ∃ sequence,
      view.held ⟨device, .source⟩ = .frame session (.composed sequence message) :: left
  line_eq : turn.line = ⟨view.hub, ⟨device, .source⟩⟩
  source_eq : view.sources device = turn.source

namespace Hearing

theorem charted (hearing : Hearing view device route injected routed session message left turn) :
    turn.source.Charted view.ways device := by
  rw [← hearing.source_eq]
  exact hearing.delivers.charted.sources device

/-- What the source does at once changes neither its channels nor its tokens. -/
theorem after (hearing : Hearing view device route injected routed session message left turn)
    (after : Turn (Port Parcel)) (line : after.line = turn.line)
    (byPeer : after.source.registry.byPeer = turn.source.registry.byPeer)
    (bySession : after.source.registry.bySession = turn.source.registry.bySession)
    (relays : after.source.relays = turn.source.relays)
    (beliefs : ∀ sink ∈ turn.source.beliefs, sink ∈ after.source.beliefs)
    (prepares :
      turn.source.Opens view.ways device route → session = route.session →
        message.prepares = true → route.sink ∈ after.source.beliefs)
    {grown : List (DeviceId × InputEvent)}
    (still : view.ways route.session = none → grown = injected)
    (grows :
      view.ways route.session = some route.link →
        grown =
          injected ++
            if session = route.session ∧ route.session ∈ turn.source.registry.bySession then
              message.brought.map (Prod.mk route.sink)
            else []) :
    after.Delivers (view.take ⟨device, .source⟩ left) device route True
      (if session = route.session then message.answered?.toList else []) grown routed := by
  obtain ⟨sequence, first⟩ := hearing.first
  have begun : Posed (view.take ⟨device, .source⟩ left) device
      (view.take ⟨device, .source⟩ left) turn :=
    .begins hearing.line_eq hearing.source_eq
  refine ⟨_, begun.withSource after line, hearing.delivers.hear first ?_ ?_ ?_ ?_ ?_ still ?_⟩
  · exact hearing.charted.of_same byPeer bySession relays
  · rw [hearing.source_eq]
    exact bySession
  · rw [hearing.source_eq]
    exact relays
  · rw [hearing.source_eq]
    exact beliefs
  · intro opens
    refine prepares ⟨opens.way, opens.here, ?_⟩
    rw [← bySession]
    exact opens.known
  · rw [bySession]
    exact grows

/-- The same of a message without events. -/
theorem after_of_plain
    (hearing : Hearing view device route injected routed session message left turn)
    (plain : message.isBatch = false) (after : Turn (Port Parcel)) (line : after.line = turn.line)
    (byPeer : after.source.registry.byPeer = turn.source.registry.byPeer)
    (bySession : after.source.registry.bySession = turn.source.registry.bySession)
    (relays : after.source.relays = turn.source.relays)
    (beliefs : ∀ sink ∈ turn.source.beliefs, sink ∈ after.source.beliefs)
    (prepares :
      turn.source.Opens view.ways device route → session = route.session →
        message.prepares = true → route.sink ∈ after.source.beliefs) :
    after.Delivers (view.take ⟨device, .source⟩ left) device route True
      (if session = route.session then message.answered?.toList else []) injected routed := by
  apply hearing.after after line byPeer bySession relays beliefs prepares fun _ => rfl
  intro _
  rw [Message.brought_of_isBatch plain]
  simp

/-- A message that neither prepares anybody nor answers under a token. -/
theorem after_of_idle
    (hearing : Hearing view device route injected routed session message left turn)
    (plain : message.isBatch = false) (prepares : message.prepares = false)
    (answers : message.answered? = none) (after : Turn (Port Parcel))
    (line : after.line = turn.line)
    (byPeer : after.source.registry.byPeer = turn.source.registry.byPeer)
    (bySession : after.source.registry.bySession = turn.source.registry.bySession)
    (relays : after.source.relays = turn.source.relays)
    (beliefs : after.source.beliefs = turn.source.beliefs) :
    after.Delivers (view.take ⟨device, .source⟩ left) device route True [] injected routed := by
  have delivers :=
    hearing.after_of_plain plain after line byPeer bySession relays
      (fun sink known => by rw [beliefs]; exact known)
      (fun _ _ prepared => absurd prepared (Bool.eq_false_iff.1 prepares))
  rw [answers] at delivers
  simpa using delivers

/-! ## What is known of the sender -/

/-- What does not come from a source comes on the channel to a sink. -/
theorem reached (hearing : Hearing view device route injected routed session message left turn)
    (within : message.isBetweenSources = false) {peer : DeviceId}
    (known : turn.source.registry.peer? session = some peer) :
    turn.source.registry.byPeer[(⟨peer, .sink⟩ : Endpoint)]? = some session := by
  obtain ⟨sequence, first⟩ := hearing.first
  obtain ⟨channel, found, rfl⟩ := Option.map_eq_some_iff.1 known
  have charted := hearing.charted
  obtain ⟨link, way, ends, leads⟩ := charted.known found
  obtain ⟨other, sameWay, suits⟩ := hearing.delivers.charted.first first
  obtain rfl : other = link := Option.some.inj (sameWay.symm.trans way)
  have toSink : channel.remoteRole = .sink := by
    have role := other.acceptor_role (hearing.delivers.charted.opener_role way) ends
    rw [leads] at role
    cases suits with
    | frame _ kind =>
        cases remote : channel.remoteRole with
        | sink => rfl
        | source =>
            have between := kind.2 (role.trans remote)
            rw [within] at between
            cases between
  have there := charted.coherent.reached session channel found toSink
  rw [Channel.remote, toSink] at there
  exact there

theorem peer_eq (hearing : Hearing view device route injected routed session message left turn)
    (within : message.isBetweenSources = false) {peer : DeviceId}
    (known : turn.source.registry.peer? session = some peer)
    (opens : turn.source.Opens view.ways device route) (ours : session = route.session) :
    peer = route.sink := by
  have reached := hearing.reached within known
  rw [ours] at reached
  exact congrArg Endpoint.device (opens.sink_eq hearing.charted reached)

section Lane

/-- The lane on which the message came. -/
theorem runs (hearing : Hearing view device route injected routed session message left turn)
    (opens : turn.source.Opens view.ways device route) (ours : session = route.session) :
    (view.lane route).Runs route [] injected routed ∧
      (∃ rest, (view.lane route).up = message :: rest) ∧
      (view.lane route).source = turn.source := by
  obtain ⟨sequence, first⟩ := hearing.first
  have here := opens.here
  have source := hearing.source_eq
  subst here ours
  obtain ⟨rest, next, _⟩ := View.lane_take_up first
  refine ⟨hearing.delivers.runs opens.way trivial ?_, ⟨rest, next⟩, source⟩
  rw [source]
  exact opens.known

/-- The token of an answer is in use. -/
theorem holds (hearing : Hearing view device route injected routed session message left turn)
    {token : RelayToken} (answers : message.answered? = some token)
    (opens : turn.source.Opens view.ways device route) (ours : session = route.session) :
    turn.source.Holds route.sink token := by
  obtain ⟨runs, ⟨rest, next⟩, source⟩ := hearing.runs opens ours
  rw [← source]
  apply runs.held
  simp [Lane.tokens, next, answers]

/-- Whoever receives events is prepared for them. -/
theorem prepared (hearing : Hearing view device route injected routed session message left turn)
    (brings : message.brought ≠ []) (opens : turn.source.Opens view.ways device route)
    (ours : session = route.session) : route.sink ∈ turn.source.beliefs := by
  obtain ⟨runs, ⟨rest, next⟩, source⟩ := hearing.runs opens ours
  rw [← source]
  exact runs.prepared_of_first next brings

end Lane

end Hearing

/-! ## Answers -/

/-- An answer changes nothing but what is believed, and prepares the sink if it says so. -/
theorem absorb_eq (turn : Turn (Port Parcel)) (sink : DeviceId) (reply : Reply) :
    ∃ beliefs, turn.absorb sink reply = { turn with source := { turn.source with beliefs } } ∧
      (∀ known ∈ turn.source.beliefs, known ∈ beliefs) ∧
      (reply.prepares = true → sink ∈ beliefs) := by
  unfold absorb
  by_cases granted : reply.status = Status.ok
  · rw [if_pos granted]
    cases reply with
    | prepared status allowList =>
        refine ⟨turn.source.beliefs.insertIfNew sink {}, rfl, ?_, ?_⟩
        · intro known listed
          exact Std.ExtTreeMap.mem_insertIfNew.2 (Or.inr listed)
        · intro _
          exact Std.ExtTreeMap.mem_insertIfNew_self
    | unprepared status => exact ⟨turn.source.beliefs, rfl, fun _ => id, nofun⟩
    | _ =>
        refine ⟨turn.source.beliefs.modify sink _, rfl, ?_, nofun⟩
        intro known listed
        exact Std.ExtTreeMap.mem_modify.2 listed
  · rw [if_neg granted]
    refine ⟨turn.source.beliefs, rfl, fun _ => id, ?_⟩
    intro prepares
    cases reply with
    | prepared status allowList => exact absurd (of_decide_eq_true prepares) granted
    | _ => cases prepares

theorem Delivers.complete
    {firm : Prop} {hand : List RelayToken}
    (delivers : turn.Delivers base device route firm hand injected routed) (call : Call)
    (outcome : Outcome) :
    (turn.complete call outcome).Delivers base device route firm hand injected routed :=
  delivers.of_same rfl rfl rfl rfl fun _ => id

theorem Delivers.retireIfUnprepared
    (delivers : turn.Delivers base device route True [] injected routed) (sink : DeviceId)
    (reply : Reply) :
    (turn.retireIfUnprepared sink reply).Delivers base device route True [] injected routed := by
  unfold Turn.retireIfUnprepared
  split
  · split
    · exact delivers.retire sink
    · exact delivers
  · exact delivers

namespace Hearing

/-- An answer is absorbed before anything else happens. -/
theorem absorb (hearing : Hearing view device route injected routed session message left turn)
    (plain : message.isBatch = false) (within : message.isBetweenSources = false)
    {peer : DeviceId} (known : turn.source.registry.peer? session = some peer) (reply : Reply)
    (prepares : message.prepares = reply.prepares) :
    (turn.absorb peer reply).Delivers (view.take ⟨device, .source⟩ left) device route True
      (if session = route.session then message.answered?.toList else []) injected routed := by
  obtain ⟨beliefs, absorbs, keeps, believes⟩ := turn.absorb_eq peer reply
  rw [absorbs]
  apply hearing.after_of_plain plain { turn with source := { turn.source with beliefs } }
    rfl rfl rfl rfl keeps
  intro opens ours granted
  rw [← hearing.peer_eq within known opens ours]
  exact believes (prepares.symm.trans granted)

theorem onReply {named peer : DeviceId} {reply : Reply}
    (hearing :
      Hearing view device route injected routed session (.reply named reply) left turn)
    (known : turn.source.registry.peer? session = some peer) :
    (turn.onReply peer reply).Delivers (view.take ⟨device, .source⟩ left) device route True []
      injected routed := by
  have absorbed := (hearing.absorb rfl rfl known reply rfl).drop (List.nil_sublist _)
  exact (absorbed.complete _ _).retireIfUnprepared peer reply

/-- The answer to a request that was passed on uses its token up. -/
theorem onRelayedReply {named peer : DeviceId} {token : RelayToken} {reply : Reply}
    (hearing :
      Hearing view device route injected routed session (.relayedReply token named reply) left
        turn)
    (known : turn.source.registry.peer? session = some peer) :
    (turn.onRelayedReply peer token reply).Delivers (view.take ⟨device, .source⟩ left) device
      route True [] injected routed := by
  -- An answer on the channel of the route is never refused, since its token is in use.
  have ignored
      (strange : turn.source.Opens view.ways device route → session ≠ route.session) :
      turn.Delivers (view.take ⟨device, .source⟩ left) device route True [] injected routed := by
    have heard :=
      hearing.after_of_plain rfl turn rfl rfl rfl rfl (fun _ => id)
        fun opens ours => absurd ours (strange opens)
    exact heard.drop (List.nil_sublist _)
  unfold Turn.onRelayedReply
  split
  · next unused =>
    apply ignored
    intro opens ours
    obtain ⟨correlation, live, _⟩ := hearing.holds rfl opens ours
    rw [Relays.peek, live] at unused
    cases unused
  · next correlation live =>
    split
    · next target =>
      have absorbed := hearing.absorb rfl rfl known reply rfl
      obtain ⟨beliefs, absorbs, _, _⟩ := turn.absorb_eq peer reply
      rw [absorbs] at absorbed ⊢
      apply Delivers.retireIfUnprepared
      apply absorbed.completeRelay token (fun _ => reply.toResult) (List.nil_sublist _)
      intro opens
      by_cases ours : session = route.session
      · rw [if_pos ours]
        exact Or.inl rfl
      · right
        rintro ⟨other, found, sink⟩
        obtain rfl : correlation = other := Option.some.inj (live.symm.trans found)
        have there := hearing.reached rfl known
        rw [← target, sink] at there
        have here := opens.reached absorbed.charted
        exact ours (Option.some.inj (there.symm.trans here))
    · next target =>
      apply ignored
      intro opens ours
      obtain ⟨other, found, sink⟩ := hearing.holds rfl opens ours
      obtain rfl : correlation = other := Option.some.inj (live.symm.trans found)
      exact target (sink.trans (hearing.peer_eq rfl known opens ours).symm)

end Hearing

/-! ## Requests to pass on -/

/-- A request that is sent on takes its token along; one that cannot be sent leaves it to be
used up. -/
theorem Delivers.passOn (delivers : turn.Delivers base device route True [] injected routed)
    (room : turn.source.relays.last.number.toNat + 1 < UInt64.size) (inquiry : Inquiry)
    (reached : turn.source.registry.byPeer[(⟨inquiry.sink, .sink⟩ : Endpoint)]? = some session)
    {link : Link} (way : base.ways inquiry.origin = some link)
    (role : link.acceptor.role = .source) :
    (∃ passed, turn.passOn session inquiry = (.ok (), passed) ∧
        passed.Delivers base device route True [] injected routed) ∨
      ∃ error passed, turn.passOn session inquiry = (.error error, passed) ∧
        ∀ result : Correlation → RelayResult,
          (passed.completeRelay turn.nextToken fun correlation =>
            correlation.report (result correlation)).Delivers base device route True []
              injected routed := by
  have entrusted :=
    delivers.entrust room inquiry.correlation reached (by
      rintro origin ⟨⟩
      exact ⟨link, way, role⟩)
  let message := Message.relayed turn.nextToken turn.source.device inquiry.request
  have asks :
      session = route.session →
        (if session = route.session then [turn.nextToken] else []) =
          message.asked?.toList ++ [] := by
    intro ours
    rw [if_pos ours]
    rfl
  have may : (turn.entrust inquiry.correlation).MaySend base.ways session message :=
    .toSink reached rfl
  have sent := (turn.entrust inquiry.correlation).sent_send session message
  rw [passOn_eq]
  rcases outcome : (turn.entrust inquiry.correlation).send session message with ⟨result, passed⟩
  rcases entrusted.send may asks (List.nil_sublist _) with ⟨error, refused, same⟩ | ⟨ok, goes⟩
  · rw [outcome] at refused same sent
    obtain rfl : result = .error error := refused
    refine Or.inr ⟨error, passed, rfl, fun result => ?_⟩
    refine same.completeRelay _ result (List.nil_sublist _) fun opens => ?_
    by_cases ours : session = route.session
    · rw [if_pos ours]
      exact Or.inl rfl
    · right
      obtain ⟨counter, line, rfl⟩ := sent
      rintro ⟨correlation, found, target⟩
      obtain rfl : correlation = inquiry.correlation :=
        Option.some.inj (found.symm.trans ((live_entrust ..).trans (if_pos rfl)))
      have here := opens.reached same.charted
      rw [← target] at here
      exact ours (Option.some.inj (reached.symm.trans here))
  · rw [outcome] at ok goes
    obtain rfl : result = .ok () := ok
    exact Or.inl ⟨passed, rfl, goes⟩

/-- A request is passed on to a sink, or its failure is reported. -/
theorem Delivers.forward (delivers : turn.Delivers base device route True [] injected routed)
    (means : turn.HasMeans base device route) (inquiry : Inquiry) {link : Link}
    (way : base.ways inquiry.origin = some link) (role : link.acceptor.role = .source) :
    (turn.forward inquiry.origin inquiry.source inquiry.sink inquiry.request).Leaves base device
      route injected routed := by
  have relays : (turn.connect inquiry.sink .sink).2.source.relays = turn.source.relays := by
    rw [Turn.connect]
    rfl
  obtain ⟨ways, widens, connected, reaches⟩ :=
    delivers.connect means inquiry.sink .sink
  refine ⟨ways, widens, ?_⟩
  rw [forward_eq]
  rcases connection : turn.connect inquiry.sink .sink with ⟨error | session, reached⟩
  · rw [connection] at connected
    exact connected.post (.report (widens way) role rfl) rfl
  · rw [connection] at connected reaches relays
    have room : reached.source.relays.last.number.toNat + 1 < UInt64.size := by
      rw [relays]
      exact means.tokens
    dsimp only
    rcases connected.passOn room inquiry (reaches session rfl) (widens way) role with
      ⟨passed, outcome, goes⟩ | ⟨error, passed, outcome, completes⟩
    · rw [outcome]
      exact goes
    · rw [outcome]
      exact completes fun correlation => correlation.request.failure error.statusCode

/-! ## Batches of events -/

theorem handle_of_unknown (now : UInt64) {turn : Turn (Port Parcel)} {session : SessionId}
    (unknown : turn.source.registry.peer? session = none) (message : Message) :
    turn.handle now session message = turn := by
  rw [Turn.handle, unknown]

theorem handle_of_known (now : UInt64) {turn : Turn (Port Parcel)} {session : SessionId}
    {peer : DeviceId} (known : turn.source.registry.peer? session = some peer)
    (message : Message) :
    turn.handle now session message = turn.onMessage now session peer message := by
  rw [Turn.handle, known]

theorem line_inject (turn : Turn (Port Parcel)) (sink : DeviceId) (events : List InputEvent) :
    (turn.inject sink events).line = turn.line ∧
      (turn.inject sink events).source = turn.source := by
  rw [inject]
  split
  · exact ⟨rfl, rfl⟩
  · exact ⟨rfl, rfl⟩

theorem injections_inject (turn : Turn (Port Parcel)) (sink : DeviceId)
    (events : List InputEvent) :
    (turn.inject sink events).injections =
      turn.injections ++ if sink ∈ turn.source.beliefs then events.map (Prod.mk sink) else [] := by
  rw [inject]
  by_cases prepared : sink ∈ turn.source.beliefs
  · rw [if_pos (Std.ExtTreeMap.contains_iff_mem.2 prepared), if_pos prepared]
  · rw [if_neg fun present => prepared (Std.ExtTreeMap.contains_iff_mem.1 present),
      if_neg prepared, List.append_nil]

namespace Hearing

/-- The events of a batch that comes on the channel of a route are all injected. -/
theorem injects {named peer : DeviceId} {events : List InputEvent}
    (hearing :
      Hearing view device route injected routed session (.inputEvents named events) left turn)
    (known : turn.source.registry.peer? session = some peer) (fresh : turn.injections = [])
    (opens : turn.source.Opens view.ways device route) (ours : session = route.session) :
    (turn.inject peer events).injections = events.map (Prod.mk route.sink) := by
  rw [injections_inject, fresh, hearing.peer_eq rfl known opens ours, List.nil_append]
  cases events with
  | nil => simp
  | cons first rest => rw [if_pos (hearing.prepared (List.cons_ne_nil _ _) opens ours)]

theorem onBatch {named : DeviceId} {events : List InputEvent}
    (hearing :
      Hearing view device route injected routed session (.inputEvents named events) left turn)
    (fresh : turn.injections = []) (now : UInt64) :
    (turn.handle now session (.inputEvents named events)).Delivers
      (view.take ⟨device, .source⟩ left) device route True []
      (injected ++
        if session = route.session ∧ device = route.source then
          (turn.handle now session (.inputEvents named events)).injections
        else [])
      routed := by
  obtain ⟨sequence, first⟩ := hearing.first
  have still (gained : List (DeviceId × InputEvent))
      (none : view.ways route.session = none) :
      (injected ++ if session = route.session ∧ device = route.source then gained else []) =
        injected := by
    rw [if_neg, List.append_nil]
    rintro ⟨ours, _⟩
    obtain ⟨link, way, _⟩ := hearing.delivers.charted.first first
    change view.ways session = some link at way
    rw [ours, none] at way
    cases way
  cases known : turn.source.registry.peer? session with
  | none =>
      rw [handle_of_unknown now known]
      have heard :=
        hearing.after turn rfl rfl rfl rfl (fun _ => id) nofun (still turn.injections) (by
          intro _
          rw [fresh, ite_self, if_neg]
          rintro ⟨ours, knows⟩
          obtain ⟨channel, found⟩ := (Table.mem_iff_exists _ _).1 knows
          rw [Registry.peer?, ours, found] at known
          cases known)
      simpa [Message.answered?] using heard
  | some peer =>
      rw [handle_of_known now known]
      change (turn.inject peer events).Delivers _ _ _ _ _
        (_ ++ if _ then (turn.inject peer events).injections else []) _
      obtain ⟨line, source⟩ := turn.line_inject peer events
      have heard :=
        hearing.after (turn.inject peer events) line (by rw [source]) (by rw [source])
          (by rw [source]) (by rw [source]; exact fun _ => id) nofun
          (still (turn.inject peer events).injections) (by
            intro way
            by_cases ours : session = route.session
            · have here : device = route.source :=
                hearing.delivers.charted.source_of_first first (by rw [← way, ← ours]; rfl)
              have knows : route.session ∈ turn.source.registry.bySession := by
                obtain ⟨channel, found, _⟩ := Option.map_eq_some_iff.1 known
                rw [← ours]
                exact Table.mem_of_getElem? found
              rw [if_pos ⟨ours, here⟩, if_pos ⟨ours, knows⟩,
                hearing.injects known fresh ⟨way, here, knows⟩ ours]
              rfl
            · rw [if_neg fun both => ours both.1, if_neg fun both => ours both.1])
      simpa [Message.answered?] using heard

end Hearing

/-! ## Channels -/

/-- A source hears of a channel that another source has opened to it. -/
theorem leaves_opened (delivers : view.Delivers route True [] injected routed)
    (line : turn.line = ⟨view.hub, ⟨device, .source⟩⟩)
    (source : view.sources device = turn.source) {peer : DeviceId}
    (first : view.held ⟨device, .source⟩ = .opened session peer :: left) :
    (turn.opened session peer).Delivers (view.take ⟨device, .source⟩ left) device route True []
      injected routed := by
  obtain ⟨link, way, suits⟩ := delivers.charted.first first
  have opener := delivers.charted.opener_role way
  have charted := delivers.charted.sources device
  rw [source] at charted
  obtain ⟨accepts, caller⟩ : link.acceptor = ⟨device, .source⟩ ∧ link.opener.device = peer := by
    cases suits with
    | opened accepts caller => exact ⟨accepts, caller⟩
  have leads : link.otherEnd ⟨device, .source⟩ = ⟨peer, .source⟩ := by
    rw [Link.otherEnd]
    split
    · next opens => rw [accepts, ← caller, opens]
    · rw [← caller, ← opener]
  let channel : Channel := { peer, remoteRole := .source, session, outbound := false }
  have bySession (tested : SessionId) :
      (turn.opened session peer).source.registry.bySession[tested]? =
        if session = tested then some channel else turn.source.registry.bySession[tested]? :=
    Table.getElem?_insert_eq ..
  have keeps : (turn.opened session peer).source.Charted view.ways device := by
    refine charted.enter (charted.coherent.reenter ?_ ?_) ⟨link, way, Or.inr accepts, leads⟩
    · intro known found
      obtain ⟨other, sameWay, _, there⟩ := charted.known found
      obtain rfl : other = link := Option.some.inj (sameWay.symm.trans way)
      exact there.symm.trans leads
    · intro toSink
      cases toSink
  have taken : (view.take ⟨device, .source⟩ left).Delivers route True [] injected routed := by
    refine delivers.take first rfl ?_
    intro gone
    cases gone
  have begun : Posed (view.take ⟨device, .source⟩ left) device
      (view.take ⟨device, .source⟩ left) turn :=
    .begins line source
  refine ⟨_, begun.withSource (turn.opened session peer) rfl,
    taken.withSource keeps (fun stays _ => stays) ?_⟩
  intro _ opens
  rw [show (view.take ⟨device, .source⟩ left).sources device = turn.source from source]
  refine ⟨?_, id, fun _ => id⟩
  have known := opens.known
  rw [Table.mem_iff_exists, bySession] at known
  obtain ⟨found, present⟩ := known
  split at present
  · next same =>
    have ours := opens.way
    change view.ways route.session = some route.link at ours
    change view.ways session = some link at way
    rw [← same, way] at ours
    rw [Option.some.inj ours] at accepts
    cases accepts
  · exact Table.mem_of_getElem? present

/-- Requests may lose their origin, but their tokens stay in use. -/
theorem Delivers.detach (delivers : turn.Delivers base device route True [] injected routed)
    (session : SessionId) :
    ({ turn with
        source :=
          { turn.source with relays := turn.source.relays.abandonOrigin session } } :
      Turn (Port Parcel)).Delivers base device route True [] injected routed := by
  have live := turn.source.relays.getElem?_abandonOrigin session
  let after : Turn (Port Parcel) :=
    { turn with
      source := { turn.source with relays := turn.source.relays.abandonOrigin session } }
  apply delivers.change after rfl
  · intro before
    refine ⟨before.known, before.coherent, ?_, ?_⟩
    · intro token correlation origin found present
      rw [live] at found
      obtain ⟨old, known, rfl⟩ := Option.map_eq_some_iff.1 found
      apply before.origins known
      rw [Correlation.detach] at present
      split at present
      · cases present
      · exact present
    · intro token listed
      exact before.tokens (Std.ExtTreeMap.mem_map.1 listed)
  · exact fun stays _ => stays
  · intro _ opens _
    refine ⟨opens.known, id, ?_⟩
    rintro token ⟨correlation, found, target⟩
    refine ⟨correlation.detach session, ?_, ?_⟩
    · change (turn.source.relays.abandonOrigin session).live[token]? = _
      rw [live, found]
      rfl
    · rw [Correlation.target_detach]
      exact target

/-- A source that hears that a channel is gone gives up what depends on it. -/
theorem leaves_closed (delivers : view.Delivers route True [] injected routed)
    (line : turn.line = ⟨view.hub, ⟨device, .source⟩⟩)
    (source : view.sources device = turn.source)
    (first : view.held ⟨device, .source⟩ = .closed session :: left) :
    (turn.closed session).Delivers (view.take ⟨device, .source⟩ left) device route True []
      injected routed := by
  have charted := delivers.charted.sources device
  rw [source] at charted
  have begun : Posed (view.take ⟨device, .source⟩ left) device
      (view.take ⟨device, .source⟩ left) turn :=
    .begins line source
  have parted :
      (turn.without session).Delivers (view.take ⟨device, .source⟩ left) device route True []
        injected routed := by
    refine ⟨_, begun.withSource (turn.without session) rfl,
      delivers.lose first (charted.closed session) (unknown_without turn session) ?_⟩
    intro opens
    rw [source]
    exact ⟨known_of_without opens.known, id, fun _ => id⟩
  cases found : turn.source.registry.bySession[session]? with
  | none =>
      have same : turn.without session = turn := by
        rw [without, Registry.closed_of_unknown found]
      rw [turn.closed_of_unknown found]
      rw [same] at parted
      exact parted
  | some channel =>
      rw [turn.closed_of_known found]
      split
      · next toSink =>
        have unreached :
            (turn.without session).source.registry.byPeer[(⟨channel.peer, .sink⟩ : Endpoint)]? =
              none := by
          have there := charted.coherent.reached session channel found toSink
          rw [Channel.remote, toSink] at there
          change (turn.source.registry.closed session).2.byPeer[_]? = _
          rw [charted.coherent.byPeer_closed, if_pos there]
        have dropped :=
          parted.dropSink channel.peer fun spares => ⟨trivial, spares⟩
        apply dropped.firm_of_unreached
        obtain ⟨counter, port, same⟩ := (turn.without session).sent_dropSink channel.peer
        rw [same]
        exact unreached
      · exact parted.of_same rfl rfl rfl rfl fun _ => id
      · exact parted.detach session

/-! ## Messages -/

namespace Hearing

/-- Whoever does not know the channel of a message drops the message. -/
theorem dropped (hearing : Hearing view device route injected routed session message left turn)
    (plain : message.isBatch = false) (unknown : turn.source.registry.peer? session = none) :
    turn.Delivers (view.take ⟨device, .source⟩ left) device route True [] injected routed := by
  have heard :=
    hearing.after_of_plain plain turn rfl rfl rfl rfl (fun _ => id) (by
      intro opens ours _
      obtain ⟨channel, found⟩ := (Table.mem_iff_exists _ _).1 opens.known
      rw [Registry.peer?, ours, found] at unknown
      cases unknown)
  exact heard.drop (List.nil_sublist _)

theorem leaves_forward {caller relayer sink : DeviceId} {request : Request}
    (hearing :
      Hearing view device route injected routed session
        (.relayRequest caller relayer sink request) left turn)
    (means : turn.HasMeans (view.take ⟨device, .source⟩ left) device route) :
    (turn.forward session relayer sink request).Leaves (view.take ⟨device, .source⟩ left) device
      route injected routed := by
  obtain ⟨sequence, first⟩ := hearing.first
  obtain ⟨link, way, suits⟩ := hearing.delivers.charted.first first
  have role : link.acceptor.role = .source := by
    cases suits with
    | frame _ kind => exact kind.1 rfl
  have heard :
      turn.Delivers (view.take ⟨device, .source⟩ left) device route True [] injected routed :=
    hearing.after_of_idle rfl rfl rfl turn rfl rfl rfl rfl rfl
  exact heard.forward means ⟨session, relayer, sink, request⟩ way role

theorem leaves_handle
    (hearing : Hearing view device route injected routed session message left turn)
    (means : turn.HasMeans (view.take ⟨device, .source⟩ left) device route)
    (plain : message.isBatch = false) (now : UInt64) :
    (turn.handle now session message).Leaves (view.take ⟨device, .source⟩ left) device route
      injected routed := by
  cases known : turn.source.registry.peer? session with
  | none =>
      rw [handle_of_unknown now known]
      exact (hearing.dropped plain known).leaves
  | some peer =>
      rw [handle_of_known now known]
      have reports (events : List InputEvent) (prepares : message.prepares = false)
          (answers : message.answered? = none) :
          (turn.inject peer events).Delivers (view.take ⟨device, .source⟩ left) device route True
            [] injected routed := by
        obtain ⟨line, source⟩ := turn.line_inject peer events
        exact hearing.after_of_idle plain prepares answers _ line (by rw [source])
          (by rw [source]) (by rw [source]) (by rw [source])
      cases message with
      | reply _ reply => exact (hearing.onReply known).leaves
      | relayedReply token _ reply => exact (hearing.onRelayedReply known).leaves
      | relayRequest _ relayer sink request => exact hearing.leaves_forward means
      | keyState _ key => exact (reports _ rfl rfl).leaves
      | keyStates _ keys => exact (reports _ rfl rfl).leaves
      | inputEvents _ events => cases plain
      | relayResult relayer sink result =>
          have heard :=
            hearing.after_of_idle plain rfl rfl (turn.onResult relayer sink result) rfl rfl rfl rfl
              rfl
          exact heard.leaves
      | latencyEcho _ sentAtUs =>
          have heard :=
            hearing.after_of_idle plain rfl rfl (turn.onEcho now peer sentAtUs) rfl rfl rfl rfl rfl
          exact heard.leaves
      | request _ _ => exact (hearing.after_of_idle plain rfl rfl turn rfl rfl rfl rfl rfl).leaves
      | relayed _ _ _ =>
          exact (hearing.after_of_idle plain rfl rfl turn rfl rfl rfl rfl rfl).leaves
      | latencyProbe _ _ =>
          exact (hearing.after_of_idle plain rfl rfl turn rfl rfl rfl rfl rfl).leaves

end Hearing

/-! ## Calls -/

theorem existing_eq (turn : Turn (Port Parcel)) (sink : DeviceId) :
    (turn.existing sink).2 = turn ∧
      ∀ session, (turn.existing sink).1 = .ok session →
        turn.source.registry.byPeer[(⟨sink, .sink⟩ : Endpoint)]? = some session := by
  rw [existing]
  split
  · next session known =>
    refine ⟨rfl, ?_⟩
    rintro _ ⟨⟩
    exact known
  · refine ⟨rfl, ?_⟩
    intro session found
    cases found

/-- The channel for a call is one on which the endpoint of the call is reached. -/
theorem Delivers.channelFor (delivers : turn.Delivers base device route True [] injected routed)
    (means : turn.HasMeans base device route) (wanted : Call) :
    ∃ ways, Widens base.ways ways ∧
      (turn.channelFor wanted).2.Delivers { base with ways } device route True [] injected
        routed ∧
      ∀ session, (turn.channelFor wanted).1 = .ok session →
        (turn.channelFor wanted).2.source.registry.byPeer[wanted.remote]? = some session := by
  have existing (sink : DeviceId) :
      ∃ ways, Widens base.ways ways ∧
        (turn.existing sink).2.Delivers { base with ways } device route True [] injected routed ∧
        ∀ session, (turn.existing sink).1 = .ok session →
          (turn.existing sink).2.source.registry.byPeer[(⟨sink, .sink⟩ : Endpoint)]? =
            some session := by
    obtain ⟨same, reached⟩ := turn.existing_eq sink
    rw [same]
    exact ⟨base.ways, .refl _, delivers, reached⟩
  have guarded (sink : DeviceId) :
      ∃ ways, Widens base.ways ways ∧
        (if turn.source.beliefs.contains sink then turn.existing sink
          else (.error .notPrepared, turn)).2.Delivers { base with ways } device route True []
            injected routed ∧
        ∀ session,
          (if turn.source.beliefs.contains sink then turn.existing sink
            else (.error .notPrepared, turn)).1 = .ok session →
          (if turn.source.beliefs.contains sink then turn.existing sink
            else (.error .notPrepared, turn)).2.source.registry.byPeer[
              (⟨sink, .sink⟩ : Endpoint)]? = some session := by
    split
    · exact existing sink
    · refine ⟨base.ways, .refl _, delivers, ?_⟩
      intro session found
      cases found
  cases wanted with
  | relayed relayer sink request => exact delivers.connect means relayer .source
  | direct sink request =>
      cases request with
      | prepare => exact delivers.connect means sink .sink
      | unprepare => exact existing sink
      | startByType types => exact guarded sink
      | stopByType types => exact guarded sink
      | startByHandles handles => exact guarded sink
      | stopByHandles handles => exact guarded sink

theorem leaves_call (delivers : turn.Delivers base device route True [] injected routed)
    (means : turn.HasMeans base device route) (ticket : Ticket) (wanted : Call) :
    (turn.call ticket wanted).2.Leaves base device route injected routed := by
  obtain ⟨ways, widens, found, reaches⟩ := delivers.channelFor means wanted
  have kind (caller : DeviceId) :
      (wanted.message caller).isBetweenSources = true ↔ wanted.remote.role = .source := by
    cases wanted with
    | direct sink request =>
        refine iff_of_false Bool.false_ne_true ?_
        intro toSource
        cases toSource
    | relayed relayer sink request => exact iff_of_true rfl rfl
  have plain (caller : DeviceId) : (wanted.message caller).asked? = none := by
    cases wanted <;> rfl
  have sends (session : SessionId) (way : (turn.channelFor wanted).1 = .ok session) :=
    found.post (.reach (reaches session way) (kind _))
      (plain (turn.channelFor wanted).2.source.device)
  obtain refused | ⟨error, refused⟩ | ⟨session, way, ⟨error, refused⟩ | ⟨_, _, accepted⟩⟩ :=
    turn.call_cases ticket wanted
  · rw [refused]
    exact Delivers.leaves (delivers.of_same rfl rfl rfl rfl fun _ => id)
  · rw [refused]
    exact ⟨ways, widens, found.of_same rfl rfl rfl rfl fun _ => id⟩
  · rw [refused]
    exact ⟨ways, widens, (sends session way).of_same rfl rfl rfl rfl fun _ => id⟩
  · rw [accepted]
    exact ⟨ways, widens, (sends session way).of_same rfl rfl rfl rfl fun _ => id⟩

/-! ## Delays -/

theorem Delivers.tick (delivers : turn.Delivers base device route True [] injected routed)
    (now : UInt64) :
    (turn.tick now).Delivers base device route True [] injected routed := by
  rw [Turn.tick]
  generalize ((turn.source.beliefs.toList.filter _).map Prod.fst) = sinks
  induction sinks generalizing turn with
  | nil => exact delivers
  | cons sink rest inductionHypothesis =>
      apply inductionHypothesis
      rw [probe]
      split
      · exact delivers
      · next session known =>
        exact delivers.post (.toSink known rfl) rfl

/-! ## Any event -/

theorem batch?_of_frame (session : SessionId) (sequence : UInt64) (message : Message) :
    (SourceEvent.transport (.frame session (.composed sequence message))).batch? =
      if message.isBatch then some session else none := by
  cases message <;> rfl

/-- Whatever the transport reports to a source, nothing is lost on a route. -/
theorem leaves_transport (delivers : view.Delivers route True [] injected routed)
    (means : turn.HasMeans (view.take ⟨device, .source⟩ left) device route)
    (line : turn.line = ⟨view.hub, ⟨device, .source⟩⟩)
    (source : view.sources device = turn.source) (fresh : turn.injections = [])
    {event : TransportEvent Parcel} (first : view.held ⟨device, .source⟩ = event :: left)
    (now : UInt64) :
    ((SourceEvent.transport event).react now turn).Leaves (view.take ⟨device, .source⟩ left) device
      route
      (injected ++
        if device = route.source ∧ (SourceEvent.transport event).batch? = some route.session then
          ((SourceEvent.transport event).react now turn).injections
        else [])
      routed := by
  cases event with
  | opened session peer =>
      rw [if_neg (fun both => nomatch both.2), List.append_nil]
      exact (leaves_opened delivers line source first).leaves
  | closed session =>
      rw [if_neg (fun both => nomatch both.2), List.append_nil]
      exact (leaves_closed delivers line source first).leaves
  | frame session parcel =>
      obtain ⟨link, way, suits⟩ := delivers.charted.first first
      obtain ⟨sequence, message, rfl⟩ :
          ∃ sequence message, parcel = .composed sequence message := by
        cases suits with
        | frame _ _ => exact ⟨_, _, rfl⟩
      have hearing :
          Hearing view device route injected routed session message left turn :=
        ⟨delivers, ⟨sequence, first⟩, line, source⟩
      rw [Taking.react_frame, batch?_of_frame]
      cases kind : message.isBatch with
      | false =>
          rw [if_neg (fun both => nomatch both.2), List.append_nil]
          exact hearing.leaves_handle means kind now
      | true =>
          cases message with
          | inputEvents named events =>
              have injects := (hearing.onBatch fresh now).leaves
              simpa [and_comm, eq_comm] using injects
          | _ => cases kind

end Source.Turn

end InputSharing
