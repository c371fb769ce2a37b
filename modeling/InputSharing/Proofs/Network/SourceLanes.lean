import InputSharing.Network.Reaction
import InputSharing.Proofs.Network.Passing
import InputSharing.Proofs.Source.Parts
import InputSharing.Proofs.Source.Relaying

/-!
# Sources keep their lanes running

While a source reacts, whatever it does to its transport or to itself leaves a view
that delivers.  A source sends only on channels that it has opened or accepted, so
it never disturbs the channels of others.
-/

namespace InputSharing.Source.Turn

open Hub (Port)

/-! ## Numbered frames -/

section Frames

variable (turn : Turn (Port Parcel))

/-- The number of one frame is used up. -/
def counted : Turn (Port Parcel) := turn.withChannels turn.channels.counted

theorem send_of_gone {session : SessionId} (gone : turn.line.hub.links[session]? = none)
    (message : Message) : ∃ error, turn.send session message = (.error error, turn.counted) := by
  refine ⟨.sendFailed (TransportError.sessionClosed session).message, ?_⟩
  rw [send, turn.channels.send_of_gone gone]
  rfl

theorem send_of_link (sound : turn.line.hub.Sound) {session : SessionId} {link : Link}
    (linked : turn.line.hub.links[session]? = some link)
    (registered : link.otherEnd turn.line.here ∈ turn.line.hub.directory) (message : Message) :
    ∃ (sequence : UInt64) (hub : Hub Parcel),
      turn.send session message =
          (.ok (), { turn.counted with line := { turn.line with hub } }) ∧
        Hub.Delivered (link.otherEnd turn.line.here)
          (.frame session (.composed sequence message)) turn.line.hub hub := by
  obtain ⟨sequence, hub, sent, delivered⟩ :=
    turn.channels.send_of_link sound linked registered message
  refine ⟨sequence, hub, ?_, delivered⟩
  rw [send, sent]
  rfl

end Frames

/-- A request has been given its token. -/
def entrust (turn : Turn (Port Parcel)) (correlation : Correlation) : Turn (Port Parcel) :=
  { turn with
    source :=
      { turn.source with
        relays :=
          { last := turn.nextToken
            live := turn.source.relays.live.insert turn.nextToken correlation } } }

theorem passOn_eq (turn : Turn (Port Parcel)) (session : SessionId) (inquiry : Inquiry) :
    turn.passOn session inquiry =
      (turn.entrust inquiry.correlation).send session
        (.relayed turn.nextToken turn.source.device inquiry.request) :=
  rfl

theorem live_entrust (turn : Turn (Port Parcel)) (correlation : Correlation)
    (token : RelayToken) :
    (turn.entrust correlation).source.relays.live[token]? =
      if turn.nextToken = token then some correlation else turn.source.relays.live[token]? :=
  Table.getElem?_insert_eq ..

section Entrusted

variable {turn : Turn (Port Parcel)} {ways : SessionId → Option Link} {device : DeviceId}

/-- The token that is next has not been given out. -/
theorem live_nextToken (charted : turn.source.Charted ways device)
    (room : turn.source.relays.last.number.toNat + 1 < UInt64.size) :
    turn.source.relays.live[turn.nextToken]? = none := by
  apply Std.ExtTreeMap.getElem?_eq_none
  intro listed
  have number := nextToken_number room
  have small := charted.tokens listed
  omega

theorem charted_entrust (charted : turn.source.Charted ways device)
    (room : turn.source.relays.last.number.toNat + 1 < UInt64.size) {correlation : Correlation}
    (asked :
      ∀ origin, correlation.origin = some origin →
        ∃ link, ways origin = some link ∧ link.acceptor.role = .source) :
    (turn.entrust correlation).source.Charted ways device where
  known := charted.known
  coherent := charted.coherent
  origins := by
    intro token found origin known present
    rw [live_entrust] at known
    split at known
    · cases known
      exact asked origin present
    · exact charted.origins known present
  tokens := by
    intro token listed
    change token.number.toNat ≤ turn.nextToken.number.toNat
    rw [Table.mem_iff_exists, live_entrust] at listed
    split at listed
    · next same =>
      subst same
      exact Nat.le_refl _
    · have number := nextToken_number room
      have small := charted.tokens ((Table.mem_iff_exists _ _).2 listed)
      omega

end Entrusted

/-! ## Views of a reaction -/

/-- The source of a node reacts, and a view shows where it stands. -/
structure Posed (base : View) (device : DeviceId) (view : View) (turn : Turn (Port Parcel)) :
    Prop where
  here_eq : turn.line.here = ⟨device, .source⟩
  hub_eq : turn.line.hub = view.hub
  source_eq : view.sources device = turn.source
  others_eq : ∀ {other}, other ≠ device → view.sources other = base.sources other
  sinks_eq : view.sinks = base.sinks
  held_eq : view.held = base.held
  ways_eq : view.ways = base.ways
  directory_eq : view.hub.directory = base.hub.directory

/-- The view of a reaction delivers. -/
def Delivers (turn : Turn (Port Parcel)) (base : View) (device : DeviceId) (route : Route)
    (firm : Prop) (hand : List RelayToken) (injected : List (DeviceId × InputEvent))
    (routed : List InputEvent) : Prop :=
  ∃ view, Posed base device view turn ∧ view.Delivers route firm hand injected routed

/-- A message may be sent on a channel: it is for the endpoint that is reached there,
or it is a result for another source. -/
inductive MaySend (turn : Turn (Port Parcel)) (ways : SessionId → Option Link)
    (session : SessionId) (message : Message) : Prop
  | reach {remote : Endpoint} :
      turn.source.registry.byPeer[remote]? = some session →
      (message.isBetweenSources = true ↔ remote.role = .source) →
      MaySend turn ways session message
  | report {link : Link} :
      ways session = some link → link.acceptor.role = .source →
      message.isBetweenSources = true →
      MaySend turn ways session message

/-- A source can open channels and give out tokens. -/
structure HasMeans (turn : Turn (Port Parcel)) (base : View) (device : DeviceId)
    (route : Route) : Prop where
  sessions : turn.line.hub.lastSession.number.toNat + 1 < UInt32.size
  tokens : turn.source.relays.last.number.toNat + 1 < UInt64.size
  home : (⟨device, .source⟩ : Endpoint) ∈ base.hub.directory
  /-- No sink knows a channel that has not been opened yet. -/
  unused :
    base.ways route.session = none →
      (base.sinks route.sink).aside route.session = [] ∧
        route.session ∉ (base.sinks route.sink).switches

variable {base view : View} {device : DeviceId} {route : Route} {firm : Prop}
  {hand : List RelayToken} {injected : List (DeviceId × InputEvent)} {routed : List InputEvent}
  {turn : Turn (Port Parcel)}

/-! ## Channels that are gone -/

theorem unknown_without (turn : Turn (Port Parcel)) (session : SessionId) :
    session ∉ (turn.without session).source.registry.bySession := by
  change session ∉ (turn.source.registry.closed session).2.bySession
  rw [Registry.bySession_closed]
  exact fun listed => ((Table.mem_erase_iff ..).1 listed).1 rfl

theorem known_of_without {session tested : SessionId}
    (known : tested ∈ (turn.without session).source.registry.bySession) :
    tested ∈ turn.source.registry.bySession := by
  change tested ∈ (turn.source.registry.closed session).2.bySession at known
  rw [Registry.bySession_closed] at known
  exact ((Table.mem_erase_iff ..).1 known).2

/-! ## Messages that may be sent -/

/-- A message for a sink may be sent where the sink is reached. -/
theorem MaySend.toSink {ways : SessionId → Option Link} {session : SessionId}
    {message : Message} {sink : DeviceId}
    (reached : turn.source.registry.byPeer[(⟨sink, .sink⟩ : Endpoint)]? = some session)
    (plain : message.isBetweenSources = false) : turn.MaySend ways session message := by
  refine .reach reached (iff_of_false ?_ ?_)
  · rw [plain]
    exact Bool.false_ne_true
  · intro toSource
    cases toSource

/-- The way on which a message may be sent. -/
theorem MaySend.way {session : SessionId} {message : Message}
    (may : turn.MaySend view.ways session message) (charted : view.Charted)
    (posed : Posed base device view turn) :
    ∃ link, view.ways session = some link ∧
      (message.isBetweenSources = true ↔ link.acceptor.role = .source) ∧
        (link.acceptor.role = .sink → link.opener = ⟨device, .source⟩) := by
  have keeps := charted.sources device
  rw [posed.source_eq] at keeps
  cases may with
  | @reach remote reached kind =>
      obtain ⟨link, way, ends, leads⟩ := keeps.way reached
      have role := link.acceptor_role (charted.opener_role way) ends
      rw [leads] at role
      refine ⟨link, way, ?_, ?_⟩
      · rw [role]
        exact kind
      · intro toSink
        apply ends.resolve_right
        intro accepts
        rw [accepts] at toSink
        cases toSink
  | @report link way role between =>
      refine ⟨link, way, iff_of_true between role, ?_⟩
      intro toSink
      rw [role] at toSink
      cases toSink

namespace Posed

/-- A reaction begins. -/
theorem begins (line : turn.line = ⟨base.hub, ⟨device, .source⟩⟩)
    (source : base.sources device = turn.source) : Posed base device base turn where
  here_eq := by rw [line]
  hub_eq := by rw [line]
  source_eq := source
  others_eq := fun _ => rfl
  sinks_eq := rfl
  held_eq := rfl
  ways_eq := rfl
  directory_eq := rfl

theorem withSource (posed : Posed base device view turn) (after : Turn (Port Parcel))
    (line : after.line = turn.line) :
    Posed base device (view.withSource device after.source) after where
  here_eq := by
    rw [line]
    exact posed.here_eq
  hub_eq := by
    rw [line]
    exact posed.hub_eq
  source_eq := Function.update_self ..
  others_eq := by
    intro other different
    simpa [View.withSource, different] using posed.others_eq different
  sinks_eq := posed.sinks_eq
  held_eq := posed.held_eq
  ways_eq := posed.ways_eq
  directory_eq := posed.directory_eq

theorem withHub (posed : Posed base device view turn) {hub : Hub Parcel}
    (directory : hub.directory = view.hub.directory) :
    Posed base device (view.withHub hub) { turn with line := { turn.line with hub } } where
  here_eq := posed.here_eq
  hub_eq := rfl
  source_eq := posed.source_eq
  others_eq := posed.others_eq
  sinks_eq := posed.sinks_eq
  held_eq := posed.held_eq
  ways_eq := posed.ways_eq
  directory_eq := directory.trans posed.directory_eq

theorem unlink (posed : Posed base device view turn) (session : SessionId) :
    Posed base device (view.unlink session)
      { turn with line := { turn.line with hub := (view.unlink session).hub } } :=
  posed.withHub rfl

/-- A new link makes a new way. -/
theorem link (posed : Posed base device view turn) (link : Link) :
    Posed { base with ways := (view.link link).ways } device (view.link link)
      { turn with line := { turn.line with hub := (view.link link).hub } } where
  here_eq := posed.here_eq
  hub_eq := rfl
  source_eq := posed.source_eq
  others_eq := posed.others_eq
  sinks_eq := posed.sinks_eq
  held_eq := posed.held_eq
  ways_eq := rfl
  directory_eq := posed.directory_eq

end Posed

namespace Delivers

/-! ## Changes of the source itself -/

theorem charted (delivers : turn.Delivers base device route firm hand injected routed) :
    turn.source.Charted base.ways device := by
  obtain ⟨view, posed, running⟩ := delivers
  rw [← posed.source_eq, ← posed.ways_eq]
  exact running.charted.sources device

theorem drop (delivers : turn.Delivers base device route firm hand injected routed)
    {fewer : List RelayToken} (sublist : fewer.Sublist hand) :
    turn.Delivers base device route firm fewer injected routed := by
  obtain ⟨view, posed, running⟩ := delivers
  exact ⟨view, posed, running.drop sublist⟩

/-- What is left of the channels and the tokens keeps to the ways, and what matters to the
route is retained. -/
theorem change (delivers : turn.Delivers base device route firm hand injected routed)
    (after : Turn (Port Parcel)) (line : after.line = turn.line)
    (charted : turn.source.Charted base.ways device → after.source.Charted base.ways device)
    {still : Prop}
    (keeps :
      still → (device = route.source → after.source.Opens base.ways device route) → firm)
    (retains :
      still → after.source.Opens base.ways device route → turn.source.Charted base.ways device →
        turn.source.Retains after.source route) :
    after.Delivers base device route still hand injected routed := by
  obtain ⟨view, posed, running⟩ := delivers
  have before := running.charted.sources device
  rw [posed.source_eq, posed.ways_eq] at before
  refine ⟨_, posed.withSource after line, running.withSource ?_ ?_ ?_⟩
  · rw [posed.ways_eq]
    exact charted before
  · rw [posed.ways_eq]
    exact keeps
  · intro stays opens
    rw [posed.ways_eq] at opens
    rw [posed.source_eq]
    exact retains stays opens before

/-- Neither the channels nor the tokens change, and nobody is forgotten. -/
theorem of_same (delivers : turn.Delivers base device route firm hand injected routed)
    {after : Turn (Port Parcel)} (line : after.line = turn.line)
    (byPeer : after.source.registry.byPeer = turn.source.registry.byPeer)
    (bySession : after.source.registry.bySession = turn.source.registry.bySession)
    (relays : after.source.relays = turn.source.relays)
    (beliefs : ∀ sink ∈ turn.source.beliefs, sink ∈ after.source.beliefs) :
    after.Delivers base device route firm hand injected routed := by
  apply delivers.change after line (fun charted => charted.of_same byPeer bySession relays)
    fun stays _ => stays
  intro _ opens _
  refine ⟨?_, beliefs route.sink, ?_⟩
  · rw [← bySession]
    exact opens.known
  · intro token
    rw [Source.Holds, Source.Holds, relays]
    exact id

/-- A source that does not reach a sink does not know the channel of a route to it. -/
theorem firm_of_unreached {sink : DeviceId}
    (delivers :
      turn.Delivers base device route (device = route.source → sink ≠ route.sink) hand injected
        routed)
    (unreached : turn.source.registry.byPeer[(⟨sink, .sink⟩ : Endpoint)]? = none) :
    turn.Delivers base device route True hand injected routed := by
  have charted := delivers.charted
  apply delivers.change turn rfl id
  · intro _ opens here same
    rw [same, (opens here).reached charted] at unreached
    cases unreached
  · exact fun _ opens _ => ⟨opens.known, id, fun _ => id⟩

/-! ## Sending -/

theorem send (delivers : turn.Delivers base device route firm hand injected routed)
    {session : SessionId} {message : Message}
    (may : turn.MaySend base.ways session message) {left : List RelayToken}
    (asks : session = route.session → hand = message.asked?.toList ++ left)
    (fewer : left.Sublist hand) :
    (∃ error, (turn.send session message).1 = .error error ∧
        (turn.send session message).2.Delivers base device route firm hand injected routed) ∨
      (turn.send session message).1 = .ok () ∧
        (turn.send session message).2.Delivers base device route firm left injected routed := by
  have numbered : turn.counted.Delivers base device route firm hand injected routed :=
    delivers.of_same rfl rfl rfl rfl fun _ => id
  cases found : turn.line.hub.links[session]? with
  | none =>
      obtain ⟨error, refused⟩ := turn.send_of_gone found message
      rw [refused]
      exact Or.inl ⟨error, rfl, numbered⟩
  | some link =>
      right
      obtain ⟨view, posed, running⟩ := numbered
      have charted := running.charted
      have hub_eq : turn.line.hub = view.hub := posed.hub_eq
      have here_eq : turn.line.here = ⟨device, .source⟩ := posed.here_eq
      rw [← posed.ways_eq] at may
      have way : view.ways session = some link := by
        apply charted.linked
        rw [← hub_eq]
        exact found
      obtain ⟨other, sameWay, kind, opener⟩ :=
        (show turn.counted.MaySend view.ways session message by
          cases may with
          | reach reached kind => exact .reach reached kind
          | report way role between => exact .report way role between).way charted posed
      obtain rfl : other = link := Option.some.inj (sameWay.symm.trans way)
      have registered : other.otherEnd turn.line.here ∈ turn.line.hub.directory := by
        rw [hub_eq]
        exact charted.otherEnd_registered way turn.line.here
      have sound : turn.line.hub.Sound := by
        rw [hub_eq]
        exact charted.sound
      obtain ⟨sequence, hub, sent, delivered⟩ :=
        turn.send_of_link sound found registered message
      rw [sent]
      rw [here_eq, hub_eq] at delivered
      have suits :
          (TransportEvent.frame session (.composed sequence message)).Suits other
            (other.otherEnd ⟨device, .source⟩) :=
        .frame (other.ends_otherEnd _) kind
      refine ⟨rfl, view.withHub hub, posed.withHub delivered.directory_eq, ?_⟩
      by_cases same : session = route.session
      · subst same
        refine ⟨charted.put delivered way suits, running.unborn, running.ordered, ?_⟩
        intro ours stays knows
        obtain rfl : other = route.link := Option.some.inj (way.symm.trans ours)
        have here : device = route.source := congrArg Endpoint.device (opener rfl).symm
        have leads : route.link.otherEnd ⟨device, .source⟩ = ⟨route.sink, .sink⟩ := by
          rw [Link.otherEnd, if_pos (opener rfl)]
          rfl
        rw [leads] at delivered
        rw [View.lane_put_down delivered]
        apply Lane.Runs.ask
        rw [← asks rfl]
        exact running.runs ours stays knows
      · exact (running.drop fewer).put_other delivered way suits same

/-- A message that asks nothing of a sink under a token. -/
theorem post (delivers : turn.Delivers base device route firm hand injected routed)
    {session : SessionId} {message : Message}
    (may : turn.MaySend base.ways session message) (plain : message.asked? = none) :
    (turn.send session message).2.Delivers base device route firm hand injected routed := by
  have asks : session = route.session → hand = message.asked?.toList ++ hand := by
    intro _
    rw [plain]
    rfl
  rcases delivers.send may asks (List.Sublist.refl hand) with ⟨_, _, refused⟩ | ⟨_, sent⟩
  · exact refused
  · exact sent

/-! ## Opening channels -/

/-- A channel that a source opens is a new way to a registered endpoint. -/
theorem connect_of_registered (delivers : turn.Delivers base device route firm [] injected routed)
    (means : turn.HasMeans base device route) {peer : DeviceId} {role : Role}
    (unreached : turn.source.registry.byPeer[(⟨peer, role⟩ : Endpoint)]? = none)
    (registered : (⟨peer, role⟩ : Endpoint) ∈ turn.line.hub.directory) :
    ∃ ways session after, Widens base.ways ways ∧
      turn.connect peer role = (.ok session, after) ∧
        after.Delivers { base with ways } device route firm [] injected routed ∧
          after.source.registry.byPeer[(⟨peer, role⟩ : Endpoint)]? = some session := by
  obtain ⟨view, posed, running⟩ := delivers
  have hub_eq := posed.hub_eq
  have charted := running.charted
  have room := means.sessions
  rw [hub_eq] at room registered
  obtain ⟨hub, dialled, delivered⟩ :=
    Hub.dial_of_registered (⟨device, .source⟩ : Endpoint) charted.sound registered
  rw [← posed.here_eq, ← hub_eq] at dialled
  let link : Link := ⟨⟨device, .source⟩, ⟨peer, role⟩⟩
  let channel : Channel := { peer, remoteRole := role, session := view.next, outbound := true }
  let after : Turn (Port Parcel) :=
    { turn with source := { turn.source with registry := turn.source.registry.enter channel } }
  have line : Transport.dial turn.line peer role = (.ok view.next, { turn.line with hub }) := by
    rw [Hub.dial_port, dialled, View.next, ← hub_eq]
  have opened :
      turn.connect peer role = (.ok view.next, { after with line := { turn.line with hub } }) := by
    rw [Turn.connect, turn.channels.connect_of_dialled unreached line]
    rfl
  have widens := charted.widens_link room link
  have before := charted.sources device
  rw [posed.source_eq] at before
  have way : (view.link link).ways view.next = some link := Function.update_self ..
  have fresh : view.next ∉ turn.source.registry.bySession := by
    intro known
    obtain ⟨old, found⟩ := (Table.mem_iff_exists _ _).1 known
    obtain ⟨_, taken, _⟩ := before.known found
    rw [charted.way_next room] at taken
    cases taken
  have keeps : after.source.Charted (view.link link).ways device :=
    (before.mono widens).enter (before.coherent.enter fresh fun _ => unreached)
      ⟨link, way, Or.inl rfl, if_pos rfl⟩
  have homely : (⟨device, .source⟩ : Endpoint) ∈ view.hub.directory := by
    rw [posed.directory_eq]
    exact means.home
  have moved :
      ((view.link link).withSource device after.source).Delivers route firm [] injected
        routed := by
    apply running.link room rfl ⟨homely, registered⟩ _ keeps
    · intro other knows
      rw [posed.source_eq]
      refine ⟨?_, id, fun _ => id⟩
      exact (Std.ExtTreeMap.mem_insert.1 knows).resolve_left fun same =>
        other (Std.LawfulEqCmp.eq_of_compare same)
    · rw [posed.ways_eq, posed.sinks_eq]
      exact means.unused
  have suits :
      (TransportEvent.opened view.next device : TransportEvent Parcel).Suits link
        ⟨peer, role⟩ :=
    .opened rfl rfl
  have silent :
      (TransportEvent.opened view.next device : TransportEvent Parcel) ≠
        .closed route.session := by
    intro same
    cases same
  have posted := ((posed.link link).withSource
    { after with line := { turn.line with hub := (view.link link).hub } } rfl).withHub
      delivered.directory_eq
  refine ⟨(view.link link).ways, view.next, _, ?_, opened,
    ⟨_, posted, moved.put_of_none delivered way suits rfl silent⟩,
    Std.ExtTreeMap.getElem?_insert_self⟩
  rw [← posed.ways_eq]
  exact widens

/-- A source that connects knows more ways than before, if the channel is new. -/
theorem connect (delivers : turn.Delivers base device route firm [] injected routed)
    (means : turn.HasMeans base device route) (peer : DeviceId) (role : Role) :
    ∃ ways, Widens base.ways ways ∧
      (turn.connect peer role).2.Delivers { base with ways } device route firm [] injected routed ∧
        ∀ session, (turn.connect peer role).1 = .ok session →
          (turn.connect peer role).2.source.registry.byPeer[(⟨peer, role⟩ : Endpoint)]? =
            some session := by
  cases reached : turn.source.registry.byPeer[(⟨peer, role⟩ : Endpoint)]? with
  | some session =>
      have same : turn.connect peer role = (.ok session, turn) := by
        rw [Turn.connect, turn.channels.connect_of_known reached]
        rfl
      rw [same]
      refine ⟨base.ways, .refl _, delivers, ?_⟩
      rintro _ ⟨⟩
      exact reached
  | none =>
      by_cases registered : (⟨peer, role⟩ : Endpoint) ∈ turn.line.hub.directory
      · obtain ⟨ways, session, after, widens, opened, leaves, there⟩ :=
          delivers.connect_of_registered means reached registered
        rw [opened]
        refine ⟨ways, widens, leaves, ?_⟩
        rintro _ ⟨⟩
        exact there
      · have line :
            Transport.dial turn.line peer role = (.error (.unknownPeer peer), turn.line) := by
          rw [Hub.dial_port, Hub.dial_of_unknown turn.line.here registered]
        have refused :
            turn.connect peer role =
              (.error (.channelOpenFailed (TransportError.unknownPeer peer).message), turn) := by
          rw [Turn.connect, turn.channels.connect_of_refused reached line]
          rfl
        rw [refused]
        refine ⟨base.ways, .refl _, delivers, ?_⟩
        rintro _ ⟨⟩

/-! ## Tokens -/

/-- A token is given out for a request to a sink that is reached on a channel. -/
theorem entrust (delivers : turn.Delivers base device route firm [] injected routed)
    (room : turn.source.relays.last.number.toNat + 1 < UInt64.size) (correlation : Correlation)
    {session : SessionId}
    (reached :
      turn.source.registry.byPeer[(⟨correlation.target, .sink⟩ : Endpoint)]? = some session)
    (asked :
      ∀ origin, correlation.origin = some origin →
        ∃ link, base.ways origin = some link ∧ link.acceptor.role = .source) :
    (turn.entrust correlation).Delivers base device route firm
      (if session = route.session then [turn.nextToken] else []) injected routed := by
  have before := delivers.charted
  have fresh := live_nextToken before room
  have keeps := charted_entrust before room asked
  obtain ⟨view, posed, running⟩ := delivers
  rw [← posed.ways_eq] at before keeps
  refine ⟨_, posed.withSource (turn.entrust correlation) rfl, running.gain keeps ?_ ?_ ?_ ?_⟩
  · rw [posed.source_eq]
    rintro ⟨_, found, _⟩
    rw [fresh] at found
    cases found
  · intro equal ours
    obtain ⟨link, way, ends, _⟩ := before.way reached
    rw [equal] at way
    obtain rfl : link = route.link := Option.some.inj (way.symm.trans ours)
    exact Route.source_of_ends ends
  · intro opens
    rw [posed.source_eq]
    refine ⟨opens.known, id, ?_⟩
    intro token held
    obtain ⟨other, found, target⟩ := held
    refine ⟨other, ?_, target⟩
    rw [live_entrust, if_neg]
    · exact found
    · rintro rfl
      rw [fresh] at found
      cases found
  · intro opens equal
    rw [equal] at reached
    refine ⟨correlation, (live_entrust ..).trans (if_pos rfl), ?_⟩
    exact congrArg Endpoint.device (opens.sink_eq keeps reached)

/-- A token is used up: the one in hand, or one that does not stand for a request to the sink
of the route. -/
theorem consume (delivers : turn.Delivers base device route firm hand injected routed)
    (token : RelayToken) {left : List RelayToken} (fewer : left.Sublist hand)
    (spends :
      turn.source.Opens base.ways device route →
        hand = token :: left ∨ ¬turn.source.Holds route.sink token) :
    (turn.withLive (turn.source.relays.live.erase token)).Delivers base device route firm left
      injected routed := by
  obtain ⟨view, posed, running⟩ := delivers
  have before := running.charted.sources device
  rw [posed.source_eq] at before
  let after := turn.withLive (turn.source.relays.live.erase token)
  have live (other : RelayToken) :
      after.source.relays.live[other]? =
        if token = other then none else turn.source.relays.live[other]? :=
    Table.getElem?_erase_eq ..
  have keeps : after.source.Charted view.ways device := by
    refine ⟨before.known, before.coherent, ?_, ?_⟩
    · intro other correlation session found
      rw [live] at found
      split at found
      · cases found
      · exact before.origins found
    · intro other listed
      exact before.tokens ((Table.mem_erase_iff ..).1 listed).2
  refine ⟨_, posed.withSource after rfl,
    running.spend token keeps fewer ?_ ?_ ?_ ?_⟩
  · intro _ opens
    rw [posed.ways_eq] at opens
    rw [posed.source_eq]
    exact spends ⟨opens.way, opens.here, opens.known⟩
  · rw [posed.source_eq]
    exact id
  · rw [posed.source_eq]
    exact id
  · intro other different held
    rw [posed.source_eq] at held
    obtain ⟨correlation, found, target⟩ := held
    refine ⟨correlation, ?_, target⟩
    rw [live, if_neg fun equal => different equal.symm]
    exact found

/-- The report that is due for a token that is used up. -/
theorem completeRelay (delivers : turn.Delivers base device route firm hand injected routed)
    (token : RelayToken) (result : Correlation → RelayResult) {left : List RelayToken}
    (fewer : left.Sublist hand)
    (spends :
      turn.source.Opens base.ways device route →
        hand = token :: left ∨ ¬turn.source.Holds route.sink token) :
    (turn.completeRelay token fun correlation => correlation.report (result correlation)).Delivers
      base device route firm left injected routed := by
  have charted := delivers.charted
  have consumed := delivers.consume token fewer spends
  obtain silent | ⟨correlation, origin, live, present, reported⟩ :=
    turn.completeRelay_cases token fun correlation => correlation.report (result correlation)
  · rw [silent]
    exact consumed
  · rw [reported]
    obtain ⟨link, way, role⟩ := charted.origins live present
    exact consumed.post (.report way role rfl) rfl

/-! ## The end of a sink -/

theorem foldl_reportLoss (delivers : turn.Delivers base device route firm hand injected routed)
    (lost : List Correlation)
    (origins :
      ∀ correlation ∈ lost, ∀ origin, correlation.origin = some origin →
        ∃ link, base.ways origin = some link ∧ link.acceptor.role = .source) :
    (lost.foldl reportLoss turn).Delivers base device route firm hand injected routed := by
  induction lost generalizing turn with
  | nil => exact delivers
  | cons correlation rest inductionHypothesis =>
      apply inductionHypothesis
      · rw [reportLoss]
        split
        · exact delivers
        · next origin present =>
          obtain ⟨link, way, role⟩ := origins _ List.mem_cons_self origin present
          exact delivers.post (.report way role rfl) rfl
      · exact fun other listed => origins other (List.mem_cons_of_mem _ listed)

/-- A source that gives up a sink no longer looks after the lanes to it. -/
theorem dropSink (delivers : turn.Delivers base device route firm hand injected routed)
    (sink : DeviceId) {still : Prop}
    (keeps : still → firm ∧ (device = route.source → sink ≠ route.sink)) :
    (turn.dropSink sink).Delivers base device route still hand injected routed := by
  have charted := delivers.charted
  let forgotten := (turn.forget sink).failWhere (Call.isTo sink) .disconnected
  have live (token : RelayToken) :
      forgotten.source.relays.live[token]? =
        turn.source.relays.live[token]?.filter fun correlation => correlation.target ≠ sink :=
    Std.ExtTreeMap.getElem?_filter'
  have left : forgotten.Delivers base device route still hand injected routed := by
    apply delivers.change forgotten rfl
    · intro before
      refine ⟨before.known, before.coherent, ?_, ?_⟩
      · intro token correlation session found
        rw [live, Option.filter_eq_some_iff] at found
        exact before.origins found.1
      · intro token listed
        exact before.tokens (Std.ExtTreeMap.mem_of_mem_filter listed)
    · exact fun stays _ => (keeps stays).1
    · intro stays opens _
      have other := (keeps stays).2 opens.here
      refine ⟨opens.known, ?_, ?_⟩
      · intro prepared
        exact (Table.mem_erase_iff ..).2 ⟨other, prepared⟩
      · intro token held
        obtain ⟨correlation, found, target⟩ := held
        refine ⟨correlation, ?_, target⟩
        rw [live, found, Option.filter_some, if_pos]
        rw [decide_eq_true_iff, target]
        exact other.symm
  apply left.foldl_reportLoss
  intro correlation listed origin present
  obtain ⟨⟨token, found⟩, entry, rfl⟩ := List.mem_map.1 listed
  have stands := Table.mem_toList.1 (List.mem_of_mem_filter entry)
  exact charted.origins stands present

/-- A source hangs up a channel of its own that it has forgotten. -/
theorem hangUp (delivers : turn.Delivers base device route True hand injected routed)
    {session : SessionId} (forgotten : session ∉ turn.source.registry.bySession)
    (own :
      session = route.session → base.ways route.session = some route.link →
        device = route.source) :
    ({ turn with line := Transport.hangUp turn.line session } :
      Turn (Port Parcel)).Delivers base device route True hand injected routed := by
  obtain ⟨view, posed, running⟩ := delivers
  have charted := running.charted
  have line :
      Transport.hangUp turn.line session =
        { turn.line with hub := view.hub.hangUp ⟨device, .source⟩ session } := by
    rw [← posed.hub_eq, ← posed.here_eq]
    rfl
  rw [line]
  cases found : view.hub.links[session]? with
  | none =>
      have same : view.hub.hangUp ⟨device, .source⟩ session = view.hub := by
        rw [Hub.hangUp, found]
      rw [same]
      exact ⟨view.withHub view.hub, posed.withHub rfl, running⟩
  | some link =>
      have way := charted.linked found
      have delivered :=
        Hub.hangUp_of_link (⟨device, .source⟩ : Endpoint) charted.sound found
          (charted.otherEnd_registered way _)
      have gone (same : session = route.session)
          (ours : view.ways route.session = some route.link) :
          route.session ∉ (view.sources route.source).registry.bySession := by
        rw [posed.ways_eq] at ours
        rw [← own same ours, posed.source_eq, ← same]
        exact forgotten
      have suits :
          (TransportEvent.closed session : TransportEvent Parcel).Suits link
            (link.otherEnd ⟨device, .source⟩) :=
        .closed (link.ends_otherEnd _)
      exact ⟨(view.unlink session).withHub _, (posed.unlink session).withHub delivered.directory_eq,
        (running.unlink gone).put_of_forgotten delivered way suits gone⟩

/-- A channel that is closed from the side of its source is no longer looked at. -/
theorem disconnect {sink : DeviceId}
    (delivers :
      turn.Delivers base device route (device = route.source → sink ≠ route.sink) hand injected
        routed) :
    (turn.withChannels (turn.channels.disconnect sink .sink)).Delivers base device route True hand
      injected routed := by
  have charted := delivers.charted
  cases reached : turn.source.registry.byPeer[(⟨sink, .sink⟩ : Endpoint)]? with
  | none =>
      have unknown : turn.channels.registry.channel? sink .sink = none := reached
      rw [Channels.disconnect_of_unknown turn.channels unknown]
      exact delivers.firm_of_unreached reached
  | some session =>
      have known : turn.channels.registry.channel? sink .sink = some session := reached
      have closed :
          turn.withChannels (turn.channels.disconnect sink .sink) =
            { turn.without session with line := Transport.hangUp turn.line session } := by
        rw [turn.channels.disconnect_of_known charted.coherent known]
        rfl
      have away : (turn.without session).Delivers base device route True hand injected routed := by
        apply delivers.change (turn.without session) rfl fun before => before.closed session
        · intro _ opens here same
          have stands := opens here
          have before : turn.source.Opens base.ways device route :=
            ⟨stands.way, here, known_of_without stands.known⟩
          have there := before.reached charted
          rw [← same, reached] at there
          exact unknown_without turn session (Option.some.inj there ▸ stands.known)
        · intro _ opens _
          exact ⟨known_of_without opens.known, id, fun _ => id⟩
      rw [closed]
      apply away.hangUp (unknown_without turn session)
      intro same ours
      obtain ⟨link, way, ends, _⟩ := charted.way reached
      rw [same, ours] at way
      rw [← Option.some.inj way] at ends
      exact Route.source_of_ends ends

theorem retire (delivers : turn.Delivers base device route True hand injected routed)
    (sink : DeviceId) :
    (turn.retire sink).Delivers base device route True hand injected routed :=
  (delivers.dropSink sink fun spares => ⟨trivial, spares⟩).disconnect

end Delivers

end InputSharing.Source.Turn
