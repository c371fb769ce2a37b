import InputSharing.Proofs.Network.Scene

/-!
# The wiring of a network

A scene is `Wired` when everybody agrees about the channels.  A source knows only
sessions whose links are there; whoever opened a link knows its session; and the
other end either knows it too or hears of it before anything else comes on it.
Sessions are numbered in order, so nothing that waits is about a session that is
still to come.
-/

namespace InputSharing

namespace Standing

def enter (standing : Standing) (channel : Channel) : Standing :=
  { standing with
    byPeer := standing.byPeer.insert channel.remote channel.session
    bySession := standing.bySession.insert channel.session channel }

/-- Forget the channel to a remote endpoint. -/
def forget (standing : Standing) (remote : Endpoint) (session : SessionId) : Standing :=
  { standing with
    byPeer := standing.byPeer.erase remote
    bySession := standing.bySession.erase session }

end Standing

namespace Scene

structure Wired (scene : Scene) : Prop where
  opener_role : ∀ {session link}, scene.links session = some link → link.opener.role = .source
  ends_registered :
    ∀ {session link}, scene.links session = some link →
      scene.registered link.opener.device ∧ scene.registered link.acceptor.device
  links_numbered :
    ∀ {session link}, scene.links session = some link →
      session.number.toNat ≤ scene.last.number.toNat
  known :
    ∀ {device session channel}, (scene.sources device).bySession[session]? = some channel →
      ∃ link, scene.links session = some link ∧ link.Ends ⟨device, .source⟩ ∧
        link.otherEnd ⟨device, .source⟩ = channel.remote
  reached :
    ∀ {device : DeviceId} {remote : Endpoint} {session : SessionId},
      (scene.sources device).byPeer[remote]? = some session →
        ∃ channel, (scene.sources device).bySession[session]? = some channel ∧
          channel.remote = remote
  opener_knows :
    ∀ {session link}, scene.links session = some link →
      session ∈ (scene.sources link.opener.device).bySession
  /-- There is one channel at most from a source to a sink. -/
  way :
    ∀ {session link}, scene.links session = some link → link.acceptor.role = .sink →
      (scene.sources link.opener.device).byPeer[link.acceptor]? = some session
  announced :
    ∀ {session link}, scene.links session = some link →
      scene.Knows link.acceptor session ∨
        scene.first? link.acceptor session = some (.opened session link.opener.device)
  opened_linked :
    ∀ {device letter session peer}, letter ∈ scene.mail ⟨device, .source⟩ →
      letter.event = .opened session peer →
      scene.links session = some ⟨⟨peer, .source⟩, ⟨device, .source⟩⟩
  closed_gone :
    ∀ {endpoint letter session}, letter ∈ scene.mail endpoint → letter.event = .closed session →
      endpoint.role = .sink ∧ scene.links session = none
  mail_numbered :
    ∀ {endpoint letter}, letter ∈ scene.mail endpoint →
      letter.event.session.number.toNat ≤ scene.last.number.toNat

/-! ## What is waiting -/

variable {scene : Scene}

theorem mem_mail_put {endpoint tested : Endpoint} {letter other : Letter} :
    other ∈ (scene.put endpoint letter).mail tested ↔
      other ∈ scene.mail tested ∨ (tested = endpoint ∧ other = letter) := by
  by_cases same : tested = endpoint
  · subst same
    simp
  · simp [same]

theorem mem_mail_of_take {endpoint tested : Endpoint} {other : Letter}
    (member : other ∈ (scene.take endpoint).mail tested) : other ∈ scene.mail tested := by
  by_cases same : tested = endpoint
  · subst same
    rw [mail_take_self] at member
    exact List.mem_of_mem_tail member
  · rw [mail_take_of_ne same] at member
    exact member

/-- What comes later does not come first. -/
theorem first?_put_of_some {endpoint tested : Endpoint} {letter : Letter} {session : SessionId}
    {event : TransportEvent Parcel} (first : scene.first? tested session = some event) :
    (scene.put endpoint letter).first? tested session = some event := by
  by_cases same : tested = endpoint
  · subst same
    rw [first?] at first
    rw [first?, mail_put_self, List.map_append, List.find?_append, first]
    rfl
  · rw [first?, mail_put_of_ne same]
    exact first

theorem first?_take {endpoint : Endpoint} {letter : Letter} {rest : List Letter}
    {session : SessionId} (waiting : scene.mail endpoint = letter :: rest)
    (other : letter.event.session ≠ session) (tested : Endpoint) :
    (scene.take endpoint).first? tested session = scene.first? tested session := by
  by_cases same : tested = endpoint
  · subst same
    rw [first?, first?, mail_take_self, waiting]
    simp [other]
  · rw [first?, mail_take_of_ne same]
    rfl

/-- What is first of all is first of what is about its session. -/
theorem first?_of_head {endpoint : Endpoint} {letter : Letter} {rest : List Letter}
    (waiting : scene.mail endpoint = letter :: rest) :
    scene.first? endpoint letter.event.session = some letter.event := by
  rw [first?, waiting]
  simp

namespace Wired

/-! ## Small changes -/

theorem put_frame (wired : scene.Wired) {endpoint : Endpoint} {session : SessionId}
    {parcel : Parcel} {owner : Option Ticket} {cause : Cause}
    (numbered : session.number.toNat ≤ scene.last.number.toNat) :
    (scene.put endpoint ⟨.frame session parcel, owner, cause⟩).Wired where
  opener_role := wired.opener_role
  ends_registered := wired.ends_registered
  links_numbered := wired.links_numbered
  known := wired.known
  reached := wired.reached
  opener_knows := wired.opener_knows
  way := wired.way
  announced := by
    intro tested link linked
    rcases wired.announced linked with knows | first
    · exact Or.inl knows
    · exact Or.inr (first?_put_of_some first)
  opened_linked := by
    intro device letter tested peer member opened
    rcases mem_mail_put.1 member with old | ⟨_, new⟩
    · exact wired.opened_linked old opened
    · rw [new] at opened
      cases opened
  closed_gone := by
    intro tested letter gone member closed
    rcases mem_mail_put.1 member with old | ⟨_, new⟩
    · exact wired.closed_gone old closed
    · rw [new] at closed
      cases closed
  mail_numbered := by
    intro tested letter member
    rcases mem_mail_put.1 member with old | ⟨_, new⟩
    · exact wired.mail_numbered old
    · rw [new]
      exact numbered

/-- An event can be taken if it does not announce a channel that is not yet known. -/
theorem take (wired : scene.Wired) {endpoint : Endpoint} {letter : Letter} {rest : List Letter}
    (waiting : scene.mail endpoint = letter :: rest)
    (heard :
      ∀ session peer, letter.event = .opened session peer → scene.Knows endpoint session) :
    (scene.take endpoint).Wired where
  opener_role := wired.opener_role
  ends_registered := wired.ends_registered
  links_numbered := wired.links_numbered
  known := wired.known
  reached := wired.reached
  opener_knows := wired.opener_knows
  way := wired.way
  announced := by
    intro session link linked
    rcases wired.announced linked with knows | first
    · exact Or.inl knows
    · by_cases about : letter.event.session = session
      · by_cases here : link.acceptor = endpoint
        · have head := first?_of_head waiting
          rw [about, ← here, first] at head
          rw [here]
          exact Or.inl (heard _ _ (Option.some.inj head).symm)
        · right
          rw [first?, mail_take_of_ne here]
          exact first
      · right
        rw [first?_take waiting about]
        exact first
  opened_linked := fun member opened => wired.opened_linked (mem_mail_of_take member) opened
  closed_gone := fun member closed => wired.closed_gone (mem_mail_of_take member) closed
  mail_numbered := fun member => wired.mail_numbered (mem_mail_of_take member)

/-- What a source waits for has nothing to do with channels. -/
theorem withSource (wired : scene.Wired) {device : DeviceId} {standing : Standing}
    (byPeer : standing.byPeer = (scene.sources device).byPeer)
    (bySession : standing.bySession = (scene.sources device).bySession) :
    (scene.withSource device standing).Wired := by
  have samePeers (tested : DeviceId) :
      ((scene.withSource device standing).sources tested).byPeer =
        (scene.sources tested).byPeer := by
    by_cases same : tested = device
    · subst same
      rw [sources_withSource_self, byPeer]
    · rw [sources_withSource_of_ne same]
  have sameSessions (tested : DeviceId) :
      ((scene.withSource device standing).sources tested).bySession =
        (scene.sources tested).bySession := by
    by_cases same : tested = device
    · subst same
      rw [sources_withSource_self, bySession]
    · rw [sources_withSource_of_ne same]
  have sameKnows (endpoint : Endpoint) (session : SessionId) :
      (scene.withSource device standing).Knows endpoint session ↔
        scene.Knows endpoint session := by
    obtain ⟨tested, role⟩ := endpoint
    cases role with
    | source =>
        rw [Knows, Knows, sameSessions]
    | sink =>
        exact Iff.rfl
  refine ⟨wired.opener_role, wired.ends_registered, wired.links_numbered, ?_, ?_, ?_, ?_, ?_,
    wired.opened_linked, wired.closed_gone, wired.mail_numbered⟩
  · intro tested session channel found
    rw [sameSessions] at found
    exact wired.known found
  · intro tested remote session found
    rw [samePeers] at found
    rw [sameSessions]
    exact wired.reached found
  · intro session link linked
    rw [sameSessions]
    exact wired.opener_knows linked
  · intro session link linked toSink
    rw [samePeers]
    exact wired.way linked toSink
  · intro session link linked
    rw [sameKnows]
    exact wired.announced linked

theorem withOwner (wired : scene.Wired) (device : DeviceId) (token : RelayToken)
    (ticket : Option Ticket) : (scene.withOwner device token ticket).Wired :=
  ⟨wired.opener_role, wired.ends_registered, wired.links_numbered, wired.known, wired.reached,
    wired.opener_knows, wired.way, wired.announced, wired.opened_linked, wired.closed_gone,
    wired.mail_numbered⟩

/-- A sink may come to know any session, and may forget those that are gone. -/
theorem withSink (wired : scene.Wired) {device : DeviceId} {known : SessionId → Prop}
    (kept :
      ∀ session link, scene.links session = some link → scene.sinks device session →
        known session) :
    (scene.withSink device known).Wired := by
  refine ⟨wired.opener_role, wired.ends_registered, wired.links_numbered, wired.known,
    wired.reached, wired.opener_knows, wired.way, ?_, wired.opened_linked, wired.closed_gone,
    wired.mail_numbered⟩
  intro session link linked
  rcases wired.announced linked with knows | first
  · left
    generalize link.acceptor = endpoint at knows ⊢
    obtain ⟨tested, role⟩ := endpoint
    cases role with
    | source =>
        exact knows
    | sink =>
        by_cases same : tested = device
        · subst same
          rw [Knows, sinks_withSink_self]
          exact kept session link linked knows
        · rw [Knows, sinks_withSink_of_ne same]
          exact knows
  · exact Or.inr first

end Wired

/-! ## Channels come and go -/

/-- The session of the next link. -/
def next (scene : Scene) : SessionId := ⟨scene.last.number + 1⟩

/-- There are sessions left. -/
def HasRoom (scene : Scene) : Prop := scene.last.number.toNat + 1 < UInt32.size

theorem next_number (room : scene.HasRoom) :
    scene.next.number.toNat = scene.last.number.toNat + 1 := by
  have small : scene.last.number.toNat + 1 < 2 ^ 32 := room
  rw [next, UInt32.toNat_add]
  exact Nat.mod_eq_of_lt small

/-- A source opens a channel. -/
def dial (scene : Scene) (device : DeviceId) (remote : Endpoint) (cause : Cause) : Scene :=
  { scene with
    links := Function.update scene.links scene.next (some ⟨⟨device, .source⟩, remote⟩)
    last := scene.next
    sources :=
      Function.update scene.sources device
        ((scene.sources device).enter
          { peer := remote.device
            remoteRole := remote.role
            session := scene.next
            outbound := true })
    mail :=
      Function.update scene.mail remote
        (scene.mail remote ++ [⟨.opened scene.next device, cause.call, cause⟩]) }

/-- A source hears of a channel that another one has opened. -/
def hear (scene : Scene) (device : DeviceId) (session : SessionId) (peer : DeviceId) : Scene :=
  scene.withSource device
    ((scene.sources device).enter { peer, remoteRole := .source, session, outbound := false })

/-- A source closes its channel to a sink. -/
def hangUp (scene : Scene) (device sink : DeviceId) (session : SessionId)
    (cause : Cause) : Scene :=
  { scene with
    links := Function.update scene.links session none
    sources :=
      Function.update scene.sources device
        ((scene.sources device).forget ⟨sink, .sink⟩ session)
    mail :=
      Function.update scene.mail ⟨sink, .sink⟩
        (scene.mail ⟨sink, .sink⟩ ++ [⟨.closed session, cause.call, cause⟩]) }

theorem Knows.of_sources {after : Scene} {endpoint : Endpoint} {session : SessionId}
    (knows : scene.Knows endpoint session) (sinks : after.sinks = scene.sinks)
    (sources :
      ∀ device, session ∈ (scene.sources device).bySession →
        session ∈ (after.sources device).bySession) :
    after.Knows endpoint session := by
  obtain ⟨device, role⟩ := endpoint
  cases role with
  | source =>
      exact sources device knows
  | sink =>
      rw [Knows, sinks]
      exact knows

namespace Wired

theorem links_next (wired : scene.Wired) (room : scene.HasRoom) :
    scene.links scene.next = none := by
  cases linked : scene.links scene.next with
  | none => rfl
  | some link =>
      have numbered := wired.links_numbered linked
      rw [next_number room] at numbered
      omega

theorem ne_next_of_link (wired : scene.Wired) (room : scene.HasRoom) {session : SessionId}
    {link : Link} (linked : scene.links session = some link) : session ≠ scene.next := by
  intro same
  rw [same, wired.links_next room] at linked
  cases linked

theorem ne_next_of_mail (wired : scene.Wired) (room : scene.HasRoom) {endpoint : Endpoint}
    {letter : Letter} (member : letter ∈ scene.mail endpoint) :
    letter.event.session ≠ scene.next := by
  intro same
  have numbered := wired.mail_numbered member
  rw [same, next_number room] at numbered
  omega

theorem first?_next (wired : scene.Wired) (room : scene.HasRoom) (endpoint : Endpoint) :
    scene.first? endpoint scene.next = none := by
  rw [first?, List.find?_eq_none]
  intro event listed
  obtain ⟨letter, member, same⟩ := List.mem_map.1 listed
  rw [← same]
  simpa using wired.ne_next_of_mail room member

theorem ne_next_of_known (wired : scene.Wired) (room : scene.HasRoom) {device : DeviceId}
    {session : SessionId} {channel : Channel}
    (found : (scene.sources device).bySession[session]? = some channel) :
    session ≠ scene.next := by
  obtain ⟨link, linked, _⟩ := wired.known found
  exact wired.ne_next_of_link room linked

/-- Whoever is reached under a session is at the other end of its link. -/
theorem link_of_reached (wired : scene.Wired) {device : DeviceId} {remote : Endpoint}
    {session : SessionId} (way : (scene.sources device).byPeer[remote]? = some session) :
    ∃ link, scene.links session = some link ∧ link.Ends ⟨device, .source⟩ ∧
      link.otherEnd ⟨device, .source⟩ = remote := by
  obtain ⟨channel, found, same⟩ := wired.reached way
  obtain ⟨link, linked, ends, other⟩ := wired.known found
  exact ⟨link, linked, ends, other.trans same⟩

/-- A source reaches a sink only on a link of its own. -/
theorem link_of_lane (wired : scene.Wired) {device sink : DeviceId} {session : SessionId}
    (way : (scene.sources device).byPeer[(⟨sink, .sink⟩ : Endpoint)]? = some session) :
    scene.links session = some ⟨⟨device, .source⟩, ⟨sink, .sink⟩⟩ := by
  obtain ⟨link, linked, ends, other⟩ := wired.link_of_reached way
  have role := wired.opener_role linked
  obtain ⟨opener, acceptor⟩ := link
  by_cases here : opener = ⟨device, .source⟩
  · rw [Link.otherEnd, if_pos here] at other
    change acceptor = _ at other
    rw [linked, here, other]
  · rw [Link.otherEnd, if_neg here] at other
    rw [other] at role
    cases role

theorem otherEnd_registered (wired : scene.Wired) {session : SessionId} {link : Link}
    (linked : scene.links session = some link) (here : Endpoint) :
    scene.registered (link.otherEnd here).device := by
  obtain ⟨opener, acceptor⟩ := wired.ends_registered linked
  rw [Link.otherEnd]
  split
  · exact acceptor
  · exact opener

end Wired

/-! ### Opening -/

section Dialling

variable {device : DeviceId} {remote : Endpoint} {cause : Cause}

theorem sources_dial_of_ne {tested : DeviceId} (different : tested ≠ device) :
    (scene.dial device remote cause).sources tested = scene.sources tested :=
  Function.update_of_ne different ..

theorem sources_dial_self :
    (scene.dial device remote cause).sources device =
      (scene.sources device).enter
        { peer := remote.device
          remoteRole := remote.role
          session := scene.next
          outbound := true } :=
  Function.update_self ..

theorem links_dial_self :
    (scene.dial device remote cause).links scene.next =
      some ⟨⟨device, .source⟩, remote⟩ :=
  Function.update_self ..

theorem links_dial_of_ne {session : SessionId} (different : session ≠ scene.next) :
    (scene.dial device remote cause).links session = scene.links session :=
  Function.update_of_ne different ..

theorem links_of_dial {session : SessionId} {link : Link}
    (linked : (scene.dial device remote cause).links session = some link) :
    (session = scene.next ∧ ⟨⟨device, .source⟩, remote⟩ = link) ∨
      (session ≠ scene.next ∧ scene.links session = some link) := by
  by_cases new : session = scene.next
  · rw [new, links_dial_self] at linked
    exact Or.inl ⟨new, Option.some.inj linked⟩
  · rw [links_dial_of_ne new] at linked
    exact Or.inr ⟨new, linked⟩

theorem bySession_dial {tested : DeviceId} {session : SessionId}
    (different : session ≠ scene.next) :
    ((scene.dial device remote cause).sources tested).bySession[session]? =
      (scene.sources tested).bySession[session]? := by
  by_cases same : tested = device
  · rw [same, sources_dial_self, Standing.enter, Table.getElem?_insert_eq,
      if_neg different.symm]
  · rw [sources_dial_of_ne same]

theorem byPeer_dial {tested : DeviceId} {other : Endpoint}
    (different : tested = device → other ≠ remote) :
    ((scene.dial device remote cause).sources tested).byPeer[other]? =
      (scene.sources tested).byPeer[other]? := by
  by_cases same : tested = device
  · have apart : (⟨remote.device, remote.role⟩ : Endpoint) ≠ other := (different same).symm
    rw [same, sources_dial_self, Standing.enter, Channel.remote, Table.getElem?_insert_eq,
      if_neg apart]
  · rw [sources_dial_of_ne same]

theorem mem_mail_dial {tested : Endpoint} {other : Letter} :
    other ∈ (scene.dial device remote cause).mail tested ↔
      other ∈ scene.mail tested ∨
        (tested = remote ∧ other = ⟨.opened scene.next device, cause.call, cause⟩) :=
  mem_mail_put

end Dialling

namespace Wired

theorem dial (wired : scene.Wired) (room : scene.HasRoom) {device : DeviceId}
    {remote : Endpoint} {cause : Cause} (here : scene.registered device)
    (there : scene.registered remote.device)
    (unreached : (scene.sources device).byPeer[remote]? = none) :
    (scene.dial device remote cause).Wired where
  opener_role := by
    intro session link linked
    rcases links_of_dial linked with ⟨_, rfl⟩ | ⟨_, old⟩
    · rfl
    · exact wired.opener_role old
  ends_registered := by
    intro session link linked
    rcases links_of_dial linked with ⟨_, rfl⟩ | ⟨_, old⟩
    · exact ⟨here, there⟩
    · exact wired.ends_registered old
  links_numbered := by
    intro session link linked
    rcases links_of_dial linked with ⟨new, _⟩ | ⟨_, old⟩
    · exact Nat.le_of_eq (congrArg (fun session => session.number.toNat) new)
    · have numbered := wired.links_numbered old
      have later := next_number room
      change _ ≤ scene.next.number.toNat
      omega
  known := by
    intro tested session channel found
    by_cases new : session = scene.next
    · by_cases same : tested = device
      · rw [same, sources_dial_self, new, Standing.enter, Table.getElem?_insert_eq,
          if_pos rfl] at found
        rw [new, links_dial_self, same, ← Option.some.inj found]
        exact ⟨_, rfl, Or.inl rfl, if_pos rfl⟩
      · rw [sources_dial_of_ne same] at found
        exact absurd new (wired.ne_next_of_known room found)
    · rw [bySession_dial new] at found
      rw [links_dial_of_ne new]
      exact wired.known found
  reached := by
    intro tested other session found
    by_cases new : tested = device ∧ other = remote
    · obtain ⟨sameDevice, sameRemote⟩ := new
      have entered : (⟨remote.device, remote.role⟩ : Endpoint) = remote := rfl
      rw [sameDevice, sameRemote, sources_dial_self, Standing.enter, Channel.remote,
        Table.getElem?_insert_eq, if_pos entered] at found
      rw [sameDevice, sources_dial_self, Standing.enter, ← Option.some.inj found,
        Table.getElem?_insert_eq, if_pos rfl, sameRemote]
      exact ⟨_, rfl, rfl⟩
    · rw [byPeer_dial fun same other => new ⟨same, other⟩] at found
      obtain ⟨channel, known, same⟩ := wired.reached found
      rw [bySession_dial (wired.ne_next_of_known room known)]
      exact ⟨channel, known, same⟩
  opener_knows := by
    intro session link linked
    rw [Table.mem_iff_exists]
    rcases links_of_dial linked with ⟨new, rfl⟩ | ⟨new, old⟩
    · rw [sources_dial_self, new, Standing.enter, Table.getElem?_insert_eq, if_pos rfl]
      exact ⟨_, rfl⟩
    · rw [bySession_dial new]
      exact (Table.mem_iff_exists _ _).1 (wired.opener_knows old)
  way := by
    intro session link linked toSink
    rcases links_of_dial linked with ⟨new, rfl⟩ | ⟨_, old⟩
    · rw [sources_dial_self, new, Standing.enter, Channel.remote, Table.getElem?_insert_eq]
      exact if_pos rfl
    · have way := wired.way old toSink
      rw [byPeer_dial]
      · exact way
      · intro same other
        rw [same, other, unreached] at way
        cases way
  announced := by
    intro session link linked
    rcases links_of_dial linked with ⟨new, rfl⟩ | ⟨new, old⟩
    · right
      rw [new]
      have unannounced := wired.first?_next room remote
      rw [first?] at unannounced
      change (scene.put remote ⟨.opened scene.next device, cause.call, cause⟩).first? remote _ = _
      rw [first?, mail_put_self, List.map_append, List.find?_append, unannounced]
      simp [TransportEvent.session]
    · rcases wired.announced old with knows | first
      · left
        refine knows.of_sources rfl ?_
        intro tested member
        rw [Table.mem_iff_exists, bySession_dial new]
        exact (Table.mem_iff_exists _ _).1 member
      · exact Or.inr (first?_put_of_some first)
  opened_linked := by
    intro tested letter session peer member opened
    rcases mem_mail_dial.1 member with old | ⟨place, new⟩
    · have linked := wired.opened_linked old opened
      rw [links_dial_of_ne (wired.ne_next_of_link room linked)]
      exact linked
    · rw [new] at opened
      cases opened
      rw [links_dial_self, ← place]
  closed_gone := by
    intro endpoint letter session member closed
    rcases mem_mail_dial.1 member with old | ⟨_, new⟩
    · have different : session ≠ scene.next := by
        have apart := wired.ne_next_of_mail room old
        rw [closed] at apart
        exact apart
      obtain ⟨role, gone⟩ := wired.closed_gone old closed
      rw [links_dial_of_ne different]
      exact ⟨role, gone⟩
    · rw [new] at closed
      cases closed
  mail_numbered := by
    intro endpoint letter member
    change _ ≤ scene.next.number.toNat
    have later := next_number room
    rcases mem_mail_dial.1 member with old | ⟨_, new⟩
    · have numbered := wired.mail_numbered old
      omega
    · rw [new]
      exact Nat.le_refl _

end Wired

/-! ### Hearing of a channel -/

section Hearing

variable {device peer : DeviceId} {session : SessionId}

theorem bySession_hear_of_ne {tested : DeviceId} {other : SessionId} (different : other ≠ session) :
    ((scene.hear device session peer).sources tested).bySession[other]? =
      (scene.sources tested).bySession[other]? := by
  by_cases same : tested = device
  · rw [same, hear, sources_withSource_self, Standing.enter, Table.getElem?_insert_eq,
      if_neg different.symm]
  · rw [hear, sources_withSource_of_ne same]

theorem byPeer_hear_of_ne {tested : DeviceId} {other : Endpoint}
    (different : tested = device → other ≠ ⟨peer, .source⟩) :
    ((scene.hear device session peer).sources tested).byPeer[other]? =
      (scene.sources tested).byPeer[other]? := by
  by_cases same : tested = device
  · rw [same, hear, sources_withSource_self, Standing.enter, Channel.remote,
      Table.getElem?_insert_eq, if_neg (different same).symm]
  · rw [hear, sources_withSource_of_ne same]

theorem mem_bySession_hear {tested : DeviceId} {other : SessionId}
    (member : other ∈ (scene.sources tested).bySession) :
    other ∈ ((scene.hear device session peer).sources tested).bySession := by
  by_cases same : tested = device
  · rw [same] at member
    rw [same, hear, sources_withSource_self, Standing.enter, Std.ExtTreeMap.mem_insert]
    exact Or.inr member
  · rw [hear, sources_withSource_of_ne same]
    exact member

theorem knows_hear : (scene.hear device session peer).Knows ⟨device, .source⟩ session := by
  rw [Knows, hear, sources_withSource_self, Table.mem_iff_exists, Standing.enter,
    Table.getElem?_insert_eq, if_pos rfl]
  exact ⟨_, rfl⟩

end Hearing

namespace Wired

theorem hear (wired : scene.Wired) {device peer : DeviceId} {session : SessionId}
    (linked : scene.links session = some ⟨⟨peer, .source⟩, ⟨device, .source⟩⟩) :
    (scene.hear device session peer).Wired := by
  have other :
      (⟨⟨peer, .source⟩, ⟨device, .source⟩⟩ : Link).otherEnd ⟨device, .source⟩ =
        ⟨peer, .source⟩ := by
    rw [Link.otherEnd]
    by_cases self : (⟨peer, .source⟩ : Endpoint) = ⟨device, .source⟩
    · rw [if_pos self, self]
    · rw [if_neg self]
  have entered :
      ((scene.hear device session peer).sources device).bySession[session]? =
        some { peer, remoteRole := .source, session, outbound := false } := by
    rw [Scene.hear, sources_withSource_self, Standing.enter, Table.getElem?_insert_eq,
      if_pos rfl]
  refine ⟨wired.opener_role, wired.ends_registered, wired.links_numbered, ?_, ?_, ?_, ?_, ?_,
    wired.opened_linked, wired.closed_gone, wired.mail_numbered⟩
  · intro tested asked channel found
    by_cases new : asked = session ∧ tested = device
    · obtain ⟨sameSession, sameDevice⟩ := new
      rw [sameSession, sameDevice, entered] at found
      rw [sameSession, sameDevice, ← Option.some.inj found]
      exact ⟨_, linked, Or.inr rfl, other⟩
    · refine wired.known (?_ : (scene.sources tested).bySession[asked]? = some channel)
      by_cases same : asked = session
      · rw [Scene.hear, sources_withSource_of_ne fun here => new ⟨same, here⟩] at found
        exact found
      · rw [bySession_hear_of_ne same] at found
        exact found
  · intro tested remote asked found
    by_cases new : tested = device ∧ remote = ⟨peer, .source⟩
    · obtain ⟨sameDevice, sameRemote⟩ := new
      rw [sameDevice, sameRemote, Scene.hear, sources_withSource_self, Standing.enter,
        Channel.remote, Table.getElem?_insert_eq, if_pos rfl] at found
      rw [sameDevice, ← Option.some.inj found, sameRemote]
      exact ⟨_, entered, rfl⟩
    · rw [byPeer_hear_of_ne fun same remote => new ⟨same, remote⟩] at found
      obtain ⟨channel, known, same⟩ := wired.reached found
      by_cases again : asked = session
      · by_cases here : tested = device
        · obtain ⟨link, known, _, leads⟩ := wired.known known
          rw [again, linked] at known
          rw [← Option.some.inj known, here, other] at leads
          rw [again, here, ← same]
          exact ⟨_, entered, leads⟩
        · rw [Scene.hear, sources_withSource_of_ne here]
          exact ⟨channel, known, same⟩
      · rw [bySession_hear_of_ne again]
        exact ⟨channel, known, same⟩
  · intro asked link found
    exact mem_bySession_hear (wired.opener_knows found)
  · intro asked link found toSink
    rw [byPeer_hear_of_ne]
    · exact wired.way found toSink
    · intro _ same
      rw [same] at toSink
      cases toSink
  · intro asked link found
    rcases wired.announced found with knows | first
    · exact Or.inl (knows.of_sources rfl fun tested => mem_bySession_hear)
    · exact Or.inr first

end Wired

/-! ### Closing -/

section HangingUp

variable {device sink : DeviceId} {session : SessionId} {cause : Cause}

theorem sources_hangUp_self :
    (scene.hangUp device sink session cause).sources device =
      (scene.sources device).forget ⟨sink, .sink⟩ session :=
  Function.update_self ..

theorem sources_hangUp_of_ne {tested : DeviceId} (different : tested ≠ device) :
    (scene.hangUp device sink session cause).sources tested = scene.sources tested :=
  Function.update_of_ne different ..

theorem links_hangUp_self : (scene.hangUp device sink session cause).links session = none :=
  Function.update_self ..

theorem links_hangUp_of_ne {other : SessionId} (different : other ≠ session) :
    (scene.hangUp device sink session cause).links other = scene.links other :=
  Function.update_of_ne different ..

/-- What is linked afterwards was linked before, under another session. -/
theorem links_of_hangUp {other : SessionId} {link : Link}
    (linked : (scene.hangUp device sink session cause).links other = some link) :
    other ≠ session ∧ scene.links other = some link := by
  by_cases same : other = session
  · rw [same, links_hangUp_self] at linked
    cases linked
  · rw [links_hangUp_of_ne same] at linked
    exact ⟨same, linked⟩

theorem bySession_hangUp {tested : DeviceId} {other : SessionId} (different : other ≠ session) :
    ((scene.hangUp device sink session cause).sources tested).bySession[other]? =
      (scene.sources tested).bySession[other]? := by
  by_cases same : tested = device
  · rw [same, sources_hangUp_self, Standing.forget, Table.getElem?_erase_eq,
      if_neg different.symm]
  · rw [sources_hangUp_of_ne same]

theorem byPeer_hangUp {tested : DeviceId} {remote : Endpoint}
    (different : tested = device → remote ≠ ⟨sink, .sink⟩) :
    ((scene.hangUp device sink session cause).sources tested).byPeer[remote]? =
      (scene.sources tested).byPeer[remote]? := by
  by_cases same : tested = device
  · rw [same, sources_hangUp_self, Standing.forget, Table.getElem?_erase_eq,
      if_neg (different same).symm]
  · rw [sources_hangUp_of_ne same]

theorem mem_mail_hangUp {tested : Endpoint} {other : Letter} :
    other ∈ (scene.hangUp device sink session cause).mail tested ↔
      other ∈ scene.mail tested ∨
        (tested = ⟨sink, .sink⟩ ∧ other = ⟨.closed session, cause.call, cause⟩) :=
  mem_mail_put

end HangingUp

namespace Wired

/-- No other source knows of a channel between a source and a sink. -/
theorem holder_of_lane (wired : scene.Wired) {device tested sink : DeviceId} {session : SessionId}
    {channel : Channel}
    (way : (scene.sources device).byPeer[(⟨sink, .sink⟩ : Endpoint)]? = some session)
    (found : (scene.sources tested).bySession[session]? = some channel) :
    tested = device ∧ channel.remote = ⟨sink, .sink⟩ := by
  obtain ⟨link, known, ends, leads⟩ := wired.known found
  rw [wired.link_of_lane way] at known
  rw [← Option.some.inj known] at ends leads
  rcases ends with opens | accepts
  · cases opens
    rw [Link.otherEnd, if_pos rfl] at leads
    exact ⟨rfl, leads.symm⟩
  · cases accepts

theorem hangUp (wired : scene.Wired) {device sink : DeviceId} {session : SessionId}
    {cause : Cause}
    (way : (scene.sources device).byPeer[(⟨sink, .sink⟩ : Endpoint)]? = some session) :
    (scene.hangUp device sink session cause).Wired where
  opener_role found := wired.opener_role (links_of_hangUp found).2
  ends_registered found := wired.ends_registered (links_of_hangUp found).2
  links_numbered found := wired.links_numbered (links_of_hangUp found).2
  known := by
    intro tested other channel found
    by_cases same : other = session
    · by_cases here : tested = device
      · rw [same, here, sources_hangUp_self, Standing.forget, Table.getElem?_erase_eq,
          if_pos rfl] at found
        cases found
      · rw [sources_hangUp_of_ne here, same] at found
        exact absurd (wired.holder_of_lane way found).1 here
    · rw [bySession_hangUp same] at found
      rw [links_hangUp_of_ne same]
      exact wired.known found
  reached := by
    intro tested remote other found
    by_cases gone : tested = device ∧ remote = ⟨sink, .sink⟩
    · obtain ⟨sameDevice, sameRemote⟩ := gone
      rw [sameDevice, sameRemote, sources_hangUp_self, Standing.forget,
        Table.getElem?_erase_eq, if_pos rfl] at found
      cases found
    · rw [byPeer_hangUp fun same remote => gone ⟨same, remote⟩] at found
      obtain ⟨channel, known, same⟩ := wired.reached found
      have different : other ≠ session := by
        intro again
        rw [again] at known
        obtain ⟨here, leads⟩ := wired.holder_of_lane way known
        exact gone ⟨here, same.symm.trans leads⟩
      rw [bySession_hangUp different]
      exact ⟨channel, known, same⟩
  opener_knows := by
    intro other link found
    obtain ⟨different, before⟩ := links_of_hangUp found
    rw [Table.mem_iff_exists, bySession_hangUp different]
    exact (Table.mem_iff_exists _ _).1 (wired.opener_knows before)
  way := by
    intro other link found toSink
    obtain ⟨different, before⟩ := links_of_hangUp found
    have there := wired.way before toSink
    rw [byPeer_hangUp]
    · exact there
    · intro here leads
      rw [here, leads, way] at there
      exact different (Option.some.inj there).symm
  announced := by
    intro other link found
    obtain ⟨different, before⟩ := links_of_hangUp found
    rcases wired.announced before with knows | first
    · left
      refine knows.of_sources rfl ?_
      intro tested member
      rw [Table.mem_iff_exists, bySession_hangUp different]
      exact (Table.mem_iff_exists _ _).1 member
    · exact Or.inr (first?_put_of_some first)
  opened_linked := by
    intro tested letter other peer member opened
    rcases mem_mail_hangUp.1 member with old | ⟨_, new⟩
    · have before := wired.opened_linked old opened
      have different : other ≠ session := by
        intro same
        rw [same, wired.link_of_lane way] at before
        cases before
      rw [links_hangUp_of_ne different]
      exact before
    · rw [new] at opened
      cases opened
  closed_gone := by
    intro endpoint letter other member closed
    by_cases same : other = session
    · rw [same, links_hangUp_self]
      refine ⟨?_, rfl⟩
      rcases mem_mail_hangUp.1 member with old | ⟨place, _⟩
      · exact (wired.closed_gone old closed).1
      · rw [place]
    · rw [links_hangUp_of_ne same]
      rcases mem_mail_hangUp.1 member with old | ⟨_, new⟩
      · exact wired.closed_gone old closed
      · rw [new] at closed
        cases closed
        exact absurd rfl same
  mail_numbered := by
    intro endpoint letter member
    rcases mem_mail_hangUp.1 member with old | ⟨_, new⟩
    · exact wired.mail_numbered old
    · rw [new]
      exact wired.links_numbered (wired.link_of_lane way)

end Wired

end Scene

end InputSharing
