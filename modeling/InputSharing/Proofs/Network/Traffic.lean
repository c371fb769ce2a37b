import InputSharing.Proofs.Network.Wiring

/-!
# What travels on which channel

A scene is `Orderly` when every frame on its way was composed by a node and is
where it belongs: requests to sinks wait for sinks, answers of sinks wait for
those who opened the channel, and what sources say to one another stays between
them.  A letter is about the call that was dealt with when it was sent, unless
it reports that a channel is gone.
-/

namespace InputSharing

/-- A message on a session may come from a sender and wait for an endpoint. -/
def Message.Fits (links : SessionId → Option Link) (here sender : Endpoint)
    (session : SessionId) : Message → Prop
  | .request _ _ | .relayed _ _ _ =>
      ∀ link, links session = some link → link.acceptor = here ∧ here.role = .sink
  | .reply _ _ | .relayedReply _ _ _ =>
      ∀ link, links session = some link → link = ⟨here, sender⟩ ∧ sender.role = .sink
  | .relayRequest caller relayer _ _ =>
      relayer = here.device ∧
        ∃ link, links session = some link ∧ link.acceptor.role = .source ∧ link.Ends here ∧
          link.otherEnd here = ⟨caller, .source⟩
  | .relayResult relayer _ _ =>
      sender = ⟨relayer, .source⟩ ∧
        ∃ link, links session = some link ∧ link.acceptor.role = .source ∧ link.Ends here
  | _ => True

namespace Message.Fits

variable {links others : SessionId → Option Link} {here sender : Endpoint}
  {session : SessionId} {message : Message}

theorem congr (fits : message.Fits links here sender session)
    (same : others session = links session) : message.Fits others here sender session := by
  cases message with
  | request _ _ =>
      intro link linked
      exact fits link (same.symm.trans linked)
  | relayed _ _ _ =>
      intro link linked
      exact fits link (same.symm.trans linked)
  | reply _ _ =>
      intro link linked
      exact fits link (same.symm.trans linked)
  | relayedReply _ _ _ =>
      intro link linked
      exact fits link (same.symm.trans linked)
  | relayRequest _ _ _ _ =>
      obtain ⟨addressed, link, linked, rest⟩ := fits
      exact ⟨addressed, link, same.trans linked, rest⟩
  | relayResult _ _ _ =>
      obtain ⟨sent, link, linked, rest⟩ := fits
      exact ⟨sent, link, same.trans linked, rest⟩
  | latencyProbe _ _ => exact fits
  | keyState _ _ => exact fits
  | keyStates _ _ => exact fits
  | inputEvents _ _ => exact fits
  | latencyEcho _ _ => exact fits

/-- On a channel to a sink that is gone anything that was there may stay. -/
theorem of_gone (fits : message.Fits links here sender session) {link : Link}
    (linked : links session = some link) (toSink : link.acceptor.role = .sink)
    (gone : others session = none) : message.Fits others here sender session := by
  have unlinked {claim : Link → Prop} : ∀ link, others session = some link → claim link := by
    intro tested found
    rw [gone] at found
    cases found
  cases message with
  | request _ _ => exact unlinked
  | relayed _ _ _ => exact unlinked
  | reply _ _ => exact unlinked
  | relayedReply _ _ _ => exact unlinked
  | relayRequest _ _ _ _ =>
      obtain ⟨_, other, found, toSource, _⟩ := fits
      rw [linked] at found
      rw [← Option.some.inj found, toSink] at toSource
      cases toSource
  | relayResult _ _ _ =>
      obtain ⟨_, other, found, toSource, _⟩ := fits
      rw [linked] at found
      rw [← Option.some.inj found, toSink] at toSource
      cases toSource
  | latencyProbe _ _ => exact fits
  | keyState _ _ => exact fits
  | keyStates _ _ => exact fits
  | inputEvents _ _ => exact fits
  | latencyEcho _ _ => exact fits

end Message.Fits

/-- An event reports to a source that a relayed call failed because a channel is gone. -/
def TransportEvent.SaysDisconnected (event : TransportEvent Parcel) : Prop :=
  ∃ (session : SessionId) (sequence : UInt64) (relayer sink : DeviceId) (result : RelayResult),
    event = .frame session (.composed sequence (.relayResult relayer sink result)) ∧
      result.status = Status.disconnected

/-- A letter may wait for an endpoint. -/
structure Letter.Proper (links : SessionId → Option Link) (here : Endpoint) (letter : Letter) :
    Prop where
  fits :
    ∀ {session parcel}, letter.event = .frame session parcel →
      ∃ sequence message, parcel = .composed sequence message ∧
        message.Fits links here letter.cause.sender session
  agrees : letter.owner = letter.cause.call ∨ letter.event.SaysDisconnected

namespace Scene

/-- Every letter is where it belongs. -/
def Orderly (scene : Scene) : Prop :=
  ∀ {endpoint letter}, letter ∈ scene.mail endpoint → letter.Proper scene.links endpoint

namespace Orderly

variable {scene : Scene}

theorem put (orderly : scene.Orderly) {endpoint : Endpoint} {letter : Letter}
    (proper : letter.Proper scene.links endpoint) : (scene.put endpoint letter).Orderly := by
  intro tested other member
  rcases mem_mail_put.1 member with old | ⟨place, new⟩
  · exact orderly old
  · rw [place, new]
    exact proper

theorem take (orderly : scene.Orderly) (endpoint : Endpoint) : (scene.take endpoint).Orderly :=
  fun member => orderly (mem_mail_of_take member)

theorem dial (orderly : scene.Orderly) (wired : scene.Wired) (room : scene.HasRoom)
    (device : DeviceId) (remote : Endpoint) (cause : Cause) :
    (scene.dial device remote cause).Orderly := by
  intro endpoint letter member
  rcases mem_mail_dial.1 member with old | ⟨_, new⟩
  · have different := wired.ne_next_of_mail room old
    obtain ⟨fits, agrees⟩ := orderly old
    refine ⟨?_, agrees⟩
    intro session parcel frame
    obtain ⟨sequence, message, composed, there⟩ := fits frame
    rw [frame] at different
    exact ⟨sequence, message, composed, there.congr (links_dial_of_ne different)⟩
  · rw [new]
    refine ⟨?_, Or.inl rfl⟩
    intro session parcel frame
    cases frame

theorem hangUp (orderly : scene.Orderly) (wired : scene.Wired) {device sink : DeviceId}
    {session : SessionId} (cause : Cause)
    (way : (scene.sources device).byPeer[(⟨sink, .sink⟩ : Endpoint)]? = some session) :
    (scene.hangUp device sink session cause).Orderly := by
  have linked := wired.link_of_lane way
  intro endpoint letter member
  rcases mem_mail_hangUp.1 member with old | ⟨_, new⟩
  · obtain ⟨fits, agrees⟩ := orderly old
    refine ⟨?_, agrees⟩
    intro other parcel frame
    obtain ⟨sequence, message, composed, there⟩ := fits frame
    refine ⟨sequence, message, composed, ?_⟩
    by_cases same : other = session
    · rw [same] at there ⊢
      exact there.of_gone linked rfl links_hangUp_self
    · exact there.congr (links_hangUp_of_ne same)
  · rw [new]
    refine ⟨?_, Or.inl rfl⟩
    intro other parcel frame
    cases frame

end Orderly

/-! ## Channels of what comes first -/

namespace Wired

variable {scene : Scene} {device : DeviceId} {letter : Letter} {rest : List Letter}
  {session : SessionId} {parcel : Parcel} {link : Link}

/-- A frame never comes before the news of its channel. -/
theorem knows_of_head (wired : scene.Wired) {endpoint : Endpoint}
    (waiting : scene.mail endpoint = letter :: rest) (frame : letter.event = .frame session parcel)
    (linked : scene.links session = some link) (accepts : link.acceptor = endpoint) :
    scene.Knows endpoint session := by
  rcases wired.announced linked with knows | first
  · rw [← accepts]
    exact knows
  · have head := first?_of_head waiting
    rw [frame] at head
    rw [accepts] at first
    exact absurd (first.symm.trans head) (by simp)

theorem known_of_head (wired : scene.Wired)
    (waiting : scene.mail ⟨device, .source⟩ = letter :: rest)
    (frame : letter.event = .frame session parcel) (linked : scene.links session = some link)
    (ends : link.Ends ⟨device, .source⟩) : session ∈ (scene.sources device).bySession := by
  rcases ends with opens | accepts
  · have knows := wired.opener_knows linked
    rw [opens] at knows
    exact knows
  · exact wired.knows_of_head waiting frame linked accepts

end Wired

end Scene

end InputSharing
