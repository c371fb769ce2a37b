import InputSharing.Channel.Registry
import InputSharing.Proofs.Table

/-!
# Registries

What the operations of a registry say about one session at a time, and what
sending and connecting do to a registry and its transport.
-/

namespace InputSharing.Registry

attribute [ext] Registry

theorem bySession_closed (registry : Registry) (session : SessionId) :
    (registry.closed session).2.bySession = registry.bySession.erase session := by
  unfold closed
  split
  · next absent =>
    symm
    apply Std.ExtTreeMap.ext_getElem?
    intro tested
    rw [Table.getElem?_erase_eq]
    split
    · next same => rw [← same, absent]
    · rfl
  · rfl

theorem closed_of_unknown {registry : Registry} {session : SessionId}
    (unknown : registry.bySession[session]? = none) :
    registry.closed session = (none, registry) := by
  rw [closed, unknown]

theorem channel_closed {registry : Registry} {session : SessionId} {channel : Channel}
    (known : registry.bySession[session]? = some channel) :
    (registry.closed session).1 = some { channel with isOpen := false } := by
  rw [closed, known]

/-- A channel that is gone leaves the peers of the others alone. -/
theorem peer?_closed (registry : Registry) {session tested : SessionId}
    (different : session ≠ tested) :
    (registry.closed session).2.peer? tested = registry.peer? tested := by
  rw [peer?, peer?, bySession_closed, Table.getElem?_erase_eq, if_neg different]

theorem getElem?_byPeer_closed (registry : Registry) (session : SessionId) (remote : Endpoint) :
    (registry.closed session).2.byPeer[remote]? =
      if registry.bySession[session]?.map Channel.remote = some remote ∧
          registry.byPeer[remote]? = some session then
        none
      else registry.byPeer[remote]? := by
  rw [closed]
  cases registry.bySession[session]? with
  | none =>
      rw [if_neg]
      rintro ⟨unknown, -⟩
      cases unknown
  | some channel =>
      dsimp only
      by_cases here : channel.remote = remote
      · subst here
        by_cases current : registry.byPeer[channel.remote]? = some session
        · rw [if_pos current, if_pos ⟨rfl, current⟩]
          exact Std.ExtTreeMap.getElem?_erase_self
        · rw [if_neg current, if_neg fun both => current both.2]
      · have elsewhere :
            ¬ (some channel.remote = some remote ∧ registry.byPeer[remote]? = some session) :=
          fun both => here (Option.some.inj both.1)
        rw [Option.map_some, if_neg elsewhere]
        split
        · rw [Table.getElem?_erase_eq, if_neg here]
        · rfl

theorem counter_closed (registry : Registry) (session : SessionId) :
    (registry.closed session).2.counter = registry.counter := by
  rw [closed]
  split
  · rfl
  · rfl

theorem closed_withCounter (registry : Registry) (counter : FrameCounter) (session : SessionId) :
    ({ registry with counter }.closed session).2 =
      { (registry.closed session).2 with counter } := by
  rw [closed, closed]
  dsimp only
  split
  · rfl
  · rfl

/-- It does not matter which of two channels is gone first, not even if they lead to the same
peer. -/
theorem closed_closed (registry : Registry) (first second : SessionId) :
    ((registry.closed first).2.closed second).2 = ((registry.closed second).2.closed first).2 := by
  by_cases apart : first = second
  · rw [apart]
  · have sessions :
        ((registry.closed first).2.closed second).2.bySession =
          ((registry.closed second).2.closed first).2.bySession := by
      apply Std.ExtTreeMap.ext_getElem?
      intro tested
      simp only [bySession_closed, Table.getElem?_erase_eq]
      split
      · split
        · rfl
        · rfl
      · rfl
    have peers :
        ((registry.closed first).2.closed second).2.byPeer =
          ((registry.closed second).2.closed first).2.byPeer := by
      apply Std.ExtTreeMap.ext_getElem?
      intro remote
      have other : ¬ second = first := fun same => apart same.symm
      simp only [getElem?_byPeer_closed, bySession_closed, Table.getElem?_erase_eq, apart, other,
        if_false]
      grind
    have counters :
        ((registry.closed first).2.closed second).2.counter =
          ((registry.closed second).2.closed first).2.counter := by
      simp only [counter_closed]
    exact Registry.ext peers sessions counters

theorem mem_enter {registry : Registry} {channel : Channel} {session : SessionId}
    (known : session ∈ (registry.enter channel).bySession) :
    session = channel.session ∨ session ∈ registry.bySession :=
  (Std.ExtTreeMap.mem_insert.1 known).imp_left fun same => (Std.compare_eq_iff_eq.1 same).symm

/-! ## The two ways to know a channel -/

/-- A remote endpoint is reached on a channel that leads there, and the channel to
the sink half of a node is the only one. -/
structure Coherent (registry : Registry) : Prop where
  leads : ∀ (remote : Endpoint) (session : SessionId), registry.byPeer[remote]? = some session →
    ∃ channel : Channel,
      registry.bySession[session]? = some channel ∧ channel.remote = remote
  reached : ∀ (session : SessionId) (channel : Channel),
    registry.bySession[session]? = some channel →
    channel.remoteRole = .sink → registry.byPeer[channel.remote]? = some session

theorem coherent_empty : Coherent {} where
  leads := by
    intro remote session found
    exact absurd (found.symm.trans Std.ExtTreeMap.getElem?_empty) (Option.some_ne_none _)
  reached := by
    intro session channel found
    exact absurd (found.symm.trans Std.ExtTreeMap.getElem?_empty) (Option.some_ne_none _)

namespace Coherent

variable {registry : Registry}

/-- A session may be entered again under the remote endpoint that it had. -/
theorem reenter (coherent : registry.Coherent) {channel : Channel}
    (same :
      ∀ known : Channel,
        registry.bySession[channel.session]? = some known → known.remote = channel.remote)
    (first : channel.remoteRole = .sink → registry.byPeer[channel.remote]? = none) :
    (registry.enter channel).Coherent where
  leads := by
    intro remote session found
    change (registry.byPeer.insert channel.remote channel.session)[remote]? = _ at found
    change ∃ known, (registry.bySession.insert channel.session channel)[session]? = _ ∧ _
    rw [Table.getElem?_insert_eq] at found
    rw [Table.getElem?_insert_eq]
    split at found
    · next leads =>
      rw [if_pos (Option.some.inj found)]
      exact ⟨channel, rfl, leads⟩
    · next elsewhere =>
      obtain ⟨known, present, leads⟩ := coherent.leads remote session found
      have other : channel.session ≠ session := by
        intro equal
        subst equal
        exact elsewhere ((same known present).symm.trans leads)
      rw [if_neg other]
      exact ⟨known, present, leads⟩
  reached := by
    intro session known found sink
    change (registry.bySession.insert channel.session channel)[session]? = _ at found
    change (registry.byPeer.insert channel.remote channel.session)[known.remote]? = _
    rw [Table.getElem?_insert_eq] at found
    rw [Table.getElem?_insert_eq]
    split at found
    · next same =>
      rw [← Option.some.inj found, if_pos rfl, same]
    · have reached := coherent.reached session known found sink
      have other : channel.remote ≠ known.remote := by
        intro same
        have role : channel.remoteRole = .sink := (congrArg Endpoint.role same).trans sink
        rw [← same, first role] at reached
        cases reached
      rw [if_neg other]
      exact reached

theorem enter (coherent : registry.Coherent) {channel : Channel}
    (fresh : channel.session ∉ registry.bySession)
    (first : channel.remoteRole = .sink → registry.byPeer[channel.remote]? = none) :
    (registry.enter channel).Coherent :=
  coherent.reenter (fun _ known => absurd (Table.mem_of_getElem? known) fresh) first

theorem byPeer_closed (coherent : registry.Coherent) (session : SessionId)
    (remote : Endpoint) :
    (registry.closed session).2.byPeer[remote]? =
      if registry.byPeer[remote]? = some session then none else registry.byPeer[remote]? := by
  have alone (channel : Channel) (found : registry.bySession[session]? = some channel)
      (there : registry.byPeer[remote]? = some session) : channel.remote = remote := by
    obtain ⟨known, present, leads⟩ := coherent.leads remote session there
    rw [found] at present
    rw [Option.some.inj present]
    exact leads
  unfold closed
  split
  · next absent =>
    have elsewhere : registry.byPeer[remote]? ≠ some session := by
      intro there
      obtain ⟨known, present, _⟩ := coherent.leads remote session there
      rw [absent] at present
      cases present
    rw [if_neg elsewhere]
  · next channel found =>
    by_cases there : registry.byPeer[remote]? = some session
    · have leads := alone channel found there
      dsimp only
      rw [if_pos there, leads, if_pos there]
      exact Std.ExtTreeMap.getElem?_erase_self
    · dsimp only
      rw [if_neg there]
      split
      · next last =>
        rw [Table.getElem?_erase_eq, if_neg]
        intro same
        exact there (same ▸ last)
      · rfl

theorem closed (coherent : registry.Coherent) (session : SessionId) :
    (registry.closed session).2.Coherent where
  leads := by
    intro remote tested found
    rw [coherent.byPeer_closed] at found
    rw [bySession_closed, Table.getElem?_erase_eq]
    split at found
    · cases found
    · next elsewhere =>
      rw [if_neg]
      · exact coherent.leads remote tested found
      · intro same
        exact elsewhere (same ▸ found)
  reached := by
    intro tested channel found sink
    rw [bySession_closed, Table.getElem?_erase_eq] at found
    rw [coherent.byPeer_closed]
    split at found
    · cases found
    · next other =>
      have reached := coherent.reached tested channel found sink
      rw [if_neg]
      · exact reached
      · intro there
        exact other (Option.some.inj (there.symm.trans reached))

end Coherent

end InputSharing.Registry

namespace InputSharing.Channels

variable {τ : Type} [Transport τ] (channels : Channels τ)

theorem line_send (session : SessionId) (message : Message) :
    (channels.send session message).2.line =
      (Transport.transmit channels.line session
        (.composed channels.registry.counter.next.1 message)).2 := by
  unfold send
  dsimp only
  split
  · next transmitted => rw [transmitted]
  · next transmitted => rw [transmitted]

theorem connect_of_known {peer : DeviceId} {role : Role} {session : SessionId}
    (known : channels.registry.channel? peer role = some session) :
    channels.connect peer role = (.ok session, channels) := by
  rw [connect, known]

theorem connect_of_refused {peer : DeviceId} {role : Role}
    (unknown : channels.registry.channel? peer role = none) {refusal : TransportError} {line : τ}
    (refused : Transport.dial channels.line peer role = (.error refusal, line)) :
    channels.connect peer role =
      (.error (.channelOpenFailed refusal.message), { channels with line }) := by
  rw [connect, unknown]
  dsimp only
  rw [refused]

theorem connect_of_dialled {peer : DeviceId} {role : Role}
    (unknown : channels.registry.channel? peer role = none) {session : SessionId} {line : τ}
    (dialled : Transport.dial channels.line peer role = (.ok session, line)) :
    channels.connect peer role =
      (.ok session,
        { registry :=
            channels.registry.enter { peer, remoteRole := role, session, outbound := true }
          line }) := by
  rw [connect, unknown]
  dsimp only
  rw [dialled]

theorem line_connect_of_unknown {peer : DeviceId} {role : Role}
    (unknown : channels.registry.channel? peer role = none) :
    (channels.connect peer role).2.line = (Transport.dial channels.line peer role).2 := by
  rw [connect, unknown]
  dsimp only
  split
  · next dialled => rw [dialled]
  · next dialled => rw [dialled]

theorem channel?_disconnect (peer : DeviceId) (role : Role) :
    (channels.disconnect peer role).registry.channel? peer role = none := by
  rw [disconnect]
  split
  · next unknown => exact unknown
  · exact Std.ExtTreeMap.getElem?_erase_self

/-- A channel that is closed from this side is forgotten as one that is gone. -/
theorem disconnect_of_known (coherent : channels.registry.Coherent) {peer : DeviceId}
    {role : Role} {session : SessionId}
    (known : channels.registry.channel? peer role = some session) :
    channels.disconnect peer role =
      ⟨(channels.registry.closed session).2, Transport.hangUp channels.line session⟩ := by
  obtain ⟨channel, found, leads⟩ := coherent.leads _ _ known
  have there : channels.registry.byPeer[channel.remote]? = some session := by
    rw [leads]
    exact known
  rw [disconnect, known, Registry.closed, found]
  dsimp only
  rw [if_pos there, leads]

theorem disconnect_of_unknown {peer : DeviceId} {role : Role}
    (unknown : channels.registry.channel? peer role = none) :
    channels.disconnect peer role = channels := by
  rw [disconnect, unknown]

/-- A node hears of a channel that could not be opened under a code that says so. -/
theorem statusCode_of_connect {peer : DeviceId} {role : Role} {error : SharingError}
    (failed : (channels.connect peer role).1 = .error error) :
    error.statusCode = Status.channelOpenFailed := by
  rw [connect] at failed
  split at failed
  · cases failed
  · split at failed
    · cases failed
      rfl
    · cases failed

theorem statusCode_of_send {session : SessionId} {message : Message} {error : SharingError}
    (failed : (channels.send session message).1 = .error error) :
    error.statusCode = Status.sendFailed := by
  rw [send] at failed
  dsimp only at failed
  split at failed
  · cases failed
    rfl
  · cases failed

end InputSharing.Channels
