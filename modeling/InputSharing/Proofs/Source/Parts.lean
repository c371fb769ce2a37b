import InputSharing.Proofs.Registry
import InputSharing.Source.Inbound

/-!
# What the parts of a source's reaction change

Sending changes nothing but the numbers of frames and the transport.  The end of
a sink empties what the source keeps about it; what is left is sending again.
-/

namespace InputSharing.Source.Turn

variable {τ : Type}

/-- The turn `after` is `before`, except that something has been sent. -/
def Sent (before after : Turn τ) : Prop :=
  ∃ (counter : FrameCounter) (line : τ),
    after =
      { before with
        source := { before.source with registry := { before.source.registry with counter } }
        line }

namespace Sent

variable {before middle after : Turn τ}

theorem refl (turn : Turn τ) : Sent turn turn :=
  ⟨turn.source.registry.counter, turn.line, rfl⟩

theorem trans (first : Sent before middle) (second : Sent middle after) :
    Sent before after := by
  obtain ⟨_, _, rfl⟩ := first
  obtain ⟨counter, line, rfl⟩ := second
  exact ⟨counter, line, rfl⟩

theorem foldl {α : Type} (act : Turn τ → α → Turn τ)
    (sent : ∀ turn item, Sent turn (act turn item)) (items : List α) (turn : Turn τ) :
    Sent turn (items.foldl act turn) := by
  induction items generalizing turn with
  | nil =>
      exact Sent.refl turn
  | cons first rest inductionHypothesis =>
      exact (sent turn first).trans (inductionHypothesis (act turn first))

end Sent

section Sending

variable [Transport τ] (turn : Turn τ)

theorem sent_send (session : SessionId) (message : Message) :
    Sent turn (turn.send session message).2 := by
  unfold send Channels.send
  dsimp only
  split
  · exact ⟨_, _, rfl⟩
  · exact ⟨_, _, rfl⟩

theorem sent_post (session : SessionId) (message : Message) :
    Sent turn (turn.post session message) :=
  turn.sent_send session message

theorem sent_reportLoss (correlation : Correlation) :
    Sent turn (turn.reportLoss correlation) := by
  rw [reportLoss]
  split
  · exact Sent.refl turn
  · exact turn.sent_post _ _

end Sending

/-! ## Calls -/

/-- A call is refused at once, for want of a channel, or because it cannot be sent.  Otherwise
it is sent on the channel that was found for it, and waits. -/
theorem call_cases [Transport τ] (turn : Turn τ) (ticket : Ticket) (call : Call) :
    let reached := (turn.channelFor call).2
    let sent (session : SessionId) := reached.send session (call.message reached.source.device)
    turn.call ticket call = turn.refuse ticket .alreadyPending ∨
      (∃ error, turn.call ticket call = reached.refuse ticket error) ∨
      ∃ session, (turn.channelFor call).1 = .ok session ∧
        ((∃ error, turn.call ticket call = (sent session).2.refuse ticket error) ∨
          turn.source.pending.contains call = false ∧ (sent session).1 = .ok () ∧
            turn.call ticket call = (.ok (), (sent session).2.await ticket call)) := by
  rw [Turn.call]
  cases turn.source.pending.contains call with
  | true => exact Or.inl rfl
  | false =>
      refine Or.inr ?_
      rcases turn.channelFor call with ⟨error | session, reached⟩
      · exact Or.inl ⟨error, rfl⟩
      · refine Or.inr ⟨session, rfl, ?_⟩
        dsimp only
        rcases reached.send session (call.message reached.source.device) with ⟨error | _, sent⟩
        · exact Or.inl ⟨error, rfl⟩
        · exact Or.inr ⟨rfl, rfl, rfl⟩

/-! ## The end of a sink -/

/-- What a source still knows when it has forgotten a sink. -/
def forget (turn : Turn τ) (sink : DeviceId) : Turn τ :=
  { turn with
    source :=
      { turn.source with
        beliefs := turn.source.beliefs.erase sink
        latencies := turn.source.latencies.erase sink
        relays :=
          { turn.source.relays with
            live :=
              turn.source.relays.live.filter fun _ correlation => correlation.target ≠ sink } } }

theorem sent_dropSink [Transport τ] (turn : Turn τ) (sink : DeviceId) :
    Sent ((turn.forget sink).failWhere (Call.isTo sink) .disconnected)
      (turn.dropSink sink) :=
  Sent.foldl reportLoss sent_reportLoss _ _

theorem waiting_dropSink [Transport τ] (turn : Turn τ) (sink : DeviceId) :
    (turn.dropSink sink).source.pending.waiting =
      turn.source.pending.waiting.filter fun entry => !entry.1.isTo sink := by
  obtain ⟨counter, line, dropped⟩ := turn.sent_dropSink sink
  rw [dropped]
  rfl

section Retiring

variable [Transport τ] {turn : Turn τ} {sink : DeviceId}

theorem channel?_dropSink (peer : DeviceId) (role : Role) :
    (turn.dropSink sink).channels.registry.channel? peer role =
      turn.source.registry.channel? peer role := by
  obtain ⟨counter, line, dropped⟩ := turn.sent_dropSink sink
  rw [dropped]
  rfl

theorem retire_of_unreached (unreached : turn.source.registry.channel? sink .sink = none) :
    turn.retire sink = turn.dropSink sink := by
  rw [retire, Channels.disconnect_of_unknown _ ((channel?_dropSink _ _).trans unreached)]
  rfl

theorem retire_of_reached {session : SessionId}
    (reached : turn.source.registry.channel? sink .sink = some session) :
    turn.retire sink =
      (turn.dropSink sink).withChannels
        ⟨{ (turn.dropSink sink).source.registry with
            byPeer := (turn.dropSink sink).source.registry.byPeer.erase ⟨sink, .sink⟩
            bySession := (turn.dropSink sink).source.registry.bySession.erase session },
          Transport.hangUp (turn.dropSink sink).line session⟩ := by
  rw [retire, Channels.disconnect, (channel?_dropSink _ _).trans reached]
  rfl

theorem retireIfUnprepared_of_stays {reply : Reply} (stays : reply ≠ .unprepared Status.ok) :
    turn.retireIfUnprepared sink reply = turn := by
  rw [retireIfUnprepared.eq_def]
  split
  · next status =>
    rw [if_neg]
    exact fun ok => stays (congrArg Reply.unprepared ok)
  · rfl

end Retiring

/-! ## Channels that are gone -/

/-- A turn without a channel. -/
def without (turn : Turn τ) (session : SessionId) : Turn τ :=
  { turn with
    source := { turn.source with registry := (turn.source.registry.closed session).2 } }

section Closing

variable [Transport τ] (turn : Turn τ)

theorem closed_of_unknown {session : SessionId}
    (unknown : turn.source.registry.bySession[session]? = none) :
    turn.closed session = turn := by
  rw [closed, Registry.closed_of_unknown unknown]

theorem closed_of_known {session : SessionId} {channel : Channel}
    (known : turn.source.registry.bySession[session]? = some channel) :
    turn.closed session =
      match channel.remoteRole, channel.outbound with
      | .sink, _ => (turn.without session).dropSink channel.peer
      | .source, true =>
          (turn.without session).failWhere (Call.isThrough channel.peer) .disconnected
      | .source, false =>
          { turn.without session with
            source :=
              { (turn.without session).source with
                relays := turn.source.relays.abandonOrigin session } } := by
  have found := Registry.channel_closed known
  rcases dropped : turn.source.registry.closed session with ⟨gone, registry⟩
  rw [dropped] at found
  rw [closed, dropped, without, dropped]
  dsimp only at found
  subst found
  rfl

end Closing

end InputSharing.Source.Turn
