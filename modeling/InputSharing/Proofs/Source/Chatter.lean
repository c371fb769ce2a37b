import InputSharing.Network.Reaction
import InputSharing.Proofs.Chatter
import InputSharing.Proofs.Source.Parts
import InputSharing.Proofs.Source.Relaying

/-!
# Sources chatter

A source asks, passes on, reports and measures, and it opens and closes channels.  It
never answers as a sink does.
-/

namespace InputSharing.Source.Turn

variable {τ : Type} [Transport τ] (turn : Turn τ)

/-- What a source says while it reacts is chatter. -/
def Chatters (before after : Turn τ) : Prop := Transport.Chatters before.line after.line

namespace Chatters

variable {before middle after : Turn τ}

theorem of_same (same : after.line = before.line) : Chatters before after := by
  rw [Chatters, same]
  exact .rest

theorem trans (first : Chatters before middle) (second : Chatters middle after) :
    Chatters before after :=
  Transport.Chatters.trans first second

theorem foldl {α : Type} {act : Turn τ → α → Turn τ}
    (chatters : ∀ turn item, Chatters turn (act turn item)) (items : List α) (turn : Turn τ) :
    Chatters turn (items.foldl act turn) := by
  induction items generalizing turn with
  | nil => exact .of_same rfl
  | cons first rest inductionHypothesis =>
      exact (chatters turn first).trans (inductionHypothesis (act turn first))

end Chatters

/-! ## Sending -/

theorem chatters_send (session : SessionId) {message : Message} (plain : message.reply? = none) :
    Chatters turn (turn.send session message).2 :=
  Transport.Chatters.send turn.channels session plain

theorem chatters_post (session : SessionId) {message : Message} (plain : message.reply? = none) :
    Chatters turn (turn.post session message) :=
  turn.chatters_send session plain

theorem chatters_connect (peer : DeviceId) (role : Role) :
    Chatters turn (turn.connect peer role).2 :=
  Transport.Chatters.connect turn.channels peer role

theorem chatters_completeRelay (token : RelayToken) (result : Correlation → RelayResult) :
    Chatters turn
      (turn.completeRelay token fun correlation => correlation.report (result correlation)) := by
  obtain silent | ⟨correlation, origin, _, _, reported⟩ :=
    turn.completeRelay_cases token fun correlation => correlation.report (result correlation)
  · rw [silent]
    exact .of_same rfl
  · rw [reported]
    exact (turn.withLive _).chatters_post _ rfl

theorem chatters_tick (now : UInt64) : Chatters turn (turn.tick now) := by
  apply Chatters.foldl
  intro turn sink
  rw [probe]
  split
  · exact .of_same rfl
  · exact turn.chatters_post _ rfl

/-! ## Giving up sinks -/

theorem chatters_dropSink (sink : DeviceId) : Chatters turn (turn.dropSink sink) := by
  have reports : ∀ (turn : Turn τ) (correlation : Correlation),
      Chatters turn (turn.reportLoss correlation) := by
    intro turn correlation
    rw [reportLoss]
    split
    · exact .of_same rfl
    · exact turn.chatters_post _ rfl
  exact Chatters.foldl reports _ ((turn.forget sink).failWhere (Call.isTo sink) .disconnected)

theorem chatters_retire (sink : DeviceId) : Chatters turn (turn.retire sink) :=
  (turn.chatters_dropSink sink).trans
    (Transport.Chatters.disconnect (turn.dropSink sink).channels sink .sink)

theorem chatters_closed (session : SessionId) : Chatters turn (turn.closed session) := by
  cases known : turn.source.registry.bySession[session]? with
  | none =>
      rw [closed_of_unknown turn known]
      exact .of_same rfl
  | some channel =>
      rw [closed_of_known turn known]
      split
      · exact (turn.without session).chatters_dropSink channel.peer
      · exact .of_same rfl
      · exact .of_same rfl

theorem chatters_retireIfUnprepared (sink : DeviceId) (reply : Reply) :
    Chatters turn (turn.retireIfUnprepared sink reply) := by
  unfold retireIfUnprepared
  split
  · split
    · exact turn.chatters_retire sink
    · exact .of_same rfl
  · exact .of_same rfl

/-! ## Messages and calls -/

theorem chatters_inject (sink : DeviceId) (events : List InputEvent) :
    Chatters turn (turn.inject sink events) := by
  rw [inject]
  split
  · exact .of_same rfl
  · exact .of_same rfl

theorem chatters_absorb (sink : DeviceId) (reply : Reply) :
    Chatters turn (turn.absorb sink reply) := by
  unfold absorb
  split
  · split
    · exact .of_same rfl
    · exact .of_same rfl
    · exact .of_same rfl
  · exact .of_same rfl

theorem chatters_onReply (sink : DeviceId) (reply : Reply) :
    Chatters turn (turn.onReply sink reply) := by
  have completed :
      Chatters turn
        ((turn.absorb sink reply).complete (.direct sink reply.request) reply.outcome) :=
    (turn.chatters_absorb sink reply).trans (.of_same rfl)
  exact completed.trans (chatters_retireIfUnprepared _ sink reply)

theorem chatters_onRelayedReply (sink : DeviceId) (token : RelayToken) (reply : Reply) :
    Chatters turn (turn.onRelayedReply sink token reply) := by
  unfold onRelayedReply
  split
  · exact .of_same rfl
  · split
    · exact ((turn.chatters_absorb sink reply).trans (chatters_completeRelay _ token _)).trans
        (chatters_retireIfUnprepared _ sink reply)
    · exact .of_same rfl

theorem chatters_forward (inquiry : Inquiry) :
    Chatters turn
      (turn.forward inquiry.origin inquiry.source inquiry.sink inquiry.request) := by
  have connected := turn.chatters_connect inquiry.sink .sink
  have passes (session : SessionId) :
      Chatters turn ((turn.connect inquiry.sink .sink).2.passOn session inquiry).2 :=
    connected.trans (chatters_send _ session rfl)
  obtain ⟨result, refused⟩ | ⟨session, _, passed | ⟨result, settled⟩⟩ := turn.forward_cases inquiry
  · rw [refused]
    exact connected.trans (chatters_post _ _ rfl)
  · rw [passed]
    exact passes session
  · rw [settled]
    exact (passes session).trans (chatters_completeRelay _ _ _)

theorem chatters_handle (now : UInt64) (session : SessionId) (message : Message) :
    Chatters turn (turn.handle now session message) := by
  unfold handle
  split
  · exact .of_same rfl
  · next peer _ =>
    cases message with
    | reply named reply => exact turn.chatters_onReply peer reply
    | relayedReply token named reply => exact turn.chatters_onRelayedReply peer token reply
    | keyState named key => exact turn.chatters_inject peer _
    | keyStates named keys => exact turn.chatters_inject peer _
    | inputEvents named events => exact turn.chatters_inject peer events
    | relayRequest named source sink request =>
        exact turn.chatters_forward ⟨session, source, sink, request⟩
    | _ => exact .of_same rfl

theorem chatters_channelFor (wanted : Call) : Chatters turn (turn.channelFor wanted).2 := by
  have existing (sink : DeviceId) : Chatters turn (turn.existing sink).2 := by
    rw [Turn.existing]
    split
    · exact .of_same rfl
    · exact .of_same rfl
  unfold channelFor
  split
  · exact turn.chatters_connect _ _
  · exact existing _
  · split
    · exact existing _
    · exact .of_same rfl
  · exact turn.chatters_connect _ _

theorem chatters_call (ticket : Ticket) (wanted : Call) :
    Chatters turn (turn.call ticket wanted).2 := by
  have plain (caller : DeviceId) : (wanted.message caller).reply? = none := by
    cases wanted with
    | direct sink request => rfl
    | relayed source sink request => rfl
  have reaches := turn.chatters_channelFor wanted
  have sends (session : SessionId) :=
    reaches.trans (chatters_send _ session (plain (turn.channelFor wanted).2.source.device))
  obtain refused | ⟨error, refused⟩ | ⟨session, _, ⟨error, refused⟩ | ⟨_, _, accepted⟩⟩ :=
    turn.call_cases ticket wanted
  · rw [refused]
    exact .of_same rfl
  · rw [refused]
    exact reaches.trans (.of_same rfl)
  · rw [refused]
    exact (sends session).trans (.of_same rfl)
  · rw [accepted]
    exact (sends session).trans (.of_same rfl)

/-- Whatever a source reacts to, it does not answer as a sink does. -/
theorem chatters_react (now : UInt64) (event : SourceEvent) :
    Chatters turn (event.react now turn) := by
  cases event with
  | call ticket wanted => exact turn.chatters_call ticket wanted
  | tick => exact turn.chatters_tick now
  | transport event =>
      cases event with
      | opened session peer => exact .of_same rfl
      | closed session => exact turn.chatters_closed session
      | frame session parcel =>
          rw [SourceEvent.react, Dispatched.dispatch]
          split
          · exact .of_same rfl
          · split
            · exact turn.chatters_handle now session _
            · exact .of_same rfl

end InputSharing.Source.Turn
