import InputSharing.Proofs.Registry
import InputSharing.Proofs.Source.History
import InputSharing.Proofs.Source.Parts

/-!
# What leaves relaying alone

Most of what a source does has nothing to do with relaying.  Such a turn is
`Quiet`.  A turn `Fades` if it at most uses tokens up.
-/

namespace InputSharing.Source

namespace Turn

variable {τ : Type}

/-! ## Turns that leave relaying alone -/

/-- Relaying stands after a turn as it did before. -/
structure Quiet (before after : Turn (Recorded τ)) : Prop where
  relays_eq : after.source.relays = before.source.relays
  verdicts_eq : after.verdicts = before.verdicts
  issued_eq : after.issued = before.issued

namespace Quiet

theorem refl (turn : Turn (Recorded τ)) : Quiet turn turn :=
  ⟨rfl, rfl, rfl⟩

theorem trans {before middle after : Turn (Recorded τ)}
    (first : Quiet before middle) (second : Quiet middle after) : Quiet before after :=
  ⟨second.relays_eq.trans first.relays_eq, second.verdicts_eq.trans first.verdicts_eq,
    second.issued_eq.trans first.issued_eq⟩

theorem foldl {α : Type} (act : Turn (Recorded τ) → α → Turn (Recorded τ))
    (quiet : ∀ turn item, Quiet turn (act turn item)) (items : List α)
    (turn : Turn (Recorded τ)) : Quiet turn (items.foldl act turn) := by
  induction items generalizing turn with
  | nil =>
      exact Quiet.refl turn
  | cons first rest inductionHypothesis =>
      exact (quiet turn first).trans (inductionHypothesis (act turn first))

end Quiet

section Bookkeeping

variable (turn : Turn (Recorded τ))

theorem quiet_inject (sink : DeviceId) (events : List InputEvent) :
    Quiet turn (turn.inject sink events) := by
  unfold inject
  split
  · exact ⟨rfl, rfl, rfl⟩
  · exact Quiet.refl turn

theorem quiet_complete (call : Call) (outcome : Outcome) :
    Quiet turn (turn.complete call outcome) :=
  ⟨rfl, rfl, rfl⟩

theorem quiet_opened (session : SessionId) (peer : DeviceId) :
    Quiet turn (turn.opened session peer) :=
  ⟨rfl, rfl, rfl⟩

theorem quiet_absorb (sink : DeviceId) (reply : Reply) :
    Quiet turn (turn.absorb sink reply) := by
  unfold absorb
  split
  · split
    · exact ⟨rfl, rfl, rfl⟩
    · exact Quiet.refl turn
    · exact ⟨rfl, rfl, rfl⟩
  · exact Quiet.refl turn

theorem quiet_answered (sink : DeviceId) (reply : Reply) :
    Quiet turn ((turn.absorb sink reply).complete (.direct sink reply.request) reply.outcome) :=
  (turn.quiet_absorb sink reply).trans ((turn.absorb sink reply).quiet_complete _ _)

theorem quiet_onResult (source sink : DeviceId) (result : RelayResult) :
    Quiet turn (turn.onResult source sink result) :=
  turn.quiet_complete _ _

theorem quiet_releaseKeys (now : UInt64) (sink : DeviceId) (keys : List KeyState) :
    Quiet turn (turn.releaseKeys now sink keys) :=
  turn.quiet_inject sink _

theorem quiet_onEcho (now : UInt64) (sink : DeviceId) (sentAtUs : UInt64) :
    Quiet turn (turn.onEcho now sink sentAtUs) :=
  ⟨rfl, rfl, rfl⟩

theorem quiet_existing (sink : DeviceId) : Quiet turn (turn.existing sink).2 := by
  rw [existing]
  split
  · exact Quiet.refl turn
  · exact Quiet.refl turn

end Bookkeeping

section Sending

variable [Transport τ] (turn : Turn (Recorded τ))

theorem deeds_send (session : SessionId) (message : Message) :
    ∃ (sequence : UInt64) (answer : Except TransportError Unit),
      (turn.send session message).2.line.deeds =
        turn.line.deeds ++ [.transmitted session (.composed sequence message) answer] := by
  have line := turn.channels.line_send session message
  exact ⟨_, _, congrArg Recorded.deeds line⟩

theorem relays_send (session : SessionId) (message : Message) :
    (turn.send session message).2.source.relays = turn.source.relays :=
  rfl

theorem verdicts_send (session : SessionId) (message : Message) :
    (turn.send session message).2.verdicts =
      turn.verdicts ++ (message.verdict? session).toList := by
  obtain ⟨sequence, answer, deeds⟩ := turn.deeds_send session message
  rw [verdicts, deeds, List.filterMap_append]
  rfl

theorem issued_send (session : SessionId) (message : Message) :
    (turn.send session message).2.issued = turn.issued ++ message.issue?.toList := by
  obtain ⟨sequence, answer, deeds⟩ := turn.deeds_send session message
  rw [issued, deeds, List.filterMap_append]
  rfl

theorem quiet_send {session : SessionId} {message : Message}
    (noVerdict : message.verdict? session = none) (noIssue : message.issue? = none) :
    Quiet turn (turn.send session message).2 := by
  refine ⟨turn.relays_send session message, ?_, ?_⟩
  · rw [verdicts_send, noVerdict]
    exact List.append_nil _
  · rw [issued_send, noIssue]
    exact List.append_nil _

theorem quiet_connect (peer : DeviceId) (role : Role) :
    Quiet turn (turn.connect peer role).2 := by
  cases known : turn.channels.registry.channel? peer role with
  | some session =>
      have same := turn.channels.connect_of_known known
      unfold connect
      rw [same]
      exact ⟨rfl, rfl, rfl⟩
  | none =>
      have line := turn.channels.line_connect_of_unknown known
      have deeds : (turn.connect peer role).2.line.deeds = turn.line.deeds ++ [_] :=
        congrArg Recorded.deeds line
      refine ⟨rfl, ?_, ?_⟩
      · rw [verdicts, deeds, List.filterMap_append]
        exact List.append_nil _
      · rw [issued, deeds, List.filterMap_append]
        exact List.append_nil _

theorem quiet_channelFor (call : Call) : Quiet turn (turn.channelFor call).2 := by
  rw [channelFor.eq_def]
  split
  · exact turn.quiet_connect _ _
  · exact turn.quiet_existing _
  · split
    · exact turn.quiet_existing _
    · exact Quiet.refl turn
  · exact turn.quiet_connect _ _

theorem quiet_call (ticket : Ticket) (call : Call) : Quiet turn (turn.call ticket call).2 := by
  have reaches := turn.quiet_channelFor call
  have sends (session : SessionId) :
      Quiet turn
        ((turn.channelFor call).2.send session
          (call.message (turn.channelFor call).2.source.device)).2 := by
    refine reaches.trans (quiet_send _ ?_ ?_)
    · cases call <;> rfl
    · cases call <;> rfl
  obtain refused | ⟨error, refused⟩ | ⟨session, _, ⟨error, refused⟩ | ⟨_, _, accepted⟩⟩ :=
    turn.call_cases ticket call
  · rw [refused]
    exact ⟨rfl, rfl, rfl⟩
  · rw [refused]
    exact reaches.trans ⟨rfl, rfl, rfl⟩
  · rw [refused]
    exact (sends session).trans ⟨rfl, rfl, rfl⟩
  · rw [accepted]
    exact (sends session).trans ⟨rfl, rfl, rfl⟩

theorem quiet_probe (now : UInt64) (sink : DeviceId) : Quiet turn (turn.probe now sink) := by
  rw [probe]
  split
  · exact Quiet.refl turn
  · exact turn.quiet_send rfl rfl

theorem quiet_tick (now : UInt64) : Quiet turn (turn.tick now) :=
  Quiet.foldl (probe now) (fun turn sink => turn.quiet_probe now sink) _ turn

end Sending

/-! ## Turns that give out no token -/

/-- A turn gives out no token, and no token becomes live by it. -/
structure Fades (before after : Turn (Recorded τ)) : Prop where
  last_eq : after.source.relays.last = before.source.relays.last
  issued_eq : after.issued = before.issued
  live_subset : ∀ token ∈ after.source.relays.live, token ∈ before.source.relays.live

namespace Fades

variable {before middle after : Turn (Recorded τ)}

theorem trans (first : Fades before middle) (second : Fades middle after) :
    Fades before after := by
  refine ⟨second.last_eq.trans first.last_eq, second.issued_eq.trans first.issued_eq, ?_⟩
  intro token live
  exact first.live_subset token (second.live_subset token live)

end Fades

theorem Quiet.fades {before after : Turn (Recorded τ)} (quiet : Quiet before after) :
    Fades before after := by
  refine ⟨?_, quiet.issued_eq, ?_⟩
  · rw [quiet.relays_eq]
  · intro token live
    rw [quiet.relays_eq] at live
    exact live

end Turn

end InputSharing.Source
