import InputSharing.Network.Reaction
import InputSharing.Proofs.Sink.Settling

/-!
# Only requests change what is shared

A sink serves the requests that it takes from its queue.  Nothing else that it reacts to
changes what a session shares, but for the end of the session.
-/

namespace InputSharing

def Message.wanted? : Message → Option Request
  | .request _ wanted | .relayed _ _ wanted => some wanted
  | _ => none

/-- The request that a sink takes, and the session on which it comes. -/
def SinkEvent.wanted? : SinkEvent → Option (SessionId × Request)
  | .transport (.frame session parcel) =>
      match parcel.read with
      | .ok (_, message) => message.wanted?.map (Prod.mk session)
      | .error _ => none
  | _ => none

theorem SinkEvent.frame_of_wanted {event : SinkEvent} {session : SessionId} {request : Request}
    (wants : event.wanted? = some (session, request)) :
    ∃ parcel, event = .transport (.frame session parcel) := by
  unfold wanted? at wants
  split at wants
  · next came parcel =>
    split at wants
    · obtain ⟨_, _, same⟩ := Option.map_eq_some_iff.1 wants
      exact ⟨parcel, by rw [(Prod.mk.inj same).1]⟩
    · cases wants
  · cases wants

namespace Sink.Turn

variable {τ κ : Type} [Transport τ]

/-! ## What keeps shares -/

/-- The sessions keep what they share. -/
def Keeps (before after : Turn τ κ) : Prop :=
  Transport.Chatters before.line after.line ∧ after.sink.switches = before.sink.switches

namespace Keeps

variable {before middle after : Turn τ κ}

theorem refl (turn : Turn τ κ) : Keeps turn turn := ⟨.rest, rfl⟩

theorem trans (first : Keeps before middle) (second : Keeps middle after) : Keeps before after :=
  ⟨first.1.trans second.1, second.2.trans first.2⟩

theorem shares?_eq (keeps : Keeps before after) (session : SessionId) :
    after.sink.shares? session = before.sink.shares? session := by
  rw [shares?, shares?, keeps.2]

end Keeps

section Keeping

variable (turn : Turn τ κ)

theorem keeps_post (session : SessionId) {message : Message} (plain : message.reply? = none) :
    Keeps turn (turn.post session message) := by
  obtain ⟨counter, line, sent⟩ := turn.sent_post session message
  exact ⟨turn.chatters_post session plain, by rw [sent]⟩

theorem keeps_flushSession (session : SessionId) : Keeps turn (turn.flushSession session) := by
  obtain ⟨counter, line, sent⟩ := turn.sent_flushSession session
  exact ⟨turn.chatters_flushSession session, by rw [sent]⟩

theorem keeps_flush : Keeps turn turn.flush := by
  rw [flush]
  generalize turn.sink.outbox.keys = sessions
  induction sessions generalizing turn with
  | nil => exact .refl turn
  | cons session rest inductionHypothesis =>
      exact (turn.keeps_flushSession session).trans (inductionHypothesis _)

theorem keeps_captured (event : InputEvent) : Keeps turn (turn.captured event).2 := by
  cases turn.captured_cases event with
  | inl stays =>
      rw [stays]
      exact .refl turn
  | inr goes =>
      obtain ⟨session, _, collects⟩ := goes
      have collected : Keeps turn (turn.collect session event) := ⟨.rest, rfl⟩
      rw [collects]
      dsimp only
      split
      · exact collected.trans (keeps_flushSession _ session)
      · exact collected

end Keeping

variable [Collector κ] {turn : Turn τ κ} {session : SessionId}

/-- The end of a session is news of this session only. -/
theorem shares?_closed (turn : Turn τ κ) {session tested : SessionId} (other : session ≠ tested) :
    (turn.closed session).sink.shares? tested = turn.sink.shares? tested := by
  cases prepared : turn.sink.switches[session]? with
  | none =>
      rw [closed_of_unprepared prepared]
      rfl
  | some switch =>
      let requested := HandleSet.ofKeys switch.handles
      let released := ((turn.quiet session).release session requested false).2
      have found : (turn.quiet session).sink.switches[session]? = some switch := prepared
      have kept : released.sink.switches[tested]? = turn.sink.switches[tested]? := by
        rw [(release_settles found requested false).2, if_neg other]
        rfl
      rw [closed_of_prepared prepared]
      change ((released.sink.switches.erase session)[tested]?).map Switch.handles = _
      rw [Table.getElem?_erase_eq, if_neg other, kept, shares?]

theorem chatters_closed (turn : Turn τ κ) (session : SessionId) :
    Transport.Chatters turn.line (turn.closed session).line := by
  cases prepared : turn.sink.switches[session]? with
  | none =>
      rw [closed_of_unprepared prepared]
      exact .rest
  | some switch =>
      rw [closed_of_prepared prepared]
      exact (turn.quiet session).chatters_release session _ false

/-! ## Reactions -/

theorem react_of_asked {event : SinkEvent} {request : Request}
    (asked : event.wanted? = some (session, request)) (turn : Turn τ κ) :
    ∃ via, event.react turn = turn.serve session via request := by
  unfold SinkEvent.wanted? at asked
  split at asked
  · next came parcel =>
    split at asked
    · next sequence message read =>
      obtain ⟨found, requests, same⟩ := Option.map_eq_some_iff.1 asked
      obtain ⟨rfl, rfl⟩ := Prod.mk.inj same
      have react :
          (SinkEvent.transport (.frame came parcel)).react turn =
            if message.role = .sink then turn.handle came message else turn := by
        rw [SinkEvent.react, Dispatched.dispatch, read]
        dsimp only
        split
        · rfl
        · rfl
      rw [react]
      cases message with
      | request device wanted =>
          obtain rfl := Option.some.inj requests
          exact ⟨.direct, rfl⟩
      | relayed token device wanted =>
          obtain rfl := Option.some.inj requests
          exact ⟨.relayed token, rfl⟩
      | _ => cases requests
    · cases asked
  · cases asked

/-- Whatever else a sink reacts to, only a session that is gone loses what it shares. -/
theorem react_of_unasked {event : SinkEvent} (unasked : event.wanted? = none)
    (turn : Turn τ κ) :
    Transport.Chatters turn.line (event.react turn).line ∧
      ∀ tested, event ≠ .transport (.closed tested) →
        (event.react turn).sink.shares? tested = turn.sink.shares? tested := by
  have of_keeps {after : Turn τ κ} (keeps : Keeps turn after) :
      Transport.Chatters turn.line after.line ∧
        ∀ tested, event ≠ .transport (.closed tested) →
          after.sink.shares? tested = turn.sink.shares? tested :=
    ⟨keeps.1, fun tested _ => keeps.shares?_eq tested⟩
  cases event with
  | captured event => exact of_keeps (turn.keeps_captured event)
  | listen => exact of_keeps ⟨.rest, rfl⟩
  | transport event =>
      cases event with
      | opened session peer => exact of_keeps ⟨.rest, rfl⟩
      | closed session =>
          refine ⟨turn.chatters_closed session, ?_⟩
          intro tested other
          exact turn.shares?_closed fun same => other (by rw [same])
      | frame session parcel =>
          apply of_keeps
          rw [SinkEvent.react, Dispatched.dispatch]
          split
          · exact .refl turn
          · next sequence message read =>
            have plain : message.wanted? = none := by
              rw [SinkEvent.wanted?, read] at unasked
              exact Option.map_eq_none_iff.1 unasked
            split
            · cases message with
              | request device request => cases plain
              | relayed token device request => cases plain
              | latencyProbe device sentAtUs => exact turn.keeps_post session rfl
              | _ => exact .refl turn
            · exact .refl turn

end Sink.Turn

end InputSharing
