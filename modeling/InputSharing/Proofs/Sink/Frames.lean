import InputSharing.Proofs.Sink.Keys

/-!
# What a request makes a sink send

While a sink deals with a request, everything that it sends goes to the session that
asked.  `Sends` tells the messages in their order; whether the transport takes them is
another matter.
-/

namespace InputSharing

/-- The message of a frame that was given to the transport, and the session it was
for. -/
def Deed.frame? : Deed → Option (SessionId × Message)
  | .transmitted session (.composed _ message) _ => some (session, message)
  | _ => none

/-- These messages were given to the transport for a session, and nothing else was asked
of it. -/
def Sends {τ : Type} (session : SessionId) (messages : List Message)
    (before after : Recorded τ) : Prop :=
  ∃ deeds, after.deeds = before.deeds ++ deeds ∧
    deeds.map Deed.frame? = messages.map fun message => some (session, message)

namespace Sends

variable {τ : Type} {session : SessionId} {first second : List Message}
  {before middle after : Recorded τ}

theorem refl (session : SessionId) (record : Recorded τ) : Sends session [] record record :=
  ⟨[], (List.append_nil _).symm, rfl⟩

theorem append (earlier : Sends session first before middle)
    (later : Sends session second middle after) :
    Sends session (first ++ second) before after := by
  obtain ⟨deeds, told, frames⟩ := earlier
  obtain ⟨moreDeeds, moreTold, moreFrames⟩ := later
  refine ⟨deeds ++ moreDeeds, ?_, ?_⟩
  · rw [moreTold, told, List.append_assoc]
  · rw [List.map_append, List.map_append, frames, moreFrames]

end Sends

/-! ## Events and keys -/

namespace Message

/-- Events that wait go together in one frame. -/
def ofEvents (device : DeviceId) : List InputEvent → List Message
  | [] => []
  | first :: rest => [.inputEvents device (first :: rest)]

/-- Held keys go together in one frame; a single key has a frame of its own kind. -/
def ofKeys (device : DeviceId) : List KeyState → List Message
  | [] => []
  | [key] => [.keyState device key]
  | first :: second :: rest => [.keyStates device (first :: second :: rest)]

end Message

namespace Sink

namespace Turn

variable {τ κ : Type} [Transport τ] (turn : Turn (Recorded τ) κ) (session : SessionId)

theorem sends_post (message : Message) :
    Sends session [message] turn.line (turn.post session message).line := by
  obtain ⟨sequence, answer, deeds⟩ := turn.deeds_post session message
  exact ⟨_, deeds, rfl⟩

end Turn

/-! ## Requests on their way to a sink -/

/-- The message that brings a request. -/
def Via.asking (via : Via) (caller : DeviceId) (request : Request) : Message :=
  match via with
  | direct => .request caller request
  | relayed token => .relayed token caller request

theorem Turn.handle_asking {τ κ : Type} [Transport τ] [Collector κ] (turn : Turn τ κ)
    (session : SessionId) (via : Via) (caller : DeviceId) (request : Request) :
    turn.handle session (via.asking caller request) = turn.serve session via request := by
  cases via with
  | direct => rfl
  | relayed token => rfl

end Sink

end InputSharing
