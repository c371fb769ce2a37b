import InputSharing.Proofs.Observation
import InputSharing.Sink.Inbound

/-!
# Histories of sinks

An `Occurrence` is anything that can happen to a sink.  A turn is `Reached` when
it can come about from a new sink by occurrences in any order, while the
transport and the hardware change by themselves as they like.

A `Capture` tells what a sink has made of one event of its devices.
-/

namespace InputSharing

namespace Sink

/-- What can happen to a sink. -/
inductive Occurrence where
  /-- Another node opens a channel. -/
  | opened (session : SessionId) (peer : DeviceId)
  /-- A message arrives on a channel. -/
  | message (session : SessionId) (message : Message)
  /-- The transport reports that a channel is gone. -/
  | closed (session : SessionId)
  /-- A device produces an event while the devices are being read. -/
  | captured (event : InputEvent)
  /-- The events that have been put aside are to be sent. -/
  | flush
  /-- The user adds a listener. -/
  | listen

namespace Turn

variable {τ κ : Type} [Transport τ] [Collector κ]

/-- What a sink makes of an occurrence. -/
def undergo (turn : Turn τ κ) : Occurrence → Turn τ κ
  | .opened session peer => turn.opened session peer
  | .message session message => turn.handle session message
  | .closed session => turn.closed session
  | .captured event => (turn.captured event).2
  | .flush => turn.flush
  | .listen => turn.listen

end Turn

/-- An occurrence is possible for a sink unless it opens a channel under a
session that the sink knows. -/
def Occurrence.Possible (sink : Sink) : Occurrence → Prop
  | .opened session _ => session ∉ sink.registry.bySession
  | _ => True

/-- The turns of a sink that started with the given settings. -/
inductive Reached {τ κ : Type} [Transport τ] [Collector κ]
    (device : DeviceId) (allowList : AllowList) (batchMax : Nat) :
    Turn (Recorded τ) (Metered κ) → Prop
  /-- The sink has done nothing yet. -/
  | start (line : τ) (hardware : κ) :
      Reached device allowList batchMax
        { sink := Sink.start device allowList batchMax
          line := { line }
          collector := { hardware } }
  /-- Something happens to the sink. -/
  | undergo {turn : Turn (Recorded τ) (Metered κ)} (occurrence : Occurrence) :
      Reached device allowList batchMax turn →
      occurrence.Possible turn.sink →
      Reached device allowList batchMax (turn.undergo occurrence)
  /-- The transport and the hardware change by themselves. -/
  | elsewhere {turn : Turn (Recorded τ) (Metered κ)} (line : τ) (hardware : κ) :
      Reached device allowList batchMax turn →
      Reached device allowList batchMax
        { turn with
          line := { turn.line with line }
          collector := { turn.collector with hardware } }

/-- Messages may come at any time. -/
theorem Reached.handleAll {τ κ : Type} [Transport τ] [Collector κ] {device : DeviceId}
    {allowList : AllowList} {batchMax : Nat} {turn : Turn (Recorded τ) (Metered κ)}
    (reached : Reached device allowList batchMax turn) (mail : List (SessionId × Message)) :
    Reached device allowList batchMax
      (mail.foldl (fun turn letter => turn.handle letter.1 letter.2) turn) := by
  induction mail generalizing turn with
  | nil =>
      exact reached
  | cons first rest inductionHypothesis =>
      exact inductionHypothesis (reached.undergo (.message first.1 first.2) trivial)

end Sink

/-! ## Captures -/

/-- An event that a sink has taken from its devices, and what it made of it. -/
structure Capture where
  event : InputEvent
  state : SharingState
  /-- The owner of the handle. -/
  owner : Option SessionId
  /-- The handles that the owner held at that time. -/
  shared : HandleSet

/-- The channel to which the event was routed. -/
def Capture.channel? (capture : Capture) : Option SessionId :=
  match capture.state with
  | .throughOut => capture.owner
  | .throughIn => none

/-- What a sink makes of an event of its devices. -/
def Sink.Turn.capture {τ κ : Type} [Transport τ] (turn : Sink.Turn τ κ) (event : InputEvent) :
    Capture :=
  let owner := turn.sink.owners[event.handle]?
  { event
    state := (turn.captured event).1
    owner
    shared := (owner.bind turn.sink.handlesOf).getD ∅ }

end InputSharing
