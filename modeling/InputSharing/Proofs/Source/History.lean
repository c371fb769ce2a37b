import InputSharing.Proofs.Observation
import InputSharing.Source.Inbound

/-!
# Histories of sources

An `Occurrence` is anything that can happen to a source.  A `Course` is a turn
together with what its history has to do with relaying: the requests to pass on
that were handled, the answers of sinks to them, the channels that were reported
closed, and the tokens that were used up.  A course is `Reached` when it can come
about from a new source by occurrences in any order, while the transport changes
by itself as it likes.

What a source has sent is read off the record of its transport.
-/

namespace InputSharing

/-! ## What concerns relaying -/

/-- A request to pass on, with the channel on which it came and the names that
it gives to the relaying node and to the sink. -/
structure Inquiry where
  origin : SessionId
  source : DeviceId
  sink : DeviceId
  request : Request
  deriving DecidableEq

/-- A result that was given to the transport for one channel. -/
structure Verdict where
  origin : SessionId
  source : DeviceId
  sink : DeviceId
  result : RelayResult
  deriving DecidableEq

/-- An answer to a passed-on request, with the sink that gave it. -/
structure Answer where
  sink : DeviceId
  token : RelayToken
  reply : Reply
  deriving DecidableEq

namespace Message

def verdict? (session : SessionId) : Message → Option Verdict
  | .relayResult source sink result => some ⟨session, source, sink, result⟩
  | _ => none

/-- The token under which a message passes a request on. -/
def issue? : Message → Option (RelayToken × Request)
  | .relayed token _ body => some (token, body)
  | _ => none

end Message

namespace Deed

def verdict? : Deed → Option Verdict
  | .transmitted session (.composed _ message) _ => message.verdict? session
  | _ => none

def issue? : Deed → Option (RelayToken × Request)
  | .transmitted _ (.composed _ message) _ => message.issue?
  | _ => none

end Deed

namespace Source

namespace Turn

variable {τ : Type}

/-- The results that a source has sent, the first one first. -/
def verdicts (turn : Turn (Recorded τ)) : List Verdict :=
  turn.line.deeds.filterMap Deed.verdict?

/-- The requests that a source has passed on, with their tokens. -/
def issued (turn : Turn (Recorded τ)) : List (RelayToken × Request) :=
  turn.line.deeds.filterMap Deed.issue?

/-- The tokens that a source has given out. -/
def tokens (turn : Turn (Recorded τ)) : List RelayToken :=
  turn.issued.map Prod.fst

end Turn

/-! ## Occurrences -/

/-- What can happen to a source. -/
inductive Occurrence where
  /-- The user makes a call. -/
  | call (ticket : Ticket) (call : Call)
  /-- Another node opens a channel. -/
  | opened (session : SessionId) (peer : DeviceId)
  /-- A message arrives on a channel. -/
  | message (now : UInt64) (session : SessionId) (message : Message)
  /-- The transport reports that a channel is gone. -/
  | closed (session : SessionId)
  /-- The time has come to measure delays. -/
  | tick (now : UInt64)

namespace Occurrence

/-- The request to pass on that a source handles.  A message on a channel that
the source does not know is not handled. -/
def inquiry? (registry : Registry) : Occurrence → Option Inquiry
  | .message _ session (.relayRequest _ source sink request) =>
      if session ∈ registry.bySession then some ⟨session, source, sink, request⟩ else none
  | _ => none

/-- The answer to a passed-on request that a source handles. -/
def answer? (registry : Registry) : Occurrence → Option Answer
  | .message _ session (.relayedReply token _ reply) =>
      (registry.peer? session).map fun peer => ⟨peer, token, reply⟩
  | _ => none

def gone? : Occurrence → Option SessionId
  | .closed session => some session
  | _ => none

end Occurrence

/-- What a source makes of an occurrence. -/
def Turn.undergo {τ : Type} [Transport τ] (turn : Turn τ) : Occurrence → Turn τ
  | .call ticket call => (turn.call ticket call).2
  | .opened session peer => turn.opened session peer
  | .message now session message => turn.handle now session message
  | .closed session => turn.closed session
  | .tick now => turn.tick now

/-! ## Courses -/

/-- A turn and what led to it, as far as relaying is concerned. -/
structure Course (τ : Type) where
  turn : Turn (Recorded τ)
  /-- The requests to pass on that were handled, the first one first. -/
  asked : List Inquiry := []
  /-- The answers to passed-on requests that were handled. -/
  answers : List Answer := []
  /-- The channels that were reported closed. -/
  gone : List SessionId := []
  /-- The tokens that were used up, as often as they were. -/
  spent : List RelayToken := []

/-- What an occurrence adds to a course.  The tokens that it uses up were live
before or are given out by it, and are not live afterwards. -/
def Course.undergo {τ : Type} [Transport τ] (course : Course τ)
    (occurrence : Occurrence) : Course τ :=
  let before := course.turn
  let after := before.undergo occurrence
  let usable := before.source.relays.live.keys ++ after.tokens.drop before.tokens.length
  { turn := after
    asked := course.asked ++ (occurrence.inquiry? before.source.registry).toList
    answers := course.answers ++ (occurrence.answer? before.source.registry).toList
    gone := course.gone ++ occurrence.gone?.toList
    spent := course.spent ++ usable.filter fun token => token ∉ after.source.relays.live }

/-- The courses of the source of a node. -/
inductive Reached {τ : Type} [Transport τ] (device : DeviceId) : Course τ → Prop
  /-- The source has done nothing yet. -/
  | start (line : τ) :
      Reached device { turn := { source := { device }, line := { line } } }
  /-- Something happens to the source. -/
  | undergo {course : Course τ} (occurrence : Occurrence) :
      Reached device course → Reached device (course.undergo occurrence)
  /-- The transport changes by itself. -/
  | elsewhere {course : Course τ} (line : τ) :
      Reached device course →
      Reached device
        { course with turn := { course.turn with line := { course.turn.line with line } } }

end Source

end InputSharing
