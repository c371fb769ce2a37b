import InputSharing.Channel.Transport
import InputSharing.Wire.Piece

/-!
# Receiving a byte stream

The bytes of a stream arrive in portions of any size.  A receiver holds back
what is not a whole piece yet.  It tells of the channel once the greeting is
complete, then of every frame, and at the end that the channel is closed.

Bytes that cannot be a greeting end the stream without a word.  Bytes that
cannot be a frame close the channel, and whatever follows them is not read.
-/

namespace InputSharing.Wire

/-- The state of a stream at the end that receives it. -/
inductive Receiver where
  /-- The greeting is awaited. -/
  | greeted (held : Bytes)
  /-- Frames are awaited. -/
  | framing (held : Bytes)
  /-- Nothing is read any more. -/
  | ended
  deriving DecidableEq

namespace Receiver

/-- A stream of which nothing has arrived. -/
def start : Receiver := greeted []

def cut (session : SessionId) (bytes : Bytes) : List (TransportEvent Bytes) × Receiver :=
  match _read : frame bytes with
  | .broken => ([.closed session], ended)
  | .unfinished => ([], framing bytes)
  | .whole piece rest =>
      let (events, receiver) := cut session rest
      (.frame session piece :: events, receiver)
  termination_by bytes.length
  decreasing_by exact frame_shorter _read

def feed (session : SessionId) (portion : Bytes) :
    Receiver → List (TransportEvent Bytes) × Receiver
  | greeted held =>
      match greeting (held ++ portion) with
      | .broken => ([], ended)
      | .unfinished => ([], greeted (held ++ portion))
      | .whole peer rest =>
          let (events, receiver) := cut session rest
          (.opened session peer :: events, receiver)
  | framing held => cut session (held ++ portion)
  | ended => ([], ended)

/-- What is told at the end of the stream.  A piece that is not whole by then is
dropped. -/
def finish (session : SessionId) : Receiver → List (TransportEvent Bytes)
  | framing _ => [.closed session]
  | greeted _ | ended => []

/-- All that a receiver tells of a stream that arrives in given portions. -/
def run (session : SessionId) : Receiver → (portions : List Bytes) → List (TransportEvent Bytes)
  | receiver, [] => receiver.finish session
  | receiver, portion :: more =>
      let (events, next) := receiver.feed session portion
      events ++ next.run session more

end Receiver

end InputSharing.Wire
