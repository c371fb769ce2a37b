import InputSharing.Frame.Codec

/-!
# Transports

A transport carries frames between the endpoints of nodes.  It decides by
itself whether a channel can be opened and whether a frame can be sent; nothing
is assumed about these decisions.  What it reports to an endpoint are
`TransportEvent`s.
-/

namespace InputSharing

/-! ## What travels -/

/-- A frame on its way.  A frame that a node composed is kept as its number and
its message, which are what its bytes are read as (`Parcel.read_bytes`); a frame
from elsewhere may be any bytes. -/
inductive Parcel where
  | composed (sequence : UInt64) (message : Message)
  | raw (bytes : Bytes)
  deriving DecidableEq

namespace Parcel

/-- The frame number and the message of a frame, or the fault of its bytes. -/
def read : Parcel → Except FrameError (UInt64 × Message)
  | composed sequence message => .ok (sequence, message)
  | raw bytes => do
      let (message, _) ← Frame.decode bytes
      .ok ((Frame.sequence? bytes).getD 0, message)

end Parcel

/-- What an endpoint hears from a transport that carries frames of type `φ`. -/
inductive TransportEvent (φ : Type) where
  /-- Another node opened a channel to this endpoint. -/
  | opened (session : SessionId) (peer : DeviceId)
  /-- One whole frame arrived. -/
  | frame (session : SessionId) (frame : φ)
  /-- The channel is gone. -/
  | closed (session : SessionId)
  deriving DecidableEq

/-! ## What a transport does -/

/-- Why a transport refuses. -/
inductive TransportError where
  | unknownPeer (peer : DeviceId)
  | sessionClosed (session : SessionId)
  | io (reason : String)
  deriving DecidableEq, Repr

namespace TransportError

def name : TransportError → String
  | unknownPeer _ => "UnknownPeer"
  | sessionClosed _ => "SessionClosed"
  | io _ => "Io"

def message : TransportError → String
  | unknownPeer peer => "no address known for peer " ++ peer.text
  | sessionClosed session => session.display ++ " is not open"
  | io reason => "transport I/O error: " ++ reason

end TransportError

/-- A transport with states of type `τ`. -/
class Transport (τ : Type) where
  /-- Open a channel to one half of a node. -/
  dial : τ → DeviceId → Role → Except TransportError SessionId × τ
  /-- Send one frame on a channel. -/
  transmit : τ → SessionId → Parcel → Except TransportError Unit × τ
  /-- Close a channel. -/
  hangUp : τ → SessionId → τ

end InputSharing
