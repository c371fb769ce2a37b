import InputSharing.Channel.Transport
import InputSharing.Identity
import InputSharing.Wire.Piece

/-!
# Endpoints of byte streams

An endpoint opens channels to the addresses of other nodes and accepts channels
from them.  Opening tells a session at once, on which frames can be sent.  When
nobody answers at the address, or the name of the node is too long for a
greeting, the channel closes.

What is sent on a channel goes out in order, after the greeting on a channel
that the endpoint opened itself.
-/

namespace InputSharing.Wire

/-- The addresses of the two halves of a node, of type `α`, as far as they are
known. -/
structure Addresses (α : Type) where
  source : Option α := none
  sink : Option α := none
  deriving DecidableEq, Repr

def Addresses.of? {α : Type} (addresses : Addresses α) : Role → Option α
  | .source => addresses.source
  | .sink => addresses.sink

/-- A channel at one end of it. -/
structure Channel where
  /-- What goes out first. -/
  greeting : Bytes := []
  /-- The frames sent on the channel, the oldest first. -/
  frames : List Bytes := []
  isOpen : Bool := true
  deriving DecidableEq, Repr

def Channel.bytes (channel : Channel) : Bytes := channel.greeting ++ channel.frames.flatten

/-- An endpoint of one node. -/
structure Endpoint (α : Type) where
  device : DeviceId
  peers : Table DeviceId (Addresses α) := ∅
  /-- The session of the last channel. -/
  lastSession : SessionId := ⟨0⟩
  /-- All channels that ever had a connection. -/
  channels : Table SessionId Channel := ∅

namespace Endpoint

variable {α : Type}

def nextSession (endpoint : Endpoint α) : SessionId := ⟨endpoint.lastSession.number + 1⟩

def withChannel (endpoint : Endpoint α) (channel : Channel) : Endpoint α :=
  { endpoint with
    lastSession := endpoint.nextSession
    channels := endpoint.channels.insert endpoint.nextSession channel }

def accept (endpoint : Endpoint α) : SessionId × Endpoint α :=
  (endpoint.nextSession, endpoint.withChannel {})

/-- Open a channel to one half of a node, given at which addresses somebody
answers.  The events are those that follow at once. -/
def dial (answers : α → Bool) (endpoint : Endpoint α) (peer : DeviceId) (role : Role) :
    Except TransportError SessionId × List (TransportEvent Bytes) × Endpoint α :=
  match endpoint.peers[peer]?.bind fun addresses => addresses.of? role with
  | none => (.error (.unknownPeer peer), [], endpoint)
  | some address =>
      let session := endpoint.nextSession
      match if answers address then greeting? endpoint.device else none with
      | none => (.ok session, [.closed session], { endpoint with lastSession := session })
      | some greeting => (.ok session, [], endpoint.withChannel { greeting })

def transmit (endpoint : Endpoint α) (session : SessionId) (frame : Bytes) :
    Except TransportError Unit × Endpoint α :=
  match endpoint.channels[session]? with
  | some ⟨greeting, frames, true⟩ =>
      let channel : Channel := { greeting, frames := frames ++ [frame] }
      (.ok (), { endpoint with channels := endpoint.channels.insert session channel })
  | _ => (.error (.sessionClosed session), endpoint)

/-- Close a channel.  What was sent before still goes out. -/
def hangUp (endpoint : Endpoint α) (session : SessionId) : Endpoint α :=
  { endpoint with
    channels := endpoint.channels.modify session fun channel =>
      { channel with isOpen := false } }

def lost (endpoint : Endpoint α) (session : SessionId) :
    List (TransportEvent Bytes) × Endpoint α :=
  ([.closed session], endpoint.hangUp session)

def sent (endpoint : Endpoint α) (session : SessionId) : Bytes :=
  (endpoint.channels[session]?.map Channel.bytes).getD []

end Endpoint

end InputSharing.Wire
