import InputSharing.Channel.Transport
import InputSharing.Sequence

/-!
# The channel registry

The registry of an endpoint knows its channels in two ways: by the session, to
tell who sent a frame, and by the remote endpoint, to tell on which channel to
reach it.  A channel that another node opened always leads to the source half
of that node.  When the same node opens a second one, the newer channel is the
one on which the node is reached; the older one is still known by its session
until it closes.

`Channels` joins a registry with the transport it uses.
-/

namespace InputSharing

/-- One channel of an endpoint. -/
structure Channel where
  peer : DeviceId
  /-- The half of the peer that the channel reaches. -/
  remoteRole : Role
  session : SessionId
  /-- Whether this endpoint opened the channel. -/
  outbound : Bool
  isOpen : Bool := true
  deriving DecidableEq, Repr

namespace Channel

def remote (channel : Channel) : Endpoint := ⟨channel.peer, channel.remoteRole⟩

end Channel

/-- The channels of one endpoint, and the numbers for its frames. -/
structure Registry where
  byPeer : Table Endpoint SessionId := ∅
  bySession : Table SessionId Channel := ∅
  counter : FrameCounter := {}

namespace Registry

def peer? (registry : Registry) (session : SessionId) : Option DeviceId :=
  registry.bySession[session]?.map Channel.peer

def channel? (registry : Registry) (peer : DeviceId) (role : Role) : Option SessionId :=
  registry.byPeer[(⟨peer, role⟩ : Endpoint)]?

/-- Enter a channel under its session and as the way to its remote endpoint. -/
def enter (registry : Registry) (channel : Channel) : Registry :=
  { registry with
    byPeer := registry.byPeer.insert channel.remote channel.session
    bySession := registry.bySession.insert channel.session channel }

def opened (registry : Registry) (session : SessionId) (peer : DeviceId) : Registry :=
  registry.enter { peer, remoteRole := .source, session, outbound := false }

/-- Forget a channel that is gone.  Nothing is known about a session that was
closed from this side before. -/
def closed (registry : Registry) (session : SessionId) : Option Channel × Registry :=
  match registry.bySession[session]? with
  | none => (none, registry)
  | some channel =>
      let byPeer :=
        if registry.byPeer[channel.remote]? = some session then
          registry.byPeer.erase channel.remote
        else registry.byPeer
      (some { channel with isOpen := false },
        { registry with byPeer, bySession := registry.bySession.erase session })

end Registry

/-- A registry and the transport it uses. -/
structure Channels (τ : Type) where
  registry : Registry
  line : τ

namespace Channels

variable {τ : Type} [Transport τ]

/-- The channel to one half of a peer; it is opened if there is none. -/
def connect (channels : Channels τ) (peer : DeviceId) (role : Role) :
    Except SharingError SessionId × Channels τ :=
  match channels.registry.channel? peer role with
  | some session => (.ok session, channels)
  | none =>
      match Transport.dial channels.line peer role with
      | (.error refusal, line) =>
          (.error (.channelOpenFailed refusal.message), { channels with line })
      | (.ok session, line) =>
          let channel : Channel := { peer, remoteRole := role, session, outbound := true }
          (.ok session, { registry := channels.registry.enter channel, line })

/-- Close the channel to one half of a peer, if there is one. -/
def disconnect (channels : Channels τ) (peer : DeviceId) (role : Role) : Channels τ :=
  match channels.registry.channel? peer role with
  | none => channels
  | some session =>
      { registry :=
          { channels.registry with
            byPeer := channels.registry.byPeer.erase ⟨peer, role⟩
            bySession := channels.registry.bySession.erase session }
        line := Transport.hangUp channels.line session }

/-- Number a message and send it on a channel.  The number is used up even when
the transport refuses the frame. -/
def send (channels : Channels τ) (session : SessionId) (message : Message) :
    Except SharingError Unit × Channels τ :=
  let (sequence, counter) := channels.registry.counter.next
  let registry := { channels.registry with counter }
  match Transport.transmit channels.line session (.composed sequence message) with
  | (.error refusal, line) => (.error (.sendFailed refusal.message), { registry, line })
  | (.ok (), line) => (.ok (), { registry, line })

end Channels

end InputSharing
