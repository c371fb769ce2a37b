import InputSharing.Dispatch
import InputSharing.Hardware.Simulated
import InputSharing.Sink.Inbound
import InputSharing.Source.Inbound

/-!
# What the halves of a node react to

Each half of a node takes events from a queue of its own, one after another.
An event is something that the transport reports, something that the user asks
for, a captured event, or the time to measure delays.
-/

namespace InputSharing

/-- What a source reacts to. -/
inductive SourceEvent where
  | transport (event : TransportEvent Parcel)
  | call (ticket : Ticket) (call : Call)
  /-- The time has come to measure delays. -/
  | tick
  deriving DecidableEq

namespace SourceEvent

/-- How a source reacts to an event.  A frame that it cannot read, or that is
meant for a sink, is dropped. -/
def react {τ : Type} [Transport τ] (now : UInt64) (turn : Source.Turn τ) :
    SourceEvent → Source.Turn τ
  | transport (.opened session peer) => turn.opened session peer
  | transport (.frame session parcel) =>
      (Dispatched.dispatch .source (Source.Turn.handle now session) parcel turn).2
  | transport (.closed session) => turn.closed session
  | call ticket wanted => (turn.call ticket wanted).2
  | tick => turn.tick now

end SourceEvent

/-- What a sink reacts to. -/
inductive SinkEvent where
  | transport (event : TransportEvent Parcel)
  | captured (event : InputEvent)
  /-- The user adds a listener. -/
  | listen
  deriving DecidableEq

namespace SinkEvent

/-- How a sink reacts to an event.  A frame that it cannot read, or that is
meant for a source, is dropped. -/
def react {τ κ : Type} [Transport τ] [Collector κ] (turn : Sink.Turn τ κ) :
    SinkEvent → Sink.Turn τ κ
  | transport (.opened session peer) => turn.opened session peer
  | transport (.frame session parcel) =>
      (Dispatched.dispatch .sink (Sink.Turn.handle session) parcel turn).2
  | transport (.closed session) => turn.closed session
  | captured event => (turn.captured event).2
  | listen => turn.listen

end SinkEvent

end InputSharing
