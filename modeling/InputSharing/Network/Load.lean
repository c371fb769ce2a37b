import InputSharing.Network.Basic

/-!
# How much is left to do on a network

Every event that waits somewhere has a weight that is greater than the weight
of all that its handling can bring about.  The load of a network is the weight
of everything that waits on it.  It falls with every step, and a network comes
to rest after at most as many steps as its load says, unless a source comes to
know another sink while it is still to measure delays: then the measurement
gets heavier.

An event that still has to be moved into a queue weighs one more than the same
event in the queue.  The weights are fixed from the end:

* what ends at its receiver weighs one;
* a reply can make a source close one channel, a relayed reply can also make
  it report a result;
* a request can make a sink send events, report held keys and reply;
* a request to relay can open a channel, occupy a token and be passed on;
* a call can open a channel and send a request to relay.

A frame that is known by its bytes alone weighs as much as the heaviest
message.
-/

namespace InputSharing

/-! ## Weights of what travels -/

namespace Message

def weight : Message → Nat
  | relayRequest _ _ _ _ => 16
  | relayed _ _ _ => 9
  | request _ _ => 7
  | relayedReply _ _ _ => 5
  | reply _ _ => 3
  | latencyProbe _ _ => 3
  | keyState _ _ | keyStates _ _ | inputEvents _ _ | latencyEcho _ _ | relayResult _ _ _ => 1

end Message

namespace Parcel

def weight : Parcel → Nat
  | composed _ message => message.weight
  | raw _ => 16

end Parcel

namespace TransportEvent

/-- The weight of an event of the transport that waits in a queue. -/
def weight : TransportEvent Parcel → Nat
  | opened _ _ => 1
  | frame _ parcel => parcel.weight
  | closed _ => 1

end TransportEvent

/-! ## Weights of queues -/

def weigh {α : Type} (weight : α → Nat) : List α → Nat
  | [] => 0
  | first :: rest => weight first + weigh weight rest

theorem weigh_append {α : Type} (weight : α → Nat) (things more : List α) :
    weigh weight (things ++ more) = weigh weight things + weigh weight more := by
  induction things with
  | nil => simp only [List.nil_append, weigh, Nat.zero_add]
  | cons first rest together =>
      simp only [List.cons_append, weigh, together, Nat.add_assoc]

/-- The weight of events of the transport that still have to be moved. -/
def Mailbox.load (mailbox : Mailbox Parcel) : Nat :=
  weigh (fun event => event.weight + 1) mailbox.events

namespace SourceEvent

/-- The weight of an event that waits for a source.  A measurement sends at most
one message to each sink that the source knows. -/
def weight (source : Source) : SourceEvent → Nat
  | transport event => event.weight
  | call _ _ => 20
  | tick => 4 * source.beliefs.size + 1

end SourceEvent

namespace SinkEvent

/-- The weight of an event that waits for a sink.  A captured event can have to
be put aside. -/
def weight : SinkEvent → Nat
  | transport event => event.weight
  | captured _ => 4
  | listen => 1

end SinkEvent

/-! ## Loads -/

/-- The weight of the tokens in use at a source; each can make it report a
result. -/
def Source.load (source : Source) : Nat := 3 * source.relays.size

def Sink.load (sink : Sink) : Nat :=
  weigh (fun entry => 3 * entry.2.length) sink.outbox.toList

def Node.load (node : Node) : Nat :=
  weigh (SourceEvent.weight node.source) node.sourceQueue +
    weigh SinkEvent.weight node.sinkQueue +
    5 * node.hardware.captured.length + node.source.load + node.sink.load

def Network.load (network : Network) : Nat :=
  weigh Mailbox.load network.hub.mailboxes +
    weigh (fun entry => entry.2.load) network.nodes.toList

end InputSharing
