import InputSharing.Hub
import InputSharing.Network.Reaction

/-!
# Networks of nodes

A network is a hub with nodes on it.  Each node has a source and a sink, both
registered on the hub, and simulated hardware.

What happens on a network is divided into small steps, each of which concerns
one queue of one node:

* an event moves from a mailbox of the hub to the queue of its node
  (`forward`), or from the hardware to the queue of the sink
  (`forwardCaptured`);
* a source or a sink reacts to the first event of its queue (`serveSource`,
  `serveSink`);
* a sink sends the captured events that it has put aside (`flush`).

The user adds to the queues by calls, and the hardware by what it captures.
The steps may follow one another in any order; `InputSharing.Network.Schedule`
fixes one.
-/

namespace InputSharing

/-! ## Nodes -/

/-- When a node measures delays. -/
structure Probing where
  /-- The time between two measurements, in milliseconds. -/
  periodMs : Nat
  /-- The time of the next measurement. -/
  nextMs : Nat
  deriving DecidableEq, Repr

/-- A node with its queues. -/
structure Node where
  source : Source
  sink : Sink
  hardware : Hardware
  injector : Injector := {}
  /-- The place of the mailbox of the source. -/
  sourceBox : Nat
  /-- The place of the mailbox of the sink. -/
  sinkBox : Nat
  sourceQueue : List SourceEvent := []
  sinkQueue : List SinkEvent := []
  /-- The node has not been shut down. -/
  running : Bool := true
  probing : Option Probing := none
  /-- What the listeners of the sink have heard, in order. -/
  heard : List Sink.Notice := []

namespace Node

def box (node : Node) : Role → Nat
  | .source => node.sourceBox
  | .sink => node.sinkBox

/-- Let an event of the transport wait for one half of a node. -/
def enqueue (node : Node) (event : TransportEvent Parcel) : Role → Node
  | .source => { node with sourceQueue := node.sourceQueue ++ [.transport event] }
  | .sink => { node with sinkQueue := node.sinkQueue ++ [.transport event] }

end Node

/-- What a node is set up with. -/
structure NodeSetup where
  device : DeviceId
  devices : List Device := []
  allowList : AllowList := []
  batchMax : Nat := 32
  /-- The time between two measurements of delays, in milliseconds; zero if they
  are not measured. -/
  probePeriodMs : Nat := 0

/-! ## Networks -/

/-- Nodes on one hub. -/
structure Network where
  hub : Hub Parcel := {}
  nodes : Table DeviceId Node := ∅
  /-- The halves of nodes that attend to the mailboxes of the hub. -/
  attendants : Table Nat Endpoint := ∅
  /-- The calls that have ended, the first one first. -/
  completions : List (Completion Grant) := []
  /-- The time that nodes write into their messages, in microseconds. -/
  clock : UInt64
  /-- How long the network has been running, in milliseconds. -/
  elapsedMs : Nat := 0

namespace Network

/-- Set up a node.  The first measurement of delays is one period away. -/
def spawn (network : Network) (setup : NodeSetup) : Network :=
  let sourceEnd : Endpoint := ⟨setup.device, .source⟩
  let sinkEnd : Endpoint := ⟨setup.device, .sink⟩
  let (sourceBox, hub) := network.hub.register sourceEnd
  let (sinkBox, hub) := hub.register sinkEnd
  let node : Node :=
    { source := { device := setup.device }
      sink := Sink.start setup.device setup.allowList setup.batchMax
      hardware := Hardware.ofDevices setup.devices
      sourceBox
      sinkBox
      probing :=
        if setup.probePeriodMs = 0 then none
        else some ⟨setup.probePeriodMs, network.elapsedMs + setup.probePeriodMs⟩ }
  { network with
    hub
    nodes := network.nodes.insert setup.device node
    attendants := (network.attendants.insert sourceBox sourceEnd).insert sinkBox sinkEnd }

def modifyNode (network : Network) (device : DeviceId) (change : Node → Node) : Network :=
  { network with nodes := network.nodes.modify device change }

/-! ## Moving events into queues -/

/-- Move the oldest event from the mailbox of an endpoint to the queue of its
node.  A node that has been shut down abandons a mailbox in which it finds
something. -/
def forward (network : Network) (endpoint : Endpoint) : Network :=
  match network.nodes[endpoint.device]? with
  | none => network
  | some node =>
      let box := node.box endpoint.role
      match network.hub.takeFirst box with
      | (none, _) => network
      | (some event, hub) =>
          if node.running then
            { network with
              hub
              nodes := network.nodes.insert endpoint.device (node.enqueue event endpoint.role) }
          else { network with hub := hub.abandon box }

/-- Move the captured events of a node to the queue of its sink.  A node that
has been shut down stops listening to its hardware when there is something. -/
def forwardCaptured (network : Network) (device : DeviceId) : Network :=
  network.modifyNode device fun node =>
    match node.hardware.take with
    | ([], _) => node
    | (events, hardware) =>
        if node.running then
          { node with hardware, sinkQueue := node.sinkQueue ++ events.map .captured }
        else { node with hardware := hardware.hangUp }

/-! ## Serving queues -/

/-- Let the source of a node react to the first event of its queue. -/
def serveSource (network : Network) (device : DeviceId) : Network :=
  match network.nodes[device]? with
  | none => network
  | some node =>
      match node.sourceQueue with
      | [] => network
      | event :: rest =>
          let line : Hub.Port Parcel := ⟨network.hub, ⟨device, .source⟩⟩
          let turn := event.react network.clock { source := node.source, line }
          { network with
            hub := turn.line.hub
            nodes :=
              network.nodes.insert device
                { node with
                  source := turn.source
                  sourceQueue := rest
                  injector := node.injector.injectAll turn.injections }
            completions := network.completions ++ turn.completions }

def sinkTurn (network : Network) (device : DeviceId) (node : Node)
    (act : Sink.Turn (Hub.Port Parcel) Hardware → Sink.Turn (Hub.Port Parcel) Hardware) :
    Network :=
  let turn :=
    act
      { sink := node.sink
        line := ⟨network.hub, ⟨device, .sink⟩⟩
        collector := node.hardware }
  { network with
    hub := turn.line.hub
    nodes :=
      network.nodes.insert device
        { node with
          sink := turn.sink
          hardware := turn.collector
          heard := node.heard ++ turn.notices } }

/-- Let the sink of a node react to the first event of its queue. -/
def serveSink (network : Network) (device : DeviceId) : Network :=
  match network.nodes[device]? with
  | none => network
  | some node =>
      match node.sinkQueue with
      | [] => network
      | event :: rest =>
          network.sinkTurn device { node with sinkQueue := rest } fun turn => event.react turn

/-- Let the sink of a node send the captured events that it has put aside. -/
def flush (network : Network) (device : DeviceId) : Network :=
  match network.nodes[device]? with
  | none => network
  | some node => network.sinkTurn device node Sink.Turn.flush

/-! ## What the user does -/

def running? (network : Network) (device : DeviceId) : Option Node :=
  network.nodes[device]?.filter Node.running

/-- The user of a node makes a call.  A node that has been shut down ends it at
once. -/
def call (network : Network) (device : DeviceId) (ticket : Ticket) (call : Call) : Network :=
  match network.running? device with
  | none =>
      { network with
        completions := network.completions ++ [⟨ticket, .error .disconnected⟩] }
  | some _ =>
      network.modifyNode device fun node =>
        { node with sourceQueue := node.sourceQueue ++ [.call ticket call] }

def listen (network : Network) (device : DeviceId) : Except SharingError Unit × Network :=
  match network.running? device with
  | none => (.error .disconnected, network)
  | some _ =>
      (.ok (),
        network.modifyNode device fun node =>
          { node with sinkQueue := node.sinkQueue ++ [.listen] })

/-- Shut a node down.  The calls that wait on it end. -/
def shutDown (network : Network) (device : DeviceId) : Network :=
  match network.running? device with
  | none => network
  | some node =>
      let (completions, pending) :=
        node.source.pending.failWhere (fun _ => true) .disconnected
      { network with
        nodes :=
          network.nodes.insert device
            { node with source := { node.source with pending }, running := false }
        completions := network.completions ++ completions }

/-! ## What the world does -/

/-- The devices of a node produce events.  The answers say which of them were
captured. -/
def emit (network : Network) (device : DeviceId) (events : List InputEvent) :
    List Bool × Network :=
  match network.nodes[device]? with
  | none => ([], network)
  | some node =>
      let (taken, hardware) := node.hardware.emitAll events
      (taken, { network with nodes := network.nodes.insert device { node with hardware } })

def failNextStart (network : Network) (device : DeviceId) : Network :=
  network.modifyNode device fun node =>
    { node with hardware := { node.hardware with failNextStart := true } }

/-- Break all links between two nodes.  Gives their sessions. -/
def severAll (network : Network) (first second : DeviceId) : List SessionId × Network :=
  let sessions := network.hub.sessionsBetween first second
  (sessions, { network with hub := sessions.foldl Hub.sever network.hub })

def pass (network : Network) (ms : Nat) : Network :=
  { network with elapsedMs := network.elapsedMs + ms }

/-- The running nodes whose time to measure delays has come, those that have
waited longest first. -/
def due (network : Network) : List DeviceId :=
  let times := network.nodes.toList.filterMap fun (device, node) =>
    match node.running, node.probing with
    | true, some probing =>
        if probing.nextMs ≤ network.elapsedMs then some (probing.nextMs, device) else none
    | _, _ => none
  (times.mergeSort fun first second => first.1 ≤ second.1).map Prod.snd

/-- Tell a node that its time to measure delays has come.  The next time is the
next multiple of the period that is still to come. -/
def tick (network : Network) (device : DeviceId) : Network :=
  network.modifyNode device fun node =>
    { node with
      sourceQueue := node.sourceQueue ++ [.tick]
      probing :=
        node.probing.map fun probing =>
          { probing with
            nextMs := (network.elapsedMs / probing.periodMs + 1) * probing.periodMs } }

/-! ## What the user sees -/

def source? (network : Network) (device : DeviceId) : Except SharingError Source :=
  match network.running? device with
  | none => .error .disconnected
  | some node => .ok node.source

def sink? (network : Network) (device : DeviceId) : Except SharingError Sink :=
  match network.running? device with
  | none => .error .disconnected
  | some node => .ok node.sink

end Network

end InputSharing
