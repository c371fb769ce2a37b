import InputSharing.Proofs.Frame.Stream
import InputSharing.Proofs.Network.Chronicle
import InputSharing.Proofs.Network.Moves

/-!
# Composed frames and their bytes

A frame that a node composed is kept as its number and its message.  Its bytes are read as the
same number and the same message if the header can say how long the payload is.  So a network
on which frames come to the nodes as bytes goes on like one on which they come as they were
composed: nothing but the queues of the nodes shows the difference.
-/

namespace InputSharing

/-! ## Frames -/

namespace Parcel

/-- The bytes of a composed frame are read as the frame itself is. -/
theorem read_bytes {stamped : Stamped} (fits : stamped.Fits) :
    (raw stamped.bytes).read = (composed stamped.sequence stamped.message).read := by
  have message := Stamped.decode_bytes fits []
  have sequence := Frame.sequence?_bytes stamped []
  rw [List.append_nil] at message sequence
  simp only [read, message, sequence, bind, Except.bind, Option.getD_some]

/-- A composed frame as the bytes that are written at some time, unless its header cannot
say how long it is. -/
def encoded (timestampUs : UInt64) : Parcel → Parcel
  | composed sequence message =>
      let stamped : Stamped := ⟨message, sequence, timestampUs⟩
      if stamped.payload.length < UInt32.size then raw stamped.bytes
      else composed sequence message
  | raw bytes => raw bytes

/-- A frame as its number and its message, if these can be read. -/
def understood (parcel : Parcel) : Parcel :=
  match parcel.read with
  | .ok (sequence, message) => composed sequence message
  | .error _ => parcel

theorem read_understood (parcel : Parcel) : parcel.understood.read = parcel.read := by
  rw [understood]
  split
  · next reads => rw [reads, read]
  · rfl

theorem understood_encoded (parcel : Parcel) (timestampUs : UInt64) :
    (parcel.encoded timestampUs).understood = parcel.understood := by
  cases parcel with
  | raw bytes => rfl
  | composed sequence message =>
      rw [encoded]
      split
      · next fits =>
        rw [understood, read_bytes fits]
        rfl
      · rfl

end Parcel

/-! ## Queues -/

namespace TransportEvent

def map {φ ψ : Type} (change : φ → ψ) : TransportEvent φ → TransportEvent ψ
  | opened session peer => opened session peer
  | frame session carried => frame session (change carried)
  | closed session => closed session

theorem understood_encoded (event : TransportEvent Parcel) (timestampUs : UInt64) :
    (event.map (Parcel.encoded timestampUs)).map Parcel.understood =
      event.map Parcel.understood := by
  cases event with
  | frame session parcel => simp only [map, parcel.understood_encoded]
  | _ => rfl

end TransportEvent

namespace SourceEvent

def mapFrame (change : Parcel → Parcel) : SourceEvent → SourceEvent
  | transport event => transport (event.map change)
  | event => event

theorem understood_encoded (event : SourceEvent) (timestampUs : UInt64) :
    (event.mapFrame (Parcel.encoded timestampUs)).mapFrame Parcel.understood =
      event.mapFrame Parcel.understood := by
  cases event with
  | transport event => simp only [mapFrame, event.understood_encoded]
  | _ => rfl

theorem react_understood {τ : Type} [Transport τ] (now : UInt64) (turn : Source.Turn τ)
    (event : SourceEvent) :
    (event.mapFrame Parcel.understood).react now turn = event.react now turn := by
  match event with
  | transport (.frame session parcel) =>
      simp only [mapFrame, TransportEvent.map, react, Dispatched.dispatch,
        Parcel.read_understood]
  | transport (.opened _ _) | transport (.closed _) | call _ _ | tick => rfl

theorem react_congr {τ : Type} [Transport τ] {event event' : SourceEvent}
    (same : event.mapFrame Parcel.understood = event'.mapFrame Parcel.understood)
    (now : UInt64) (turn : Source.Turn τ) : event.react now turn = event'.react now turn := by
  rw [← react_understood, same, react_understood]

end SourceEvent

namespace SinkEvent

def mapFrame (change : Parcel → Parcel) : SinkEvent → SinkEvent
  | transport event => transport (event.map change)
  | event => event

theorem understood_encoded (event : SinkEvent) (timestampUs : UInt64) :
    (event.mapFrame (Parcel.encoded timestampUs)).mapFrame Parcel.understood =
      event.mapFrame Parcel.understood := by
  cases event with
  | transport event => simp only [mapFrame, event.understood_encoded]
  | _ => rfl

theorem react_understood {τ κ : Type} [Transport τ] [Collector κ] (turn : Sink.Turn τ κ)
    (event : SinkEvent) : (event.mapFrame Parcel.understood).react turn = event.react turn := by
  match event with
  | transport (.frame session parcel) =>
      simp only [mapFrame, TransportEvent.map, react, Dispatched.dispatch,
        Parcel.read_understood]
  | transport (.opened _ _) | transport (.closed _) | captured _ | listen => rfl

theorem react_congr {τ κ : Type} [Transport τ] [Collector κ] {event event' : SinkEvent}
    (same : event.mapFrame Parcel.understood = event'.mapFrame Parcel.understood)
    (turn : Sink.Turn τ κ) : event.react turn = event'.react turn := by
  rw [← react_understood, same, react_understood]

end SinkEvent

namespace Node

/-- A node with other frames in its queues. -/
def mapFrames (change : Parcel → Parcel) (node : Node) : Node :=
  { node with
    sourceQueue := node.sourceQueue.map (SourceEvent.mapFrame change)
    sinkQueue := node.sinkQueue.map (SinkEvent.mapFrame change) }

/-- A node without what waits for it. -/
def cleared (node : Node) : Node :=
  { node with sourceQueue := [], sinkQueue := [] }

/-- Two nodes that differ in the frames in their queues only, and there only in whether these
are bytes. -/
structure Alike (first second : Node) : Prop where
  same : first.cleared = second.cleared
  sourceQueue :
    first.sourceQueue.map (SourceEvent.mapFrame Parcel.understood) =
      second.sourceQueue.map (SourceEvent.mapFrame Parcel.understood)
  sinkQueue :
    first.sinkQueue.map (SinkEvent.mapFrame Parcel.understood) =
      second.sinkQueue.map (SinkEvent.mapFrame Parcel.understood)

namespace Alike

variable {first second : Node}

theorem exists_queues (alike : first.Alike second) :
    ∃ sourceQueue sinkQueue, first = { second with sourceQueue, sinkQueue } := by
  obtain ⟨same, -, -⟩ := alike
  cases first
  cases second
  simp only [cleared, Node.mk.injEq] at same
  obtain ⟨rfl, rfl, rfl, rfl, rfl, rfl, -, -, rfl, rfl, rfl⟩ := same
  exact ⟨_, _, rfl⟩

theorem trans {third : Node} (alike : first.Alike second) (alike' : second.Alike third) :
    first.Alike third where
  same := alike.same.trans alike'.same
  sourceQueue := alike.sourceQueue.trans alike'.sourceQueue
  sinkQueue := alike.sinkQueue.trans alike'.sinkQueue

theorem sourceEvent (alike : first.Alike second) (event : SourceEvent) :
    Alike { first with sourceQueue := first.sourceQueue ++ [event] }
      { second with sourceQueue := second.sourceQueue ++ [event] } where
  same := alike.same
  sourceQueue := by
    simp only [List.map_append]
    rw [alike.sourceQueue]
  sinkQueue := alike.sinkQueue

theorem sinkEvents (alike : first.Alike second) (events : List SinkEvent) :
    Alike { first with sinkQueue := first.sinkQueue ++ events }
      { second with sinkQueue := second.sinkQueue ++ events } where
  same := alike.same
  sourceQueue := alike.sourceQueue
  sinkQueue := by
    simp only [List.map_append]
    rw [alike.sinkQueue]

theorem enqueue (alike : first.Alike second) (event : TransportEvent Parcel) (role : Role) :
    (first.enqueue event role).Alike (second.enqueue event role) := by
  cases role with
  | source => exact alike.sourceEvent (.transport event)
  | sink => exact alike.sinkEvents [.transport event]

end Alike

/-- A node does not notice that the frames that wait for it have become bytes. -/
theorem mapFrames_encoded_alike (node : Node) (timestampUs : UInt64) :
    (node.mapFrames (Parcel.encoded timestampUs)).Alike node where
  same := rfl
  sourceQueue := by
    rw [mapFrames, List.map_map]
    refine List.map_congr_left fun event _ => ?_
    exact SourceEvent.understood_encoded event timestampUs
  sinkQueue := by
    rw [mapFrames, List.map_map]
    refine List.map_congr_left fun event _ => ?_
    exact SinkEvent.understood_encoded event timestampUs

end Node

/-! ## Networks -/

namespace Network

/-- Two networks whose nodes are alike, and which agree in everything else. -/
structure Alike (first second : Network) : Prop where
  same : { first with nodes := ∅ } = { second with nodes := ∅ }
  nodes_rel : ∀ device : DeviceId,
    Option.Rel Node.Alike first.nodes[device]? second.nodes[device]?

/-- A network on which all frames that wait for nodes are bytes, as far as they can be. -/
def encoded (network : Network) : Network :=
  { network with
    nodes := network.nodes.map fun _ node => node.mapFrames (Parcel.encoded network.clock) }

/-- Something happens, and the frames that have come to the nodes come as bytes. -/
def happenEncoded (network : Network) (happening : Happening) : Network :=
  (network.happen happening).encoded

namespace Alike

variable {first second : Network}

theorem exists_nodes (alike : first.Alike second) : ∃ nodes, first = { second with nodes } := by
  obtain ⟨same, -⟩ := alike
  cases first
  cases second
  simp only [Network.mk.injEq] at same
  obtain ⟨rfl, -, rfl, rfl, rfl, rfl⟩ := same
  exact ⟨_, rfl⟩

theorem hub_eq (alike : first.Alike second) : first.hub = second.hub := by
  obtain ⟨table, rfl⟩ := alike.exists_nodes
  rfl

theorem completions_eq (alike : first.Alike second) :
    first.completions = second.completions := by
  obtain ⟨table, rfl⟩ := alike.exists_nodes
  rfl

theorem nodes (alike : first.Alike second) (device : DeviceId) :
    (first.nodes[device]? = none ∧ second.nodes[device]? = none) ∨
      ∃ node other : Node,
        first.nodes[device]? = some node ∧ second.nodes[device]? = some other ∧
          node.Alike other := by
  have rel := alike.nodes_rel device
  generalize first.nodes[device]? = found at rel ⊢
  generalize second.nodes[device]? = found' at rel ⊢
  cases rel with
  | none => exact Or.inl ⟨rfl, rfl⟩
  | some nodes => exact Or.inr ⟨_, _, rfl, rfl, nodes⟩

theorem running? (alike : first.Alike second) (device : DeviceId) :
    (first.running? device = none ∧ second.running? device = none) ∨
      ∃ node other : Node,
        first.running? device = some node ∧ second.running? device = some other ∧
          node.Alike other := by
  simp only [Network.running?]
  rcases alike.nodes device with ⟨unknown, unknown'⟩ | ⟨node, other, found, found', nodes⟩
  · rw [unknown, unknown']
    exact Or.inl ⟨rfl, rfl⟩
  · rw [found, found']
    have running : node.running = other.running := by
      obtain ⟨_, _, rfl⟩ := nodes.exists_queues
      rfl
    cases up : other.running with
    | false =>
        refine Or.inl ⟨?_, ?_⟩
        · rw [Option.filter_some, running, up]
          rfl
        · rw [Option.filter_some, up]
          rfl
    | true =>
        refine Or.inr ⟨node, other, ?_, ?_, nodes⟩
        · rw [Option.filter_some, running, up]
          rfl
        · rw [Option.filter_some, up]
          rfl

/-! ### What keeps networks alike -/

theorem insert (alike : first.Alike second) {node other : Node} (nodes : node.Alike other)
    (device : DeviceId) (hub : Hub Parcel) (completions : List (Completion Grant)) :
    Alike { first with hub, completions, nodes := first.nodes.insert device node }
      { second with hub, completions, nodes := second.nodes.insert device other } := by
  classical
  obtain ⟨table, rfl⟩ := alike.exists_nodes
  refine ⟨rfl, fun tested => ?_⟩
  simp only [Table.getElem?_insert_eq]
  split
  · exact .some nodes
  · exact alike.nodes_rel tested

theorem modifyNode (alike : first.Alike second) (device : DeviceId) {change : Node → Node}
    (keeps : ∀ {node other : Node}, node.Alike other → (change node).Alike (change other)) :
    (first.modifyNode device change).Alike (second.modifyNode device change) := by
  rcases alike.nodes device with ⟨unknown, unknown'⟩ | ⟨node, other, found, found', nodes⟩
  · rw [modifyNode_of_unknown unknown, modifyNode_of_unknown unknown']
    exact alike
  · have inserted := alike.insert (keeps nodes) device first.hub first.completions
    obtain ⟨table, rfl⟩ := alike.exists_nodes
    rw [Network.modifyNode, Network.modifyNode, Table.modify_eq_insert found,
      Table.modify_eq_insert found']
    exact inserted

theorem forward (alike : first.Alike second) (endpoint : Endpoint) :
    (first.forward endpoint).Alike (second.forward endpoint) := by
  rw [Network.forward, Network.forward]
  rcases alike.nodes endpoint.device with
    ⟨unknown, unknown'⟩ | ⟨node, other, found, found', nodes⟩
  · rw [unknown, unknown']
    exact alike
  · rw [found, found']
    obtain ⟨table, rfl⟩ := alike.exists_nodes
    obtain ⟨sourceQueue, sinkQueue, rfl⟩ := nodes.exists_queues
    have box :
        Node.box { other with sourceQueue, sinkQueue } endpoint.role =
          other.box endpoint.role := by
      cases endpoint.role <;> rfl
    dsimp only
    rw [box]
    split
    · exact alike
    · next event hub taken =>
      split
      · exact alike.insert (nodes.enqueue event endpoint.role) endpoint.device hub _
      · exact ⟨rfl, alike.nodes_rel⟩

theorem forwardCaptured (alike : first.Alike second) (device : DeviceId) :
    (first.forwardCaptured device).Alike (second.forwardCaptured device) := by
  refine alike.modifyNode device fun {node other} nodes => ?_
  have same := nodes
  obtain ⟨sourceQueue, sinkQueue, rfl⟩ := nodes.exists_queues
  dsimp only
  split
  · exact same
  · next events hardware more taken =>
    split
    · have waiting := same.sinkEvents (events.map .captured)
      exact ⟨rfl, waiting.sourceQueue, waiting.sinkQueue⟩
    · exact ⟨rfl, same.sourceQueue, same.sinkQueue⟩

/-- A source that takes bytes from its queue does what it does with the composed frame. -/
theorem serveSource (alike : first.Alike second) (device : DeviceId) :
    (first.serveSource device).Alike (second.serveSource device) := by
  rw [Network.serveSource, Network.serveSource]
  rcases alike.nodes device with ⟨unknown, unknown'⟩ | ⟨node, other, found, found', nodes⟩
  · rw [unknown, unknown']
    exact alike
  · rw [found, found']
    obtain ⟨table, rfl⟩ := alike.exists_nodes
    obtain ⟨sourceQueue, sinkQueue, rfl⟩ := nodes.exists_queues
    have queues := nodes.sourceQueue
    dsimp only at queues ⊢
    cases sourceQueue with
    | nil =>
        rw [List.map_nil, eq_comm, List.map_eq_nil_iff] at queues
        rw [queues]
        exact alike
    | cons event rest =>
        obtain ⟨event', rest', queue, equal, more⟩ := List.map_eq_cons_iff.1 queues.symm
        rw [queue]
        dsimp only
        rw [SourceEvent.react_congr equal.symm]
        refine alike.insert ?_ device _ _
        exact ⟨rfl, more.symm, nodes.sinkQueue⟩

theorem sinkTurn (alike : first.Alike second) {node other : Node} (nodes : node.Alike other)
    (device : DeviceId)
    (act : Sink.Turn (Hub.Port Parcel) Hardware → Sink.Turn (Hub.Port Parcel) Hardware) :
    (first.sinkTurn device node act).Alike (second.sinkTurn device other act) := by
  obtain ⟨table, rfl⟩ := alike.exists_nodes
  obtain ⟨sourceQueue, sinkQueue, rfl⟩ := nodes.exists_queues
  refine alike.insert ?_ device _ second.completions
  exact ⟨rfl, nodes.sourceQueue, nodes.sinkQueue⟩

theorem serveSink (alike : first.Alike second) (device : DeviceId) :
    (first.serveSink device).Alike (second.serveSink device) := by
  rw [Network.serveSink, Network.serveSink]
  rcases alike.nodes device with ⟨unknown, unknown'⟩ | ⟨node, other, found, found', nodes⟩
  · rw [unknown, unknown']
    exact alike
  · rw [found, found']
    obtain ⟨sourceQueue, sinkQueue, rfl⟩ := nodes.exists_queues
    have queues := nodes.sinkQueue
    dsimp only at queues ⊢
    cases sinkQueue with
    | nil =>
        rw [List.map_nil, eq_comm, List.map_eq_nil_iff] at queues
        rw [queues]
        exact alike
    | cons event rest =>
        obtain ⟨event', rest', queue, equal, more⟩ := List.map_eq_cons_iff.1 queues.symm
        have reacts :
            (fun turn : Sink.Turn (Hub.Port Parcel) Hardware => event.react turn) =
              fun turn => event'.react turn :=
          funext fun turn => SinkEvent.react_congr equal.symm turn
        rw [queue]
        dsimp only
        rw [reacts]
        refine alike.sinkTurn ?_ device _
        exact ⟨rfl, nodes.sourceQueue, more.symm⟩

theorem flush (alike : first.Alike second) (device : DeviceId) :
    (first.flush device).Alike (second.flush device) := by
  rw [Network.flush, Network.flush]
  rcases alike.nodes device with ⟨unknown, unknown'⟩ | ⟨node, other, found, found', nodes⟩
  · rw [unknown, unknown']
    exact alike
  · rw [found, found']
    exact alike.sinkTurn nodes device _

theorem call (alike : first.Alike second) (device : DeviceId) (ticket : Ticket) (call : Call) :
    (first.call device ticket call).Alike (second.call device ticket call) := by
  rw [Network.call, Network.call]
  rcases alike.running? device with ⟨down, down'⟩ | ⟨node, other, up, up', -⟩
  · rw [down, down']
    obtain ⟨table, rfl⟩ := alike.exists_nodes
    exact ⟨rfl, alike.nodes_rel⟩
  · rw [up, up']
    exact alike.modifyNode device fun nodes => nodes.sourceEvent (.call ticket call)

theorem listen (alike : first.Alike second) (device : DeviceId) :
    (first.listen device).2.Alike (second.listen device).2 := by
  rw [Network.listen, Network.listen]
  rcases alike.running? device with ⟨down, down'⟩ | ⟨node, other, up, up', -⟩
  · rw [down, down']
    exact alike
  · rw [up, up']
    exact alike.modifyNode device fun nodes => nodes.sinkEvents [.listen]

theorem emit (alike : first.Alike second) (device : DeviceId) (events : List InputEvent) :
    (first.emit device events).2.Alike (second.emit device events).2 := by
  rw [Network.emit, Network.emit]
  rcases alike.nodes device with ⟨unknown, unknown'⟩ | ⟨node, other, found, found', nodes⟩
  · rw [unknown, unknown']
    exact alike
  · rw [found, found']
    obtain ⟨table, rfl⟩ := alike.exists_nodes
    obtain ⟨sourceQueue, sinkQueue, rfl⟩ := nodes.exists_queues
    refine alike.insert ?_ device second.hub second.completions
    exact ⟨rfl, nodes.sourceQueue, nodes.sinkQueue⟩

theorem failNextStart (alike : first.Alike second) (device : DeviceId) :
    (first.failNextStart device).Alike (second.failNextStart device) := by
  refine alike.modifyNode device fun {node other} nodes => ?_
  obtain ⟨sourceQueue, sinkQueue, rfl⟩ := nodes.exists_queues
  exact ⟨rfl, nodes.sourceQueue, nodes.sinkQueue⟩

theorem tick (alike : first.Alike second) (device : DeviceId) :
    (first.tick device).Alike (second.tick device) := by
  obtain ⟨table, rfl⟩ := alike.exists_nodes
  refine alike.modifyNode device fun {node other} nodes => ?_
  have waiting := nodes.sourceEvent .tick
  obtain ⟨sourceQueue, sinkQueue, rfl⟩ := nodes.exists_queues
  exact ⟨rfl, waiting.sourceQueue, waiting.sinkQueue⟩

theorem perform (alike : first.Alike second) (move : Move) :
    (first.perform move).Alike (second.perform move) := by
  cases move with
  | call device ticket call => exact alike.call device ticket call
  | listen device => exact alike.listen device
  | forward endpoint => exact alike.forward endpoint
  | forwardCaptured device => exact alike.forwardCaptured device
  | serve endpoint =>
      obtain ⟨device, _ | _⟩ := endpoint
      · exact alike.serveSource device
      · exact alike.serveSink device
  | flush device => exact alike.flush device
  | emit device events => exact alike.emit device events
  | failNextStart device => exact alike.failNextStart device
  | tick device => exact alike.tick device
  | pass ms =>
      obtain ⟨table, rfl⟩ := alike.exists_nodes
      exact ⟨rfl, alike.nodes_rel⟩
  | setClock time =>
      obtain ⟨table, rfl⟩ := alike.exists_nodes
      exact ⟨rfl, alike.nodes_rel⟩

theorem happen (alike : first.Alike second) (happening : Happening) :
    (first.happen happening).Alike (second.happen happening) := by
  cases happening with
  | move move => exact alike.perform move
  | sever session =>
      obtain ⟨table, rfl⟩ := alike.exists_nodes
      exact ⟨rfl, alike.nodes_rel⟩

theorem encoded (alike : first.Alike second) : first.encoded.Alike second where
  same := alike.same
  nodes_rel := by
    intro device
    rw [Network.encoded, Std.ExtTreeMap.getElem?_map]
    rcases alike.nodes device with ⟨unknown, unknown'⟩ | ⟨node, other, found, found', nodes⟩
    · rw [unknown, unknown']
      exact .none
    · rw [found, found']
      exact .some ((node.mapFrames_encoded_alike first.clock).trans nodes)

end Alike

theorem Alike.refl (network : Network) : network.Alike network where
  same := rfl
  nodes_rel := by
    intro device
    cases network.nodes[device]? with
    | none => exact .none
    | some node => exact .some ⟨rfl, rfl, rfl⟩

theorem foldl_happenEncoded_alike {first second : Network} (alike : first.Alike second)
    (happenings : List Happening) :
    (happenings.foldl happenEncoded first).Alike (happenings.foldl happen second) := by
  induction happenings generalizing first second with
  | nil => exact alike
  | cons happening rest inductionHypothesis =>
      exact inductionHypothesis (alike.happen happening).encoded

/-- Whether the frames come to the nodes as bytes or as they were composed, the same is sent,
the same calls end, and the nodes come to the same states. -/
theorem run_encoded_agrees (network : Network) (happenings : List Happening) :
    let onBytes := happenings.foldl happenEncoded network
    let onFrames := happenings.foldl happen network
    onBytes.hub = onFrames.hub ∧ onBytes.completions = onFrames.completions ∧
      ∀ device : DeviceId,
        onBytes.nodes[device]?.map Node.cleared = onFrames.nodes[device]?.map Node.cleared := by
  have alike := foldl_happenEncoded_alike (Alike.refl network) happenings
  refine ⟨alike.hub_eq, alike.completions_eq, fun device => ?_⟩
  rcases alike.nodes device with ⟨unknown, unknown'⟩ | ⟨node, other, found, found', nodes⟩
  · rw [unknown, unknown']
  · rw [found, found', Option.map_some, Option.map_some, nodes.same]

end Network

end InputSharing
