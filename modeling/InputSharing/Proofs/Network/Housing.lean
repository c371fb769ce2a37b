import InputSharing.Proofs.Network.Reactions
import InputSharing.Proofs.Network.SinkDelivery
import InputSharing.Proofs.Network.SourceDelivery

/-!
# Views of networks

A network and the ways that there have been make a view.  Whatever happens on a
network concerns one node at most, so the view after it is the view of before but for
the hub, what is held for this node, and what the node knows.
-/

namespace InputSharing

/-- A device that refuses nothing keeps everything that is injected into it. -/
theorem Injector.injectAll_of_willing {injector : Injector} (willing : injector.failing = ∅)
    (events : List (DeviceId × InputEvent)) :
    injector.injectAll events =
      { injector with injected := injector.injected ++ events } := by
  induction events generalizing injector with
  | nil =>
      rw [List.append_nil]
      rfl
  | cons entry rest inductionHypothesis =>
      let grown : Injector := { injector with injected := injector.injected ++ [entry] }
      have taken : (injector.inject entry.1 entry.2).2 = grown := by
        rw [inject, if_neg]
        rw [willing]
        exact Std.ExtTreeSet.not_mem_empty
      have others : grown.injectAll rest = { grown with injected := grown.injected ++ rest } :=
        inductionHypothesis willing
      change (injector.inject entry.1 entry.2).2.injectAll rest = _
      rw [taken, others, List.append_assoc]
      rfl

namespace Network

/-- What a network shows. -/
def view (network : Network) (ways : SessionId → Option Link) : View where
  ways
  hub := network.hub
  held := network.held
  sources device := (network.nodes[device]?.map Node.source).getD { device }
  sinks device := (network.nodes[device]?.map Node.sink).getD (Sink.start device [] 1)

/-- Every node runs, has its mailboxes, and its sink keeps books that agree.  Nothing
that is injected is refused. -/
structure Housed (network : Network) : Prop where
  directory_iff :
    ∀ endpoint, endpoint ∈ network.hub.directory ↔ endpoint.device ∈ network.nodes
  boxes :
    ∀ {device node}, network.nodes[device]? = some node → ∀ role,
      network.hub.directory[(⟨device, role⟩ : Endpoint)]? = some (node.box role)
  running : network.AllRun
  willing :
    ∀ {device : DeviceId} {node : Node}, network.nodes[device]? = some node →
      node.injector.failing = ∅
  books :
    ∀ {device : DeviceId} {node : Node}, network.nodes[device]? = some node → Sink.Books node.sink

section Views

variable {network after : Network} {device : DeviceId} {old new : Node}
  {ways : SessionId → Option Link}

theorem sources_of_node (found : network.nodes[device]? = some old)
    (ways : SessionId → Option Link) :
    (network.view ways).sources device = old.source := by
  simp [view, found]

theorem sinks_of_node (found : network.nodes[device]? = some old)
    (ways : SessionId → Option Link) :
    (network.view ways).sinks device = old.sink := by
  simp [view, found]

theorem held_of_insert (nodes : after.nodes = network.nodes.insert device new) :
    after.held = network.heldWith device new := by
  funext endpoint
  rw [held, heldWith, nodes, Table.getElem?_insert_eq]
  by_cases here : endpoint.device = device
  · rw [if_pos here.symm, if_pos here]
  · rw [if_neg fun same => here same.symm, if_neg here, held]

/-- One node has changed. -/
theorem view_of_insert (nodes : after.nodes = network.nodes.insert device new)
    (ways : SessionId → Option Link) :
    after.view ways =
      { ways
        hub := after.hub
        held := network.heldWith device new
        sources := Function.update (network.view ways).sources device new.source
        sinks := Function.update (network.view ways).sinks device new.sink } := by
  rw [view, held_of_insert nodes]
  congr 1
  · funext tested
    rw [nodes, Table.getElem?_insert_eq]
    by_cases same : tested = device
    · subst same
      simp
    · rw [if_neg fun equal => same equal.symm, Function.update_of_ne same]
      rfl
  · funext tested
    rw [nodes, Table.getElem?_insert_eq]
    by_cases same : tested = device
    · subst same
      simp
    · rw [if_neg fun equal => same equal.symm, Function.update_of_ne same]
      rfl

/-- An event has been taken from a queue. -/
theorem view_take {endpoint : Endpoint} {left : List (TransportEvent Parcel)}
    (held :
      ∀ tested,
        network.heldWith device new tested =
          if tested = endpoint then left else network.held tested) :
    { network.view ways with held := network.heldWith device new } =
      (network.view ways).take endpoint left := by
  have taken : network.heldWith device new = Function.update network.held endpoint left := by
    funext tested
    rw [held, Function.update_apply]
  rw [taken]
  rfl

/-- Nothing has changed that a view shows. -/
theorem view_of_same (hub : after.hub = network.hub) (nodes : after.nodes = network.nodes) :
    after.view ways = network.view ways := by
  have held : after.held = network.held := by
    funext endpoint
    rw [Network.held, Network.held, nodes]
  rw [view, view, hub, nodes, held]

/-- The same of a change to a node. -/
theorem view_of_alike (found : network.nodes[device]? = some old)
    (hub : after.hub = network.hub) (nodes : after.nodes = network.nodes.insert device new)
    (source : new.source = old.source) (sink : new.sink = old.sink)
    (received : ∀ role, new.received role = old.received role) :
    after.view ways = network.view ways := by
  rw [view_of_insert nodes, hub, heldWith_of_received found received, source, sink,
    ← sources_of_node found ways, ← sinks_of_node found ways,
    Function.update_eq_self, Function.update_eq_self]
  rfl

/-- The view of a source's reaction is that of the network after it. -/
theorem view_of_source (ways : SessionId → Option Link) {base view : View}
    {turn : Source.Turn (Hub.Port Parcel)}
    (posed : turn.Posed base device view) (found : network.nodes[device]? = some old)
    (nodes : after.nodes = network.nodes.insert device new) (hub : after.hub = turn.line.hub)
    (source : new.source = turn.source) (sink : new.sink = old.sink)
    (held : base.held = network.heldWith device new)
    (sources : base.sources = (network.view ways).sources)
    (sinks : base.sinks = (network.view ways).sinks) : after.view base.ways = view := by
  rw [view_of_insert nodes]
  ext1
  · exact posed.ways_eq.symm
  · exact hub.trans posed.hub_eq
  · exact held.symm.trans posed.held_eq.symm
  · funext tested
    dsimp only
    by_cases same : tested = device
    · subst same
      rw [Function.update_self, source, posed.source_eq]
    · rw [Function.update_of_ne same, posed.others_eq same, sources]
      rfl
  · rw [posed.sinks_eq, sinks, sink, ← sinks_of_node found ways]
    exact Function.update_eq_self ..

/-- The view of a sink's reaction is that of the network after it. -/
theorem view_of_sink (ways : SessionId → Option Link) {base view : View}
    {turn : Sink.Turn (Hub.Port Parcel) Hardware}
    (posed : turn.Posed base device view) (found : network.nodes[device]? = some old)
    (nodes : after.nodes = network.nodes.insert device new) (hub : after.hub = turn.line.hub)
    (source : new.source = old.source) (sink : new.sink = turn.sink)
    (held : base.held = network.heldWith device new)
    (sources : base.sources = (network.view ways).sources)
    (sinks : base.sinks = (network.view ways).sinks) : after.view base.ways = view := by
  rw [view_of_insert nodes]
  ext1
  · exact posed.ways_eq.symm
  · exact hub.trans posed.hub_eq
  · exact held.symm.trans posed.held_eq.symm
  · rw [posed.sources_eq, sources, source, ← sources_of_node found ways]
    exact Function.update_eq_self ..
  · funext tested
    dsimp only
    by_cases same : tested = device
    · subst same
      rw [Function.update_self, sink, posed.sink_eq]
    · rw [Function.update_of_ne same, posed.others_eq same, sinks]
      rfl

end Views

namespace Housed

variable {network after : Network} {device : DeviceId} {old new : Node}

/-- One node has changed, and it is still there. -/
theorem of_insert (housed : network.Housed) (found : network.nodes[device]? = some old)
    (nodes : after.nodes = network.nodes.insert device new)
    (directory : after.hub.directory = network.hub.directory)
    (boxes : ∀ role, new.box role = old.box role) (running : new.running = old.running)
    (willing : new.injector.failing = old.injector.failing) (books : Sink.Books new.sink) :
    after.Housed := by
  have known {tested : DeviceId} {node : Node} (there : after.nodes[tested]? = some node) :
      tested = device ∧ node = new ∨ network.nodes[tested]? = some node := by
    rw [nodes, Table.getElem?_insert_eq] at there
    split at there
    · next same => exact Or.inl ⟨same.symm, (Option.some.inj there).symm⟩
    · exact Or.inr there
  refine ⟨?_, ?_, ?_, ?_, ?_⟩
  · intro endpoint
    rw [directory, nodes, Std.ExtTreeMap.mem_insert, Std.compare_eq_iff_eq]
    refine (housed.directory_iff endpoint).trans ⟨Or.inr, ?_⟩
    rintro (same | there)
    · exact same ▸ Table.mem_of_getElem? found
    · exact there
  · intro tested node there role
    rw [directory]
    rcases known there with ⟨rfl, rfl⟩ | before
    · rw [boxes]
      exact housed.boxes found role
    · exact housed.boxes before role
  · intro tested node there
    rcases known there with ⟨rfl, rfl⟩ | before
    · exact running.trans (housed.running found)
    · exact housed.running before
  · intro tested node there
    rcases known there with ⟨rfl, rfl⟩ | before
    · exact willing.trans (housed.willing found)
    · exact housed.willing before
  · intro tested node there
    rcases known there with ⟨rfl, rfl⟩ | before
    · exact books
    · exact housed.books before

theorem of_same (housed : network.Housed)
    (directory : after.hub.directory = network.hub.directory)
    (nodes : after.nodes = network.nodes) : after.Housed := by
  obtain ⟨directory_iff, boxes, running, willing, books⟩ := housed
  refine ⟨?_, ?_, ?_, ?_, ?_⟩
  · rw [directory, nodes]
    exact directory_iff
  · rw [directory, nodes]
    exact boxes
  · rw [AllRun, nodes]
    exact running
  · rw [nodes]
    exact willing
  · rw [nodes]
    exact books

theorem sinks (housed : network.Housed) (ways : SessionId → Option Link) (device : DeviceId) :
    Sink.Books ((network.view ways).sinks device) := by
  cases found : network.nodes[device]? with
  | none =>
      have absent : (network.view ways).sinks device = Sink.start device [] 1 := by
        simp [view, found]
      rw [absent]
      exact Sink.Books.start device [] 1
  | some node =>
      rw [sinks_of_node found]
      exact housed.books found

end Housed

end Network

/-- No sink knows a channel that has not been opened yet. -/
theorem View.Charted.unused {view : View} (charted : view.Charted) {device : DeviceId}
    (books : Sink.Books (view.sinks device)) {session : SessionId}
    (unborn : view.ways session = none) :
    (view.sinks device).aside session = [] ∧ session ∉ (view.sinks device).switches := by
  have switches : session ∉ (view.sinks device).switches := by
    intro listed
    obtain ⟨switch, found⟩ := (Table.mem_iff_exists _ _).1 listed
    obtain ⟨channel, entered, _⟩ :=
      Option.map_eq_some_iff.1 (books.peer_of_switch session switch found)
    obtain ⟨link, way, _⟩ := charted.sinks device entered
    rw [unborn] at way
    cases way
  refine ⟨?_, switches⟩
  have absent : session ∉ (view.sinks device).outbox := fun listed =>
    switches (books.switch_of_outbox session listed)
  rw [Sink.aside, Std.ExtTreeMap.getElem?_eq_none absent]
  rfl

end InputSharing
