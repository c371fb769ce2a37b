import InputSharing.Proofs.Network.Tickets

/-!
# Networks on which nothing has happened

While nodes are set up nothing comes to wait, nobody knows of a channel, and no
call is made.  An empty scene depicts such a network.
-/

namespace InputSharing

/-- A node has been set up and has done nothing. -/
structure Node.Unused (node : Node) (hub : Hub Parcel) (device : DeviceId) : Prop where
  box_eq : ∀ role, hub.directory[(⟨device, role⟩ : Endpoint)]? = some (node.box role)
  running : node.running = true
  source_eq : node.source = { device }
  registry_eq : node.sink.registry = {}
  sourceQueue_eq : node.sourceQueue = []
  sinkQueue_eq : node.sinkQueue = []

namespace Network

/-- Nodes have been set up on a network, and nothing else has happened. -/
structure Unused (network : Network) : Prop where
  blank : network.hub.Blank
  directory_iff :
    ∀ endpoint, endpoint ∈ network.hub.directory ↔ endpoint.device ∈ network.nodes
  unused :
    ∀ {device : DeviceId} {node : Node}, network.nodes[device]? = some node →
      node.Unused network.hub device
  completions_eq : network.completions = []

namespace Unused

variable {network : Network}

theorem empty (clock : UInt64) : ({ clock } : Network).Unused := by
  refine ⟨.empty, ?_, ?_, rfl⟩
  · intro endpoint
    constructor
    · intro listed
      exact absurd listed Std.ExtTreeMap.not_mem_empty
    · intro listed
      exact absurd listed Std.ExtTreeMap.not_mem_empty
  · intro device node found
    change (∅ : Table DeviceId Node)[device]? = _ at found
    rw [Std.ExtTreeMap.getElem?_empty] at found
    cases found

theorem spawn (unused : network.Unused) (setup : NodeSetup) : (network.spawn setup).Unused := by
  let sourceEnd : Endpoint := ⟨setup.device, .source⟩
  let sinkEnd : Endpoint := ⟨setup.device, .sink⟩
  let first := (network.hub.register sourceEnd).2
  let second := (first.register sinkEnd).2
  have directory (endpoint : Endpoint) :
      second.directory[endpoint]? =
        if sinkEnd = endpoint then some first.mailboxes.length
        else if sourceEnd = endpoint then some network.hub.mailboxes.length
        else network.hub.directory[endpoint]? := by
    change ((network.hub.directory.insert sourceEnd _).insert sinkEnd _)[endpoint]? = _
    rw [Table.getElem?_insert_eq, Table.getElem?_insert_eq]
  have ends {endpoint : Endpoint} (other : endpoint.device ≠ setup.device) :
      second.directory[endpoint]? = network.hub.directory[endpoint]? := by
    rw [directory, if_neg, if_neg]
    · intro same
      exact other (congrArg Endpoint.device same).symm
    · intro same
      exact other (congrArg Endpoint.device same).symm
  refine ⟨(unused.blank.register sourceEnd).register sinkEnd, ?_, ?_, unused.completions_eq⟩
  · intro endpoint
    obtain ⟨device, role⟩ := endpoint
    change (⟨device, role⟩ : Endpoint) ∈ second.directory ↔
      device ∈ network.nodes.insert setup.device _
    by_cases same : device = setup.device
    · rw [same]
      refine ⟨fun _ => Std.ExtTreeMap.mem_insert_self, fun _ => ?_⟩
      have registered := directory ⟨setup.device, role⟩
      cases role with
      | source =>
          rw [if_neg (by simp [sinkEnd]), if_pos rfl] at registered
          exact Table.mem_of_getElem? registered
      | sink =>
          rw [if_pos rfl] at registered
          exact Table.mem_of_getElem? registered
    · rw [Table.mem_iff_exists, Table.mem_iff_exists, ends same, Table.getElem?_insert_eq,
        if_neg fun equal => same equal.symm, ← Table.mem_iff_exists, ← Table.mem_iff_exists]
      exact unused.directory_iff ⟨device, role⟩
  · intro device node found
    change (network.nodes.insert setup.device _)[device]? = _ at found
    rw [Table.getElem?_insert_eq] at found
    by_cases same : setup.device = device
    · rw [if_pos same] at found
      rw [← same, ← Option.some.inj found]
      refine ⟨?_, rfl, rfl, rfl, rfl, rfl⟩
      intro role
      change second.directory[_]? = _
      rw [directory]
      cases role with
      | source =>
          rw [if_neg (by simp [sinkEnd]), if_pos rfl]
          rfl
      | sink =>
          rw [if_pos rfl]
          rfl
    · rw [if_neg same] at found
      obtain ⟨boxes, running, source, registry, sourceQueue, sinkQueue⟩ := unused.unused found
      refine ⟨?_, running, source, registry, sourceQueue, sinkQueue⟩
      intro role
      change second.directory[_]? = _
      rw [ends fun equal => same equal.symm]
      exact boxes role

theorem foldl_spawn (unused : network.Unused) (setups : List NodeSetup) :
    (setups.foldl Network.spawn network).Unused := by
  induction setups generalizing network with
  | nil =>
      exact unused
  | cons first rest inductionHypothesis =>
      exact inductionHypothesis (unused.spawn first)

/-- Nothing waits for a node. -/
theorem held_eq (unused : network.Unused) (endpoint : Endpoint) : network.held endpoint = [] := by
  rw [held]
  split
  · rfl
  · next node found =>
    have node := unused.unused found
    cases endpoint.role with
    | source =>
      rw [Node.received, node.sourceQueue_eq]
      rfl
    | sink =>
      rw [Node.received, node.sinkQueue_eq]
      rfl

end Unused

/-- A node is there already, or it has just been set up. -/
theorem found_foldl_spawn {network : Network} {setups : List NodeSetup} {device : DeviceId}
    {node : Node} (found : (setups.foldl Network.spawn network).nodes[device]? = some node) :
    network.nodes[device]? = some node ∨
      ∃ setup ∈ setups,
        node.sink = Sink.start setup.device setup.allowList setup.batchMax ∧
          node.injector = {} := by
  induction setups generalizing network with
  | nil =>
      exact Or.inl found
  | cons first rest inductionHypothesis =>
      rcases inductionHypothesis found with before | ⟨setup, listed, sink, injector⟩
      · change (network.nodes.insert first.device _)[device]? = some node at before
        rw [Table.getElem?_insert_eq] at before
        split at before
        · rw [← Option.some.inj before]
          exact Or.inr ⟨first, List.mem_cons_self, rfl, rfl⟩
        · exact Or.inl before
      · exact Or.inr ⟨setup, List.mem_cons_of_mem _ listed, sink, injector⟩

end Network

namespace Scene

/-- Nobody knows or waits for anything. -/
def empty (network : Network) : Scene where
  links _ := none
  last := ⟨0⟩
  registered device := device ∈ network.nodes
  sources _ := {}
  sinks _ _ := False
  mail _ := []
  owner _ _ := none

variable {network : Network}

theorem consistent_empty : (empty network).Consistent none [] where
  wired := by
    refine ⟨nofun, nofun, nofun, ?_, ?_, nofun, nofun, nofun, nofun, nofun, nofun⟩
    · intro device session channel found
      cases (Std.ExtTreeMap.getElem?_empty).symm.trans found
    · intro device remote session found
      cases (Std.ExtTreeMap.getElem?_empty).symm.trans found
  orderly := nofun
  accounted := by
    have noToken {token : RelayToken} {correlation : Correlation}
        (found : (∅ : Table RelayToken Correlation)[token]? = some correlation) : False := by
      cases (Std.ExtTreeMap.getElem?_empty).symm.trans found
    refine ⟨?_, fun found => (noToken found).elim, fun found => (noToken found).elim, ?_⟩
    · intro device
      refine ⟨List.nodup_nil, nofun, fun found => (noToken found).elim, ?_⟩
      intro token listed
      exact absurd listed Std.ExtTreeMap.not_mem_empty
    · intro burden _
      cases burden with
      | lane session via request owner => rfl
      | relay caller relayer sink request owner =>
          have noTokens : (∅ : Table RelayToken Correlation).toList = [] :=
            List.isEmpty_iff.1 Std.ExtTreeMap.isEmpty_toList
          change
            0 + ((∅ : Table RelayToken Correlation).toList.filterMap _).count _ =
              0 + ((∅ : Table RelayToken Correlation).toList.filterMap _).count _ + 0
          rw [noTokens]
          rfl

/-- An empty scene depicts a network on which nothing has happened. -/
theorem depicts_empty (unused : network.Unused) : (empty network).Depicts { network } := by
  refine ⟨unused.blank.sound, unused.directory_iff, ?_, fun _ => Iff.rfl, ?_,
    unused.blank.lastSession_eq, ?_, fun _ => rfl⟩
  · intro device node found
    obtain ⟨boxes, running, source, registry, _, _⟩ := unused.unused found
    refine ⟨boxes, running, ?_, ?_, ?_⟩
    · rw [source]
    · rw [source]
      rfl
    · intro session
      rw [registry]
      exact ⟨False.elim, fun listed => absurd listed Std.ExtTreeMap.not_mem_empty⟩
  · intro session
    change network.hub.links[session]? = none
    rw [unused.blank.links_eq]
    exact Std.ExtTreeMap.getElem?_empty
  · intro endpoint
    change [] = network.held endpoint ++ network.hub.mail endpoint
    rw [unused.held_eq, unused.blank.mail_eq]
    rfl

end Scene

/-- No call has been made where nothing has happened. -/
theorem Network.Unused.tickets_eq {network : Network} (unused : network.Unused) :
    network.tickets = [] := by
  rw [Network.tickets, unused.completions_eq]
  change network.nodes.toList.flatMap _ = []
  rw [List.flatMap_eq_nil_iff]
  rintro ⟨device, node⟩ listed
  obtain ⟨_, _, source, _, queue, _⟩ := unused.unused (Table.mem_toList.1 listed)
  change node.source.pending.tickets ++ _ = []
  rw [source, queue]
  rfl

end InputSharing
