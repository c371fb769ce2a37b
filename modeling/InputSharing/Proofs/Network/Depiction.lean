import InputSharing.Proofs.Network.Stage

/-!
# Scenes of traces

A scene depicts a trace when it shows the links of its network, what each node
knows, and the events on their way with what they are put down to.  A move
concerns one node at most, so it leads from one scene to another like a reaction
of that node.
-/

namespace InputSharing

namespace Network

/-- The events of the transport that wait in the queue of one half of a node. -/
def held (network : Network) (endpoint : Endpoint) : List (TransportEvent Parcel) :=
  match network.nodes[endpoint.device]? with
  | none => []
  | some node => node.received endpoint.role

/-- The same with a node in another state. -/
def heldWith (network : Network) (device : DeviceId) (node : Node) (endpoint : Endpoint) :
    List (TransportEvent Parcel) :=
  if endpoint.device = device then node.received endpoint.role else network.held endpoint

/-- Nobody but one node has changed. -/
structure Changes (before after : Network) (device : DeviceId) (old new : Node) : Prop where
  found : before.nodes[device]? = some old
  nodes_eq : after.nodes = before.nodes.insert device new
  boxes_eq : ∀ role, new.box role = old.box role
  running_eq : new.running = old.running
  device_eq : new.source.device = old.source.device

namespace Changes

variable {before after : Network} {device : DeviceId} {old new : Node}

theorem nodes_self (changes : Changes before after device old new) :
    after.nodes[device]? = some new := by
  rw [changes.nodes_eq, Table.getElem?_insert_eq, if_pos rfl]

theorem nodes_of_ne (changes : Changes before after device old new) {other : DeviceId}
    (different : other ≠ device) : after.nodes[other]? = before.nodes[other]? := by
  rw [changes.nodes_eq, Table.getElem?_insert_eq, if_neg different.symm]

theorem mem_iff (changes : Changes before after device old new) (tested : DeviceId) :
    tested ∈ after.nodes ↔ tested ∈ before.nodes := by
  rw [changes.nodes_eq, Std.ExtTreeMap.mem_insert]
  constructor
  · rintro (same | old)
    · rw [← Std.LawfulEqCmp.eq_of_compare same]
      exact Table.mem_of_getElem? changes.found
    · exact old
  · exact Or.inr

theorem held_eq (changes : Changes before after device old new) :
    after.held = before.heldWith device new := by
  funext endpoint
  rw [held, heldWith]
  by_cases here : endpoint.device = device
  · rw [if_pos here, here, changes.nodes_self]
  · rw [if_neg here, changes.nodes_of_ne here]
    rfl

end Changes

theorem held_of_node {network : Network} {device : DeviceId} {node : Node}
    (found : network.nodes[device]? = some node) (role : Role) :
    network.held ⟨device, role⟩ = node.received role := by
  rw [held, found]

theorem heldWith_of_received {network : Network} {device : DeviceId} {old new : Node}
    (found : network.nodes[device]? = some old)
    (received : ∀ role, new.received role = old.received role) :
    network.heldWith device new = network.held := by
  funext endpoint
  rw [heldWith]
  split
  · next here => rw [received, held, here, found]
  · rfl

/-- A stream is what is held by a node and what waits on the hub. -/
theorem stream_eq {network : Network}
    (directory_iff :
      ∀ endpoint, endpoint ∈ network.hub.directory ↔ endpoint.device ∈ network.nodes)
    (boxes :
      ∀ {device node}, network.nodes[device]? = some node → ∀ role,
        network.hub.directory[(⟨device, role⟩ : Endpoint)]? = some (node.box role))
    (endpoint : Endpoint) :
    network.stream endpoint = network.held endpoint ++ network.hub.mail endpoint := by
  rw [stream, held]
  cases found : network.nodes[endpoint.device]? with
  | none =>
      have absent : endpoint ∉ network.hub.directory := by
        intro known
        exact Table.not_mem_of_getElem? found ((directory_iff endpoint).1 known)
      rw [Hub.mail, Std.ExtTreeMap.getElem?_eq_none absent]
      rfl
  | some node => rw [Hub.mail_of_box (boxes found endpoint.role)]

end Network

namespace Scene

/-- A scene shows what a node knows. -/
structure Draws (scene : Scene) (hub : Hub Parcel) (device : DeviceId) (node : Node) : Prop where
  box_eq : ∀ role, hub.directory[(⟨device, role⟩ : Endpoint)]? = some (node.box role)
  running : node.running = true
  named : node.source.device = device
  standing_eq : scene.sources device = node.source.standing
  knows_iff : ∀ session, scene.sinks device session ↔ session ∈ node.sink.registry.bySession

structure Depicts (scene : Scene) (trace : Trace) : Prop where
  sound : trace.network.hub.Sound
  directory_iff :
    ∀ endpoint, endpoint ∈ trace.network.hub.directory ↔ endpoint.device ∈ trace.network.nodes
  draws :
    ∀ {device node}, trace.network.nodes[device]? = some node →
      scene.Draws trace.network.hub device node
  registered_iff : ∀ device, scene.registered device ↔ device ∈ trace.network.nodes
  links_eq : ∀ session, trace.network.hub.links[session]? = scene.links session
  last_eq : trace.network.hub.lastSession = scene.last
  events_eq :
    ∀ endpoint,
      (scene.mail endpoint).map Letter.event =
        trace.network.held endpoint ++ trace.network.hub.mail endpoint
  causes_eq : ∀ endpoint, (scene.mail endpoint).map Letter.cause = trace.origins endpoint

namespace Depicts

variable {scene later : Scene} {trace : Trace}

/-! ## Moves that send nothing -/

/-- What has nothing to do with the hub or with what waits changes no scene. -/
theorem idle (depicts : scene.Depicts trace) {move : Move}
    (noEvent : trace.network.takes? move = none)
    (hub : (trace.network.perform move).hub = trace.network.hub)
    (drawn :
      ∀ {device node}, (trace.network.perform move).nodes[device]? = some node →
        scene.Draws trace.network.hub device node)
    (members :
      ∀ device, device ∈ (trace.network.perform move).nodes ↔ device ∈ trace.network.nodes)
    (held : (trace.network.perform move).held = trace.network.held) :
    scene.Depicts (trace.perform move) := by
  have directory_iff (endpoint : Endpoint) :
      endpoint ∈ (trace.network.perform move).hub.directory ↔
        endpoint.device ∈ (trace.network.perform move).nodes := by
    rw [hub, members]
    exact depicts.directory_iff endpoint
  have draws {device : DeviceId} {node : Node}
      (found : (trace.network.perform move).nodes[device]? = some node) :
      scene.Draws (trace.network.perform move).hub device node := by
    rw [hub]
    exact drawn found
  have events (endpoint : Endpoint) :
      (scene.mail endpoint).map Letter.event =
        (trace.network.perform move).held endpoint ++
          (trace.network.perform move).hub.mail endpoint := by
    rw [hub, held]
    exact depicts.events_eq endpoint
  refine ⟨?_, directory_iff, draws, ?_, ?_, ?_, events, ?_⟩
  · change (trace.network.perform move).hub.Sound
    rw [hub]
    exact depicts.sound
  · intro device
    exact (depicts.registered_iff device).trans (members device).symm
  · intro session
    change (trace.network.perform move).hub.links[session]? = _
    rw [hub]
    exact depicts.links_eq session
  · change (trace.network.perform move).hub.lastSession = _
    rw [hub]
    exact depicts.last_eq
  · intro endpoint
    have kept : trace.kept move endpoint = (scene.mail endpoint).map Letter.cause := by
      rw [Trace.kept_of_takes_none noEvent, depicts.causes_eq]
    have stream := Network.stream_eq directory_iff (fun found => (draws found).box_eq) endpoint
    rw [← events] at stream
    have nothing :
        ((trace.network.perform move).stream endpoint).length -
          (trace.kept move endpoint).length = 0 := by
      rw [stream, kept, List.length_map, List.length_map, Nat.sub_self]
    rw [Trace.perform]
    dsimp only
    rw [nothing, ← kept]
    cases trace.cause? move with
    | none => rfl
    | some cause => exact (List.append_nil _).symm

/-- Nothing that waits and no node has changed. -/
theorem still (depicts : scene.Depicts trace) {move : Move}
    (noEvent : trace.network.takes? move = none)
    (hub : (trace.network.perform move).hub = trace.network.hub)
    (nodes : (trace.network.perform move).nodes = trace.network.nodes) :
    scene.Depicts (trace.perform move) := by
  apply depicts.idle noEvent hub
  · intro device node found
    rw [nodes] at found
    exact depicts.draws found
  · intro device
    rw [nodes]
  · funext endpoint
    rw [Network.held, Network.held, nodes]

/-- The same of a move that changes a node. -/
theorem change (depicts : scene.Depicts trace) {move : Move} {device : DeviceId}
    {old new : Node} (noEvent : trace.network.takes? move = none)
    (hub : (trace.network.perform move).hub = trace.network.hub)
    (changes : trace.network.Changes (trace.network.perform move) device old new)
    (source : new.source = old.source) (registry : new.sink.registry = old.sink.registry)
    (received : ∀ role, new.received role = old.received role) :
    scene.Depicts (trace.perform move) := by
  have drawn := depicts.draws changes.found
  apply depicts.idle noEvent hub
  · intro tested node found
    by_cases same : tested = device
    · rw [same, changes.nodes_self] at found
      rw [same, ← Option.some.inj found]
      refine ⟨?_, changes.running_eq.trans drawn.running, ?_, ?_, ?_⟩
      · intro role
        rw [changes.boxes_eq]
        exact drawn.box_eq role
      · rw [source]
        exact drawn.named
      · rw [source]
        exact drawn.standing_eq
      · rw [registry]
        exact drawn.knows_iff
    · rw [changes.nodes_of_ne same] at found
      exact depicts.draws found
  · exact changes.mem_iff
  · rw [changes.held_eq]
    exact Network.heldWith_of_received changes.found received

/-! ## Reactions -/

section Reactions

variable {setting : Setting}

/-- A reaction that does not begin with an event. -/
theorem shows (depicts : scene.Depicts trace)
    (directory : setting.directory = trace.network.hub.directory)
    (held : setting.held = trace.network.held) (origins : setting.origins = trace.origins) :
    scene.Shows setting trace.network.hub where
  sound := depicts.sound
  links_eq := depicts.links_eq
  last_eq := depicts.last_eq
  directory_eq := directory.symm
  registered_iff := by
    intro endpoint
    exact (depicts.directory_iff endpoint).trans (depicts.registered_iff endpoint.device).symm
  events_eq := by
    rw [held]
    exact depicts.events_eq
  causes_eq := by
    intro endpoint
    refine ⟨0, ?_⟩
    rw [origins, List.replicate_zero, List.append_nil]
    exact depicts.causes_eq endpoint

/-- A reaction that begins with an event. -/
theorem shows_take (depicts : scene.Depicts trace) {endpoint : Endpoint}
    {event : TransportEvent Parcel} {left : List (TransportEvent Parcel)}
    (first : trace.network.held endpoint = event :: left)
    (directory : setting.directory = trace.network.hub.directory)
    (held :
      ∀ tested,
        setting.held tested = if tested = endpoint then left else trace.network.held tested)
    (origins :
      ∀ tested,
        setting.origins tested =
          if tested = endpoint then (trace.origins tested).tail else trace.origins tested) :
    ∃ letter rest, scene.mail endpoint = letter :: rest ∧ letter.event = event ∧
      (trace.origins endpoint).head? = some letter.cause ∧
      (scene.take endpoint).Shows setting trace.network.hub := by
  have events := depicts.events_eq endpoint
  have causes := depicts.causes_eq endpoint
  rw [first, List.cons_append] at events
  obtain ⟨letter, rest, waiting, isEvent, later⟩ := List.map_eq_cons_iff.1 events
  rw [waiting, List.map_cons] at causes
  refine ⟨letter, rest, waiting, isEvent, ?_, ?_⟩
  · rw [← causes]
    rfl
  · have whole :
        scene.Shows
          { setting with
            directory := trace.network.hub.directory
            held := trace.network.held
            origins := trace.origins }
          trace.network.hub :=
      depicts.shows rfl rfl rfl
    refine ⟨whole.sound, whole.links_eq, whole.last_eq, directory.symm, whole.registered_iff,
      ?_, ?_⟩
    · intro tested
      rw [held]
      by_cases same : tested = endpoint
      · rw [if_pos same, same, mail_take_self, waiting]
        exact later
      · rw [if_neg same, mail_take_of_ne same]
        exact depicts.events_eq tested
    · intro tested
      refine ⟨0, ?_⟩
      rw [origins, List.replicate_zero, List.append_nil]
      by_cases same : tested = endpoint
      · rw [if_pos same, same, mail_take_self, waiting, ← causes]
        rfl
      · rw [if_neg same, mail_take_of_ne same]
        exact depicts.causes_eq tested

/-- What a reaction leaves is the scene of the trace after it. -/
theorem react (depicts : scene.Depicts trace) {move : Move} {device : DeviceId}
    {old new : Node}
    (changes : trace.network.Changes (trace.network.perform move) device old new)
    (shows : later.Shows setting (trace.network.perform move).hub)
    (directory : setting.directory = trace.network.hub.directory)
    (held : setting.held = trace.network.heldWith device new)
    (origins : setting.origins = trace.kept move)
    (cause : trace.cause? move = some setting.cause)
    (registered : later.registered = scene.registered)
    (sources : ∀ {other}, other ≠ device → later.sources other = scene.sources other)
    (sinks : ∀ {other}, other ≠ device → later.sinks other = scene.sinks other)
    (standing : later.sources device = new.source.standing)
    (knows : ∀ session, later.sinks device session ↔ session ∈ new.sink.registry.bySession) :
    later.Depicts (trace.perform move) := by
  have drawn := depicts.draws changes.found
  have sameDirectory : (trace.network.perform move).hub.directory = trace.network.hub.directory :=
    shows.directory_eq.trans directory
  have directory_iff (endpoint : Endpoint) :
      endpoint ∈ (trace.network.perform move).hub.directory ↔
        endpoint.device ∈ (trace.network.perform move).nodes := by
    rw [sameDirectory, changes.mem_iff]
    exact depicts.directory_iff endpoint
  have draws {tested : DeviceId} {node : Node}
      (found : (trace.network.perform move).nodes[tested]? = some node) :
      later.Draws (trace.network.perform move).hub tested node := by
    by_cases same : tested = device
    · rw [same, changes.nodes_self] at found
      rw [same, ← Option.some.inj found]
      refine ⟨?_, changes.running_eq.trans drawn.running,
        changes.device_eq.trans drawn.named, standing, knows⟩
      intro role
      rw [sameDirectory, changes.boxes_eq]
      exact drawn.box_eq role
    · rw [changes.nodes_of_ne same] at found
      obtain ⟨boxes, running, named, standings, known⟩ := depicts.draws found
      refine ⟨?_, running, named, (sources same).trans standings, ?_⟩
      · rw [sameDirectory]
        exact boxes
      · rw [sinks same]
        exact known
  have held' : setting.held = (trace.network.perform move).held :=
    held.trans changes.held_eq.symm
  refine ⟨shows.sound, directory_iff, draws, ?_, shows.links_eq, shows.last_eq, ?_, ?_⟩
  · intro tested
    rw [registered]
    exact (depicts.registered_iff tested).trans (changes.mem_iff tested).symm
  · intro endpoint
    change _ = (trace.network.perform move).held endpoint ++ _
    rw [← held']
    exact shows.events_eq endpoint
  · intro endpoint
    obtain ⟨count, causes⟩ := shows.causes_eq endpoint
    have events := shows.events_eq endpoint
    rw [held', ← Network.stream_eq directory_iff fun found => (draws found).box_eq] at events
    have sent :
        ((trace.network.perform move).stream endpoint).length -
          (trace.kept move endpoint).length = count := by
      have lengths := congrArg List.length causes
      rw [← events, List.length_map]
      rw [List.length_map, List.length_append, List.length_replicate, origins] at lengths
      omega
    rw [Trace.perform]
    dsimp only
    rw [cause, sent, ← origins]
    exact causes

end Reactions

end Depicts

end Scene

end InputSharing
