import InputSharing.Proofs.Network.Arrivals
import InputSharing.Proofs.Network.Effort
import InputSharing.Proofs.Network.Start
import Mathlib.Data.Nat.Count

/-!
# Networks come to rest

Whatever waits on a network waits for one of its nodes, so as long as anything waits there
is a chore that finds something to do.  Every such chore lowers the budget of the network.
So in whatever order the loops of the nodes have their turns, the network comes to rest,
unless from some time on only those have their turns for which nothing waits.
-/

namespace InputSharing

namespace Network

/-! ## Networks at rest -/

/-- Nothing waits anywhere. -/
structure IsSettled (network : Network) : Prop where
  drained : network.IsDrained
  captured :
    ∀ {device : DeviceId} {node : Node}, network.nodes[device]? = some node →
      node.hardware.captured = []

theorem isSettled_iff (network : Network) :
    network.IsSettled ↔
      network.IsDrained ∧ ∀ entry ∈ network.nodes.toList, entry.2.hardware.captured.isEmpty := by
  simp only [List.isEmpty_iff]
  constructor
  · intro settled
    exact ⟨settled.drained, fun entry listed => settled.captured (Table.mem_toList.1 listed)⟩
  · intro settled
    refine ⟨settled.1, ?_⟩
    intro device node found
    exact settled.2 (device, node) (Table.mem_toList.2 found)

instance (network : Network) : Decidable network.IsSettled :=
  decidable_of_iff' _ (isSettled_iff network)

/-- The networks of given nodes, of which any may have been shut down. -/
inductive Reachable (setups : List NodeSetup) (clock : UInt64) : Network → Prop
  /-- The nodes have been set up. -/
  | start : Reachable setups clock (setups.foldl Network.spawn { clock })
  | happen {network : Network} (happening : Happening) :
      Reachable setups clock network → Reachable setups clock (network.happen happening)
  | shutDown {network : Network} (device : DeviceId) :
      Reachable setups clock network → Reachable setups clock (network.shutDown device)

/-! ## Somebody is there for everything that waits -/

/-- Whatever waits in a mailbox, waits for a node. -/
structure Attended (network : Network) : Prop where
  addressed : network.hub.Addressed
  homed :
    ∀ {endpoint : Endpoint} {box : Nat}, network.hub.directory[endpoint]? = some box →
      ∃ node, network.nodes[endpoint.device]? = some node ∧ node.box endpoint.role = box

/-- Nodes stay, and they keep their mailboxes. -/
structure Keeps (before after : Network) : Prop where
  directory_eq : after.hub.directory = before.hub.directory
  addressed : before.hub.Addressed → after.hub.Addressed
  kept :
    ∀ {device : DeviceId} {node : Node}, before.nodes[device]? = some node →
      ∃ later, after.nodes[device]? = some later ∧ ∀ role, later.box role = node.box role

theorem Attended.keep {before after : Network} (attended : before.Attended)
    (keeps : before.Keeps after) : after.Attended where
  addressed := keeps.addressed attended.addressed
  homed := by
    intro endpoint box listed
    rw [keeps.directory_eq] at listed
    obtain ⟨node, found, here⟩ := attended.homed listed
    obtain ⟨later, foundLater, same⟩ := keeps.kept found
    exact ⟨later, foundLater, (same endpoint.role).trans here⟩

theorem Unused.attended {network : Network} (unused : network.Unused) : network.Attended where
  addressed := by
    intro box waits
    cases found : network.hub.mailboxes[box]? with
    | none =>
        rw [Hub.waiting, found] at waits
        exact absurd rfl waits
    | some mailbox =>
        have fresh := unused.blank.fresh mailbox (List.mem_of_getElem? found)
        rw [Hub.waiting_of_mailbox found, fresh] at waits
        exact absurd rfl waits
  homed := by
    intro endpoint box listed
    have registered := (unused.directory_iff endpoint).1 (Table.mem_of_getElem? listed)
    obtain ⟨node, found⟩ := (Table.mem_iff_exists _ _).1 registered
    have own := (unused.unused found).box_eq endpoint.role
    exact ⟨node, found, Option.some.inj (own.symm.trans listed)⟩

namespace Keeps

variable {network before after : Network} {device : DeviceId}

theorem of_same (hub : after.hub = before.hub) (nodes : after.nodes = before.nodes) :
    before.Keeps after where
  directory_eq := by rw [hub]
  addressed := by
    intro addressed
    rw [hub]
    exact addressed
  kept := by
    intro device node found
    rw [nodes]
    exact ⟨node, found, fun _ => rfl⟩

/-- One node has changed. -/
theorem of_insert {old new : Node} (found : before.nodes[device]? = some old)
    (nodes : after.nodes = before.nodes.insert device new)
    (boxes : ∀ role, new.box role = old.box role)
    (directory : after.hub.directory = before.hub.directory)
    (addressed : before.hub.Addressed → after.hub.Addressed) : before.Keeps after where
  directory_eq := directory
  addressed := addressed
  kept := by
    intro tested node there
    rw [nodes, Table.getElem?_insert_eq]
    by_cases same : device = tested
    · subst same
      rw [if_pos rfl]
      have equal := Option.some.inj (found.symm.trans there)
      exact ⟨new, rfl, fun role => equal ▸ boxes role⟩
    · rw [if_neg same]
      exact ⟨node, there, fun _ => rfl⟩

theorem of_handles {old new : Node} {change : Int}
    (handles : before.Handles after device old new change) : before.Keeps after :=
  of_insert handles.found handles.nodes_eq handles.boxes_eq handles.shifts.directory_eq
    handles.shifts.addressed

theorem modifyNode (network : Network) (device : DeviceId) {change : Node → Node}
    (boxes : ∀ node role, (change node).box role = node.box role) :
    network.Keeps (network.modifyNode device change) := by
  cases found : network.nodes[device]? with
  | none =>
      rw [modifyNode_of_unknown found]
      exact of_same rfl rfl
  | some node => exact of_insert found (nodes_modifyNode found change) (boxes node) rfl id

theorem chore (network : Network) (chore : Chore) :
    network.Keeps (network.perform chore.move) := by
  cases awaits : network.awaits chore with
  | false =>
      have same := perform_of_not_awaits awaits
      exact of_same (congrArg Network.hub same) (congrArg Network.nodes same)
  | true =>
      cases descends_of_awaits awaits with
      | works handles _ => exact of_handles handles
      | measures handles _ => exact of_handles handles

theorem call (network : Network) (device : DeviceId) (ticket : Ticket) (wanted : Call) :
    network.Keeps (network.call device ticket wanted) := by
  rw [Network.call]
  split
  · exact of_same rfl rfl
  · exact modifyNode network device fun node role => by cases role <;> rfl

theorem move (network : Network) (move : Move) : network.Keeps (network.perform move) := by
  cases move with
  | call device ticket wanted => exact call network device ticket wanted
  | listen device =>
      change network.Keeps (network.listen device).2
      rw [Network.listen]
      split
      · exact of_same rfl rfl
      · exact modifyNode network device fun node role => by cases role <;> rfl
  | forward endpoint => exact chore network (.forward endpoint)
  | forwardCaptured device => exact chore network (.forwardCaptured device)
  | serve endpoint => exact chore network (.serve endpoint)
  | flush device => exact chore network (.flush device)
  | emit device events =>
      change network.Keeps (network.emit device events).2
      rw [Network.emit]
      split
      · exact of_same rfl rfl
      · next node found =>
        exact of_insert found rfl (fun role => by cases role <;> rfl) rfl id
  | failNextStart device =>
      exact modifyNode network device fun node role => by cases role <;> rfl
  | tick device => exact modifyNode network device fun node role => by cases role <;> rfl
  | pass ms => exact of_same rfl rfl
  | setClock time => exact of_same rfl rfl

theorem happen (network : Network) (happening : Happening) :
    network.Keeps (network.happen happening) := by
  cases happening with
  | move wanted => exact move network wanted
  | sever session =>
      have severed := Backlog.shifts_sever network.hub 0 session
      exact ⟨severed.directory_eq, severed.addressed, fun found => ⟨_, found, fun _ => rfl⟩⟩

theorem shutDown (network : Network) (device : DeviceId) :
    network.Keeps (network.shutDown device) := by
  rw [Network.shutDown]
  split
  · exact of_same rfl rfl
  · next node running =>
    have found := (Option.filter_eq_some_iff.1 running).1
    exact of_insert found rfl (fun role => by cases role <;> rfl) rfl id

end Keeps

theorem Reachable.attended {setups : List NodeSetup} {clock : UInt64} {network : Network}
    (reachable : Reachable setups clock network) : network.Attended := by
  induction reachable with
  | start => exact ((Unused.empty clock).foldl_spawn setups).attended
  | happen happening _ attended => exact attended.keep (.happen _ happening)
  | shutDown device _ attended => exact attended.keep (.shutDown _ device)

/-! ## Something to do -/

/-- As long as anything waits, a chore finds something to do. -/
theorem Attended.settled_or_awaits {network : Network} (attended : network.Attended) :
    network.IsSettled ∨ ∃ chore, network.awaits chore = true := by
  by_cases busy : ∃ chore, network.awaits chore = true
  · exact Or.inr busy
  · left
    -- A mailbox that is not empty would be somebody's, so even the mailboxes are empty.
    have nothing (chore : Chore) {node : Node} (found : network.nodes[chore.device]? = some node) :
        node.owes network.hub chore = false := by
      cases owes : node.owes network.hub chore with
      | false => rfl
      | true =>
          refine absurd ⟨chore, ?_⟩ busy
          rw [awaits, found]
          exact owes
    refine ⟨⟨⟨?_, ?_, ?_⟩, ?_⟩, ?_⟩
    · intro mailbox listed
      by_contra waits
      obtain ⟨box, place⟩ := List.getElem?_of_mem listed
      have waiting : network.hub.waiting box = mailbox.events := Hub.waiting_of_mailbox place
      obtain ⟨endpoint, registered⟩ := attended.addressed box (by rw [waiting]; exact waits)
      obtain ⟨node, found, here⟩ := attended.homed registered
      have empty := nothing (.forward endpoint) found
      simp only [Node.owes, here, waiting, Bool.not_eq_false', List.isEmpty_iff] at empty
      exact waits empty
    · intro device node found
      have empty := nothing (.serve ⟨device, .source⟩) found
      simpa only [Node.owes, Bool.not_eq_false', List.isEmpty_iff] using empty
    · intro device node found
      have empty := nothing (.serve ⟨device, .sink⟩) found
      simpa only [Node.owes, Bool.not_eq_false', List.isEmpty_iff] using empty
    · intro device node session events found aside
      have empty := List.any_eq_false.1 (nothing (.flush device) found) (session, events)
        (Table.mem_toList.2 aside)
      simpa using empty
    · intro device node found
      have empty := nothing (.forwardCaptured device) found
      simpa only [Node.owes, Bool.not_eq_false', List.isEmpty_iff] using empty

theorem not_awaits_of_settled {network : Network} (settled : network.IsSettled) (chore : Chore) :
    network.awaits chore = false := by
  rw [awaits]
  rcases found : network.nodes[chore.device]? with _ | node
  · rfl
  · rw [Option.any_some]
    cases chore with
    | forward endpoint =>
        have empty : network.hub.waiting (node.box endpoint.role) = [] := by
          rw [Hub.waiting]
          cases place : network.hub.mailboxes[node.box endpoint.role]? with
          | none => rfl
          | some mailbox =>
              exact settled.drained.idle.mailboxes mailbox (List.mem_of_getElem? place)
        rw [Node.owes, empty]
        rfl
    | forwardCaptured device =>
        rw [Node.owes, settled.captured found]
        rfl
    | serve endpoint =>
        obtain ⟨device, role⟩ := endpoint
        cases role with
        | source =>
            rw [Node.owes, settled.drained.idle.sources found]
            rfl
        | sink =>
            rw [Node.owes, settled.drained.idle.sinks found]
            rfl
    | flush device =>
        apply List.any_eq_false.2
        rintro ⟨session, events⟩ listed
        have empty := settled.drained.outboxes found (Table.mem_toList.1 listed)
        simp [empty]

/-! ## Orders -/

/-- The network after some chores, if the loops have their turns in a given order. -/
def after (network : Network) (order : Nat → Chore) : Nat → Network
  | 0 => network
  | count + 1 => (network.after order count).perform (order count).move

/-- The chore at one place of an order finds something to do. -/
def Finds (network : Network) (order : Nat → Chore) (place : Nat) : Prop :=
  (network.after order place).awaits (order place) = true

instance (network : Network) (order : Nat → Chore) : DecidablePred (network.Finds order) :=
  fun place => inferInstanceAs (Decidable ((network.after order place).awaits (order place) = true))

section Orders

variable (network : Network) (order : Nat → Chore)

/-- What has been found to do is taken from the budget. -/
theorem budget_after (count : Nat) :
    Nat.count (network.Finds order) count + (network.after order count).budget ≤
      network.budget := by
  induction count with
  | zero =>
      rw [Nat.count_zero, Nat.zero_add]
      exact Nat.le_refl _
  | succ count inductionHypothesis =>
      rw [Nat.count_succ]
      by_cases finds : network.Finds order count
      · have lower := (descends_of_awaits finds).budget_lt
        rw [if_pos finds, after]
        omega
      · have same := perform_of_not_awaits (Bool.eq_false_iff.2 finds)
        rw [if_neg finds, after, same]
        exact inductionHypothesis

variable {network order} in
/-- If there is always something more to be found, a lot has been found in time. -/
theorem exists_le_count
    (endless : ∀ place, ∃ later, place ≤ later ∧ network.Finds order later) (total : Nat) :
    ∃ count, total ≤ Nat.count (network.Finds order) count := by
  induction total with
  | zero => exact ⟨0, Nat.zero_le _⟩
  | succ total inductionHypothesis =>
      obtain ⟨count, some⟩ := inductionHypothesis
      obtain ⟨later, after, finds⟩ := endless count
      have more := Nat.count_monotone (network.Finds order) after
      refine ⟨later + 1, ?_⟩
      rw [Nat.count_succ, if_pos finds]
      omega

variable {network order} in
/-- A network that has come to rest stays at rest. -/
theorem after_of_settled {count : Nat} (settled : (network.after order count).IsSettled)
    {later : Nat} (following : count ≤ later) :
    network.after order later = network.after order count := by
  induction later, following using Nat.le_induction with
  | base => rfl
  | succ later _ inductionHypothesis =>
      rw [after, inductionHypothesis]
      exact perform_of_not_awaits (not_awaits_of_settled settled _)

end Orders

theorem Attended.after {network : Network} (attended : network.Attended) (order : Nat → Chore)
    (count : Nat) : (network.after order count).Attended := by
  induction count with
  | zero => exact attended
  | succ count inductionHypothesis => exact inductionHypothesis.keep (.chore _ (order count))

/-- Whatever has happened, and in whatever order the loops of the nodes have their turns from
now on: no more than a number of turns that is known beforehand find something to do; as long
as anything waits, there is a loop whose turn would find something to do; and if such a loop
has its turn time and again until nothing waits, then the network comes to rest and stays at
rest. -/
theorem Reachable.comes_to_rest {setups : List NodeSetup} {clock : UInt64} {network : Network}
    (reachable : Reachable setups clock network) (order : Nat → Chore) :
    (∀ count, Nat.count (network.Finds order) count ≤ network.budget) ∧
      (∀ count, (network.after order count).IsSettled ∨
        ∃ chore, (network.after order count).awaits chore = true) ∧
      ((∀ count, (network.after order count).IsSettled ∨
          ∃ later, count ≤ later ∧ network.Finds order later) →
        ∃ count, ∀ later, count ≤ later → (network.after order later).IsSettled) := by
  refine ⟨?_, ?_, ?_⟩
  · intro count
    have spent := network.budget_after order count
    omega
  · intro count
    exact (reachable.attended.after order count).settled_or_awaits
  · intro diligent
    by_cases rests : ∃ count, (network.after order count).IsSettled
    · obtain ⟨count, settled⟩ := rests
      refine ⟨count, ?_⟩
      intro later following
      rw [after_of_settled settled following]
      exact settled
    · -- Otherwise more would be found to do than the budget allows.
      have endless (place : Nat) : ∃ later, place ≤ later ∧ network.Finds order later :=
        (diligent place).resolve_left fun settled => rests ⟨place, settled⟩
      obtain ⟨count, many⟩ := exists_le_count endless (network.budget + 1)
      have spent := network.budget_after order count
      omega

/-- The desk has asked to prepare the laptop, and it is about to measure delays. -/
def asking : Network :=
  [Move.call ⟨"desk"⟩ 0 (.direct ⟨"laptop"⟩ .prepare), .tick ⟨"desk"⟩].foldl perform
    (Chronicle.pair.foldl Network.spawn { clock := 0 })

theorem reachable_asking : Reachable Chronicle.pair 0 asking :=
  .happen (.move (.tick ⟨"desk"⟩))
    (.happen (.move (.call ⟨"desk"⟩ 0 (.direct ⟨"laptop"⟩ .prepare))) .start)

/-- The desk and the laptop have their turns until the answer has come, and then the desk
alone. -/
def round (place : Nat) : Chore :=
  [Chore.serve ⟨⟨"desk"⟩, .source⟩, .serve ⟨⟨"desk"⟩, .source⟩,
    .forward ⟨⟨"laptop"⟩, .sink⟩, .serve ⟨⟨"laptop"⟩, .sink⟩,
    .forward ⟨⟨"laptop"⟩, .sink⟩, .serve ⟨⟨"laptop"⟩, .sink⟩,
    .forward ⟨⟨"desk"⟩, .source⟩, .serve ⟨⟨"desk"⟩, .source⟩].getD place (.flush ⟨"desk"⟩)

theorem comes_to_rest_asking :
    Reachable Chronicle.pair 0 asking ∧ ¬ asking.IsSettled ∧
      (∀ count, (asking.after round count).IsSettled ∨
        ∃ later, count ≤ later ∧ asking.Finds round later) ∧
      ∃ count, ∀ later, count ≤ later → (asking.after round later).IsSettled := by
  have busy : ¬ asking.IsSettled := by decide +kernel
  have finds : ∀ place < 8, asking.Finds round place := by decide +kernel
  have rests : (asking.after round 8).IsSettled := by decide +kernel
  have diligent (count : Nat) :
      (asking.after round count).IsSettled ∨
        ∃ later, count ≤ later ∧ asking.Finds round later := by
    by_cases early : count < 8
    · exact Or.inr ⟨count, Nat.le_refl _, finds count early⟩
    · left
      rw [after_of_settled rests (Nat.le_of_not_lt early)]
      exact rests
  exact ⟨reachable_asking, busy, diligent,
    (reachable_asking.comes_to_rest round).2.2 diligent⟩

end Network

end InputSharing
