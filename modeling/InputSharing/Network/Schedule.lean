import InputSharing.Network.Load

/-!
# The order of steps on a network

All nodes of a network share one agenda.  A task is put at the end of the
agenda when something comes to wait for it, and stays there until its turn
comes; then it deals with everything that waits for it by then.  A sink that
has dealt with its whole queue sends the captured events that it has put aside.

A network is at rest when its agenda is empty.  `Schedule.settle` brings it to
rest, however long that takes.
-/

namespace InputSharing

/-- One thing to do on a network. -/
inductive Task where
  /-- Move what is in the mailbox of an endpoint to the queue of its node. -/
  | forward (endpoint : Endpoint)
  /-- Move what a node has captured to the queue of its sink. -/
  | forwardCaptured (device : DeviceId)
  /-- Serve the queue of one half of a node. -/
  | serve (endpoint : Endpoint)
  deriving DecidableEq

namespace Task

def perform (network : Network) : Task → Network
  | forward endpoint =>
      match network.nodes[endpoint.device]? with
      | none => network
      | some node =>
          let count := (network.hub.waiting (node.box endpoint.role)).length
          count.repeat (fun network => network.forward endpoint) network
  | forwardCaptured device => network.forwardCaptured device
  | serve ⟨device, role⟩ =>
      match network.nodes[device]?, role with
      | none, _ => network
      | some node, .source =>
          node.sourceQueue.length.repeat (fun network => network.serveSource device) network
      | some node, .sink =>
          (node.sinkQueue.length.repeat (fun network => network.serveSink device)
            network).flush device

def ofNode (device : DeviceId) (node : Node) : List Task :=
  (if node.hardware.captured.isEmpty then [] else [forwardCaptured device]) ++
    (if node.sourceQueue.isEmpty then [] else [serve ⟨device, .source⟩]) ++
    (if node.sinkQueue.isEmpty then [] else [serve ⟨device, .sink⟩])

/-- The tasks for which something waits on a network.  Mailboxes come first, in
the order in which they received something. -/
def ofNetwork (network : Network) : List Task :=
  (network.hub.rings.filterMap fun box => network.attendants[box]?.map forward) ++
    network.nodes.toList.flatMap fun (device, node) => ofNode device node

end Task

/-- A network and what is to be done on it. -/
structure Schedule where
  network : Network
  /-- The tasks that wait for their turn, each of them once. -/
  agenda : List Task := []

namespace Schedule

/-- Put a task at the end of the agenda unless it is there. -/
def add (schedule : Schedule) (task : Task) : Schedule :=
  if task ∈ schedule.agenda then schedule
  else { schedule with agenda := schedule.agenda ++ [task] }

/-- Put everything on the agenda for which something waits. -/
def refresh (schedule : Schedule) : Schedule :=
  let network := schedule.network
  let heard := { network with hub := { network.hub with rings := [] } }
  (Task.ofNetwork network).foldl add { schedule with network := heard }

/-- Do something on the network, and put on the agenda what comes of it. -/
def act {α : Type} (schedule : Schedule) (deed : Network → α × Network) : α × Schedule :=
  let (answer, network) := deed schedule.network
  (answer, refresh { schedule with network })

/-- Change the network, and put on the agenda what comes of it. -/
def change (schedule : Schedule) (deed : Network → Network) : Schedule :=
  refresh { schedule with network := deed schedule.network }

/-- Perform tasks in turn, at most a given number of them. -/
def run : Nat → Schedule → Schedule
  | 0, schedule => schedule
  | limit + 1, schedule =>
      match schedule.agenda with
      | [] => schedule
      | task :: rest =>
          run limit ({ schedule with agenda := rest }.change task.perform)

/-- Perform tasks until the network is at rest.  Every task lowers the load of
the network, so the load bounds their number. -/
def settle (schedule : Schedule) : Schedule :=
  schedule.run (schedule.network.load + schedule.agenda.length)

/-- Let time pass.  The nodes whose time to measure delays has come hear of it
one after another. -/
def advance (schedule : Schedule) (ms : Nat) : Schedule :=
  let passed := schedule.change fun network => network.pass ms
  passed.network.due.foldl (fun schedule device => schedule.change fun network =>
    network.tick device) passed

end Schedule

end InputSharing
