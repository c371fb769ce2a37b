import InputSharing.Proofs.Network.Depiction
import InputSharing.Proofs.Source.Tickets

/-!
# No call of a network is lost

The calls of a network are those that have ended, those that wait at a node, and
those that a node has still to serve.
-/

namespace InputSharing

/-- The calls that wait at a node or for it. -/
def Node.tickets (node : Node) : List Ticket :=
  node.source.pending.tickets ++ node.sourceQueue.filterMap SourceEvent.ticket?

namespace Network

/-- The calls that have been made on a network. -/
def tickets (network : Network) : List Ticket :=
  network.completions.map Completion.ticket ++
    network.nodes.toList.flatMap fun entry => entry.2.tickets

theorem tickets_of_changes {before after : Network} {device : DeviceId} {old new : Node}
    (changes : before.Changes after device old new) {ended : List (Completion Grant)}
    {more : List Ticket} (completions : after.completions = before.completions ++ ended)
    (perm : (ended.map Completion.ticket ++ new.tickets).Perm (more ++ old.tickets)) :
    after.tickets.Perm (more ++ before.tickets) := by
  let others := (before.nodes.erase device).toList.flatMap fun entry => entry.2.tickets
  have earlier : (before.nodes.toList.flatMap fun entry => entry.2.tickets).Perm
      (old.tickets ++ others) :=
    (Table.toList_erase_perm changes.found).flatMap_right _
  have later : (after.nodes.toList.flatMap fun entry => entry.2.tickets).Perm
      (new.tickets ++ others) := by
    rw [changes.nodes_eq]
    exact (Table.toList_insert_erase_perm before.nodes device new).flatMap_right _
  rw [tickets, tickets, completions, List.map_append, List.append_assoc]
  have first :
      (before.completions.map Completion.ticket ++
        (ended.map Completion.ticket ++
          after.nodes.toList.flatMap fun entry => entry.2.tickets)).Perm
        (before.completions.map Completion.ticket ++ (more ++ old.tickets ++ others)) := by
    apply List.Perm.append_left
    have moved := (later.append_left (ended.map Completion.ticket))
    rw [← List.append_assoc] at moved
    exact moved.trans (perm.append_right others)
  have second :
      (before.completions.map Completion.ticket ++ (more ++ old.tickets ++ others)).Perm
        (more ++ (before.completions.map Completion.ticket ++ (old.tickets ++ others))) := by
    rw [List.append_assoc]
    exact List.perm_append_comm_assoc _ _ _
  exact (first.trans second).trans ((earlier.symm.append_left _).append_left more)

end Network

end InputSharing
