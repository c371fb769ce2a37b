import InputSharing.Proofs.Network.Reactions
import InputSharing.Proofs.Network.Start

/-!
# Every call is answered

When nothing is on its way on a network, nothing is waited for.  Every call has
ended then, and has ended once.  What it ended with, if it was an answer, was sent
while this very call was dealt with.
-/

namespace InputSharing

namespace Scene

variable {scene : Scene}

/-! ## Scenes without letters -/

theorem carried_of_silent (silent : ∀ endpoint, scene.mail endpoint = []) (burden : Burden) :
    scene.carried burden = 0 := by
  have asking : scene.asking burden = [] := by
    rw [Scene.asking]
    split
    · rfl
    · rw [silent]
      rfl
  have answering : scene.answering burden = [] := by
    rw [Scene.answering]
    split
    · rfl
    · rw [silent]
      rfl
  rw [carried, asking, answering]
  rfl

/-- What is waited for is passed on, if no letter stands for it. -/
theorem Consistent.passed_of_silent (consistent : scene.Consistent none [])
    (silent : ∀ endpoint, scene.mail endpoint = []) (burden : Burden) :
    scene.claimed burden + scene.pledged burden = scene.passed burden := by
  have spared : burden.Spares none := by
    cases burden with
    | lane _ _ _ _ => exact nofun
    | relay _ _ _ _ _ => trivial
  have balance := consistent.accounted.balance spared
  rw [carried_of_silent silent, List.count_nil] at balance
  omega

theorem Consistent.noToken (consistent : scene.Consistent none [])
    (silent : ∀ endpoint, scene.mail endpoint = []) (device : DeviceId) :
    (scene.sources device).relays.live.toList = [] := by
  rw [List.eq_nil_iff_forall_not_mem]
  rintro ⟨token, correlation⟩ listed
  have held := Table.mem_toList.1 listed
  have tidy := consistent.accounted.tidy device
  obtain ⟨session, way⟩ := (Table.mem_iff_exists _ _).1 (tidy.way_of_live held)
  have lane := lane?_of_way consistent.wired way
  let burden :=
    Burden.lane session (.relayed token) correlation.request (scene.owner device token)
  have debtor : scene.debtor burden = some device := by
    rw [Scene.debtor, lane]
    rfl
  have pledges : scene.pledge? burden (token, correlation) = some burden := by
    rw [pledge?, lane, Option.bind_some, relayedDebt?, if_pos rfl]
  have pledged : 0 < scene.pledged burden := by
    rw [pledged_of_debtor debtor]
    exact List.count_pos_iff.2 (List.mem_filterMap.2 ⟨_, listed, pledges⟩)
  have balance := consistent.passed_of_silent silent burden
  have notPassed : scene.passed burden = 0 := rfl
  omega

theorem Consistent.noCall (consistent : scene.Consistent none [])
    (silent : ∀ endpoint, scene.mail endpoint = []) (device : DeviceId) :
    (scene.sources device).waiting = [] := by
  rw [List.eq_nil_iff_forall_not_mem]
  rintro ⟨call, ticket⟩ listed
  cases call with
  | direct sink request =>
      have tidy := consistent.accounted.tidy device
      obtain ⟨session, way⟩ := (Table.mem_iff_exists _ _).1 (tidy.way_of_waiting listed)
      have lane := lane?_of_way consistent.wired way
      let burden := Burden.lane session .direct request (some ticket)
      have debtor : scene.debtor burden = some device := by
        rw [Scene.debtor, lane]
        rfl
      have claims : scene.claim? burden (.direct sink request, ticket) = some burden := by
        rw [claim?, lane, Option.bind_some, directDebt?, if_pos rfl]
      have claimed : 0 < scene.claimed burden := by
        rw [claimed_of_debtor debtor]
        exact List.count_pos_iff.2 (List.mem_filterMap.2 ⟨_, listed, claims⟩)
      have balance := consistent.passed_of_silent silent burden
      have notPassed : scene.passed burden = 0 := rfl
      omega
  | relayed relayer sink request =>
      let burden := Burden.relay device relayer sink request (some ticket)
      have claimed : 0 < scene.claimed burden := by
        rw [claimed_of_debtor (rfl : scene.debtor burden = some device)]
        exact List.count_pos_iff.2 (List.mem_filterMap.2 ⟨_, listed, rfl⟩)
      have notPassed : scene.passed burden = 0 := by
        rw [passed_of_relayer (rfl : burden.relayer? = some relayer),
          consistent.noToken silent relayer]
        rfl
      have balance := consistent.passed_of_silent silent burden
      omega

end Scene

namespace Network

/-- Nothing waits on a hub whose mailboxes are empty. -/
theorem IsIdle.mail_eq {network : Network} (idle : network.IsIdle) (endpoint : Endpoint) :
    network.hub.mail endpoint = [] := by
  rw [Hub.mail]
  split
  · rfl
  · next box _ =>
    rw [Hub.waiting]
    cases found : network.hub.mailboxes[box]? with
    | none => rfl
    | some mailbox => exact idle.mailboxes mailbox (List.mem_of_getElem? found)

theorem IsIdle.held_eq {network : Network} (idle : network.IsIdle) (endpoint : Endpoint) :
    network.held endpoint = [] := by
  rw [held]
  split
  · rfl
  · next node found =>
    cases endpoint.role with
    | source =>
        rw [Node.received, idle.sources found]
        rfl
    | sink =>
        rw [Node.received, idle.sinks found]
        rfl

end Network

namespace Trace

variable {setups : List NodeSetup} {clock : UInt64} {trace : Trace}

/-- What holds of a trace whatever has happened. -/
structure Accounted (trace : Trace) : Prop where
  depicted : ∃ scene : Scene, scene.Depicts trace ∧ scene.Consistent none []
  tickets_perm : trace.network.tickets.Perm trace.calls

theorem Accounted.advance (accounted : trace.Accounted) (room : trace.network.HasRoom)
    (move : Move) : (trace.perform move).Accounted := by
  obtain ⟨scene, depicts, consistent⟩ := accounted.depicted
  have advances := advances depicts consistent room move
  refine ⟨advances.depicted, ?_⟩
  have more := accounted.tickets_perm.append_left move.ticket?.toList
  exact (advances.tickets_perm.trans more).trans List.perm_append_comm

theorem Reached.accounted (reached : Reached setups clock trace) : trace.Accounted := by
  induction reached with
  | start =>
      have unused := (Network.Unused.empty clock).foldl_spawn setups
      refine ⟨⟨_, Scene.depicts_empty unused, Scene.consistent_empty⟩, ?_⟩
      rw [unused.tickets_eq]
  | perform move _ room inductionHypothesis =>
      exact inductionHypothesis.advance room move

theorem Accounted.settled (accounted : trace.Accounted) (idle : trace.network.IsIdle)
    {device : DeviceId} {node : Node} (found : trace.network.nodes[device]? = some node) :
    node.source.pending.waiting = [] ∧ node.source.relays.live = ∅ := by
  obtain ⟨scene, depicts, consistent⟩ := accounted.depicted
  have silent (endpoint : Endpoint) : scene.mail endpoint = [] := by
    have events := depicts.events_eq endpoint
    rw [idle.held_eq, idle.mail_eq] at events
    exact List.map_eq_nil_iff.1 events
  have standing := (depicts.draws found).standing_eq
  have noCall := consistent.noCall silent device
  have noToken := consistent.noToken silent device
  rw [standing] at noCall noToken
  refine ⟨noCall, ?_⟩
  apply Std.ExtTreeMap.isEmpty_iff.1
  rw [← Std.ExtTreeMap.isEmpty_toList]
  exact List.isEmpty_iff.2 noToken

/-- No call is left unanswered and none is answered twice: when nothing waits in
a mailbox or a queue, all calls have ended, each as often as it was made, nobody
waits for anything and no token is in use.  And whatever ends a call is a refusal
of this call, an answer that was sent to this call by whom it was made to, or
tells that a channel is gone. -/
theorem calls_answered (reached : Reached setups clock trace) :
    (trace.network.IsIdle →
      (trace.network.completions.map Completion.ticket).Perm trace.calls ∧
        ∀ {device : DeviceId} {node : Node}, trace.network.nodes[device]? = some node →
          node.source.pending.waiting = [] ∧ node.source.relays.live = ∅) ∧
      ∀ move, trace.network.HasRoom →
        ∃ ended, (trace.perform move).network.completions = trace.network.completions ++ ended ∧
          ∀ completion ∈ ended, trace.Warrants completion move := by
  have accounted := reached.accounted
  refine ⟨?_, ?_⟩
  · intro idle
    refine ⟨?_, fun found => accounted.settled idle found⟩
    have none : trace.network.nodes.toList.flatMap (fun entry => entry.2.tickets) = [] := by
      rw [List.flatMap_eq_nil_iff]
      rintro ⟨device, node⟩ listed
      have found := Table.mem_toList.1 listed
      change node.source.pending.waiting.map Prod.snd ++ _ = []
      rw [(accounted.settled idle found).1, idle.sources found]
      rfl
    have tickets := accounted.tickets_perm
    rw [Network.tickets, none, List.append_nil] at tickets
    exact tickets
  · intro move room
    obtain ⟨scene, depicts, consistent⟩ := accounted.depicted
    exact (advances depicts consistent room move).warranted

/-- A desk, a laptop and a tablet. -/
def trio : List NodeSetup :=
  [{ device := ⟨"desk"⟩ }, { device := ⟨"laptop"⟩ }, { device := ⟨"tablet"⟩ }]

/-- The desk asks the laptop to prepare the tablet, and the laptop has passed on
the answer. -/
def relaying : List Move :=
  [.call ⟨"desk"⟩ 0 (.relayed ⟨"laptop"⟩ ⟨"tablet"⟩ .prepare),
    .serve ⟨⟨"desk"⟩, .source⟩,
    .forward ⟨⟨"laptop"⟩, .source⟩, .serve ⟨⟨"laptop"⟩, .source⟩,
    .forward ⟨⟨"laptop"⟩, .source⟩, .serve ⟨⟨"laptop"⟩, .source⟩,
    .forward ⟨⟨"tablet"⟩, .sink⟩, .serve ⟨⟨"tablet"⟩, .sink⟩,
    .forward ⟨⟨"tablet"⟩, .sink⟩, .serve ⟨⟨"tablet"⟩, .sink⟩,
    .forward ⟨⟨"laptop"⟩, .source⟩, .serve ⟨⟨"laptop"⟩, .source⟩,
    .forward ⟨⟨"desk"⟩, .source⟩]

def relayed : Trace :=
  relaying.foldl Trace.perform { network := trio.foldl Network.spawn { clock := 0 } }

theorem reached_relayed : Reached trio 0 relayed := by
  have room : RoomFor { network := trio.foldl Network.spawn { clock := 0 } } relaying := by
    decide +kernel
  exact Reached.start.performAll room

theorem calls_answered_relayed :
    let last := Move.serve ⟨⟨"desk"⟩, .source⟩
    (relayed.perform last).network.IsIdle ∧ (relayed.perform last).calls = [0] ∧
      ((relayed.perform last).network.completions.map Completion.ticket).Perm [0] ∧
        ∃ ended, (relayed.perform last).network.completions = relayed.network.completions ++ ended ∧
          ∀ completion ∈ ended, relayed.Warrants completion last := by
  intro last
  have room : relayed.network.HasRoom := by decide +kernel
  have idle : (relayed.perform last).network.IsIdle := by decide +kernel
  have calls : (relayed.perform last).calls = [0] := by decide +kernel
  have answered := (calls_answered (reached_relayed.perform last room)).1 idle
  rw [calls] at answered
  exact ⟨idle, calls, answered.1, (calls_answered reached_relayed).2 last room⟩

end Trace

end InputSharing
