import InputSharing.Channel.Scripted
import InputSharing.Proofs.Registry
import InputSharing.Proofs.Source.History
import InputSharing.Proofs.Source.Parts

/-!
# Answers that nobody waits for

A source takes in what an answer grants, and ends the session with a sink that
says it is unprepared, whether or not a call waits for the answer.  So an answer
that nobody waits for is without effect exactly if it is `Moot`: the source
already knows what it grants, or has already forgotten the sink that leaves.

Otherwise it has its effect.  A node that opens a channel and says that it is
prepared is then a prepared sink, though nobody asked it, and its events are
injected.
-/

namespace InputSharing.Source

/-- There is nothing left that the end of a sink could take away. -/
structure Forgotten (source : Source) (sink : DeviceId) : Prop where
  no_belief : sink ∉ source.beliefs
  no_delay : sink ∉ source.latencies
  no_call : ∀ entry ∈ source.pending.waiting, entry.1.isTo sink = false
  no_relay : ∀ entry ∈ source.relays.live.toList, entry.2.target ≠ sink
  no_channel : source.registry.channel? sink .sink = none

/-- An answer says nothing new. -/
def Moot (source : Source) (sink : DeviceId) (reply : Reply) : Prop :=
  reply.status = Status.ok →
    match reply with
    | .prepared _ _ => sink ∈ source.beliefs
    | .unprepared _ => source.Forgotten sink
    | reply => ∀ belief, source.beliefs[sink]? = some belief → belief.after reply = belief

namespace Turn

variable {τ : Type}

/-! ## Parts that change nothing -/

theorem complete_of_unasked (turn : Turn τ) {call : Call}
    (unasked : turn.source.pending.contains call = false) (outcome : Outcome) :
    turn.complete call outcome = turn := by
  have absent : turn.source.pending.waiting.lookup call = none := by
    rw [Pending.contains, Option.isSome_eq_false_iff] at unasked
    exact Option.isNone_iff_eq_none.1 unasked
  rw [complete, Pending.complete, absent]
  change ({ turn with completions := turn.completions ++ [] } : Turn τ) = turn
  rw [List.append_nil]

theorem withBeliefs_eq_self_iff (turn : Turn τ) (beliefs : Table DeviceId Belief) :
    ({ turn with source := { turn.source with beliefs } } : Turn τ) = turn ↔
      beliefs = turn.source.beliefs := by
  constructor
  · intro same
    exact congrArg (fun turn => turn.source.beliefs) same
  · intro same
    rw [same]

/-- An answer to be taken in adds nothing if its grant is known. -/
theorem absorb_eq_self_iff (turn : Turn τ) {sink : DeviceId} {reply : Reply}
    (stays : ∀ status, reply ≠ .unprepared status) :
    turn.absorb sink reply = turn ↔ turn.source.Moot sink reply := by
  by_cases granted : reply.status = Status.ok
  · cases reply with
    | prepared status allowList =>
      rw [absorb.eq_def, if_pos granted, Moot.eq_def, forall_prop_of_true granted]
      exact (turn.withBeliefs_eq_self_iff _).trans Table.insertIfNew_eq_self_iff
    | unprepared status => exact absurd rfl (stays status)
    | startedByType _ _ _ | stoppedByType _ _ _ | startedByHandles _ _ _
    | stoppedByHandles _ _ _ =>
      rw [absorb.eq_def, if_pos granted, Moot.eq_def, forall_prop_of_true granted]
      exact (turn.withBeliefs_eq_self_iff _).trans Table.modify_eq_self_iff
  · rw [absorb.eq_def, if_neg granted]
    exact iff_of_true rfl fun ok => absurd ok granted

variable [Transport τ]

theorem dropSink_of_forgotten (turn : Turn τ) {sink : DeviceId}
    (forgotten : turn.source.Forgotten sink) : turn.dropSink sink = turn := by
  have beliefs := Table.erase_eq_self_iff.2 forgotten.no_belief
  have latencies := Table.erase_eq_self_iff.2 forgotten.no_delay
  have abandoned :
      (turn.source.relays.live.toList.filter fun entry => entry.2.target = sink) = [] := by
    refine List.filter_eq_nil_iff.2 ?_
    intro entry listed
    exact decide_eq_true_iff.not.2 (forgotten.no_relay entry listed)
  have live :
      (turn.source.relays.live.filter fun _ correlation => correlation.target ≠ sink) =
        turn.source.relays.live := by
    refine Table.filter_eq_self_iff.2 ?_
    intro entry listed
    exact decide_eq_true (forgotten.no_relay entry listed)
  have doomed : (turn.source.pending.waiting.filter fun entry => entry.1.isTo sink) = [] := by
    refine List.filter_eq_nil_iff.2 ?_
    intro entry waiting
    rw [forgotten.no_call entry waiting]
    decide
  have waiting :
      (turn.source.pending.waiting.filter fun entry => !entry.1.isTo sink) =
        turn.source.pending.waiting := by
    refine List.filter_eq_self.2 ?_
    intro entry waiting
    rw [forgotten.no_call entry waiting]
    rfl
  have unchanged : turn.forget sink = turn := by
    rw [forget, beliefs, latencies, live]
  have failed : turn.failWhere (Call.isTo sink) .disconnected = turn := by
    unfold failWhere Pending.failWhere
    rw [doomed, waiting]
    change ({ turn with completions := turn.completions ++ [] } : Turn τ) = turn
    rw [List.append_nil]
  change
    ((turn.source.relays.live.toList.filter fun entry =>
      entry.2.target = sink).map Prod.snd).foldl reportLoss
        ((turn.forget sink).failWhere (Call.isTo sink) .disconnected) = turn
  rw [abandoned, unchanged, failed]
  rfl

/-- When the session with a sink ends, nothing about the sink is left. -/
theorem forgotten_retire (turn : Turn τ) (sink : DeviceId) :
    (turn.retire sink).source.Forgotten sink := by
  obtain ⟨counter, line, dropped⟩ := turn.sent_dropSink sink
  have kept : (turn.retire sink).source =
      { turn.source with
        beliefs := turn.source.beliefs.erase sink
        latencies := turn.source.latencies.erase sink
        pending := ⟨turn.source.pending.waiting.filter fun entry => !entry.1.isTo sink⟩
        relays := (turn.forget sink).source.relays
        registry := ((turn.dropSink sink).channels.disconnect sink .sink).registry } := by
    rw [retire, dropped]
    rfl
  rw [kept]
  refine ⟨?_, ?_, ?_, ?_, ?_⟩
  · exact fun present => ((Table.mem_erase_iff _ _ _).1 present).1 rfl
  · exact fun present => ((Table.mem_erase_iff _ _ _).1 present).1 rfl
  · intro entry waiting
    simpa using (List.mem_filter.1 waiting).2
  · intro entry listed
    change entry ∈ Std.ExtTreeMap.toList (Std.ExtTreeMap.filter _ _) at listed
    rw [Std.ExtTreeMap.toList_filter] at listed
    exact of_decide_eq_true (List.mem_filter.1 listed).2
  · exact (turn.dropSink sink).channels.channel?_disconnect sink .sink

theorem retire_eq_self_iff (turn : Turn τ) (sink : DeviceId) :
    turn.retire sink = turn ↔ turn.source.Forgotten sink := by
  constructor
  · intro same
    rw [← same]
    exact turn.forgotten_retire sink
  · intro forgotten
    rw [retire, turn.dropSink_of_forgotten forgotten,
      turn.channels.disconnect_of_unknown forgotten.no_channel]
    rfl

/-! ## Answers -/

theorem onReply_of_unasked (turn : Turn τ) {sink : DeviceId} {reply : Reply}
    (unasked : turn.source.pending.contains (.direct sink reply.request) = false) :
    turn.onReply sink reply = (turn.absorb sink reply).retireIfUnprepared sink reply := by
  have kept : (turn.absorb sink reply).source.pending = turn.source.pending := by
    rw [absorb.eq_def]
    split
    · split
      · rfl
      · rfl
      · rfl
    · rfl
  have alone := (turn.absorb sink reply).complete_of_unasked (kept ▸ unasked) reply.outcome
  rw [onReply, alone]

theorem onReply_eq_self_iff (turn : Turn τ) {sink : DeviceId} {reply : Reply}
    (unasked : turn.source.pending.contains (.direct sink reply.request) = false) :
    turn.onReply sink reply = turn ↔ turn.source.Moot sink reply := by
  rw [turn.onReply_of_unasked unasked]
  cases leaves : reply with
  | unprepared status =>
    have absorbed : turn.absorb sink (.unprepared status) = turn := by
      rw [absorb.eq_def]
      exact ite_self turn
    rw [absorbed, retireIfUnprepared, Moot.eq_def]
    by_cases granted : status = Status.ok
    · rw [if_pos granted, turn.retire_eq_self_iff]
      exact ⟨fun forgotten _ => forgotten, fun moot => moot granted⟩
    · rw [if_neg granted]
      exact iff_of_true rfl fun ok => absurd ok granted
  | prepared _ _ | startedByType _ _ _ | stoppedByType _ _ _ | startedByHandles _ _ _
  | stoppedByHandles _ _ _ =>
    exact turn.absorb_eq_self_iff (by intro status; exact Reply.noConfusion)

end Turn

/-- An answer that nobody waits for changes nothing, and makes nothing be sent,
opened, closed or injected, exactly if it says nothing new. -/
theorem unasked_inert_iff [Transport τ] {turn : Turn (Recorded τ)} {session : SessionId}
    {sink : DeviceId} {reply : Reply}
    (known : turn.source.registry.peer? session = some sink)
    (unasked : turn.source.pending.contains (.direct sink reply.request) = false)
    (now : UInt64) (device : DeviceId) :
    turn.handle now session (.reply device reply) = turn ↔ turn.source.Moot sink reply := by
  rw [Turn.handle, known]
  exact turn.onReply_eq_self_iff unasked

/-- Nobody has asked the phone anything, but it has opened a channel. -/
def approached : Course Scripted :=
  let start : Course Scripted :=
    { turn := { source := { device := ⟨"desk"⟩ }, line := { line := {} } } }
  start.undergo (.opened ⟨1⟩ ⟨"phone"⟩)

theorem reached_approached : Reached ⟨"desk"⟩ approached :=
  .undergo _ (.start _)

theorem unasked_inert_refusing :
    approached.turn.source.registry.peer? ⟨1⟩ = some ⟨"phone"⟩ ∧
      approached.turn.source.pending.contains (.direct ⟨"phone"⟩ .prepare) = false ∧
      approached.turn.handle 0 ⟨1⟩
        (.reply ⟨"phone"⟩ (.prepared Status.captureFailed [])) = approached.turn := by
  have known : approached.turn.source.registry.peer? ⟨1⟩ = some ⟨"phone"⟩ := by
    decide +kernel
  have unasked :
      approached.turn.source.pending.contains (.direct ⟨"phone"⟩ .prepare) = false := by
    decide +kernel
  have moot :
      approached.turn.source.Moot ⟨"phone"⟩ (.prepared Status.captureFailed []) := by
    intro granted
    exact absurd granted (by decide)
  exact ⟨known, unasked, (unasked_inert_iff known unasked 0 ⟨"phone"⟩).2 moot⟩

/-- The phone says that it is prepared, and its events are injected. -/
theorem unasked_admits_events :
    let event : InputEvent :=
      { handle := ⟨"keyboard"⟩, eventClass := EventClass.key, code := 30, value := 1, whenUs := 5 }
    let announced :=
      approached.turn.handle 0 ⟨1⟩ (.reply ⟨"phone"⟩ (.prepared Status.ok []))
    Reached ⟨"desk"⟩ approached ∧
      approached.turn.source.registry.peer? ⟨1⟩ = some ⟨"phone"⟩ ∧
      approached.turn.source.pending.contains (.direct ⟨"phone"⟩ .prepare) = false ∧
      announced ≠ approached.turn ∧
      (announced.handle 0 ⟨1⟩ (.inputEvents ⟨"phone"⟩ [event])).injections =
        [(⟨"phone"⟩, event)] := by
  intro event announced
  refine ⟨reached_approached, by decide +kernel, by decide +kernel, ?_, by decide +kernel⟩
  intro same
  have believed : announced.source.beliefs.contains ⟨"phone"⟩ = true := by decide +kernel
  rw [same] at believed
  have unknown : approached.turn.source.beliefs.contains ⟨"phone"⟩ = false := by decide +kernel
  rw [unknown] at believed
  cases believed

end InputSharing.Source
