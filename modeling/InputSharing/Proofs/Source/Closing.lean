import InputSharing.Channel.Scripted
import InputSharing.Proofs.Source.Passage

/-!
# What ends with a channel

A source that hears that a channel is gone ends the calls that depend on the
other end of the channel.  For a sink these are the calls that were sent on the
channel.  For another source they need not be: a call through a source is sent
on the channel on which the source is reached, which can be one that the other
source opened, and the end of such a channel ends no call.
-/

namespace InputSharing.Source

namespace Turn

variable {τ : Type}

/-- A reaction ends the waiting calls that are doomed, the oldest first, and
leaves the others. -/
structure Ends (doomed : Call → Bool) (before after : Turn τ) : Prop where
  completions : after.completions =
    before.completions ++
      (before.source.pending.waiting.filter fun entry => doomed entry.1).map fun entry =>
        ⟨entry.2, .error .disconnected⟩
  waiting : after.source.pending.waiting =
    before.source.pending.waiting.filter fun entry => !doomed entry.1

theorem Ends.congr {doomed other : Call → Bool} {before after : Turn τ}
    (ends : Ends doomed before after)
    (agree : ∀ entry ∈ before.source.pending.waiting, doomed entry.1 = other entry.1) :
    Ends other before after where
  completions := by
    rw [ends.completions, List.filter_congr agree]
  waiting := by
    rw [ends.waiting]
    refine List.filter_congr ?_
    intro entry listed
    rw [agree entry listed]

/-- Which calls a reaction has ended can be told from those that are left. -/
theorem Ends.agree {doomed other : Call → Bool} {before after : Turn τ}
    (ends : Ends doomed before after) (also : Ends other before after) :
    ∀ entry ∈ before.source.pending.waiting, doomed entry.1 = other entry.1 := by
  intro entry listed
  have same := ends.waiting.symm.trans also.waiting
  have kept : entry ∈ before.source.pending.waiting.filter (fun entry => !doomed entry.1) ↔
      entry ∈ before.source.pending.waiting.filter (fun entry => !other entry.1) := by
    rw [same]
  rw [List.mem_filter, List.mem_filter] at kept
  have kept := and_congr_right_iff.1 kept listed
  cases left : doomed entry.1 <;> cases right : other entry.1 <;> simp_all

/-- The calls that depend on the other end of a channel. -/
def dependsOn (channel : Channel) (call : Call) : Bool :=
  match channel.remoteRole, channel.outbound with
  | .sink, _ => call.isTo channel.peer
  | .source, true => call.isThrough channel.peer
  | .source, false => false

variable [Transport τ] (turn : Turn τ)

theorem ends_dropSink (sink : DeviceId) :
    Ends (Call.isTo sink) turn (turn.dropSink sink) := by
  obtain ⟨counter, line, dropped⟩ := turn.sent_dropSink sink
  rw [dropped]
  exact ⟨rfl, rfl⟩

theorem ends_closed {session : SessionId} {channel : Channel}
    (known : turn.source.registry.bySession[session]? = some channel) :
    Ends (dependsOn channel) turn (turn.closed session) := by
  rw [turn.closed_of_known known]
  unfold dependsOn
  cases channel.remoteRole with
  | sink => exact ⟨((turn.without session).ends_dropSink channel.peer).completions,
      ((turn.without session).ends_dropSink channel.peer).waiting⟩
  | source =>
    cases channel.outbound with
    | true => exact ⟨rfl, rfl⟩
    | false =>
      refine ⟨?_, ?_⟩
      · rw [List.filter_false]
        exact (List.append_nil _).symm
      · rw [List.filter_eq_self.2]
        · rfl
        · intro _ _
          rfl

end Turn

/-! ## Calls and their channels -/

namespace Passage

variable {τ : Type} {device : DeviceId} {passage : Passage τ}

theorem isSentOn_iff {session : SessionId} {call : Call} :
    passage.isSentOn session call = true ↔ passage.carried.lookup call = some session :=
  decide_eq_true_iff

section Waiting

variable {entry : Call × Ticket} (placed : passage.turn.Placed passage.inbound passage.carried)
  (listed : entry ∈ passage.turn.source.pending.waiting)

include placed listed

theorem remote_of_isSentOn {session : SessionId} {channel : Channel}
    (known : passage.turn.source.registry.bySession[session]? = some channel)
    (sent : passage.isSentOn session entry.1 = true) : entry.1.remote = channel.remote := by
  obtain ⟨carrier, carries, _, onWay⟩ := placed.waiting entry listed
  have same := Option.some.inj (carries.symm.trans (isSentOn_iff.1 sent))
  exact (onWay.leads channel (same ▸ known)).symm

/-- A call that waits for a sink was sent on the only channel to the sink. -/
theorem isSentOn_of_sink (sink : entry.1.remote.role = .sink) :
    ∃ session ∈ passage.turn.source.registry.bySession,
      passage.turn.source.registry.byPeer[entry.1.remote]? = some session ∧
        passage.isSentOn session entry.1 = true := by
  obtain ⟨session, carries, _, onWay⟩ := placed.waiting entry listed
  have known := onWay.stands sink
  obtain ⟨channel, found⟩ := (Table.mem_iff_exists _ _).1 known
  have leads := onWay.leads channel found
  have role : channel.remoteRole = .sink := (congrArg Endpoint.role leads).trans sink
  refine ⟨session, known, ?_, isSentOn_iff.2 carries⟩
  rw [← leads]
  exact placed.coherent.reached session channel found role

theorem dependsOn_iff_isSentOn {session : SessionId} {channel : Channel}
    (known : passage.turn.source.registry.bySession[session]? = some channel) :
    Turn.dependsOn channel entry.1 = passage.isSentOn session entry.1 ↔
      (channel.remoteRole = .source → entry.1.isThrough channel.peer = true →
        passage.isSentOn session entry.1 = channel.outbound) := by
  have remote : channel.remote = ⟨channel.peer, channel.remoteRole⟩ := rfl
  have leads := remote_of_isSentOn placed listed known
  cases role : channel.remoteRole with
  | sink =>
    rw [role] at remote
    refine iff_of_true ?_ (fun source => absurd source (by decide))
    rw [Turn.dependsOn, role, Bool.eq_iff_iff, Call.isTo_iff, ← remote]
    constructor
    · intro there
      have sink : entry.1.remote.role = .sink := (congrArg Endpoint.role there).trans role
      obtain ⟨carrier, _, reached, sent⟩ := isSentOn_of_sink placed listed sink
      have alone := placed.coherent.reached session channel known role
      rw [there, alone] at reached
      rw [Option.some.inj reached]
      exact sent
    · exact leads
  | source =>
    rw [role] at remote
    have through : passage.isSentOn session entry.1 = true →
        entry.1.isThrough channel.peer = true := by
      intro sent
      rw [Call.isThrough_iff, leads sent, remote]
    rw [Turn.dependsOn, role, forall_prop_of_true rfl]
    cases channel.outbound with
    | true =>
      cases sent : passage.isSentOn session entry.1 with
      | true => simp [through sent]
      | false => simp
    | false =>
      cases sent : passage.isSentOn session entry.1 with
      | true => simp [through sent]
      | false => simp

end Waiting

variable [Transport τ]

/-- What happens to a source leaves waiting calls where they were sent. -/
theorem placed_undergo (occurrence : Occurrence)
    (distinct : (passage.undergo occurrence).sessions.Nodup)
    (placed : passage.sessions.Nodup →
      passage.turn.Placed passage.inbound passage.carried) :
    (passage.undergo occurrence).turn.Placed (passage.undergo occurrence).inbound
      (passage.undergo occurrence).carried := by
  have conveyed {after : Turn (Recorded τ)} (conveys : Turn.Conveys passage.turn after)
      (distinct : (passage.inbound ++ after.dialled).Nodup) :
      after.Placed passage.inbound passage.carried := by
    have earlier := distinct.sublist (conveys.dialled_grows.sublist.append_left passage.inbound)
    exact conveys.placed _ _ distinct (placed earlier)
  cases occurrence with
  | call ticket call =>
    have carries := passage.turn.carries_call ticket call
    have earlier := distinct.sublist (carries.dialled_grows.sublist.append_left passage.inbound)
    exact carries.placed _ _ distinct (placed earlier)
  | opened session peer =>
    have apart : ((passage.inbound ++ [session]) ++ passage.turn.dialled).Nodup := distinct
    have front : (passage.inbound ++ session :: passage.turn.dialled).Perm
        (session :: (passage.inbound ++ passage.turn.dialled)) :=
      List.perm_middle
    rw [List.append_assoc, List.singleton_append, front.nodup_iff, List.nodup_cons] at apart
    refine (placed apart.2).enter { peer, remoteRole := .source, session, outbound := false }
      apart.1 ?_ rfl rfl ?_
    · intro sink
      cases sink
    · intro tested either
      change tested ∈ (passage.inbound ++ [session]) ++ passage.turn.dialled
      rw [List.append_assoc, List.singleton_append, front.mem_iff, List.mem_cons]
      exact either
  | message now session message =>
    exact conveyed (passage.turn.conveys_handle now session message) distinct
  | closed session => exact conveyed (passage.turn.conveys_closed session) distinct
  | tick now => exact conveyed (passage.turn.conveys_tick now) distinct

theorem Reached.placed (reached : Reached device passage)
    (distinct : passage.sessions.Nodup) :
    passage.turn.Placed passage.inbound passage.carried := by
  induction reached with
  | start line =>
    refine ⟨Registry.coherent_empty, ?_, ?_⟩
    · intro session known
      exact absurd known Std.ExtTreeMap.not_mem_empty
    · intro entry listed
      cases listed
  | undergo occurrence _ inductionHypothesis =>
    exact placed_undergo occurrence distinct inductionHypothesis
  | elsewhere line _ inductionHypothesis =>
    have placed := inductionHypothesis distinct
    exact ⟨placed.coherent, placed.known_past, placed.waiting⟩

end Passage

/-- Every call that waits for a sink was sent on the channel on which the sink is
reached, and a channel that is gone ends exactly the calls that were sent on it,
unless it led to another source: then it must be the channel of all calls through
that source, if it was opened from this side, and of none, if it was not. -/
theorem closed_ends_sent_iff {τ : Type} [Transport τ] {device : DeviceId}
    {passage : Passage τ} (reached : passage.Reached device)
    (distinct : passage.sessions.Nodup) :
    (∀ entry ∈ passage.turn.source.pending.waiting, ∀ sink request,
      entry.1 = .direct sink request →
        ∃ session ∈ passage.turn.source.registry.bySession,
          passage.turn.source.registry.channel? sink .sink = some session ∧
            passage.isSentOn session entry.1 = true) ∧
    ∀ (session : SessionId) (channel : Channel),
      passage.turn.source.registry.bySession[session]? = some channel →
        (Turn.Ends (passage.isSentOn session) passage.turn (passage.turn.closed session) ↔
          (channel.remoteRole = .source →
            ∀ entry ∈ passage.turn.source.pending.waiting,
              entry.1.isThrough channel.peer = true →
                passage.isSentOn session entry.1 = channel.outbound)) := by
  have placed := reached.placed distinct
  constructor
  · intro entry listed sink request direct
    have remote : entry.1.remote = ⟨sink, .sink⟩ := by
      rw [direct]
      rfl
    obtain ⟨session, known, there, sent⟩ :=
      Passage.isSentOn_of_sink placed listed (congrArg Endpoint.role remote)
    rw [remote] at there
    exact ⟨session, known, there, sent⟩
  · intro session channel known
    have ends := passage.turn.ends_closed known
    constructor
    · intro sent source entry listed
      have agree := ends.agree sent entry listed
      exact (Passage.dependsOn_iff_isSentOn placed listed known).1 agree source
    · intro condition
      refine ends.congr ?_
      intro entry listed
      refine (Passage.dependsOn_iff_isSentOn placed listed known).2 ?_
      intro source
      exact condition source entry listed

/-- The tablet has opened a channel to the desk, which has then asked the tablet to
turn to the phone. -/
def entrusted : Passage Scripted :=
  let start : Passage Scripted :=
    { turn := { source := { device := ⟨"desk"⟩ }, line := { line := Scripted.enable {} ⟨1⟩ } } }
  let opened := start.undergo (.opened ⟨1⟩ ⟨"tablet"⟩)
  opened.undergo (.call 0 (.relayed ⟨"tablet"⟩ ⟨"phone"⟩ .prepare))

theorem reached_entrusted : entrusted.Reached ⟨"desk"⟩ :=
  .undergo (.call 0 (.relayed ⟨"tablet"⟩ ⟨"phone"⟩ .prepare))
    (.undergo (.opened ⟨1⟩ ⟨"tablet"⟩) (.start (Scripted.enable {} ⟨1⟩)))

theorem closed_ends_sent_entrusted :
    entrusted.Reached ⟨"desk"⟩ ∧ entrusted.sessions.Nodup ∧
      ∀ (session : SessionId) (channel : Channel),
        entrusted.turn.source.registry.bySession[session]? = some channel →
          (Turn.Ends (entrusted.isSentOn session) entrusted.turn
              (entrusted.turn.closed session) ↔
            (channel.remoteRole = .source →
              ∀ entry ∈ entrusted.turn.source.pending.waiting,
                entry.1.isThrough channel.peer = true →
                  entrusted.isSentOn session entry.1 = channel.outbound)) := by
  have distinct : entrusted.sessions.Nodup := by decide +kernel
  exact ⟨reached_entrusted, distinct, (closed_ends_sent_iff reached_entrusted distinct).2⟩

/-- The channel closes, and the call that was sent on it goes on waiting. -/
theorem closed_keeps_sent :
    let call : Call := .relayed ⟨"tablet"⟩ ⟨"phone"⟩ .prepare
    let after := entrusted.turn.closed ⟨1⟩
    entrusted.Reached ⟨"desk"⟩ ∧ entrusted.sessions.Nodup ∧
      entrusted.turn.source.registry.bySession.contains ⟨1⟩ = true ∧
      entrusted.isSentOn ⟨1⟩ call = true ∧
      (call, 0) ∈ entrusted.turn.source.pending.waiting ∧
      after.source.registry.bySession.contains ⟨1⟩ = false ∧
      (call, 0) ∈ after.source.pending.waiting ∧ after.completions.length = 0 :=
  ⟨reached_entrusted, by decide +kernel, by decide +kernel, by decide +kernel,
    by decide +kernel, by decide +kernel, by decide +kernel, by decide +kernel⟩

end InputSharing.Source
