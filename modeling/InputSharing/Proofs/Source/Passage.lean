import InputSharing.Proofs.Registry
import InputSharing.Proofs.Source.History
import InputSharing.Proofs.Source.Parts
import InputSharing.Proofs.Source.Tickets

/-!
# The channels of calls

A `Passage` is a turn together with what its history has to do with channels:
those that other nodes opened, and the channel on which the message of each call
was sent.  Which channels the source has opened itself is read off the record of
its transport.

As long as no session is used twice, the message of a waiting call was sent on a
channel to the endpoint that the call is for.  For a call to a sink this channel
is still there; for a call through another source it may be gone.
-/

namespace InputSharing

theorem Call.isTo_iff {sink : DeviceId} {call : Call} :
    call.isTo sink = true ↔ call.remote = ⟨sink, .sink⟩ := by
  cases call <;> simp [Call.isTo, Call.remote]

theorem Call.isThrough_iff {source : DeviceId} {call : Call} :
    call.isThrough source = true ↔ call.remote = ⟨source, .source⟩ := by
  cases call <;> simp [Call.isThrough, Call.remote]

/-- A session is that of a channel to an endpoint, unless the channel is gone.
Channels to sinks are not gone. -/
structure Registry.OnWay (registry : Registry) (remote : Endpoint) (session : SessionId) :
    Prop where
  leads : ∀ channel : Channel, registry.bySession[session]? = some channel →
    channel.remote = remote
  stands : remote.role = .sink → session ∈ registry.bySession

theorem Registry.OnWay.enter {registry : Registry} {remote : Endpoint} {session : SessionId}
    (onWay : registry.OnWay remote session) {channel : Channel}
    (other : channel.session ≠ session) : (registry.enter channel).OnWay remote session := by
  have same : (registry.enter channel).bySession[session]? = registry.bySession[session]? := by
    change (registry.bySession.insert channel.session channel)[session]? = _
    rw [Table.getElem?_insert_eq, if_neg other]
  refine ⟨?_, ?_⟩
  · rw [same]
    exact onWay.leads
  · intro sink
    rw [Table.mem_iff_exists, same, ← Table.mem_iff_exists]
    exact onWay.stands sink

namespace Deed

/-- The session of a channel that was opened. -/
def dialled? : Deed → Option SessionId
  | .dialled _ (.ok session) => some session
  | _ => none

/-- The session of a frame that was accepted. -/
def accepted? : Deed → Option SessionId
  | .transmitted session _ (.ok ()) => some session
  | _ => none

end Deed

namespace Source

namespace Turn

variable {τ : Type}

/-- The channels that a source has opened, the first one first. -/
def dialled (turn : Turn (Recorded τ)) : List SessionId :=
  turn.line.deeds.filterMap Deed.dialled?

/-- The channel on which the message of a call is sent, if the call is let
through. -/
def carrier? [Transport τ] (turn : Turn (Recorded τ)) (ticket : Ticket) (call : Call) :
    Option SessionId :=
  match turn.call ticket call with
  | (.error _, _) => none
  | (.ok (), after) => after.line.deeds.getLast?.bind Deed.accepted?

end Turn

/-! ## Passages -/

/-- A turn and the channels of its past. -/
structure Passage (τ : Type) where
  turn : Turn (Recorded τ)
  /-- The channels that other nodes opened, the first one first. -/
  inbound : List SessionId := []
  /-- The channels on which calls were sent, the last one first. -/
  carried : List (Call × SessionId) := []

namespace Passage

variable {τ : Type} [Transport τ]

def undergo (passage : Passage τ) (occurrence : Occurrence) : Passage τ :=
  let turn := passage.turn.undergo occurrence
  match occurrence with
  | .call ticket call =>
      let carrier := (passage.turn.carrier? ticket call).map fun session => (call, session)
      { passage with turn, carried := carrier.toList ++ passage.carried }
  | .opened session _ => { passage with turn, inbound := passage.inbound ++ [session] }
  | _ => { passage with turn }

/-- The sessions of all channels that the source ever had. -/
def sessions (passage : Passage τ) : List SessionId :=
  passage.inbound ++ passage.turn.dialled

/-- Whether the message of a call was last sent on a channel. -/
def isSentOn (passage : Passage τ) (session : SessionId) (call : Call) : Bool :=
  passage.carried.lookup call = some session

/-- The passages of the source of a node. -/
inductive Reached (device : DeviceId) : Passage τ → Prop
  | start (line : τ) :
      Reached device { turn := { source := { device }, line := { line } } }
  | undergo {passage : Passage τ} (occurrence : Occurrence) :
      Reached device passage → Reached device (passage.undergo occurrence)
  /-- The transport changes by itself. -/
  | elsewhere {passage : Passage τ} (line : τ) :
      Reached device passage →
      Reached device
        { passage with turn := { passage.turn with line := { passage.turn.line with line } } }

end Passage

/-! ## Where waiting calls were sent -/

namespace Turn

variable {τ : Type}

/-- Every waiting call was sent on a channel to the endpoint it is for. -/
structure Placed (inbound : List SessionId) (carried : List (Call × SessionId))
    (turn : Turn (Recorded τ)) : Prop where
  coherent : turn.source.registry.Coherent
  known_past : ∀ session ∈ turn.source.registry.bySession,
    session ∈ inbound ++ turn.dialled
  waiting : ∀ entry ∈ turn.source.pending.waiting, ∃ session,
    carried.lookup entry.1 = some session ∧ session ∈ inbound ++ turn.dialled ∧
      turn.source.registry.OnWay entry.1.remote session

/-- One more channel is entered, under a session that was never used. -/
theorem Placed.enter {inbound entered : List SessionId} {carried : List (Call × SessionId)}
    {before after : Turn (Recorded τ)} (placed : before.Placed inbound carried)
    (channel : Channel) (fresh : channel.session ∉ inbound ++ before.dialled)
    (first : channel.remoteRole = .sink → before.source.registry.byPeer[channel.remote]? = none)
    (registry : after.source.registry = before.source.registry.enter channel)
    (waiting : after.source.pending.waiting = before.source.pending.waiting)
    (sessions : ∀ session, session = channel.session ∨ session ∈ inbound ++ before.dialled →
      session ∈ entered ++ after.dialled) :
    after.Placed entered carried where
  coherent := by
    rw [registry]
    exact placed.coherent.enter (fun known => fresh (placed.known_past _ known)) first
  known_past := by
    intro session known
    rw [registry] at known
    change session ∈ before.source.registry.bySession.insert channel.session channel at known
    apply sessions
    rcases Std.ExtTreeMap.mem_insert.1 known with same | earlier
    · exact Or.inl (Std.compare_eq_iff_eq.1 same).symm
    · exact Or.inr (placed.known_past session earlier)
  waiting := by
    intro entry listed
    rw [waiting] at listed
    obtain ⟨session, carrier, past, onWay⟩ := placed.waiting entry listed
    have other : channel.session ≠ session := by
      intro same
      exact fresh (same ▸ past)
    rw [registry]
    exact ⟨session, carrier, sessions session (Or.inr past), onWay.enter other⟩

/-- A channel is gone, and no call waits for a sink at its other end. -/
theorem Placed.leave {inbound : List SessionId} {carried : List (Call × SessionId)}
    {before after : Turn (Recorded τ)} (placed : before.Placed inbound carried)
    {session : SessionId} {channel : Channel}
    (known : before.source.registry.bySession[session]? = some channel)
    (bySession : after.source.registry.bySession = before.source.registry.bySession.erase session)
    (byPeer : after.source.registry.byPeer =
      (before.source.registry.closed session).2.byPeer)
    (dialled : before.dialled <+: after.dialled)
    (waiting : ∀ entry ∈ after.source.pending.waiting,
      entry ∈ before.source.pending.waiting ∧
        (channel.remoteRole = .sink → entry.1.remote ≠ channel.remote)) :
    after.Placed inbound carried := by
  have closed := placed.coherent.closed session
  have erased := before.source.registry.bySession_closed session
  have past := (dialled.sublist.append_left inbound).subset
  refine ⟨⟨?_, ?_⟩, ?_, ?_⟩
  · rw [byPeer, bySession, ← erased]
    exact closed.leads
  · rw [byPeer, bySession, ← erased]
    exact closed.reached
  · intro tested present
    rw [bySession] at present
    exact past (placed.known_past tested ((Table.mem_erase_iff _ _ _).1 present).2)
  · intro entry listed
    obtain ⟨earlier, elsewhere⟩ := waiting entry listed
    obtain ⟨tested, carrier, used, leads, stands⟩ := placed.waiting entry earlier
    refine ⟨tested, carrier, past used, ?_, ?_⟩
    · intro found present
      rw [bySession, Table.getElem?_erase_eq] at present
      split at present
      · cases present
      · exact leads found present
    · intro sink
      rw [bySession, Table.mem_erase_iff]
      refine ⟨?_, stands sink⟩
      intro same
      have remote := leads channel (same ▸ known)
      exact elsewhere ((congrArg Endpoint.role remote).trans sink) remote.symm

/-- A reaction leaves waiting calls where they were sent. -/
structure Conveys (before after : Turn (Recorded τ)) : Prop where
  dialled_grows : before.dialled <+: after.dialled
  placed : ∀ inbound carried, (inbound ++ after.dialled).Nodup →
    before.Placed inbound carried → after.Placed inbound carried

namespace Conveys

variable {before middle after : Turn (Recorded τ)}

/-- Calls may end, and what is not about channels may change. -/
theorem of_same (bySession : after.source.registry.bySession = before.source.registry.bySession)
    (byPeer : after.source.registry.byPeer = before.source.registry.byPeer)
    (dialled : after.dialled = before.dialled)
    (fewer : after.source.pending.waiting ⊆ before.source.pending.waiting) :
    Conveys before after where
  dialled_grows := by
    simp only [dialled, List.prefix_rfl]
  placed := by
    intro inbound carried _ placed
    refine ⟨⟨?_, ?_⟩, ?_, ?_⟩
    · rw [bySession, byPeer]
      exact placed.coherent.leads
    · rw [bySession, byPeer]
      exact placed.coherent.reached
    · rw [bySession, dialled]
      exact placed.known_past
    · intro entry listed
      obtain ⟨session, carrier, past, leads, stands⟩ := placed.waiting entry (fewer listed)
      rw [dialled]
      refine ⟨session, carrier, past, ?_, ?_⟩
      · rw [bySession]
        exact leads
      · rw [bySession]
        exact stands

theorem refl (turn : Turn (Recorded τ)) : Conveys turn turn :=
  of_same rfl rfl rfl (List.Subset.refl _)

theorem trans (first : Conveys before middle) (second : Conveys middle after) :
    Conveys before after where
  dialled_grows := first.dialled_grows.trans second.dialled_grows
  placed := by
    intro inbound carried distinct placed
    have shorter : (inbound ++ middle.dialled).Nodup :=
      distinct.sublist (second.dialled_grows.sublist.append_left inbound)
    exact second.placed inbound carried distinct (first.placed inbound carried shorter placed)

theorem foldl {α : Type} (act : Turn (Recorded τ) → α → Turn (Recorded τ))
    (conveys : ∀ turn item, Conveys turn (act turn item)) (items : List α)
    (turn : Turn (Recorded τ)) : Conveys turn (items.foldl act turn) := by
  induction items generalizing turn with
  | nil =>
      exact Conveys.refl turn
  | cons first rest inductionHypothesis =>
      exact (conveys turn first).trans (inductionHypothesis (act turn first))

end Conveys

/-- A reaction sends the messages of some calls, which then wait. -/
structure Carries (added : List (Call × SessionId)) (before after : Turn (Recorded τ)) :
    Prop where
  dialled_grows : before.dialled <+: after.dialled
  placed : ∀ inbound carried, (inbound ++ after.dialled).Nodup →
    before.Placed inbound carried → after.Placed inbound (added ++ carried)

theorem Conveys.carries {added : List (Call × SessionId)} {before middle after : Turn (Recorded τ)}
    (conveys : Conveys before middle) (carries : Carries added middle after) :
    Carries added before after where
  dialled_grows := conveys.dialled_grows.trans carries.dialled_grows
  placed := by
    intro inbound carried distinct placed
    have shorter : (inbound ++ middle.dialled).Nodup :=
      distinct.sublist (carries.dialled_grows.sublist.append_left inbound)
    exact carries.placed inbound carried distinct
      (conveys.placed inbound carried shorter placed)

/-! ## Reactions without channels -/

section Bookkeeping

variable (turn : Turn (Recorded τ))

theorem conveys_complete (call : Call) (outcome : Outcome) :
    Conveys turn (turn.complete call outcome) := by
  refine Conveys.of_same rfl rfl rfl ?_
  let ended : Option (Completion Grant) × Pending Call :=
    turn.source.pending.complete call outcome
  change ended.2.waiting ⊆ _
  unfold ended
  rw [Pending.complete]
  split
  · exact List.Subset.refl _
  · exact List.filter_subset_self _

theorem conveys_inject (sink : DeviceId) (events : List InputEvent) :
    Conveys turn (turn.inject sink events) := by
  rw [inject]
  split
  · exact Conveys.of_same rfl rfl rfl (List.Subset.refl _)
  · exact Conveys.refl turn

theorem conveys_absorb (sink : DeviceId) (reply : Reply) :
    Conveys turn (turn.absorb sink reply) := by
  rw [absorb.eq_def]
  split
  · split
    · exact Conveys.of_same rfl rfl rfl (List.Subset.refl _)
    · exact Conveys.refl turn
    · exact Conveys.of_same rfl rfl rfl (List.Subset.refl _)
  · exact Conveys.refl turn

theorem carries_refuse (ticket : Ticket) (error : SharingError) :
    Carries [] turn (turn.refuse ticket error).2 where
  dialled_grows := List.prefix_refl _
  placed := fun _ _ _ placed => ⟨placed.coherent, placed.known_past, placed.waiting⟩

/-- A call that is let through waits, and its message was sent to its endpoint. -/
theorem carries_await (ticket : Ticket) {call : Call} {session : SessionId}
    (new : turn.source.pending.contains call = false)
    (reached : turn.source.registry.byPeer[call.remote]? = some session) :
    Carries [(call, session)] turn (turn.await ticket call) := by
  refine ⟨List.prefix_refl _, ?_⟩
  intro inbound carried _ placed
  have waiting : (turn.await ticket call).source.pending.waiting =
      turn.source.pending.waiting ++ [(call, ticket)] := by
    rw [await, Pending.insert, new]
    rfl
  obtain ⟨channel, found, leads⟩ := placed.coherent.leads _ _ reached
  have known := Table.mem_of_getElem? found
  refine ⟨placed.coherent, placed.known_past, ?_⟩
  intro entry listed
  rw [waiting] at listed
  rcases List.mem_append.1 listed with earlier | last
  · obtain ⟨carrier, carries, past, onWay⟩ := placed.waiting entry earlier
    have other : entry.1 ≠ call := by
      intro same
      exact Pending.not_mem_keys new (same ▸ List.mem_map_of_mem earlier)
    refine ⟨carrier, ?_, past, onWay⟩
    rw [List.singleton_append, List.lookup_cons, beq_eq_false_iff_ne.2 other]
    exact carries
  · rw [List.mem_singleton.1 last]
    refine ⟨session, List.lookup_cons_self, placed.known_past session known, ?_, ?_⟩
    · intro tested present
      have same := Option.some.inj (found.symm.trans present)
      rw [← same]
      exact leads
    · intro _
      exact known

end Bookkeeping

/-! ## Sending and connecting -/

section Sending

variable [Transport τ] (turn : Turn (Recorded τ))

theorem dialled_send (session : SessionId) (message : Message) :
    (turn.send session message).2.dialled = turn.dialled := by
  obtain ⟨sequence, answer, deeds⟩ := turn.deeds_send session message
  rw [dialled, deeds, List.filterMap_append]
  exact List.append_nil _

theorem conveys_send (session : SessionId) (message : Message) :
    Conveys turn (turn.send session message).2 := by
  obtain ⟨counter, line, sent⟩ := turn.sent_send session message
  refine Conveys.of_same ?_ ?_ (turn.dialled_send session message) ?_
  · rw [sent]
  · rw [sent]
  · rw [sent]
    exact List.Subset.refl _

theorem conveys_reportLoss (correlation : Correlation) :
    Conveys turn (turn.reportLoss correlation) := by
  rw [reportLoss]
  split
  · exact Conveys.refl turn
  · exact turn.conveys_send _ _

theorem conveys_tick (now : UInt64) : Conveys turn (turn.tick now) := by
  refine Conveys.foldl (probe now) ?_ _ turn
  intro turn sink
  rw [probe]
  split
  · exact Conveys.refl turn
  · exact turn.conveys_send _ _

theorem conveys_completeRelay (token : RelayToken) (message : Correlation → Message) :
    Conveys turn (turn.completeRelay token message) := by
  have usedUp : Conveys turn (turn.withLive (turn.source.relays.live.erase token)) :=
    Conveys.of_same rfl rfl rfl (List.Subset.refl _)
  obtain silent | ⟨correlation, origin, _, _, reported⟩ := turn.completeRelay_cases token message
  · rw [silent]
    exact usedUp
  · rw [reported]
    exact usedUp.trans (conveys_send _ _ _)

/-- A source that knows no channel to an endpoint asks its transport for one. -/
theorem connect_of_unknown {peer : DeviceId} {role : Role}
    (unknown : turn.source.registry.channel? peer role = none) :
    (∃ refusal line, turn.connect peer role =
      (.error (.channelOpenFailed refusal.message),
        { turn with
          line := ⟨line, turn.line.deeds ++ [.dialled ⟨peer, role⟩ (.error refusal)]⟩ })) ∨
    (∃ session line, turn.connect peer role =
      (.ok session,
        turn.withChannels
          ⟨turn.source.registry.enter { peer, remoteRole := role, session, outbound := true },
            ⟨line, turn.line.deeds ++ [.dialled ⟨peer, role⟩ (.ok session)]⟩⟩)) := by
  have asked : turn.channels.registry.channel? peer role = none := unknown
  rcases dialled : Transport.dial turn.line.line peer role with ⟨answer, line⟩
  have recorded : Transport.dial turn.channels.line peer role =
      ((Transport.dial turn.line.line peer role).1,
        ⟨(Transport.dial turn.line.line peer role).2,
          turn.line.deeds ++
            [.dialled ⟨peer, role⟩ (Transport.dial turn.line.line peer role).1]⟩) :=
    rfl
  rw [dialled] at recorded
  rw [connect, Channels.connect, asked]
  dsimp only
  rw [recorded]
  cases answer with
  | error refusal => exact Or.inl ⟨refusal, line, rfl⟩
  | ok session => exact Or.inr ⟨session, line, rfl⟩

theorem conveys_connect (peer : DeviceId) (role : Role) :
    Conveys turn (turn.connect peer role).2 := by
  cases known : turn.source.registry.channel? peer role with
  | some session =>
    have same : (turn.connect peer role).2 = turn := by
      rw [connect, turn.channels.connect_of_known known]
      rfl
    rw [same]
    exact Conveys.refl turn
  | none =>
    obtain ⟨refusal, line, connected⟩ | ⟨session, line, connected⟩ :=
      turn.connect_of_unknown known
    · rw [connected]
      refine Conveys.of_same rfl rfl ?_ (List.Subset.refl _)
      change List.filterMap Deed.dialled? (_ ++ _) = _
      rw [List.filterMap_append]
      exact List.append_nil _
    · have record : (turn.connect peer role).2.dialled = turn.dialled ++ [session] := by
        rw [connected]
        change List.filterMap Deed.dialled? (_ ++ _) = _
        rw [List.filterMap_append]
        rfl
      refine ⟨?_, ?_⟩
      · rw [record]
        exact List.prefix_append _ _
      · intro inbound carried distinct placed
        rw [record, ← List.append_assoc] at distinct
        have fresh : session ∉ inbound ++ turn.dialled := by
          intro earlier
          exact (List.nodup_append.1 distinct).2.2 session earlier session
            (List.mem_singleton_self session) rfl
        refine placed.enter { peer, remoteRole := role, session, outbound := true } fresh
          (fun _ => known) ?_ ?_ ?_
        · rw [connected]
          rfl
        · rw [connected]
          rfl
        · intro tested either
          rw [record, ← List.append_assoc]
          rcases either with same | earlier
          · rw [same]
            exact List.mem_append_right _ (List.mem_singleton_self session)
          · exact List.mem_append_left _ earlier

/-! ## The end of channels -/

theorem conveys_dropSink (sink : DeviceId) : Conveys turn (turn.dropSink sink) := by
  have forgotten :
      Conveys turn ((turn.forget sink).failWhere (Call.isTo sink) .disconnected) :=
    Conveys.of_same rfl rfl rfl (List.filter_subset_self _)
  exact forgotten.trans (Conveys.foldl reportLoss conveys_reportLoss _ _)

/-- No call is left that waits for a sink that is dropped. -/
theorem waiting_of_dropSink {sink : DeviceId} {entry : Call × Ticket}
    (listed : entry ∈ (turn.dropSink sink).source.pending.waiting) :
    entry ∈ turn.source.pending.waiting ∧ entry.1.remote ≠ ⟨sink, .sink⟩ := by
  rw [waiting_dropSink] at listed
  obtain ⟨earlier, kept⟩ := List.mem_filter.1 listed
  refine ⟨earlier, ?_⟩
  intro there
  rw [Call.isTo_iff.2 there] at kept
  cases kept

theorem conveys_retire (sink : DeviceId) : Conveys turn (turn.retire sink) := by
  have dropped := turn.conveys_dropSink sink
  cases known : (turn.dropSink sink).channels.registry.channel? sink .sink with
  | none =>
    rw [retire, (turn.dropSink sink).channels.disconnect_of_unknown known]
    exact dropped
  | some session =>
    have record : (turn.retire sink).dialled = (turn.dropSink sink).dialled := by
      rw [retire, Channels.disconnect, known]
      change List.filterMap Deed.dialled? (_ ++ _) = _
      rw [List.filterMap_append]
      exact List.append_nil _
    refine ⟨record ▸ dropped.dialled_grows, ?_⟩
    intro inbound carried distinct placed
    rw [record] at distinct
    have before := dropped.placed inbound carried distinct placed
    obtain ⟨channel, found, leads⟩ := before.coherent.leads _ _ known
    have disconnected :=
      (turn.dropSink sink).channels.disconnect_of_known before.coherent known
    refine before.leave found ?_ ?_ (record ▸ List.prefix_refl _) ?_
    · rw [retire, disconnected, ← Registry.bySession_closed]
      rfl
    · rw [retire, disconnected]
      rfl
    · intro entry listed
      have kept := turn.waiting_of_dropSink listed
      refine ⟨listed, fun _ => ?_⟩
      rw [leads]
      exact kept.2

/-- The end of a channel leaves the calls that do not wait for a sink at its other
end where they were sent. -/
theorem conveys_closed (session : SessionId) : Conveys turn (turn.closed session) := by
  cases known : turn.source.registry.bySession[session]? with
  | none =>
    rw [turn.closed_of_unknown known]
    exact Conveys.refl turn
  | some channel =>
    have erased := turn.source.registry.bySession_closed session
    have closed := turn.closed_of_known known
    cases role : channel.remoteRole with
    | sink =>
      rw [role] at closed
      obtain ⟨counter, line, sent⟩ := (turn.without session).sent_dropSink channel.peer
      have record : turn.dialled <+: (turn.closed session).dialled := by
        rw [closed]
        exact ((turn.without session).conveys_dropSink channel.peer).dialled_grows
      refine ⟨record, ?_⟩
      intro inbound carried _ placed
      refine placed.leave known ?_ ?_ record ?_
      · rw [closed, sent]
        exact erased
      · rw [closed, sent]
        rfl
      · intro entry listed
        rw [closed] at listed
        have kept := (turn.without session).waiting_of_dropSink listed
        have remote : channel.remote = ⟨channel.peer, .sink⟩ := by
          rw [Channel.remote, role]
        exact ⟨kept.1, fun _ => remote ▸ kept.2⟩
    | source =>
      have elsewhere : channel.remoteRole ≠ .sink := by
        rw [role]
        decide
      have kept (after : Turn (Recorded τ))
          (registry : after.source.registry = (turn.without session).source.registry)
          (record : turn.dialled <+: after.dialled)
          (waiting : after.source.pending.waiting ⊆ turn.source.pending.waiting) :
          Conveys turn after := by
        refine ⟨record, ?_⟩
        intro inbound carried _ placed
        refine placed.leave known ?_ ?_ record ?_
        · rw [registry]
          exact erased
        · rw [registry]
          rfl
        · intro entry listed
          exact ⟨waiting listed, fun sink => absurd sink elsewhere⟩
      rw [role] at closed
      cases outbound : channel.outbound with
      | true =>
        rw [outbound] at closed
        rw [closed]
        exact kept _ rfl (List.prefix_refl _) (List.filter_subset_self _)
      | false =>
        rw [outbound] at closed
        rw [closed]
        exact kept _ rfl (List.prefix_refl _) (List.Subset.refl _)

/-! ## Messages -/

theorem conveys_retireIfUnprepared (sink : DeviceId) (reply : Reply) :
    Conveys turn (turn.retireIfUnprepared sink reply) := by
  rw [retireIfUnprepared.eq_def]
  split
  · split
    · exact turn.conveys_retire sink
    · exact Conveys.refl turn
  · exact Conveys.refl turn

theorem conveys_onReply (sink : DeviceId) (reply : Reply) :
    Conveys turn (turn.onReply sink reply) :=
  ((turn.conveys_absorb sink reply).trans (conveys_complete _ _ _)).trans
    (conveys_retireIfUnprepared _ sink reply)

theorem conveys_onRelayedReply (sink : DeviceId) (token : RelayToken) (reply : Reply) :
    Conveys turn (turn.onRelayedReply sink token reply) := by
  rw [onRelayedReply]
  split
  · exact Conveys.refl turn
  · split
    · exact ((turn.conveys_absorb sink reply).trans (conveys_completeRelay _ _ _)).trans
        (conveys_retireIfUnprepared _ sink reply)
    · exact Conveys.refl turn

theorem conveys_passOn (session : SessionId) (inquiry : Inquiry) :
    Conveys turn (turn.passOn session inquiry).2 := by
  have started (relays : Relays) :
      Conveys turn { turn with source := { turn.source with relays } } :=
    Conveys.of_same rfl rfl rfl (List.Subset.refl _)
  exact (started _).trans (conveys_send _ _ _)

theorem conveys_forward (inquiry : Inquiry) :
    Conveys turn
      (turn.forward inquiry.origin inquiry.source inquiry.sink inquiry.request) := by
  have connected := turn.conveys_connect inquiry.sink .sink
  have passes (session : SessionId) := connected.trans (conveys_passOn _ session inquiry)
  obtain ⟨result, refused⟩ | ⟨session, _, passed | ⟨result, settled⟩⟩ := turn.forward_cases inquiry
  · rw [refused]
    exact connected.trans (conveys_send _ _ _)
  · rw [passed]
    exact passes session
  · rw [settled]
    exact (passes session).trans (conveys_completeRelay _ _ _)

theorem conveys_onMessage (now : UInt64) (session : SessionId) (peer : DeviceId)
    (message : Message) : Conveys turn (turn.onMessage now session peer message) := by
  cases message with
  | reply _ reply => exact turn.conveys_onReply peer reply
  | keyState _ key => exact turn.conveys_inject peer _
  | keyStates _ keys => exact turn.conveys_inject peer _
  | inputEvents _ events => exact turn.conveys_inject peer events
  | latencyEcho _ sentAtUs => exact Conveys.of_same rfl rfl rfl (List.Subset.refl _)
  | relayedReply token _ reply => exact turn.conveys_onRelayedReply peer token reply
  | relayRequest _ source sink request =>
    exact turn.conveys_forward ⟨session, source, sink, request⟩
  | relayResult source sink result => exact turn.conveys_complete _ _
  | request _ _ | latencyProbe _ _ | relayed _ _ _ => exact Conveys.refl turn

theorem conveys_handle (now : UInt64) (session : SessionId) (message : Message) :
    Conveys turn (turn.handle now session message) := by
  rw [handle]
  split
  · exact Conveys.refl turn
  · exact turn.conveys_onMessage now session _ message

/-! ## Calls -/

theorem byPeer_connect {peer : DeviceId} {role : Role} {session : SessionId}
    {reached : Turn (Recorded τ)} (found : turn.connect peer role = (.ok session, reached)) :
    reached.source.registry.byPeer[(⟨peer, role⟩ : Endpoint)]? = some session := by
  cases known : turn.source.registry.channel? peer role with
  | some session =>
    rw [connect, turn.channels.connect_of_known known] at found
    cases found
    exact known
  | none =>
    obtain ⟨refusal, line, connected⟩ | ⟨session, line, connected⟩ :=
      turn.connect_of_unknown known
    · rw [connected] at found
      cases found
    · rw [connected] at found
      cases found
      exact Std.ExtTreeMap.getElem?_insert_self

/-- A call is sent on the channel on which its endpoint is reached. -/
theorem byPeer_channelFor {call : Call} {session : SessionId} {reached : Turn (Recorded τ)}
    (found : turn.channelFor call = (.ok session, reached)) :
    reached.source.registry.byPeer[call.remote]? = some session := by
  have existing {sink : DeviceId} (found : turn.existing sink = (.ok session, reached)) :
      reached.source.registry.byPeer[(⟨sink, .sink⟩ : Endpoint)]? = some session := by
    rw [Turn.existing] at found
    split at found
    · next known =>
      cases found
      exact known
    · cases found
  rw [channelFor.eq_def] at found
  split at found
  · exact turn.byPeer_connect found
  · exact existing found
  · split at found
    · exact existing found
    · cases found
  · exact turn.byPeer_connect found

/-- A message is sent if the transport takes its frame, and else it is not. -/
theorem send_cases (session : SessionId) (message : Message) :
    (∃ channels sequence refusal,
      turn.send session message =
        (.error (.sendFailed refusal.message), turn.withChannels channels) ∧
      channels.registry.byPeer = turn.source.registry.byPeer ∧
      channels.line.deeds =
        turn.line.deeds ++
          [.transmitted session (.composed sequence message) (.error refusal)]) ∨
    (∃ channels sequence,
      turn.send session message = (.ok (), turn.withChannels channels) ∧
      channels.registry.byPeer = turn.source.registry.byPeer ∧
      channels.line.deeds =
        turn.line.deeds ++ [.transmitted session (.composed sequence message) (.ok ())]) := by
  let parcel : Parcel := .composed turn.channels.registry.counter.next.1 message
  have recorded : Transport.transmit turn.channels.line session parcel =
      ((Transport.transmit turn.line.line session parcel).1,
        ⟨(Transport.transmit turn.line.line session parcel).2,
          turn.line.deeds ++
            [.transmitted session parcel (Transport.transmit turn.line.line session parcel).1]⟩) :=
    rfl
  rcases transmitted : Transport.transmit turn.line.line session parcel with ⟨answer, line⟩
  rw [transmitted] at recorded
  unfold send Channels.send
  dsimp only
  rw [recorded]
  cases answer with
  | error refusal => exact Or.inl ⟨_, _, refusal, rfl, rfl, rfl⟩
  | ok accepted => exact Or.inr ⟨_, _, rfl, rfl, rfl⟩

theorem deeds_of_send {session : SessionId} {message : Message} {after : Turn (Recorded τ)}
    (sent : turn.send session message = (.ok (), after)) :
    ∃ sequence, after.line.deeds =
      turn.line.deeds ++ [.transmitted session (.composed sequence message) (.ok ())] := by
  obtain ⟨_, _, _, refused, _⟩ | ⟨channels, sequence, accepted, _, deeds⟩ :=
    turn.send_cases session message
  · rw [sent] at refused
    cases refused
  · rw [sent] at accepted
    cases accepted
    exact ⟨sequence, deeds⟩

theorem conveys_channelFor (call : Call) : Conveys turn (turn.channelFor call).2 := by
  have existing (sink : DeviceId) : Conveys turn (turn.existing sink).2 := by
    rw [Turn.existing]
    split
    · exact Conveys.refl turn
    · exact Conveys.refl turn
  rw [channelFor.eq_def]
  split
  · exact turn.conveys_connect _ _
  · exact existing _
  · split
    · exact existing _
    · exact Conveys.refl turn
  · exact turn.conveys_connect _ _

theorem carries_call (ticket : Ticket) (call : Call) :
    Carries ((turn.carrier? ticket call).map fun session => (call, session)).toList turn
      (turn.call ticket call).2 := by
  have refused {reached : Turn (Recorded τ)} (error : SharingError)
      (conveys : Conveys turn reached)
      (result : turn.call ticket call = reached.refuse ticket error) :
      Carries ((turn.carrier? ticket call).map fun session => (call, session)).toList turn
        (turn.call ticket call).2 := by
    have uncarried : turn.carrier? ticket call = none := by
      rw [carrier?, result]
      rfl
    rw [uncarried, result]
    exact conveys.carries (reached.carries_refuse ticket error)
  have through := turn.conveys_channelFor call
  have pending := (turn.same_channelFor call).1
  let reached := (turn.channelFor call).2
  have sends (session : SessionId) :=
    through.trans (conveys_send _ session (call.message reached.source.device))
  obtain result | ⟨error, result⟩ | ⟨session, found, ⟨error, result⟩ | ⟨new, sent, result⟩⟩ :=
    turn.call_cases ticket call
  · exact refused .alreadyPending (Conveys.refl turn) result
  · exact refused error through result
  · exact refused error (sends session) result
  · obtain ⟨sequence, deeds⟩ := reached.deeds_of_send (Prod.ext sent rfl)
    obtain ⟨counter, line, apart⟩ :=
      reached.sent_send session (call.message reached.source.device)
    have carrier : turn.carrier? ticket call = some session := by
      rw [carrier?, result]
      change (reached.send session _).2.line.deeds.getLast?.bind Deed.accepted? = _
      rw [deeds, List.getLast?_append]
      rfl
    rw [carrier, result]
    refine (sends session).carries (carries_await _ ticket ?_ ?_)
    · rw [apart]
      exact pending ▸ new
    · have way := turn.byPeer_channelFor (Prod.ext found rfl)
      rw [apart]
      exact way

end Sending

end Turn

end Source

end InputSharing
