import InputSharing.Proofs.Source.Passage
import InputSharing.Proofs.Source.Unasked

/-!
# What a source keeps about sinks

A source keeps several things about a sink: what the sink shares, its delay, the
calls that wait for it, and the requests that were passed on to it.  A turn is
`Grounded` if all of this is about sinks to which a channel is open.

Reactions see to this by themselves, but for what a source takes in because a node
says it.  Answers of sinks must therefore come on channels that lead to sinks.
-/

namespace InputSharing

/-! ## What is kept about a sink -/

/-- There is an open channel to the sink half of a node. -/
def Registry.Reaches (registry : Registry) (sink : DeviceId) : Prop :=
  ∃ (session : SessionId) (channel : Channel),
    registry.channel? sink .sink = some session ∧
      registry.bySession[session]? = some channel ∧
      channel.remote = ⟨sink, .sink⟩ ∧ channel.isOpen = true

namespace Source

/-- A source keeps something about a sink. -/
inductive Recalls (source : Source) (sink : DeviceId) : Prop
  | belief : sink ∈ source.beliefs → Recalls source sink
  | delay : sink ∈ source.latencies → Recalls source sink
  | call (request : Request) (ticket : Ticket) :
      (.direct sink request, ticket) ∈ source.pending.waiting → Recalls source sink
  | relay (token : RelayToken) (correlation : Correlation) :
      source.relays.live[token]? = some correlation → correlation.target = sink →
      Recalls source sink

theorem forgotten_iff {source : Source} {sink : DeviceId} :
    source.Forgotten sink ↔
      ¬source.Recalls sink ∧ source.registry.channel? sink .sink = none := by
  constructor
  · intro forgotten
    refine ⟨?_, forgotten.no_channel⟩
    rintro (believed | measured | ⟨request, ticket, waiting⟩ | ⟨token, correlation, live, target⟩)
    · exact forgotten.no_belief believed
    · exact forgotten.no_delay measured
    · have elsewhere := forgotten.no_call _ waiting
      simp [Call.isTo] at elsewhere
    · exact forgotten.no_relay _ (Table.mem_toList.2 live) target
  · rintro ⟨nothing, unreached⟩
    refine ⟨fun believed => nothing (.belief believed),
      fun measured => nothing (.delay measured), ?_, ?_, unreached⟩
    · rintro ⟨call, ticket⟩ waiting
      cases call with
      | direct peer request =>
        refine decide_eq_false ?_
        rintro rfl
        exact nothing (.call request ticket waiting)
      | relayed _ _ _ => rfl
    · rintro ⟨token, correlation⟩ listed target
      exact nothing (.relay token correlation (Table.mem_toList.1 listed) target)

/-- A source keeps nothing that it has not kept before. -/
structure Lessens (before after : Source) : Prop where
  beliefs : ∀ sink ∈ after.beliefs, sink ∈ before.beliefs
  latencies : ∀ sink ∈ after.latencies, sink ∈ before.latencies
  waiting : after.pending.waiting ⊆ before.pending.waiting
  relays : ∀ (token : RelayToken) (correlation : Correlation),
    after.relays.live[token]? = some correlation →
      ∃ earlier : Correlation,
        before.relays.live[token]? = some earlier ∧ earlier.target = correlation.target

namespace Lessens

variable {before after : Source}

theorem refl (source : Source) : Lessens source source where
  beliefs := fun _ believed => believed
  latencies := fun _ measured => measured
  waiting := List.Subset.refl _
  relays := fun _ correlation live => ⟨correlation, live, rfl⟩

theorem recalls {sink : DeviceId} (lessens : Lessens before after)
    (recalled : after.Recalls sink) : before.Recalls sink := by
  cases recalled with
  | belief believed => exact .belief (lessens.beliefs sink believed)
  | delay measured => exact .delay (lessens.latencies sink measured)
  | call request ticket waiting => exact .call request ticket (lessens.waiting waiting)
  | relay token correlation live target =>
    obtain ⟨earlier, found, same⟩ := lessens.relays token correlation live
    exact .relay token earlier found (same.trans target)

end Lessens

namespace Turn

variable {τ : Type}

/-! ## Every sink of which something is kept is reached -/

/-- Channels are open, and there is one to every sink of which something is kept. -/
structure Grounded (turn : Turn τ) : Prop where
  open_of_known : ∀ (session : SessionId) (channel : Channel),
    turn.source.registry.bySession[session]? = some channel → channel.isOpen = true
  reached : ∀ sink, turn.source.Recalls sink →
    (⟨sink, .sink⟩ : Endpoint) ∈ turn.source.registry.byPeer

theorem Grounded.reaches {turn : Turn τ} (grounded : turn.Grounded)
    (coherent : turn.source.registry.Coherent) {sink : DeviceId}
    (recalled : turn.source.Recalls sink) : turn.source.registry.Reaches sink := by
  obtain ⟨session, there⟩ := (Table.mem_iff_exists _ _).1 (grounded.reached sink recalled)
  obtain ⟨channel, known, leads⟩ := coherent.leads _ _ there
  exact ⟨session, channel, there, known, leads, grounded.open_of_known session channel known⟩

/-- Some channels are gone, and with each channel to a sink all that was kept about
the sink. -/
theorem Grounded.leave {before after : Turn τ} (grounded : before.Grounded)
    (lessens : Lessens before.source after.source)
    (bySession : ∀ (session : SessionId) (channel : Channel),
      after.source.registry.bySession[session]? = some channel →
        before.source.registry.bySession[session]? = some channel)
    (byPeer : ∀ sink, after.source.Recalls sink →
      (⟨sink, .sink⟩ : Endpoint) ∈ before.source.registry.byPeer →
        (⟨sink, .sink⟩ : Endpoint) ∈ after.source.registry.byPeer) :
    after.Grounded where
  open_of_known := fun session channel known =>
    grounded.open_of_known session channel (bySession session channel known)
  reached := fun sink recalled =>
    byPeer sink recalled (grounded.reached sink (lessens.recalls recalled))

/-- One more channel is open. -/
theorem Grounded.enter {before after : Turn τ} (grounded : before.Grounded)
    (lessens : Lessens before.source after.source) {channel : Channel}
    (isOpen : channel.isOpen = true)
    (registry : after.source.registry = before.source.registry.enter channel) :
    after.Grounded where
  open_of_known := by
    intro session known present
    rw [registry] at present
    change (Std.ExtTreeMap.insert _ _ _)[session]? = _ at present
    rw [Table.getElem?_insert_eq] at present
    split at present
    · cases present
      exact isOpen
    · exact grounded.open_of_known session known present
  reached := by
    intro sink recalled
    rw [registry]
    exact Std.ExtTreeMap.mem_insert.2
      (Or.inr (grounded.reached sink (lessens.recalls recalled)))

/-- A reaction knows no channels but those that it has known or opened, and keeps
things only about sinks that are reached. -/
structure Upholds (before after : Turn (Recorded τ)) : Prop where
  known : ∃ opened : List SessionId, after.dialled = before.dialled ++ opened ∧
    ∀ session ∈ after.source.registry.bySession,
      session ∈ before.source.registry.bySession ∨ session ∈ opened
  grounded : before.Grounded → after.Grounded

namespace Upholds

variable {before middle after : Turn (Recorded τ)}

/-- What is reached may be kept. -/
theorem of_recalls
    (bySession : after.source.registry.bySession = before.source.registry.bySession)
    (byPeer : after.source.registry.byPeer = before.source.registry.byPeer)
    (dialled : after.dialled = before.dialled)
    (recalls : ∀ sink, after.source.Recalls sink →
      before.source.Recalls sink ∨
        (⟨sink, .sink⟩ : Endpoint) ∈ before.source.registry.byPeer) :
    Upholds before after where
  known := by
    refine ⟨[], dialled.trans (List.append_nil _).symm, ?_⟩
    intro session known
    rw [bySession] at known
    exact Or.inl known
  grounded := by
    intro grounded
    refine ⟨?_, ?_⟩
    · rw [bySession]
      exact grounded.open_of_known
    · intro sink recalled
      rw [byPeer]
      exact (recalls sink recalled).elim (grounded.reached sink) id

theorem of_lessens
    (bySession : after.source.registry.bySession = before.source.registry.bySession)
    (byPeer : after.source.registry.byPeer = before.source.registry.byPeer)
    (dialled : after.dialled = before.dialled)
    (lessens : Lessens before.source after.source) : Upholds before after :=
  of_recalls bySession byPeer dialled fun _ recalled => Or.inl (lessens.recalls recalled)

theorem refl (turn : Turn (Recorded τ)) : Upholds turn turn :=
  of_lessens rfl rfl rfl (Lessens.refl turn.source)

theorem trans (first : Upholds before middle) (second : Upholds middle after) :
    Upholds before after where
  known := by
    obtain ⟨opened, dialled, known⟩ := first.known
    obtain ⟨later, dialledLater, knownLater⟩ := second.known
    refine ⟨opened ++ later, ?_, ?_⟩
    · rw [dialledLater, dialled, List.append_assoc]
    · intro session present
      rcases knownLater session present with earlier | new
      · exact (known session earlier).imp_right (List.mem_append_left later)
      · exact Or.inr (List.mem_append_right opened new)
  grounded := fun grounded => second.grounded (first.grounded grounded)

theorem foldl {α : Type} (act : Turn (Recorded τ) → α → Turn (Recorded τ))
    (upholds : ∀ turn item, Upholds turn (act turn item)) (items : List α)
    (turn : Turn (Recorded τ)) : Upholds turn (items.foldl act turn) := by
  induction items generalizing turn with
  | nil =>
      exact Upholds.refl turn
  | cons first rest inductionHypothesis =>
      exact (upholds turn first).trans (inductionHypothesis (act turn first))

end Upholds

/-! ## Reactions without channels -/

section Bookkeeping

variable (turn : Turn (Recorded τ))

theorem upholds_complete (call : Call) (outcome : Outcome) :
    Upholds turn (turn.complete call outcome) := by
  refine Upholds.of_lessens rfl rfl rfl { Lessens.refl turn.source with waiting := ?_ }
  change (turn.source.pending.complete call outcome).2.waiting ⊆ _
  rw [Pending.complete]
  split
  · exact List.Subset.refl _
  · exact List.filter_subset_self _

theorem upholds_inject (sink : DeviceId) (events : List InputEvent) :
    Upholds turn (turn.inject sink events) := by
  rw [inject]
  split
  · exact Upholds.of_lessens rfl rfl rfl (Lessens.refl turn.source)
  · exact Upholds.refl turn

/-- A sink whose answer is taken in is reached. -/
theorem upholds_absorb {sink : DeviceId} (reply : Reply)
    (there : (⟨sink, .sink⟩ : Endpoint) ∈ turn.source.registry.byPeer) :
    Upholds turn (turn.absorb sink reply) := by
  have learned (change : Belief → Belief) : Upholds turn (turn.learn sink change) := by
    refine Upholds.of_lessens rfl rfl rfl { Lessens.refl turn.source with beliefs := ?_ }
    intro tested believed
    exact Std.ExtTreeMap.mem_modify.1 believed
  rw [absorb.eq_def]
  split
  · split
    · refine Upholds.of_recalls rfl rfl rfl ?_
      intro tested recalled
      cases recalled with
      | belief believed =>
        rcases Std.ExtTreeMap.mem_insertIfNew.1 believed with same | earlier
        · exact Or.inr (Std.compare_eq_iff_eq.1 same ▸ there)
        · exact Or.inl (.belief earlier)
      | delay measured => exact Or.inl (.delay measured)
      | call request ticket waiting => exact Or.inl (.call request ticket waiting)
      | relay token correlation live target =>
        exact Or.inl (.relay token correlation live target)
    · exact Upholds.refl turn
    · exact learned _
  · exact Upholds.refl turn

theorem upholds_onEcho {sink : DeviceId} (now sentAtUs : UInt64)
    (there : (⟨sink, .sink⟩ : Endpoint) ∈ turn.source.registry.byPeer) :
    Upholds turn (turn.onEcho now sink sentAtUs) := by
  refine Upholds.of_recalls rfl rfl rfl ?_
  intro tested recalled
  cases recalled with
  | belief believed => exact Or.inl (.belief believed)
  | delay measured =>
    rcases Std.ExtTreeMap.mem_insert.1 measured with same | earlier
    · exact Or.inr (Std.compare_eq_iff_eq.1 same ▸ there)
    · exact Or.inl (.delay earlier)
  | call request ticket waiting => exact Or.inl (.call request ticket waiting)
  | relay token correlation live target => exact Or.inl (.relay token correlation live target)

/-- A call waits once its endpoint is reached. -/
theorem upholds_await (ticket : Ticket) {call : Call}
    (there : call.remote ∈ turn.source.registry.byPeer) :
    Upholds turn (turn.await ticket call) := by
  have waiting : (turn.await ticket call).source.pending.waiting ⊆
      turn.source.pending.waiting ++ [(call, ticket)] := by
    change (Pending.insert (ρ := Grant) turn.source.pending call ticket).2.waiting ⊆ _
    rw [Pending.insert]
    split
    · exact List.subset_append_left _ _
    · exact List.Subset.refl _
  refine Upholds.of_recalls rfl rfl rfl ?_
  intro sink recalled
  cases recalled with
  | belief believed => exact Or.inl (.belief believed)
  | delay measured => exact Or.inl (.delay measured)
  | call request other listed =>
    rcases List.mem_append.1 (waiting listed) with earlier | last
    · exact Or.inl (.call request other earlier)
    · cases List.mem_singleton.1 last
      exact Or.inr there
  | relay token correlation live target => exact Or.inl (.relay token correlation live target)

theorem lessens_forget (sink : DeviceId) :
    Lessens turn.source
      ((turn.forget sink).failWhere (Call.isTo sink) .disconnected).source := by
  refine ⟨?_, ?_, List.filter_subset_self _, ?_⟩
  · exact fun _ believed => Std.ExtTreeMap.mem_of_mem_erase believed
  · exact fun _ measured => Std.ExtTreeMap.mem_of_mem_erase measured
  · intro token correlation live
    have listed := Table.mem_toList.2 live
    change _ ∈ Std.ExtTreeMap.toList (Std.ExtTreeMap.filter _ _) at listed
    rw [Std.ExtTreeMap.toList_filter] at listed
    exact ⟨correlation, Table.mem_toList.1 (List.mem_filter.1 listed).1, rfl⟩

theorem not_recalls_forget (sink : DeviceId) :
    ¬((turn.forget sink).failWhere (Call.isTo sink) .disconnected).source.Recalls sink := by
  rintro (believed | measured | ⟨request, ticket, waiting⟩ | ⟨token, correlation, live, target⟩)
  · exact ((Table.mem_erase_iff _ _ _).1 believed).1 rfl
  · exact ((Table.mem_erase_iff _ _ _).1 measured).1 rfl
  · have elsewhere := (List.mem_filter.1 waiting).2
    simp [Call.isTo] at elsewhere
  · have listed := Table.mem_toList.2 live
    change _ ∈ Std.ExtTreeMap.toList (Std.ExtTreeMap.filter _ _) at listed
    rw [Std.ExtTreeMap.toList_filter] at listed
    exact of_decide_eq_true (List.mem_filter.1 listed).2 target

end Bookkeeping

/-! ## Sending and connecting -/

section Sending

variable [Transport τ] (turn : Turn (Recorded τ))

theorem upholds_send (session : SessionId) (message : Message) :
    Upholds turn (turn.send session message).2 := by
  have dialled := turn.dialled_send session message
  obtain ⟨counter, line, sent⟩ := turn.sent_send session message
  rw [sent] at dialled ⊢
  exact Upholds.of_lessens rfl rfl dialled { Lessens.refl turn.source with }

theorem upholds_reportLoss (correlation : Correlation) :
    Upholds turn (turn.reportLoss correlation) := by
  rw [reportLoss]
  split
  · exact Upholds.refl turn
  · exact turn.upholds_send _ _

theorem upholds_tick (now : UInt64) : Upholds turn (turn.tick now) := by
  refine Upholds.foldl (probe now) ?_ _ turn
  intro turn sink
  rw [probe]
  split
  · exact Upholds.refl turn
  · exact turn.upholds_send _ _

theorem upholds_completeRelay (token : RelayToken) (message : Correlation → Message) :
    Upholds turn (turn.completeRelay token message) := by
  have usedUp : Upholds turn (turn.withLive (turn.source.relays.live.erase token)) := by
    refine Upholds.of_lessens rfl rfl rfl { Lessens.refl turn.source with relays := ?_ }
    intro tested correlation live
    change (turn.source.relays.live.erase token)[tested]? = _ at live
    rw [Table.getElem?_erase_eq] at live
    split at live
    · cases live
    · exact ⟨correlation, live, rfl⟩
  obtain silent | ⟨correlation, origin, _, _, reported⟩ := turn.completeRelay_cases token message
  · rw [silent]
    exact usedUp
  · rw [reported]
    exact usedUp.trans (upholds_send _ _ _)

theorem upholds_connect (peer : DeviceId) (role : Role) :
    Upholds turn (turn.connect peer role).2 := by
  cases known : turn.source.registry.channel? peer role with
  | some session =>
    have same : (turn.connect peer role).2 = turn := by
      rw [connect, turn.channels.connect_of_known known]
      rfl
    rw [same]
    exact Upholds.refl turn
  | none =>
    obtain ⟨refusal, line, connected⟩ | ⟨session, line, connected⟩ :=
      turn.connect_of_unknown known
    · rw [connected]
      refine Upholds.of_lessens rfl rfl ?_ (Lessens.refl turn.source)
      change List.filterMap Deed.dialled? (_ ++ _) = _
      rw [List.filterMap_append]
      exact List.append_nil _
    · rw [connected]
      refine ⟨⟨[session], ?_, ?_⟩, ?_⟩
      · change List.filterMap Deed.dialled? (_ ++ _) = _
        rw [List.filterMap_append]
        rfl
      · intro tested present
        exact (Registry.mem_enter present).symm.imp_right List.mem_singleton.2
      · exact fun grounded => grounded.enter { Lessens.refl turn.source with } rfl rfl

/-! ## The end of sinks -/

theorem not_recalls_dropSink (sink : DeviceId) : ¬(turn.dropSink sink).source.Recalls sink := by
  obtain ⟨counter, line, dropped⟩ := turn.sent_dropSink sink
  rw [dropped]
  intro recalled
  refine turn.not_recalls_forget sink (Lessens.recalls ?_ recalled)
  exact { Lessens.refl ((turn.forget sink).failWhere (Call.isTo sink) .disconnected).source with }

theorem upholds_dropSink (sink : DeviceId) : Upholds turn (turn.dropSink sink) := by
  have forgotten :
      Upholds turn ((turn.forget sink).failWhere (Call.isTo sink) .disconnected) :=
    Upholds.of_lessens rfl rfl rfl (turn.lessens_forget sink)
  exact forgotten.trans (Upholds.foldl reportLoss upholds_reportLoss _ _)

theorem upholds_retire (sink : DeviceId) : Upholds turn (turn.retire sink) := by
  have dropped := turn.upholds_dropSink sink
  refine dropped.trans ?_
  cases known : turn.source.registry.channel? sink .sink with
  | none =>
    rw [retire_of_unreached known]
    exact Upholds.refl (turn.dropSink sink)
  | some session =>
    have disconnected := retire_of_reached known
    have lessens : Lessens (turn.dropSink sink).source (turn.retire sink).source := by
      rw [disconnected]
      exact { Lessens.refl (turn.dropSink sink).source with }
    refine ⟨⟨[], ?_, ?_⟩, ?_⟩
    · rw [disconnected]
      change List.filterMap Deed.dialled? (_ ++ _) = _
      rw [List.filterMap_append]
      rfl
    · intro tested present
      rw [disconnected] at present
      exact Or.inl (Std.ExtTreeMap.mem_of_mem_erase present)
    · intro grounded
      refine grounded.leave lessens ?_ ?_
      · intro tested channel present
        rw [disconnected] at present
        change (Std.ExtTreeMap.erase _ _)[tested]? = _ at present
        rw [Table.getElem?_erase_eq] at present
        split at present
        · cases present
        · exact present
      · intro tested recalled there
        have other : sink ≠ tested := by
          rintro rfl
          exact turn.not_recalls_dropSink sink (lessens.recalls recalled)
        rw [disconnected]
        refine (Table.mem_erase_iff _ _ _).2 ⟨?_, there⟩
        exact fun same => other (congrArg Endpoint.device same)

/-- When a channel to a sink is gone, so is all that was kept about the sink. -/
theorem upholds_closed (coherent : turn.source.registry.Coherent) (session : SessionId) :
    Upholds turn (turn.closed session) := by
  cases known : turn.source.registry.bySession[session]? with
  | none =>
    rw [turn.closed_of_unknown known]
    exact Upholds.refl turn
  | some channel =>
    have leave {after : Turn (Recorded τ)} (lessens : Lessens turn.source after.source)
        (bySession : after.source.registry.bySession =
          (turn.source.registry.closed session).2.bySession)
        (byPeer : after.source.registry.byPeer = (turn.source.registry.closed session).2.byPeer)
        (dialled : after.dialled = turn.dialled)
        (nothing : channel.remoteRole = .sink → ¬after.source.Recalls channel.peer) :
        Upholds turn after := by
      rw [Registry.bySession_closed] at bySession
      refine ⟨⟨[], dialled.trans (List.append_nil _).symm, ?_⟩, ?_⟩
      · intro tested present
        rw [bySession] at present
        exact Or.inl (Std.ExtTreeMap.mem_of_mem_erase present)
      · intro grounded
        refine grounded.leave lessens ?_ ?_
        · intro tested other present
          rw [bySession, Table.getElem?_erase_eq] at present
          split at present
          · cases present
          · exact present
        · intro sink recalled there
          have elsewhere : turn.source.registry.byPeer[(⟨sink, .sink⟩ : Endpoint)]? ≠
              some session := by
            intro reached
            obtain ⟨other, found, leads⟩ := coherent.leads _ _ reached
            have same : channel = other := Option.some.inj (known.symm.trans found)
            subst same
            have peer : channel.peer = sink := congrArg Endpoint.device leads
            exact nothing (congrArg Endpoint.role leads) (peer ▸ recalled)
          rw [byPeer, Table.mem_iff_exists, coherent.byPeer_closed, if_neg elsewhere,
            ← Table.mem_iff_exists]
          exact there
    have closed := turn.closed_of_known known
    cases role : channel.remoteRole with
    | sink =>
      rw [role] at closed
      have forgotten : Upholds turn
          (((turn.without session).forget channel.peer).failWhere (Call.isTo channel.peer)
            .disconnected) := by
        refine leave ?_ rfl rfl rfl fun _ => not_recalls_forget _ channel.peer
        exact { (turn.without session).lessens_forget channel.peer with }
      rw [closed]
      exact forgotten.trans (Upholds.foldl reportLoss upholds_reportLoss _ _)
    | source =>
      have elsewhere : channel.remoteRole ≠ .sink := by
        rw [role]
        decide
      rw [role] at closed
      cases outbound : channel.outbound with
      | true =>
        rw [outbound] at closed
        rw [closed]
        refine leave ?_ rfl rfl rfl fun sink => absurd sink elsewhere
        exact { Lessens.refl turn.source with waiting := List.filter_subset_self _ }
      | false =>
        rw [outbound] at closed
        rw [closed]
        refine leave ?_ rfl rfl rfl fun sink => absurd sink elsewhere
        refine { Lessens.refl turn.source with relays := ?_ }
        intro token correlation live
        rw [Relays.getElem?_abandonOrigin turn.source.relays] at live
        obtain ⟨earlier, found, rfl⟩ := Option.map_eq_some_iff.1 live
        exact ⟨earlier, found, (Correlation.target_detach session earlier).symm⟩

/-! ## Messages -/

theorem upholds_retireIfUnprepared (sink : DeviceId) (reply : Reply) :
    Upholds turn (turn.retireIfUnprepared sink reply) := by
  rw [retireIfUnprepared.eq_def]
  split
  · split
    · exact turn.upholds_retire sink
    · exact Upholds.refl turn
  · exact Upholds.refl turn

theorem upholds_onReply {sink : DeviceId} (reply : Reply)
    (there : (⟨sink, .sink⟩ : Endpoint) ∈ turn.source.registry.byPeer) :
    Upholds turn (turn.onReply sink reply) :=
  ((turn.upholds_absorb reply there).trans (upholds_complete _ _ _)).trans
    (upholds_retireIfUnprepared _ sink reply)

theorem upholds_onRelayedReply {sink : DeviceId} (token : RelayToken) (reply : Reply)
    (there : (⟨sink, .sink⟩ : Endpoint) ∈ turn.source.registry.byPeer) :
    Upholds turn (turn.onRelayedReply sink token reply) := by
  rw [onRelayedReply]
  split
  · exact Upholds.refl turn
  · split
    · exact ((turn.upholds_absorb reply there).trans (upholds_completeRelay _ _ _)).trans
        (upholds_retireIfUnprepared _ sink reply)
    · exact Upholds.refl turn

/-- A request is passed on to a sink that is reached. -/
theorem upholds_passOn (session : SessionId) {inquiry : Inquiry}
    (there : (⟨inquiry.sink, .sink⟩ : Endpoint) ∈ turn.source.registry.byPeer) :
    Upholds turn (turn.passOn session inquiry).2 := by
  refine Upholds.trans ?_ (upholds_send _ _ _)
  refine Upholds.of_recalls rfl rfl rfl ?_
  intro sink recalled
  cases recalled with
  | belief believed => exact Or.inl (.belief believed)
  | delay measured => exact Or.inl (.delay measured)
  | call request ticket waiting => exact Or.inl (.call request ticket waiting)
  | relay token correlation live target =>
    change (Std.ExtTreeMap.insert _ _ _)[token]? = _ at live
    rw [Table.getElem?_insert_eq] at live
    split at live
    · cases live
      exact Or.inr (target ▸ there)
    · exact Or.inl (.relay token correlation live target)

theorem upholds_forward (inquiry : Inquiry) :
    Upholds turn
      (turn.forward inquiry.origin inquiry.source inquiry.sink inquiry.request) := by
  have connected := turn.upholds_connect inquiry.sink .sink
  obtain ⟨result, refused⟩ | ⟨session, reaches, forwarded⟩ := turn.forward_cases inquiry
  · rw [refused]
    exact connected.trans (upholds_send _ _ _)
  · have way := turn.byPeer_connect (Prod.ext reaches rfl)
    have passes := connected.trans (upholds_passOn _ session (Table.mem_of_getElem? way))
    obtain passed | ⟨result, settled⟩ := forwarded
    · rw [passed]
      exact passes
    · rw [settled]
      exact passes.trans (upholds_completeRelay _ _ _)

end Sending

end Turn

/-! ## What only sinks have to say -/

end Source

/-- A message is an answer of a sink, or the echo of a measurement. -/
def Message.isAnswer : Message → Bool
  | .reply _ _ | .relayedReply _ _ _ | .latencyEcho _ _ => true
  | _ => false

namespace Source

/-- Answers of sinks come on channels that lead to sinks. -/
def Occurrence.IsDue (registry : Registry) : Occurrence → Prop
  | .message _ session body =>
      body.isAnswer = true → ∀ channel : Channel,
        registry.bySession[session]? = some channel → channel.remoteRole = .sink
  | _ => True

namespace Turn

variable {τ : Type} [Transport τ] (turn : Turn (Recorded τ))

theorem upholds_handle (coherent : turn.source.registry.Coherent) (now : UInt64)
    (session : SessionId) (message : Message)
    (due : (Occurrence.message now session message).IsDue turn.source.registry) :
    Upholds turn (turn.handle now session message) := by
  rw [handle]
  split
  · exact Upholds.refl turn
  · next peer known =>
    obtain ⟨channel, found, rfl⟩ := Option.map_eq_some_iff.1 known
    have there (answer : message.isAnswer = true) :
        (⟨channel.peer, .sink⟩ : Endpoint) ∈ turn.source.registry.byPeer := by
      have sink : channel.remoteRole = .sink := due answer channel found
      have remote : channel.remote = ⟨channel.peer, .sink⟩ := by
        rw [Channel.remote, sink]
      rw [← remote]
      exact Table.mem_of_getElem? (coherent.reached session channel found sink)
    cases message with
    | reply _ reply => exact turn.upholds_onReply reply (there rfl)
    | keyState _ key => exact turn.upholds_inject channel.peer _
    | keyStates _ keys => exact turn.upholds_inject channel.peer _
    | inputEvents _ events => exact turn.upholds_inject channel.peer events
    | latencyEcho _ sentAtUs => exact turn.upholds_onEcho now sentAtUs (there rfl)
    | relayedReply token _ reply => exact turn.upholds_onRelayedReply token reply (there rfl)
    | relayRequest _ source sink request =>
      exact turn.upholds_forward ⟨session, source, sink, request⟩
    | relayResult source sink result => exact turn.upholds_complete _ _
    | request _ _ | latencyProbe _ _ | relayed _ _ _ => exact Upholds.refl turn

/-! ## Calls -/

theorem upholds_channelFor (call : Call) : Upholds turn (turn.channelFor call).2 := by
  have existing (sink : DeviceId) : Upholds turn (turn.existing sink).2 := by
    rw [Turn.existing]
    split
    · exact Upholds.refl turn
    · exact Upholds.refl turn
  rw [channelFor.eq_def]
  split
  · exact turn.upholds_connect _ _
  · exact existing _
  · split
    · exact existing _
    · exact Upholds.refl turn
  · exact turn.upholds_connect _ _

theorem upholds_call (ticket : Ticket) (call : Call) :
    Upholds turn (turn.call ticket call).2 := by
  have refused (turn : Turn (Recorded τ)) (error : SharingError) :
      Upholds turn (turn.refuse ticket error).2 :=
    Upholds.of_lessens rfl rfl rfl (Lessens.refl turn.source)
  have through := turn.upholds_channelFor call
  let reached := (turn.channelFor call).2
  have sends (session : SessionId) :=
    through.trans (upholds_send _ session (call.message reached.source.device))
  obtain failed | ⟨error, failed⟩ | ⟨session, found, ⟨error, failed⟩ | ⟨_, _, accepted⟩⟩ :=
    turn.call_cases ticket call
  · rw [failed]
    exact refused turn _
  · rw [failed]
    exact through.trans (refused _ error)
  · rw [failed]
    exact (sends session).trans (refused _ error)
  · rw [accepted]
    have way := turn.byPeer_channelFor (Prod.ext found rfl)
    obtain ⟨counter, line, apart⟩ :=
      reached.sent_send session (call.message reached.source.device)
    refine (sends session).trans (upholds_await _ ticket ?_)
    rw [apart]
    exact Table.mem_of_getElem? way

end Turn

end Source

end InputSharing
