import InputSharing.Network.Reaction
import InputSharing.Proofs.Pending
import InputSharing.Proofs.Source.Relaying

/-!
# No call of a source is lost

The tickets of a turn are those of the calls that have ended and those of the
calls that wait.  Whatever a source reacts to, it keeps its tickets; a call adds
its own.
-/

namespace InputSharing

namespace Source

namespace Turn

variable {τ : Type}

/-- A turn with other calls waiting. -/
def withWaiting (turn : Turn τ) (waiting : List (Call × Ticket)) : Turn τ :=
  { turn with source := { turn.source with pending := ⟨waiting⟩ } }

/-- The calls that have ended, and those that wait. -/
def tickets (turn : Turn τ) : List Ticket :=
  turn.completions.map Completion.ticket ++ turn.source.pending.tickets

/-- At most one call waits under each key. -/
def Distinct (turn : Turn τ) : Prop := (turn.source.pending.waiting.map Prod.fst).Nodup

structure Keeps (before after : Turn τ) : Prop where
  fewer : after.source.pending.waiting.Sublist before.source.pending.waiting
  distinct : before.Distinct → after.Distinct
  tickets_perm : before.Distinct → after.tickets.Perm before.tickets

namespace Keeps

variable {before middle after : Turn τ}

theorem of_same (pending : after.source.pending = before.source.pending)
    (completions : after.completions = before.completions) : Keeps before after where
  fewer := by
    rw [pending]
  distinct := by
    intro distinct
    rw [Distinct, pending]
    exact distinct
  tickets_perm := by
    intro _
    rw [tickets, pending, completions]
    exact List.Perm.refl _

theorem refl (turn : Turn τ) : Keeps turn turn := of_same rfl rfl

theorem trans (first : Keeps before middle) (second : Keeps middle after) :
    Keeps before after where
  fewer := second.fewer.trans first.fewer
  distinct := fun distinct => second.distinct (first.distinct distinct)
  tickets_perm := by
    intro distinct
    have later := second.tickets_perm (first.distinct distinct)
    exact later.trans (first.tickets_perm distinct)

theorem foldl {α : Type} (act : Turn τ → α → Turn τ)
    (keeps : ∀ turn item, Keeps turn (act turn item)) (items : List α) (turn : Turn τ) :
    Keeps turn (items.foldl act turn) := by
  induction items generalizing turn with
  | nil =>
      exact Keeps.refl turn
  | cons first rest inductionHypothesis =>
      exact (keeps turn first).trans (inductionHypothesis (act turn first))

/-- Calls may go from those that wait to those that have ended. -/
theorem of_ended (turn : Turn τ) {waiting : List (Call × Ticket)}
    {ended : List (Completion Grant)} (fewer : waiting.Sublist turn.source.pending.waiting)
    (perm :
      turn.Distinct →
        (ended.map Completion.ticket ++ waiting.map Prod.snd).Perm turn.source.pending.tickets) :
    Keeps turn ((turn.withWaiting waiting).report ended) where
  fewer := fewer
  distinct := fun distinct => (fewer.map Prod.fst).nodup distinct
  tickets_perm := by
    intro distinct
    have apart :
        ((turn.withWaiting waiting).report ended).tickets =
          turn.completions.map Completion.ticket ++
            (ended.map Completion.ticket ++ waiting.map Prod.snd) := by
      change List.map _ (turn.completions ++ ended) ++ _ = _
      rw [List.map_append, List.append_assoc]
      rfl
    rw [apart]
    exact (perm distinct).append_left _

end Keeps

variable (turn : Turn τ)

/-! ## Calls that end -/

theorem keeps_complete (call : Call) (outcome : Outcome) :
    Keeps turn (turn.complete call outcome) := by
  cases found : turn.source.pending.waiting.lookup call with
  | none =>
      have unchanged : turn.complete call outcome = turn.report [] := by
        rw [complete, Pending.complete, found]
        rfl
      rw [unchanged]
      exact Keeps.of_same rfl (List.append_nil _)
  | some ticket =>
      have changed :
          turn.complete call outcome =
            (turn.withWaiting
              (turn.source.pending.waiting.filter fun entry => entry.1 ≠ call)).report
                [⟨ticket, outcome⟩] := by
        rw [complete, Pending.complete, found]
        rfl
      rw [changed]
      refine Keeps.of_ended turn List.filter_sublist ?_
      intro distinct
      have split := Pending.perm_of_key distinct (Pending.mem_of_lookup found)
      exact (split.map Prod.snd).symm

theorem keeps_failWhere (doomed : Call → Bool) (error : SharingError) :
    Keeps turn (turn.failWhere doomed error) := by
  refine Keeps.of_ended turn List.filter_sublist ?_
  intro _
  exact turn.source.pending.tickets_failWhere doomed error

theorem keeps_inject (sink : DeviceId) (events : List InputEvent) :
    Keeps turn (turn.inject sink events) := by
  rw [inject]
  split
  · exact Keeps.of_same rfl rfl
  · exact Keeps.refl turn

theorem keeps_absorb (sink : DeviceId) (reply : Reply) :
    Keeps turn (turn.absorb sink reply) := by
  rw [absorb.eq_def]
  split
  · split
    · exact Keeps.of_same rfl rfl
    · exact Keeps.refl turn
    · exact Keeps.of_same rfl rfl
  · exact Keeps.refl turn

/-! ## Calls that begin -/

/-- A turn has taken over one more call. -/
structure Accepts (ticket : Ticket) (before after : Turn τ) : Prop where
  distinct : before.Distinct → after.Distinct
  tickets_perm : before.Distinct → after.tickets.Perm (ticket :: before.tickets)

theorem Keeps.accepts {before middle after : Turn τ} {ticket : Ticket}
    (keeps : Keeps before middle) (accepts : Accepts ticket middle after) :
    Accepts ticket before after where
  distinct := fun distinct => accepts.distinct (keeps.distinct distinct)
  tickets_perm := by
    intro distinct
    have earlier := keeps.tickets_perm distinct
    have later := accepts.tickets_perm (keeps.distinct distinct)
    exact later.trans (earlier.cons ticket)

theorem accepts_refuse (ticket : Ticket) (error : SharingError) :
    Accepts ticket turn (turn.refuse ticket error).2 where
  distinct := fun distinct => distinct
  tickets_perm := by
    intro _
    have apart :
        (turn.refuse ticket error).2.tickets =
          turn.completions.map Completion.ticket ++ ticket :: turn.source.pending.tickets := by
      change List.map _ (turn.completions ++ [_]) ++ _ = _
      rw [List.map_append, List.append_assoc]
      rfl
    rw [apart]
    exact List.perm_middle

theorem accepts_await {call : Call} (ticket : Ticket)
    (new : turn.source.pending.contains call = false) :
    Accepts ticket turn (turn.await ticket call) := by
  have changed :
      turn.await ticket call =
        (turn.withWaiting (turn.source.pending.waiting ++ [(call, ticket)])).report [] := by
    rw [await, Pending.insert, new]
    rfl
  have absent := Pending.not_mem_keys new
  have keys :
      ((turn.source.pending.waiting ++ [(call, ticket)]).map Prod.fst).Perm
        (call :: turn.source.pending.waiting.map Prod.fst) :=
    (List.perm_append_singleton (call, ticket) turn.source.pending.waiting).map Prod.fst
  have apart :
      (turn.await ticket call).tickets =
        turn.completions.map Completion.ticket ++
          (turn.source.pending.waiting ++ [(call, ticket)]).map Prod.snd := by
    rw [changed]
    change List.map _ (turn.completions ++ []) ++ _ = _
    rw [List.append_nil]
    rfl
  refine ⟨?_, ?_⟩
  · intro distinct
    rw [changed]
    exact keys.nodup_iff.2 (List.nodup_cons.2 ⟨absent, distinct⟩)
  · intro _
    have tickets := (List.perm_append_singleton (call, ticket) turn.source.pending.waiting).map
      Prod.snd
    rw [apart]
    exact (tickets.append_left _).trans List.perm_middle

/-! ## What is sent -/

variable [Transport τ]

theorem keeps_post (session : SessionId) (message : Message) :
    Keeps turn (turn.post session message) :=
  Keeps.of_same rfl rfl

theorem keeps_completeRelay (token : RelayToken) (message : Correlation → Message) :
    Keeps turn (turn.completeRelay token message) :=
  Keeps.of_same rfl rfl

theorem keeps_reportLoss (correlation : Correlation) :
    Keeps turn (turn.reportLoss correlation) := by
  rw [reportLoss]
  split
  · exact Keeps.refl turn
  · exact turn.keeps_post _ _

theorem keeps_dropSink (sink : DeviceId) : Keeps turn (turn.dropSink sink) := by
  let forgotten : Turn τ :=
    { turn with
      source :=
        { turn.source with
          beliefs := turn.source.beliefs.erase sink
          latencies := turn.source.latencies.erase sink
          relays := (turn.source.relays.abandonTarget sink).2 } }
  have forgets : Keeps turn forgotten := Keeps.of_same rfl rfl
  have fails := forgotten.keeps_failWhere (Call.isTo sink) .disconnected
  have reports :=
    Keeps.foldl reportLoss (fun turn => turn.keeps_reportLoss)
      ((turn.source.relays.abandonTarget sink).1.map Prod.snd)
      (forgotten.failWhere (Call.isTo sink) .disconnected)
  exact (forgets.trans fails).trans reports

theorem keeps_retire (sink : DeviceId) : Keeps turn (turn.retire sink) :=
  (turn.keeps_dropSink sink).trans (Keeps.of_same rfl rfl)

theorem keeps_closed (session : SessionId) : Keeps turn (turn.closed session) := by
  let gone : Turn τ :=
    { turn with source := { turn.source with registry := (turn.source.registry.closed session).2 } }
  have forgets : Keeps turn gone := Keeps.of_same rfl rfl
  rw [closed]
  dsimp only
  split
  · exact forgets
  · next channel _ =>
    split
    · exact forgets.trans (gone.keeps_dropSink channel.peer)
    · exact forgets.trans (gone.keeps_failWhere _ _)
    · exact Keeps.of_same rfl rfl

/-! ## Messages -/

theorem keeps_retireIfUnprepared (sink : DeviceId) (reply : Reply) :
    Keeps turn (turn.retireIfUnprepared sink reply) := by
  rw [retireIfUnprepared.eq_def]
  split
  · split
    · exact turn.keeps_retire sink
    · exact Keeps.refl turn
  · exact Keeps.refl turn

theorem keeps_onReply (sink : DeviceId) (reply : Reply) :
    Keeps turn (turn.onReply sink reply) := by
  have absorbs := turn.keeps_absorb sink reply
  have completes := (turn.absorb sink reply).keeps_complete (.direct sink reply.request)
    reply.outcome
  exact (absorbs.trans completes).trans (keeps_retireIfUnprepared _ sink reply)

theorem keeps_onRelayedReply (sink : DeviceId) (token : RelayToken) (reply : Reply) :
    Keeps turn (turn.onRelayedReply sink token reply) := by
  rw [onRelayedReply]
  split
  · exact Keeps.refl turn
  · split
    · have absorbs := turn.keeps_absorb sink reply
      have completes := (turn.absorb sink reply).keeps_completeRelay token fun correlation =>
        correlation.report reply.toResult
      exact (absorbs.trans completes).trans (keeps_retireIfUnprepared _ sink reply)
    · exact Keeps.refl turn

theorem keeps_forward (inquiry : Inquiry) :
    Keeps turn (turn.forward inquiry.origin inquiry.source inquiry.sink inquiry.request) := by
  have connects : Keeps turn (turn.connect inquiry.sink .sink).2 := Keeps.of_same rfl rfl
  have passes (session : SessionId) :
      Keeps turn ((turn.connect inquiry.sink .sink).2.passOn session inquiry).2 :=
    connects.trans (Keeps.of_same rfl rfl)
  obtain ⟨result, refused⟩ | ⟨session, _, passed | ⟨result, settled⟩⟩ := turn.forward_cases inquiry
  · rw [refused]
    exact connects.trans (keeps_post _ _ _)
  · rw [passed]
    exact passes session
  · rw [settled]
    exact (passes session).trans (keeps_completeRelay _ _ _)

theorem keeps_onMessage (now : UInt64) (session : SessionId) (peer : DeviceId)
    (message : Message) : Keeps turn (turn.onMessage now session peer message) := by
  cases message with
  | reply _ reply => exact turn.keeps_onReply peer reply
  | relayedReply token _ reply => exact turn.keeps_onRelayedReply peer token reply
  | relayRequest _ source sink request =>
      exact turn.keeps_forward ⟨session, source, sink, request⟩
  | relayResult source sink result => exact turn.keeps_complete _ _
  | keyState _ key => exact turn.keeps_inject _ _
  | keyStates _ keys => exact turn.keeps_inject _ _
  | inputEvents _ events => exact turn.keeps_inject _ _
  | latencyEcho _ _ => exact Keeps.of_same rfl rfl
  | request _ _ => exact Keeps.refl turn
  | latencyProbe _ _ => exact Keeps.refl turn
  | relayed _ _ _ => exact Keeps.refl turn

theorem keeps_handle (now : UInt64) (session : SessionId) (message : Message) :
    Keeps turn (turn.handle now session message) := by
  rw [handle]
  split
  · exact Keeps.refl turn
  · exact turn.keeps_onMessage now session _ message

theorem keeps_tick (now : UInt64) : Keeps turn (turn.tick now) := by
  refine Keeps.foldl (probe now) ?_ _ turn
  intro turn sink
  rw [probe]
  split
  · exact Keeps.refl turn
  · exact turn.keeps_post _ _

/-! ## Calls -/

theorem same_channelFor (call : Call) :
    (turn.channelFor call).2.source.pending = turn.source.pending ∧
      (turn.channelFor call).2.completions = turn.completions := by
  have existing (sink : DeviceId) :
      (turn.existing sink).2.source.pending = turn.source.pending ∧
        (turn.existing sink).2.completions = turn.completions := by
    rw [Turn.existing]
    split
    · exact ⟨rfl, rfl⟩
    · exact ⟨rfl, rfl⟩
  rw [channelFor.eq_def]
  split
  · exact ⟨rfl, rfl⟩
  · exact existing _
  · split
    · exact existing _
    · exact ⟨rfl, rfl⟩
  · exact ⟨rfl, rfl⟩

theorem accepts_call (ticket : Ticket) (call : Call) :
    Accepts ticket turn (turn.call ticket call).2 := by
  obtain ⟨pending, completions⟩ := turn.same_channelFor call
  have reaches : Keeps turn (turn.channelFor call).2 := Keeps.of_same pending completions
  have sends (session : SessionId) :
      Keeps turn
        ((turn.channelFor call).2.send session
          (call.message (turn.channelFor call).2.source.device)).2 :=
    reaches.trans (Keeps.of_same rfl rfl)
  obtain refused | ⟨error, refused⟩ | ⟨session, _, ⟨error, refused⟩ | ⟨new, _, accepted⟩⟩ :=
    turn.call_cases ticket call
  · rw [refused]
    exact turn.accepts_refuse ticket _
  · rw [refused]
    exact reaches.accepts (accepts_refuse _ ticket error)
  · rw [refused]
    exact (sends session).accepts (accepts_refuse _ ticket error)
  · rw [accepted]
    refine (sends session).accepts (accepts_await _ ticket ?_)
    exact pending ▸ new

end Turn

end Source

/-! ## Any event -/

/-- The call that an event makes. -/
def SourceEvent.ticket? : SourceEvent → Option Ticket
  | transport _ => none
  | call ticket _ => some ticket
  | tick => none

open Source.Turn in
/-- Whatever a source reacts to, no call is lost and none is made up. -/
theorem SourceEvent.tickets_react {τ : Type} [Transport τ] (now : UInt64)
    (turn : Source.Turn τ) (distinct : turn.Distinct) (event : SourceEvent) :
    (event.react now turn).Distinct ∧
      (event.react now turn).tickets.Perm (event.ticket?.toList ++ turn.tickets) := by
  have kept {after : Source.Turn τ} (keeps : Keeps turn after) :
      after.Distinct ∧ after.tickets.Perm ((none : Option Ticket).toList ++ turn.tickets) :=
    ⟨keeps.distinct distinct, keeps.tickets_perm distinct⟩
  cases event with
  | call ticket wanted =>
      have accepts := turn.accepts_call ticket wanted
      exact ⟨accepts.distinct distinct, accepts.tickets_perm distinct⟩
  | tick => exact kept (turn.keeps_tick now)
  | transport event =>
      cases event with
      | opened session peer => exact kept (Keeps.of_same rfl rfl)
      | closed session => exact kept (turn.keeps_closed session)
      | frame session parcel =>
          apply kept
          rw [react, Dispatched.dispatch]
          split
          · exact Keeps.refl turn
          · split
            · exact turn.keeps_handle now session _
            · exact Keeps.refl turn

end InputSharing
