import InputSharing.Channel.Scripted
import InputSharing.Proofs.Source.Passage

/-!
# Every call ends once

A `Docket` is a turn together with the calls that were made in it, each with the
ticket it was given.  Whatever happens to the source, a call has ended once and
waits no more, or it waits under its own key and has not ended.

A call that is refused ends at once and leaves what the source keeps about calls,
sinks and relaying as it was; what it may have changed is its channels, and these
only if it could not be carried out.  A call that is let through has had its
message sent, and nothing else.
-/

namespace InputSharing.Source

/-! ## What a call does -/

namespace Turn

variable {τ : Type}

/-- A call was refused and has ended with an error. -/
structure Refuses (ticket : Ticket) (error : SharingError) (before after : Turn (Recorded τ)) :
    Prop where
  completions_eq : after.completions = before.completions ++ [⟨ticket, .error error⟩]
  pending_eq : after.source.pending = before.source.pending
  beliefs_eq : after.source.beliefs = before.source.beliefs
  relays_eq : after.source.relays = before.source.relays
  latencies_eq : after.source.latencies = before.source.latencies
  /-- The transport has taken no frame. -/
  nothing_sent : ∃ deeds, after.line.deeds = before.line.deeds ++ deeds ∧
    deeds.filterMap Deed.accepted? = []
  /-- A call that the source itself refuses does not reach the transport. -/
  untouched : error = .alreadyPending ∨ error = .notPrepared →
    after.source = before.source ∧ after.line = before.line

/-- A call was let through: its message was sent, and it waits. -/
structure Admits (ticket : Ticket) (call : Call) (before after : Turn (Recorded τ)) :
    Prop where
  completions_eq : after.completions = before.completions
  new : call ∉ before.source.pending.waiting.map Prod.fst
  waiting_eq : after.source.pending.waiting = before.source.pending.waiting ++ [(call, ticket)]
  /-- One frame was sent, on a channel that was there or was opened for it. -/
  sent : ∃ (opening : List Deed) (session : SessionId) (sequence : UInt64),
    (opening = [] ∨ opening = [.dialled call.remote (.ok session)]) ∧
    after.source.registry.byPeer[call.remote]? = some session ∧
    after.line.deeds = before.line.deeds ++ opening ++
      [.transmitted session (.composed sequence (call.message before.source.device)) (.ok ())]

/-- What looking for a channel comes to. -/
inductive Seeks (turn : Turn (Recorded τ)) (remote : Endpoint) :
    Except SharingError SessionId × Turn (Recorded τ) → Prop
  /-- There is none, and none may be opened. -/
  | absent : Seeks turn remote (.error .notPrepared, turn)
  /-- None could be opened. -/
  | blocked (reason : String) (refusal : TransportError) (channels : Channels (Recorded τ))
      (deeds : channels.line.deeds = turn.line.deeds ++ [.dialled remote (.error refusal)]) :
      Seeks turn remote (.error (.channelOpenFailed reason), turn.withChannels channels)
  | standing (session : SessionId) : Seeks turn remote (.ok session, turn)
  | opened (session : SessionId) (channels : Channels (Recorded τ))
      (deeds : channels.line.deeds = turn.line.deeds ++ [.dialled remote (.ok session)]) :
      Seeks turn remote (.ok session, turn.withChannels channels)

/-! ## Channels of calls -/

theorem seeks_existing (turn : Turn (Recorded τ)) (sink : DeviceId) (remote : Endpoint) :
    Seeks turn remote (turn.existing sink) := by
  rw [existing]
  split
  · exact Seeks.standing _
  · exact Seeks.absent

section Calls

variable [Transport τ] (turn : Turn (Recorded τ))

theorem seeks_connect (peer : DeviceId) (role : Role) :
    Seeks turn ⟨peer, role⟩ (turn.connect peer role) := by
  cases known : turn.source.registry.channel? peer role with
  | some session =>
    have there : turn.connect peer role = (.ok session, turn) := by
      rw [connect, turn.channels.connect_of_known known]
      rfl
    rw [there]
    exact Seeks.standing session
  | none =>
    obtain ⟨refusal, line, refused⟩ | ⟨session, line, opened⟩ := turn.connect_of_unknown known
    · rw [refused]
      exact Seeks.blocked _ refusal ⟨turn.source.registry, _⟩ rfl
    · rw [opened]
      exact Seeks.opened session _ rfl

theorem seeks_channelFor (call : Call) : Seeks turn call.remote (turn.channelFor call) := by
  rw [channelFor.eq_def]
  split
  · exact turn.seeks_connect _ _
  · exact turn.seeks_existing _ _
  · split
    · exact turn.seeks_existing _ _
    · exact Seeks.absent
  · exact turn.seeks_connect _ _

/-! ## Refused or let through -/

omit [Transport τ] in
theorem refuses_untouched (ticket : Ticket) (error : SharingError) :
    Refuses ticket error turn (turn.refuse ticket error).2 where
  completions_eq := rfl
  pending_eq := rfl
  beliefs_eq := rfl
  relays_eq := rfl
  latencies_eq := rfl
  nothing_sent := ⟨[], (List.append_nil _).symm, rfl⟩
  untouched := fun _ => ⟨rfl, rfl⟩

omit [Transport τ] in
/-- A refusal that comes from the transport. -/
theorem refuses_outside (ticket : Ticket) (error : SharingError)
    (outside : ¬(error = .alreadyPending ∨ error = .notPrepared))
    {channels : Channels (Recorded τ)} {deeds : List Deed}
    (record : channels.line.deeds = turn.line.deeds ++ deeds)
    (nothing : deeds.filterMap Deed.accepted? = []) :
    Refuses ticket error turn ((turn.withChannels channels).refuse ticket error).2 where
  completions_eq := rfl
  pending_eq := rfl
  beliefs_eq := rfl
  relays_eq := rfl
  latencies_eq := rfl
  nothing_sent := ⟨deeds, record, nothing⟩
  untouched := fun inside => absurd inside outside

/-- A call ends with the error that it gives. -/
def Decides (ticket : Ticket) (call : Call) (before : Turn (Recorded τ))
    (result : Except SharingError Unit × Turn (Recorded τ)) : Prop :=
  (∃ error, result.1 = .error error ∧ Refuses ticket error before result.2) ∨
    (result.1 = .ok () ∧ Admits ticket call before result.2)

/-- When there is a channel, a call fails only if its frame is refused. -/
theorem decides_of_channel (ticket : Ticket) {call : Call} {session : SessionId}
    (channels : Channels (Recorded τ)) {opening : List Deed}
    (new : turn.source.pending.contains call = false)
    (found : turn.channelFor call = (.ok session, turn.withChannels channels))
    (record : channels.line.deeds = turn.line.deeds ++ opening)
    (openings : opening = [] ∨ opening = [.dialled call.remote (.ok session)]) :
    Decides ticket call turn (turn.call ticket call) := by
  have unsent : opening.filterMap Deed.accepted? = [] := by
    cases openings with
    | inl same =>
      rw [same]
      rfl
    | inr same =>
      rw [same]
      rfl
  rw [Turn.call, if_neg (Bool.eq_false_iff.1 new), found]
  dsimp only
  obtain ⟨later, sequence, refusal, failed, _, deeds⟩ | ⟨later, sequence, sent, ways, deeds⟩ :=
    (turn.withChannels channels).send_cases session (call.message turn.source.device)
  · change (turn.withChannels channels).send session
      (call.message (turn.withChannels channels).source.device) = _ at failed
    change later.line.deeds = channels.line.deeds ++ _ at deeds
    rw [record, List.append_assoc] at deeds
    rw [failed]
    have nothing : (opening ++ [Deed.transmitted session
        (.composed sequence (call.message turn.source.device)) (.error refusal)]).filterMap
          Deed.accepted? = [] := by
      rw [List.filterMap_append, unsent]
      rfl
    exact Or.inl ⟨_, rfl, turn.refuses_outside ticket (.sendFailed _) (by simp) deeds nothing⟩
  · change (turn.withChannels channels).send session
      (call.message (turn.withChannels channels).source.device) = _ at sent
    change later.line.deeds = channels.line.deeds ++ _ at deeds
    have way := turn.byPeer_channelFor found
    have awaited :
        ((turn.withChannels channels).withChannels later).await ticket call =
          ((turn.withChannels later).withWaiting
            (turn.source.pending.waiting ++ [(call, ticket)])).report [] := by
      have absent :
          ((turn.withChannels channels).withChannels later).source.pending.contains call = false :=
        new
      rw [await, Pending.insert, absent]
      rfl
    rw [sent]
    dsimp only
    rw [awaited]
    refine Or.inr ⟨rfl, ?_⟩
    constructor
    · exact List.append_nil _
    · exact Pending.not_mem_keys new
    · rfl
    · refine ⟨opening, session, sequence, openings, ?_, ?_⟩
      · change later.registry.byPeer[call.remote]? = some session
        rw [ways]
        exact way
      · rw [← record]
        exact deeds

theorem decides_call (ticket : Ticket) (call : Call) :
    Decides ticket call turn (turn.call ticket call) := by
  cases new : turn.source.pending.contains call with
  | true =>
    rw [Turn.call, if_pos new]
    exact Or.inl ⟨_, rfl, turn.refuses_untouched ticket _⟩
  | false =>
    have known : ¬turn.source.pending.contains call = true := Bool.eq_false_iff.1 new
    have sought := turn.seeks_channelFor call
    generalize found : turn.channelFor call = result at sought
    cases sought with
    | absent =>
      rw [Turn.call, if_neg known, found]
      exact Or.inl ⟨_, rfl, turn.refuses_untouched ticket _⟩
    | blocked reason refusal channels deeds =>
      rw [Turn.call, if_neg known, found]
      exact Or.inl ⟨_, rfl, turn.refuses_outside ticket (.channelOpenFailed reason)
        (by simp) deeds rfl⟩
    | standing session =>
      exact turn.decides_of_channel ticket turn.channels new found
        (List.append_nil _).symm (Or.inl rfl)
    | opened session channels deeds =>
      exact turn.decides_of_channel ticket channels new found deeds (Or.inr rfl)

end Calls

end Turn

/-! ## Dockets -/

/-- The call that an occurrence makes. -/
def Occurrence.call? : Occurrence → Option (Call × Ticket)
  | .call ticket wanted => some (wanted, ticket)
  | _ => none

/-- A turn and the calls that were made in it, the first one first. -/
structure Docket (τ : Type) where
  turn : Turn (Recorded τ)
  calls : List (Call × Ticket) := []

namespace Docket

variable {τ : Type}

/-- The tickets of the calls that have ended, as often as they have. -/
def ended (docket : Docket τ) : List Ticket := docket.turn.completions.map Completion.ticket

/-- The calls that wait, with their tickets. -/
def waiting (docket : Docket τ) : List (Call × Ticket) := docket.turn.source.pending.waiting

variable [Transport τ]

def undergo (docket : Docket τ) (occurrence : Occurrence) : Docket τ where
  turn := docket.turn.undergo occurrence
  calls := docket.calls ++ occurrence.call?.toList

/-- The dockets of the source of a node. -/
inductive Reached (device : DeviceId) : Docket τ → Prop
  | start (line : τ) : Reached device { turn := { source := { device }, line := { line } } }
  | undergo {docket : Docket τ} (occurrence : Occurrence) :
      Reached device docket → Reached device (docket.undergo occurrence)
  /-- The transport changes by itself. -/
  | elsewhere {docket : Docket τ} (line : τ) :
      Reached device docket →
      Reached device
        { docket with turn := { docket.turn with line := { docket.turn.line with line } } }

/-! ## Every call has ended or waits -/

/-- No call is lost or made up, and those that wait do so under their own keys. -/
structure Sound (docket : Docket τ) : Prop where
  distinct : docket.turn.Distinct
  tickets_perm : docket.turn.tickets.Perm (docket.calls.map Prod.snd)
  waiting_subset : docket.waiting ⊆ docket.calls

variable {docket : Docket τ} {device : DeviceId}

omit [Transport τ] in
theorem Sound.keeps (sound : docket.Sound) {after : Turn (Recorded τ)}
    (keeps : docket.turn.Keeps after) : Sound { docket with turn := after } where
  distinct := keeps.distinct sound.distinct
  tickets_perm := (keeps.tickets_perm sound.distinct).trans sound.tickets_perm
  waiting_subset := List.Subset.trans keeps.fewer.subset sound.waiting_subset

theorem Sound.call (sound : docket.Sound) (ticket : Ticket) (call : Call) :
    (docket.undergo (.call ticket call)).Sound := by
  have accepts := docket.turn.accepts_call ticket call
  refine ⟨accepts.distinct sound.distinct, ?_, ?_⟩
  · have tickets := (accepts.tickets_perm sound.distinct).trans (sound.tickets_perm.cons ticket)
    change List.Perm _ ((docket.calls ++ [(call, ticket)]).map Prod.snd)
    rw [List.map_append]
    exact tickets.trans (List.perm_append_singleton ticket _).symm
  · change (docket.turn.call ticket call).2.source.pending.waiting ⊆
      docket.calls ++ [(call, ticket)]
    obtain ⟨error, _, refuses⟩ | ⟨_, admits⟩ := docket.turn.decides_call ticket call
    · rw [refuses.pending_eq]
      exact List.subset_append_of_subset_left _ sound.waiting_subset
    · rw [admits.waiting_eq]
      exact List.append_subset.2
        ⟨List.subset_append_of_subset_left _ sound.waiting_subset, List.subset_append_right _ _⟩

theorem Sound.undergo (sound : docket.Sound) (occurrence : Occurrence) :
    (docket.undergo occurrence).Sound := by
  have kept {after : Turn (Recorded τ)} (keeps : docket.turn.Keeps after) :
      Sound { turn := after, calls := docket.calls ++ [] } := by
    rw [List.append_nil]
    exact sound.keeps keeps
  cases occurrence with
  | call ticket call => exact sound.call ticket call
  | opened session peer => exact kept (Turn.Keeps.of_same rfl rfl)
  | message now session message => exact kept (docket.turn.keeps_handle now session message)
  | closed session => exact kept (docket.turn.keeps_closed session)
  | tick now => exact kept (docket.turn.keeps_tick now)

theorem Reached.sound (reached : docket.Reached device) : docket.Sound := by
  induction reached with
  | start line => exact ⟨List.nodup_nil, List.Perm.nil, List.nil_subset _⟩
  | undergo occurrence _ inductionHypothesis => exact inductionHypothesis.undergo occurrence
  | elsewhere line _ inductionHypothesis =>
    exact inductionHypothesis.keeps (Turn.Keeps.of_same rfl rfl)

omit [Transport τ] in
/-- With a ticket of its own, a call has ended once, or waits once and has not
ended. -/
theorem Sound.settled (sound : docket.Sound) (own : (docket.calls.map Prod.snd).Nodup)
    {entry : Call × Ticket} (made : entry ∈ docket.calls) :
    (docket.ended.count entry.2 = 1 ∧ entry.2 ∉ docket.waiting.map Prod.snd) ∨
      (entry.2 ∉ docket.ended ∧ entry ∈ docket.waiting ∧
        (docket.waiting.map Prod.snd).count entry.2 = 1) := by
  have nodup : (docket.ended ++ docket.waiting.map Prod.snd).Nodup :=
    sound.tickets_perm.nodup_iff.2 own
  have known : entry.2 ∈ docket.ended ++ docket.waiting.map Prod.snd :=
    sound.tickets_perm.mem_iff.2 (List.mem_map_of_mem made)
  obtain ⟨endedOnce, waitingOnce, apart⟩ := List.nodup_append.1 nodup
  cases List.mem_append.1 known with
  | inl ended =>
    refine Or.inl ⟨List.count_eq_one_of_mem endedOnce ended, ?_⟩
    intro waits
    exact apart entry.2 ended entry.2 waits rfl
  | inr waits =>
    obtain ⟨other, listed, same⟩ := List.mem_map.1 waits
    have equal : other = entry :=
      List.inj_on_of_nodup_map own (sound.waiting_subset listed) made same
    refine Or.inr ⟨?_, equal ▸ listed, List.count_eq_one_of_mem waitingOnce waits⟩
    intro ended
    exact apart entry.2 ended entry.2 waits rfl

end Docket

variable {τ : Type} [Transport τ] {device : DeviceId} {docket : Docket τ}

/-- Whatever happens to a source and whatever its transport does, each call has
ended once and waits nowhere, or has not ended and waits once, under its own key;
nothing else ends or waits.  A further call either is refused, and then ends at once
with the error that it gives, or is let through, and then is sent and waits. -/
theorem calls_end_once (reached : docket.Reached device)
    (own : (docket.calls.map Prod.snd).Nodup) :
    (∀ entry ∈ docket.calls,
      (docket.ended.count entry.2 = 1 ∧ entry.2 ∉ docket.waiting.map Prod.snd) ∨
        (entry.2 ∉ docket.ended ∧ entry ∈ docket.waiting ∧
          (docket.waiting.map Prod.snd).count entry.2 = 1)) ∧
    docket.ended ⊆ docket.calls.map Prod.snd ∧ docket.waiting ⊆ docket.calls ∧
    (docket.waiting.map Prod.fst).Nodup ∧
    ∀ (ticket : Ticket) (call : Call),
      docket.turn.Decides ticket call (docket.turn.call ticket call) := by
  have sound := reached.sound
  refine ⟨fun entry => sound.settled own, ?_, sound.waiting_subset, sound.distinct,
    docket.turn.decides_call⟩
  have ended : docket.ended ⊆ docket.turn.tickets := List.subset_append_left _ _
  exact List.Subset.trans ended sound.tickets_perm.subset

/-- The desk has prepared the tablet, and its calls to start sharing were refused
until then; the phone, through which it wants to reach the tablet too, is off. -/
def consulted : Docket Scripted :=
  let phoneless := Scripted.refuse {} ⟨"phone"⟩ none
  let start : Docket Scripted :=
    { turn := { source := { device := ⟨"desk"⟩ }, line := { line := phoneless } } }
  let asked := start.undergo (.call 0 (.direct ⟨"tablet"⟩ .prepare))
  let again := asked.undergo (.call 1 (.direct ⟨"tablet"⟩ .prepare))
  let early := again.undergo (.call 2 (.direct ⟨"tablet"⟩ (.startByType TypeMask.mouse)))
  let cut := early.undergo (.call 3 (.relayed ⟨"phone"⟩ ⟨"tablet"⟩ .prepare))
  let answered :=
    cut.undergo (.message 0 ⟨100⟩ (.reply ⟨"tablet"⟩ (.prepared Status.ok [])))
  answered.undergo (.call 4 (.direct ⟨"tablet"⟩ (.startByType TypeMask.mouse)))

theorem reached_consulted : consulted.Reached ⟨"desk"⟩ :=
  .undergo _ (.undergo _ (.undergo _ (.undergo _ (.undergo _ (.undergo _ (.start _))))))

theorem calls_end_once_consulted :
    consulted.Reached ⟨"desk"⟩ ∧ (consulted.calls.map Prod.snd).Nodup ∧
      consulted.ended = [1, 2, 3, 0] ∧ consulted.waiting.map Prod.snd = [4] ∧
      (∀ entry ∈ consulted.calls,
        (consulted.ended.count entry.2 = 1 ∧ entry.2 ∉ consulted.waiting.map Prod.snd) ∨
          (entry.2 ∉ consulted.ended ∧ entry ∈ consulted.waiting ∧
            (consulted.waiting.map Prod.snd).count entry.2 = 1)) ∧
      ∀ (ticket : Ticket) (call : Call),
        consulted.turn.Decides ticket call (consulted.turn.call ticket call) := by
  have own : (consulted.calls.map Prod.snd).Nodup := by decide +kernel
  obtain ⟨settled, _, _, _, decides⟩ := calls_end_once reached_consulted own
  exact ⟨reached_consulted, own, by decide +kernel, by decide +kernel, settled, decides⟩

end InputSharing.Source
