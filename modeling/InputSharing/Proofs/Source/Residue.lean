import InputSharing.Channel.Scripted
import InputSharing.Proofs.Source.Closing
import InputSharing.Proofs.Source.Grounding

/-!
# What a lost sink leaves behind

As long as only sinks answer a source, it keeps things only about sinks to which a
channel is open.  So nothing is left about a sink when its channel is gone, and
since the session is not used again, no late answer on it has any effect.
-/

namespace InputSharing.Source

/-! ## Passages -/

namespace Passage

variable {τ : Type} [Transport τ] {device : DeviceId} {passage earlier : Passage τ}

/-- What can become of a passage while answers of sinks come on channels that lead
to sinks. -/
inductive Leads (earlier : Passage τ) : Passage τ → Prop
  | rest : Leads earlier earlier
  | undergo {passage : Passage τ} (occurrence : Occurrence) :
      Leads earlier passage → occurrence.IsDue passage.turn.source.registry →
      Leads earlier (passage.undergo occurrence)
  /-- The transport changes by itself. -/
  | elsewhere {passage : Passage τ} (line : τ) :
      Leads earlier passage →
      Leads earlier
        { passage with turn := { passage.turn with line := { passage.turn.line with line } } }

/-- The passages of the source of a node to which only sinks have answered. -/
def Sincere (device : DeviceId) (passage : Passage τ) : Prop :=
  ∃ line : τ, Leads { turn := { source := { device }, line := { line } } } passage

theorem Leads.reached (leads : earlier.Leads passage) (reached : earlier.Reached device) :
    passage.Reached device := by
  induction leads with
  | rest => exact reached
  | undergo occurrence _ _ inductionHypothesis =>
    exact .undergo occurrence inductionHypothesis
  | elsewhere line _ inductionHypothesis => exact .elsewhere line inductionHypothesis

theorem Sincere.reached (sincere : passage.Sincere device) : passage.Reached device := by
  obtain ⟨line, leads⟩ := sincere
  exact leads.reached (.start line)

/-- No session is taken off the record. -/
theorem sessions_sublist_undergo (passage : Passage τ) (occurrence : Occurrence) :
    passage.sessions.Sublist (passage.undergo occurrence).sessions := by
  have grown {after : Turn (Recorded τ)} (grows : passage.turn.dialled <+: after.dialled) :
      passage.sessions.Sublist (passage.inbound ++ after.dialled) :=
    grows.sublist.append_left passage.inbound
  cases occurrence with
  | call ticket call => exact grown (passage.turn.carries_call ticket call).dialled_grows
  | opened session peer =>
    exact (List.sublist_append_left _ [session]).append (List.Sublist.refl _)
  | message now session body =>
    exact grown (passage.turn.conveys_handle now session body).dialled_grows
  | closed session => exact grown (passage.turn.conveys_closed session).dialled_grows
  | tick now => exact grown (passage.turn.conveys_tick now).dialled_grows

/-- What happens to a source lets it know no channels but those that it has known and
those that are new, and leaves nothing behind about a sink that is not reached. -/
structure Upholds (before after : Passage τ) : Prop where
  known : ∃ added : List SessionId, after.sessions.Perm (before.sessions ++ added) ∧
    ∀ session ∈ after.turn.source.registry.bySession,
      session ∈ before.turn.source.registry.bySession ∨ session ∈ added
  grounded : before.turn.Grounded → after.turn.Grounded

theorem upholds_undergo (occurrence : Occurrence)
    (coherent : passage.turn.source.registry.Coherent)
    (due : occurrence.IsDue passage.turn.source.registry) :
    passage.Upholds (passage.undergo occurrence) := by
  have within {after : Passage τ} (upholds : Turn.Upholds passage.turn after.turn)
      (inbound : after.inbound = passage.inbound) : passage.Upholds after := by
    obtain ⟨opened, dialled, known⟩ := upholds.known
    refine ⟨⟨opened, ?_, known⟩, upholds.grounded⟩
    rw [sessions, sessions, inbound, dialled, List.append_assoc]
  cases occurrence with
  | call ticket call => exact within (passage.turn.upholds_call ticket call) rfl
  | opened session peer =>
    refine ⟨⟨[session], ?_, ?_⟩, ?_⟩
    · change ((passage.inbound ++ [session]) ++ passage.turn.dialled).Perm
        ((passage.inbound ++ passage.turn.dialled) ++ [session])
      rw [List.append_assoc, List.append_assoc]
      exact List.perm_append_comm.append_left passage.inbound
    · intro tested present
      exact (Registry.mem_enter present).symm.imp_right List.mem_singleton.2
    · exact fun grounded =>
        grounded.enter { Lessens.refl passage.turn.source with } rfl rfl
  | message now session body =>
    exact within (passage.turn.upholds_handle coherent now session body due) rfl
  | closed session => exact within (passage.turn.upholds_closed coherent session) rfl
  | tick now => exact within (passage.turn.upholds_tick now) rfl

namespace Leads

theorem grounded (leads : earlier.Leads passage) (reached : earlier.Reached device)
    (distinct : passage.sessions.Nodup) (grounded : earlier.turn.Grounded) :
    passage.turn.Grounded := by
  induction leads with
  | rest => exact grounded
  | undergo occurrence leads due inductionHypothesis =>
    have before := distinct.sublist (sessions_sublist_undergo _ occurrence)
    have coherent := ((leads.reached reached).placed before).coherent
    exact (upholds_undergo occurrence coherent due).grounded (inductionHypothesis before)
  | elsewhere line _ inductionHypothesis =>
    have kept := inductionHypothesis distinct
    exact ⟨kept.open_of_known, kept.reached⟩

/-- A channel that is gone stays gone. -/
theorem unknown {session : SessionId} (leads : earlier.Leads passage)
    (reached : earlier.Reached device) (distinct : passage.sessions.Nodup)
    (past : session ∈ earlier.sessions)
    (gone : session ∉ earlier.turn.source.registry.bySession) :
    session ∈ passage.sessions ∧ session ∉ passage.turn.source.registry.bySession := by
  induction leads with
  | rest => exact ⟨past, gone⟩
  | undergo occurrence leads due inductionHypothesis =>
    have before := distinct.sublist (sessions_sublist_undergo _ occurrence)
    have coherent := ((leads.reached reached).placed before).coherent
    obtain ⟨used, absent⟩ := inductionHypothesis before
    refine ⟨(sessions_sublist_undergo _ occurrence).subset used, ?_⟩
    obtain ⟨added, perm, known⟩ := (upholds_undergo occurrence coherent due).known
    have apart := List.nodup_append.1 (perm.nodup_iff.1 distinct)
    intro present
    rcases known session present with earlier | new
    · exact absent earlier
    · exact apart.2.2 session used session new rfl
  | elsewhere line _ inductionHypothesis => exact inductionHypothesis distinct

end Leads

theorem Sincere.grounded (sincere : passage.Sincere device)
    (distinct : passage.sessions.Nodup) : passage.turn.Grounded := by
  obtain ⟨line, leads⟩ := sincere
  refine leads.grounded (.start line) distinct ⟨?_, ?_⟩
  · intro session channel known
    exact absurd (Table.mem_of_getElem? known) Std.ExtTreeMap.not_mem_empty
  · rintro sink (believed | measured | ⟨request, ticket, waiting⟩ | ⟨token, _, live, _⟩)
    · exact absurd believed Std.ExtTreeMap.not_mem_empty
    · exact absurd measured Std.ExtTreeMap.not_mem_empty
    · cases waiting
    · exact absurd (Table.mem_of_getElem? live) Std.ExtTreeMap.not_mem_empty

end Passage

/-! ## The loss of a sink -/

/-- The channel to a sink is gone, or the sink says, in answer to the source or to a
request that the source has passed on, that it is no longer prepared. -/
inductive Occurrence.Loses (source : Source) (sink : DeviceId) : Occurrence → Prop
  | closed {session : SessionId} {channel : Channel} :
      source.registry.bySession[session]? = some channel → channel.remote = ⟨sink, .sink⟩ →
      Loses source sink (.closed session)
  | unprepared {session : SessionId} (now : UInt64) (device : DeviceId) :
      source.registry.peer? session = some sink →
      Loses source sink (.message now session (.reply device (.unprepared Status.ok)))
  | relayUnprepared {session : SessionId} {token : RelayToken} {correlation : Correlation}
      (now : UInt64) (device : DeviceId) :
      source.registry.peer? session = some sink →
      source.relays.live[token]? = some correlation → correlation.target = sink →
      Loses source sink
        (.message now session (.relayedReply token device (.unprepared Status.ok)))

namespace Turn

variable {τ : Type} [Transport τ] (turn : Turn (Recorded τ))

theorem not_known_retire {sink : DeviceId} {session : SessionId}
    (there : turn.source.registry.channel? sink .sink = some session) :
    session ∉ (turn.retire sink).source.registry.bySession := by
  rw [retire_of_reached there]
  exact fun present => ((Table.mem_erase_iff _ _ _).1 present).1 rfl

/-- A reaction comes to the end of the session with a sink, and forgets the sink and
its channel. -/
structure Loses (sink : DeviceId) (before after : Turn (Recorded τ)) : Prop where
  forgotten : after.source.Forgotten sink
  gone : ∀ session : SessionId, before.source.registry.channel? sink .sink = some session →
    session ∉ after.source.registry.bySession

theorem loses_closed (coherent : turn.source.registry.Coherent) {sink : DeviceId}
    {session : SessionId} {channel : Channel}
    (known : turn.source.registry.bySession[session]? = some channel)
    (leads : channel.remote = ⟨sink, .sink⟩) : Loses sink turn (turn.closed session) := by
  have role : channel.remoteRole = .sink := congrArg Endpoint.role leads
  have peer : channel.peer = sink := congrArg Endpoint.device leads
  have there := coherent.reached session channel known role
  rw [leads] at there
  have closed := turn.closed_of_known known
  rw [role, peer] at closed
  dsimp only at closed
  have registry : (turn.closed session).source.registry.byPeer =
      (turn.source.registry.closed session).2.byPeer ∧
      (turn.closed session).source.registry.bySession =
        turn.source.registry.bySession.erase session := by
    obtain ⟨counter, line, dropped⟩ := (turn.without session).sent_dropSink sink
    rw [closed, dropped, ← Registry.bySession_closed]
    exact ⟨rfl, rfl⟩
  refine ⟨forgotten_iff.2 ⟨?_, ?_⟩, ?_⟩
  · rw [closed]
    exact (turn.without session).not_recalls_dropSink sink
  · rw [Registry.channel?, registry.1, coherent.byPeer_closed, if_pos there]
  · intro tested reached
    rw [Option.some.inj (reached.symm.trans there), registry.2]
    exact fun present => ((Table.mem_erase_iff _ _ _).1 present).1 rfl

theorem loses_retire {before : Turn (Recorded τ)} (sink : DeviceId)
    (byPeer : before.source.registry.byPeer = turn.source.registry.byPeer) :
    Loses sink turn (before.retire sink) where
  forgotten := before.forgotten_retire sink
  gone := by
    intro session there
    refine before.not_known_retire ?_
    rw [Registry.channel?, byPeer]
    exact there

theorem loses_undergo (coherent : turn.source.registry.Coherent) {sink : DeviceId}
    {occurrence : Occurrence} (loses : occurrence.Loses turn.source sink) :
    Loses sink turn (turn.undergo occurrence) := by
  cases loses with
  | closed known leads => exact turn.loses_closed coherent known leads
  | unprepared now device known =>
    rw [undergo, handle, known]
    exact turn.loses_retire sink rfl
  | @relayUnprepared session token correlation now device known live target =>
    have byPeer (message : Correlation → Message) :
        (turn.completeRelay token message).source.registry.byPeer =
          turn.source.registry.byPeer := by
      rw [completeRelay_eq, live]
      dsimp only
      cases correlation.origin with
      | none => rfl
      | some origin =>
        let usedUp := turn.withLive (turn.source.relays.live.erase token)
        obtain ⟨counter, line, sent⟩ := usedUp.sent_post origin (message correlation)
        change (usedUp.post origin (message correlation)).source.registry.byPeer = _
        rw [sent]
        rfl
    rw [undergo, handle, known]
    dsimp only [onMessage]
    rw [onRelayedReply, Relays.peek, live]
    dsimp only
    rw [if_pos target]
    exact turn.loses_retire sink (byPeer _)

end Turn

/-- As long as only sinks have answered a source and no session is used twice, all that
the source keeps about a sink is about one that it reaches on an open channel.  When
the channel is gone or the sink has left, nothing about the sink is kept, and whatever
still comes on the channel has no effect, then or later. -/
theorem lost_sink_leaves_nothing {τ : Type} [Transport τ] {device : DeviceId}
    {passage : Passage τ} (sincere : passage.Sincere device)
    (distinct : passage.sessions.Nodup) :
    (∀ sink, passage.turn.source.Recalls sink → passage.turn.source.registry.Reaches sink) ∧
    ∀ (sink : DeviceId) (occurrence : Occurrence),
      occurrence.Loses passage.turn.source sink →
        (passage.turn.undergo occurrence).source.Forgotten sink ∧
        ∀ session, passage.turn.source.registry.channel? sink .sink = some session →
          ∀ later : Passage τ, (passage.undergo occurrence).Leads later →
            later.sessions.Nodup →
            ∀ now message, later.turn.handle now session message = later.turn := by
  have coherent := (sincere.reached.placed distinct).coherent
  constructor
  · intro sink recalled
    exact (sincere.grounded distinct).reaches coherent recalled
  · intro sink occurrence lost
    obtain ⟨forgotten, gone⟩ := passage.turn.loses_undergo coherent lost
    refine ⟨forgotten, ?_⟩
    intro session there later leads apart now message
    obtain ⟨channel, known, _⟩ := coherent.leads _ _ there
    have past : session ∈ passage.sessions :=
      (sincere.reached.placed distinct).known_past session (Table.mem_of_getElem? known)
    have used := (Passage.sessions_sublist_undergo passage occurrence).subset past
    have undergone : (passage.undergo occurrence).turn = passage.turn.undergo occurrence := by
      cases occurrence <;> rfl
    have absent : session ∉ later.turn.source.registry.bySession :=
      (leads.unknown (sincere.reached.undergo occurrence) apart used
        (undergone ▸ gone session there)).2
    have unheard : later.turn.source.registry.peer? session = none := by
      rw [Registry.peer?, Std.ExtTreeMap.getElem?_eq_none absent]
      rfl
    rw [Turn.handle, unheard]

/-- The desk has asked the tablet to prepare, and the tablet has done so. -/
def welcomed : Passage Scripted :=
  let start : Passage Scripted :=
    { turn := { source := { device := ⟨"desk"⟩ }, line := { line := {} } } }
  let asked := start.undergo (.call 0 (.direct ⟨"tablet"⟩ .prepare))
  asked.undergo (.message 0 ⟨100⟩ (.reply ⟨"tablet"⟩ (.prepared Status.ok [])))

theorem sincere_welcomed : welcomed.Sincere ⟨"desk"⟩ := by
  refine ⟨{}, .undergo (.message 0 ⟨100⟩ (.reply ⟨"tablet"⟩ (.prepared Status.ok [])))
    (.undergo (.call 0 (.direct ⟨"tablet"⟩ .prepare)) .rest trivial) ?_⟩
  have sink :
      (welcomed.turn.source.registry.bySession[(⟨100⟩ : SessionId)]?.all
        fun channel => channel.remoteRole = .sink) = true := by
    decide +kernel
  intro _ channel known
  change welcomed.turn.source.registry.bySession[(⟨100⟩ : SessionId)]? = some channel at known
  rw [known] at sink
  exact of_decide_eq_true sink

theorem lost_sink_leaves_nothing_welcomed :
    let late : Message := .reply ⟨"tablet"⟩ (.prepared Status.ok [])
    let after := welcomed.undergo (.closed ⟨100⟩)
    welcomed.Sincere ⟨"desk"⟩ ∧ welcomed.sessions.Nodup ∧
      (Occurrence.closed ⟨100⟩).Loses welcomed.turn.source ⟨"tablet"⟩ ∧
      welcomed.turn.source.registry.Reaches ⟨"tablet"⟩ ∧
      after.turn.source.Forgotten ⟨"tablet"⟩ ∧
      after.turn.handle 0 ⟨100⟩ late = after.turn := by
  intro late after
  have distinct : welcomed.sessions.Nodup := by decide +kernel
  have believed : welcomed.turn.source.Recalls ⟨"tablet"⟩ :=
    .belief (by decide +kernel)
  let channel : Channel :=
    { peer := ⟨"tablet"⟩, remoteRole := .sink, session := ⟨100⟩, outbound := true }
  have known :
      welcomed.turn.source.registry.bySession[(⟨100⟩ : SessionId)]? = some channel := by
    decide +kernel
  have loses : (Occurrence.closed ⟨100⟩).Loses welcomed.turn.source ⟨"tablet"⟩ :=
    .closed known rfl
  obtain ⟨reaches, lost⟩ := lost_sink_leaves_nothing sincere_welcomed distinct
  obtain ⟨forgotten, late⟩ := lost ⟨"tablet"⟩ (.closed ⟨100⟩) loses
  exact ⟨sincere_welcomed, distinct, loses, reaches _ believed, forgotten,
    late ⟨100⟩ (by decide +kernel) after .rest (by decide +kernel) 0 _⟩

end InputSharing.Source
