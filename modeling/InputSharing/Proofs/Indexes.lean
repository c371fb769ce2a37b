import InputSharing.Channel.Scripted
import InputSharing.Proofs.Observation
import InputSharing.Proofs.Registry

/-!
# The two indexes of a registry

A registry finds a channel by its session, and a session by the remote endpoint.  Both
indexes are written by every operation that opens or closes a channel, from either side.

A `ChannelStep` is one such operation, or a frame that is sent.  What steps `Leads` to keeps
the indexes `Consistent`, as long as no channel is entered under a session that is known.
-/

namespace InputSharing

/-! ## Consistent registries -/

namespace Registry

/-- The indexes agree, and every channel is entered as an open one under its own session. -/
structure Consistent (registry : Registry) : Prop extends Coherent registry where
  labelled : ∀ (session : SessionId) (channel : Channel),
    registry.bySession[session]? = some channel →
      channel.session = session ∧ channel.isOpen = true

/-- Neither index mentions a session. -/
structure Lacks (registry : Registry) (session : SessionId) : Prop where
  unknown : session ∉ registry.bySession
  unreached : ∀ remote : Endpoint, registry.byPeer[remote]? ≠ some session

/-- What a step makes of a registry: it uses up a number, it enters a channel, or it
forgets a session. -/
inductive Alters (entered? : Option SessionId) (before after : Registry) : Prop
  | counts (counter : FrameCounter) : after = { before with counter } →
      Alters entered? before after
  | gains (channel : Channel) : channel.isOpen = true → entered? = some channel.session →
      (channel.remoteRole = .sink → before.byPeer[channel.remote]? = none) →
      after = before.enter channel → Alters entered? before after
  | loses (session : SessionId) : after = (before.closed session).2 →
      Alters entered? before after

theorem consistent_empty : Consistent {} where
  toCoherent := coherent_empty
  labelled := by
    intro session channel found
    exact absurd (found.symm.trans Std.ExtTreeMap.getElem?_empty) (Option.some_ne_none _)

namespace Consistent

variable {before after : Registry} {entered? : Option SessionId}

theorem alters (consistent : before.Consistent) (alters : before.Alters entered? after)
    (fresh : ∀ session, entered? = some session → session ∉ before.bySession) :
    after.Consistent := by
  cases alters with
  | counts counter same =>
      subst same
      exact ⟨⟨consistent.leads, consistent.reached⟩, consistent.labelled⟩
  | gains channel isOpen entered first same =>
      subst same
      refine ⟨consistent.enter (fresh _ entered) first, ?_⟩
      intro session known found
      have found := (Table.getElem?_insert_eq ..).symm.trans found
      split at found
      · next same =>
        rw [← Option.some.inj found]
        exact ⟨same, isOpen⟩
      · exact consistent.labelled session known found
  | loses session same =>
      subst same
      refine ⟨consistent.closed session, ?_⟩
      intro tested known found
      rw [bySession_closed, Table.getElem?_erase_eq] at found
      split at found
      · cases found
      · exact consistent.labelled tested known found

/-- A session that nobody knows is not reached. -/
theorem lacks (consistent : before.Consistent) {session : SessionId}
    (unknown : session ∉ before.bySession) : before.Lacks session where
  unknown := unknown
  unreached := by
    intro remote reached
    obtain ⟨channel, found, -⟩ := consistent.leads remote session reached
    exact unknown (Table.mem_of_getElem? found)

/-- No two channels lead to the sink half of one node. -/
theorem sink_unique (consistent : before.Consistent) {first second : SessionId}
    {one other : Channel} (found : before.bySession[first]? = some one)
    (also : before.bySession[second]? = some other) (role : one.remoteRole = .sink)
    (same : one.remote = other.remote) : first = second := by
  have alike : other.remoteRole = .sink := (congrArg Endpoint.role same).symm.trans role
  have reached := consistent.reached first one found role
  have again := consistent.reached second other also alike
  rw [same] at reached
  exact Option.some.inj (reached.symm.trans again)

end Consistent

/-- A session stays unknown unless it is entered. -/
theorem Alters.unknown {entered? : Option SessionId} {before after : Registry}
    (alters : before.Alters entered? after) {session : SessionId}
    (unknown : session ∉ before.bySession) (apart : entered? ≠ some session) :
    session ∉ after.bySession := by
  cases alters with
  | counts counter same =>
      subst same
      exact unknown
  | gains channel _ entered _ same =>
      subst same
      intro known
      rcases mem_enter known with new | old
      · exact apart (new ▸ entered)
      · exact unknown old
  | loses gone same =>
      subst same
      rw [bySession_closed, Table.mem_erase_iff]
      exact fun known => unknown known.2

end Registry

/-! ## Steps -/

/-- What an endpoint does with its channels, or hears about them. -/
inductive ChannelStep where
  | connect (peer : DeviceId) (role : Role)
  | disconnect (peer : DeviceId) (role : Role)
  | opened (session : SessionId) (peer : DeviceId)
  | closed (session : SessionId)
  | send (session : SessionId) (message : Message)

namespace Channels

variable {τ : Type} [Transport τ]

def step (channels : Channels τ) : ChannelStep → Channels τ
  | .connect peer role => (channels.connect peer role).2
  | .disconnect peer role => channels.disconnect peer role
  | .opened session peer => { channels with registry := channels.registry.opened session peer }
  | .closed session => { channels with registry := (channels.registry.closed session).2 }
  | .send session message => (channels.send session message).2

/-- The session under which a step enters a channel. -/
def entered? (channels : Channels τ) : ChannelStep → Option SessionId
  | .connect peer role =>
      match channels.registry.channel? peer role with
      | some _ => none
      | none => (Transport.dial channels.line peer role).1.toOption
  | .opened session _ => some session
  | _ => none

theorem alters_step (channels : Channels τ) (coherent : channels.registry.Coherent)
    (step : ChannelStep) :
    channels.registry.Alters (channels.entered? step) (channels.step step).registry := by
  have idle {entered? : Option SessionId} :
      channels.registry.Alters entered? channels.registry :=
    .counts channels.registry.counter rfl
  cases step with
  | connect peer role =>
      rw [step, entered?]
      cases known : channels.registry.channel? peer role with
      | some session =>
          rw [channels.connect_of_known known]
          exact idle
      | none =>
          rcases dialled : Transport.dial channels.line peer role with ⟨refusal | session, line⟩
          · rw [channels.connect_of_refused known dialled]
            exact idle
          · rw [channels.connect_of_dialled known dialled]
            exact .gains { peer, remoteRole := role, session, outbound := true } rfl rfl
              (fun _ => known) rfl
  | disconnect peer role =>
      rw [step]
      cases known : channels.registry.channel? peer role with
      | none =>
          rw [channels.disconnect_of_unknown known]
          exact idle
      | some session =>
          rw [channels.disconnect_of_known coherent known]
          exact .loses session rfl
  | opened session peer =>
      refine .gains { peer, remoteRole := .source, session, outbound := false } rfl rfl ?_ rfl
      intro sink
      cases sink
  | closed session => exact .loses session rfl
  | send session message =>
      rw [step, send]
      dsimp only
      split
      · exact .counts _ rfl
      · exact .counts _ rfl

/-! ## Every history -/

/-- An endpoint that has no channels yet. -/
def start (line : τ) : Channels (Recorded τ) where
  registry := {}
  line := { line }

/-- What becomes of the channels of an endpoint, and the sessions under which channels are
entered meanwhile.  A session is not entered while it is known. -/
inductive Leads (first : Channels (Recorded τ)) : List SessionId → Channels (Recorded τ) → Prop
  | rest : Leads first [] first
  | step {entered : List SessionId} {channels : Channels (Recorded τ)} (step : ChannelStep) :
      Leads first entered channels →
      (∀ session, channels.entered? step = some session →
        session ∉ channels.registry.bySession) →
      Leads first (entered ++ (channels.entered? step).toList) (channels.step step)
  /-- The transport changes by itself. -/
  | elsewhere {entered : List SessionId} {channels : Channels (Recorded τ)} (line : τ) :
      Leads first entered channels →
      Leads first entered { channels with line := { channels.line with line } }

namespace Leads

variable {first channels : Channels (Recorded τ)} {entered : List SessionId}

theorem consistent (leads : first.Leads entered channels)
    (consistent : first.registry.Consistent) : channels.registry.Consistent := by
  induction leads with
  | rest => exact consistent
  | step step _ fresh inductionHypothesis =>
      have alters := alters_step _ inductionHypothesis.toCoherent step
      exact inductionHypothesis.alters alters fresh
  | elsewhere line _ inductionHypothesis => exact inductionHypothesis

/-- A session that is gone stays unknown until it is entered again. -/
theorem unknown (leads : first.Leads entered channels) (consistent : first.registry.Consistent)
    {session : SessionId} (gone : session ∉ first.registry.bySession)
    (unused : session ∉ entered) : session ∉ channels.registry.bySession := by
  induction leads with
  | rest => exact gone
  | step step leads _ inductionHypothesis =>
      have coherent := (leads.consistent consistent).toCoherent
      rw [List.mem_append, not_or, Option.mem_toList] at unused
      exact (alters_step _ coherent step).unknown (inductionHypothesis unused.1) unused.2
  | elsewhere line _ inductionHypothesis => exact inductionHypothesis unused

end Leads

/-- A session is forgotten for good: until it is entered again, neither index mentions it,
and to hear that it is gone says nothing and changes nothing. -/
def Forgets (session : SessionId) (channels : Channels (Recorded τ)) : Prop :=
  ∀ (entered : List SessionId) (later : Channels (Recorded τ)), channels.Leads entered later →
    session ∉ entered →
      later.registry.Lacks session ∧
        later.registry.closed session = (none, later.registry)

theorem forgets_of_unknown {channels : Channels (Recorded τ)} {session : SessionId}
    (consistent : channels.registry.Consistent)
    (gone : session ∉ channels.registry.bySession) : channels.Forgets session := by
  intro entered later leads unused
  have unknown := leads.unknown consistent gone unused
  refine ⟨(leads.consistent consistent).lacks unknown, ?_⟩
  exact Registry.closed_of_unknown (Std.ExtTreeMap.getElem?_eq_none unknown)

/-- An endpoint that is reached already is reached without the transport.  Otherwise the
transport is asked once, and if it refuses then the indexes stay as they are. -/
structure Reuses (channels : Channels (Recorded τ)) (peer : DeviceId) (role : Role) : Prop where
  known : ∀ session, channels.registry.channel? peer role = some session →
    channels.connect peer role = (.ok session, channels)
  unknown : channels.registry.channel? peer role = none →
    ∃ answer, (channels.connect peer role).2.line.deeds =
        channels.line.deeds ++ [.dialled ⟨peer, role⟩ answer] ∧
      match answer with
      | .error refusal =>
          (channels.connect peer role).1 = .error (.channelOpenFailed refusal.message) ∧
            (channels.connect peer role).2.registry = channels.registry
      | .ok session =>
          (channels.connect peer role).1 = .ok session ∧
            (channels.connect peer role).2.registry.channel? peer role = some session

theorem reuses (channels : Channels (Recorded τ)) (peer : DeviceId) (role : Role) :
    channels.Reuses peer role where
  known := fun session known => channels.connect_of_known known
  unknown := by
    intro unknown
    rcases dialled : Transport.dial channels.line.line peer role with ⟨answer, line⟩
    have recorded : Transport.dial channels.line peer role =
        ((Transport.dial channels.line.line peer role).1,
          ⟨(Transport.dial channels.line.line peer role).2, channels.line.deeds ++
            [.dialled ⟨peer, role⟩ (Transport.dial channels.line.line peer role).1]⟩) := rfl
    rw [dialled] at recorded
    refine ⟨answer, by rw [channels.line_connect_of_unknown unknown, recorded], ?_⟩
    cases answer with
    | error refusal =>
        rw [channels.connect_of_refused unknown recorded]
        exact ⟨rfl, rfl⟩
    | ok session =>
        rw [channels.connect_of_dialled unknown recorded]
        exact ⟨rfl, Std.ExtTreeMap.getElem?_insert_self⟩

/-- Whatever an endpoint does with its channels, and whatever its transport does, its indexes
agree: an endpoint is reached on an open channel that leads there, and the channel to the
sink half of a node is the one on which it is reached.  The transport is asked for a channel
only where there is none.  A channel that is closed, from this side or from the other one, is
forgotten for good, and the other channels are found as before. -/
theorem indexes_agree {line : τ} {entered : List SessionId} {channels : Channels (Recorded τ)}
    (leads : (start line).Leads entered channels) :
    (∀ (peer : DeviceId) (role : Role) (session : SessionId),
      channels.registry.channel? peer role = some session →
        ∃ channel : Channel, channels.registry.bySession[session]? = some channel ∧
          channel.session = session ∧ channel.isOpen = true ∧ channel.peer = peer ∧
            channel.remoteRole = role) ∧
    (∀ (session : SessionId) (channel : Channel),
      channels.registry.bySession[session]? = some channel → channel.remoteRole = .sink →
        channels.registry.channel? channel.peer .sink = some session ∧
          ∀ (other : SessionId) (another : Channel),
            channels.registry.bySession[other]? = some another → another.remoteRole = .sink →
              another.peer = channel.peer → other = session) ∧
    (∀ (peer : DeviceId) (role : Role), channels.Reuses peer role) ∧
    (∀ (peer : DeviceId) (role : Role) (session : SessionId),
      channels.registry.channel? peer role = some session →
        (channels.step (.disconnect peer role)).Forgets session) ∧
    (∀ session : SessionId, (channels.step (.closed session)).Forgets session) ∧
    ∀ (session : SessionId) (peer : DeviceId) (role : Role) (newer : SessionId),
      channels.registry.channel? peer role = some newer → newer ≠ session →
        (channels.step (.closed session)).registry.channel? peer role = some newer ∧
          (channels.step (.closed session)).registry.peer? newer = some peer := by
  have consistent := leads.consistent Registry.consistent_empty
  have kept (step : ChannelStep) (nothing : channels.entered? step = none) :
      (channels.step step).registry.Consistent := by
    refine consistent.alters (alters_step channels consistent.toCoherent step) ?_
    intro session entered
    rw [nothing] at entered
    cases entered
  have unknown (session : SessionId) :
      session ∉ (channels.registry.closed session).2.bySession := by
    rw [Registry.bySession_closed, Table.mem_erase_iff]
    exact fun known => known.1 rfl
  refine ⟨?_, ?_, channels.reuses, ?_, ?_, ?_⟩
  · intro peer role session reached
    obtain ⟨channel, found, remote⟩ := consistent.leads ⟨peer, role⟩ session reached
    obtain ⟨own, isOpen⟩ := consistent.labelled session channel found
    obtain ⟨rfl, rfl⟩ := Endpoint.mk.inj remote
    exact ⟨channel, found, own, isOpen, rfl, rfl⟩
  · intro session channel found role
    have reached := consistent.reached session channel found role
    rw [Channel.remote, role] at reached
    refine ⟨reached, ?_⟩
    intro other another present alike same
    refine consistent.sink_unique present found alike ?_
    rw [Channel.remote, Channel.remote, alike, role, same]
  · intro peer role session reached
    refine forgets_of_unknown (kept _ rfl) ?_
    rw [step, channels.disconnect_of_known consistent.toCoherent reached]
    exact unknown session
  · intro session
    exact forgets_of_unknown (kept _ rfl) (unknown session)
  · intro session peer role newer reached other
    have elsewhere : channels.registry.byPeer[(⟨peer, role⟩ : Endpoint)]? ≠ some session :=
      fun there => other (Option.some.inj (reached.symm.trans there))
    obtain ⟨channel, found, remote⟩ := consistent.leads ⟨peer, role⟩ newer reached
    constructor
    · change (channels.registry.closed session).2.byPeer[(⟨peer, role⟩ : Endpoint)]? = _
      rw [consistent.byPeer_closed, if_neg elsewhere]
      exact reached
    · change (channels.registry.closed session).2.peer? newer = _
      rw [channels.registry.peer?_closed (fun same => other same.symm), Registry.peer?, found]
      exact congrArg (fun remote : Endpoint => some remote.device) remote

/-- The desk has opened two channels, the second one after the first. -/
def superseded : Channels (Recorded Scripted) :=
  ((start {}).step (.opened ⟨1⟩ ⟨"desk"⟩)).step (.opened ⟨2⟩ ⟨"desk"⟩)

theorem leads_superseded : (start {}).Leads [⟨1⟩, ⟨2⟩] superseded := by
  have begun : (start ({} : Scripted)).Leads [] (start {}) := .rest
  have once := begun.step (.opened ⟨1⟩ ⟨"desk"⟩) (by
    intro session _
    exact Std.ExtTreeMap.not_mem_empty)
  refine once.step (.opened ⟨2⟩ ⟨"desk"⟩) ?_
  intro session entered
  obtain rfl : (⟨2⟩ : SessionId) = session := Option.some.inj entered
  decide +kernel

theorem indexes_agree_superseded :
    (start {}).Leads [⟨1⟩, ⟨2⟩] superseded ∧
      superseded.registry.bySession.contains ⟨1⟩ = true ∧
      (superseded.step (.closed ⟨1⟩)).registry.channel? ⟨"desk"⟩ .source = some ⟨2⟩ ∧
      (superseded.step (.closed ⟨1⟩)).registry.peer? ⟨2⟩ = some ⟨"desk"⟩ ∧
      (superseded.step (.closed ⟨1⟩)).Forgets ⟨1⟩ := by
  obtain ⟨-, -, -, -, forgets, stays⟩ := indexes_agree leads_superseded
  have newer : superseded.registry.channel? ⟨"desk"⟩ .source = some ⟨2⟩ := by decide +kernel
  obtain ⟨reached, known⟩ := stays ⟨1⟩ ⟨"desk"⟩ .source ⟨2⟩ newer (by decide)
  exact ⟨leads_superseded, by decide +kernel, reached, known, forgets ⟨1⟩⟩

end Channels

end InputSharing
