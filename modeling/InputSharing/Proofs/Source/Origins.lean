import InputSharing.Channel.Scripted
import InputSharing.Proofs.Source.Isolation
import InputSharing.Proofs.Source.Residue

/-!
# Where passed-on requests came from

A request to pass on comes on any channel to the asking node, whichever side opened it.  A
source takes the origin from the requests of a channel that is gone only if the other node
opened the channel.  The requests of a channel that was opened from this side keep an
origin that is no longer there.

Reactions open channels from this side only, and they give up no channel to a source.  This
is what a `Dials` step says, and what `Attached` rests on: no request waits for a channel
that another node opened and that is gone.
-/

namespace InputSharing

def Registry.remote? (registry : Registry) (session : SessionId) : Option Endpoint :=
  registry.bySession[session]?.map Channel.remote

/-- What is left of a request when a channel is gone that may have been the one to its
sink. -/
def Correlation.remain (registry : Registry) (session : SessionId)
    (correlation : Correlation) : Option Correlation :=
  if registry.remote? session = some ⟨correlation.target, .sink⟩ then none else some correlation

theorem Correlation.detach_eq_self_iff {session : SessionId} {correlation : Correlation} :
    correlation.detach session = correlation ↔ correlation.origin ≠ some session := by
  rw [detach]
  split
  · next same =>
    rw [same]
    refine iff_of_false ?_ (fun other => other rfl)
    intro unchanged
    have origin := congrArg Correlation.origin unchanged
    rw [same] at origin
    cases origin
  · next other => exact iff_of_true rfl other

theorem Correlation.origin_detach {session origin : SessionId} {correlation : Correlation}
    (present : (correlation.detach session).origin = some origin) :
    correlation.origin = some origin ∧ origin ≠ session := by
  rw [detach] at present
  split at present
  · cases present
  · next other =>
    refine ⟨present, ?_⟩
    intro same
    exact other (same ▸ present)

namespace Source

namespace Turn

variable {τ : Type}

/-! ## Channels opened from this side -/

/-- A reaction opens channels from this side, and leaves every other channel to a source
alone. -/
structure Dials (opened : List SessionId) (before after : Turn (Recorded τ)) : Prop where
  dialled : after.dialled = before.dialled ++ opened
  known : ∀ (session : SessionId) (channel : Channel),
    after.source.registry.bySession[session]? = some channel →
      before.source.registry.bySession[session]? = some channel ∨
        session ∈ opened ∧ channel.outbound = true
  kept : ∀ (session : SessionId) (channel : Channel), session ∉ opened →
    before.source.registry.bySession[session]? = some channel → channel.remoteRole = .source →
      after.source.registry.bySession[session]? = some channel

namespace Dials

variable {opened later : List SessionId} {before middle after : Turn (Recorded τ)}

theorem of_same (bySession : after.source.registry.bySession = before.source.registry.bySession)
    (dialled : after.dialled = before.dialled) : Dials [] before after where
  dialled := dialled.trans (List.append_nil _).symm
  known := by
    intro session channel present
    rw [bySession] at present
    exact Or.inl present
  kept := by
    intro session channel _ present _
    rw [bySession]
    exact present

theorem refl (turn : Turn (Recorded τ)) : Dials [] turn turn := of_same rfl rfl

theorem trans (first : Dials opened before middle) (second : Dials later middle after) :
    Dials (opened ++ later) before after where
  dialled := by rw [second.dialled, first.dialled, List.append_assoc]
  known := by
    intro session channel present
    rcases second.known session channel present with earlier | ⟨new, outbound⟩
    · refine (first.known session channel earlier).imp_right ?_
      exact And.imp_left (List.mem_append_left later)
    · exact Or.inr ⟨List.mem_append_right opened new, outbound⟩
  kept := by
    intro session channel apart present source
    rw [List.mem_append, not_or] at apart
    exact second.kept session channel apart.2
      (first.kept session channel apart.1 present source) source

/-- Something is sent afterwards. -/
theorem send [Transport τ] (dials : Dials opened before after) (session : SessionId)
    (message : Message) : Dials opened before (after.send session message).2 := by
  obtain ⟨counter, line, sent⟩ := after.sent_send session message
  have sends : Dials [] after (after.send session message).2 := by
    refine of_same ?_ (after.dialled_send session message)
    rw [sent]
  simpa using dials.trans sends

/-- A token is used up afterwards. -/
theorem completeRelay [Transport τ] (dials : Dials opened before after) (token : RelayToken)
    (message : Correlation → Message) :
    Dials opened before (after.completeRelay token message) := by
  have usedUp : Dials opened before (after.withLive (after.source.relays.live.erase token)) :=
    ⟨dials.dialled, dials.known, dials.kept⟩
  obtain silent | ⟨correlation, origin, _, _, reported⟩ := after.completeRelay_cases token message
  · rw [silent]
    exact usedUp
  · rw [reported]
    exact usedUp.send _ _

end Dials

/-- A channel to a sink may be given up. -/
theorem Confined.dials {peer : DeviceId} {ended? : Option Call}
    {before after : Turn (Recorded τ)} (confined : Confined peer ended? none before after)
    (coherent : before.source.registry.Coherent) : Dials [] before after := by
  have dialled : after.dialled = before.dialled := by
    obtain ⟨deeds, grown, within⟩ := confined.deeds
    have nothing : deeds.filterMap Deed.dialled? = [] := by
      rw [List.filterMap_eq_nil_iff]
      intro deed listed
      cases deed with
      | transmitted _ _ _ => rfl
      | hungUp _ => rfl
      | dialled remote answer =>
          obtain ⟨inquiry, asked, -⟩ := within _ listed
          cases asked
    rw [Turn.dialled, grown, List.filterMap_append, nothing, List.append_nil]
    rfl
  cases confined.channels with
  | same _ bySession => exact .of_same bySession dialled
  | dialled asked _ _ _ => cases asked
  | @severed severed reached _ bySession =>
      refine ⟨dialled.trans (List.append_nil _).symm, ?_, ?_⟩
      · intro session channel present
        rw [bySession, Table.getElem?_erase_eq] at present
        split at present
        · cases present
        · exact Or.inl present
      · intro session channel _ present source
        have other : severed ≠ session := by
          intro same
          obtain ⟨known, found, leads⟩ := coherent.leads _ _ reached
          rw [same, present] at found
          have sink : channel.remoteRole = .sink := by
            rw [Option.some.inj found]
            exact congrArg Endpoint.role leads
          rw [source] at sink
          cases sink
        rw [bySession, Table.getElem?_erase_eq, if_neg other]
        exact present

section Reactions

variable [Transport τ] (turn : Turn (Recorded τ))

theorem dials_connect (peer : DeviceId) (role : Role) :
    ∃ opened, Dials opened turn (turn.connect peer role).2 := by
  cases known : turn.source.registry.channel? peer role with
  | some session =>
      have same : (turn.connect peer role).2 = turn := by
        rw [connect, turn.channels.connect_of_known known]
        rfl
      rw [same]
      exact ⟨[], .refl turn⟩
  | none =>
      obtain ⟨refusal, line, connected⟩ | ⟨session, line, connected⟩ :=
        turn.connect_of_unknown known
      · rw [connected]
        refine ⟨[], .of_same rfl ?_⟩
        change List.filterMap Deed.dialled? (_ ++ _) = _
        rw [List.filterMap_append]
        exact List.append_nil _
      · rw [connected]
        refine ⟨[session], ?_, ?_, ?_⟩
        · change List.filterMap Deed.dialled? (_ ++ _) = _
          rw [List.filterMap_append]
          rfl
        · intro tested channel present
          have present := (Table.getElem?_insert_eq ..).symm.trans present
          split at present
          · next same =>
            cases present
            exact Or.inr ⟨List.mem_singleton.2 same.symm, rfl⟩
          · exact Or.inl present
        · intro tested channel apart present _
          refine (Table.getElem?_insert_eq ..).trans ((if_neg ?_).trans present)
          intro same
          exact apart (List.mem_singleton.2 same.symm)

theorem dials_channelFor (call : Call) :
    ∃ opened, Dials opened turn (turn.channelFor call).2 := by
  have existing (sink : DeviceId) : Dials [] turn (turn.existing sink).2 := by
    rw [Turn.existing]
    split
    · exact .refl turn
    · exact .refl turn
  rw [channelFor.eq_def]
  split
  · exact turn.dials_connect _ _
  · exact ⟨[], existing _⟩
  · split
    · exact ⟨[], existing _⟩
    · exact ⟨[], .refl turn⟩
  · exact turn.dials_connect _ _

theorem dials_call (ticket : Ticket) (call : Call) :
    ∃ opened, Dials opened turn (turn.call ticket call).2 := by
  obtain ⟨opened, through⟩ := turn.dials_channelFor call
  have sends (session : SessionId) :=
    through.send session (call.message (turn.channelFor call).2.source.device)
  obtain refused | ⟨error, refused⟩ | ⟨session, _, ⟨error, refused⟩ | ⟨_, _, accepted⟩⟩ :=
    turn.call_cases ticket call
  · rw [refused]
    exact ⟨[], .of_same rfl rfl⟩
  · rw [refused]
    exact ⟨opened, through.dialled, through.known, through.kept⟩
  · rw [refused]
    exact ⟨opened, (sends session).dialled, (sends session).known, (sends session).kept⟩
  · rw [accepted]
    exact ⟨opened, (sends session).dialled, (sends session).known, (sends session).kept⟩

theorem dials_forward (inquiry : Inquiry) :
    ∃ opened, Dials opened turn
      (turn.forward inquiry.origin inquiry.source inquiry.sink inquiry.request) := by
  obtain ⟨opened, connects⟩ := turn.dials_connect inquiry.sink .sink
  have passes (session : SessionId) :
      Dials opened turn ((turn.connect inquiry.sink .sink).2.passOn session inquiry).2 := by
    have started (relays : Relays) :
        Dials opened turn
          { (turn.connect inquiry.sink .sink).2 with
            source := { (turn.connect inquiry.sink .sink).2.source with relays } } :=
      ⟨connects.dialled, connects.known, connects.kept⟩
    exact (started _).send _ _
  refine ⟨opened, ?_⟩
  obtain ⟨result, refused⟩ | ⟨session, _, passed | ⟨result, settled⟩⟩ := turn.forward_cases inquiry
  · rw [refused]
    exact connects.send _ _
  · rw [passed]
    exact passes session
  · rw [settled]
    exact (passes session).completeRelay _ _

theorem dials_tick (now : UInt64) : Dials [] turn (turn.tick now) := by
  rw [tick]
  generalize List.map Prod.fst _ = sinks
  induction sinks generalizing turn with
  | nil => exact .refl turn
  | cons first rest inductionHypothesis =>
      have probes : Dials [] turn (turn.probe now first) := by
        rw [probe]
        split
        · exact .refl turn
        · exact (Dials.refl turn).send _ _
      exact probes.trans (inductionHypothesis (turn.probe now first))

theorem dials_handle (coherent : turn.source.registry.Coherent) (now : UInt64)
    (session : SessionId) (message : Message) :
    ∃ opened, Dials opened turn (turn.handle now session message) := by
  rw [handle]
  split
  · exact ⟨[], .refl turn⟩
  · next peer _ =>
    cases asked : message.inquiry? session with
    | none =>
        have confined := turn.confined_onMessage now session peer message
        rw [asked] at confined
        exact ⟨[], confined.dials coherent⟩
    | some inquiry =>
        cases message <;> cases asked
        exact turn.dials_forward ⟨session, _, _, _⟩

end Reactions

/-! ## Origins that are there -/

/-- The channels that were opened from the other side are known as such, and no request
waits for one of them that is gone. -/
structure Attached (inbound : List SessionId) (turn : Turn τ) : Prop where
  accepted : ∀ (session : SessionId) (channel : Channel),
    turn.source.registry.bySession[session]? = some channel →
      (channel.outbound = false ↔ session ∈ inbound)
  inward : ∀ (session : SessionId) (channel : Channel),
    turn.source.registry.bySession[session]? = some channel →
      channel.outbound = false → channel.remoteRole = .source
  attended : ∀ (token : RelayToken) (correlation : Correlation) (origin : SessionId),
    turn.source.relays.live[token]? = some correlation → correlation.origin = some origin →
      origin ∈ inbound → origin ∈ turn.source.registry.bySession

/-- The origins of requests are those of earlier requests, or channels that were known. -/
def Draws (before after : Turn τ) : Prop :=
  ∀ (token : RelayToken) (correlation : Correlation) (origin : SessionId),
    after.source.relays.live[token]? = some correlation → correlation.origin = some origin →
      origin ∈ before.source.registry.bySession ∨
        ∃ earlier, before.source.relays.live[token]? = some earlier ∧
          earlier.origin = some origin

theorem Attached.dials {inbound opened : List SessionId} {before after : Turn (Recorded τ)}
    (attached : before.Attached inbound) (dials : Dials opened before after)
    (draws : Draws before after) (distinct : (inbound ++ after.dialled).Nodup) :
    after.Attached inbound := by
  have apart (session : SessionId) (foreign : session ∈ inbound) : session ∉ opened := by
    intro own
    rw [dials.dialled] at distinct
    exact (List.nodup_append.1 distinct).2.2 session foreign session
      (List.mem_append_right before.dialled own) rfl
  refine ⟨?_, ?_, ?_⟩
  · intro session channel present
    rcases dials.known session channel present with earlier | ⟨new, outbound⟩
    · exact attached.accepted session channel earlier
    · rw [outbound]
      exact iff_of_false Bool.noConfusion fun foreign => apart session foreign new
  · intro session channel present accepted
    rcases dials.known session channel present with earlier | ⟨_, outbound⟩
    · exact attached.inward session channel earlier accepted
    · rw [outbound] at accepted
      cases accepted
  · intro token correlation origin live named foreign
    have known : origin ∈ before.source.registry.bySession := by
      rcases draws token correlation origin live named with known | ⟨earlier, found, same⟩
      · exact known
      · exact attached.attended token earlier origin found same foreign
    obtain ⟨channel, present⟩ := (Table.mem_iff_exists _ _).1 known
    have accepted := (attached.accepted origin channel present).2 foreign
    exact Table.mem_of_getElem? (dials.kept origin channel (apart origin foreign) present
      (attached.inward origin channel present accepted))

theorem Attached.opened {inbound : List SessionId} {turn : Turn τ}
    (attached : turn.Attached inbound) (session : SessionId) (peer : DeviceId) :
    (turn.opened session peer).Attached (inbound ++ [session]) := by
  have entered (tested : SessionId) :
      (turn.opened session peer).source.registry.bySession[tested]? =
        if session = tested then
          some { peer, remoteRole := .source, session, outbound := false }
        else turn.source.registry.bySession[tested]? :=
    Table.getElem?_insert_eq ..
  refine ⟨?_, ?_, ?_⟩
  · intro tested channel present
    rw [entered] at present
    split at present
    · next same =>
      cases present
      exact iff_of_true rfl (List.mem_append_right inbound (List.mem_singleton.2 same.symm))
    · next other =>
      rw [attached.accepted tested channel present, List.mem_append, List.mem_singleton]
      exact (or_iff_left fun same => other same.symm).symm
  · intro tested channel present accepted
    rw [entered] at present
    split at present
    · cases present
      rfl
    · exact attached.inward tested channel present accepted
  · intro token correlation origin live named foreign
    refine Std.ExtTreeMap.mem_insert.2 ?_
    rcases List.mem_append.1 foreign with earlier | new
    · exact Or.inr (attached.attended token correlation origin live named earlier)
    · exact Or.inl (Std.compare_eq_iff_eq.2 (List.mem_singleton.1 new).symm)

/-! ## The end of a channel -/

section Closing

variable [Transport τ] (turn : Turn τ)

theorem known_closed (session : SessionId) :
    (turn.closed session).source.registry.bySession =
      turn.source.registry.bySession.erase session := by
  rw [← Registry.bySession_closed, closed]
  dsimp only
  split
  · rfl
  · split
    · obtain ⟨counter, line, dropped⟩ := (turn.without session).sent_dropSink _
      exact congrArg (fun turn : Turn τ => turn.source.registry.bySession) dropped
    · rfl
    · rfl

/-- Requests to the sink at the other end of the channel are over.  The others lose their
origin, but only if the other node opened the channel. -/
theorem live_closed {session : SessionId} {channel : Channel}
    (known : turn.source.registry.bySession[session]? = some channel) (token : RelayToken) :
    (turn.closed session).source.relays.live[token]? =
      (turn.source.relays.live[token]?.bind
          (Correlation.remain turn.source.registry session)).map fun correlation =>
        if channel.remoteRole = .source ∧ channel.outbound = false then correlation.detach session
        else correlation := by
  have remote : turn.source.registry.remote? session = some channel.remote := by
    rw [Registry.remote?, known]
    rfl
  have remains (other : channel.remoteRole = .source) :
      turn.source.relays.live[token]?.bind
          (Correlation.remain turn.source.registry session) =
        turn.source.relays.live[token]? := by
    have all : Correlation.remain turn.source.registry session = some := by
      funext correlation
      rw [Correlation.remain, remote, if_neg]
      intro same
      have sink : channel.remoteRole = .sink := congrArg Endpoint.role (Option.some.inj same)
      rw [other] at sink
      cases sink
    rw [all, Option.bind_fun_some]
  rw [turn.closed_of_known known]
  cases role : channel.remoteRole with
  | sink =>
      obtain ⟨counter, line, dropped⟩ := (turn.without session).sent_dropSink channel.peer
      have kept : ((turn.without session).dropSink channel.peer).source.relays.live =
          turn.source.relays.live.filter fun _ correlation =>
            correlation.target ≠ channel.peer := by
        rw [dropped]
        rfl
      dsimp only
      rw [kept, Std.ExtTreeMap.getElem?_filter']
      cases turn.source.relays.live[token]? with
      | none => rfl
      | some correlation =>
          have leads : channel.remote = ⟨channel.peer, .sink⟩ := by
            rw [Channel.remote, role]
          by_cases lost : channel.peer = correlation.target
          · simp [Correlation.remain, remote, leads, lost]
          · simp [Correlation.remain, remote, leads, lost, eq_comm (a := correlation.target)]
  | source =>
      rw [remains role]
      cases own : channel.outbound with
      | true =>
          simp only [Bool.true_eq_false, and_false, if_false, Option.map_id']
          rfl
      | false =>
          simp only [and_self, if_true]
          exact turn.source.relays.getElem?_abandonOrigin session token

/-- Every request that is left is an earlier one, which may have lost its origin. -/
theorem live_of_closed {session : SessionId} {token : RelayToken} {correlation : Correlation}
    (live : (turn.closed session).source.relays.live[token]? = some correlation) :
    ∃ earlier, turn.source.relays.live[token]? = some earlier ∧
      (correlation = earlier ∨ correlation = earlier.detach session) := by
  cases known : turn.source.registry.bySession[session]? with
  | none =>
      rw [turn.closed_of_unknown known] at live
      exact ⟨correlation, live, Or.inl rfl⟩
  | some channel =>
      rw [turn.live_closed known] at live
      obtain ⟨kept, remained, same⟩ := Option.map_eq_some_iff.1 live
      obtain ⟨earlier, found, remains⟩ := Option.bind_eq_some_iff.1 remained
      rw [Correlation.remain] at remains
      split at remains
      · cases remains
      · cases remains
        refine ⟨kept, found, ?_⟩
        split at same
        · exact Or.inr same.symm
        · exact Or.inl same.symm

end Closing

/-- The end of a channel is the end of some requests, and the others lose it as their origin
if another node had opened it. -/
theorem Attached.live_closed [Transport τ] {inbound : List SessionId} {turn : Turn τ}
    (attached : turn.Attached inbound) (session : SessionId) (token : RelayToken) :
    (turn.closed session).source.relays.live[token]? =
      (turn.source.relays.live[token]?.bind
          (Correlation.remain turn.source.registry session)).map fun correlation =>
        if session ∈ inbound then correlation.detach session else correlation := by
  cases known : turn.source.registry.bySession[session]? with
  | some channel =>
      have accepted : channel.remoteRole = .source ∧ channel.outbound = false ↔
          session ∈ inbound :=
        (and_iff_right_of_imp (attached.inward session channel known)).trans
          (attached.accepted session channel known)
      rw [turn.live_closed known]
      simp only [accepted]
  | none =>
      have remains : Correlation.remain turn.source.registry session = some := by
        funext correlation
        rw [Correlation.remain, Registry.remote?, known, if_neg (by simp)]
      rw [turn.closed_of_unknown known, remains, Option.bind_fun_some]
      cases live : turn.source.relays.live[token]? with
      | none => rfl
      | some correlation =>
          have elsewhere (foreign : session ∈ inbound) : correlation.origin ≠ some session := by
            intro named
            exact Table.not_mem_of_getElem? known
              (attached.attended token correlation session live named foreign)
          rw [Option.map_some]
          split
          · next foreign =>
            rw [Correlation.detach_eq_self_iff.2 (elsewhere foreign)]
          · rfl

theorem Attached.closed [Transport τ] {inbound : List SessionId} {turn : Turn τ}
    (attached : turn.Attached inbound) (session : SessionId) :
    (turn.closed session).Attached inbound := by
  cases known : turn.source.registry.bySession[session]? with
  | none =>
      rw [turn.closed_of_unknown known]
      exact attached
  | some channel =>
      have earlier {tested : SessionId} {channel : Channel}
          (present : (turn.closed session).source.registry.bySession[tested]? = some channel) :
          turn.source.registry.bySession[tested]? = some channel := by
        rw [known_closed, Table.getElem?_erase_eq] at present
        split at present
        · cases present
        · exact present
      refine ⟨?_, ?_, ?_⟩
      · exact fun tested channel present => attached.accepted tested channel (earlier present)
      · exact fun tested channel present => attached.inward tested channel (earlier present)
      · intro token correlation origin live named foreign
        rw [attached.live_closed] at live
        obtain ⟨kept, remained, detached⟩ := Option.map_eq_some_iff.1 live
        obtain ⟨before, found, remains⟩ := Option.bind_eq_some_iff.1 remained
        have attended := attached.attended token kept origin
        rw [Correlation.remain] at remains
        split at remains
        · cases remains
        · rw [found, Option.some.inj remains] at attended
          rw [known_closed, Table.mem_erase_iff]
          rw [← detached] at named
          split at named
          · obtain ⟨present, other⟩ := Correlation.origin_detach named
            exact ⟨other.symm, attended rfl present foreign⟩
          · next own =>
            refine ⟨?_, attended rfl named foreign⟩
            intro same
            exact own (same ▸ foreign)

end Turn

/-! ## Every history -/

namespace Passage

variable {τ : Type} [Transport τ] {device : DeviceId} {passage : Passage τ}

theorem attached_undergo (occurrence : Occurrence)
    (coherent : passage.turn.source.registry.Coherent)
    (attached : passage.turn.Attached passage.inbound)
    (distinct : (passage.undergo occurrence).sessions.Nodup) :
    (passage.undergo occurrence).turn.Attached (passage.undergo occurrence).inbound := by
  have unchanged {after : Turn (Recorded τ)} (quiet : passage.turn.Quiet after) :
      passage.turn.Draws after := by
    intro token correlation origin live named
    rw [quiet.relays_eq] at live
    exact Or.inr ⟨correlation, live, named⟩
  cases occurrence with
  | call ticket call =>
      obtain ⟨opened, dials⟩ := passage.turn.dials_call ticket call
      exact attached.dials dials (unchanged (passage.turn.quiet_call ticket call)) distinct
  | opened session peer => exact attached.opened session peer
  | closed session => exact attached.closed session
  | tick now =>
      exact attached.dials (passage.turn.dials_tick now) (unchanged (passage.turn.quiet_tick now))
        distinct
  | message now session message =>
      obtain ⟨opened, dials⟩ := passage.turn.dials_handle coherent now session message
      refine attached.dials dials ?_ distinct
      intro token correlation origin live named
      change (passage.turn.handle now session message).source.relays.live[token]? = _ at live
      rw [Turn.handle] at live
      split at live
      · exact Or.inr ⟨correlation, live, named⟩
      · next peer known =>
        have confined := passage.turn.confined_onMessage now session peer message
        rcases confined.live_new token correlation live with earlier | ⟨-, asked⟩
        · exact Or.inr ⟨correlation, earlier, named⟩
        · obtain ⟨inquiry, asks, rfl⟩ := Option.map_eq_some_iff.1 asked
          have same : session = origin := by
            cases message <;> cases asks
            exact Option.some.inj named
          obtain ⟨channel, present, -⟩ := Option.map_eq_some_iff.1 known
          exact Or.inl (same ▸ Table.mem_of_getElem? present)

theorem Reached.attached (reached : passage.Reached device) (distinct : passage.sessions.Nodup) :
    passage.turn.Attached passage.inbound := by
  induction reached with
  | start line =>
      have nothing {κ ν : Type} [Ord κ] [Std.TransOrd κ] [Std.LawfulEqOrd κ] {key : κ}
          {value : ν} : (∅ : Table κ ν)[key]? ≠ some value := by
        rw [Std.ExtTreeMap.getElem?_empty]
        exact Option.some_ne_none value |>.symm
      exact ⟨fun _ _ present => absurd present nothing, fun _ _ present => absurd present nothing,
        fun _ _ _ live => absurd live nothing⟩
  | @undergo earlier occurrence before inductionHypothesis =>
      have fewer := distinct.sublist (earlier.sessions_sublist_undergo occurrence)
      exact attached_undergo occurrence (before.placed fewer).coherent
        (inductionHypothesis fewer) distinct
  | elsewhere line _ inductionHypothesis =>
      have attached := inductionHypothesis distinct
      exact ⟨attached.accepted, attached.inward, attached.attended⟩

end Passage

/-- As long as no session is used twice, no request waits for a channel that another node
opened and that is gone.  The end of a channel ends the requests to the sink that was at its
other end.  From the others it takes the channel as their origin if the other node opened
it, and changes nothing if it was opened from this side.  So it leaves no request with an
origin that is gone exactly if no other requests came on a channel of this side. -/
theorem closed_detaches_iff {τ : Type} [Transport τ] {device : DeviceId} {passage : Passage τ}
    (reached : passage.Reached device) (distinct : passage.sessions.Nodup) :
    (∀ (token : RelayToken) (correlation : Correlation) (origin : SessionId),
      passage.turn.source.relays.live[token]? = some correlation →
        correlation.origin = some origin → origin ∈ passage.inbound →
          origin ∈ passage.turn.source.registry.bySession) ∧
    (∀ (session : SessionId) (token : RelayToken),
      (passage.turn.closed session).source.relays.live[token]? =
        (passage.turn.source.relays.live[token]?.bind
            (Correlation.remain passage.turn.source.registry session)).map fun correlation =>
          if session ∈ passage.inbound then correlation.detach session else correlation) ∧
    ∀ session : SessionId,
      (∀ token : RelayToken,
        (passage.turn.closed session).source.relays.live[token]? =
          (passage.turn.source.relays.live[token]?.bind
            (Correlation.remain passage.turn.source.registry session)).map
              (Correlation.detach session)) ↔
        (session ∉ passage.inbound → ∀ (token : RelayToken) (correlation : Correlation),
          passage.turn.source.relays.live[token]? = some correlation →
            correlation.origin = some session →
              passage.turn.source.registry.remote? session =
                some ⟨correlation.target, .sink⟩) := by
  have attached := reached.attached distinct
  have closed := attached.live_closed
  refine ⟨attached.attended, closed, ?_⟩
  intro session
  constructor
  · intro detaches own token correlation live named
    by_contra apart
    have detached := (closed session token).symm.trans (detaches token)
    rw [live, Option.bind_some, Correlation.remain, if_neg apart, Option.map_some, Option.map_some,
      if_neg own] at detached
    exact Correlation.detach_eq_self_iff.1 (Option.some.inj detached).symm named
  · intro condition token
    rw [closed]
    by_cases foreign : session ∈ passage.inbound
    · simp only [foreign, if_true]
    · simp only [foreign, if_false]
      cases live : passage.turn.source.relays.live[token]? with
      | none => rfl
      | some correlation =>
          rw [Option.bind_some, Correlation.remain]
          split
          · rfl
          · next apart =>
            have elsewhere : correlation.origin ≠ some session :=
              fun named => apart (condition foreign token correlation live named)
            rw [Option.map_some, Option.map_some, Correlation.detach_eq_self_iff.2 elsewhere]

/-- The desk has asked the tablet to turn to the phone.  On the channel that was opened for
this, the tablet has asked the desk to turn to the printer. -/
def turned : Passage Scripted :=
  let start : Passage Scripted :=
    { turn := { source := { device := ⟨"desk"⟩ }, line := { line := {} } } }
  let called := start.undergo (.call 0 (.relayed ⟨"tablet"⟩ ⟨"phone"⟩ .prepare))
  called.undergo
    (.message 0 ⟨100⟩ (.relayRequest ⟨"tablet"⟩ ⟨"desk"⟩ ⟨"printer"⟩ .prepare))

theorem reached_turned : turned.Reached ⟨"desk"⟩ :=
  .undergo (.message 0 ⟨100⟩ (.relayRequest ⟨"tablet"⟩ ⟨"desk"⟩ ⟨"printer"⟩ .prepare))
    (.undergo (.call 0 (.relayed ⟨"tablet"⟩ ⟨"phone"⟩ .prepare)) (.start ({} : Scripted)))

theorem closed_detaches_turned :
    turned.Reached ⟨"desk"⟩ ∧ turned.sessions.Nodup ∧
      ¬∀ token : RelayToken,
        (turned.turn.closed ⟨100⟩).source.relays.live[token]? =
          (turned.turn.source.relays.live[token]?.bind
            (Correlation.remain turned.turn.source.registry ⟨100⟩)).map
              (Correlation.detach ⟨100⟩) := by
  have distinct : turned.sessions.Nodup := by decide +kernel
  obtain ⟨-, -, detaches_iff⟩ := closed_detaches_iff reached_turned distinct
  have own : (⟨100⟩ : SessionId) ∉ turned.inbound := by decide +kernel
  have live : turned.turn.source.relays.live[(⟨1⟩ : RelayToken)]? =
      some ⟨some ⟨100⟩, ⟨"desk"⟩, ⟨"printer"⟩, .prepare⟩ := by
    decide +kernel
  have elsewhere : turned.turn.source.registry.remote? ⟨100⟩ ≠ some ⟨⟨"printer"⟩, .sink⟩ := by
    decide +kernel
  refine ⟨reached_turned, distinct, ?_⟩
  intro detaches
  exact elsewhere ((detaches_iff ⟨100⟩).1 detaches own ⟨1⟩ _ live rfl)

/-- The channel closes.  The request of the tablet still names it, and the answer of the
printer is sent on it. -/
theorem closed_keeps_origin :
    let after := turned.turn.closed ⟨100⟩
    let answered :=
      after.handle 0 ⟨101⟩ (.relayedReply ⟨1⟩ ⟨"printer"⟩ (.prepared Status.ok []))
    turned.Reached ⟨"desk"⟩ ∧ turned.sessions.Nodup ∧
      turned.turn.source.registry.bySession.contains ⟨100⟩ = true ∧
      after.source.registry.bySession.contains ⟨100⟩ = false ∧
      after.source.relays.live[(⟨1⟩ : RelayToken)]? =
        some ⟨some ⟨100⟩, ⟨"desk"⟩, ⟨"printer"⟩, .prepare⟩ ∧
      answered.verdicts = [⟨⟨100⟩, ⟨"desk"⟩, ⟨"printer"⟩, .prepare Status.ok⟩] :=
  ⟨reached_turned, by decide +kernel, by decide +kernel, by decide +kernel, by decide +kernel,
    by decide +kernel⟩

end Source

end InputSharing
