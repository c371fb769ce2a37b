import InputSharing.Proofs.Pending
import InputSharing.Proofs.Source.Conservation
import InputSharing.Proofs.Source.Passage

/-!
# Peers are kept apart

A message counts for the peer at the other end of its channel, whatever names and tokens
it carries.  What it may change is `Confined` to this peer: what the source believes of it,
its calls, the requests that were passed on to it, and its channel.

There are two exceptions.  The result of a relayed call ends this call, which may have been
made through another node.  And a request to pass on concerns the sink that it names: it
gets a token of its own, and a channel to the sink if there is none.

Frames may be sent on any channel, since another node may have to hear of the outcome.
-/

namespace InputSharing

/-! ## What a message names -/

namespace Message

/-- The relayed call to which a message is the result. -/
def ended? : Message → Option Call
  | .relayResult source sink result => some (.relayed source sink result.request)
  | _ => none

/-- The request that a message asks to be passed on. -/
def inquiry? (origin : SessionId) : Message → Option Inquiry
  | .relayRequest _ source sink body => some ⟨origin, source, sink, body⟩
  | _ => none

end Message

/-- A source may send frames, close its channel to the sink of a peer, and open one to a
sink to which a request is to be passed on. -/
def Deed.IsWithin (peer : DeviceId) (asked? : Option Inquiry) (registry : Registry) : Deed → Prop
  | .transmitted _ _ _ => True
  | .hungUp session => registry.channel? peer .sink = some session
  | .dialled remote _ => ∃ inquiry, asked? = some inquiry ∧ remote = ⟨inquiry.sink, .sink⟩ ∧
      registry.channel? inquiry.sink .sink = none

namespace Registry

/-- The channels are the same, or the channel to the sink of a peer is forgotten, or a
channel to a sink to which a request is to be passed on is new. -/
inductive Shifts (peer : DeviceId) (asked? : Option Inquiry) (before after : Registry) : Prop
  | same : after.byPeer = before.byPeer → after.bySession = before.bySession →
      Shifts peer asked? before after
  | severed {session : SessionId} : before.channel? peer .sink = some session →
      after.byPeer = before.byPeer.erase ⟨peer, .sink⟩ →
      after.bySession = before.bySession.erase session → Shifts peer asked? before after
  | dialled {inquiry : Inquiry} {session : SessionId} : asked? = some inquiry →
      before.channel? inquiry.sink .sink = none →
      after.byPeer = before.byPeer.insert ⟨inquiry.sink, .sink⟩ session →
      after.bySession =
        before.bySession.insert session
          { peer := inquiry.sink, remoteRole := .sink, session, outbound := true } →
      Shifts peer asked? before after

variable {peer : DeviceId} {before middle after : Registry}

theorem Shifts.trans (first : Shifts peer none before middle)
    (second : Shifts peer none middle after) : Shifts peer none before after := by
  cases first with
  | same byPeer bySession =>
      cases second with
      | same moreByPeer moreBySession =>
          exact .same (moreByPeer.trans byPeer) (moreBySession.trans bySession)
      | severed reached moreByPeer moreBySession =>
          rw [channel?, byPeer] at reached
          rw [byPeer] at moreByPeer
          rw [bySession] at moreBySession
          exact .severed reached moreByPeer moreBySession
      | dialled asked _ _ _ => cases asked
  | severed reached byPeer bySession =>
      cases second with
      | same moreByPeer moreBySession =>
          exact .severed reached (moreByPeer.trans byPeer) (moreBySession.trans bySession)
      | severed again _ _ =>
          rw [channel?, byPeer, Std.ExtTreeMap.getElem?_erase_self] at again
          cases again
      | dialled asked _ _ _ => cases asked
  | dialled asked _ _ _ => cases asked

/-- A channel that is there after channels have shifted was there before. -/
theorem Shifts.channel? (shifts : Shifts peer none before after) {session : SessionId}
    (reached : after.channel? peer .sink = some session) :
    before.channel? peer .sink = some session := by
  cases shifts with
  | same byPeer bySession =>
      rw [Registry.channel?, byPeer] at reached
      exact reached
  | severed _ byPeer _ =>
      rw [Registry.channel?, byPeer, Std.ExtTreeMap.getElem?_erase_self] at reached
      cases reached
  | dialled asked _ _ _ => cases asked

end Registry

namespace Source

namespace Turn

variable {τ : Type}

/-- What a message of a peer changes. -/
structure Confined (peer : DeviceId) (ended? : Option Call) (asked? : Option Inquiry)
    (before after : Turn (Recorded τ)) : Prop where
  device : after.source.device = before.source.device
  beliefs : ∀ other, other ≠ peer →
    after.source.beliefs[other]? = before.source.beliefs[other]?
  latencies : ∀ other, other ≠ peer →
    after.source.latencies[other]? = before.source.latencies[other]?
  injected : ∃ events : List InputEvent,
    after.injections = before.injections ++ events.map fun event => (peer, event)
  /-- Only calls to the peer end, and a relayed call that has got its result. -/
  ended : ∃ ended : List (Completion Grant), after.completions = before.completions ++ ended ∧
    ∀ completion ∈ ended, ∃ call,
      (call, completion.ticket) ∈ before.source.pending.waiting ∧
        (call.isTo peer = true ∨ ended? = some call)
  waiting_sublist :
    after.source.pending.waiting.Sublist before.source.pending.waiting
  waiting_kept : ∀ entry ∈ before.source.pending.waiting,
    entry.1.isTo peer = false → ended? ≠ some entry.1 → entry ∈ after.source.pending.waiting
  /-- Only requests that were passed on to the peer are done with. -/
  live_kept : ∀ token correlation, before.source.relays.live[token]? = some correlation →
    correlation.target ≠ peer → (asked? = none ∨ token ≠ before.nextToken) →
      after.source.relays.live[token]? = some correlation
  live_new : ∀ token correlation, after.source.relays.live[token]? = some correlation →
    before.source.relays.live[token]? = some correlation ∨
      token = before.nextToken ∧ asked?.map Inquiry.correlation = some correlation
  last : after.source.relays.last = before.source.relays.last ∨
    asked? ≠ none ∧ after.source.relays.last = before.nextToken
  channels : before.source.registry.Shifts peer asked? after.source.registry
  deeds : ∃ deeds, after.line.deeds = before.line.deeds ++ deeds ∧
    ∀ deed ∈ deeds, deed.IsWithin peer asked? before.source.registry

namespace Confined

variable {peer : DeviceId} {ended? : Option Call} {asked? : Option Inquiry}
  {before middle after : Turn (Recorded τ)}

theorem refl (turn : Turn (Recorded τ)) : Confined peer ended? asked? turn turn where
  device := rfl
  beliefs := fun _ _ => rfl
  latencies := fun _ _ => rfl
  injected := ⟨[], (List.append_nil _).symm⟩
  ended := ⟨[], (List.append_nil _).symm, nofun⟩
  waiting_sublist := .refl _
  waiting_kept := fun _ listed _ _ => listed
  live_kept := fun _ _ live _ _ => live
  live_new := fun _ _ live => Or.inl live
  last := Or.inl rfl
  channels := .same rfl rfl
  deeds := ⟨[], (List.append_nil _).symm, nofun⟩

theorem trans (first : Confined peer ended? none before middle)
    (second : Confined peer ended? none middle after) :
    Confined peer ended? none before after where
  device := second.device.trans first.device
  beliefs := fun other apart => (second.beliefs other apart).trans (first.beliefs other apart)
  latencies := fun other apart =>
    (second.latencies other apart).trans (first.latencies other apart)
  injected := by
    obtain ⟨events, earlier⟩ := first.injected
    obtain ⟨more, later⟩ := second.injected
    refine ⟨events ++ more, ?_⟩
    rw [later, earlier, List.append_assoc, List.map_append]
  ended := by
    obtain ⟨ended, earlier, named⟩ := first.ended
    obtain ⟨more, later, moreNamed⟩ := second.ended
    refine ⟨ended ++ more, ?_, ?_⟩
    · rw [later, earlier, List.append_assoc]
    · intro completion listed
      rcases List.mem_append.1 listed with early | late
      · exact named completion early
      · obtain ⟨call, waits, mine⟩ := moreNamed completion late
        exact ⟨call, first.waiting_sublist.subset waits, mine⟩
  waiting_sublist := second.waiting_sublist.trans first.waiting_sublist
  waiting_kept := fun entry listed apart unnamed =>
    second.waiting_kept entry (first.waiting_kept entry listed apart unnamed) apart unnamed
  live_kept := fun token correlation live apart _ =>
    second.live_kept token correlation
      (first.live_kept token correlation live apart (Or.inl rfl)) apart (Or.inl rfl)
  live_new := by
    intro token correlation live
    rcases second.live_new token correlation live with earlier | ⟨-, asked⟩
    · exact first.live_new token correlation earlier
    · cases asked
  last := by
    rcases second.last with same | ⟨asked, -⟩
    · rw [same]
      exact first.last
    · exact absurd rfl asked
  channels := first.channels.trans second.channels
  deeds := by
    obtain ⟨deeds, earlier, within⟩ := first.deeds
    obtain ⟨more, later, moreWithin⟩ := second.deeds
    refine ⟨deeds ++ more, ?_, ?_⟩
    · rw [later, earlier, List.append_assoc]
    · intro deed listed
      rcases List.mem_append.1 listed with early | late
      · exact within deed early
      · have allowed := moreWithin deed late
        cases deed with
        | transmitted session parcel answer => trivial
        | hungUp session => exact first.channels.channel? allowed
        | dialled remote answer =>
            obtain ⟨inquiry, asked, -⟩ := allowed
            cases asked

/-- A frame is sent. -/
theorem send [Transport τ] (confined : Confined peer ended? asked? before after)
    (session : SessionId) (message : Message) :
    Confined peer ended? asked? before (after.send session message).2 := by
  obtain ⟨sequence, answer, sends⟩ := after.deeds_send session message
  obtain ⟨counter, line, sent⟩ := after.sent_send session message
  rw [sent] at sends ⊢
  refine
    { confined with
      channels := ?_
      deeds := ?_ }
  · cases confined.channels with
    | same byPeer bySession => exact .same byPeer bySession
    | severed reached byPeer bySession => exact .severed reached byPeer bySession
    | dialled asked unknown byPeer bySession => exact .dialled asked unknown byPeer bySession
  · obtain ⟨deeds, earlier, within⟩ := confined.deeds
    refine ⟨deeds ++ [.transmitted session (.composed sequence message) answer], ?_, ?_⟩
    · rw [sends, earlier, List.append_assoc]
    · intro deed listed
      rcases List.mem_append.1 listed with early | last
      · exact within deed early
      · rw [List.mem_singleton.1 last]
        trivial

theorem foldl {α : Type} (act : Turn (Recorded τ) → α → Turn (Recorded τ))
    (confined : ∀ turn item, Confined peer ended? none turn (act turn item)) (items : List α)
    (turn : Turn (Recorded τ)) : Confined peer ended? none turn (items.foldl act turn) := by
  induction items generalizing turn with
  | nil => exact refl turn
  | cons first rest inductionHypothesis =>
      exact (confined turn first).trans (inductionHypothesis (act turn first))

end Confined

/-! ## Parts of a reaction -/

section Parts

variable (turn : Turn (Recorded τ)) (peer : DeviceId) {ended? : Option Call}

theorem confined_inject (events : List InputEvent) :
    Confined peer ended? none turn (turn.inject peer events) := by
  unfold inject
  split
  · exact { Confined.refl turn with injected := ⟨events, rfl⟩ }
  · exact Confined.refl turn

theorem confined_onEcho (now sentAtUs : UInt64) :
    Confined peer ended? none turn (turn.onEcho now peer sentAtUs) := by
  refine { Confined.refl turn with latencies := ?_ }
  intro other apart
  exact (Table.getElem?_insert_eq ..).trans (if_neg fun same => apart same.symm)

theorem confined_absorb (reply : Reply) :
    Confined peer ended? none turn (turn.absorb peer reply) := by
  have prepared : Confined peer ended? none turn (turn.prepared peer) := by
    refine { Confined.refl turn with beliefs := ?_ }
    intro other apart
    exact (Table.getElem?_insertIfNew_eq ..).trans (if_neg fun same => apart same.symm)
  have learned : Confined peer ended? none turn
      (turn.learn peer fun belief => belief.after reply) := by
    refine { Confined.refl turn with beliefs := ?_ }
    intro other apart
    exact (Table.getElem?_modify_eq ..).trans (if_neg fun same => apart same.symm)
  unfold absorb
  split
  · split
    · exact prepared
    · exact Confined.refl turn
    · exact learned
  · exact Confined.refl turn

/-- A call ends that is made to the peer or that the message names. -/
theorem confined_complete (call : Call) (outcome : Outcome)
    (mine : call.isTo peer = true ∨ ended? = some call) :
    Confined peer ended? none turn (turn.complete call outcome) := by
  cases waits : turn.source.pending.waiting.lookup call with
  | none =>
      have same : turn.complete call outcome = turn := by
        simp [complete, Pending.complete, waits, report]
      rw [same]
      exact Confined.refl turn
  | some ticket =>
      have done :
          turn.complete call outcome =
            { turn with
              source :=
                { turn.source with
                  pending := ⟨turn.source.pending.waiting.filter fun entry => entry.1 ≠ call⟩ }
              completions := turn.completions ++ [⟨ticket, outcome⟩] } := by
        simp [complete, Pending.complete, waits, report]
      have kept : Confined peer ended? none turn turn := .refl turn
      rw [done]
      refine
        { kept with
          ended := ⟨[⟨ticket, outcome⟩], rfl, ?_⟩
          waiting_sublist := List.filter_sublist
          waiting_kept := ?_ }
      · intro completion listed
        rw [List.mem_singleton.1 listed]
        exact ⟨call, Pending.mem_of_lookup waits, mine⟩
      · intro entry listed apart unnamed
        refine List.mem_filter.2 ⟨listed, decide_eq_true ?_⟩
        intro same
        rw [same] at apart unnamed
        rcases mine with toPeer | named
        · rw [toPeer] at apart
          cases apart
        · exact unnamed named

end Parts

section Reactions

variable [Transport τ] (turn : Turn (Recorded τ)) (peer : DeviceId) {ended? : Option Call}

theorem confined_reportLoss (correlation : Correlation) :
    Confined peer ended? none turn (turn.reportLoss correlation) := by
  rw [reportLoss]
  split
  · exact Confined.refl turn
  · exact (Confined.refl turn).send _ _

theorem confined_dropSink : Confined peer ended? none turn (turn.dropSink peer) := by
  have forgotten : Confined peer ended? none turn (turn.forget peer) := by
    refine
      { Confined.refl turn with
        beliefs := ?_
        latencies := ?_
        live_kept := ?_
        live_new := ?_ }
    · intro other apart
      exact (Table.getElem?_erase_eq ..).trans (if_neg fun same => apart same.symm)
    · intro other apart
      exact (Table.getElem?_erase_eq ..).trans (if_neg fun same => apart same.symm)
    · intro token correlation live apart _
      refine Std.ExtTreeMap.getElem?_filter'.trans ?_
      rw [live]
      simp [apart]
    · intro token correlation live
      refine Or.inl ?_
      have kept := Std.ExtTreeMap.getElem?_filter'.symm.trans live
      exact (Option.filter_eq_some_iff.1 kept).1
  have failed : Confined peer ended? none (turn.forget peer)
      ((turn.forget peer).failWhere (Call.isTo peer) .disconnected) := by
    have kept : Confined peer ended? none (turn.forget peer) (turn.forget peer) := .refl _
    refine
      { kept with
        ended := ⟨_, rfl, ?_⟩
        waiting_sublist := List.filter_sublist
        waiting_kept := ?_ }
    · intro completion listed
      obtain ⟨entry, doomed, rfl⟩ := List.mem_map.1 listed
      obtain ⟨waits, toPeer⟩ := List.mem_filter.1 doomed
      exact ⟨entry.1, waits, Or.inl toPeer⟩
    · intro entry listed apart _
      refine List.mem_filter.2 ⟨listed, ?_⟩
      rw [apart]
      rfl
  exact (forgotten.trans failed).trans
    (Confined.foldl reportLoss (fun turn => turn.confined_reportLoss peer) _ _)

theorem confined_retire : Confined peer ended? none turn (turn.retire peer) := by
  have dropped : Confined peer ended? none turn (turn.dropSink peer) := turn.confined_dropSink peer
  cases reached : turn.source.registry.channel? peer .sink with
  | none =>
      rw [retire_of_unreached reached]
      exact dropped
  | some session =>
      have there : (turn.dropSink peer).source.registry.channel? peer .sink = some session :=
        (channel?_dropSink _ _).trans reached
      rw [retire_of_reached reached]
      refine dropped.trans { Confined.refl (turn.dropSink peer) with channels := ?_, deeds := ?_ }
      · exact .severed there rfl rfl
      · refine ⟨[.hungUp session], rfl, ?_⟩
        intro deed listed
        rw [List.mem_singleton.1 listed]
        exact there

theorem confined_retireIfUnprepared (reply : Reply) :
    Confined peer ended? none turn (turn.retireIfUnprepared peer reply) := by
  unfold retireIfUnprepared
  split
  · split
    · exact turn.confined_retire peer
    · exact Confined.refl turn
  · exact Confined.refl turn

/-- A token is used up that was given to the peer. -/
theorem confined_completeRelay (token : RelayToken) (message : Correlation → Message)
    (mine : ∀ correlation, turn.source.relays.live[token]? = some correlation →
      correlation.target = peer) :
    Confined peer ended? none turn (turn.completeRelay token message) := by
  have usedUp : Confined peer ended? none turn
      (turn.withLive (turn.source.relays.live.erase token)) := by
    refine { Confined.refl turn with live_kept := ?_, live_new := ?_ }
    · intro tested correlation live apart _
      refine (Table.getElem?_erase_eq ..).trans ((if_neg ?_).trans live)
      intro same
      subst same
      exact apart (mine correlation live)
    · intro tested correlation live
      have kept := (Table.getElem?_erase_eq ..).symm.trans live
      split at kept
      · cases kept
      · exact Or.inl kept
  obtain silent | ⟨correlation, origin, _, _, reported⟩ := turn.completeRelay_cases token message
  · rw [silent]
    exact usedUp
  · rw [reported]
    exact usedUp.send _ _

theorem confined_onReply (reply : Reply) :
    Confined peer ended? none turn (turn.onReply peer reply) := by
  have mine : (Call.direct peer reply.request).isTo peer = true := decide_eq_true rfl
  exact ((turn.confined_absorb peer reply).trans
    (confined_complete _ peer _ _ (Or.inl mine))).trans
      (confined_retireIfUnprepared _ peer reply)

theorem confined_onRelayedReply (token : RelayToken) (reply : Reply) :
    Confined peer ended? none turn (turn.onRelayedReply peer token reply) := by
  rw [onRelayedReply, Relays.peek]
  split
  · exact Confined.refl turn
  · next correlation live =>
    split
    · next mine =>
      have same := (turn.quiet_absorb peer reply).relays_eq
      refine ((turn.confined_absorb peer reply).trans (confined_completeRelay _ peer token _ ?_)).trans
        (confined_retireIfUnprepared _ peer reply)
      intro tested found
      rw [same, live] at found
      rw [← Option.some.inj found]
      exact mine
    · exact Confined.refl turn

end Reactions

/-! ## Requests to pass on -/

section Forwarding

variable [Transport τ] {turn reached : Turn (Recorded τ)} {peer : DeviceId} {ended? : Option Call}
  {inquiry : Inquiry}

theorem confined_connect (turn : Turn (Recorded τ)) (peer : DeviceId) (inquiry : Inquiry) :
    Confined peer ended? (some inquiry) turn (turn.connect inquiry.sink .sink).2 := by
  have dials (answer : Except TransportError SessionId)
      (unknown : turn.source.registry.channel? inquiry.sink .sink = none) :
      ∀ deed ∈ [Deed.dialled ⟨inquiry.sink, .sink⟩ answer],
        deed.IsWithin peer (some inquiry) turn.source.registry := by
    intro deed listed
    rw [List.mem_singleton.1 listed]
    exact ⟨inquiry, rfl, rfl, unknown⟩
  cases known : turn.source.registry.channel? inquiry.sink .sink with
  | some session =>
      have same : turn.channels.connect inquiry.sink .sink = (.ok session, turn.channels) :=
        turn.channels.connect_of_known known
      rw [connect, same]
      exact Confined.refl turn
  | none =>
      obtain ⟨refusal, line, refused⟩ | ⟨session, line, dialled⟩ := turn.connect_of_unknown known
      · rw [refused]
        exact { Confined.refl turn with deeds := ⟨_, rfl, dials _ known⟩ }
      · rw [dialled]
        exact
          { Confined.refl turn with
            channels := .dialled rfl known rfl rfl
            deeds := ⟨_, rfl, dials _ known⟩ }

omit [Transport τ] in
/-- A request gets the next token. -/
theorem Confined.mint (confined : Confined peer ended? (some inquiry) turn reached)
    (relays : reached.source.relays = turn.source.relays) :
    Confined peer ended? (some inquiry) turn
      { reached with
        source :=
          { reached.source with
            relays :=
              { last := reached.nextToken
                live :=
                  reached.source.relays.live.insert reached.nextToken inquiry.correlation } } } := by
  have token : reached.nextToken = turn.nextToken := by
    rw [nextToken, relays, nextToken]
  rw [token, relays]
  refine
    { confined with
      live_kept := ?_
      live_new := ?_
      last := Or.inr ⟨Option.some_ne_none inquiry, rfl⟩ }
  · intro tested correlation live _ named
    rcases named with nobody | other
    · cases nobody
    · exact (Table.getElem?_insert_eq ..).trans ((if_neg fun same => other same.symm).trans live)
  · intro tested correlation live
    have entry := (Table.getElem?_insert_eq ..).symm.trans live
    split at entry
    · next same => exact Or.inr ⟨same.symm, entry⟩
    · exact Or.inl entry

omit [Transport τ] in
/-- The token of a request is given up again. -/
theorem Confined.withdraw (confined : Confined peer ended? (some inquiry) turn reached) :
    Confined peer ended? (some inquiry) turn
      (reached.withLive (reached.source.relays.live.erase turn.nextToken)) := by
  refine { confined with live_kept := ?_, live_new := ?_ }
  · intro tested correlation live apart named
    rcases named with nobody | other
    · cases nobody
    · refine (Table.getElem?_erase_eq ..).trans ((if_neg fun same => other same.symm).trans ?_)
      exact confined.live_kept tested correlation live apart (Or.inr other)
  · intro tested correlation live
    have kept := (Table.getElem?_erase_eq ..).symm.trans live
    split at kept
    · cases kept
    · exact confined.live_new tested correlation kept

theorem Confined.settle (confined : Confined peer ended? (some inquiry) turn reached)
    (message : Correlation → Message) :
    Confined peer ended? (some inquiry) turn (reached.completeRelay turn.nextToken message) := by
  obtain silent | ⟨correlation, origin, _, _, reported⟩ :=
    reached.completeRelay_cases turn.nextToken message
  · rw [silent]
    exact confined.withdraw
  · rw [reported]
    exact confined.withdraw.send _ _

theorem confined_forward (turn : Turn (Recorded τ)) (peer : DeviceId) (inquiry : Inquiry) :
    Confined peer ended? (some inquiry) turn
      (turn.forward inquiry.origin inquiry.source inquiry.sink inquiry.request) := by
  have connected : Confined peer ended? (some inquiry) turn
      (turn.connect inquiry.sink .sink).2 :=
    turn.confined_connect peer inquiry
  have relays : (turn.connect inquiry.sink .sink).2.source.relays = turn.source.relays := rfl
  have token : (turn.connect inquiry.sink .sink).2.nextToken = turn.nextToken := by
    rw [nextToken, relays, nextToken]
  have passes (session : SessionId) : Confined peer ended? (some inquiry) turn
      ((turn.connect inquiry.sink .sink).2.passOn session inquiry).2 :=
    (connected.mint relays).send _ _
  obtain ⟨result, refused⟩ | ⟨session, _, passed | ⟨result, settled⟩⟩ := turn.forward_cases inquiry
  · rw [refused]
    exact connected.send _ _
  · rw [passed]
    exact passes session
  · rw [settled, token]
    exact (passes session).settle _

end Forwarding

/-! ## Every message -/

theorem confined_onMessage [Transport τ] (turn : Turn (Recorded τ)) (now : UInt64)
    (session : SessionId) (peer : DeviceId) (message : Message) :
    Confined peer message.ended? (message.inquiry? session) turn
      (turn.onMessage now session peer message) := by
  cases message with
  | reply device reply => exact turn.confined_onReply peer reply
  | keyState device key => exact turn.confined_inject peer _
  | keyStates device keys => exact turn.confined_inject peer _
  | inputEvents device events => exact turn.confined_inject peer events
  | latencyEcho device sentAtUs => exact turn.confined_onEcho peer now sentAtUs
  | relayedReply token device reply => exact turn.confined_onRelayedReply peer token reply
  | relayRequest device source sink request =>
      exact turn.confined_forward peer ⟨session, source, sink, request⟩
  | relayResult source sink result => exact turn.confined_complete peer _ _ (Or.inr rfl)
  | request device request => exact Confined.refl turn
  | latencyProbe device sentAtUs => exact Confined.refl turn
  | relayed token device request => exact Confined.refl turn

end Turn

/-! ## Every history -/

variable {τ : Type} [Transport τ] {device : DeviceId} {course : Course τ}

/-- A token that has not been given out is not in use. -/
theorem Reached.nextToken_fresh (reached : Reached device course)
    (few : course.turn.tokens.length < UInt64.size) :
    course.turn.nextToken ∉ course.turn.source.relays.live := by
  have sound := reached.sound few
  intro live
  refine sound.numbered.fresh few (sound.spent_perm.subset (List.mem_append_right _ ?_))
  exact Std.ExtTreeMap.mem_keys.2 live

/-- What a peer says changes nothing that the source keeps about other nodes: what it
believes of them and their delays, the calls to them, and the channels to them.  Nothing is
injected in their name.  The requests that were passed on to them stay as they are; here a
source has to have tokens left. -/
theorem peers_are_isolated (reached : Reached device course) {session : SessionId}
    {peer : DeviceId} (known : course.turn.source.registry.peer? session = some peer)
    (now : UInt64) (message : Message) :
    let before := course.turn
    let after := before.handle now session message
    before.Confined peer message.ended? (message.inquiry? session) after ∧
    (before.tokens.length < UInt64.size →
      ∀ (token : RelayToken) (correlation : Correlation), correlation.target ≠ peer →
        before.source.relays.live[token]? = some correlation →
          after.source.relays.live[token]? = some correlation) := by
  have confined := course.turn.confined_onMessage now session peer message
  dsimp only
  rw [Turn.handle, known]
  refine ⟨confined, ?_⟩
  intro few token correlation apart live
  refine confined.live_kept token correlation live apart (Or.inr ?_)
  intro same
  exact reached.nextToken_fresh few (same ▸ Table.mem_of_getElem? live)

/-- The desk sends an answer under a token that was given to the tablet. -/
theorem peers_are_isolated_relayed :
    Reached ⟨"laptop"⟩ relayed ∧
      relayed.turn.source.registry.peer? ⟨1⟩ = some ⟨"desk"⟩ ∧
      relayed.turn.tokens.length < UInt64.size ∧
      ∃ correlation : Correlation, correlation.target = ⟨"tablet"⟩ ∧
        relayed.turn.source.relays.live[(⟨2⟩ : RelayToken)]? = some correlation ∧
        (relayed.turn.handle 0 ⟨1⟩
          (.relayedReply ⟨2⟩ ⟨"tablet"⟩ (.unprepared Status.ok))).source.relays.live[
            (⟨2⟩ : RelayToken)]? = some correlation := by
  have known : relayed.turn.source.registry.peer? ⟨1⟩ = some ⟨"desk"⟩ := by decide +kernel
  have few : relayed.turn.tokens.length < UInt64.size := by decide +kernel
  have live : relayed.turn.source.relays.live[(⟨2⟩ : RelayToken)]? =
      some ⟨some ⟨1⟩, ⟨"laptop"⟩, ⟨"tablet"⟩, .startByType TypeMask.mouse⟩ := by
    decide +kernel
  exact ⟨reached_relayed, known, few, _, rfl, live,
    (peers_are_isolated reached_relayed known 0
      (.relayedReply ⟨2⟩ ⟨"tablet"⟩ (.unprepared Status.ok))).2 few _ _ (by decide) live⟩

end Source

end InputSharing
