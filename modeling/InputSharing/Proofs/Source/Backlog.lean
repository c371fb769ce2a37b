import InputSharing.Network.Reaction
import InputSharing.Proofs.Backlog
import InputSharing.Proofs.Source.Parts
import InputSharing.Proofs.Source.Relaying

/-!
# What a source leaves to be done

A source keeps the tokens of the requests that it has passed on, each of which can make
it report a result, and it can come to measure the delay of every sink that it knows.
What it does about an event, or about a call, is paid for by the weight of the event.
-/

namespace InputSharing

/-- The weight of an event that waits for a source.  What a measurement brings about depends
on how many sinks the source knows, so it is counted apart. -/
def SourceEvent.worth : SourceEvent → Nat
  | transport event => event.weight
  | call _ _ => 20
  | tick => 0

/-- What a source keeps beside the hub. -/
def Source.burden (source : Source) : Nat := source.load + source.beliefs.size

namespace Source.Turn

open Hub (Port)

def backlog (turn : Turn (Port Parcel)) : Backlog := ⟨turn.line.hub, turn.source.burden⟩

open Backlog (Shifts)

variable (turn : Turn (Port Parcel))

/-! ## Sending -/

theorem shifts_send (session : SessionId) (message : Message) :
    Shifts (message.weight + 1) turn.backlog (turn.send session message).2.backlog := by
  let sequence := turn.source.registry.counter.next.1
  have sent :
      (turn.send session message).2.backlog =
        ⟨(turn.line.hub.transmit turn.line.here session (.composed sequence message)).2,
          turn.source.burden⟩ := by
    have line := turn.channels.line_send session message
    have hub := congrArg Port.hub line
    exact congrArg (fun hub => (⟨hub, turn.source.burden⟩ : Backlog)) hub
  rw [sent]
  exact Backlog.shifts_transmit turn.line.hub _ _ session (.composed sequence message)

theorem shifts_post (session : SessionId) (message : Message) :
    Shifts (message.weight + 1) turn.backlog (turn.post session message).backlog :=
  turn.shifts_send session message

theorem shifts_connect (peer : DeviceId) (role : Role) :
    Shifts 2 turn.backlog (turn.connect peer role).2.backlog := by
  cases known : turn.source.registry.channel? peer role with
  | some session =>
      have same : (turn.connect peer role).2.backlog = turn.backlog := by
        rw [connect, Channels.connect_of_known turn.channels known]
        rfl
      rw [same]
      exact (Shifts.refl _).mono (by omega)
  | none =>
      have dialled :
          (turn.connect peer role).2.backlog =
            ⟨(turn.line.hub.dial turn.line.here peer role).2, turn.source.burden⟩ := by
        have line := turn.channels.line_connect_of_unknown known
        have hub := congrArg Port.hub line
        exact congrArg (fun hub => (⟨hub, turn.source.burden⟩ : Backlog)) hub
      rw [dialled]
      exact Backlog.shifts_dial turn.line.hub _ _ peer role

/-! ## Tokens -/

theorem shifts_result (origin : SessionId) (source sink : DeviceId) (result : RelayResult) :
    Shifts 2 turn.backlog (turn.post origin (.relayResult source sink result)).backlog :=
  turn.shifts_post origin (.relayResult source sink result)

theorem shifts_reportLoss (correlation : Correlation) :
    Shifts 2 turn.backlog (turn.reportLoss correlation).backlog := by
  rw [reportLoss]
  split
  · exact (Shifts.refl _).mono (by omega)
  · next origin _ => exact turn.shifts_result origin _ _ _

theorem shifts_withLive {live : Table RelayToken Correlation} {change : Int}
    (sizes : (3 * live.size : Int) ≤ 3 * turn.source.relays.live.size + change) :
    Shifts change turn.backlog (turn.withLive live).backlog := by
  refine .of_kept rfl ?_
  change ((3 * live.size + turn.source.beliefs.size : Nat) : Int) ≤
    ((3 * turn.source.relays.live.size + turn.source.beliefs.size : Nat) : Int) + change
  omega

/-- The token that is used up pays for the result. -/
theorem shifts_completeRelay (token : RelayToken) (result : Correlation → RelayResult) :
    Shifts 0 turn.backlog
      (turn.completeRelay token fun correlation =>
        correlation.report (result correlation)).backlog := by
  let usedUp := turn.withLive (turn.source.relays.live.erase token)
  rw [completeRelay_eq]
  cases found : turn.source.relays.live[token]? with
  | none =>
      have same := Table.erase_eq_self_iff.2 (Table.not_mem_of_getElem? found)
      apply shifts_withLive
      rw [same]
      exact Int.le_of_eq (Int.add_zero _).symm
  | some correlation =>
      have fewer :
          (turn.source.relays.live.erase token).size + 1 = turn.source.relays.live.size := by
        have listed := (Table.toList_erase_perm found).length_eq
        rw [List.length_cons, Std.ExtTreeMap.length_toList, Std.ExtTreeMap.length_toList] at listed
        exact listed.symm
      have freed : Shifts (-3) turn.backlog usedUp.backlog := turn.shifts_withLive (by omega)
      dsimp only
      split
      · exact freed.mono (by omega)
      · next origin _ => exact (freed.trans (usedUp.shifts_result origin _ _ _)).mono (by omega)

/-! ## The end of a sink -/

/-- The tokens of the requests that were passed on to the sink pay for the reports. -/
theorem shifts_dropSink (sink : DeviceId) :
    Shifts 0 turn.backlog (turn.dropSink sink).backlog := by
  let live := turn.source.relays.live
  let abandoned := live.toList.filter fun entry => entry.2.target = sink
  let forgotten := (turn.forget sink).failWhere (Call.isTo sink) .disconnected
  have fewer :
      live.size =
        abandoned.length + (live.filter fun _ correlation => correlation.target ≠ sink).size := by
    have listed :=
      (Table.toList_filter_perm live fun correlation => correlation.target ≠ sink).length_eq
    rw [List.length_append, Std.ExtTreeMap.length_toList, Std.ExtTreeMap.length_toList] at listed
    have same :
        (live.toList.filter fun entry => !decide (entry.2.target ≠ sink)) = abandoned := by
      apply List.filter_congr
      intro entry _
      by_cases here : entry.2.target = sink <;> simp [here]
    rw [same] at listed
    exact listed
  have freed : Shifts (-(3 * abandoned.length)) turn.backlog forgotten.backlog := by
    have unknown : (turn.source.beliefs.erase sink).size ≤ turn.source.beliefs.size :=
      Std.ExtTreeMap.size_erase_le
    refine .of_kept rfl ?_
    change
      ((3 * (live.filter fun _ correlation => correlation.target ≠ sink).size +
          (turn.source.beliefs.erase sink).size : Nat) : Int) ≤
        ((3 * live.size + turn.source.beliefs.size : Nat) : Int) + -(3 * abandoned.length)
    omega
  have reported :=
    Shifts.foldl (fun turn correlation => shifts_reportLoss turn correlation)
      (abandoned.map Prod.snd) forgotten
  rw [List.length_map] at reported
  exact (freed.trans reported).mono (by omega)

theorem shifts_retire (sink : DeviceId) :
    Shifts 2 turn.backlog (turn.retire sink).backlog := by
  let dropped := turn.dropSink sink
  have gone := turn.shifts_dropSink sink
  cases reached : turn.source.registry.channel? sink .sink with
  | none =>
      rw [retire_of_unreached reached]
      exact gone.mono (by omega)
  | some session =>
      rw [retire_of_reached reached]
      exact gone.trans (Backlog.shifts_hangUp dropped.line.hub dropped.source.burden _ session)

theorem shifts_retireIfUnprepared (sink : DeviceId) (reply : Reply) :
    Shifts 2 turn.backlog (turn.retireIfUnprepared sink reply).backlog := by
  unfold retireIfUnprepared
  split
  · split
    · exact turn.shifts_retire sink
    · exact (Shifts.refl _).mono (by omega)
  · exact (Shifts.refl _).mono (by omega)

theorem shifts_closed (session : SessionId) :
    Shifts 0 turn.backlog (turn.closed session).backlog := by
  cases known : turn.source.registry.bySession[session]? with
  | none =>
      rw [closed_of_unknown turn known]
      exact .refl _
  | some channel =>
      rw [closed_of_known turn known]
      split
      · exact (turn.without session).shifts_dropSink channel.peer
      · exact .refl _
      · have same : (turn.source.relays.abandonOrigin session).live.size =
            turn.source.relays.live.size :=
          Std.ExtTreeMap.size_map
        exact (turn.without session).shifts_withLive (by
          change (3 * (turn.source.relays.abandonOrigin session).live.size : Int) ≤
            3 * turn.source.relays.live.size + 0
          omega)

/-! ## Answers -/

/-- At most one more sink is known. -/
theorem shifts_absorb (sink : DeviceId) (reply : Reply) :
    Shifts 1 turn.backlog (turn.absorb sink reply).backlog := by
  have learnt {beliefs : Table DeviceId Belief}
      (size : beliefs.size ≤ turn.source.beliefs.size + 1) :
      Shifts 1 turn.backlog ({ turn with source := { turn.source with beliefs } }).backlog := by
    refine Shifts.of_kept rfl ?_
    change ((turn.source.load + beliefs.size : Nat) : Int) ≤
      ((turn.source.load + turn.source.beliefs.size : Nat) : Int) + 1
    omega
  unfold absorb
  split
  · split
    · exact learnt Std.ExtTreeMap.size_insertIfNew_le
    · exact (Shifts.refl _).mono (by omega)
    · apply learnt
      rw [Std.ExtTreeMap.size_modify]
      exact Nat.le_add_right _ _
  · exact (Shifts.refl _).mono (by omega)

/-- Who says that it is unprepared is not learnt from. -/
theorem shifts_onReply (sink : DeviceId) (reply : Reply) :
    Shifts 2 turn.backlog (turn.onReply sink reply).backlog := by
  cases reply with
  | unprepared status =>
      let completed := turn.complete (.direct sink .unprepare) (Reply.unprepared status).outcome
      have absorbed : turn.absorb sink (.unprepared status) = turn := by
        unfold absorb
        split <;> rfl
      rw [onReply, absorbed]
      exact completed.shifts_retireIfUnprepared sink (.unprepared status)
  | _ => exact (turn.shifts_absorb sink _).mono (by omega)

theorem shifts_onRelayedReply (sink : DeviceId) (token : RelayToken) (reply : Reply) :
    Shifts 3 turn.backlog (turn.onRelayedReply sink token reply).backlog := by
  unfold onRelayedReply
  split
  · exact (Shifts.refl _).mono (by omega)
  · split
    · exact ((turn.shifts_absorb sink reply).trans (shifts_completeRelay _ token _)).trans
        (shifts_retireIfUnprepared _ sink reply)
    · exact (Shifts.refl _).mono (by omega)

/-! ## Requests to pass on -/

theorem shifts_passOn (session : SessionId) (inquiry : Inquiry) :
    Shifts 13 turn.backlog (turn.passOn session inquiry).2.backlog := by
  let live := turn.source.relays.live.insert turn.nextToken inquiry.correlation
  let started : Turn (Port Parcel) :=
    { turn with source := { turn.source with relays := { last := turn.nextToken, live } } }
  have entered : live.size ≤ turn.source.relays.live.size + 1 := Std.ExtTreeMap.size_insert_le
  have kept : Shifts 3 turn.backlog started.backlog := by
    refine Shifts.of_kept rfl ?_
    change ((3 * live.size + turn.source.beliefs.size : Nat) : Int) ≤
      ((3 * turn.source.relays.live.size + turn.source.beliefs.size : Nat) : Int) + 3
    omega
  exact kept.trans
    (started.shifts_send session (.relayed turn.nextToken turn.source.device inquiry.request))

theorem shifts_forward (inquiry : Inquiry) :
    Shifts 15 turn.backlog
      (turn.forward inquiry.origin inquiry.source inquiry.sink inquiry.request).backlog := by
  have connected := turn.shifts_connect inquiry.sink .sink
  have passes (session : SessionId) := connected.trans (shifts_passOn _ session inquiry)
  obtain ⟨result, refused⟩ | ⟨session, _, passed | ⟨result, settled⟩⟩ := turn.forward_cases inquiry
  · rw [refused]
    exact (connected.trans (shifts_result _ inquiry.origin _ _ _)).mono (by omega)
  · rw [passed]
    exact passes session
  · rw [settled]
    exact (passes session).trans (shifts_completeRelay _ _ _)

/-! ## Everything that a source reacts to -/

theorem shifts_inject (sink : DeviceId) (events : List InputEvent) :
    Shifts 0 turn.backlog (turn.inject sink events).backlog := by
  rw [inject]
  split
  · exact .refl _
  · exact .refl _

theorem shifts_handle (now : UInt64) (session : SessionId) (message : Message) :
    Shifts (message.weight - 1) turn.backlog (turn.handle now session message).backlog := by
  have pays := message.one_le_weight
  unfold handle
  split
  · exact (Shifts.refl _).mono (by omega)
  · next peer _ =>
    cases message with
    | reply named reply => exact turn.shifts_onReply peer reply
    | relayedReply token named reply =>
        exact (turn.shifts_onRelayedReply peer token reply).mono (Int.le.intro 1 rfl)
    | keyState named key => exact turn.shifts_inject peer _
    | keyStates named keys => exact turn.shifts_inject peer _
    | inputEvents named events => exact turn.shifts_inject peer events
    | relayRequest named source sink request =>
        exact turn.shifts_forward ⟨session, source, sink, request⟩
    | _ => exact (Shifts.refl _).mono (by omega)

theorem shifts_channelFor (wanted : Call) :
    Shifts 2 turn.backlog (turn.channelFor wanted).2.backlog := by
  have existing (sink : DeviceId) :
      Shifts 2 turn.backlog (turn.existing sink).2.backlog := by
    rw [Turn.existing]
    split
    · exact (Shifts.refl _).mono (by omega)
    · exact (Shifts.refl _).mono (by omega)
  unfold channelFor
  split
  · exact turn.shifts_connect _ _
  · exact existing _
  · split
    · exact existing _
    · exact (Shifts.refl _).mono (by omega)
  · exact turn.shifts_connect _ _

theorem shifts_call (ticket : Ticket) (wanted : Call) :
    Shifts 19 turn.backlog (turn.call ticket wanted).2.backlog := by
  have weight (caller : DeviceId) : (wanted.message caller).weight ≤ 16 :=
    Message.weight_le _
  have reaches := turn.shifts_channelFor wanted
  have light := weight (turn.channelFor wanted).2.source.device
  have sends (session : SessionId) :=
    reaches.trans (shifts_send _ session (wanted.message (turn.channelFor wanted).2.source.device))
  obtain refused | ⟨error, refused⟩ | ⟨session, _, ⟨error, refused⟩ | ⟨_, _, accepted⟩⟩ :=
    turn.call_cases ticket wanted
  · rw [refused]
    exact (Shifts.refl turn.backlog).mono (by omega)
  · rw [refused]
    exact reaches.mono (by omega)
  · rw [refused]
    exact (sends session).mono (by omega)
  · rw [accepted]
    exact (sends session).mono (by omega)

/-- A measurement sends one message at most to each sink that is known. -/
theorem shifts_tick (now : UInt64) :
    Shifts (4 * turn.source.beliefs.size) turn.backlog (turn.tick now).backlog := by
  let sharing := turn.source.beliefs.toList.filter fun entry => entry.2.isSharing
  have few : sharing.length ≤ turn.source.beliefs.size := by
    rw [← Std.ExtTreeMap.length_toList]
    exact List.length_filter_le _ _
  have each (turn : Turn (Port Parcel)) (sink : DeviceId) :
      Shifts 4 turn.backlog (probe now turn sink).backlog := by
    rw [probe]
    split
    · exact (Shifts.refl _).mono (by omega)
    · next session _ =>
      exact turn.shifts_post session (.latencyProbe turn.source.device now)
  have all := Shifts.foldl each (sharing.map Prod.fst) turn
  rw [List.length_map] at all
  exact all.mono (by omega)

/-- The weight of an event pays for everything that it brings about. -/
theorem shifts_react (now : UInt64) {event : SourceEvent} (reacts : event ≠ .tick) :
    Shifts (event.worth - 1) turn.backlog (event.react now turn).backlog := by
  cases event with
  | tick => exact absurd rfl reacts
  | call ticket wanted => exact turn.shifts_call ticket wanted
  | transport event =>
      cases event with
      | opened session peer => exact .refl _
      | closed session => exact turn.shifts_closed session
      | frame session parcel =>
          have pays := parcel.one_le_weight
          have nothing : Shifts (parcel.weight - 1) turn.backlog turn.backlog :=
            (Shifts.refl _).mono (by omega)
          change Shifts (parcel.weight - 1) _ _
          rw [SourceEvent.react, Dispatched.dispatch]
          split
          · exact nothing
          · next sequence message reads =>
            have lighter := Parcel.weight_of_read reads
            split
            · exact (turn.shifts_handle now session message).mono (by omega)
            · exact nothing

end Source.Turn

end InputSharing
