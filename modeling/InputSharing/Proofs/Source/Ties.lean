import InputSharing.Network.Reaction
import InputSharing.Proofs.Agreement
import InputSharing.Proofs.Chatter
import InputSharing.Proofs.Network.Lane
import InputSharing.Proofs.Source.Parts
import InputSharing.Proofs.Source.Relaying

/-!
# Ties of sources to sinks

A source is tied to a sink by the channel that it has opened and by what it believes of
the sink.  An answer of the sink changes the belief and nothing else does, but for the
end of the channel, with which the belief ends as well.  A new channel is opened only
where there is none.
-/

namespace InputSharing

/-- What ties a source to a sink. -/
@[ext]
structure Tie where
  channel : Option SessionId
  belief : Option Belief
  deriving DecidableEq

def Source.tie (source : Source) (sink : DeviceId) : Tie where
  channel := source.registry.channel? sink .sink
  belief := source.beliefs[sink]?

namespace Source.Turn

variable {τ : Type}

/-! ## What leaves ties alone -/

section Same

variable {before after : Turn τ}

theorem Sent.tie_eq (sent : Sent before after) (sink : DeviceId) :
    after.source.tie sink = before.source.tie sink := by
  obtain ⟨counter, line, rfl⟩ := sent
  rfl

variable (turn : Turn τ) (tested : DeviceId)

theorem tie_inject (sink : DeviceId) (events : List InputEvent) :
    (turn.inject sink events).source.tie tested = turn.source.tie tested := by
  rw [inject]
  split
  · rfl
  · rfl

theorem tie_opened (session : SessionId) (peer : DeviceId) :
    (turn.opened session peer).source.tie tested = turn.source.tie tested := by
  ext1
  · change (turn.source.registry.byPeer.insert (⟨peer, .source⟩ : Endpoint) session)[
      (⟨tested, .sink⟩ : Endpoint)]? = _
    rw [Table.getElem?_insert_eq, if_neg (by simp)]
    rfl
  · rfl

/-- Only the belief in one sink changes. -/
theorem tie_of_belief {sink : DeviceId} {belief : Option Belief}
    (registry : after.source.registry = turn.source.registry)
    (beliefs :
      after.source.beliefs[tested]? =
        if sink = tested then belief else turn.source.beliefs[tested]?) :
    after.source.tie tested =
      if sink = tested then { turn.source.tie tested with belief } else turn.source.tie tested := by
  rw [Source.tie, registry, beliefs]
  split
  · rfl
  · rfl

variable [Transport τ]

theorem tie_completeRelay (token : RelayToken) (message : Correlation → Message) :
    (turn.completeRelay token message).source.tie tested = turn.source.tie tested := by
  obtain silent | ⟨correlation, origin, _, _, reported⟩ := turn.completeRelay_cases token message
  · rw [silent]
    rfl
  · rw [reported]
    exact ((turn.withLive _).sent_post _ _).tie_eq tested

theorem tie_tick (now : UInt64) : (turn.tick now).source.tie tested = turn.source.tie tested := by
  have sent (turn : Turn τ) (sink : DeviceId) : Sent turn (probe now turn sink) := by
    rw [probe]
    split
    · exact Sent.refl turn
    · exact turn.sent_post _ _
  exact (Sent.foldl (probe now) sent _ turn).tie_eq tested

/-! ## Sinks that are given up -/

theorem tie_dropSink (sink : DeviceId) :
    (turn.dropSink sink).source.tie tested =
      if sink = tested then { turn.source.tie tested with belief := none }
      else turn.source.tie tested := by
  rw [(turn.sent_dropSink sink).tie_eq]
  exact tie_of_belief turn tested rfl (Table.getElem?_erase_eq ..)

theorem tie_retire (sink : DeviceId) :
    (turn.retire sink).source.tie tested =
      if sink = tested then ⟨none, none⟩ else turn.source.tie tested := by
  let dropped := turn.dropSink sink
  have channel :
      ((turn.retire sink).source.tie tested).channel =
        if sink = tested then none else (dropped.source.tie tested).channel := by
    change (dropped.channels.disconnect sink .sink).registry.channel? tested .sink = _
    split
    · next same =>
      rw [← same]
      exact Channels.channel?_disconnect _ sink .sink
    · next other =>
      rw [Channels.disconnect]
      split
      · rfl
      · change (dropped.source.registry.byPeer.erase (⟨sink, .sink⟩ : Endpoint))[
          (⟨tested, .sink⟩ : Endpoint)]? = _
        rw [Table.getElem?_erase_eq, if_neg (by simpa using other)]
        rfl
  have belief :
      ((turn.retire sink).source.tie tested).belief = (dropped.source.tie tested).belief := rfl
  ext1
  · rw [channel, tie_dropSink]
    split
    · rfl
    · rfl
  · rw [belief, tie_dropSink]
    split
    · rfl
    · rfl

/-- A tie ends with its channel. -/
theorem tie_closed (coherent : turn.source.registry.Coherent) (session : SessionId) :
    (turn.closed session).source.tie tested =
      if (turn.source.tie tested).channel = some session then ⟨none, none⟩
      else turn.source.tie tested := by
  have without :
      (turn.without session).source.tie tested =
        if (turn.source.tie tested).channel = some session then
          { turn.source.tie tested with channel := none }
        else turn.source.tie tested := by
    have channel := coherent.byPeer_closed session ⟨tested, .sink⟩
    change ((turn.without session).source.tie tested).channel = _ at channel
    ext1
    · rw [channel]
      change (if (turn.source.tie tested).channel = some session then none else _) = _
      split
      · rfl
      · rfl
    · split
      · rfl
      · rfl
  cases known : turn.source.registry.bySession[session]? with
  | none =>
      have elsewhere : (turn.source.tie tested).channel ≠ some session := by
        intro there
        obtain ⟨channel, found, _⟩ := coherent.leads _ _ there
        rw [known] at found
        cases found
      rw [closed_of_unknown turn known, if_neg elsewhere]
  | some channel =>
      have remote (there : (turn.source.tie tested).channel = some session) :
          channel.remote = ⟨tested, .sink⟩ := by
        obtain ⟨found, present, leads⟩ := coherent.leads _ _ there
        obtain rfl : found = channel := Option.some.inj (present.symm.trans known)
        exact leads
      have unled (role : channel.remoteRole = .source) :
          (turn.source.tie tested).channel ≠ some session := by
        intro there
        have toSink := congrArg Endpoint.role (remote there)
        rw [Channel.remote, role] at toSink
        cases toSink
      rw [closed_of_known turn known]
      cases role : channel.remoteRole with
      | source =>
          rw [if_neg (unled role)] at without ⊢
          cases channel.outbound with
          | true => exact without
          | false => exact without
      | sink =>
          change ((turn.without session).dropSink channel.peer).source.tie tested = _
          rw [tie_dropSink, without]
          by_cases there : (turn.source.tie tested).channel = some session
          · have ours : channel.peer = tested := congrArg Endpoint.device (remote there)
            rw [if_pos there, if_pos there, if_pos ours]
          · have other : channel.peer ≠ tested := by
              intro same
              have reached := coherent.reached session channel known role
              rw [Channel.remote, role, same] at reached
              exact there reached
            rw [if_neg there, if_neg other, if_neg there]

end Same

/-! ## What changes ties -/

variable [Transport τ]

/-- What becomes of a tie while these answers of the sink are taken. -/
inductive Alters (sink : DeviceId) (before : Turn τ) (heard : List Reply) (after : Turn τ) : Prop
  | keeps :
      after.source.tie sink =
          { before.source.tie sink with
            belief := heard.foldl Belief.hear (before.source.tie sink).belief } →
        Alters sink before heard after
  | loses : after.source.tie sink = ⟨none, none⟩ → Alters sink before heard after
  | finds (session : SessionId) :
      (before.source.tie sink).channel = none →
        (Transport.dial before.line sink .sink).1 = .ok session →
          after.source.tie sink = { before.source.tie sink with channel := some session } →
            Alters sink before heard after

namespace Alters

variable {sink : DeviceId} {before middle after : Turn τ} {heard : List Reply}

theorem of_same (same : after.source.tie sink = before.source.tie sink) :
    Alters sink before [] after :=
  .keeps same

theorem trans_same (alters : Alters sink before heard middle)
    (same : after.source.tie sink = middle.source.tie sink) : Alters sink before heard after := by
  cases alters with
  | keeps keeps => exact .keeps (same.trans keeps)
  | loses loses => exact .loses (same.trans loses)
  | finds session unknown dialled finds => exact .finds session unknown dialled (same.trans finds)

end Alters

section Reactions

variable (turn : Turn τ) (tested : DeviceId)

/-! ### Connecting -/

theorem alters_connect (peer : DeviceId) (role : Role) :
    Alters tested turn [] (turn.connect peer role).2 := by
  cases known : turn.channels.registry.channel? peer role with
  | some session =>
      apply Alters.of_same
      rw [connect, turn.channels.connect_of_known known]
      rfl
  | none =>
      rcases dialled : Transport.dial turn.channels.line peer role with ⟨refusal | session, line⟩
      · apply Alters.of_same
        rw [connect, turn.channels.connect_of_refused known dialled]
        rfl
      · have connected := turn.channels.connect_of_dialled known dialled
        have channel :
            ((turn.connect peer role).2.source.tie tested).channel =
              if (⟨peer, role⟩ : Endpoint) = ⟨tested, .sink⟩ then some session
              else (turn.source.tie tested).channel := by
          rw [connect, connected]
          exact Table.getElem?_insert_eq ..
        have belief :
            ((turn.connect peer role).2.source.tie tested).belief =
              (turn.source.tie tested).belief := by
          rw [connect, connected]
          rfl
        by_cases ours : (⟨peer, role⟩ : Endpoint) = ⟨tested, .sink⟩
        · obtain ⟨rfl, rfl⟩ := Endpoint.mk.inj ours
          rw [if_pos rfl] at channel
          exact .finds session known (congrArg Prod.fst dialled) (Tie.ext channel belief)
        · rw [if_neg ours] at channel
          exact .of_same (Tie.ext channel belief)

/-! ### Answers -/

omit [Transport τ] in
theorem tie_learn (sink : DeviceId) (change : Belief → Belief) :
    (turn.learn sink change).source.tie tested =
      if sink = tested then
        { turn.source.tie tested with belief := (turn.source.tie tested).belief.map change }
      else turn.source.tie tested := by
  exact tie_of_belief turn tested rfl (Table.getElem?_modify_eq ..)

omit [Transport τ] in
theorem tie_prepared (sink : DeviceId) :
    (turn.prepared sink).source.tie tested =
      if sink = tested then
        { turn.source.tie tested with belief := some ((turn.source.tie tested).belief.getD {}) }
      else turn.source.tie tested := by
  exact tie_of_belief turn tested rfl (Table.getElem?_insertIfNew_eq ..)

omit [Transport τ] in
/-- A source that takes an answer counts it, but for the news that nothing is prepared any
more. -/
theorem tie_absorb (sink : DeviceId) (reply : Reply) (lasts : reply ≠ .unprepared Status.ok) :
    (turn.absorb sink reply).source.tie tested =
      if sink = tested then
        { turn.source.tie tested with
          belief := Belief.hear (turn.source.tie tested).belief reply }
      else turn.source.tie tested := by
  unfold absorb Belief.hear
  by_cases good : reply.status = Status.ok
  · rw [if_pos good, if_pos good]
    cases reply with
    | unprepared status => exact absurd (congrArg Reply.unprepared good) lasts
    | prepared status allowList => exact turn.tie_prepared tested sink
    | _ => exact turn.tie_learn tested sink _
  · rw [if_neg good, if_neg good, ite_self]

/-- What a source makes of an answer in the end. -/
theorem alters_of_answer (sink : DeviceId) (reply : Reply) {answered : Turn τ}
    (same : answered.source.tie tested = (turn.absorb sink reply).source.tie tested) :
    Alters tested turn (if sink = tested then [reply] else [])
      (answered.retireIfUnprepared sink reply) := by
  by_cases lasts : reply = .unprepared Status.ok
  · subst lasts
    have absorbed : turn.absorb sink (.unprepared Status.ok) = turn := if_pos rfl
    have retired :
        ((answered.retireIfUnprepared sink (.unprepared Status.ok)).source.tie tested) =
          if sink = tested then ⟨none, none⟩ else turn.source.tie tested := by
      change ((answered.retire sink).source.tie tested) = _
      rw [tie_retire, same, absorbed]
    by_cases ours : sink = tested
    · rw [if_pos ours] at retired
      exact .loses retired
    · rw [if_neg ours] at retired ⊢
      exact .of_same retired
  · have stays : answered.retireIfUnprepared sink reply = answered := by
      cases reply with
      | unprepared status => exact if_neg fun good => lasts (congrArg Reply.unprepared good)
      | _ => rfl
    have absorbed := turn.tie_absorb tested sink reply lasts
    rw [← same] at absorbed
    rw [stays]
    by_cases ours : sink = tested
    · rw [if_pos ours] at absorbed ⊢
      exact .keeps absorbed
    · rw [if_neg ours] at absorbed ⊢
      exact .of_same absorbed

theorem alters_onReply (sink : DeviceId) (reply : Reply) :
    Alters tested turn (if sink = tested then [reply] else []) (turn.onReply sink reply) :=
  turn.alters_of_answer tested sink reply rfl

/-- The answer to a request that was passed on counts if its token is in use. -/
theorem alters_onRelayedReply (sink : DeviceId) (token : RelayToken) (reply : Reply)
    (held : sink = tested → turn.source.Holds sink token) :
    Alters tested turn (if sink = tested then [reply] else [])
      (turn.onRelayedReply sink token reply) := by
  cases live : turn.source.relays.live[token]? with
  | none =>
      have other : sink ≠ tested := by
        intro ours
        obtain ⟨correlation, found, _⟩ := held ours
        rw [live] at found
        cases found
      have dropped : turn.onRelayedReply sink token reply = turn := by
        rw [onRelayedReply, Relays.peek, live]
      rw [dropped, if_neg other]
      exact .of_same rfl
  | some correlation =>
      by_cases target : correlation.target = sink
      · have answers :
            turn.onRelayedReply sink token reply =
              ((turn.absorb sink reply).completeRelay token fun correlation =>
                correlation.report reply.toResult).retireIfUnprepared sink reply := by
          rw [onRelayedReply, Relays.peek, live]
          exact if_pos target
        rw [answers]
        exact turn.alters_of_answer tested sink reply (tie_completeRelay _ tested token _)
      · have other : sink ≠ tested := by
          intro ours
          obtain ⟨known, found, same⟩ := held ours
          obtain rfl : known = correlation := Option.some.inj (found.symm.trans live)
          exact target same
        have dropped : turn.onRelayedReply sink token reply = turn := by
          rw [onRelayedReply, Relays.peek, live]
          exact if_neg target
        rw [dropped, if_neg other]
        exact .of_same rfl

/-! ### Requests to pass on -/

theorem alters_forward (inquiry : Inquiry) :
    Alters tested turn []
      (turn.forward inquiry.origin inquiry.source inquiry.sink inquiry.request) := by
  have connected := turn.alters_connect tested inquiry.sink .sink
  have passes (session : SessionId) :
      Alters tested turn [] ((turn.connect inquiry.sink .sink).2.passOn session inquiry).2 :=
    connected.trans_same ((sent_send _ session _).tie_eq tested)
  obtain ⟨result, refused⟩ | ⟨session, _, passed | ⟨result, settled⟩⟩ := turn.forward_cases inquiry
  · rw [refused]
    exact connected.trans_same ((sent_post _ _ _).tie_eq tested)
  · rw [passed]
    exact passes session
  · rw [settled]
    exact (passes session).trans_same (tie_completeRelay _ tested _ _)

/-! ### Messages and calls -/

theorem alters_onMessage (now : UInt64) (session : SessionId) (peer : DeviceId)
    (message : Message)
    (held :
      peer = tested → ∀ token, message.answered? = some token → turn.source.Holds peer token) :
    Alters tested turn (if peer = tested then message.reply?.toList else [])
      (turn.onMessage now session peer message) := by
  have silent {after : Turn τ} (plain : message.reply? = none)
      (alters : Alters tested turn [] after) :
      Alters tested turn (if peer = tested then message.reply?.toList else []) after := by
    rw [plain, Option.toList_none, ite_self]
    exact alters
  cases message with
  | reply named reply => exact turn.alters_onReply tested peer reply
  | relayedReply token named reply =>
      exact turn.alters_onRelayedReply tested peer token reply fun ours => held ours token rfl
  | keyState named key => exact silent rfl (.of_same (turn.tie_inject tested peer _))
  | keyStates named keys => exact silent rfl (.of_same (turn.tie_inject tested peer _))
  | inputEvents named events => exact silent rfl (.of_same (turn.tie_inject tested peer events))
  | relayRequest named source sink request =>
      exact silent rfl (turn.alters_forward tested ⟨session, source, sink, request⟩)
  | _ => exact silent rfl (.of_same rfl)

/-- Only what comes on the channel of a peer counts for the peer. -/
theorem alters_handle (now : UInt64) (session : SessionId) (message : Message)
    (held :
      turn.source.registry.peer? session = some tested →
        ∀ token, message.answered? = some token → turn.source.Holds tested token) :
    Alters tested turn
      (if turn.source.registry.peer? session = some tested then message.reply?.toList else [])
      (turn.handle now session message) := by
  cases known : turn.source.registry.peer? session with
  | none =>
      have dropped : turn.handle now session message = turn := by rw [handle, known]
      rw [dropped, if_neg (Option.some_ne_none _).symm]
      exact .of_same rfl
  | some peer =>
      have taken : turn.handle now session message = turn.onMessage now session peer message := by
        rw [handle, known]
      simp only [taken, Option.some.injEq]
      apply turn.alters_onMessage tested now session peer message
      rintro rfl
      exact held known

theorem alters_channelFor (wanted : Call) :
    Alters tested turn [] (turn.channelFor wanted).2 := by
  have existing (sink : DeviceId) : (turn.existing sink).2 = turn := by
    rw [existing]
    split
    · rfl
    · rfl
  unfold channelFor
  split
  · exact turn.alters_connect tested _ _
  · rw [existing]
    exact .of_same rfl
  · split
    · rw [existing]
      exact .of_same rfl
    · exact .of_same rfl
  · exact turn.alters_connect tested _ _

theorem alters_call (ticket : Ticket) (wanted : Call) :
    Alters tested turn [] (turn.call ticket wanted).2 := by
  have reaches := turn.alters_channelFor tested wanted
  have sends (session : SessionId) :
      Alters tested turn []
        ((turn.channelFor wanted).2.send session
          (wanted.message (turn.channelFor wanted).2.source.device)).2 :=
    reaches.trans_same ((sent_send _ session _).tie_eq tested)
  obtain refused | ⟨error, refused⟩ | ⟨session, _, ⟨error, refused⟩ | ⟨_, _, accepted⟩⟩ :=
    turn.call_cases ticket wanted
  · rw [refused]
    exact .of_same rfl
  · rw [refused]
    exact reaches.trans_same rfl
  · rw [refused]
    exact (sends session).trans_same rfl
  · rw [accepted]
    exact (sends session).trans_same rfl

end Reactions

end Source.Turn

end InputSharing
