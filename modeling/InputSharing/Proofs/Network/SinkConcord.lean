import InputSharing.Proofs.Network.SourceConcord

/-!
# Sinks stay in concord

When a sink deals with a request on the channel of a source, its answer comes to wait for
the source, unless the source is to hear that the channel is gone.  Nothing else that a
sink does matters to this source.
-/

namespace InputSharing

open Hub (Port)

namespace Sink.Turn

variable {κ : Type} (turn : Turn (Port Parcel) κ) (session : SessionId) (via : Via)

theorem exists_line_answer (reply : Reply) :
    ∃ sequence,
      (turn.answer session via reply).line =
        { turn.line with
          hub :=
            (turn.line.hub.transmit turn.line.here session
              (.composed sequence (via.message turn.sink.device reply))).2 } :=
  ⟨_, Channels.line_send ⟨turn.sink.registry, turn.line⟩ session _⟩

theorem shares?_answer (reply : Reply) (tested : SessionId) :
    (turn.answer session via reply).sink.shares? tested = turn.sink.shares? tested := by
  obtain ⟨counter, line, sent⟩ := turn.sent_post session (via.message turn.sink.device reply)
  change (turn.post session (via.message turn.sink.device reply)).sink.shares? tested = _
  rw [sent]
  rfl

/-- A sink that serves a request answers on the session of the request only. -/
theorem fills_serve [Collector κ] (sound : turn.line.hub.Sound) (request : Request) :
    Hub.Fills (fun event => event.reply? = none ∨ event.session = session) turn.line.hub
        (turn.serve session via request).line.hub ∧
      ∀ tested, session ≠ tested →
        (turn.serve session via request).sink.shares? tested = turn.sink.shares? tested := by
  cases turn.serve_settles session via request with
  | inl ignored =>
      rw [ignored.2]
      exact ⟨.refl sound, fun _ _ => rfl⟩
  | inr dealt =>
      obtain ⟨after, reply, answers, settled⟩ := dealt
      obtain ⟨sequence, line⟩ := after.exists_line_answer session via reply
      have chatter := (Hub.fills_of_chatters sound settled.chatters).2
      have filled :
          Hub.Fills (fun event => event.reply? = none ∨ event.session = session) turn.line.hub
            after.line.hub :=
        chatter.mono fun _ => Or.inl
      rw [answers, line]
      refine ⟨filled.trans (.transmit filled.sound _ session (Or.inr rfl)), ?_⟩
      intro tested other
      rw [shares?_answer, settled.others tested other]

end Sink.Turn

namespace Network

variable {network : Network} {source sink device : DeviceId} {node : Node}
  {dealings : SessionId → List Dealing} {session : SessionId} {happening : Happening}
  {left : List SinkEvent}
  {act : Sink.Turn (Port Parcel) Hardware → Sink.Turn (Port Parcel) Hardware}
  {kind : TransportEvent Parcel → Prop}

section SinkTurns

variable (found : network.nodes[device]? = some node)
  (performs :
    network.happen happening = network.sinkTurn device { node with sinkQueue := left } act)

include found performs

/-- The source of a node does not notice what its sink does. -/
theorem tie_of_sinkTurn (source sink : DeviceId) :
    (network.happen happening).tie source sink = network.tie source sink :=
  tie_of_same_source found (congrArg Network.nodes performs) rfl source sink

omit found in
theorem shares?_of_sinkTurn (sink : DeviceId) (session : SessionId) :
    (network.happen happening).shares? sink session =
      if device = sink then (act (Trace.sinkTurn { network } device node)).sink.shares? session
      else network.shares? sink session :=
  shares?_of_insert (congrArg Network.nodes performs) sink session

theorem sourceMail_of_sinkTurn (source : DeviceId) :
    (network.happen happening).sourceMail source =
      network.held ⟨source, .source⟩ ++
        (act (Trace.sinkTurn { network } device node)).line.hub.mail ⟨source, .source⟩ := by
  have held :
      (network.happen happening).held ⟨source, .source⟩ = network.held ⟨source, .source⟩ := by
    rw [held_of_insert (congrArg Network.nodes performs), heldWith]
    split
    · next here =>
      obtain rfl : source = device := here
      exact (held_of_node found .source).symm
    · rfl
  rw [sourceMail, held, performs]
  rfl

/-- What fills the mailboxes besides answers on the channel does not matter. -/
theorem Concurs.sinkTurn (concurs : network.Concurs source sink dealings)
    (fills :
      Hub.Fills kind network.hub (act (Trace.sinkTurn { network } device node)).line.hub)
    (silent :
      ∀ session, (network.tie source sink).channel = some session →
        ∀ event, kind event → event.replyOn? session = none)
    (same :
      ∀ session, (network.tie source sink).channel = some session →
        .closed session ∉ network.sourceMail source →
          (device = sink →
              (act (Trace.sinkTurn { network } device node)).sink.shares? session =
                node.sink.shares? session) ∧
            network.dealing? sink session happening = none) :
    network.Abides source sink dealings happening := by
  obtain ⟨more, grown, all⟩ := fills.mail_grows ⟨source, .source⟩
  apply concurs.of_grown (tie_of_sinkTurn found performs source sink) more
  · rw [sourceMail_of_sinkTurn found performs, grown, ← List.append_assoc]
    rfl
  · exact fun session tied event listed => silent session tied event (all event listed)
  · intro session tied stays
    obtain ⟨shares, undealt⟩ := same session tied stays
    refine ⟨?_, ?_⟩
    · rw [shares?_of_sinkTurn performs]
      split
      · next here => rw [shares here, ← here, shares?_of_node found]
      · rfl
    · rw [undealt]
      exact List.append_nil _

end SinkTurns

theorem Concurs.flush (concurs : network.Concurs source sink dealings)
    (delivers : network.AllDeliver) (device : DeviceId) :
    network.Abides source sink dealings (.move (.flush device)) := by
  cases found : network.nodes[device]? with
  | none =>
      refine abides ?_ fun _ => rfl
      rw [happen, perform, Network.flush, found]
      exact concurs
  | some node =>
      obtain ⟨_, _, _, delivered⟩ := delivers ⟨⟨0⟩, source, sink⟩
      have performs :
          network.happen (.move (.flush device)) =
            network.sinkTurn device { node with sinkQueue := node.sinkQueue } Sink.Turn.flush := by
        rw [happen, perform, Network.flush, found]
      have keeps := (Trace.sinkTurn { network } device node).keeps_flush
      have fills := (Hub.fills_of_chatters delivered.delivers.charted.sound keeps.1).2
      exact concurs.sinkTurn found performs fills
        (fun session _ event plain => TransportEvent.replyOn?_of_plain plain)
        fun session _ _ => ⟨fun _ => keeps.shares?_eq session, rfl⟩

section Serving

variable {event : SinkEvent} {rest : List SinkEvent}

theorem happen_serveSink (found : network.nodes[device]? = some node)
    (queue : node.sinkQueue = event :: rest) :
    network.happen (.move (.serve ⟨device, .sink⟩)) =
      network.sinkTurn device { node with sinkQueue := rest } fun turn => event.react turn :=
  serveSink_of_queue found queue

theorem dealing?_of_unasked (next : network.nextOfSink? device = some event)
    (unasked : event.wanted? = none) (sink : DeviceId) (session : SessionId) :
    network.dealing? sink session (.move (.serve ⟨device, .sink⟩)) = none := by
  rw [dealing?]
  split
  · next here =>
    rw [← here, next, Option.bind_some, unasked]
  · rfl

theorem dealing?_of_asked (next : network.nextOfSink? device = some event) {asked : SessionId}
    {request : Request} (wants : event.wanted? = some (asked, request)) (sink : DeviceId)
    (session : SessionId) :
    network.dealing? sink session (.move (.serve ⟨device, .sink⟩)) =
      if device = sink ∧ asked = session then
        some
          { request
            before := (network.shares? sink session).getD ∅
            after :=
              ((network.happen (.move (.serve ⟨device, .sink⟩))).shares? sink session).getD ∅ }
      else none := by
  rw [dealing?, ite_and]
  split
  · next here =>
    rw [← here, next, Option.bind_some, wants]
    rfl
  · rfl

/-- What no sink has been asked for, no sink answers. -/
theorem Concurs.serve_unasked (concurs : network.Concurs source sink dealings)
    (delivers : network.AllDeliver) (found : network.nodes[device]? = some node)
    (queue : node.sinkQueue = event :: rest) (unasked : event.wanted? = none) :
    network.Abides source sink dealings (.move (.serve ⟨device, .sink⟩)) := by
  obtain ⟨_, _, _, delivered⟩ := delivers ⟨⟨0⟩, source, sink⟩
  obtain ⟨chatters, keeps⟩ :=
    Sink.Turn.react_of_unasked unasked (Trace.sinkTurn { network } device node)
  have performs := happen_serveSink found queue
  have fills := (Hub.fills_of_chatters delivered.delivers.charted.sound chatters).2
  apply concurs.sinkTurn found performs fills
  · exact fun session _ event plain => TransportEvent.replyOn?_of_plain plain
  · intro session tied stays
    refine ⟨?_, dealing?_of_unasked (nextOfSink?_of_queue found queue) unasked sink session⟩
    rintro rfl
    apply keeps session
    -- The sink hears of the end of a channel only when the source is to hear of it too.
    rintro rfl
    obtain ⟨ways, _, _, delivered⟩ := delivers ⟨session, source, device⟩
    have runs := delivered.runs_of_tied tied
    have linked := runs.standing.resolve_right stays
    apply (runs.quiet linked).2
    change .closed session ∈ network.held ⟨device, .sink⟩ ++ network.hub.mail ⟨device, .sink⟩
    rw [held_of_sinkQueue found queue]
    exact List.mem_cons_self

/-- Requests of other channels are dealt with. -/
theorem Concurs.serve_other (concurs : network.Concurs source sink dealings)
    (delivers : network.AllDeliver) (found : network.nodes[device]? = some node)
    (queue : node.sinkQueue = event :: rest) {asked : SessionId} {request : Request}
    (wants : event.wanted? = some (asked, request))
    (other : (network.tie source sink).channel ≠ some asked) :
    network.Abides source sink dealings (.move (.serve ⟨device, .sink⟩)) := by
  obtain ⟨_, _, _, delivered⟩ := delivers ⟨⟨0⟩, source, sink⟩
  let turn := Trace.sinkTurn { network } device node
  obtain ⟨via, serves⟩ := Sink.Turn.react_of_asked wants turn
  have performs := happen_serveSink found queue
  obtain ⟨fills, others⟩ :=
    turn.fills_serve asked via delivered.delivers.charted.sound request
  rw [← serves] at fills others
  apply concurs.sinkTurn found performs fills
  · intro session tied event kind
    cases kind with
    | inl plain => exact TransportEvent.replyOn?_of_plain plain
    | inr about =>
        apply TransportEvent.replyOn?_of_ne
        rintro same
        exact other (tied.trans (congrArg some (same.symm.trans about)))
  · intro session tied _
    have different : asked ≠ session := by
      rintro rfl
      exact other tied
    refine ⟨fun _ => others session different, ?_⟩
    rw [dealing?_of_asked (nextOfSink?_of_queue found queue) wants, if_neg fun both =>
      different both.2]

/-- What a sink answers on the channel of a source comes to wait for the source. -/
theorem exists_answer {asked : SessionId} (delivers : network.AllDeliver)
    (delivers' : (network.happen happening).AllDeliver)
    (tied : (network.tie source sink).channel = some asked)
    (tied' : ((network.happen happening).tie source sink).channel = some asked)
    (stays : .closed asked ∉ (network.happen happening).sourceMail source) {line : Port Parcel}
    (here : line.here = ⟨sink, .sink⟩) (sound : line.hub.Sound)
    (directory : line.hub.directory = network.hub.directory) {parcel : Parcel}
    (hub : (network.happen happening).hub = (line.hub.transmit line.here asked parcel).2) :
    (network.happen happening).hub.mail ⟨source, .source⟩ =
      line.hub.mail ⟨source, .source⟩ ++ [.frame asked parcel] := by
  let link : Link := ⟨⟨source, .source⟩, ⟨sink, .sink⟩⟩
  obtain ⟨ways, _, _, delivered⟩ := delivers ⟨asked, source, sink⟩
  obtain ⟨later, _, _, delivered'⟩ := delivers' ⟨asked, source, sink⟩
  have linked : asked ∈ (network.happen happening).hub.links :=
    (delivered'.runs_of_tied tied').standing.resolve_right stays
  obtain ⟨found, present⟩ := (Table.mem_iff_exists _ _).1 linked
  have same : found = link :=
    Option.some.inj ((delivered'.delivers.charted.linked present).symm.trans
      (delivered'.way tied'))
  rw [hub, Hub.links_transmit, same] at present
  have other : link.otherEnd line.here = ⟨source, .source⟩ := by
    rw [here, Link.otherEnd, if_neg (by simp [link])]
  have registered : link.otherEnd line.here ∈ line.hub.directory := by
    rw [other, directory]
    exact (delivered.delivers.charted.registered (delivered.way tied)).1
  obtain ⟨after, transmitted, put⟩ :=
    Hub.transmit_of_link line.here sound parcel present registered
  rw [hub, transmitted, put.mail_eq, other, Function.update_self]

/-- Requests on a channel are dealt with by the sink at its end. -/
theorem device_of_asked (delivers : network.AllDeliver)
    (found : network.nodes[device]? = some node) (queue : node.sinkQueue = event :: rest)
    {asked : SessionId} {request : Request} (wants : event.wanted? = some (asked, request))
    (tied : (network.tie source sink).channel = some asked) : device = sink := by
  obtain ⟨ways, _, _, delivered⟩ := delivers ⟨asked, source, sink⟩
  obtain ⟨parcel, rfl⟩ := event.frame_of_wanted wants
  let route : Route := ⟨asked, source, sink⟩
  have way : ways route.session = some route.link := delivered.way tied
  exact delivered.delivers.charted.sink_of_first (held_of_sinkQueue found queue) way

section Asked

variable {asked : SessionId} {request : Request}
  (found : network.nodes[sink]? = some node) (queue : node.sinkQueue = event :: rest)
  (wants : event.wanted? = some (asked, request))

include found queue wants

/-- Nothing but the channel on which a request comes is concerned. -/
theorem Concurs.of_asked (concurs : network.Concurs source sink dealings)
    (tied : (network.tie source sink).channel = some asked)
    (matched :
      .closed asked ∉ (network.happen (.move (.serve ⟨sink, .sink⟩))).sourceMail source →
        Matches
          (dealings asked ++
            [{ request
               before := (network.shares? sink asked).getD ∅
               after :=
                ((network.happen (.move (.serve ⟨sink, .sink⟩))).shares? sink asked).getD ∅ }])
          ((network.tie source sink).foreseen
            ((network.happen (.move (.serve ⟨sink, .sink⟩))).sourceMail source) asked)
          ((network.happen (.move (.serve ⟨sink, .sink⟩))).shares? sink asked)) :
    network.Abides source sink dealings (.move (.serve ⟨sink, .sink⟩)) := by
  have performs := happen_serveSink found queue
  have dealt := dealing?_of_asked (nextOfSink?_of_queue found queue) wants sink asked
  rw [if_pos ⟨rfl, rfl⟩] at dealt
  rw [Abides, Concurs, tie_of_sinkTurn found performs source sink]
  refine ⟨concurs.untied, ?_⟩
  intro session same stays
  obtain rfl : asked = session := Option.some.inj (tied.symm.trans same)
  rw [dealt]
  exact matched stays

/-- A sink that does not know the channel ignores the request and shares nothing. -/
theorem Concurs.serve_ignored (concurs : network.Concurs source sink dealings)
    (delivers : network.AllDeliver) (tied : (network.tie source sink).channel = some asked)
    (unknown : node.sink.registry.peer? asked = none)
    (still :
      event.react (Trace.sinkTurn { network } sink node) = Trace.sinkTurn { network } sink node) :
    network.Abides source sink dealings (.move (.serve ⟨sink, .sink⟩)) := by
  obtain ⟨_, _, _, delivered⟩ := delivers ⟨asked, source, sink⟩
  have performs := happen_serveSink found queue
  have unshared : node.sink.shares? asked = none := by
    cases prepared : node.sink.switches[asked]? with
    | none =>
        rw [Sink.shares?, prepared]
        rfl
    | some switch =>
        have known := (delivered.housed.books found).peer_of_switch asked switch prepared
        rw [unknown] at known
        cases known
  have mail := sourceMail_of_sinkTurn found performs source
  have shares := shares?_of_sinkTurn performs sink asked
  rw [still] at mail shares
  rw [if_pos rfl] at shares
  apply concurs.of_asked found queue wants tied
  intro stays
  rw [mail] at stays ⊢
  rw [shares]
  have matched := concurs.matched tied stays
  rw [shares?_of_node found, unshared] at matched
  change Matches _ ((network.tie source sink).foreseen (network.sourceMail source) asked)
    (node.sink.shares? asked)
  rw [unshared, matched.eq_none]
  trivial

/-- The answer to a request on the channel gets under way. -/
theorem Concurs.serve_answered (concurs : network.Concurs source sink dealings)
    (delivers : network.AllDeliver)
    (delivers' : (network.happen (.move (.serve ⟨sink, .sink⟩))).AllDeliver)
    (tied : (network.tie source sink).channel = some asked) {via : Sink.Via} {reply : Reply}
    {answering : Sink.Turn (Port Parcel) Hardware}
    (answers :
      event.react (Trace.sinkTurn { network } sink node) = answering.answer asked via reply)
    (settled : (Trace.sinkTurn { network } sink node).Settled answering asked request reply) :
    network.Abides source sink dealings (.move (.serve ⟨sink, .sink⟩)) := by
  obtain ⟨_, _, _, delivered⟩ := delivers ⟨asked, source, sink⟩
  let later := network.happen (.move (.serve ⟨sink, .sink⟩))
  have performs := happen_serveSink found queue
  obtain ⟨sequence, line⟩ := answering.exists_line_answer asked via reply
  let parcel : Parcel := .composed sequence (via.message answering.sink.device reply)
  obtain ⟨here, fills⟩ :=
    Hub.fills_of_chatters delivered.delivers.charted.sound settled.chatters
  obtain ⟨more, grown, plain⟩ := fills.mail_grows ⟨source, .source⟩
  have before : network.shares? sink asked = node.sink.shares? asked := shares?_of_node found asked
  have after : later.shares? sink asked = answering.sink.shares? asked := by
    have same := shares?_of_sinkTurn performs sink asked
    rw [if_pos rfl, answers, Sink.Turn.shares?_answer] at same
    exact same
  have turns : later.hub = (event.react (Trace.sinkTurn { network } sink node)).line.hub :=
    congrArg Network.hub performs
  have sends :
      later.hub = (answering.line.hub.transmit answering.line.here asked parcel).2 := by
    rw [turns, answers, line]
  apply concurs.of_asked found queue wants tied
  intro stays
  have tied' : (later.tie source sink).channel = some asked := by
    rw [tie_of_sinkTurn found performs source sink]
    exact tied
  have arrives :=
    exists_answer delivers delivers' tied tied' stays here fills.sound fills.directory_eq sends
  have mail :
      later.sourceMail source = network.sourceMail source ++ (more ++ [.frame asked parcel]) := by
    rw [sourceMail_of_sinkTurn found performs source, ← turns, arrives, grown, sourceMail,
      List.append_assoc, List.append_assoc]
    rfl
  have brings :
      (TransportEvent.frame asked parcel).replyOn? asked = some reply := by
    rw [TransportEvent.replyOn?_frame]
    cases via with
    | direct => rfl
    | relayed token => rfl
  have settles :
      Settles request (network.shares? sink asked) reply (later.shares? sink asked) := by
    rw [before, after]
    exact settled.settles
  have lasts : .closed asked ∉ network.sourceMail source := by
    intro gone
    apply stays
    change .closed asked ∈ later.sourceMail source
    rw [mail]
    exact List.mem_append_left _ gone
  change Matches _ ((network.tie source sink).foreseen (later.sourceMail source) asked)
    (later.shares? sink asked)
  rw [mail]
  exact Concord.deal concurs tied settles plain brings lasts

end Asked

/-- Whatever a sink takes from its queue, a source stays in concord with it. -/
theorem Concurs.serveSink (concurs : network.Concurs source sink dealings)
    (delivers : network.AllDeliver) {device : DeviceId}
    (delivers' : (network.happen (.move (.serve ⟨device, .sink⟩))).AllDeliver) :
    network.Abides source sink dealings (.move (.serve ⟨device, .sink⟩)) := by
  cases next : network.nextOfSink? device with
  | none =>
      refine abides ?_ fun session => ?_
      · rw [happen, perform, serveSink_of_idle next]
        exact concurs
      · rw [dealing?]
        split
        · next here =>
          rw [← here, next]
          rfl
        · rfl
  | some event =>
      obtain ⟨node, rest, found, queue⟩ := exists_of_nextOfSink? next
      cases wants : event.wanted? with
      | none => exact concurs.serve_unasked delivers found queue wants
      | some wanted =>
          obtain ⟨asked, request⟩ := wanted
          by_cases tied : (network.tie source sink).channel = some asked
          · obtain rfl := device_of_asked delivers found queue wants tied
            let turn := Trace.sinkTurn { network } device node
            obtain ⟨via, serves⟩ := Sink.Turn.react_of_asked wants turn
            cases turn.serve_settles asked via request with
            | inl ignored =>
                exact concurs.serve_ignored found queue wants delivers tied ignored.1
                  (serves.trans ignored.2)
            | inr dealt =>
                obtain ⟨after, reply, answers, settled⟩ := dealt
                exact concurs.serve_answered found queue wants delivers delivers' tied
                  (serves.trans answers) settled
          · exact concurs.serve_other delivers found queue wants tied

end Serving

end Network

end InputSharing
