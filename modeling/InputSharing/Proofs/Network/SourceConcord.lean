import InputSharing.Proofs.Network.Delivery
import InputSharing.Proofs.Network.Minutes
import InputSharing.Proofs.Source.Chatter

/-!
# Sources stay in concord

Most of what happens on a network does not concern the tie of a source to a sink.  When the
source reacts, it counts the answer that it takes, gives its channel up, or opens one on
which nothing has happened yet.
-/

namespace InputSharing

open Hub (Port)

/-- A channel by which a sink is reached is that of a route. -/
theorem View.Charted.opens {view : View} (charted : view.Charted) {source sink : DeviceId}
    {session : SessionId} (tied : ((view.sources source).tie sink).channel = some session) :
    (view.sources source).Opens view.ways source ⟨session, source, sink⟩ := by
  obtain ⟨channel, found, remote⟩ := (charted.sources source).coherent.leads _ _ tied
  obtain ⟨link, way, ends, leads⟩ := (charted.sources source).known found
  refine ⟨?_, rfl, Table.mem_of_getElem? found⟩
  rw [remote, Link.otherEnd] at leads
  split at leads
  · next opens =>
    have same : link = ⟨⟨source, .source⟩, ⟨sink, .sink⟩⟩ := by
      rw [← opens, ← leads]
    exact way.trans (congrArg some same)
  · have role := charted.opener_role way
    rw [leads] at role
    cases role

namespace Network

/-- Nothing is lost on any route. -/
def AllDeliver (network : Network) : Prop :=
  ∀ route, ∃ ways injected routed, network.Delivers route ways injected routed

/-- A source and a sink are in concord. -/
def Concurs (network : Network) (source sink : DeviceId)
    (dealings : SessionId → List Dealing) : Prop :=
  Concord (network.tie source sink) (network.sourceMail source) (network.shares? sink) dealings

/-- A source and a sink stay in concord when something happens. -/
def Abides (network : Network) (source sink : DeviceId) (dealings : SessionId → List Dealing)
    (happening : Happening) : Prop :=
  (network.happen happening).Concurs source sink fun session =>
    dealings session ++ (network.dealing? sink session happening).toList

variable {network after : Network} {source sink device : DeviceId} {old new : Node}
  {dealings later : SessionId → List Dealing} {session : SessionId} {happening : Happening}

theorem Concurs.abides (concurs : (network.happen happening).Concurs source sink dealings)
    (undealt : ∀ session, network.dealing? sink session happening = none) :
    network.Abides source sink dealings happening := by
  have same :
      (fun session => dealings session ++ (network.dealing? sink session happening).toList) =
        dealings := by
    funext session
    rw [undealt]
    exact List.append_nil _
  rw [Abides, same]
  exact concurs

/-! ## Channels of sources -/

namespace Delivers

variable {route : Route} {ways : SessionId → Option Link}
  {injected : List (DeviceId × InputEvent)} {routed : List InputEvent}

theorem opens (delivers : network.Delivers route ways injected routed)
    (found : network.nodes[source]? = some old)
    (tied : (old.source.tie sink).channel = some session) :
    old.source.Opens ways source ⟨session, source, sink⟩ := by
  have same : (network.view ways).sources source = old.source := sources_of_node found ways
  rw [← same] at tied ⊢
  exact delivers.delivers.charted.opens tied

theorem way (delivers : network.Delivers route ways injected routed)
    (tied : (network.tie source sink).channel = some session) :
    ways session = some ⟨⟨source, .source⟩, ⟨sink, .sink⟩⟩ := by
  obtain ⟨node, found, channel⟩ := exists_of_tied tied
  exact (delivers.opens found channel).way

/-- The lane of a tie runs. -/
theorem runs_of_tied {session : SessionId}
    (delivers : network.Delivers ⟨session, source, sink⟩ ways injected routed)
    (tied : (network.tie source sink).channel = some session) :
    ((network.view ways).lane ⟨session, source, sink⟩).Runs ⟨session, source, sink⟩ [] injected
      routed := by
  obtain ⟨node, found, channel⟩ := exists_of_tied tied
  have opens := delivers.opens found channel
  apply delivers.delivers.runs opens.way trivial
  rw [sources_of_node found]
  exact opens.known

end Delivers

/-! ## What does not concern a tie -/

namespace Concurs

theorem of_grown (concurs : network.Concurs source sink dealings)
    (tie : after.tie source sink = network.tie source sink)
    (more : List (TransportEvent Parcel))
    (mail : after.sourceMail source = network.sourceMail source ++ more)
    (silent :
      ∀ session, (network.tie source sink).channel = some session →
        ∀ event ∈ more, event.replyOn? session = none)
    (same :
      ∀ session, (network.tie source sink).channel = some session →
        .closed session ∉ network.sourceMail source →
          after.shares? sink session = network.shares? sink session ∧
            later session = dealings session) :
    after.Concurs source sink later := by
  rw [Concurs, tie, mail]
  exact Concord.grow concurs silent same

theorem of_same (concurs : network.Concurs source sink dealings)
    (tie : after.tie source sink = network.tie source sink)
    (mail : after.sourceMail source = network.sourceMail source)
    (shares : ∀ session, after.shares? sink session = network.shares? sink session)
    (deals : ∀ session, later session = dealings session) :
    after.Concurs source sink later := by
  apply concurs.of_grown tie []
  · rw [mail, List.append_nil]
  · intro _ _ event listed
    cases listed
  · exact fun session _ _ => ⟨shares session, deals session⟩

theorem quiet (concurs : network.Concurs source sink dealings) (running : network.AllRun)
    {move : Move} (quiet : move.isQuiet = true) :
    (network.perform move).Concurs source sink dealings := by
  cases stays_of_quiet running quiet with
  | ends hub nodes _ _ _ =>
      apply concurs.of_same (tie_of_same nodes source sink) _ (shares?_of_same nodes sink)
        fun _ => rfl
      rw [sourceMail, sourceMail, hub, held, held, nodes]
  | adds found adds sameSink injector hub nodes _ =>
      apply concurs.of_same (tie_of_same_source found nodes adds.source_eq source sink) _
        (shares?_of_same_sink found nodes sameSink sink) fun _ => rfl
      rw [sourceMail, sourceMail, hub, held_of_insert nodes,
        heldWith_of_received found adds.received_eq]

theorem forward (concurs : network.Concurs source sink dealings) (housed : network.Housed)
    (sound : network.hub.Sound) (endpoint : Endpoint) :
    (network.forward endpoint).Concurs source sink dealings := by
  obtain ⟨device, role⟩ := endpoint
  cases forwards sound housed.running housed.boxes device role with
  | nothing same =>
      rw [same]
      exact concurs
  | @event node event rest hub found mail taken performs =>
      obtain ⟨_, _, sameSource, sameSink⟩ := node.same_enqueue event role
      have nodes := congrArg Network.nodes performs
      have hubs := congrArg Network.hub performs
      apply concurs.of_same (tie_of_same_source found nodes sameSource source sink) _
        (shares?_of_same_sink found nodes sameSink sink) fun _ => rfl
      rw [sourceMail, hubs, held_of_insert nodes]
      exact events_of_forward found taken mail _

theorem sever (concurs : network.Concurs source sink dealings) (sound : network.hub.Sound)
    (session : SessionId) :
    (network.happen (.sever session)).Concurs source sink dealings := by
  let gone (event : TransportEvent Parcel) : Prop := event = .closed session
  have fills : Hub.Fills gone network.hub (network.hub.sever session) := .sever sound rfl
  obtain ⟨more, grown, news⟩ := fills.mail_grows ⟨source, .source⟩
  have nodes : (network.happen (.sever session)).nodes = network.nodes := rfl
  apply concurs.of_grown (tie_of_same nodes source sink) more
  · change network.held _ ++ (network.hub.sever session).mail _ = _
    rw [grown, ← List.append_assoc]
    rfl
  · intro _ _ event listed
    rw [news event listed]
    rfl
  · exact fun session _ _ => ⟨shares?_of_same nodes sink session, rfl⟩

end Concurs

end Network

/-! ## Reactions of sources -/

namespace Source.Turn

variable {turn after : Turn (Port Parcel)} {sink : DeviceId} {heard : List Reply}
  {left more : List (TransportEvent Parcel)}
  {before : SessionId → Option Shares} {dealings : SessionId → List Dealing}

/-- A source that takes an event stays in concord, whatever becomes of its tie. -/
theorem Alters.concord (alters : Alters sink turn heard after)
    (taken : Option (TransportEvent Parcel))
    (concord : Concord (turn.source.tie sink) (taken.toList ++ left) before dealings)
    (hears :
      heard =
        ((turn.source.tie sink).channel.bind fun session =>
          taken.bind (TransportEvent.replyOn? session)).toList)
    (lasts :
      ∀ session, (turn.source.tie sink).channel = some session → taken ≠ some (.closed session))
    (plain : ∀ event ∈ more, event.reply? = none)
    (unused :
      ∀ session, (Transport.dial turn.line sink .sink).1 = .ok session →
        before session = none ∧ ∀ event ∈ left, event.replyOn? session = none) :
    Concord (after.source.tie sink) (left ++ more) before dealings := by
  let counted : Tie :=
    { turn.source.tie sink with
      belief := heard.foldl Belief.hear (turn.source.tie sink).belief }
  have took : Concord counted left before dealings := by
    cases taken with
    | none =>
        have nothing : heard = [] := by
          rw [hears]
          cases (turn.source.tie sink).channel <;> rfl
        dsimp only [counted]
        rw [nothing]
        exact concord
    | some event =>
        dsimp only [counted]
        rw [hears]
        exact concord.take fun session tied same => lasts session tied (congrArg some same)
  have grown : Concord counted (left ++ more) before dealings :=
    took.grow
      (fun session _ event listed => TransportEvent.replyOn?_of_plain (plain event listed))
      fun _ _ _ => ⟨rfl, rfl⟩
  cases alters with
  | keeps keeps => exact keeps ▸ grown
  | loses loses => exact loses ▸ .of_untied
  | finds session unknown dialled finds =>
      have nothing : heard = [] := by
        rw [hears, unknown]
        rfl
      obtain ⟨unshared, silent⟩ := unused session dialled
      have found :
          Concord { counted with channel := some session } (left ++ more) before dealings := by
        refine grown.find unknown ?_ unshared
        intro event listed
        cases List.mem_append.1 listed with
        | inl before => exact silent event before
        | inr new => exact TransportEvent.replyOn?_of_plain (plain event new)
      dsimp only [counted] at found
      rw [nothing] at found
      exact finds ▸ found

/-- The answers that count are those that come on the channel to the sink. -/
theorem Hearing.heard_eq {view : View} {source : DeviceId} {session : SessionId}
    {injected : List (DeviceId × InputEvent)} {routed : List InputEvent} {message : Message}
    (hearing :
      Hearing view source ⟨session, source, sink⟩ injected routed session message left turn)
    (sequence : UInt64) :
    (if turn.source.registry.peer? session = some sink then message.reply?.toList else []) =
      ((turn.source.tie sink).channel.bind fun tested =>
        (TransportEvent.frame session (.composed sequence message)).replyOn? tested).toList := by
  cases answer : message.reply? with
  | none =>
      have silent (tested : SessionId) :
          (TransportEvent.frame session (.composed sequence message)).replyOn? tested = none :=
        TransportEvent.replyOn?_of_plain answer
      rw [Option.toList_none, ite_self]
      cases (turn.source.tie sink).channel with
      | none => rfl
      | some tested =>
          rw [Option.bind_some, silent]
          rfl
  | some reply =>
      have within : message.isBetweenSources = false := by
        cases message with
        | relayRequest _ _ _ _ => cases answer
        | relayResult _ _ _ => cases answer
        | _ => rfl
      by_cases known : turn.source.registry.peer? session = some sink
      · have tied : (turn.source.tie sink).channel = some session := hearing.reached within known
        rw [if_pos known, tied, Option.bind_some, TransportEvent.replyOn?_frame, answer]
      · rw [if_neg known]
        cases tied : (turn.source.tie sink).channel with
        | none => rfl
        | some tested =>
            have other : session ≠ tested := by
              rintro rfl
              obtain ⟨channel, found, leads⟩ := hearing.charted.coherent.leads _ _ tied
              apply known
              rw [Registry.peer?, found]
              exact congrArg (fun remote : Endpoint => some remote.device) leads
            have silent :
                (TransportEvent.frame session (.composed sequence message)).replyOn? tested =
                  none :=
              TransportEvent.replyOn?_of_ne other
            rw [Option.bind_some, silent]
            rfl

end Source.Turn

namespace Network

variable {network after : Network} {source sink device : DeviceId} {old new : Node}
  {dealings later : SessionId → List Dealing} {session : SessionId}

/-- What a source takes next is the first of its mail. -/
theorem sourceMail_of_queue (found : network.nodes[source]? = some old) {event : SourceEvent}
    {rest : List SourceEvent} (queue : old.sourceQueue = event :: rest) :
    network.sourceMail source =
      event.transport?.toList ++
        (rest.filterMap SourceEvent.transport? ++ network.hub.mail ⟨source, .source⟩) := by
  rw [sourceMail, held_of_node found, Node.received, queue]
  cases noted : event.transport? with
  | none => rw [List.filterMap_cons_none noted]; rfl
  | some transport => rw [List.filterMap_cons_some noted]; rfl

/-- Nobody has heard of a session that is still to come. -/
theorem unused_of_dial (delivers : network.AllDeliver) (room : network.HasRoom)
    (dialled :
      (Transport.dial (⟨network.hub, ⟨source, .source⟩⟩ : Port Parcel) sink .sink).1 =
        .ok session) :
    network.shares? sink session = none ∧
      ∀ event ∈ network.sourceMail source, event.replyOn? session = none := by
  obtain ⟨ways, injected, routed, delivers⟩ := delivers ⟨session, source, sink⟩
  have charted := delivers.delivers.charted
  have sound : network.hub.Sound := charted.sound
  have next : session = (network.view ways).next := by
    rw [Hub.dial_port] at dialled
    by_cases registered : (⟨sink, .sink⟩ : Endpoint) ∈ network.hub.directory
    · obtain ⟨after, dials, _⟩ :=
        Hub.dial_of_registered ⟨source, .source⟩ sound registered
      dsimp only at dialled
      rw [dials] at dialled
      exact (Except.ok.inj dialled).symm
    · dsimp only at dialled
      rw [Hub.dial_of_unknown _ registered] at dialled
      cases dialled
  have unborn : ways session = none := by
    rw [next]
    exact charted.way_next room.sessions
  refine ⟨?_, ?_⟩
  · have unprepared := (charted.unused (delivers.housed.sinks ways sink) unborn).2
    cases found : network.nodes[sink]? with
    | none =>
        rw [shares?, found]
        rfl
    | some node =>
        rw [sinks_of_node found] at unprepared
        rw [shares?_of_node found, Sink.shares?, Std.ExtTreeMap.getElem?_eq_none unprepared]
        rfl
  · intro event listed
    apply TransportEvent.replyOn?_of_ne
    intro same
    have waits : event ∈ (network.view ways).mail ⟨source, .source⟩ := listed
    obtain ⟨link, way, _⟩ := charted.addressed waits
    change ways event.session = some link at way
    rw [same, unborn] at way
    cases way

/-- A source takes what is first in its queue, and the tie to the sink is in concord with
what is left. -/
theorem concord_react (delivers : network.AllDeliver) (room : network.HasRoom)
    (found : network.nodes[source]? = some old) {event : SourceEvent} {rest : List SourceEvent}
    (queue : old.sourceQueue = event :: rest)
    (concurs : network.Concurs source sink dealings) {more : List (TransportEvent Parcel)}
    (plain : ∀ event ∈ more, event.reply? = none) :
    Concord
      ((event.react network.clock (Trace.sourceTurn { network } source old)).source.tie sink)
      (rest.filterMap SourceEvent.transport? ++ network.hub.mail ⟨source, .source⟩ ++ more)
      (network.shares? sink) dealings := by
  let turn := Trace.sourceTurn { network } source old
  have mail := sourceMail_of_queue found queue
  rw [Concurs, tie_of_node found, mail] at concurs
  have unused (session : SessionId)
      (dialled : (Transport.dial turn.line sink .sink).1 = .ok session) :
      network.shares? sink session = none ∧
        ∀ event ∈ rest.filterMap SourceEvent.transport? ++ network.hub.mail ⟨source, .source⟩,
          event.replyOn? session = none := by
    obtain ⟨unshared, silent⟩ := unused_of_dial delivers room dialled
    refine ⟨unshared, fun event listed => silent event ?_⟩
    rw [mail]
    exact List.mem_append_right _ listed
  have unheard {taken : Option (TransportEvent Parcel)}
      (silent : ∀ session, taken.bind (TransportEvent.replyOn? session) = none) :
      [] =
        ((turn.source.tie sink).channel.bind fun session =>
          taken.bind (TransportEvent.replyOn? session)).toList := by
    cases (turn.source.tie sink).channel with
    | none => rfl
    | some session => rw [Option.bind_some, silent]; rfl
  cases event with
  | call ticket wanted =>
      exact (turn.alters_call sink ticket wanted).concord none concurs
        (unheard fun _ => rfl) (fun _ _ => by simp) plain unused
  | tick =>
      have alters : Source.Turn.Alters sink turn [] (turn.tick network.clock) :=
        .of_same (turn.tie_tick sink network.clock)
      exact alters.concord none concurs (unheard fun _ => rfl) (fun _ _ => by simp) plain unused
  | transport event =>
      obtain ⟨ways, injected, routed, delivers⟩ := delivers ⟨event.session, source, sink⟩
      have charted := delivers.delivers.charted
      have first := held_of_sourceQueue found queue
      cases event with
      | opened session peer =>
          have alters : Source.Turn.Alters sink turn [] (turn.opened session peer) :=
            .of_same (turn.tie_opened sink session peer)
          exact alters.concord (some (.opened session peer)) concurs
            (unheard fun _ => rfl) (fun _ _ => by simp) plain unused
      | closed session =>
          have coherent : turn.source.registry.Coherent := by
            have kept := (charted.sources source).coherent
            rw [sources_of_node found] at kept
            exact kept
          have closed := turn.tie_closed sink coherent session
          change Concord ((turn.closed session).source.tie sink) _ _ _
          by_cases ours : (turn.source.tie sink).channel = some session
          · rw [closed, if_pos ours]
            exact .of_untied
          · rw [if_neg ours] at closed
            have alters : Source.Turn.Alters sink turn [] (turn.closed session) := .of_same closed
            refine alters.concord (some (.closed session)) concurs (unheard fun _ => rfl)
              ?_ plain unused
            rintro tested tied ⟨⟩
            exact ours tied
      | frame session parcel =>
          obtain ⟨link, way, suits⟩ := charted.first first
          obtain ⟨sequence, message, rfl⟩ :
              ∃ sequence message, parcel = .composed sequence message := by
            cases suits with
            | frame _ _ => exact ⟨_, _, rfl⟩
          have hearing :
              Source.Turn.Hearing (network.view ways) source ⟨session, source, sink⟩ injected routed
                session message (rest.filterMap SourceEvent.transport?) turn :=
            ⟨delivers.delivers, ⟨sequence, first⟩, rfl, sources_of_node found ways⟩
          rw [Source.Turn.Taking.react_frame]
          have alters := turn.alters_handle sink network.clock session message (by
            intro known token answers
            have within : message.isBetweenSources = false := by
              cases message with
              | relayedReply _ _ _ => rfl
              | _ => cases answers
            have tied := hearing.reached within known
            exact hearing.holds answers (delivers.opens found tied) rfl)
          rw [hearing.heard_eq sequence] at alters
          refine alters.concord (some (.frame session (.composed sequence message))) concurs rfl ?_
            plain unused
          rintro tested tied ⟨⟩

theorem concurs_serveSource (delivers : network.AllDeliver) (room : network.HasRoom)
    (concurs : network.Concurs source sink dealings) (device : DeviceId) :
    (network.serveSource device).Concurs source sink dealings := by
  cases next : network.nextOfSource? device with
  | none =>
      rw [serveSource_of_idle next]
      exact concurs
  | some event =>
      obtain ⟨node, rest, found, queue⟩ := exists_of_nextOfSource? next
      obtain ⟨_, _, _, delivered⟩ := delivers ⟨⟨0⟩, source, sink⟩
      let turn := event.react network.clock (Trace.sourceTurn { network } device node)
      have performs := serveSource_of_queue found queue
      have nodes :
          (network.serveSource device).nodes =
            network.nodes.insert device (sourceLeft node rest turn) :=
        congrArg Network.nodes performs
      have hub : (network.serveSource device).hub = turn.line.hub :=
        congrArg Network.hub performs
      have fills :=
        (Hub.fills_of_chatters delivered.delivers.charted.sound
          ((Trace.sourceTurn { network } device node).chatters_react network.clock event)).2
      obtain ⟨more, grown, plain⟩ := fills.mail_grows ⟨source, .source⟩
      have mail : turn.line.hub.mail ⟨source, .source⟩ =
        network.hub.mail ⟨source, .source⟩ ++ more := grown
      have shares (session : SessionId) :
          (network.serveSource device).shares? sink session = network.shares? sink session :=
        shares?_of_same_sink found nodes rfl sink session
      by_cases here : device = source
      · subst here
        have tied : (network.serveSource device).tie device sink = turn.source.tie sink := by
          rw [tie_of_insert nodes, if_pos rfl]
          rfl
        have held :
            (network.serveSource device).held ⟨device, .source⟩ =
              rest.filterMap SourceEvent.transport? := by
          rw [held_of_insert nodes, heldWith, if_pos rfl]
          rfl
        have react := concord_react delivers room found queue concurs plain
        rw [Concurs, tied, sourceMail, held, hub, mail, ← List.append_assoc, funext shares]
        exact react
      · have tie : (network.serveSource device).tie source sink = network.tie source sink := by
          rw [tie_of_insert nodes, if_neg here]
        apply concurs.of_grown tie more
        · rw [sourceMail, held_of_insert nodes, heldWith, if_neg fun same => here same.symm, hub,
            mail, ← List.append_assoc]
          rfl
        · exact fun session _ event listed => TransportEvent.replyOn?_of_plain (plain event listed)
        · exact fun session _ _ => ⟨shares session, rfl⟩

end Network

end InputSharing
