import InputSharing.Proofs.Network.Passing
import InputSharing.Proofs.Sink.Books

/-!
# Sinks keep the lanes to them running

While a sink reacts it sends only on channels that lead from it to sources.  The
events that it puts aside for a channel leave in the order in which they came,
before the sink gives up anything that it lends on the channel.
-/

namespace InputSharing.Sink

/-- The token under which an answer goes back. -/
def Via.token? : Via → Option RelayToken
  | direct => none
  | relayed token => some token

namespace Turn

open Hub (Port)

variable {κ : Type}

/-! ## Numbered frames -/

section Frames

variable (turn : Turn (Port Parcel) κ)

/-- The number of one frame is used up. -/
def counted : Turn (Port Parcel) κ :=
  turn.withRegistry { turn.sink.registry with counter := turn.sink.registry.counter.next.2 }

theorem post_of_gone {session : SessionId} (gone : turn.line.hub.links[session]? = none)
    (message : Message) : turn.post session message = turn.counted := by
  have refused :=
    (⟨turn.sink.registry, turn.line⟩ : Channels (Port Parcel)).send_of_gone gone message
  rw [post, refused]
  rfl

theorem post_of_link (sound : turn.line.hub.Sound) {session : SessionId} {link : Link}
    (linked : turn.line.hub.links[session]? = some link)
    (registered : link.otherEnd turn.line.here ∈ turn.line.hub.directory) (message : Message) :
    ∃ (sequence : UInt64) (hub : Hub Parcel),
      turn.post session message = { turn.counted with line := { turn.line with hub } } ∧
        Hub.Delivered (link.otherEnd turn.line.here)
          (.frame session (.composed sequence message)) turn.line.hub hub := by
  obtain ⟨sequence, hub, sent, delivered⟩ :=
    (⟨turn.sink.registry, turn.line⟩ : Channels (Port Parcel)).send_of_link sound linked
      registered message
  refine ⟨sequence, hub, ?_, delivered⟩
  rw [post, sent]
  rfl

end Frames

/-! ## Views of a reaction -/

/-- The sink of a node reacts, and a view shows where it stands. -/
structure Posed (base : View) (device : DeviceId) (view : View) (turn : Turn (Port Parcel) κ) :
    Prop where
  here_eq : turn.line.here = ⟨device, .sink⟩
  hub_eq : turn.line.hub = view.hub
  sink_eq : view.sinks device = turn.sink
  others_eq : ∀ {other}, other ≠ device → view.sinks other = base.sinks other
  sources_eq : view.sources = base.sources
  held_eq : view.held = base.held
  ways_eq : view.ways = base.ways
  directory_eq : view.hub.directory = base.hub.directory

/-- The view of a reaction delivers. -/
def Delivers (turn : Turn (Port Parcel) κ) (base : View) (device : DeviceId) (route : Route)
    (hand : List RelayToken) (injected : List (DeviceId × InputEvent))
    (routed : List InputEvent) : Prop :=
  ∃ view, Posed base device view turn ∧ view.Delivers route True hand injected routed

variable {base view : View} {device : DeviceId} {route : Route} {hand : List RelayToken}
  {injected : List (DeviceId × InputEvent)} {routed : List InputEvent}
  {turn : Turn (Port Parcel) κ}

namespace Posed

/-- A reaction begins. -/
theorem begins (line : turn.line = ⟨base.hub, ⟨device, .sink⟩⟩)
    (sink : base.sinks device = turn.sink) : Posed base device base turn where
  here_eq := by rw [line]
  hub_eq := by rw [line]
  sink_eq := sink
  others_eq := fun _ => rfl
  sources_eq := rfl
  held_eq := rfl
  ways_eq := rfl
  directory_eq := rfl

theorem withSink (posed : Posed base device view turn) (after : Turn (Port Parcel) κ)
    (line : after.line = turn.line) :
    Posed base device (view.withSink device after.sink) after where
  here_eq := by
    rw [line]
    exact posed.here_eq
  hub_eq := by
    rw [line]
    exact posed.hub_eq
  sink_eq := Function.update_self ..
  others_eq := by
    intro other different
    simpa [View.withSink, different] using posed.others_eq different
  sources_eq := posed.sources_eq
  held_eq := posed.held_eq
  ways_eq := posed.ways_eq
  directory_eq := posed.directory_eq

theorem withHub (posed : Posed base device view turn) {hub : Hub Parcel}
    (directory : hub.directory = view.hub.directory) :
    Posed base device (view.withHub hub) { turn with line := { turn.line with hub } } where
  here_eq := posed.here_eq
  hub_eq := rfl
  sink_eq := posed.sink_eq
  others_eq := posed.others_eq
  sources_eq := posed.sources_eq
  held_eq := posed.held_eq
  ways_eq := posed.ways_eq
  directory_eq := directory.trans posed.directory_eq

end Posed

namespace Delivers

/-! ## Changes of the sink itself -/

theorem charted (delivers : turn.Delivers base device route hand injected routed) :
    turn.sink.Charted base.ways device := by
  obtain ⟨view, posed, running⟩ := delivers
  rw [← posed.sink_eq, ← posed.ways_eq]
  exact running.charted.sinks device

theorem drop (delivers : turn.Delivers base device route hand injected routed)
    {fewer : List RelayToken} (sublist : fewer.Sublist hand) :
    turn.Delivers base device route fewer injected routed := by
  obtain ⟨view, posed, running⟩ := delivers
  exact ⟨view, posed, running.drop sublist⟩

/-- The sink keeps its channels and what it has put aside, and prepares nobody. -/
theorem of_same (delivers : turn.Delivers base device route hand injected routed)
    (after : Turn (Port Parcel) κ) (line : after.line = turn.line)
    (bySession : after.sink.registry.bySession = turn.sink.registry.bySession)
    (aside : after.sink.aside route.session = turn.sink.aside route.session)
    (switches : ∀ session ∈ after.sink.switches, session ∈ turn.sink.switches) :
    after.Delivers base device route hand injected routed := by
  have charted := delivers.charted
  obtain ⟨view, posed, running⟩ := delivers
  refine ⟨_, posed.withSink after line, running.withSink ?_ ?_ ?_⟩
  · intro session channel found
    rw [bySession] at found
    rw [posed.ways_eq]
    exact charted found
  · intro _ _
    rw [posed.sink_eq]
    exact aside
  · intro _ _
    rw [posed.sink_eq]
    exact switches route.session

/-! ## Sending -/

/-- The sink changes and sends a message on one of its channels. -/
theorem say (delivers : turn.Delivers base device route hand injected routed)
    (after : Turn (Port Parcel) κ) (line : after.line = turn.line)
    (registry : after.sink.registry = turn.sink.registry) {session : SessionId} {link : Link}
    (way : base.ways session = some link) (accepts : link.acceptor = ⟨device, .sink⟩)
    {message : Message} (within : message.isBetweenSources = false) {rest : List RelayToken}
    (fewer : rest.Sublist hand)
    (ours :
      session = route.session →
        hand = message.answered?.toList ++ rest ∧
          turn.sink.aside route.session = message.brought ++ after.sink.aside route.session ∧
          (message.brought ≠ [] → route.session ∈ turn.sink.switches) ∧
          (route.session ∈ after.sink.switches →
            route.session ∈ turn.sink.switches ∨ message.prepares = true))
    (elsewhere :
      session ≠ route.session →
        after.sink.aside route.session = turn.sink.aside route.session ∧
          (route.session ∈ after.sink.switches → route.session ∈ turn.sink.switches)) :
    (after.post session message).Delivers base device route rest injected routed := by
  have charted := delivers.charted
  obtain ⟨view, posed, running⟩ := delivers
  have keeps : after.counted.sink.Charted view.ways device := by
    rw [posed.ways_eq]
    intro tested channel found
    change after.sink.registry.bySession[tested]? = some channel at found
    rw [registry] at found
    exact charted found
  rw [← posed.ways_eq] at way
  have here_eq : after.line.here = ⟨device, .sink⟩ := by
    rw [line]
    exact posed.here_eq
  have hub_eq : after.line.hub = view.hub := by
    rw [line]
    exact posed.hub_eq
  have begun : Posed base device (view.withSink device after.counted.sink) after.counted :=
    posed.withSink after.counted line
  cases found : view.hub.links[session]? with
  | none =>
      rw [after.post_of_gone (by rw [hub_eq]; exact found)]
      refine ⟨_, begun, (running.drop fewer).withSink keeps ?_ ?_⟩
      · intro _ linked
        have other : session ≠ route.session := by
          rintro rfl
          exact Table.not_mem_of_getElem? found linked
        rw [posed.sink_eq]
        exact (elsewhere other).1
      · intro _ linked
        have other : session ≠ route.session := by
          rintro rfl
          exact Table.not_mem_of_getElem? found linked
        rw [posed.sink_eq]
        exact (elsewhere other).2
  | some other =>
      obtain rfl : other = link :=
        Option.some.inj ((running.charted.linked found).symm.trans way)
      have opener := running.charted.opener_role way
      have across : other.otherEnd ⟨device, .sink⟩ = other.opener := by
        rw [Link.otherEnd, if_neg]
        intro same
        rw [same] at opener
        cases opener
      obtain ⟨sequence, hub, posted, delivered⟩ :=
        after.post_of_link (by rw [hub_eq]; exact running.charted.sound)
          (by rw [hub_eq]; exact found)
          (by rw [here_eq, hub_eq, across]; exact (running.charted.registered way).1) message
      rw [here_eq, hub_eq, across] at delivered
      rw [posted]
      have posedAfter :
          Posed base device ((view.withHub hub).withSink device after.counted.sink)
            { after.counted with line := { after.line with hub } } :=
        begun.withHub delivered.directory_eq
      refine ⟨_, posedAfter, running.say way accepts within delivered ?_ keeps fewer ?_ ?_⟩
      · exact Table.mem_of_getElem? found
      · rw [posed.sink_eq]
        exact ours
      · rw [posed.sink_eq]
        exact elsewhere

/-- A message that brings no events and answers nothing under a token. -/
theorem post (delivers : turn.Delivers base device route hand injected routed)
    {session : SessionId} {link : Link} (way : base.ways session = some link)
    (accepts : link.acceptor = ⟨device, .sink⟩) {message : Message}
    (within : message.isBetweenSources = false) (nothing : message.brought = [])
    (plain : message.answered? = none) :
    (turn.post session message).Delivers base device route hand injected routed := by
  apply delivers.say turn rfl rfl way accepts within (List.Sublist.refl hand)
  · intro _
    rw [plain, nothing]
    exact ⟨rfl, rfl, fun brings => absurd rfl brings, Or.inl⟩
  · exact fun _ => ⟨rfl, id⟩

/-- The events that were put aside leave in one frame. -/
theorem flushSession (delivers : turn.Delivers base device route hand injected routed)
    {session : SessionId} {link : Link} (way : base.ways session = some link)
    (accepts : link.acceptor = ⟨device, .sink⟩) (switched : session ∈ turn.sink.switches) :
    (turn.flushSession session).Delivers base device route hand injected routed := by
  unfold Turn.flushSession
  split
  · exact delivers
  · exact delivers
  · next first rest waiting =>
    let emptied : Turn (Port Parcel) κ :=
      { turn with sink := { turn.sink with outbox := turn.sink.outbox.insert session [] } }
    apply delivers.say emptied rfl rfl way accepts rfl (List.Sublist.refl hand)
    · rintro rfl
      refine ⟨rfl, ?_, fun _ => switched, Or.inl⟩
      have left : emptied.sink.aside route.session = [] := by
        rw [aside, Std.ExtTreeMap.getElem?_insert_self]
        rfl
      rw [left, aside, waiting]
      exact (List.append_nil _).symm
    · intro other
      refine ⟨?_, id⟩
      rw [aside, aside, Table.getElem?_insert_eq, if_neg other]

end Delivers

end Turn

end InputSharing.Sink
