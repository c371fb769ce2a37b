import InputSharing.Proofs.Network.Answered
import InputSharing.Proofs.Network.Delivery

/-!
# Captured events arrive

A source injects from the batches of a channel what the sink at the other end has
routed to this channel: in the same order, each event once, and none left out
before the last one.  When nothing waits any more and the source still knows the
channel, it has injected everything.  And what it injects comes from devices that
were shared on the channel when they were captured.
-/

namespace InputSharing

/-! ## Networks on which nothing has happened -/

namespace Network

variable {setups : List NodeSetup} {clock : UInt64}

theorem housed_foldl_spawn : (setups.foldl Network.spawn { clock }).Housed := by
  have unused := (Unused.empty clock).foldl_spawn setups
  have origin {device : DeviceId} {node : Node}
      (found : (setups.foldl Network.spawn { clock }).nodes[device]? = some node) :
      ∃ setup ∈ setups,
        node.sink = Sink.start setup.device setup.allowList setup.batchMax ∧
          node.injector = {} := by
    apply (found_foldl_spawn found).resolve_left
    intro before
    change (∅ : Table DeviceId Node)[device]? = some node at before
    rw [Std.ExtTreeMap.getElem?_empty] at before
    cases before
  refine ⟨unused.directory_iff, ?_, ?_, ?_, ?_⟩
  · intro device node found
    exact (unused.unused found).box_eq
  · intro device node found
    exact (unused.unused found).running
  · intro device node found
    obtain ⟨setup, _, _, injector⟩ := origin found
    rw [injector]
  · intro device node found
    obtain ⟨setup, _, sink, _⟩ := origin found
    rw [sink]
    exact Sink.Books.start setup.device setup.allowList setup.batchMax

/-- Nobody has had a channel yet. -/
theorem Unused.charted {network : Network} (unused : network.Unused) :
    (network.view fun _ => none).Charted := by
  have noToken {ν : Type} {token : RelayToken} {value : ν}
      (found : (∅ : Table RelayToken ν)[token]? = some value) : False := by
    rw [Std.ExtTreeMap.getElem?_empty] at found
    cases found
  refine ⟨unused.blank.sound, ?_, nofun, nofun, nofun, ?_, ?_, ?_⟩
  · intro session link found
    change network.hub.links[session]? = some link at found
    rw [unused.blank.links_eq, Std.ExtTreeMap.getElem?_empty] at found
    cases found
  · intro endpoint event member
    change event ∈ network.held endpoint ++ network.hub.mail endpoint at member
    rw [unused.held_eq, unused.blank.mail_eq] at member
    cases member
  · intro device
    have idle : (network.view fun _ => none).sources device = { device } := by
      cases found : network.nodes[device]? with
      | none => simp [view, found]
      | some node =>
          rw [sources_of_node found]
          exact (unused.unused found).source_eq
    rw [idle]
    refine ⟨?_, Registry.coherent_empty, fun found => (noToken found).elim, ?_⟩
    · intro session channel found
      change (∅ : Table SessionId Channel)[session]? = some channel at found
      rw [Std.ExtTreeMap.getElem?_empty] at found
      cases found
    · intro token listed
      exact absurd listed Std.ExtTreeMap.not_mem_empty
  · intro device
    have idle : ((network.view fun _ => none).sinks device).registry = {} := by
      cases found : network.nodes[device]? with
      | none =>
          simp only [view, found]
          rfl
      | some node =>
          rw [sinks_of_node found]
          exact (unused.unused found).registry_eq
    intro session channel found
    rw [idle] at found
    change (∅ : Table SessionId Channel)[session]? = some channel at found
    rw [Std.ExtTreeMap.getElem?_empty] at found
    cases found

theorem Delivers.start (route : Route) :
    (setups.foldl Network.spawn { clock }).Delivers route (fun _ => none) [] [] where
  housed := housed_foldl_spawn
  delivers :=
    { charted := ((Unused.empty clock).foldl_spawn setups).charted
      unborn := fun _ => ⟨rfl, rfl⟩
      ordered := nofun
      runs := nofun }

/-! ## Networks on which nothing waits -/

/-- Where nothing waits any more and the source knows its channel, it has injected all
that was routed to it, but for what the sink has put aside. -/
theorem Delivers.complete {network : Network} {route : Route} {ways : SessionId → Option Link}
    {injected : List (DeviceId × InputEvent)} {routed : List InputEvent}
    (delivers : network.Delivers route ways injected routed)
    (way : ways route.session = some route.link) (idle : network.IsIdle)
    (isOpen : network.IsOpen route.source route.session) :
    injected ++ (network.aside route.sink route.session).map (Prod.mk route.sink) =
      routed.map (Prod.mk route.sink) := by
  have silent (endpoint : Endpoint) : (network.view ways).mail endpoint = [] := by
    change network.held endpoint ++ network.hub.mail endpoint = []
    rw [idle.held_eq, idle.mail_eq]
    rfl
  have aside :
      ((network.view ways).sinks route.sink).aside route.session =
        network.aside route.sink route.session := by
    rw [Network.aside]
    split
    · next there =>
      simp only [view, there]
      rfl
    · next node there => rw [sinks_of_node there, Sink.aside]
  obtain ⟨node, found, known⟩ := isOpen
  have running := delivers.delivers.runs way trivial (by rw [sources_of_node found]; exact known)
  rw [← aside]
  apply running.complete
  · change ((network.view ways).mail _).filterMap _ = []
    rw [silent]
    rfl
  · change _ ∉ (network.view ways).mail _
    rw [silent]
    exact List.not_mem_nil

end Network

/-! ## Captures -/

/-- Whoever is given an event holds its handle. -/
theorem Sink.Turn.mem_shared_of_channel {τ κ : Type} [Transport τ] {turn : Turn τ κ}
    (books : Books turn.sink) {event : InputEvent} {session : SessionId}
    (given : (turn.capture event).channel? = some session) :
    event.handle ∈ (turn.capture event).shared := by
  have owned : turn.sink.owners[event.handle]? = some session := by
    rw [Capture.channel?] at given
    split at given
    · exact given
    · cases given
  obtain ⟨switch, prepared, member⟩ := (books.owner_iff event.handle session).1 owned
  change event.handle ∈ ((turn.sink.owners[event.handle]?.bind turn.sink.handlesOf).getD ∅)
  rw [owned, Option.bind_some, handlesOf, prepared]
  simpa [HandleSet.ofKeys] using member

theorem Network.Housed.mem_shared {network : Network} (housed : network.Housed)
    {device : DeviceId} {happening : Happening} {capture : Capture}
    (seen : network.capture? device happening = some capture) {session : SessionId}
    (given : capture.channel? = some session) : capture.event.handle ∈ capture.shared := by
  unfold capture? at seen
  split at seen
  · split at seen
    · split at seen
      · next node event found _ =>
        obtain rfl := Option.some.inj seen
        exact Sink.Turn.mem_shared_of_channel (housed.books found) given
      · cases seen
    · cases seen
  · cases seen

/-! ## Chronicles -/

namespace Chronicle

variable {setups : List NodeSetup} {clock : UInt64} {chronicle : Chronicle}

/-- What a chronicle tells of a route is what has become of its network. -/
def Accords (chronicle : Chronicle) (route : Route) : Prop :=
  ∃ ways, Widens chronicle.links ways ∧
    chronicle.network.Delivers route ways (chronicle.injections route.source route.session)
      (chronicle.routed route.sink route.session)

theorem Accords.undergo {route : Route} (accords : chronicle.Accords route)
    (room : chronicle.network.HasRoom) (happening : Happening) :
    (chronicle.undergo happening).Accords route := by
  obtain ⟨ways, widens, delivers⟩ := accords
  obtain ⟨later, grown, follows⟩ := delivers.follows_happen room happening
  refine ⟨later, ?_, ?_⟩
  · intro session link told
    rcases Option.or_eq_some_iff.1 told with linked | ⟨_, before⟩
    · exact follows.delivers.charted.linked linked
    · exact grown (widens before)
  · have routed :
        (chronicle.undergo happening).routed route.sink route.session =
          chronicle.routed route.sink route.session ++
            chronicle.network.routes route happening := by
      change ((chronicle.captures route.sink ++ _).filter _).map _ = _
      rw [List.filter_append, List.map_append]
      rfl
    rw [routed]
    exact follows

/-- Whatever has happened, nothing is lost on any route. -/
theorem Reached.accords (reached : Reached setups clock chronicle) (route : Route) :
    chronicle.Accords route := by
  induction reached with
  | start => exact ⟨_, .refl _, .start route⟩
  | undergo happening _ room inductionHypothesis => exact inductionHypothesis.undergo room happening

/-- A sink routes an event only to who holds its handle. -/
theorem Reached.mem_shared (reached : Reached setups clock chronicle) {device : DeviceId}
    {capture : Capture} (listed : capture ∈ chronicle.captures device) {session : SessionId}
    (given : capture.channel? = some session) : capture.event.handle ∈ capture.shared := by
  induction reached with
  | start => cases listed
  | undergo happening before _ inductionHypothesis =>
      obtain ⟨_, _, delivers⟩ := before.accords ⟨session, device, device⟩
      rcases List.mem_append.1 listed with earlier | now
      · exact inductionHypothesis earlier
      · exact delivers.housed.mem_shared (Option.mem_toList.1 now) given

/-- What a source injects from the batches of a channel that it has opened to a sink
begins what the sink has routed to this channel.  When no mailbox and no queue holds
anything and the source still knows the channel, only what the sink has put aside is
missing, and when the sinks have put nothing aside, nothing is.  Whatever is injected was
captured while the device was shared on the channel. -/
theorem events_arrive (reached : Reached setups clock chronicle) {session : SessionId}
    {source sink : DeviceId}
    (opened : chronicle.links session = some ⟨⟨source, .source⟩, ⟨sink, .sink⟩⟩) :
    chronicle.injections source session <+: (chronicle.routed sink session).map (Prod.mk sink) ∧
      (chronicle.network.IsOpen source session →
        (chronicle.network.IsIdle →
          chronicle.injections source session ++
              (chronicle.network.aside sink session).map (Prod.mk sink) =
            (chronicle.routed sink session).map (Prod.mk sink)) ∧
          (chronicle.network.IsDrained →
            chronicle.injections source session =
              (chronicle.routed sink session).map (Prod.mk sink))) ∧
      ∀ entry ∈ chronicle.injections source session,
        ∃ capture ∈ chronicle.captures sink,
          capture.channel? = some session ∧ entry = (sink, capture.event) ∧
            capture.event.handle ∈ capture.shared := by
  let route : Route := ⟨session, source, sink⟩
  obtain ⟨ways, widens, delivers⟩ := reached.accords route
  have way : ways route.session = some route.link := widens opened
  have ordered := delivers.delivers.ordered way
  refine ⟨ordered, ?_, ?_⟩
  · intro isOpen
    refine ⟨fun idle => delivers.complete way idle isOpen, ?_⟩
    intro drained
    have whole := delivers.complete way drained.idle isOpen
    rw [drained.aside_eq] at whole
    exact (List.append_nil _).symm.trans whole
  · intro entry injected
    obtain ⟨event, routed, rfl⟩ := List.mem_map.1 (ordered.subset injected)
    obtain ⟨capture, captured, rfl⟩ := List.mem_map.1 routed
    obtain ⟨listed, given⟩ := List.mem_filter.1 captured
    have channel : capture.channel? = some session := by simpa using given
    exact ⟨capture, listed, channel, rfl, reached.mem_shared listed channel⟩

/-- A desk, and a laptop with a mouse and a keyboard. -/
def pair : List NodeSetup :=
  [{ device := ⟨"desk"⟩ },
    { device := ⟨"laptop"⟩
      devices :=
        [⟨⟨"mouse"⟩, "Mouse", TypeMask.mouse⟩, ⟨⟨"keyboard"⟩, "Keyboard", TypeMask.keyboard⟩] }]

/-- A key of the keyboard goes down or up. -/
def stroke (value : Int32) (whenUs : UInt64) : InputEvent :=
  { handle := ⟨"keyboard"⟩, eventClass := EventClass.key, code := 30, value, whenUs }

/-- The desk borrows the keyboard of the laptop, on which a key is struck while the
mouse moves. -/
def borrowing : List Happening :=
  let arrives (device : DeviceId) (role : Role) : List Happening :=
    [.move (.forward ⟨device, role⟩), .move (.serve ⟨device, role⟩)]
  let moved : InputEvent :=
    { handle := ⟨"mouse"⟩, eventClass := EventClass.relative, code := 0, value := 3, whenUs := 6 }
  [.move (.call ⟨"desk"⟩ 0 (.direct ⟨"laptop"⟩ .prepare)), .move (.serve ⟨⟨"desk"⟩, .source⟩)] ++
    arrives ⟨"laptop"⟩ .sink ++ arrives ⟨"laptop"⟩ .sink ++ arrives ⟨"desk"⟩ .source ++
    [.move (.call ⟨"desk"⟩ 1 (.direct ⟨"laptop"⟩ (.startByType TypeMask.keyboard))),
      .move (.serve ⟨⟨"desk"⟩, .source⟩)] ++
    arrives ⟨"laptop"⟩ .sink ++ arrives ⟨"desk"⟩ .source ++
    [.move (.emit ⟨"laptop"⟩ [stroke 1 5, moved, stroke 0 7]),
      .move (.forwardCaptured ⟨"laptop"⟩), .move (.serve ⟨⟨"laptop"⟩, .sink⟩),
      .move (.serve ⟨⟨"laptop"⟩, .sink⟩), .move (.serve ⟨⟨"laptop"⟩, .sink⟩),
      .move (.flush ⟨"laptop"⟩)] ++
    arrives ⟨"desk"⟩ .source

def borrowed : Chronicle :=
  borrowing.foldl Chronicle.undergo { network := pair.foldl Network.spawn { clock := 0 } }

theorem reached_borrowed : Reached pair 0 borrowed := by
  have room : RoomFor { network := pair.foldl Network.spawn { clock := 0 } } borrowing := by
    decide +kernel
  exact Reached.start.undergoAll room

theorem events_arrive_borrowed :
    borrowed.links ⟨1⟩ = some ⟨⟨⟨"desk"⟩, .source⟩, ⟨⟨"laptop"⟩, .sink⟩⟩ ∧
      borrowed.network.IsDrained ∧ borrowed.network.IsOpen ⟨"desk"⟩ ⟨1⟩ ∧
      (borrowed.captures ⟨"laptop"⟩).length = 3 ∧
      borrowed.injections ⟨"desk"⟩ ⟨1⟩ = [(⟨"laptop"⟩, stroke 1 5), (⟨"laptop"⟩, stroke 0 7)] ∧
      borrowed.injections ⟨"desk"⟩ ⟨1⟩ =
        (borrowed.routed ⟨"laptop"⟩ ⟨1⟩).map (Prod.mk ⟨"laptop"⟩) ∧
      ∀ entry ∈ borrowed.injections ⟨"desk"⟩ ⟨1⟩,
        ∃ capture ∈ borrowed.captures ⟨"laptop"⟩,
          capture.channel? = some ⟨1⟩ ∧ entry = (⟨"laptop"⟩, capture.event) ∧
            capture.event.handle ∈ capture.shared := by
  have opened : borrowed.links ⟨1⟩ = some ⟨⟨⟨"desk"⟩, .source⟩, ⟨⟨"laptop"⟩, .sink⟩⟩ := by
    decide +kernel
  have drained : borrowed.network.IsDrained := by decide +kernel
  have isOpen : borrowed.network.IsOpen ⟨"desk"⟩ ⟨1⟩ := by decide +kernel
  have captures : (borrowed.captures ⟨"laptop"⟩).length = 3 := by decide +kernel
  have injections :
      borrowed.injections ⟨"desk"⟩ ⟨1⟩ =
        [(⟨"laptop"⟩, stroke 1 5), (⟨"laptop"⟩, stroke 0 7)] := by
    decide +kernel
  obtain ⟨_, complete, shared⟩ := events_arrive reached_borrowed opened
  exact ⟨opened, drained, isOpen, captures, injections, (complete isOpen).2 drained, shared⟩

end Chronicle

end InputSharing
