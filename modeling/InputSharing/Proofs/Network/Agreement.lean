import InputSharing.Proofs.Network.Arrivals
import InputSharing.Proofs.Network.SinkConcord

/-!
# Both ends agree

Whatever happens on a network, a source and a sink stay in concord.  So when nothing of
their channel waits for the source any more, what it believes agrees with what the sink
shares, but for what requests of the other kind have ended.
-/

namespace InputSharing

namespace Network

variable {network : Network} {source sink : DeviceId} {dealings : SessionId → List Dealing}

/-! ## Whatever happens -/

theorem Concurs.happen (concurs : network.Concurs source sink dealings)
    (delivers : network.AllDeliver) (room : network.HasRoom) (happening : Happening)
    (delivers' : (network.happen happening).AllDeliver) :
    network.Abides source sink dealings happening := by
  obtain ⟨_, _, _, delivered⟩ := delivers ⟨⟨0⟩, source, sink⟩
  have sound : network.hub.Sound := delivered.delivers.charted.sound
  have housed := delivered.housed
  cases happening with
  | sever session => exact abides (concurs.sever sound session) fun _ => rfl
  | move move =>
      cases move with
      | forward endpoint => exact abides (concurs.forward housed sound endpoint) fun _ => rfl
      | serve endpoint =>
          obtain ⟨device, role⟩ := endpoint
          cases role with
          | source => exact abides (concurs_serveSource delivers room concurs device) fun _ => rfl
          | sink => exact concurs.serveSink delivers delivers'
      | flush device => exact concurs.flush delivers device
      | _ => exact abides (concurs.quiet housed.running rfl) fun _ => rfl

end Network

/-! ## Minutes -/

namespace Minutes

variable {setups : List NodeSetup} {clock : UInt64} {minutes : Minutes}

theorem Reached.allDeliver (reached : Reached setups clock minutes) :
    minutes.network.AllDeliver := by
  intro route
  obtain ⟨ways, _, delivers⟩ := reached.chronicle.accords route
  exact ⟨ways, _, _, delivers⟩

/-- Whatever has happened, a source and a sink are in concord. -/
theorem Reached.concurs (reached : Reached setups clock minutes) (source sink : DeviceId) :
    minutes.network.Concurs source sink (minutes.dealings sink) := by
  induction reached with
  | start =>
      have untied : (setups.foldl Network.spawn { clock }).tie source sink = ⟨none, none⟩ := by
        cases found : (setups.foldl Network.spawn { clock }).nodes[source]? with
        | none => rw [Network.tie, found]; rfl
        | some node =>
            have unused := ((Network.Unused.empty clock).foldl_spawn setups).unused found
            rw [Network.tie_of_node found, unused.source_eq]
            ext1
            · exact Std.ExtTreeMap.getElem?_empty
            · exact Std.ExtTreeMap.getElem?_empty
      change (setups.foldl Network.spawn { clock }).Concurs source sink _
      rw [Network.Concurs, untied]
      exact .of_untied
  | undergo happening before room inductionHypothesis =>
      exact inductionHypothesis.happen before.allDeliver room happening
        (before.undergo happening room).allDeliver

/-- When nothing of its channel waits for a source any more, what it believes agrees with
what the sink shares on the channel. -/
theorem Reached.agrees (reached : Reached setups clock minutes) {source sink : DeviceId}
    {session : SessionId} {belief : Belief}
    (tied : minutes.network.tie source sink = ⟨some session, some belief⟩)
    (quiet : ∀ event ∈ minutes.network.stream ⟨source, .source⟩, event.session ≠ session) :
    ∃ shares, minutes.network.shares? sink session = some shares ∧
      (∀ handle, minutes.network.owner? sink handle = some session ↔ handle ∈ shares) ∧
      Agrees (minutes.dealings sink session) belief shares := by
  obtain ⟨_, _, _, delivered⟩ := reached.allDeliver ⟨session, source, sink⟩
  have housed := delivered.housed
  have silent : ∀ event ∈ minutes.network.sourceMail source, event.session ≠ session := by
    have same := Network.stream_eq housed.directory_iff housed.boxes ⟨source, .source⟩
    rw [same] at quiet
    exact quiet
  have concurs := reached.concurs source sink
  rw [Network.Concurs, tied] at concurs
  have matched := concurs.matched rfl fun gone => silent _ gone rfl
  rw [Tie.foreseen_of_silent _ fun event listed =>
    TransportEvent.replyOn?_of_ne (silent event listed)] at matched
  cases shared : minutes.network.shares? sink session with
  | none =>
      rw [shared] at matched
      exact matched.elim
  | some shares =>
      rw [shared] at matched
      exact ⟨shares, rfl, fun handle => housed.owner?_iff shared handle, matched⟩

/-- When all requests on a channel to start and to stop were by type, a source believes in
the classes that the sink shares on it; when all were by handles, it believes in the handles
that the session owns. -/
theorem ends_agree (reached : Reached setups clock minutes) {source sink : DeviceId}
    {session : SessionId} {belief : Belief}
    (tied : minutes.network.tie source sink = ⟨some session, some belief⟩)
    (quiet : ∀ event ∈ minutes.network.stream ⟨source, .source⟩, event.session ≠ session) :
    ∃ shares, minutes.network.shares? sink session = some shares ∧
      (∀ handle, minutes.network.owner? sink handle = some session ↔ handle ∈ shares) ∧
      ((∀ dealing ∈ minutes.dealings sink session, dealing.request.isByHandles = false) →
        belief.types = TypeMask.unionOf shares) ∧
      ((∀ dealing ∈ minutes.dealings sink session, dealing.request.isByType = false) →
        ∀ handle,
          handle ∈ belief.handles ↔ minutes.network.owner? sink handle = some session) := by
  obtain ⟨shares, shared, owners, agrees⟩ := reached.agrees tied quiet
  refine ⟨shares, shared, owners, agrees.byType, ?_⟩
  intro all handle
  rw [agrees.byHandles all, owners]
  exact Shares.mem_ofKeys

/-- A tablet with a keyboard, and a desk. -/
def tabletAndDesk : List NodeSetup :=
  [{ device := ⟨"tablet"⟩
     devices := [⟨⟨"keyboard"⟩, "Keyboard", TypeMask.keyboard⟩] },
    { device := ⟨"desk"⟩ }]

/-- The desk makes a request of the tablet, and takes the answer. -/
def asking (request : Request × Ticket) : List Happening :=
  let takes (device : DeviceId) (role : Role) : List Happening :=
    [.move (.forward ⟨device, role⟩), .move (.serve ⟨device, role⟩)]
  [.move (.call ⟨"desk"⟩ request.2 (.direct ⟨"tablet"⟩ request.1)),
      .move (.serve ⟨⟨"desk"⟩, .source⟩)] ++
    takes ⟨"tablet"⟩ .sink ++ takes ⟨"tablet"⟩ .sink ++ takes ⟨"desk"⟩ .source

/-- The desk has made these requests one after the other. -/
def asked (requests : List Request) : Minutes :=
  (requests.zipIdx.flatMap asking).foldl Minutes.undergo
    { chronicle := { network := tabletAndDesk.foldl Network.spawn { clock := 0 } } }

theorem reached_asked {requests : List Request}
    (room :
      Chronicle.RoomFor { network := tabletAndDesk.foldl Network.spawn { clock := 0 } }
        (requests.zipIdx.flatMap asking)) :
    Reached tabletAndDesk 0 (asked requests) :=
  Reached.start.undergoAll room

/-- The handle of the keyboard. -/
def keyboard : HandleSet := HandleSet.ofList [⟨"keyboard"⟩]

theorem ends_agree_asked :
    let byType := asked [.prepare, .startByType TypeMask.keyboard]
    let byHandles := asked [.prepare, .startByHandles keyboard]
    (byType.network.tie ⟨"desk"⟩ ⟨"tablet"⟩ = ⟨some ⟨1⟩, some ⟨TypeMask.keyboard, ∅⟩⟩ ∧
        byType.network.owner? ⟨"tablet"⟩ ⟨"keyboard"⟩ = some ⟨1⟩ ∧
        ∃ shares, byType.network.shares? ⟨"tablet"⟩ ⟨1⟩ = some shares ∧
          TypeMask.keyboard = TypeMask.unionOf shares) ∧
      byHandles.network.tie ⟨"desk"⟩ ⟨"tablet"⟩ = ⟨some ⟨1⟩, some ⟨∅, keyboard⟩⟩ ∧
        ∀ handle,
          handle ∈ keyboard ↔ byHandles.network.owner? ⟨"tablet"⟩ handle = some ⟨1⟩ := by
  intro byType byHandles
  have typed : byType.network.tie ⟨"desk"⟩ ⟨"tablet"⟩ =
      ⟨some ⟨1⟩, some ⟨TypeMask.keyboard, ∅⟩⟩ := by
    decide +kernel
  have handled : byHandles.network.tie ⟨"desk"⟩ ⟨"tablet"⟩ = ⟨some ⟨1⟩, some ⟨∅, keyboard⟩⟩ := by
    decide +kernel
  have owned : byType.network.owner? ⟨"tablet"⟩ ⟨"keyboard"⟩ = some ⟨1⟩ := by decide +kernel
  obtain ⟨shares, shared, _, types, _⟩ :=
    ends_agree (reached_asked (by decide +kernel)) typed (by decide +kernel)
  obtain ⟨_, _, _, _, handles⟩ :=
    ends_agree (reached_asked (by decide +kernel)) handled (by decide +kernel)
  exact ⟨⟨typed, owned, shares, shared, types (by decide +kernel)⟩, handled,
    handles (by decide +kernel)⟩

/-- A handle in which a source believes is owned by the session, unless a request to stop by
type has ended this; and a class in which it believes is shared on the session, unless a
request to stop by handles has ended this.  Without such requests a source does not believe
that a sink shares when it does not. -/
theorem beliefs_hold (reached : Reached setups clock minutes) {source sink : DeviceId}
    {session : SessionId} {belief : Belief}
    (tied : minutes.network.tie source sink = ⟨some session, some belief⟩)
    (quiet : ∀ event ∈ minutes.network.stream ⟨source, .source⟩, event.session ≠ session) :
    ∃ shares, minutes.network.shares? sink session = some shares ∧
      (∀ handle, minutes.network.owner? sink handle = some session ↔ handle ∈ shares) ∧
      (∀ handle ∈ belief.handles,
        minutes.network.owner? sink handle = some session ∨
          EndedBy Request.isStopByType (fun shares => handle ∈ shares)
            (minutes.dealings sink session)) ∧
      (∀ place ∈ belief.types,
        place ∈ TypeMask.unionOf shares ∨
          EndedBy Request.isStopByHandles (fun shares => place ∈ TypeMask.unionOf shares)
            (minutes.dealings sink session)) ∧
      ((∀ dealing ∈ minutes.dealings sink session, dealing.request.isStopByType = false) →
        ∀ handle ∈ belief.handles, minutes.network.owner? sink handle = some session) ∧
      ((∀ dealing ∈ minutes.dealings sink session, dealing.request.isStopByHandles = false) →
        (TypeMask.unionOf shares).contains belief.types = true) ∧
      ((∀ dealing ∈ minutes.dealings sink session,
          dealing.request.isStopByType = false ∧ dealing.request.isStopByHandles = false) →
        shares = ∅ → belief.isSharing = false) := by
  obtain ⟨shares, shared, owners, agrees⟩ := reached.agrees tied quiet
  refine ⟨shares, shared, owners, ?_, agrees.types, ?_, ?_, ?_⟩
  · intro handle member
    rw [owners]
    exact agrees.handles handle member
  · intro unstopped handle member
    rw [owners]
    exact agrees.mem_of_handles unstopped member
  · intro unstopped
    rw [TypeMask.contains_iff]
    exact fun place member => agrees.mem_of_types unstopped member
  · intro unstopped nothing
    rw [nothing] at agrees
    exact agrees.isSharing_of_empty (fun dealing listed => (unstopped dealing listed).1)
      fun dealing listed => (unstopped dealing listed).2

theorem beliefs_hold_asked :
    let lending := asked [.prepare, .startByHandles keyboard, .startByType TypeMask.keyboard]
    let ended := asked [.prepare, .startByHandles keyboard, .stopByType TypeMask.keyboard]
    (lending.network.tie ⟨"desk"⟩ ⟨"tablet"⟩ = ⟨some ⟨1⟩, some ⟨TypeMask.keyboard, keyboard⟩⟩ ∧
        ∀ handle ∈ keyboard, lending.network.owner? ⟨"tablet"⟩ handle = some ⟨1⟩) ∧
      ended.network.tie ⟨"desk"⟩ ⟨"tablet"⟩ = ⟨some ⟨1⟩, some ⟨∅, keyboard⟩⟩ ∧
        EndedBy Request.isStopByType (fun shares => ⟨"keyboard"⟩ ∈ shares)
          (ended.dealings ⟨"tablet"⟩ ⟨1⟩) := by
  intro lending ended
  have lent : lending.network.tie ⟨"desk"⟩ ⟨"tablet"⟩ =
      ⟨some ⟨1⟩, some ⟨TypeMask.keyboard, keyboard⟩⟩ := by
    decide +kernel
  have believed : ended.network.tie ⟨"desk"⟩ ⟨"tablet"⟩ = ⟨some ⟨1⟩, some ⟨∅, keyboard⟩⟩ := by
    decide +kernel
  have lost : ended.network.owner? ⟨"tablet"⟩ ⟨"keyboard"⟩ ≠ some ⟨1⟩ := by decide +kernel
  obtain ⟨_, _, _, _, _, owned, _⟩ :=
    beliefs_hold (reached_asked (by decide +kernel)) lent (by decide +kernel)
  obtain ⟨_, _, _, handles, _⟩ :=
    beliefs_hold (reached_asked (by decide +kernel)) believed (by decide +kernel)
  exact ⟨⟨lent, owned (by decide +kernel)⟩, believed,
    (handles ⟨"keyboard"⟩ (by decide +kernel)).resolve_left lost⟩

/-- What was started in one way and stopped in the other is still believed in. -/
theorem belief_outlives_sharing :
    let byType := asked [.prepare, .startByHandles keyboard, .stopByType TypeMask.keyboard]
    let byHandles := asked [.prepare, .startByType TypeMask.keyboard, .stopByHandles keyboard]
    (Reached tabletAndDesk 0 byType ∧ byType.network.IsIdle ∧
        byType.network.tie ⟨"desk"⟩ ⟨"tablet"⟩ = ⟨some ⟨1⟩, some ⟨∅, keyboard⟩⟩ ∧
        byType.network.shares? ⟨"tablet"⟩ ⟨1⟩ = some ∅ ∧
        byType.network.owner? ⟨"tablet"⟩ ⟨"keyboard"⟩ = none ∧
        Belief.isSharing ⟨∅, keyboard⟩ = true) ∧
      Reached tabletAndDesk 0 byHandles ∧ byHandles.network.IsIdle ∧
        byHandles.network.tie ⟨"desk"⟩ ⟨"tablet"⟩ = ⟨some ⟨1⟩, some ⟨TypeMask.keyboard, ∅⟩⟩ ∧
        byHandles.network.shares? ⟨"tablet"⟩ ⟨1⟩ = some ∅ ∧
        Belief.isSharing ⟨TypeMask.keyboard, ∅⟩ = true := by
  refine ⟨⟨reached_asked ?_, ?_, ?_, ?_, ?_, ?_⟩, reached_asked ?_, ?_, ?_, ?_, ?_⟩
  all_goals decide +kernel

end Minutes

end InputSharing
