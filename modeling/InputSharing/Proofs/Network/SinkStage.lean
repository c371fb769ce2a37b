import InputSharing.Proofs.Network.Stage
import InputSharing.Proofs.Sink.Parts

/-!
# Sinks on the stage

A sink opens no channels and closes none.  What it sends besides its answers
stands for nothing, so it may send as much of it as it likes.
-/

namespace InputSharing

/-- A message that stands for nothing and may be sent anywhere. -/
structure Message.IsReport (message : Message) : Prop where
  noAsk : ∀ session owner, message.ask? session owner = none
  noAnswer : ∀ here session owner, message.answer? here session owner = none
  fits : ∀ links here sender session, message.Fits links here sender session

namespace Sink.Turn

open Hub (Port)

variable {κ : Type}

/-- The sink of a node reacts, and a scene shows where it stands. -/
structure Staged (setting : Setting) (device : DeviceId) (scene : Scene)
    (turn : Turn (Port Parcel) κ) : Prop where
  shows : scene.Shows setting turn.line.hub
  here_eq : turn.line.here = ⟨device, .sink⟩
  sender_eq : setting.cause.sender = ⟨device, .sink⟩
  knows_iff : ∀ session, scene.sinks device session ↔ session ∈ turn.sink.registry.bySession
  others_eq : ∀ {other}, other ≠ device → scene.sinks other = setting.base.sinks other
  links_eq : scene.links = setting.base.links
  sources_eq : scene.sources = setting.base.sources
  registered_eq : scene.registered = setting.base.registered

namespace Staged

variable {setting : Setting} {device : DeviceId} {scene : Scene} {turn : Turn (Port Parcel) κ}
  {session : SessionId} {message : Message}

/-- A reaction that has nothing to do with channels. -/
theorem of_same (staged : Staged setting device scene turn) {after : Turn (Port Parcel) κ}
    (line : after.line = turn.line)
    (known : after.sink.registry.bySession = turn.sink.registry.bySession) :
    Staged setting device scene after where
  shows := by
    rw [line]
    exact staged.shows
  here_eq := by
    rw [line]
    exact staged.here_eq
  sender_eq := staged.sender_eq
  knows_iff := by
    rw [known]
    exact staged.knows_iff
  others_eq := staged.others_eq
  links_eq := staged.links_eq
  sources_eq := staged.sources_eq
  registered_eq := staged.registered_eq

theorem put (staged : Staged setting device scene turn) {after : Turn (Port Parcel) κ}
    {endpoint : Endpoint} {event : TransportEvent Parcel}
    (delivered : Hub.Delivered endpoint event turn.line.hub after.line.hub)
    (here : after.line.here = turn.line.here)
    (known : after.sink.registry.bySession = turn.sink.registry.bySession)
    (owner : Option Ticket) :
    Staged setting device (scene.put endpoint ⟨event, owner, setting.cause⟩) after where
  shows := staged.shows.put delivered owner
  here_eq := here.trans staged.here_eq
  sender_eq := staged.sender_eq
  knows_iff := by
    rw [known]
    exact staged.knows_iff
  others_eq := staged.others_eq
  links_eq := staged.links_eq
  sources_eq := staged.sources_eq
  registered_eq := staged.registered_eq

theorem line_post (turn : Turn (Port Parcel) κ) (session : SessionId) (message : Message) :
    (turn.post session message).line =
      { turn.line with
        hub :=
          (turn.line.hub.transmit turn.line.here session
            (.composed turn.sink.registry.counter.next.1 message)).2 } :=
  Channels.line_send ⟨turn.sink.registry, turn.line⟩ session message

theorem bySession_post (turn : Turn (Port Parcel) κ) (session : SessionId) (message : Message) :
    (turn.post session message).sink.registry.bySession = turn.sink.registry.bySession := by
  obtain ⟨counter, line, same⟩ := sent_post turn session message
  rw [same]

/-- What is sent on a channel that is gone is lost. -/
theorem post_gone (staged : Staged setting device scene turn)
    (gone : scene.links session = none) (message : Message) :
    Staged setting device scene (turn.post session message) := by
  have unlinked := (staged.shows.links_eq session).trans gone
  refine staged.of_same ?_ (bySession_post turn session message)
  rw [line_post, Hub.transmit_of_gone turn.line.here _ unlinked]

/-- What is sent on a link comes to wait at its other end. -/
theorem post_linked (staged : Staged setting device scene turn) (wired : scene.Wired)
    {link : Link} (linked : scene.links session = some link) (message : Message)
    (owner : Option Ticket) :
    ∃ sequence,
      Staged setting device
        (scene.put (link.otherEnd ⟨device, .sink⟩)
          ⟨.frame session (.composed sequence message), owner, setting.cause⟩)
        (turn.post session message) := by
  have found := (staged.shows.links_eq session).trans linked
  have registered : link.otherEnd ⟨device, .sink⟩ ∈ turn.line.hub.directory :=
    (staged.shows.registered_iff _).2 (wired.otherEnd_registered linked _)
  let sequence := turn.sink.registry.counter.next.1
  obtain ⟨hub, transmitted, delivered⟩ :=
    Hub.transmit_of_link (⟨device, .sink⟩ : Endpoint) staged.shows.sound
      (.composed sequence message) found registered
  have line : (turn.post session message).line = { turn.line with hub } := by
    rw [line_post, staged.here_eq, transmitted]
  have arrived :
      Hub.Delivered (link.otherEnd ⟨device, .sink⟩) (.frame session (.composed sequence message))
        turn.line.hub (turn.post session message).line.hub := by
    rw [line]
    exact delivered
  refine ⟨sequence, staged.put arrived ?_ (bySession_post turn session message) owner⟩
  rw [line]

end Staged

/-- Some scene shows where the sink stands, but for what is in hand. -/
def Stands (setting : Setting) (device : DeviceId) (hand : List Burden)
    (turn : Turn (Port Parcel) κ) : Prop :=
  ∃ scene, Staged setting device scene turn ∧ scene.Consistent none hand

namespace Stands

variable {setting : Setting} {device : DeviceId} {hand : List Burden}
  {turn : Turn (Port Parcel) κ}

theorem of_same (stands : Stands setting device hand turn) {after : Turn (Port Parcel) κ}
    (line : after.line = turn.line)
    (known : after.sink.registry.bySession = turn.sink.registry.bySession) :
    Stands setting device hand after := by
  obtain ⟨scene, staged, consistent⟩ := stands
  exact ⟨scene, staged.of_same line known, consistent⟩

theorem listen (stands : Stands setting device hand turn) :
    Stands setting device hand turn.listen :=
  stands.of_same rfl rfl

/-! ## Reports -/

/-- A message that stands for nothing can be sent at any time. -/
theorem post (stands : Stands setting device hand turn) (session : SessionId)
    {message : Message} (report : message.IsReport) :
    Stands setting device hand (turn.post session message) := by
  obtain ⟨scene, staged, wired, orderly, accounted⟩ := stands
  cases linked : scene.links session with
  | none => exact ⟨scene, staged.post_gone linked message, wired, orderly, accounted⟩
  | some link =>
      obtain ⟨sequence, posted⟩ := staged.post_linked wired linked message setting.cause.call
      refine ⟨_, posted, wired.put_frame (wired.links_numbered linked),
        orderly.put ⟨?_, Or.inl rfl⟩,
        accounted.put_idle (report.noAsk _ _) (report.noAnswer _ _ _)⟩
      intro tested parcel frame
      cases frame
      exact ⟨sequence, message, rfl, report.fits _ _ _ _⟩

theorem flushSession (stands : Stands setting device hand turn) (session : SessionId) :
    Stands setting device hand (turn.flushSession session) := by
  rw [flushSession.eq_def]
  split
  · exact stands
  · exact stands
  · apply post
    · exact stands.of_same rfl rfl
    · exact ⟨fun _ _ => rfl, fun _ _ _ => rfl, fun _ _ _ _ => trivial⟩

theorem flush (stands : Stands setting device hand turn) :
    Stands setting device hand turn.flush := by
  rw [Turn.flush]
  generalize turn.sink.outbox.keys = sessions
  induction sessions generalizing turn with
  | nil =>
      exact stands
  | cons first rest inductionHypothesis =>
      exact inductionHypothesis (stands.flushSession first)

theorem captured (stands : Stands setting device hand turn) (event : InputEvent) :
    Stands setting device hand (turn.captured event).2 := by
  rcases turn.captured_cases event with stays | ⟨session, _, goes⟩
  · rw [stays]
    exact stands
  · have collected : Stands setting device hand (turn.collect session event) :=
      stands.of_same rfl rfl
    rw [goes]
    dsimp only
    split
    · exact collected.flushSession session
    · exact collected

/-! ## Ownership -/

variable [Collector κ]

theorem reportHeldKeys (stands : Stands setting device hand turn) (session : SessionId)
    (handles : HandleSet) :
    Stands setting device hand (turn.reportHeldKeys session handles) := by
  rw [reportHeldKeys.eq_def]
  split
  · exact stands
  · apply stands.post
    exact ⟨fun _ _ => rfl, fun _ _ _ => rfl, fun _ _ _ _ => trivial⟩
  · apply stands.post
    exact ⟨fun _ _ => rfl, fun _ _ _ => rfl, fun _ _ _ _ => trivial⟩

theorem stopIfIdle (stands : Stands setting device hand turn) :
    Stands setting device hand turn.stopIfIdle := by
  rw [stopIfIdle.eq_def]
  split
  · exact stands.of_same rfl rfl
  · exact stands

theorem grant (stands : Stands setting device hand turn) (session : SessionId)
    (candidates : Table HandleId TypeMask) :
    Stands setting device hand (turn.grant session candidates).2 := by
  obtain ⟨capturing, collector, granted⟩ := turn.grant_cases session candidates
  let begun : Turn (Port Parcel) κ :=
    { turn with sink := { turn.sink with capturing }, collector }
  have still : Stands setting device hand begun := stands.of_same rfl rfl
  obtain refused | ⟨switch, _, given⟩ := granted
  · rw [refused]
    exact still
  · rw [given]
    exact still.of_same rfl rfl

theorem release (stands : Stands setting device hand turn) (session : SessionId)
    (requested : HandleSet) (reportKeys : Bool) :
    Stands setting device hand (turn.release session requested reportKeys).2 := by
  obtain untouched | ⟨switch, prepared, something⟩ := turn.release_cases session requested
  · rw [untouched]
    exact stands
  · rw [release_of_owned prepared something]
    let released := releasable switch requested
    have lowered : Stands setting device hand (turn.lower session switch released) :=
      stands.of_same rfl rfl
    have dismissed :
        Stands setting device hand
          ((turn.lower session switch released).dismiss session released reportKeys) := by
      unfold dismiss
      split
      · exact (lowered.flushSession session).reportHeldKeys session released
      · exact lowered
    apply stopIfIdle
    exact dismissed.of_same rfl rfl

end Stands

end Sink.Turn

end InputSharing
