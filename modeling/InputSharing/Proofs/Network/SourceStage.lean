import InputSharing.Proofs.Network.Stage
import InputSharing.Proofs.Source.Tickets

/-!
# Sources on the stage

What the parts of the reaction of a source do to the scene.
-/

namespace InputSharing

namespace Source.Turn

open Hub (Port)

/-- The source of a node reacts, and a scene shows where it stands. -/
structure Staged (setting : Setting) (device : DeviceId) (scene : Scene)
    (turn : Turn (Port Parcel)) : Prop where
  shows : scene.Shows setting turn.line.hub
  here_eq : turn.line.here = ⟨device, .source⟩
  sender_eq : setting.cause.sender = ⟨device, .source⟩
  device_eq : turn.source.device = device
  standing_eq : scene.sources device = turn.source.standing
  others_eq : ∀ {other}, other ≠ device → scene.sources other = setting.base.sources other
  sinks_eq : scene.sinks = setting.base.sinks
  registered_eq : scene.registered = setting.base.registered
  credited : ∀ completion ∈ turn.completions, setting.Credits completion

namespace Staged

variable {setting : Setting} {device : DeviceId} {scene : Scene} {turn : Turn (Port Parcel)}

/-! ## Changes of the source itself -/

/-- A reaction that changes neither the channels nor what is waited for. -/
theorem of_same (staged : Staged setting device scene turn) {after : Turn (Port Parcel)}
    (line : after.line = turn.line) (named : after.source.device = turn.source.device)
    (standing : after.source.standing = turn.source.standing)
    (completions : after.completions = turn.completions) : Staged setting device scene after where
  shows := by
    rw [line]
    exact staged.shows
  here_eq := by
    rw [line]
    exact staged.here_eq
  sender_eq := staged.sender_eq
  device_eq := named.trans staged.device_eq
  standing_eq := staged.standing_eq.trans standing.symm
  others_eq := staged.others_eq
  sinks_eq := staged.sinks_eq
  registered_eq := staged.registered_eq
  credited := by
    rw [completions]
    exact staged.credited

/-- A reaction that changes what the source waits for, and ends calls. -/
theorem withSource (staged : Staged setting device scene turn) (after : Turn (Port Parcel))
    (line : after.line = turn.line) (named : after.source.device = turn.source.device)
    {ended : List (Completion Grant)} (completions : after.completions = turn.completions ++ ended)
    (credited : ∀ completion ∈ ended, setting.Credits completion) :
    Staged setting device (scene.withSource device after.source.standing) after where
  shows := by
    rw [line]
    exact staged.shows.withSource device _
  here_eq := by
    rw [line]
    exact staged.here_eq
  sender_eq := staged.sender_eq
  device_eq := named.trans staged.device_eq
  standing_eq := Scene.sources_withSource_self
  others_eq := by
    intro other different
    rw [Scene.sources_withSource_of_ne different]
    exact staged.others_eq different
  sinks_eq := staged.sinks_eq
  registered_eq := staged.registered_eq
  credited := by
    intro completion listed
    rw [completions] at listed
    rcases List.mem_append.1 listed with earlier | last
    · exact staged.credited completion earlier
    · exact credited completion last

theorem withOwner (staged : Staged setting device scene turn) (token : RelayToken)
    (ticket : Option Ticket) :
    Staged setting device (scene.withOwner device token ticket) turn where
  shows := staged.shows.withOwner device token ticket
  here_eq := staged.here_eq
  sender_eq := staged.sender_eq
  device_eq := staged.device_eq
  standing_eq := staged.standing_eq
  others_eq := staged.others_eq
  sinks_eq := staged.sinks_eq
  registered_eq := staged.registered_eq
  credited := staged.credited

/-- A letter comes to wait, and nothing of the source changes but its frame counter. -/
theorem put (staged : Staged setting device scene turn) {after : Turn (Port Parcel)}
    {endpoint : Endpoint} {event : TransportEvent Parcel}
    (delivered : Hub.Delivered endpoint event turn.line.hub after.line.hub)
    (here : after.line.here = turn.line.here)
    (named : after.source.device = turn.source.device)
    (standing : after.source.standing = turn.source.standing)
    (completions : after.completions = turn.completions) (owner : Option Ticket) :
    Staged setting device (scene.put endpoint ⟨event, owner, setting.cause⟩) after where
  shows := staged.shows.put delivered owner
  here_eq := here.trans staged.here_eq
  sender_eq := staged.sender_eq
  device_eq := named.trans staged.device_eq
  standing_eq := staged.standing_eq.trans standing.symm
  others_eq := staged.others_eq
  sinks_eq := staged.sinks_eq
  registered_eq := staged.registered_eq
  credited := by
    rw [completions]
    exact staged.credited

/-! ## Sending -/

/-- What is sent on a link comes to wait at its other end. -/
theorem send (staged : Staged setting device scene turn) (wired : scene.Wired)
    {session : SessionId} {link : Link} (linked : scene.links session = some link)
    (message : Message) (owner : Option Ticket) :
    ∃ sequence,
      (turn.send session message).1 = .ok () ∧
        Staged setting device
          (scene.put (link.otherEnd ⟨device, .source⟩)
            ⟨.frame session (.composed sequence message), owner, setting.cause⟩)
          (turn.send session message).2 := by
  have found := (staged.shows.links_eq session).trans linked
  have registered : link.otherEnd ⟨device, .source⟩ ∈ turn.line.hub.directory :=
    (staged.shows.registered_iff _).2 (wired.otherEnd_registered linked _)
  let sequence := turn.source.registry.counter.next.1
  obtain ⟨hub, transmitted, delivered⟩ :=
    Hub.transmit_of_link (⟨device, .source⟩ : Endpoint) staged.shows.sound
      (.composed sequence message) found registered
  have line :
      Transport.transmit turn.line session (.composed sequence message) =
        (.ok (), { turn.line with hub }) := by
    rw [← staged.here_eq] at transmitted
    rw [Hub.transmit_port, transmitted]
  let after : Turn (Port Parcel) :=
    turn.withChannels
      { registry := { turn.source.registry with counter := turn.source.registry.counter.next.2 }
        line := { turn.line with hub } }
  have sent : turn.send session message = (.ok (), after) := by
    rw [Turn.send, Channels.send]
    dsimp only [channels]
    rw [line]
  have arrived :
      Hub.Delivered (link.otherEnd ⟨device, .source⟩)
        (.frame session (.composed sequence message)) turn.line.hub after.line.hub :=
    delivered
  refine ⟨sequence, ?_, ?_⟩
  · rw [sent]
  · rw [sent]
    exact staged.put arrived rfl rfl rfl rfl owner

/-! ## Connecting -/

theorem connect_known (staged : Staged setting device scene turn) {peer : DeviceId} {role : Role}
    {session : SessionId}
    (way : (scene.sources device).byPeer[(⟨peer, role⟩ : Endpoint)]? = some session) :
    turn.connect peer role = (.ok session, turn) := by
  rw [staged.standing_eq] at way
  rw [connect, turn.channels.connect_of_known way]
  rfl

theorem connect_unregistered (staged : Staged setting device scene turn) {peer : DeviceId}
    {role : Role}
    (unreached : (scene.sources device).byPeer[(⟨peer, role⟩ : Endpoint)]? = none)
    (unregistered : ¬scene.registered peer) :
    ∃ error, turn.connect peer role = (.error error, turn) := by
  rw [staged.standing_eq] at unreached
  have absent : (⟨peer, role⟩ : Endpoint) ∉ turn.line.hub.directory := by
    intro registered
    exact unregistered ((staged.shows.registered_iff _).1 registered)
  have line :
      Transport.dial turn.line peer role = (.error (.unknownPeer peer), turn.line) := by
    rw [Hub.dial_port, Hub.dial_of_unknown turn.line.here absent]
  refine ⟨.channelOpenFailed (TransportError.unknownPeer peer).message, ?_⟩
  rw [connect, turn.channels.connect_of_refused unreached line]
  rfl

theorem connect_new (staged : Staged setting device scene turn) {peer : DeviceId} {role : Role}
    (unreached : (scene.sources device).byPeer[(⟨peer, role⟩ : Endpoint)]? = none)
    (registered : scene.registered peer) :
    ∃ after,
      turn.connect peer role = (.ok scene.next, after) ∧
        Staged setting device (scene.dial device ⟨peer, role⟩ setting.cause) after := by
  obtain ⟨hub, dialled, shows⟩ := staged.shows.dial device role registered
  rw [staged.standing_eq] at unreached
  have line :
      Transport.dial turn.line peer role = (.ok scene.next, { turn.line with hub }) := by
    rw [← staged.here_eq] at dialled
    rw [Hub.dial_port, dialled]
  refine ⟨turn.withChannels
    { registry :=
        turn.source.registry.enter
          { peer, remoteRole := role, session := scene.next, outbound := true }
      line := { turn.line with hub } }, ?_, ?_⟩
  · rw [connect, turn.channels.connect_of_dialled unreached line]
    rfl
  · refine ⟨shows, staged.here_eq, staged.sender_eq, staged.device_eq, ?_, ?_, staged.sinks_eq,
      staged.registered_eq, staged.credited⟩
    · rw [Scene.sources_dial_self, staged.standing_eq]
      rfl
    · intro other different
      rw [Scene.sources_dial_of_ne different]
      exact staged.others_eq different

/-! ## Calls that wait -/

theorem withWaiting (staged : Staged setting device scene turn)
    (waiting : List (Call × Ticket)) (ended : List (Completion Grant))
    (credited : ∀ completion ∈ ended, setting.Credits completion) :
    Staged setting device
      (scene.withSource device { scene.sources device with waiting })
      ((turn.withWaiting waiting).report ended) := by
  rw [staged.standing_eq]
  exact staged.withSource ((turn.withWaiting waiting).report ended) rfl rfl rfl credited

/-- A call comes to wait that did not wait before. -/
theorem await (staged : Staged setting device scene turn) {call : Call} (ticket : Ticket)
    (new : turn.source.pending.contains call = false) :
    Staged setting device
      (scene.withSource device ((scene.sources device).await (call, ticket)))
      (turn.await ticket call) := by
  have inserted :
      turn.source.pending.insert call ticket =
        ((none : Option (Completion Grant)),
          ⟨turn.source.pending.waiting ++ [(call, ticket)]⟩) := by
    rw [Pending.insert, new]
    rfl
  have changed :
      turn.await ticket call =
        (turn.withWaiting (turn.source.pending.waiting ++ [(call, ticket)])).report [] := by
    rw [Turn.await, inserted]
    rfl
  have waiting :=
    staged.withWaiting (turn.source.pending.waiting ++ [(call, ticket)]) [] (by simp)
  rw [changed, Standing.await, staged.standing_eq]
  rw [staged.standing_eq] at waiting
  exact waiting

/-- A call ends for which the answer has come. -/
theorem complete (staged : Staged setting device scene turn) {call : Call} {ticket : Ticket}
    {outcome : Outcome} (distinct : ((scene.sources device).waiting.map Prod.fst).Nodup)
    (listed : (call, ticket) ∈ (scene.sources device).waiting)
    (credited : setting.Credits ⟨ticket, outcome⟩) :
    Staged setting device (scene.withSource device ((scene.sources device).settle call))
      (turn.complete call outcome) := by
  rw [staged.standing_eq] at distinct listed
  have found : turn.source.pending.waiting.lookup call = some ticket := by
    cases found : turn.source.pending.waiting.lookup call with
    | none =>
        have absent := Pending.not_mem_keys_of_lookup found
        exact absurd (List.mem_map.2 ⟨_, listed, rfl⟩) absent
    | some other =>
        rw [Pending.eq_of_key distinct listed (Pending.mem_of_lookup found)]
  have changed :
      turn.complete call outcome =
        (turn.withWaiting (turn.source.pending.waiting.filter fun entry => entry.1 ≠ call)).report
          [⟨ticket, outcome⟩] := by
    rw [Turn.complete, Pending.complete, found]
    rfl
  have settled :=
    staged.withWaiting (turn.source.pending.waiting.filter fun entry => entry.1 ≠ call)
      [⟨ticket, outcome⟩] (by simpa using credited)
  rw [changed, Standing.settle, staged.standing_eq]
  rw [staged.standing_eq] at settled
  exact settled

end Staged

end Source.Turn

end InputSharing
