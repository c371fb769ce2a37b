import InputSharing.Hub
import InputSharing.Proofs.Registry
import Mathlib.Logic.Function.Basic

/-!
# What the hub carries

A hub is `Sound` when every registered endpoint has a mailbox of its own to
which somebody attends.  Then nothing is lost on the way: what is sent on a link
waits at its other end, behind what waits there already.
-/

namespace InputSharing

/-- The session that an event is about. -/
def TransportEvent.session {φ : Type} : TransportEvent φ → SessionId
  | opened session _ => session
  | frame session _ => session
  | closed session => session

/-- The endpoint is one of the two ends of a link. -/
def Link.Ends (link : Link) (endpoint : Endpoint) : Prop :=
  link.opener = endpoint ∨ link.acceptor = endpoint

theorem Link.ends_otherEnd (link : Link) (here : Endpoint) : link.Ends (link.otherEnd here) := by
  rw [otherEnd]
  split
  · exact Or.inr rfl
  · exact Or.inl rfl

namespace Hub

variable {φ : Type}

/-- The events that wait on the hub for an endpoint. -/
def mail (hub : Hub φ) (endpoint : Endpoint) : List (TransportEvent φ) :=
  match hub.directory[endpoint]? with
  | none => []
  | some box => hub.waiting box

structure Sound (hub : Hub φ) : Prop where
  attended :
    ∀ {endpoint : Endpoint} {box : Nat}, hub.directory[endpoint]? = some box →
      ∃ mailbox, hub.mailboxes[box]? = some mailbox ∧ mailbox.attended = true
  separate :
    ∀ {first second : Endpoint} {box : Nat}, hub.directory[first]? = some box →
      hub.directory[second]? = some box → first = second

/-- All that has changed is that one more event waits for an endpoint. -/
structure Delivered (endpoint : Endpoint) (event : TransportEvent φ) (before after : Hub φ) :
    Prop where
  sound : after.Sound
  directory_eq : after.directory = before.directory
  links_eq : after.links = before.links
  lastSession_eq : after.lastSession = before.lastSession
  mail_eq : after.mail = Function.update before.mail endpoint (before.mail endpoint ++ [event])

/-! ## Mailboxes -/

theorem waiting_of_mailbox {hub : Hub φ} {box : Nat} {mailbox : Mailbox φ}
    (found : hub.mailboxes[box]? = some mailbox) : hub.waiting box = mailbox.events := by
  rw [waiting, found]
  rfl

theorem mail_of_box {hub : Hub φ} {endpoint : Endpoint} {box : Nat}
    (found : hub.directory[endpoint]? = some box) : hub.mail endpoint = hub.waiting box := by
  rw [mail, found]

theorem mail_of_unregistered {hub : Hub φ} {endpoint : Endpoint}
    (unknown : hub.directory[endpoint]? = none) : hub.mail endpoint = [] := by
  rw [mail, unknown]

/-- Another mailbox than that of one endpoint has not changed, so nobody else has
more or less mail. -/
theorem mail_eq_of_apart {before after : Hub φ} (sound : before.Sound) {endpoint other : Endpoint}
    {box : Nat} (directory : after.directory = before.directory)
    (atBox : before.directory[endpoint]? = some box) (different : other ≠ endpoint)
    (apart : ∀ {place : Nat}, box ≠ place → after.waiting place = before.waiting place) :
    after.mail other = before.mail other := by
  cases atPlace : before.directory[other]? with
  | none =>
      rw [mail_of_unregistered atPlace, mail_of_unregistered (by rw [directory, atPlace])]
  | some place =>
      have moved : box ≠ place := by
        intro equal
        subst equal
        exact different (sound.separate atPlace atBox)
      rw [mail_of_box atPlace, mail_of_box (by rw [directory, atPlace]), apart moved]

theorem waiting_modify (hub : Hub φ) (box tested : Nat) (change : Mailbox φ → Mailbox φ) :
    ({ hub with mailboxes := hub.mailboxes.modify box change } : Hub φ).waiting tested =
      if box = tested then
        ((hub.mailboxes[tested]?.map change).map Mailbox.events).getD []
      else hub.waiting tested := by
  rw [waiting, waiting]
  by_cases same : box = tested
  · simp [same]
  · simp [same]

section Delivering

variable {hub : Hub φ} {endpoint : Endpoint} (event : TransportEvent φ)

/-- What is sent to a registered endpoint comes to wait for it. -/
theorem deliver_of_registered (sound : hub.Sound) (registered : endpoint ∈ hub.directory) :
    ∃ after, hub.deliver endpoint event = (true, after) ∧
      Delivered endpoint event hub after := by
  obtain ⟨box, atBox⟩ := (Table.mem_iff_exists _ _).1 registered
  obtain ⟨mailbox, found, attended⟩ := sound.attended atBox
  have inside : box < hub.mailboxes.length := (List.getElem?_eq_some_iff.1 found).1
  let mailboxes := hub.mailboxes.set box { mailbox with events := mailbox.events ++ [event] }
  let after : Hub φ := { hub with mailboxes, rings := hub.rings ++ [box] }
  have mailboxAfter (tested : Nat) :
      after.mailboxes[tested]? =
        if box = tested then some { mailbox with events := mailbox.events ++ [event] }
        else hub.mailboxes[tested]? := by
    change (hub.mailboxes.set box _)[tested]? = _
    rw [List.getElem?_set]
    by_cases same : box = tested
    · rw [if_pos same, if_pos same, if_pos inside]
    · rw [if_neg same, if_neg same]
  refine ⟨after, ?_, ?_, rfl, rfl, rfl, ?_⟩
  · rw [deliver, atBox]
    dsimp only
    rw [found]
    dsimp only
    rw [if_pos attended]
  · refine ⟨?_, fun atFirst atSecond => sound.separate atFirst atSecond⟩
    intro tested place atPlace
    obtain ⟨other, there, kept⟩ := sound.attended atPlace
    by_cases same : box = place
    · refine ⟨_, (mailboxAfter place).trans (if_pos same), attended⟩
    · exact ⟨other, ((mailboxAfter place).trans (if_neg same)).trans there, kept⟩
  · funext tested
    by_cases same : tested = endpoint
    · subst same
      have atBoxAfter : after.directory[tested]? = some box := atBox
      rw [Function.update_self, mail_of_box atBox, mail_of_box atBoxAfter,
        waiting_of_mailbox found, waiting_of_mailbox ((mailboxAfter box).trans (if_pos rfl))]
    · rw [Function.update_of_ne same]
      have directory : after.directory = hub.directory := rfl
      apply mail_eq_of_apart sound directory atBox same
      intro place apart
      rw [waiting, waiting, mailboxAfter, if_neg apart]

end Delivering

/-! ## Registering -/

section Registering

variable {hub : Hub φ} {endpoint : Endpoint}

/-- Who is registered last gets a new mailbox, the others keep theirs. -/
theorem box_of_register {tested : Endpoint} {box : Nat}
    (found : (hub.register endpoint).2.directory[tested]? = some box) :
    (endpoint = tested ∧ box = hub.mailboxes.length) ∨ hub.directory[tested]? = some box := by
  change (hub.directory.insert endpoint hub.mailboxes.length)[tested]? = _ at found
  rw [Table.getElem?_insert_eq] at found
  by_cases same : endpoint = tested
  · rw [if_pos same] at found
    exact Or.inl ⟨same, (Option.some.inj found).symm⟩
  · rw [if_neg same] at found
    exact Or.inr found

/-- Mailboxes stay separate since a new mailbox is behind all others. -/
theorem separate_register
    (inside : ∀ {tested : Endpoint} {box : Nat},
      hub.directory[tested]? = some box → box < hub.mailboxes.length)
    (separate : ∀ {first second : Endpoint} {box : Nat}, hub.directory[first]? = some box →
      hub.directory[second]? = some box → first = second)
    {first second : Endpoint} {box : Nat}
    (atFirst : (hub.register endpoint).2.directory[first]? = some box)
    (atSecond : (hub.register endpoint).2.directory[second]? = some box) : first = second := by
  rcases box_of_register atFirst with ⟨isFirst, new⟩ | oldFirst
  · rcases box_of_register atSecond with ⟨isSecond, _⟩ | oldSecond
    · exact isFirst.symm.trans isSecond
    · have before := inside oldSecond
      omega
  · rcases box_of_register atSecond with ⟨_, new⟩ | oldSecond
    · have before := inside oldFirst
      omega
    · exact separate oldFirst oldSecond

theorem Sound.inside (sound : hub.Sound) {tested : Endpoint} {box : Nat}
    (found : hub.directory[tested]? = some box) : box < hub.mailboxes.length := by
  obtain ⟨mailbox, there, _⟩ := sound.attended found
  exact (List.getElem?_eq_some_iff.1 there).1

theorem Sound.register (sound : hub.Sound) (endpoint : Endpoint) :
    (hub.register endpoint).2.Sound where
  attended := by
    intro tested box found
    rcases box_of_register found with ⟨_, new⟩ | old
    · exact ⟨{}, by rw [new]; exact List.getElem?_concat_length, rfl⟩
    · obtain ⟨mailbox, there, attended⟩ := sound.attended old
      exact ⟨mailbox, (List.getElem?_append_left (sound.inside old)).trans there, attended⟩
  separate := separate_register sound.inside sound.separate

/-- Nothing waits for an endpoint that has just been registered, and nobody else has more
or less mail. -/
theorem mail_register (sound : hub.Sound) (new : endpoint ∉ hub.directory) :
    (hub.register endpoint).2.mail = hub.mail := by
  funext tested
  have directory :
      (hub.register endpoint).2.directory[tested]? =
        if endpoint = tested then some hub.mailboxes.length else hub.directory[tested]? :=
    Table.getElem?_insert_eq hub.directory endpoint tested _
  by_cases same : endpoint = tested
  · subst same
    have unknown : hub.directory[endpoint]? = none :=
      Std.ExtTreeMap.getElem?_eq_none new
    rw [mail_of_unregistered unknown, mail_of_box (directory.trans (if_pos rfl)),
      waiting_of_mailbox List.getElem?_concat_length]
  · rw [if_neg same] at directory
    cases atBox : hub.directory[tested]? with
    | none => rw [mail_of_unregistered atBox, mail_of_unregistered (directory.trans atBox)]
    | some box =>
        obtain ⟨mailbox, there, _⟩ := sound.attended atBox
        have kept : (hub.register endpoint).2.mailboxes[box]? = some mailbox :=
          (List.getElem?_append_left (sound.inside atBox)).trans there
        rw [mail_of_box atBox, mail_of_box (directory.trans atBox), waiting_of_mailbox there,
          waiting_of_mailbox kept]

end Registering

/-- Nothing has happened on a hub but that endpoints have been registered. -/
structure Blank (hub : Hub φ) : Prop where
  links_eq : hub.links = ∅
  lastSession_eq : hub.lastSession = ⟨0⟩
  fresh : ∀ mailbox ∈ hub.mailboxes, mailbox = {}
  inside :
    ∀ {endpoint : Endpoint} {box : Nat}, hub.directory[endpoint]? = some box →
      box < hub.mailboxes.length
  separate :
    ∀ {first second : Endpoint} {box : Nat}, hub.directory[first]? = some box →
      hub.directory[second]? = some box → first = second

namespace Blank

variable {hub : Hub φ}

theorem empty : ({} : Hub φ).Blank := by
  refine ⟨rfl, rfl, nofun, ?_, ?_⟩
  · intro endpoint box found
    rw [Std.ExtTreeMap.getElem?_empty] at found
    cases found
  · intro first second box found
    rw [Std.ExtTreeMap.getElem?_empty] at found
    cases found

theorem mailbox (blank : hub.Blank) {endpoint : Endpoint} {box : Nat}
    (found : hub.directory[endpoint]? = some box) : hub.mailboxes[box]? = some {} := by
  have inside := blank.inside found
  rw [List.getElem?_eq_getElem inside]
  exact congrArg some (blank.fresh _ (List.getElem_mem inside))

theorem sound (blank : hub.Blank) : hub.Sound where
  attended := fun found => ⟨{}, blank.mailbox found, rfl⟩
  separate := blank.separate

theorem mail_eq (blank : hub.Blank) (endpoint : Endpoint) : hub.mail endpoint = [] := by
  rw [mail]
  split
  · rfl
  · next found => rw [waiting_of_mailbox (blank.mailbox found)]

theorem register (blank : hub.Blank) (endpoint : Endpoint) : (hub.register endpoint).2.Blank := by
  have longer : (hub.register endpoint).2.mailboxes.length = hub.mailboxes.length + 1 :=
    List.length_append
  refine ⟨blank.links_eq, blank.lastSession_eq, ?_, ?_,
    separate_register blank.inside blank.separate⟩
  · intro mailbox listed
    rcases List.mem_append.1 listed with old | last
    · exact blank.fresh mailbox old
    · exact List.mem_singleton.1 last
  · intro tested box found
    rw [longer]
    rcases box_of_register found with ⟨_, new⟩ | old
    · omega
    · have inside := blank.inside old
      omega

end Blank

/-! ## Taking -/

/-- All that has changed is that the first event for an endpoint has been taken. -/
structure Taken (endpoint : Endpoint) (before after : Hub φ) : Prop where
  sound : after.Sound
  directory_eq : after.directory = before.directory
  links_eq : after.links = before.links
  lastSession_eq : after.lastSession = before.lastSession
  mail_eq : after.mail = Function.update before.mail endpoint (before.mail endpoint).tail

theorem takeFirst_of_mail {hub : Hub φ} {endpoint : Endpoint} {box : Nat}
    {event : TransportEvent φ} {rest : List (TransportEvent φ)} (sound : hub.Sound)
    (atBox : hub.directory[endpoint]? = some box) (waiting : hub.mail endpoint = event :: rest) :
    ∃ after, hub.takeFirst box = (some event, after) ∧ Taken endpoint hub after := by
  let change (mailbox : Mailbox φ) : Mailbox φ := { mailbox with events := rest }
  let after : Hub φ := { hub with mailboxes := hub.mailboxes.modify box change }
  have atHead : hub.waiting box = event :: rest := (mail_of_box atBox).symm.trans waiting
  refine ⟨after, ?_, ?_, rfl, rfl, rfl, ?_⟩
  · rw [takeFirst, atHead]
  · refine ⟨?_, fun atFirst atSecond => sound.separate atFirst atSecond⟩
    intro tested place atPlace
    obtain ⟨mailbox, there, attended⟩ := sound.attended atPlace
    have changed :
        after.mailboxes[place]? = some (if box = place then change mailbox else mailbox) := by
      change (hub.mailboxes.modify box change)[place]? = _
      rw [List.getElem?_modify, there]
      rfl
    refine ⟨_, changed, ?_⟩
    split
    · exact attended
    · exact attended
  · funext tested
    by_cases same : tested = endpoint
    · subst same
      obtain ⟨mailbox, there, _⟩ := sound.attended atBox
      have atBoxAfter : after.directory[tested]? = some box := atBox
      rw [Function.update_self, waiting, mail_of_box atBoxAfter, waiting_modify, if_pos rfl, there]
      rfl
    · rw [Function.update_of_ne same]
      have directory : after.directory = hub.directory := rfl
      apply mail_eq_of_apart sound directory atBox same
      intro place apart
      rw [waiting_modify, if_neg apart]

/-! ## Links -/

section Links

variable {hub : Hub φ} (here : Endpoint) {session : SessionId}

theorem transmit_of_link (sound : hub.Sound) {link : Link} (frame : φ)
    (linked : hub.links[session]? = some link)
    (registered : link.otherEnd here ∈ hub.directory) :
    ∃ after, hub.transmit here session frame = (.ok (), after) ∧
      Delivered (link.otherEnd here) (.frame session frame) hub after := by
  obtain ⟨after, delivered, change⟩ :=
    deliver_of_registered (.frame session frame) sound registered
  refine ⟨after, ?_, change⟩
  rw [transmit, linked]
  dsimp only
  rw [delivered]

/-- What is sent on a link that is gone is refused. -/
theorem transmit_of_gone (frame : φ) (gone : hub.links[session]? = none) :
    hub.transmit here session frame = (.error (.sessionClosed session), hub) := by
  rw [transmit, gone]

theorem dial_of_unknown {peer : DeviceId} {role : Role}
    (unknown : (⟨peer, role⟩ : Endpoint) ∉ hub.directory) :
    hub.dial here peer role = (.error (.unknownPeer peer), hub) := by
  have absent : hub.directory.contains (⟨peer, role⟩ : Endpoint) = false :=
    Bool.eq_false_iff.2 fun present => unknown (Std.ExtTreeMap.mem_iff_contains.2 present)
  rw [dial]
  dsimp only
  rw [absent]
  rfl

/-- A registered endpoint is reached by a new link, and hears of it. -/
theorem dial_of_registered (sound : hub.Sound) {peer : DeviceId} {role : Role}
    (registered : (⟨peer, role⟩ : Endpoint) ∈ hub.directory) :
    ∃ after, hub.dial here peer role = (.ok ⟨hub.lastSession.number + 1⟩, after) ∧
      Delivered ⟨peer, role⟩ (.opened ⟨hub.lastSession.number + 1⟩ here.device)
        { hub with
          lastSession := ⟨hub.lastSession.number + 1⟩
          links := hub.links.insert ⟨hub.lastSession.number + 1⟩ ⟨here, ⟨peer, role⟩⟩ } after := by
  let linked : Hub φ :=
    { hub with
      lastSession := ⟨hub.lastSession.number + 1⟩
      links := hub.links.insert ⟨hub.lastSession.number + 1⟩ ⟨here, ⟨peer, role⟩⟩ }
  have soundLinked : linked.Sound := ⟨sound.attended, sound.separate⟩
  obtain ⟨after, delivered, change⟩ :=
    deliver_of_registered (.opened ⟨hub.lastSession.number + 1⟩ here.device) soundLinked registered
  refine ⟨after, ?_, change⟩
  have present : hub.directory.contains (⟨peer, role⟩ : Endpoint) = true :=
    Std.ExtTreeMap.contains_iff_mem.2 registered
  rw [dial]
  dsimp only
  rw [present, if_pos rfl]
  change (_, (linked.deliver ⟨peer, role⟩ (.opened _ here.device)).2) = _
  rw [delivered]

theorem hangUp_of_link (sound : hub.Sound) {link : Link}
    (linked : hub.links[session]? = some link)
    (registered : link.otherEnd here ∈ hub.directory) :
    Delivered (link.otherEnd here) (.closed session)
      { hub with links := hub.links.erase session } (hub.hangUp here session) := by
  let unlinked : Hub φ := { hub with links := hub.links.erase session }
  have soundUnlinked : unlinked.Sound := ⟨sound.attended, sound.separate⟩
  obtain ⟨after, delivered, change⟩ :=
    deliver_of_registered (.closed session) soundUnlinked registered
  rw [hangUp, linked]
  change Delivered _ _ unlinked (unlinked.deliver (link.otherEnd here) (.closed session)).2
  rw [delivered]
  exact change

theorem hangUp_of_gone (gone : hub.links[session]? = none) : hub.hangUp here session = hub := by
  rw [hangUp, gone]

/-- Both ends of a broken link find news of it, the opener first. -/
theorem sever_of_link (sound : hub.Sound) {link : Link}
    (linked : hub.links[session]? = some link)
    (registered : link.opener ∈ hub.directory ∧ link.acceptor ∈ hub.directory) :
    ∃ middle,
      Delivered link.opener (.closed session) { hub with links := hub.links.erase session }
        middle ∧
      Delivered link.acceptor (.closed session) middle (hub.sever session) := by
  let unlinked : Hub φ := { hub with links := hub.links.erase session }
  have soundUnlinked : unlinked.Sound := ⟨sound.attended, sound.separate⟩
  obtain ⟨middle, first, toOpener⟩ :=
    deliver_of_registered (.closed session) soundUnlinked registered.1
  have present : link.acceptor ∈ middle.directory := by
    rw [toOpener.directory_eq]
    exact registered.2
  obtain ⟨last, second, toAcceptor⟩ :=
    deliver_of_registered (.closed session) toOpener.sound present
  have severed : hub.sever session = last := by
    rw [sever, linked]
    change ((unlinked.deliver link.opener _).2.deliver link.acceptor _).2 = last
    rw [first]
    change (middle.deliver link.acceptor _).2 = last
    rw [second]
  refine ⟨middle, toOpener, ?_⟩
  rw [severed]
  exact toAcceptor

theorem sever_of_gone (gone : hub.links[session]? = none) : hub.sever session = hub := by
  rw [sever, gone]

end Links

/-! ## The hub as a transport -/

section Ports

variable (port : Port Parcel)

theorem dial_port (peer : DeviceId) (role : Role) :
    Transport.dial port peer role =
      ((port.hub.dial port.here peer role).1,
        { port with hub := (port.hub.dial port.here peer role).2 }) :=
  rfl

theorem transmit_port (session : SessionId) (parcel : Parcel) :
    Transport.transmit port session parcel =
      ((port.hub.transmit port.here session parcel).1,
        { port with hub := (port.hub.transmit port.here session parcel).2 }) :=
  rfl

end Ports

end Hub

/-! ## Channels on the hub -/

namespace Channels

variable (channels : Channels (Hub.Port Parcel)) {session : SessionId}

/-- The number of one frame is used up. -/
def counted {τ : Type} (channels : Channels τ) : Channels τ :=
  { channels with
    registry := { channels.registry with counter := channels.registry.counter.next.2 } }

theorem send_of_gone (gone : channels.line.hub.links[session]? = none) (message : Message) :
    channels.send session message =
      (.error (.sendFailed (TransportError.sessionClosed session).message), channels.counted) := by
  rw [send]
  dsimp only
  rw [Hub.transmit_port, Hub.transmit_of_gone channels.line.here _ gone]
  rfl

theorem send_of_link (sound : channels.line.hub.Sound) {link : Link}
    (linked : channels.line.hub.links[session]? = some link)
    (registered : link.otherEnd channels.line.here ∈ channels.line.hub.directory)
    (message : Message) :
    ∃ (sequence : UInt64) (hub : Hub Parcel),
      channels.send session message =
          (.ok (), { channels.counted with line := { channels.line with hub } }) ∧
        Hub.Delivered (link.otherEnd channels.line.here)
          (.frame session (.composed sequence message)) channels.line.hub hub := by
  let sequence := channels.registry.counter.next.1
  obtain ⟨hub, transmitted, delivered⟩ :=
    Hub.transmit_of_link channels.line.here sound (.composed sequence message) linked registered
  refine ⟨sequence, hub, ?_, delivered⟩
  rw [send]
  dsimp only
  rw [Hub.transmit_port, transmitted]
  rfl

end Channels

end InputSharing
