import InputSharing.Proofs.Hub

/-!
# What has been done on a hub

The `Annals` of a hub are the hub with everything that has been done on it: the links
that were opened, the frames that were accepted, who ended a link or tried to, and the
events that each endpoint has taken.  From this the `Fate` of a channel can be told: it
is linked from when it is opened until somebody hangs up or it is severed, whichever
comes first.

An endpoint is registered once, its receiver stays, and it sends on and closes only
channels of which it is an end.
-/

namespace InputSharing.Hub

variable {φ : Type}

/-! ## The life of a channel -/

/-- How a channel came to its end. -/
inductive Ending where
  /-- One end closed it. -/
  | hungUp (here : Endpoint)
  | severed
  deriving DecidableEq

/-- What has become of a channel. -/
inductive Fate where
  | unopened
  | linked (link : Link)
  | ended (link : Link) (ending : Ending)
  deriving DecidableEq

namespace Fate

/-- The link that the channel is or was. -/
def link? : Fate → Option Link
  | unopened => none
  | linked link => some link
  | ended link _ => some link

/-- The link as long as it stands. -/
def standing? : Fate → Option Link
  | linked link => some link
  | unopened | ended _ _ => none

/-- Only a link that stands comes to an end. -/
def finish (ending : Ending) : Fate → Fate
  | linked link => ended link ending
  | unopened => unopened
  | ended link earlier => ended link earlier

/-- What an end of a channel is told of its ending: nothing if it hung up itself. -/
def farewell (session : SessionId) (endpoint : Endpoint) : Fate → List (TransportEvent φ)
  | ended _ (.hungUp here) => if here = endpoint then [] else [.closed session]
  | ended _ .severed => [.closed session]
  | unopened | linked _ => []

end Fate

/-! ## Acts -/

/-- What can be done on a hub. -/
inductive Act (φ : Type) where
  | register (endpoint : Endpoint)
  | dial (here : Endpoint) (peer : DeviceId) (role : Role)
  | transmit (here : Endpoint) (session : SessionId) (frame : φ)
  | hangUp (here : Endpoint) (session : SessionId)
  | sever (session : SessionId)
  /-- An endpoint takes the first event that waits for it. -/
  | take (here : Endpoint)

/-- What is kept of an act. -/
inductive Entry (φ : Type) where
  | opened (session : SessionId) (link : Link)
  /-- A frame was accepted. -/
  | sent (here : Endpoint) (session : SessionId) (frame : φ)
  /-- Somebody hung up or the network failed, be it that the channel was linked or not. -/
  | ended (session : SessionId) (ending : Ending)

namespace Entry

/-- What an entry does to the fate of a channel. -/
def turn (session : SessionId) (fate : Fate) : Entry φ → Fate
  | opened other link => if other = session then .linked link else fate
  | sent _ _ _ => fate
  | ended other ending => if other = session then fate.finish ending else fate

/-- The frame that an endpoint has sent on a channel. -/
def frame? (here : Endpoint) (session : SessionId) : Entry φ → Option φ
  | sent sender other frame => if sender = here ∧ other = session then some frame else none
  | opened _ _ | ended _ _ => none

def isOpening : Entry φ → Bool
  | opened _ _ => true
  | sent _ _ _ | ended _ _ => false

end Entry

/-- A hub with what has been done on it. -/
structure Annals (φ : Type) where
  hub : Hub φ := {}
  /-- What has been done, the first thing first. -/
  entries : List (Entry φ) := []
  /-- The events that an endpoint has taken, the first one first. -/
  taken : Endpoint → List (TransportEvent φ) := fun _ => []

namespace Annals

def fate (annals : Annals φ) (session : SessionId) : Fate :=
  annals.entries.foldl (fun fate entry => entry.turn session fate) .unopened

/-- The frames of an endpoint that were accepted on a channel. -/
def sentBy (annals : Annals φ) (here : Endpoint) (session : SessionId) : List φ :=
  annals.entries.filterMap (Entry.frame? here session)

/-- How many channels have been opened. -/
def opens (annals : Annals φ) : Nat := annals.entries.countP Entry.isOpening

/-- All events for an endpoint, those that it has taken and those that wait. -/
def heard (annals : Annals φ) (endpoint : Endpoint) : List (TransportEvent φ) :=
  annals.taken endpoint ++ annals.hub.mail endpoint

def heardOf (annals : Annals φ) (endpoint : Endpoint) (session : SessionId) :
    List (TransportEvent φ) :=
  (annals.heard endpoint).filter fun event => event.session = session

/-- An endpoint has opened or accepted a channel. -/
def Knows (annals : Annals φ) (here : Endpoint) (session : SessionId) : Prop :=
  ∃ link, .opened session link ∈ annals.entries ∧ link.Ends here

/-- The acts of endpoints that are registered once and keep to their own channels. -/
def Allows (annals : Annals φ) : Act φ → Prop
  | .register endpoint => endpoint ∉ annals.hub.directory
  | .dial here _ _ => here ∈ annals.hub.directory
  | .transmit here session _ | .hangUp here session => annals.Knows here session
  | .sever _ | .take _ => True

def perform (annals : Annals φ) : Act φ → Annals φ
  | .register endpoint => { annals with hub := (annals.hub.register endpoint).2 }
  | .dial here peer role =>
      match annals.hub.dial here peer role with
      | (.ok session, hub) =>
          { annals with
            hub
            entries := annals.entries ++ [.opened session ⟨here, ⟨peer, role⟩⟩] }
      | (.error _, hub) => { annals with hub }
  | .transmit here session frame =>
      match annals.hub.transmit here session frame with
      | (.ok (), hub) =>
          { annals with hub, entries := annals.entries ++ [.sent here session frame] }
      | (.error _, hub) => { annals with hub }
  | .hangUp here session =>
      { annals with
        hub := annals.hub.hangUp here session
        entries := annals.entries ++ [.ended session (.hungUp here)] }
  | .sever session =>
      { annals with
        hub := annals.hub.sever session
        entries := annals.entries ++ [.ended session .severed] }
  | .take here =>
      match annals.hub.directory[here]? with
      | none => annals
      | some box =>
          match annals.hub.takeFirst box with
          | (none, hub) => { annals with hub }
          | (some event, hub) =>
              { annals with
                hub
                taken := Function.update annals.taken here (annals.taken here ++ [event]) }

/-- The annals of a hub on which endpoints have done what they are allowed to do. -/
inductive Reached : Annals φ → Prop
  | start : Reached {}
  | perform {annals : Annals φ} {act : Act φ} :
      Reached annals → annals.Allows act → Reached (annals.perform act)

/-! ## What an entry adds -/

section Entries

variable {annals after : Annals φ} {entry : Entry φ}

theorem fate_eq (extended : after.entries = annals.entries ++ [entry]) (session : SessionId) :
    after.fate session = entry.turn session (annals.fate session) := by
  rw [fate, extended, List.foldl_append]
  rfl

theorem sentBy_eq (extended : after.entries = annals.entries ++ [entry]) (here : Endpoint)
    (session : SessionId) :
    after.sentBy here session =
      annals.sentBy here session ++ (entry.frame? here session).toList := by
  rw [sentBy, extended, List.filterMap_append]
  cases framed : entry.frame? here session with
  | none => rw [List.filterMap_cons_none framed]; rfl
  | some frame => rw [List.filterMap_cons_some framed]; rfl

theorem opens_eq (extended : after.entries = annals.entries ++ [entry]) :
    after.opens = annals.opens + if entry.isOpening then 1 else 0 := by
  rw [opens, extended, List.countP_append, List.countP_singleton]
  rfl

end Entries

/-! ## What an event adds -/

/-- Endpoints hear nothing new as long as their mail stays the same. -/
theorem heardOf_of_mail {annals after : Annals φ} (mail : after.hub.mail = annals.hub.mail)
    (taken : after.taken = annals.taken) (endpoint : Endpoint) (session : SessionId) :
    after.heardOf endpoint session = annals.heardOf endpoint session := by
  rw [heardOf, heard, mail, taken]
  rfl

/-- One more event for an endpoint. -/
theorem heardOf_delivered (annals after : Annals φ) {before : Hub φ} {endpoint : Endpoint}
    {event : TransportEvent φ} (delivered : Delivered endpoint event before after.hub)
    (mail : before.mail = annals.hub.mail) (taken : after.taken = annals.taken)
    (tested : Endpoint) (session : SessionId) :
    after.heardOf tested session =
      annals.heardOf tested session ++
        if event.session = session then (if tested = endpoint then [event] else []) else [] := by
  rw [heardOf, heard, heardOf, heard, taken, delivered.mail_eq, mail]
  by_cases same : tested = endpoint
  · subst same
    rw [Function.update_self, ← List.append_assoc, List.filter_append, if_pos rfl]
    by_cases about : event.session = session
    · rw [if_pos about, List.filter_singleton, decide_eq_true about]
      rfl
    · rw [if_neg about, List.filter_singleton, decide_eq_false about]
      rfl
  · rw [Function.update_of_ne same, if_neg same, ite_self, List.append_nil]

end Annals

end InputSharing.Hub
