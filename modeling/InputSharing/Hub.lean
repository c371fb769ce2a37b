import InputSharing.Channel.Transport

/-!
# The hub

The hub carries frames between endpoints that live side by side.  Every
endpoint that is registered has a mailbox, in which the events for it wait in
the order in which they came.  A channel is a link between two endpoints, and
both of them know it by the same session.

* Whoever opens a link is told its session at once; the other end finds
  `opened` in its mailbox.
* A frame that is sent at one end of a link comes out at the other end.
* Whoever closes a link is told nothing; the other end finds `closed`.
* When a link is severed both ends find `closed`.

An endpoint may be linked to itself.  It is then both ends of the link, and
everything goes to its own mailbox.
-/

namespace InputSharing

/-! ## Links and mailboxes -/

/-- A channel between two endpoints. -/
structure Link where
  opener : Endpoint
  acceptor : Endpoint
  deriving DecidableEq, Repr

namespace Link

/-- The end of a link that hears what is sent by the endpoint `here`. -/
def otherEnd (link : Link) (here : Endpoint) : Endpoint :=
  if link.opener = here then link.acceptor else link.opener

def joins (link : Link) (first second : DeviceId) : Bool :=
  (link.opener.device = first ∧ link.acceptor.device = second) ∨
    (link.opener.device = second ∧ link.acceptor.device = first)

end Link

/-- The place where the events for an endpoint wait. -/
structure Mailbox (φ : Type) where
  /-- The events that wait, the oldest first. -/
  events : List (TransportEvent φ) := []
  /-- Somebody is there to take the events. -/
  attended : Bool := true

/-- The endpoints that live side by side, and the channels between them. -/
structure Hub (φ : Type) where
  /-- The session of the last link that was opened. -/
  lastSession : SessionId := ⟨0⟩
  /-- All mailboxes, in the order in which they were set up. -/
  mailboxes : List (Mailbox φ) := []
  /-- The places of the mailboxes of the registered endpoints. -/
  directory : Table Endpoint Nat := ∅
  links : Table SessionId Link := ∅
  /-- The places of the mailboxes that have received something and that nobody
  has been sent to yet, the oldest first. -/
  rings : List Nat := []

namespace Hub

variable {φ : Type}

def waiting (hub : Hub φ) (box : Nat) : List (TransportEvent φ) :=
  (hub.mailboxes[box]?.map Mailbox.events).getD []

/-- Register an endpoint and give it an empty mailbox.  Events for an endpoint
that was registered before go to the new mailbox from now on. -/
def register (hub : Hub φ) (endpoint : Endpoint) : Nat × Hub φ :=
  let box := hub.mailboxes.length
  (box,
    { hub with
      mailboxes := hub.mailboxes ++ [{}]
      directory := hub.directory.insert endpoint box })

/-- Put an event into the mailbox of an endpoint.  This fails if the endpoint
is not registered or nobody attends to its mailbox. -/
def deliver (hub : Hub φ) (endpoint : Endpoint) (event : TransportEvent φ) :
    Bool × Hub φ :=
  match hub.directory[endpoint]? with
  | none => (false, hub)
  | some box =>
      match hub.mailboxes[box]? with
      | none => (false, hub)
      | some mailbox =>
          if mailbox.attended then
            (true,
              { hub with
                mailboxes :=
                  hub.mailboxes.set box { mailbox with events := mailbox.events ++ [event] }
                rings := hub.rings ++ [box] })
          else (false, hub)

/-- Take the oldest event from a mailbox. -/
def takeFirst (hub : Hub φ) (box : Nat) : Option (TransportEvent φ) × Hub φ :=
  match hub.waiting box with
  | [] => (none, hub)
  | event :: rest =>
      (some event,
        { hub with
          mailboxes := hub.mailboxes.modify box fun mailbox => { mailbox with events := rest } })

def takeAll (hub : Hub φ) (box : Nat) : List (TransportEvent φ) × Hub φ :=
  (hub.waiting box,
    { hub with
      mailboxes := hub.mailboxes.modify box fun mailbox => { mailbox with events := [] } })

/-- Nobody attends to a mailbox any more; what waits in it is lost. -/
def abandon (hub : Hub φ) (box : Nat) : Hub φ :=
  { hub with
    mailboxes := hub.mailboxes.modify box fun _ => { events := [], attended := false } }

/-! ## Channels -/

/-- Open a link from the endpoint `here` to one half of a node. -/
def dial (hub : Hub φ) (here : Endpoint) (peer : DeviceId) (role : Role) :
    Except TransportError SessionId × Hub φ :=
  let there : Endpoint := ⟨peer, role⟩
  if hub.directory.contains there then
    let session : SessionId := ⟨hub.lastSession.number + 1⟩
    let linked :=
      { hub with
        lastSession := session
        links := hub.links.insert session ⟨here, there⟩ }
    (.ok session, (linked.deliver there (.opened session here.device)).2)
  else (.error (.unknownPeer peer), hub)

def transmit (hub : Hub φ) (here : Endpoint) (session : SessionId) (frame : φ) :
    Except TransportError Unit × Hub φ :=
  match hub.links[session]? with
  | none => (.error (.sessionClosed session), hub)
  | some link =>
      match hub.deliver (link.otherEnd here) (.frame session frame) with
      | (true, hub) => (.ok (), hub)
      | (false, hub) => (.error (.sessionClosed session), hub)

def hangUp (hub : Hub φ) (here : Endpoint) (session : SessionId) : Hub φ :=
  match hub.links[session]? with
  | none => hub
  | some link =>
      let unlinked := { hub with links := hub.links.erase session }
      (unlinked.deliver (link.otherEnd here) (.closed session)).2

def sever (hub : Hub φ) (session : SessionId) : Hub φ :=
  match hub.links[session]? with
  | none => hub
  | some link =>
      let unlinked := { hub with links := hub.links.erase session }
      ((unlinked.deliver link.opener (.closed session)).2.deliver link.acceptor
        (.closed session)).2

/-- The sessions of the links between two nodes, by number. -/
def sessionsBetween (hub : Hub φ) (first second : DeviceId) : List SessionId :=
  (hub.links.filter fun _ link => link.joins first second).keys

/-! ## The hub as a transport -/

/-- The hub as one endpoint sees it. -/
structure Port (φ : Type) where
  hub : Hub φ
  here : Endpoint

instance : Transport (Port Parcel) where
  dial port peer role :=
    let (answer, hub) := port.hub.dial port.here peer role
    (answer, { port with hub })
  transmit port session parcel :=
    let (answer, hub) := port.hub.transmit port.here session parcel
    (answer, { port with hub })
  hangUp port session := { port with hub := port.hub.hangUp port.here session }

end Hub

end InputSharing
