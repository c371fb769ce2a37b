import InputSharing.Channel.Registry
import InputSharing.Hardware.Collector
import InputSharing.Sharing

/-!
# Sinks

A sink owns devices.  Every prepared session has a *switch*, which holds the
handles that the session owns, each with the classes for which it was granted.
A handle has at most one owner.  The devices are read exactly while some handle
has an owner.

Every change of ownership is marked in the tracker and told to the listeners:
a handle is `throughOut` while it is owned.

Captured events of an owned handle wait in the outbox of the owner's session
until enough of them have come together or the outbox is flushed.

A `Turn` is a sink in the middle of reacting to something: its state, its
transport and its hardware, and what the listeners have heard so far.
-/

namespace InputSharing

/-- What a prepared session owns. -/
structure Switch where
  peer : DeviceId
  /-- The owned handles and the classes for which they were granted. -/
  handles : Table HandleId TypeMask := ∅

/-- The state of a sink. -/
structure Sink where
  device : DeviceId
  /-- The key combinations that the sink keeps for itself. -/
  allowList : AllowList := []
  /-- How many events come together in one frame. -/
  batchLimit : Nat := 1
  registry : Registry := {}
  tracker : Tracker := {}
  switches : Table SessionId Switch := ∅
  owners : Table HandleId SessionId := ∅
  capturing : Bool := false
  /-- How many listeners there are. -/
  listeners : Nat := 0
  /-- Captured events that wait to be sent. -/
  outbox : Table SessionId (List InputEvent) := ∅

namespace Sink

/-- A sink that has done nothing yet.  A frame of events holds at least one. -/
def start (device : DeviceId) (allowList : AllowList) (batchMax : Nat) : Sink :=
  { device, allowList, batchLimit := max batchMax 1 }

def handlesOf (sink : Sink) (session : SessionId) : Option HandleSet :=
  sink.switches[session]?.map fun switch => HandleSet.ofKeys switch.handles

def activeSessions (sink : Sink) : Nat :=
  (sink.switches.toList.filter fun entry => !entry.2.handles.isEmpty).length

/-- What a listener hears: a handle is shared now, or no longer. -/
structure Notice where
  listener : Nat
  state : SharingState
  handle : HandleId
  deriving DecidableEq, Repr

/-- A sink in the middle of a reaction. -/
structure Turn (τ κ : Type) where
  sink : Sink
  line : τ
  collector : κ
  /-- What the listeners have heard, in order. -/
  notices : List Notice := []

namespace Turn

variable {τ κ : Type}

/-! ## Parts of a turn -/

def withRegistry (turn : Turn τ κ) (registry : Registry) : Turn τ κ :=
  { turn with sink := { turn.sink with registry } }

/-- Mark handles and tell the listeners about those whose state changed. -/
def mark (turn : Turn τ κ) (state : SharingState) (handles : List HandleId) : Turn τ κ :=
  let (tracker, changed) := turn.sink.tracker.mark state handles
  let notices := changed.flatMap fun handle =>
    (List.range turn.sink.listeners).map fun listener => { listener, state, handle }
  { turn with sink := { turn.sink with tracker }, notices := turn.notices ++ notices }

def listen (turn : Turn τ κ) : Turn τ κ :=
  { turn with sink := { turn.sink with listeners := turn.sink.listeners + 1 } }

def opened (turn : Turn τ κ) (session : SessionId) (peer : DeviceId) : Turn τ κ :=
  turn.withRegistry (turn.sink.registry.opened session peer)

/-! ## Sending -/

variable [Transport τ]

/-- Send a message, whether or not it can be sent. -/
def post (turn : Turn τ κ) (session : SessionId) (message : Message) : Turn τ κ :=
  let (_, channels) :=
    (⟨turn.sink.registry, turn.line⟩ : Channels τ).send session message
  { turn with sink := { turn.sink with registry := channels.registry }, line := channels.line }

/-- Send the events that wait for a session, all in one frame. -/
def flushSession (turn : Turn τ κ) (session : SessionId) : Turn τ κ :=
  match turn.sink.outbox[session]? with
  | none | some [] => turn
  | some (first :: rest) =>
      let emptied : Turn τ κ :=
        { turn with sink := { turn.sink with outbox := turn.sink.outbox.insert session [] } }
      emptied.post session (.inputEvents turn.sink.device (first :: rest))

def flush (turn : Turn τ κ) : Turn τ κ :=
  turn.sink.outbox.keys.foldl flushSession turn

/-- Take one captured event.  It waits for the owner of its handle, or it stays
local. -/
def captured (turn : Turn τ κ) (event : InputEvent) : SharingState × Turn τ κ :=
  if turn.sink.tracker.stateOf event.handle ≠ .throughOut then (.throughIn, turn)
  else
    match turn.sink.owners[event.handle]? with
    | none => (.throughIn, turn)
    | some session =>
        let waiting := turn.sink.outbox[session]?.getD [] ++ [event]
        let added : Turn τ κ :=
          { turn with
            sink := { turn.sink with outbox := turn.sink.outbox.insert session waiting } }
        (.throughOut,
          if turn.sink.batchLimit ≤ waiting.length then added.flushSession session else added)

def capturedAll (turn : Turn τ κ) : List InputEvent → List SharingState × Turn τ κ
  | [] => ([], turn)
  | event :: rest =>
      let (state, turn) := turn.captured event
      let (states, turn) := turn.capturedAll rest
      (state :: states, turn)

/-! ## Ownership -/

variable [Collector κ]

/-- Begin to read the devices unless they are being read. -/
def ensureCapture (turn : Turn τ κ) : Except HardwareError Unit × Turn τ κ :=
  if turn.sink.capturing then (.ok (), turn)
  else
    match Collector.startCapture turn.collector with
    | (.error error, collector) => (.error error, { turn with collector })
    | (.ok (), collector) =>
        (.ok (), { turn with sink := { turn.sink with capturing := true }, collector })

/-- Enter granted handles as owned by a prepared session.  Handles that the
session owned before gain classes; the others are marked. -/
def own (turn : Turn τ κ) (session : SessionId) (switch : Switch)
    (granted : Table HandleId TypeMask) : Turn τ κ :=
  let added := granted.filter fun handle _ => handle ∉ switch.handles
  let gained := granted.map fun handle types => (switch.handles[handle]?.getD ∅) ∪ types
  let entered : Turn τ κ :=
    { turn with
      sink :=
        { turn.sink with
          switches :=
            turn.sink.switches.insert session
              { switch with handles := switch.handles ∪ gained }
          owners := turn.sink.owners ∪ added.map fun _ _ => session } }
  entered.mark .throughOut added.keys

/-- Give a session those candidates that no other session owns.  The candidates
come with the classes for which they are to be shared. -/
def grant (turn : Turn τ κ) (session : SessionId) (candidates : Table HandleId TypeMask) :
    Except SharingError (Table HandleId TypeMask) × Turn τ κ :=
  match turn.sink.switches[session]? with
  | none => (.error .switchNotFound, turn)
  | some switch =>
      let granted := candidates.filter fun handle _ =>
        match turn.sink.owners[handle]? with
        | none => true
        | some owner => owner = session
      if granted.isEmpty then (.ok granted, turn.own session switch granted)
      else
        match turn.ensureCapture with
        | (.error _, turn) => (.error .captureFailed, turn)
        | (.ok (), turn) => (.ok granted, turn.own session switch granted)

def reportHeldKeys (turn : Turn τ κ) (session : SessionId) (handles : HandleSet) : Turn τ κ :=
  match Collector.heldKeys turn.collector handles with
  | [] => turn
  | [key] => turn.post session (.keyState turn.sink.device key)
  | keys => turn.post session (.keyStates turn.sink.device keys)

/-- Stop reading the devices when no handle has an owner any more. -/
def stopIfIdle (turn : Turn τ κ) : Turn τ κ :=
  if turn.sink.owners.isEmpty && turn.sink.capturing then
    { turn with
      sink := { turn.sink with capturing := false }
      collector := Collector.stopCapture turn.collector }
  else turn

/-- Take back from a session those of the handles that it owns.  Its events are
sent first, and then its held keys are reported, if that is asked for.  Gives
the handles that were taken back. -/
def release (turn : Turn τ κ) (session : SessionId) (requested : HandleSet)
    (reportKeys : Bool) : HandleSet × Turn τ κ :=
  match turn.sink.switches[session]? with
  | none => (∅, turn)
  | some switch =>
      let released := (HandleSet.ofKeys switch.handles).filter fun handle => handle ∈ requested
      if released.isEmpty then (∅, turn)
      else
        let kept := switch.handles.filter fun handle _ => handle ∉ released
        let taken : Turn τ κ :=
          { turn with
            sink :=
              { turn.sink with
                switches := turn.sink.switches.insert session { switch with handles := kept } } }
        let reported :=
          if reportKeys then (taken.flushSession session).reportHeldKeys session released
          else taken
        let disowned : Turn τ κ :=
          { reported with
            sink :=
              { reported.sink with
                owners := reported.sink.owners.filter fun handle _ => handle ∉ released
                outbox :=
                  reported.sink.outbox.modify session fun events =>
                    events.filter fun event => event.handle ∉ released } }
        (released, (disowned.mark .throughIn released.toList).stopIfIdle)

/-- The transport reports that a channel is gone.  Everything that its session
owned is taken back; nothing is sent. -/
def closed (turn : Turn τ κ) (session : SessionId) : Turn τ κ :=
  let (_, registry) := turn.sink.registry.closed session
  let silenced : Turn τ κ :=
    { turn with
      sink := { turn.sink with registry, outbox := turn.sink.outbox.erase session } }
  match silenced.sink.switches[session]? with
  | none => silenced
  | some switch =>
      let (_, turn) := silenced.release session (HandleSet.ofKeys switch.handles) false
      { turn with sink := { turn.sink with switches := turn.sink.switches.erase session } }

end Turn

end Sink

end InputSharing
