import InputSharing.Hardware.Collector

/-!
# Simulated hardware

Simulated devices produce the events that they are told to produce.  An event is
captured when the devices are being read.  Presses and releases of keys count
for the table of held keys whether or not they are captured.
-/

namespace InputSharing

/-- A set of key codes. -/
abbrev KeyCodes : Type := Std.ExtTreeSet UInt16 compare

/-- Simulated devices and their state. -/
structure Hardware where
  devices : Listing := ∅
  /-- The keys that are held, device by device. -/
  held : Table HandleId KeyCodes := ∅
  capturing : Bool := false
  /-- The next attempt to start reading fails. -/
  failNextStart : Bool := false
  /-- How often reading was started. -/
  starts : Nat := 0
  /-- How often reading was stopped. -/
  stops : Nat := 0
  /-- Captured events that nobody has taken yet, the oldest first. -/
  captured : List InputEvent := []
  /-- Somebody is there to take captured events. -/
  listening : Bool := true

namespace Hardware

/-- Hardware with the given devices.  Of two devices with one handle, the later
one stays. -/
def ofDevices (devices : List Device) : Hardware :=
  { devices := devices.foldl (fun listing device => listing.insert device.handle device) ∅ }

def keysOf (hardware : Hardware) (handle : HandleId) : KeyCodes :=
  hardware.held[handle]?.getD ∅

def heldAfter (hardware : Hardware) (event : InputEvent) : Table HandleId KeyCodes :=
  if event.eventClass = EventClass.key then
    if event.value = KeyValue.pressed then
      hardware.held.insert event.handle ((hardware.keysOf event.handle).insert event.code)
    else if event.value = KeyValue.released then
      hardware.held.insert event.handle ((hardware.keysOf event.handle).erase event.code)
    else hardware.held
  else hardware.held

/-- A device produces an event.  The answer says whether it was captured. -/
def emit (hardware : Hardware) (event : InputEvent) : Bool × Hardware :=
  let pressed := { hardware with held := hardware.heldAfter event }
  if hardware.capturing && hardware.listening then
    (true, { pressed with captured := hardware.captured ++ [event] })
  else (false, pressed)

def emitAll (hardware : Hardware) : List InputEvent → List Bool × Hardware
  | [] => ([], hardware)
  | event :: rest =>
      let (taken, after) := hardware.emit event
      let (more, last) := after.emitAll rest
      (taken :: more, last)

def take (hardware : Hardware) : List InputEvent × Hardware :=
  (hardware.captured, { hardware with captured := [] })

def hangUp (hardware : Hardware) : Hardware :=
  { hardware with captured := [], listening := false }

def busy : String := "simulated device busy"

def start (hardware : Hardware) : Except HardwareError Unit × Hardware :=
  if hardware.failNextStart then
    (.error (.captureUnavailable busy), { hardware with failNextStart := false })
  else (.ok (), { hardware with capturing := true, starts := hardware.starts + 1 })

def stop (hardware : Hardware) : Hardware :=
  { hardware with capturing := false, stops := hardware.stops + 1 }

/-- The keys that are held on the given devices, by device and code. -/
def heldKeys (hardware : Hardware) (handles : HandleSet) : List KeyState :=
  hardware.held.toList.flatMap fun (handle, codes) =>
    if handle ∈ handles then
      codes.toList.map fun code => { handle, code, value := KeyValue.pressed }
    else []

instance : Collector Hardware where
  ofTypes hardware types := hardware.devices.filter fun _ device => device.types.intersects types
  ofHandles hardware handles := hardware.devices.filter fun handle _ => handle ∈ handles
  startCapture := start
  stopCapture := stop
  heldKeys := heldKeys

end Hardware

/-! ## Injection -/

/-- A virtual device that keeps what is injected into it.  Injection fails for
the handles of a set. -/
structure Injector where
  failing : HandleSet := ∅
  /-- What was injected and the node that it came from, the oldest first. -/
  injected : List (DeviceId × InputEvent) := []

namespace Injector

def refused : String := "simulated injection failure"

def inject (injector : Injector) (source : DeviceId) (event : InputEvent) :
    Except HardwareError Unit × Injector :=
  if event.handle ∈ injector.failing then (.error (.injectFailed refused), injector)
  else (.ok (), { injector with injected := injector.injected ++ [(source, event)] })

/-- Inject events one after another.  Every answer comes with the number of
events that have been injected by then. -/
def injectEach (injector : Injector) :
    List (DeviceId × InputEvent) → List (Except HardwareError Unit × Nat) × Injector
  | [] => ([], injector)
  | (source, event) :: rest =>
      let (answer, injector) := injector.inject source event
      let (answers, last) := injector.injectEach rest
      ((answer, injector.injected.length) :: answers, last)

/-- Inject events one after another; those that cannot be injected are lost. -/
def injectAll (injector : Injector) (events : List (DeviceId × InputEvent)) : Injector :=
  events.foldl (fun injector entry => (injector.inject entry.1 entry.2).2) injector

end Injector

end InputSharing
