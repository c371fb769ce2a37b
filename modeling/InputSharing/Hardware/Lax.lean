import InputSharing.Hardware.Simulated

/-!
# Hardware that answers too much

A listing may name devices that nobody asked for.  Lax hardware always lists
every device that has some class; in all else it is simulated hardware.
-/

namespace InputSharing

/-- Simulated hardware, with listings that may be lax. -/
structure LaxHardware where
  hardware : Hardware
  /-- Every listing names all devices that have some class. -/
  lax : Bool := true

namespace LaxHardware

def classified (listing : Listing) : Listing :=
  listing.filter fun _ device => !device.types.isEmpty

instance : Collector LaxHardware where
  ofTypes bench types :=
    if bench.lax then classified bench.hardware.devices
    else Collector.ofTypes bench.hardware types
  ofHandles bench handles :=
    if bench.lax then classified bench.hardware.devices
    else Collector.ofHandles bench.hardware handles
  startCapture bench :=
    let (answer, hardware) := bench.hardware.start
    (answer, { bench with hardware })
  stopCapture bench := { bench with hardware := bench.hardware.stop }
  heldKeys bench handles := bench.hardware.heldKeys handles

end LaxHardware

end InputSharing
