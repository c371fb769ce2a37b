import InputSharing.Event

/-!
# Reading devices

A collector is the hardware of a sink: it lists devices, starts and stops
reading them, and knows which keys are held.  Nothing is assumed about what it
lists or whether it can start.
-/

namespace InputSharing

/-- Why hardware refuses. -/
inductive HardwareError where
  | captureUnavailable (reason : String)
  | injectFailed (reason : String)
  deriving DecidableEq, Repr

namespace HardwareError

def name : HardwareError → String
  | captureUnavailable _ => "CaptureUnavailable"
  | injectFailed _ => "InjectFailed"

def message : HardwareError → String
  | captureUnavailable reason => "capture could not be started: " ++ reason
  | injectFailed reason => "event injection failed: " ++ reason

end HardwareError

/-- The devices of a listing, by handle. -/
abbrev Listing : Type := Table HandleId Device

/-- Hardware with states of type `κ`. -/
class Collector (κ : Type) where
  /-- The devices of some class of a set. -/
  ofTypes : κ → TypeMask → Listing
  /-- The devices with a handle of a set. -/
  ofHandles : κ → HandleSet → Listing
  /-- Begin to read the devices. -/
  startCapture : κ → Except HardwareError Unit × κ
  /-- Stop reading the devices. -/
  stopCapture : κ → κ
  /-- The keys that are held on the devices with a handle of a set. -/
  heldKeys : κ → HandleSet → List KeyState

end InputSharing
