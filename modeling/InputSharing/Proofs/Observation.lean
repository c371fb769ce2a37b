import InputSharing.Channel.Transport
import InputSharing.Hardware.Collector

/-!
# Observed transports and hardware

What an endpoint does to the world can be read off its transport and its
hardware.  `Recorded` is a transport that also remembers, in order, what it was
asked to do and what it answered; `Metered` is hardware that also counts how
often reading was started and stopped.  In all else they are the transport and
the hardware that they watch, so whatever these do is covered.
-/

namespace InputSharing

/-! ## Transports -/

/-- One thing that a transport was asked to do, with its answer. -/
inductive Deed where
  | dialled (remote : Endpoint) (answer : Except TransportError SessionId)
  | transmitted (session : SessionId) (parcel : Parcel)
      (answer : Except TransportError Unit)
  | hungUp (session : SessionId)

/-- A transport that remembers what it was asked to do, the first thing
first. -/
structure Recorded (τ : Type) where
  line : τ
  deeds : List Deed := []

namespace Recorded

variable {τ : Type}

instance [Transport τ] : Transport (Recorded τ) where
  dial record peer role :=
    let (answer, line) := Transport.dial record.line peer role
    (answer, ⟨line, record.deeds ++ [.dialled ⟨peer, role⟩ answer]⟩)
  transmit record session parcel :=
    let (answer, line) := Transport.transmit record.line session parcel
    (answer, ⟨line, record.deeds ++ [.transmitted session parcel answer]⟩)
  hangUp record session :=
    ⟨Transport.hangUp record.line session, record.deeds ++ [.hungUp session]⟩

end Recorded

/-! ## Hardware -/

/-- Hardware with meters. -/
structure Metered (κ : Type) where
  hardware : κ
  /-- How often reading was started; attempts that failed do not count. -/
  starts : Nat := 0
  /-- How often reading was stopped. -/
  stops : Nat := 0

namespace Metered

variable {κ : Type}

instance [Collector κ] : Collector (Metered κ) where
  ofTypes metered types := Collector.ofTypes metered.hardware types
  ofHandles metered handles := Collector.ofHandles metered.hardware handles
  startCapture metered :=
    match Collector.startCapture metered.hardware with
    | (.error error, hardware) => (.error error, { metered with hardware })
    | (.ok (), hardware) => (.ok (), { metered with hardware, starts := metered.starts + 1 })
  stopCapture metered :=
    { metered with
      hardware := Collector.stopCapture metered.hardware
      stops := metered.stops + 1 }
  heldKeys metered handles := Collector.heldKeys metered.hardware handles

end Metered

end InputSharing
