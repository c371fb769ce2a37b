import InputSharing.Channel.Transport

/-!
# Dispatch

An endpoint reads every frame that it receives.  A frame that cannot be read,
or whose message is meant for the other half of the node, is dropped, and the
channel stays open.
-/

namespace InputSharing

/-- What became of a frame. -/
inductive Dispatched where
  | handled
  | faulty (fault : FrameError)
  /-- The message is meant for the other half of a node. -/
  | wrongRole (role : Role)
  deriving DecidableEq, Repr

namespace Dispatched

/-- Give the message of a frame to the endpoint that it is meant for. -/
def dispatch {σ : Type} (role : Role) (handle : Message → σ → σ) (parcel : Parcel)
    (state : σ) : Dispatched × σ :=
  match parcel.read with
  | .error fault => (.faulty fault, state)
  | .ok (_, message) =>
      if message.role = role then (.handled, handle message state)
      else (.wrongRole message.role, state)

end Dispatched

end InputSharing
