import InputSharing.Channel.Registry

/-!
# Relayed requests

A node that relays a request gives it a token.  The token goes to the sink with
the request and comes back with the answer, and then it is used up.  Until then
the node remembers where the request came from, under which name it was itself
addressed, which sink it turned to, and the request.

When the channel of the asking node closes, its requests lose their origin but
keep their tokens, so that a late answer still counts for the relaying node.
-/

namespace InputSharing

/-- One request that a node has passed on. -/
structure Correlation where
  /-- The channel on which the request came; nothing once it has closed. -/
  origin : Option SessionId
  /-- The name under which the asking node addressed the relaying one. -/
  source : DeviceId
  /-- The sink that was asked. -/
  target : DeviceId
  request : Request
  deriving DecidableEq

namespace Correlation

def report (correlation : Correlation) (result : RelayResult) : Message :=
  .relayResult correlation.source correlation.target result

/-- The message that reports the failure of a request to the asking node. -/
def failure (correlation : Correlation) (status : Int32) : Message :=
  correlation.report (correlation.request.failure status)

end Correlation

/-- The requests that a node has passed on and that are not yet answered. -/
structure Relays where
  /-- The last token that was given out. -/
  last : RelayToken := ⟨0⟩
  live : Table RelayToken Correlation := ∅

namespace Relays

def start (relays : Relays) (origin : SessionId) (source target : DeviceId)
    (request : Request) : RelayToken × Relays :=
  let token : RelayToken := ⟨relays.last.number + 1⟩
  (token,
    { last := token
      live := relays.live.insert token { origin := some origin, source, target, request } })

def peek (relays : Relays) (token : RelayToken) : Option Correlation := relays.live[token]?

def consume (relays : Relays) (token : RelayToken) : Option Correlation × Relays :=
  (relays.live[token]?, { relays with live := relays.live.erase token })

/-- Use up the tokens of all requests passed on to one sink, the oldest token
first. -/
def abandonTarget (relays : Relays) (target : DeviceId) :
    List (RelayToken × Correlation) × Relays :=
  (relays.live.toList.filter fun entry => entry.2.target = target,
    { relays with live := relays.live.filter fun _ correlation => correlation.target ≠ target })

def countOrigin (relays : Relays) (origin : SessionId) : Nat :=
  (relays.live.toList.filter fun entry => entry.2.origin = some origin).length

/-- Take the origin from all requests that came on one channel. -/
def abandonOrigin (relays : Relays) (origin : SessionId) : Relays :=
  { relays with
    live := relays.live.map fun _ correlation =>
      if correlation.origin = some origin then { correlation with origin := none }
      else correlation }

def size (relays : Relays) : Nat := relays.live.size

end Relays

namespace Channels

variable {τ : Type} [Transport τ]

/-- Use up a token and report to the asking node, if its channel is still
there.  Gives the request that the token stood for. -/
def completeRelay (channels : Channels τ) (relays : Relays) (token : RelayToken)
    (message : Correlation → Message) : Option Correlation × Relays × Channels τ :=
  match relays.consume token with
  | (none, after) => (none, after, channels)
  | (some correlation, after) =>
      match correlation.origin with
      | none => (some correlation, after, channels)
      | some origin =>
          (some correlation, after, (channels.send origin (message correlation)).2)

end Channels

end InputSharing
