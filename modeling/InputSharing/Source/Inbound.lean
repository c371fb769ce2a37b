import InputSharing.Source.Turn

/-!
# Messages to a source

A source takes answers of sinks to its own calls, answers of sinks to requests
that it has passed on, requests of other sources to pass on, and the results of
its own relayed calls.  It also takes events, reports of held keys, and echoes
of its measurements.  A message on a channel that it does not know is dropped.
-/

namespace InputSharing.Source.Turn

variable {τ : Type} [Transport τ]

/-! ## Answers -/

def absorb (turn : Turn τ) (sink : DeviceId) (reply : Reply) : Turn τ :=
  if reply.status = Status.ok then
    match reply with
    | .prepared _ _ => turn.prepared sink
    | .unprepared _ => turn
    | reply => turn.learn sink fun belief => belief.after reply
  else turn

/-- End the session with a sink if it says that it is unprepared. -/
def retireIfUnprepared (turn : Turn τ) (sink : DeviceId) (reply : Reply) : Turn τ :=
  match reply with
  | .unprepared status => if status = Status.ok then turn.retire sink else turn
  | _ => turn

def onReply (turn : Turn τ) (sink : DeviceId) (reply : Reply) : Turn τ :=
  ((turn.absorb sink reply).complete (.direct sink reply.request) reply.outcome).retireIfUnprepared
    sink reply

/-- Report the result of a passed-on request and use up its token. -/
def completeRelay (turn : Turn τ) (token : RelayToken) (message : Correlation → Message) :
    Turn τ :=
  let (_, relays, channels) := turn.channels.completeRelay turn.source.relays token message
  let turn := turn.withChannels channels
  { turn with source := { turn.source with relays } }

/-- A sink answers a request that was passed on to it.  Nothing happens unless
the token is in use and was given to this sink. -/
def onRelayedReply (turn : Turn τ) (sink : DeviceId) (token : RelayToken) (reply : Reply) :
    Turn τ :=
  match turn.source.relays.peek token with
  | none => turn
  | some correlation =>
      if correlation.target = sink then
        ((turn.absorb sink reply).completeRelay token fun correlation =>
          correlation.report reply.toResult).retireIfUnprepared sink reply
      else turn

def onResult (turn : Turn τ) (source sink : DeviceId) (result : RelayResult) : Turn τ :=
  turn.complete (.relayed source sink result.request) result.outcome

/-! ## Requests to pass on -/

/-- Pass a request on to a sink, or report why that is impossible. -/
def forward (turn : Turn τ) (origin : SessionId) (source sink : DeviceId)
    (request : Request) : Turn τ :=
  match turn.connect sink .sink with
  | (.error error, turn) =>
      turn.post origin (.relayResult source sink (request.failure error.statusCode))
  | (.ok session, turn) =>
      let (token, relays) := turn.source.relays.start origin source sink request
      let turn : Turn τ := { turn with source := { turn.source with relays } }
      match turn.send session (.relayed token turn.source.device request) with
      | (.ok (), turn) => turn
      | (.error error, turn) =>
          turn.completeRelay token fun correlation => correlation.failure error.statusCode

/-! ## Reports -/

def releaseOf (now : UInt64) (key : KeyState) : InputEvent :=
  { handle := key.handle
    eventClass := EventClass.key
    code := key.code
    value := KeyValue.released
    whenUs := now }

def releaseKeys (turn : Turn τ) (now : UInt64) (sink : DeviceId) (keys : List KeyState) :
    Turn τ :=
  turn.inject sink
    ((keys.filter fun key => key.value ≠ KeyValue.released).map (releaseOf now))

def onEcho (turn : Turn τ) (now : UInt64) (sink : DeviceId) (sentAtUs : UInt64) : Turn τ :=
  let delay := if now < sentAtUs then 0 else now - sentAtUs
  { turn with
    source := { turn.source with latencies := turn.source.latencies.insert sink delay } }

/-! ## All messages -/

/-- Take a message from the peer at the other end of a channel.  What is meant
for sinks is dropped. -/
def onMessage (turn : Turn τ) (now : UInt64) (session : SessionId) (peer : DeviceId) :
    Message → Turn τ
  | .reply _ reply => turn.onReply peer reply
  | .keyState _ key => turn.releaseKeys now peer [key]
  | .keyStates _ keys => turn.releaseKeys now peer keys
  | .inputEvents _ events => turn.inject peer events
  | .latencyEcho _ sentAtUs => turn.onEcho now peer sentAtUs
  | .relayedReply token _ reply => turn.onRelayedReply peer token reply
  | .relayRequest _ source sink request => turn.forward session source sink request
  | .relayResult source sink result => turn.onResult source sink result
  | .request _ _ | .latencyProbe _ _ | .relayed _ _ _ => turn

def handle (now : UInt64) (session : SessionId) (message : Message) (turn : Turn τ) : Turn τ :=
  match turn.source.registry.peer? session with
  | none => turn
  | some peer => turn.onMessage now session peer message

end InputSharing.Source.Turn
