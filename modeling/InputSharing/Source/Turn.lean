import InputSharing.Pending
import InputSharing.Relay
import InputSharing.Source.Call

/-!
# Sources

A source asks sinks to share their devices, passes on the requests of other
sources, and has the events that it receives injected.  A `Turn` is a source in
the middle of reacting to something: its state and its transport, and what the
reaction has brought about so far, which is calls that have ended and events to
inject.

A call goes through these steps, each of which can refuse it:

* the same call must not be waiting already;
* its channel must be there or be opened, and for starting and stopping the
  sink must be prepared;
* its message must be sent.

A refused call ends at once, with the same error that the refusal gives.
-/

namespace InputSharing

/-- The state of a source. -/
structure Source where
  device : DeviceId
  registry : Registry := {}
  /-- What the prepared sinks share. -/
  beliefs : Table DeviceId Belief := ∅
  pending : Pending Call := {}
  relays : Relays := {}
  /-- The last measured delay of each sink, in microseconds. -/
  latencies : Table DeviceId UInt64 := ∅

namespace Source

/-- A source in the middle of a reaction. -/
structure Turn (τ : Type) where
  source : Source
  line : τ
  /-- The calls that have ended, the first one first. -/
  completions : List (Completion Grant) := []
  /-- The events to inject and the sinks they come from, in order. -/
  injections : List (DeviceId × InputEvent) := []

namespace Turn

variable {τ : Type}

/-! ## Parts of a turn -/

def channels (turn : Turn τ) : Channels τ := ⟨turn.source.registry, turn.line⟩

def withChannels (turn : Turn τ) (channels : Channels τ) : Turn τ :=
  { turn with
    source := { turn.source with registry := channels.registry }
    line := channels.line }

def report (turn : Turn τ) (completions : List (Completion Grant)) : Turn τ :=
  { turn with completions := turn.completions ++ completions }

/-- Inject events that come from a sink.  Events of a sink that is not prepared
are dropped. -/
def inject (turn : Turn τ) (sink : DeviceId) (events : List InputEvent) : Turn τ :=
  if turn.source.beliefs.contains sink then
    { turn with injections := turn.injections ++ events.map fun event => (sink, event) }
  else turn

/-- End the call that waits under a key, if there is one. -/
def complete (turn : Turn τ) (call : Call) (outcome : Outcome) : Turn τ :=
  let (completion, pending) := turn.source.pending.complete call outcome
  { turn with source := { turn.source with pending } }.report completion.toList

def failWhere (turn : Turn τ) (doomed : Call → Bool) (error : SharingError) : Turn τ :=
  let (completions, pending) := turn.source.pending.failWhere doomed error
  { turn with source := { turn.source with pending } }.report completions

def learn (turn : Turn τ) (sink : DeviceId) (change : Belief → Belief) : Turn τ :=
  { turn with
    source := { turn.source with beliefs := turn.source.beliefs.modify sink change } }

def prepared (turn : Turn τ) (sink : DeviceId) : Turn τ :=
  { turn with
    source := { turn.source with beliefs := turn.source.beliefs.insertIfNew sink {} } }

variable [Transport τ]

def send (turn : Turn τ) (session : SessionId) (message : Message) :
    Except SharingError Unit × Turn τ :=
  let (sent, channels) := turn.channels.send session message
  (sent, turn.withChannels channels)

/-- Send a message, whether or not it can be sent. -/
def post (turn : Turn τ) (session : SessionId) (message : Message) : Turn τ :=
  (turn.send session message).2

/-- The channel to one half of a peer; it is opened if there is none. -/
def connect (turn : Turn τ) (peer : DeviceId) (role : Role) :
    Except SharingError SessionId × Turn τ :=
  let (session, channels) := turn.channels.connect peer role
  (session, turn.withChannels channels)

/-! ## Calls -/

/-- The channel to a sink, if there is one. -/
def existing (turn : Turn τ) (sink : DeviceId) : Except SharingError SessionId × Turn τ :=
  match turn.source.registry.channel? sink .sink with
  | some session => (.ok session, turn)
  | none => (.error .notPrepared, turn)

def channelFor (turn : Turn τ) : Call → Except SharingError SessionId × Turn τ
  | .direct sink .prepare => turn.connect sink .sink
  | .direct sink .unprepare => turn.existing sink
  | .direct sink _ =>
      if turn.source.beliefs.contains sink then turn.existing sink
      else (.error .notPrepared, turn)
  | .relayed source _ _ => turn.connect source .source

/-- End a call at once with an error. -/
def refuse (turn : Turn τ) (ticket : Ticket) (error : SharingError) :
    Except SharingError Unit × Turn τ :=
  (.error error, turn.report [⟨ticket, .error error⟩])

def await (turn : Turn τ) (ticket : Ticket) (call : Call) : Turn τ :=
  let (completion, pending) := turn.source.pending.insert call ticket
  { turn with source := { turn.source with pending } }.report completion.toList

def call (turn : Turn τ) (ticket : Ticket) (call : Call) :
    Except SharingError Unit × Turn τ :=
  if turn.source.pending.contains call then turn.refuse ticket .alreadyPending
  else
    match turn.channelFor call with
    | (.error error, turn) => turn.refuse ticket error
    | (.ok session, turn) =>
        match turn.send session (call.message turn.source.device) with
        | (.error error, turn) => turn.refuse ticket error
        | (.ok (), turn) => (.ok (), turn.await ticket call)

/-! ## The life of channels -/

def opened (turn : Turn τ) (session : SessionId) (peer : DeviceId) : Turn τ :=
  { turn with
    source := { turn.source with registry := turn.source.registry.opened session peer } }

/-- Report to the asking node, if its channel is still there, that a relayed
request failed because the sink is gone. -/
def reportLoss (turn : Turn τ) (correlation : Correlation) : Turn τ :=
  match correlation.origin with
  | none => turn
  | some origin => turn.post origin (correlation.failure Status.disconnected)

/-- Forget everything about a sink, and fail what depended on it. -/
def dropSink (turn : Turn τ) (sink : DeviceId) : Turn τ :=
  let (abandoned, relays) := turn.source.relays.abandonTarget sink
  let forgotten : Turn τ :=
    { turn with
      source :=
        { turn.source with
          beliefs := turn.source.beliefs.erase sink
          latencies := turn.source.latencies.erase sink
          relays } }
  (abandoned.map Prod.snd).foldl reportLoss (forgotten.failWhere (Call.isTo sink) .disconnected)

def retire (turn : Turn τ) (sink : DeviceId) : Turn τ :=
  let dropped := turn.dropSink sink
  dropped.withChannels (dropped.channels.disconnect sink .sink)

/-- The transport reports that a channel is gone.  What depends on it is the
sink at its other end, the calls through the relaying node at its other end, or
the origin of requests to pass on. -/
def closed (turn : Turn τ) (session : SessionId) : Turn τ :=
  let (channel, registry) := turn.source.registry.closed session
  let turn : Turn τ := { turn with source := { turn.source with registry } }
  match channel with
  | none => turn
  | some channel =>
      match channel.remoteRole, channel.outbound with
      | .sink, _ => turn.dropSink channel.peer
      | .source, true => turn.failWhere (Call.isThrough channel.peer) .disconnected
      | .source, false =>
          { turn with
            source :=
              { turn.source with relays := turn.source.relays.abandonOrigin session } }

/-! ## Delays -/

def probe (now : UInt64) (turn : Turn τ) (sink : DeviceId) : Turn τ :=
  match turn.source.registry.channel? sink .sink with
  | none => turn
  | some session => turn.post session (.latencyProbe turn.source.device now)

def tick (turn : Turn τ) (now : UInt64) : Turn τ :=
  ((turn.source.beliefs.toList.filter fun entry => entry.2.isSharing).map Prod.fst).foldl
    (probe now) turn

end Turn

end Source

end InputSharing
