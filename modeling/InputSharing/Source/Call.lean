import InputSharing.Message

/-!
# Calls

A `Call` is what the user of a source asks for: a request to a sink, or a
request that another source is to make of a sink.  It is also the key under
which the call waits, since the answer repeats all of it.

A `Belief` is what a source knows of the devices that a sink shares with it.
It changes only by what the sink has granted, never by what was asked for.
-/

namespace InputSharing

/-- What the user of a source asks for. -/
inductive Call where
  | direct (sink : DeviceId) (request : Request)
  | relayed (source sink : DeviceId) (request : Request)
  deriving DecidableEq

namespace Call

def isTo (sink : DeviceId) : Call → Bool
  | direct peer _ => peer = sink
  | relayed _ _ _ => false

def isThrough (source : DeviceId) : Call → Bool
  | direct _ _ => false
  | relayed peer _ _ => peer = source

def actionName : Action → String
  | .prepare => "prepare"
  | .unprepare => "unprepare"
  | .startByType => "start_by_type"
  | .stopByType => "stop_by_type"
  | .startByHandles => "start_by_handles"
  | .stopByHandles => "stop_by_handles"

/-- The call that a name stands for.  The name of a relayed call tells so at its
beginning. -/
def ofName? (name : String) (source sink : DeviceId) (types : TypeMask)
    (handles : HandleSet) : Option Call :=
  let request (action : Action) := action.request types handles
  match Action.all.find? fun action => actionName action = name with
  | some action => some (direct sink (request action))
  | none =>
      (Action.all.find? fun action => "relay_" ++ actionName action = name).map fun action =>
        relayed source sink (request action)

/-- The endpoint to which a call is sent. -/
def remote : Call → Endpoint
  | direct sink _ => ⟨sink, .sink⟩
  | relayed source _ _ => ⟨source, .source⟩

def message (caller : DeviceId) : Call → Message
  | direct _ request => .request caller request
  | relayed source sink request => .relayRequest caller source sink request

end Call

/-- What a sink shares, as far as a source knows. -/
structure Belief where
  types : TypeMask := ∅
  handles : HandleSet := ∅
  deriving DecidableEq

namespace Belief

def isSharing (belief : Belief) : Bool :=
  !belief.types.isEmpty || !belief.handles.isEmpty

def after (belief : Belief) : Reply → Belief
  | .startedByType _ _ granted => { belief with types := belief.types ∪ granted }
  | .stoppedByType _ _ granted => { belief with types := belief.types \ granted }
  | .startedByHandles _ _ granted => { belief with handles := belief.handles ∪ granted }
  | .stoppedByHandles _ _ granted =>
      { belief with handles := belief.handles.filter fun handle => handle ∉ granted }
  | .prepared _ _ | .unprepared _ => belief

end Belief

end InputSharing
