import InputSharing.Command
import InputSharing.Event
import InputSharing.SharingError

/-!
# Messages

A `Request` is an action together with what it is about.  A `Reply` is what a
sink answers: it repeats what was asked for, which is how the asking node finds
the request again, and says what was granted.  A `RelayResult` is the same
without the list of reserved key combinations, which a relaying node keeps.

A `Message` is one of these in one of its forms, or a report.
-/

namespace InputSharing

/-! ## Requests -/

/-- What one node asks of another. -/
inductive Request where
  | prepare
  | unprepare
  | startByType (types : TypeMask)
  | stopByType (types : TypeMask)
  | startByHandles (handles : HandleSet)
  | stopByHandles (handles : HandleSet)
  deriving DecidableEq

namespace Request

def action : Request → Action
  | prepare => .prepare
  | unprepare => .unprepare
  | startByType _ => .startByType
  | stopByType _ => .stopByType
  | startByHandles _ => .startByHandles
  | stopByHandles _ => .stopByHandles

end Request

/-- The request for an action, about some classes or some handles. -/
def Action.request (types : TypeMask) (handles : HandleSet) : Action → Request
  | .prepare => .prepare
  | .unprepare => .unprepare
  | .startByType => .startByType types
  | .stopByType => .stopByType types
  | .startByHandles => .startByHandles handles
  | .stopByHandles => .stopByHandles handles

/-- What the asking node learns from an answer that grants its request. -/
inductive Grant where
  | done
  | allowList (combinations : AllowList)
  | types (granted : TypeMask)
  | handles (granted : HandleSet)
  deriving DecidableEq

/-- How a request ended. -/
abbrev Outcome : Type := Except SharingError Grant

/-! ## Replies -/

/-- What a sink answers. -/
inductive Reply where
  | prepared (status : Int32) (allowList : AllowList)
  | unprepared (status : Int32)
  | startedByType (status : Int32) (requested granted : TypeMask)
  | stoppedByType (status : Int32) (requested granted : TypeMask)
  | startedByHandles (status : Int32) (requested granted : HandleSet)
  | stoppedByHandles (status : Int32) (requested granted : HandleSet)
  deriving DecidableEq

namespace Reply

def request : Reply → Request
  | prepared _ _ => .prepare
  | unprepared _ => .unprepare
  | startedByType _ requested _ => .startByType requested
  | stoppedByType _ requested _ => .stopByType requested
  | startedByHandles _ requested _ => .startByHandles requested
  | stoppedByHandles _ requested _ => .stopByHandles requested

def action (reply : Reply) : Action := reply.request.action

def status : Reply → Int32
  | prepared status _ => status
  | unprepared status => status
  | startedByType status _ _ => status
  | stoppedByType status _ _ => status
  | startedByHandles status _ _ => status
  | stoppedByHandles status _ _ => status

def granted : Reply → Grant
  | prepared _ combinations => .allowList combinations
  | unprepared _ => .done
  | startedByType _ _ granted => .types granted
  | stoppedByType _ _ granted => .types granted
  | startedByHandles _ _ granted => .handles granted
  | stoppedByHandles _ _ granted => .handles granted

def outcome (reply : Reply) : Outcome :=
  (SharingError.check reply.status).map fun _ => reply.granted

end Reply

/-! ## Results of relayed requests -/

/-- What a relaying node answers. -/
inductive RelayResult where
  | prepare (status : Int32)
  | unprepare (status : Int32)
  | startByType (status : Int32) (requested granted : TypeMask)
  | stopByType (status : Int32) (requested granted : TypeMask)
  | startByHandles (status : Int32) (requested granted : HandleSet)
  | stopByHandles (status : Int32) (requested granted : HandleSet)
  deriving DecidableEq

namespace RelayResult

def request : RelayResult → Request
  | prepare _ => .prepare
  | unprepare _ => .unprepare
  | startByType _ requested _ => .startByType requested
  | stopByType _ requested _ => .stopByType requested
  | startByHandles _ requested _ => .startByHandles requested
  | stopByHandles _ requested _ => .stopByHandles requested

def action (result : RelayResult) : Action := result.request.action

def status : RelayResult → Int32
  | prepare status => status
  | unprepare status => status
  | startByType status _ _ => status
  | stopByType status _ _ => status
  | startByHandles status _ _ => status
  | stopByHandles status _ _ => status

def granted : RelayResult → Grant
  | prepare _ => .done
  | unprepare _ => .done
  | startByType _ _ granted => .types granted
  | stopByType _ _ granted => .types granted
  | startByHandles _ _ granted => .handles granted
  | stopByHandles _ _ granted => .handles granted

def outcome (result : RelayResult) : Outcome :=
  (SharingError.check result.status).map fun _ => result.granted

end RelayResult

namespace Reply

def toResult : Reply → RelayResult
  | prepared status _ => .prepare status
  | unprepared status => .unprepare status
  | startedByType status requested granted => .startByType status requested granted
  | stoppedByType status requested granted => .stopByType status requested granted
  | startedByHandles status requested granted => .startByHandles status requested granted
  | stoppedByHandles status requested granted => .stopByHandles status requested granted

end Reply

namespace Request

/-- The result that reports the failure of a request: it repeats what was asked
for and grants nothing. -/
def failure (request : Request) (status : Int32) : RelayResult :=
  match request with
  | prepare => .prepare status
  | unprepare => .unprepare status
  | startByType types => .startByType status types ∅
  | stopByType types => .stopByType status types ∅
  | startByHandles handles => .startByHandles status handles ∅
  | stopByHandles handles => .stopByHandles status handles ∅

end Request

/-! ## Messages -/

/-- Everything that one node says to another.  `device` is always the speaking
node. -/
inductive Message where
  | request (device : DeviceId) (request : Request)
  | latencyProbe (device : DeviceId) (sentAtUs : UInt64)
  | relayed (token : RelayToken) (device : DeviceId) (request : Request)
  | reply (device : DeviceId) (reply : Reply)
  | keyState (device : DeviceId) (key : KeyState)
  | keyStates (device : DeviceId) (keys : List KeyState)
  | inputEvents (device : DeviceId) (events : List InputEvent)
  | latencyEcho (device : DeviceId) (sentAtUs : UInt64)
  | relayedReply (token : RelayToken) (device : DeviceId) (reply : Reply)
  | relayRequest (device source sink : DeviceId) (request : Request)
  | relayResult (source sink : DeviceId) (result : RelayResult)
  deriving DecidableEq

namespace Message

def command : Message → Command
  | request _ body => .request body.action
  | latencyProbe _ _ => .latencyProbe
  | relayed _ _ body => .relayed body.action
  | reply _ body => .reply body.action
  | keyState _ _ => .keyState
  | keyStates _ _ => .keyStates
  | inputEvents _ _ => .inputEvents
  | latencyEcho _ _ => .latencyEcho
  | relayedReply _ _ body => .relayedReply body.action
  | relayRequest _ _ _ body => .relayRequest body.action
  | relayResult _ _ result => .relayResult result.action

def role (message : Message) : Role := message.command.role

end Message

end InputSharing
