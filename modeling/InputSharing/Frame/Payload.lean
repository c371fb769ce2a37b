import InputSharing.Frame.Error
import InputSharing.Json.Value
import InputSharing.Message

/-!
# Payloads

The payload of a frame is a JSON object that holds the parts of a message.
`Message.payload` writes a message as an object, its fields in the order of
their names; `Message.ofPayload` reads the message of a given kind.  Reading
asks for the fields in a fixed order and stops at the first bad one.  Fields
that the kind does not need are not looked at.
-/

namespace InputSharing

/-! ## Writing -/

namespace Payload

/-- Fields in any order, each at most once. -/
abbrev Parts : Type := List (Field × Json)

/-- The object of some fields, in the order of their names. -/
def object (parts : Parts) : Json :=
  .object (Field.all.filterMap fun field =>
    (parts.lookup field).map fun value => (field.name, value))

def natural (number : Nat) : Json := .int number

def ofDevice (device : DeviceId) : Json := .string device.text

def ofHandle (handle : HandleId) : Json := .string handle.text

def ofTypes (types : TypeMask) : Json := natural types.bits.toNat

/-- A set of handles, in the order of their names. -/
def ofHandles (handles : HandleSet) : Json := .array (handles.toList.map ofHandle)

def ofAllowList (combinations : AllowList) : Json :=
  .array (combinations.map fun keys => .array (keys.map fun key => natural key.toNat))

def keyParts (key : KeyState) : Parts :=
  [(.handleId, ofHandle key.handle), (.code, natural key.code.toNat),
    (.value, .int key.value.toInt)]

def eventParts (event : InputEvent) : Parts :=
  [(.handleId, ofHandle event.handle), (.type, natural event.eventClass.toNat),
    (.code, natural event.code.toNat), (.value, .int event.value.toInt),
    (.whenUs, natural event.whenUs.toNat)]

def requestParts : Request → Parts
  | .prepare | .unprepare => []
  | .startByType types | .stopByType types => [(.inputTypes, ofTypes types)]
  | .startByHandles handles | .stopByHandles handles => [(.handleIds, ofHandles handles)]

def typeParts (status : Int32) (requested granted : TypeMask) : Parts :=
  [(.status, .int status.toInt), (.inputTypes, ofTypes requested),
    (.grantedTypes, ofTypes granted)]

def handleParts (status : Int32) (requested granted : HandleSet) : Parts :=
  [(.status, .int status.toInt), (.handleIds, ofHandles requested),
    (.grantedHandleIds, ofHandles granted)]

def replyParts : Reply → Parts
  | .prepared status combinations =>
      [(.status, .int status.toInt), (.allowList, ofAllowList combinations)]
  | .unprepared status => [(.status, .int status.toInt)]
  | .startedByType status requested granted => typeParts status requested granted
  | .stoppedByType status requested granted => typeParts status requested granted
  | .startedByHandles status requested granted => handleParts status requested granted
  | .stoppedByHandles status requested granted => handleParts status requested granted

/-- The parts of the result of a relayed request, besides the two nodes. -/
def resultParts : RelayResult → Parts
  | .prepare status | .unprepare status => [(.status, .int status.toInt)]
  | .startByType status requested granted => typeParts status requested granted
  | .stopByType status requested granted => typeParts status requested granted
  | .startByHandles status requested granted => handleParts status requested granted
  | .stopByHandles status requested granted => handleParts status requested granted

def tokenPart (token : RelayToken) : Field × Json :=
  (.relaySessionId, natural token.number.toNat)

def parts : Message → Parts
  | .request device request => (.deviceId, ofDevice device) :: requestParts request
  | .latencyProbe device sentAtUs | .latencyEcho device sentAtUs =>
      [(.deviceId, ofDevice device), (.sentAtUs, natural sentAtUs.toNat)]
  | .relayed token device request =>
      tokenPart token :: (.deviceId, ofDevice device) :: requestParts request
  | .reply device reply => (.deviceId, ofDevice device) :: replyParts reply
  | .keyState device key => (.deviceId, ofDevice device) :: keyParts key
  | .keyStates device keys =>
      [(.deviceId, ofDevice device),
        (.keyStates, .array (keys.map fun key => object (keyParts key)))]
  | .inputEvents device events =>
      [(.deviceId, ofDevice device),
        (.events, .array (events.map fun event => object (eventParts event)))]
  | .relayedReply token device reply =>
      tokenPart token :: (.deviceId, ofDevice device) :: replyParts reply
  | .relayRequest device source sink request =>
      (.deviceId, ofDevice device) :: (.srcId, ofDevice source) :: (.sinkId, ofDevice sink) ::
        requestParts request
  | .relayResult source sink result =>
      (.srcId, ofDevice source) :: (.sinkId, ofDevice sink) :: resultParts result

/-! ## Reading -/

/-- The fields of an object that is read. -/
abbrev Fields : Type := List (String × Json)

/-- What the reading of a field gives. -/
abbrev Read (α : Type) : Type := Except FrameError α

def read {α : Type} (value? : Json → Option α) (fields : Fields) (field : Field) : Read α :=
  match (Json.field? fields field.name).bind value? with
  | some value => .ok value
  | none => .error (.badField field)

def list? {α : Type} (value? : Json → Option α) (json : Json) : Option (List α) :=
  json.array?.bind fun elements => elements.mapM value?

def device (fields : Fields) (field : Field) : Read DeviceId :=
  read (fun json => json.string?.map DeviceId.mk) fields field

def handle? (json : Json) : Option HandleId := json.string?.map HandleId.mk

def types (fields : Fields) (field : Field) : Read TypeMask :=
  read (fun json => json.uint32?.map TypeMask.mk) fields field

def handles (fields : Fields) (field : Field) : Read HandleSet :=
  read (fun json => (list? handle? json).map HandleSet.ofList) fields field

def status (fields : Fields) : Read Int32 := read Json.int32? fields .status

def token (fields : Fields) : Read RelayToken :=
  read (fun json => json.uint64?.map RelayToken.mk) fields .relaySessionId

def key (fields : Fields) : Read KeyState := do
  let handle ← read handle? fields .handleId
  let code ← read Json.uint16? fields .code
  let value ← read Json.int32? fields .value
  return { handle, code, value }

def event (fields : Fields) : Read InputEvent := do
  let handle ← read handle? fields .handleId
  let eventClass ← read Json.uint16? fields .type
  let code ← read Json.uint16? fields .code
  let value ← read Json.int32? fields .value
  let whenUs ← read Json.uint64? fields .whenUs
  return { handle, eventClass, code, value, whenUs }

/-- Read a list of objects, first that they are objects and then each. -/
def objects {α : Type} (one : Fields → Read α) (fields : Fields) (field : Field) :
    Read (List α) := do
  let all ← read (list? Json.object?) fields field
  all.mapM one

def request (fields : Fields) : Action → Read Request
  | .prepare => return .prepare
  | .unprepare => return .unprepare
  | .startByType => return .startByType (← types fields .inputTypes)
  | .stopByType => return .stopByType (← types fields .inputTypes)
  | .startByHandles => return .startByHandles (← handles fields .handleIds)
  | .stopByHandles => return .stopByHandles (← handles fields .handleIds)

def typeAnswer {α : Type} (answer : Int32 → TypeMask → TypeMask → α) (fields : Fields) :
    Read α := do
  let status ← status fields
  let requested ← types fields .inputTypes
  let granted ← types fields .grantedTypes
  return answer status requested granted

def handleAnswer {α : Type} (answer : Int32 → HandleSet → HandleSet → α) (fields : Fields) :
    Read α := do
  let status ← status fields
  let requested ← handles fields .handleIds
  let granted ← handles fields .grantedHandleIds
  return answer status requested granted

def allowList (fields : Fields) : Read AllowList :=
  read (list? (list? Json.uint32?)) fields .allowList

def reply (fields : Fields) : Action → Read Reply
  | .prepare => do
      let status ← status fields
      let combinations ← allowList fields
      return .prepared status combinations
  | .unprepare => return .unprepared (← status fields)
  | .startByType => typeAnswer .startedByType fields
  | .stopByType => typeAnswer .stoppedByType fields
  | .startByHandles => handleAnswer .startedByHandles fields
  | .stopByHandles => handleAnswer .stoppedByHandles fields

def result (fields : Fields) : Action → Read RelayResult
  | .prepare => return .prepare (← status fields)
  | .unprepare => return .unprepare (← status fields)
  | .startByType => typeAnswer .startByType fields
  | .stopByType => typeAnswer .stopByType fields
  | .startByHandles => handleAnswer .startByHandles fields
  | .stopByHandles => handleAnswer .stopByHandles fields

def message (fields : Fields) : Command → Read Message
  | .request action => do
      let device ← device fields .deviceId
      return .request device (← request fields action)
  | .latencyProbe => do
      let device ← device fields .deviceId
      return .latencyProbe device (← read Json.uint64? fields .sentAtUs)
  | .relayed action => do
      let token ← token fields
      let device ← device fields .deviceId
      return .relayed token device (← request fields action)
  | .reply action => do
      let device ← device fields .deviceId
      return .reply device (← reply fields action)
  | .keyState => do
      let device ← device fields .deviceId
      return .keyState device (← key fields)
  | .keyStates => do
      let device ← device fields .deviceId
      return .keyStates device (← objects key fields .keyStates)
  | .inputEvents => do
      let device ← device fields .deviceId
      return .inputEvents device (← objects event fields .events)
  | .latencyEcho => do
      let device ← device fields .deviceId
      return .latencyEcho device (← read Json.uint64? fields .sentAtUs)
  | .relayedReply action => do
      let token ← token fields
      let device ← device fields .deviceId
      return .relayedReply token device (← reply fields action)
  | .relayRequest action => do
      let device ← device fields .deviceId
      let source ← Payload.device fields .srcId
      let sink ← Payload.device fields .sinkId
      return .relayRequest device source sink (← request fields action)
  | .relayResult action => do
      let source ← device fields .srcId
      let sink ← device fields .sinkId
      return .relayResult source sink (← result fields action)

end Payload

namespace Message

def payload (message : Message) : Json := Payload.object (Payload.parts message)

def ofPayload (command : Command) (payload : Json) : Except FrameError Message :=
  match payload.object? with
  | none => .error .notAnObject
  | some fields => Payload.message fields command

end Message

end InputSharing
