import InputSharing.Frame.Codec
import InputSharing.Proofs.Json.Grammar
import Mathlib.Data.List.Forall2

/-!
# The grammar of frames

What a frame is, said without reading one.  Each command has a layout: its fields
with their shapes, in the order in which faults in them count.  `Says` tells
which message an object says, whatever else it holds and in whatever order.
`Frame.Reads` puts this together: a frame is a header, as many bytes as the header
declares, and anything after them.

A payload is text in UTF-8 that follows the grammar of JSON (`Json.DenotedBy`).
-/

namespace InputSharing

/-! ## Shapes -/

/-- The shape of a field that holds one value. -/
inductive Scalar where
  | text
  /-- A number from zero up to a limit. -/
  | unsigned (limit : Nat)
  /-- A number of 32 bits with a sign. -/
  | signed

inductive Scalar.Fits : Scalar → Json → Prop
  | text (value : String) : Fits .text (.string value)
  | unsigned {limit number : Nat} : number ≤ limit → Fits (.unsigned limit) (.int number)
  | signed {number : Int} :
      -0x80000000 ≤ number → number ≤ 0x7FFFFFFF → Fits .signed (.int number)

namespace Scalar

def code : Scalar := unsigned 0xFFFF

def mask : Scalar := unsigned 0xFFFFFFFF

def time : Scalar := unsigned 0xFFFFFFFFFFFFFFFF

end Scalar

/-- The shape of a field. -/
inductive Shape where
  | scalar (scalar : Scalar)
  | handles
  | allowList
  /-- A list of objects, each with the same fields. -/
  | objects (inner : List (Field × Scalar))

/-- That a value has a shape; the fields of the objects in a list do not count. -/
inductive Shape.Fits : Shape → Json → Prop
  | scalar {shape : Scalar} {json : Json} : shape.Fits json → Fits (.scalar shape) json
  | handles (names : List String) : Fits .handles (.array (names.map Json.string))
  | allowList (combinations : AllowList) : Fits .allowList (Payload.ofAllowList combinations)
  | objects {inner : List (Field × Scalar)} (elements : List Payload.Fields) :
      Fits (.objects inner) (.array (elements.map Json.object))

/-! ## Layouts -/

/-- The fields of a payload in order, with their shapes. -/
abbrev Layout : Type := List (Field × Shape)

namespace Layout

def device (field : Field) : Field × Shape := (field, .scalar .text)

def types (field : Field) : Field × Shape := (field, .scalar .mask)

def handles (field : Field) : Field × Shape := (field, .handles)

def status : Field × Shape := (.status, .scalar .signed)

def token : Field × Shape := (.relaySessionId, .scalar .time)

def sentAt : Field × Shape := (.sentAtUs, .scalar .time)

def key : List (Field × Scalar) := [(.handleId, .text), (.code, .code), (.value, .signed)]

def event : List (Field × Scalar) :=
  [(.handleId, .text), (.type, .code), (.code, .code), (.value, .signed), (.whenUs, .time)]

def request : Action → Layout
  | .prepare | .unprepare => []
  | .startByType | .stopByType => [types .inputTypes]
  | .startByHandles | .stopByHandles => [handles .handleIds]

def result : Action → Layout
  | .prepare | .unprepare => [status]
  | .startByType | .stopByType => [status, types .inputTypes, types .grantedTypes]
  | .startByHandles | .stopByHandles =>
      [status, handles .handleIds, handles .grantedHandleIds]

def reply : Action → Layout
  | .prepare => [status, (.allowList, .allowList)]
  | action => result action

end Layout

open Layout in
/-- The fields that a message of some kind needs. -/
def Command.layout : Command → Layout
  | request action => device .deviceId :: Layout.request action
  | latencyProbe | latencyEcho => [device .deviceId, sentAt]
  | relayed action => token :: device .deviceId :: Layout.request action
  | reply action => device .deviceId :: Layout.reply action
  | keyState => device .deviceId :: key.map fun part => (part.1, .scalar part.2)
  | keyStates => [device .deviceId, (.keyStates, .objects key)]
  | inputEvents => [device .deviceId, (.events, .objects event)]
  | relayedReply action => token :: device .deviceId :: Layout.reply action
  | relayRequest action =>
      device .deviceId :: device .srcId :: device .sinkId :: Layout.request action
  | relayResult action => device .srcId :: device .sinkId :: Layout.result action

/-! ## Faults of fields -/

/-- Some item has a finding, and no item before it has any. -/
inductive FirstOf {α β : Type} (finds : α → β → Prop) : List α → β → Prop
  | here {item : α} {rest : List α} {found : β} :
      finds item found → FirstOf finds (item :: rest) found
  | later {item : α} {rest : List α} {found : β} :
      (∀ other, ¬finds item other) → FirstOf finds rest found → FirstOf finds (item :: rest) found

/-- No value of a shape is in a field. -/
def Lacks (fits : Json → Prop) (fields : Payload.Fields) (field : Field) : Prop :=
  ∀ json, Json.field? fields field.name = some json → ¬fits json

/-- The fault of a field that holds one value. -/
def Scalar.Faulty (fields : Payload.Fields) (entry : Field × Scalar) (fault : Field) : Prop :=
  fault = entry.1 ∧ Lacks entry.2.Fits fields entry.1

/-- The fault of a field: its own, or the first one inside the objects of its list. -/
inductive Shape.Faulty (fields : Payload.Fields) : Field × Shape → Field → Prop
  | lacks {field : Field} {shape : Shape} :
      Lacks shape.Fits fields field → Faulty fields (field, shape) field
  | inside {field fault : Field} {inner : List (Field × Scalar)}
      {elements : List Payload.Fields} :
      Json.field? fields field.name = some (.array (elements.map Json.object)) →
        FirstOf (fun element => FirstOf (Scalar.Faulty element) inner) elements fault →
          Faulty fields (field, .objects inner) fault

/-! ## What objects say -/

namespace Payload

section Saying

variable (fields : Fields)

/-- A field holds a value. -/
def Holds (field : Field) (json : Json) : Prop := Json.field? fields field.name = some json

/-- A field lists the handles of a set, in any order and as often as it likes. -/
def Lists (field : Field) (handles : HandleSet) : Prop :=
  ∃ names : List String, Holds fields field (.array (names.map Json.string)) ∧
    HandleSet.ofList (names.map HandleId.mk) = handles

/-- A field lists objects that say some things, one each. -/
def Tells {α : Type} (one : Fields → α → Prop) (field : Field) (all : List α) : Prop :=
  ∃ elements : List Fields, Holds fields field (.array (elements.map Json.object)) ∧
    List.Forall₂ one elements all

def SaysKey (key : KeyState) : Prop :=
  Holds fields .handleId (ofHandle key.handle) ∧
    Holds fields .code (natural key.code.toNat) ∧ Holds fields .value (.int key.value.toInt)

def SaysEvent (event : InputEvent) : Prop :=
  Holds fields .handleId (ofHandle event.handle) ∧
    Holds fields .type (natural event.eventClass.toNat) ∧
    Holds fields .code (natural event.code.toNat) ∧
    Holds fields .value (.int event.value.toInt) ∧
    Holds fields .whenUs (natural event.whenUs.toNat)

def SaysRequest : Request → Prop
  | .prepare | .unprepare => True
  | .startByType types | .stopByType types => Holds fields .inputTypes (ofTypes types)
  | .startByHandles handles | .stopByHandles handles => Lists fields .handleIds handles

def SaysStatus (status : Int32) : Prop := Holds fields .status (.int status.toInt)

def SaysTypes (status : Int32) (requested granted : TypeMask) : Prop :=
  SaysStatus fields status ∧ Holds fields .inputTypes (ofTypes requested) ∧
    Holds fields .grantedTypes (ofTypes granted)

def SaysHandles (status : Int32) (requested granted : HandleSet) : Prop :=
  SaysStatus fields status ∧ Lists fields .handleIds requested ∧
    Lists fields .grantedHandleIds granted

def SaysResult : RelayResult → Prop
  | .prepare status | .unprepare status => SaysStatus fields status
  | .startByType status requested granted | .stopByType status requested granted =>
      SaysTypes fields status requested granted
  | .startByHandles status requested granted | .stopByHandles status requested granted =>
      SaysHandles fields status requested granted

def SaysReply : Reply → Prop
  | .prepared status combinations =>
      SaysStatus fields status ∧ Holds fields .allowList (ofAllowList combinations)
  | reply => SaysResult fields reply.toResult

def SaysToken (token : RelayToken) : Prop :=
  Holds fields .relaySessionId (natural token.number.toNat)

/-- An object says a message: its fields hold what the message consists of. -/
def Says : Message → Prop
  | .request device request =>
      Holds fields .deviceId (ofDevice device) ∧ SaysRequest fields request
  | .latencyProbe device sentAtUs | .latencyEcho device sentAtUs =>
      Holds fields .deviceId (ofDevice device) ∧
        Holds fields .sentAtUs (natural sentAtUs.toNat)
  | .relayed token device request =>
      SaysToken fields token ∧ Holds fields .deviceId (ofDevice device) ∧
        SaysRequest fields request
  | .reply device reply =>
      Holds fields .deviceId (ofDevice device) ∧ SaysReply fields reply
  | .keyState device key => Holds fields .deviceId (ofDevice device) ∧ SaysKey fields key
  | .keyStates device keys =>
      Holds fields .deviceId (ofDevice device) ∧ Tells fields SaysKey .keyStates keys
  | .inputEvents device events =>
      Holds fields .deviceId (ofDevice device) ∧ Tells fields SaysEvent .events events
  | .relayedReply token device reply =>
      SaysToken fields token ∧ Holds fields .deviceId (ofDevice device) ∧
        SaysReply fields reply
  | .relayRequest device source sink request =>
      Holds fields .deviceId (ofDevice device) ∧ Holds fields .srcId (ofDevice source) ∧
        Holds fields .sinkId (ofDevice sink) ∧ SaysRequest fields request
  | .relayResult source sink result =>
      Holds fields .srcId (ofDevice source) ∧ Holds fields .sinkId (ofDevice sink) ∧
        SaysResult fields result

end Saying

end Payload

/-! ## Frames -/

/-- Bytes are the text of a JSON value. -/
def Json.Spelled (json : Json) (bytes : Bytes) : Prop :=
  ∃ text, bytes = Bytes.ofText text ∧ json.DenotedBy text

namespace Frame

/-- What a payload of some kind gives. -/
inductive ReadsPayload (command : Command) (bytes : Bytes) : Except FrameError Message → Prop
  | notJson : (∀ json : Json, ¬json.Spelled bytes) → ReadsPayload command bytes (.error .notJson)
  | notAnObject {json : Json} :
      json.Spelled bytes → (∀ fields, json ≠ .object fields) →
        ReadsPayload command bytes (.error .notAnObject)
  | badField {fields : Payload.Fields} {field : Field} :
      (Json.object fields).Spelled bytes →
        FirstOf (Shape.Faulty fields) command.layout field →
          ReadsPayload command bytes (.error (.badField field))
  | message {fields : Payload.Fields} {message : Message} :
      (Json.object fields).Spelled bytes → message.command = command →
        Payload.Says fields message → ReadsPayload command bytes (.ok message)

/-- The bytes of a header: the version, three reserved bytes, the number of a
command, the length of the payload, and sixteen bytes with the number of the frame
and the time of sending. -/
def Heads (number declared : UInt32) (bytes : Bytes) : Prop :=
  ∃ reserved stamps : Bytes, reserved.length = 3 ∧ stamps.length = 16 ∧
    bytes = 1 :: reserved ++ Bytes.ofNumber 4 number.toNat ++
      Bytes.ofNumber 4 declared.toNat ++ stamps

/-- What bytes give as a frame: the message and the length of the frame, or the first
fault. -/
inductive Reads : Bytes → Except FrameError (Message × Nat) → Prop
  | insufficientData {bytes : Bytes} :
      bytes.length < 28 → Reads bytes (.error (.insufficientData bytes.length))
  | unsupportedVersion {version : UInt8} {rest : Bytes} :
      28 ≤ (version :: rest).length → version ≠ 1 →
        Reads (version :: rest) (.error (.unsupportedVersion version))
  | unknownCommand {number declared : UInt32} {head rest : Bytes} :
      Heads number declared head → (∀ command : Command, command.code ≠ number) →
        Reads (head ++ rest) (.error (.unknownCommand number))
  | payloadLengthMismatch {command : Command} {declared : UInt32} {head rest : Bytes} :
      Heads command.code declared head → rest.length < declared.toNat →
        Reads (head ++ rest) (.error (.payloadLengthMismatch declared.toNat rest.length))
  | payload {command : Command} {declared : UInt32} {head payload rest : Bytes}
      {result : Except FrameError Message} :
      Heads command.code declared head → payload.length = declared.toNat →
        ReadsPayload command payload result →
          Reads (head ++ payload ++ rest)
            (result.map fun message => (message, 28 + declared.toNat))

end Frame

end InputSharing
