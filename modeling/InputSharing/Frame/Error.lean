import InputSharing.TypeMask

/-!
# Fields and faults of frames

The names of the fields of a payload, and the ways in which bytes fail to be a
frame.
-/

namespace InputSharing

/-! ## Fields -/

/-- A field of a payload. -/
inductive Field where
  | allowList
  | code
  | deviceId
  | events
  | grantedHandleIds
  | grantedTypes
  | handleId
  | handleIds
  | inputTypes
  | keyStates
  | relaySessionId
  | sentAtUs
  | sinkId
  | srcId
  | status
  | type
  | value
  | whenUs
  deriving DecidableEq, Repr

namespace Field

def name : Field → String
  | allowList => "allowList"
  | code => "code"
  | deviceId => "deviceId"
  | events => "events"
  | grantedHandleIds => "grantedHandleIds"
  | grantedTypes => "grantedTypes"
  | handleId => "handleId"
  | handleIds => "handleIds"
  | inputTypes => "inputTypes"
  | keyStates => "keyStates"
  | relaySessionId => "relaySessionId"
  | sentAtUs => "sentAtUs"
  | sinkId => "sinkId"
  | srcId => "srcId"
  | status => "status"
  | type => "type"
  | value => "value"
  | whenUs => "whenUs"

/-- All fields, in the order of their names. -/
def all : List Field :=
  [allowList, code, deviceId, events, grantedHandleIds, grantedTypes, handleId, handleIds,
    inputTypes, keyStates, relaySessionId, sentAtUs, sinkId, srcId, status, type, value, whenUs]

theorem mem_all (field : Field) : field ∈ all := by
  cases field <;> decide

end Field

/-! ## Faults -/

def headerSize : Nat := 28

/-- The first fault of bytes that are no frame. -/
inductive FrameError where
  /-- There are fewer bytes than a header has. -/
  | insufficientData (available : Nat)
  | unsupportedVersion (version : UInt8)
  | unknownCommand (code : UInt32)
  /-- The payload is not all there. -/
  | payloadLengthMismatch (declared available : Nat)
  /-- The payload is not the text of a JSON value. -/
  | notJson
  /-- The payload is a JSON value, but not an object. -/
  | notAnObject
  /-- A field is missing, has the wrong type, or is out of range. -/
  | badField (field : Field)
  deriving DecidableEq, Repr

namespace FrameError

/-- A command number in capital hexadecimal, with two digits or more. -/
def commandText (code : UInt32) : String :=
  let digits := TypeMask.capitalHex code.toNat
  if digits.length < 2 then "0x0" ++ digits else "0x" ++ digits

def name : FrameError → String
  | insufficientData _ => "InsufficientData"
  | unsupportedVersion _ => "UnsupportedVersion"
  | unknownCommand _ => "UnknownCommand"
  | payloadLengthMismatch _ _ => "PayloadLengthMismatch"
  | notJson | notAnObject => "Malformed"
  | badField _ => "MissingOrWrongTypeField"

def message : FrameError → String
  | insufficientData available =>
      "insufficient data: need at least " ++ toString headerSize ++ " bytes, got " ++
        toString available
  | unsupportedVersion version => "unsupported protocol version: " ++ toString version.toNat
  | unknownCommand code => "unknown command code: " ++ commandText code
  | payloadLengthMismatch declared available =>
      "payload length mismatch: header says " ++ toString declared ++ ", available is " ++
        toString available
  | notJson => "malformed payload: payload is not JSON text"
  | notAnObject => "malformed payload: payload is not a JSON object"
  | badField field => "missing or mistyped field `" ++ field.name ++ "`"

end FrameError

end InputSharing
