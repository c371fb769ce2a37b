import InputSharing.Identity

/-!
# Commands

There are six things that one node asks of another: to be prepared, to be
unprepared, and to start or stop sharing, by class or by handle.  Each of these
`Action`s appears on the wire in six forms: as a request and its reply, as a
request passed on by a relaying node and its reply, and as what is said to and
by the relaying node.  The remaining commands report keys, events and delays.

A command travels as a number.  The six forms of an action lie in six blocks,
and within a block the actions have the same order.
-/

namespace InputSharing

/-- What one node asks of another. -/
inductive Action where
  | prepare
  | unprepare
  | startByType
  | stopByType
  | startByHandles
  | stopByHandles
  deriving DecidableEq, Repr, Inhabited

namespace Action

/-- All actions, in the order of their numbers within a block. -/
def all : List Action :=
  [prepare, unprepare, startByType, stopByType, startByHandles, stopByHandles]

def index : Action → UInt32
  | prepare => 0
  | unprepare => 1
  | startByType => 2
  | stopByType => 3
  | startByHandles => 4
  | stopByHandles => 5

def name : Action → String
  | prepare => "Prepare"
  | unprepare => "Unprepare"
  | startByType => "StartByType"
  | stopByType => "StopByType"
  | startByHandles => "StartByHandles"
  | stopByHandles => "StopByHandles"

def ofName? (name : String) : Option Action := all.find? fun action => action.name = name

def doneName : Action → String
  | prepare => "Prepared"
  | unprepare => "Unprepared"
  | startByType => "StartedByType"
  | stopByType => "StoppedByType"
  | startByHandles => "StartedByHandles"
  | stopByHandles => "StoppedByHandles"

end Action

/-- The kind of a message. -/
inductive Command where
  /-- A source asks a sink. -/
  | request (action : Action)
  | latencyProbe
  /-- A relaying node passes a request on to a sink. -/
  | relayed (action : Action)
  /-- A sink answers a source. -/
  | reply (action : Action)
  | keyState
  | keyStates
  | inputEvents
  | latencyEcho
  /-- A sink answers a relaying node. -/
  | relayedReply (action : Action)
  /-- A source asks another source to relay. -/
  | relayRequest (action : Action)
  /-- A relaying node answers the source that asked. -/
  | relayResult (action : Action)
  deriving DecidableEq, Repr, Inhabited

namespace Command

def code : Command → UInt32
  | request action => 0x01 + action.index
  | latencyProbe => 0x07
  | relayed action => 0x20 + action.index
  | reply action => 0x40 + action.index
  | keyState => 0x46
  | keyStates => 0x47
  | inputEvents => 0x48
  | latencyEcho => 0x49
  | relayedReply action => 0x60 + action.index
  | relayRequest action => 0x80 + action.index
  | relayResult action => 0x90 + action.index

def all : List Command :=
  Action.all.map request ++ [latencyProbe] ++ Action.all.map relayed ++
    Action.all.map reply ++ [keyState, keyStates, inputEvents, latencyEcho] ++
    Action.all.map relayedReply ++ Action.all.map relayRequest ++
    Action.all.map relayResult

def ofCode? (number : UInt32) : Option Command :=
  all.find? fun command => command.code = number

def role : Command → Role
  | request _ | latencyProbe | relayed _ => .sink
  | _ => .source

def name : Command → String
  | request action => action.name
  | latencyProbe => "LatencyProbe"
  | relayed action => "Relayed" ++ action.name
  | reply action => "On" ++ action.doneName
  | keyState => "KeyState"
  | keyStates => "KeyStateBatch"
  | inputEvents => "InputEventBatch"
  | latencyEcho => "LatencyEcho"
  | relayedReply action => "OnRelay" ++ action.doneName
  | relayRequest action => "Relay" ++ action.name
  | relayResult action => "Relay" ++ action.name ++ "Result"

def ofName? (name : String) : Option Command := all.find? fun command => command.name = name

/-- The number of a command stands for that command. -/
@[simp]
theorem ofCode?_code (command : Command) : ofCode? command.code = some command := by
  cases command with
  | request action => cases action <;> decide
  | relayed action => cases action <;> decide
  | reply action => cases action <;> decide
  | relayedReply action => cases action <;> decide
  | relayRequest action => cases action <;> decide
  | relayResult action => cases action <;> decide
  | _ => decide

/-- A number stands for at most the command whose number it is. -/
theorem code_of_ofCode? {number : UInt32} {command : Command}
    (read : ofCode? number = some command) : command.code = number := by
  simpa using List.find?_some read

end Command

end InputSharing
