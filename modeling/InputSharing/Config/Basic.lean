import InputSharing.Address.Reader
import InputSharing.Event
import InputSharing.Identity

/-!
# The configuration of a node

A configuration tells who a node is, where it listens, which other nodes it
knows, and how large its queues and batches are.  Whatever is not said has a
default; the default of the identity is a name made up anew at every start.

Addresses are kept as they are written.  Whether they can be read is asked when
they are needed.
-/

namespace InputSharing

/-- Why a configuration cannot be found, read, written or followed. -/
inductive ConfigError where
  /-- No directory is known in which the configuration would lie. -/
  | noDirectory
  /-- The file cannot be read or written. -/
  | file
  /-- The text is not TOML, or not a configuration. -/
  | text
  /-- A number is too large to be written. -/
  | tooLarge
  /-- The address in a field cannot be read. -/
  | invalidAddress (field value : String)
  deriving DecidableEq, Repr

namespace ConfigError

def name : ConfigError → String
  | noDirectory => "NoPlatformConfigDir"
  | file => "Io"
  | text => "Parse"
  | tooLarge => "Serialize"
  | invalidAddress _ _ => "InvalidAddress"

/-- The wording of an error, as far as it does not depend on the file system or
on a place in the text. -/
def message? : ConfigError → Option String
  | noDirectory => some "could not determine platform config directory"
  | invalidAddress field value => some ("invalid address `" ++ value ++ "` for " ++ field)
  | file | text | tooLarge => none

end ConfigError

namespace Config

/-! ## Sections -/

/-- Who a node is. -/
structure Identity where
  /-- The name of the node; nothing if one is made up. -/
  device : Option DeviceId := none
  logLevel : String := "info"
  deriving DecidableEq, Repr

/-- Where a node listens. -/
structure Listening where
  source : String := "0.0.0.0:24810"
  sink : String := "0.0.0.0:24811"
  deriving DecidableEq, Repr

/-- Another node. -/
structure Peer where
  device : DeviceId
  sourceAddress : Option String := none
  sinkAddress : Option String := none
  deriving DecidableEq, Repr

/-- How a node behaves as a source. -/
structure SourceTuning where
  /-- The time between two measurements of delays; zero if they are not
  measured. -/
  probePeriodMs : UInt64 := 1000
  queueCapacity : UInt64 := 256
  deriving DecidableEq, Repr

/-- How a node behaves as a sink. -/
structure SinkTuning where
  allowList : AllowList := []
  queueCapacity : UInt64 := 1024
  batchMax : UInt64 := 32
  devices : List Device := []
  deriving DecidableEq, Repr

end Config

/-- The configuration of a node. -/
structure Config where
  identity : Config.Identity := {}
  listening : Config.Listening := {}
  peers : List Config.Peer := []
  source : Config.SourceTuning := {}
  sink : Config.SinkTuning := {}
  deriving DecidableEq, Repr

namespace Config

/-! ## Addresses -/

def address (field value : String) : Except ConfigError Address :=
  match Address.read? value with
  | some address => .ok address
  | none => .error (.invalidAddress field value)

def address? (field : String) : Option String → Except ConfigError (Option Address)
  | some value => (address field value).map some
  | none => .ok none

def sourceListen (config : Config) : Except ConfigError Address :=
  address "network.source_listen" config.listening.source

def sinkListen (config : Config) : Except ConfigError Address :=
  address "network.sink_listen" config.listening.sink

/-- Where the two halves of another node listen. -/
structure Peer.Addresses where
  source : Option Address
  sink : Option Address
  deriving DecidableEq

/-- The addresses of another node.  Of two that cannot be read, the one of its
source is reported. -/
def Peer.addresses (peer : Peer) : Except ConfigError Peer.Addresses := do
  let field (name : String) : String := "peers." ++ peer.device.text ++ "." ++ name
  let source ← address? (field "source_addr") peer.sourceAddress
  let sink ← address? (field "sink_addr") peer.sinkAddress
  return ⟨source, sink⟩

/-! ## Settings -/

/-- The time between two measurements of delays, if they are measured. -/
def probePeriodMs? (config : Config) : Option UInt64 :=
  if config.source.probePeriodMs = 0 then none else some config.source.probePeriodMs

end Config

end InputSharing
