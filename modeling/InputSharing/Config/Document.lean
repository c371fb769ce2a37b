import InputSharing.Config.Basic
import InputSharing.Toml.Value

/-!
# Configurations as TOML documents

`Config.ofDocument?` reads a configuration from the entries of a document, and
`Config.toDocument` states a configuration in entries.

A section is a table, whose entries are read by their names, or an array, whose
elements are read in the order in which the fields of the section are declared.
Names that mean nothing and elements beyond the last field are passed over, and
a date is a section without fields.
-/

namespace InputSharing.Config

/-! ## Fields -/

/-- The fields of a section. -/
inductive Fields where
  | byName (entries : Toml.Entries)
  | byPlace (elements : List Toml)

namespace Fields

def ofToml? : Toml → Option Fields
  | .table _ entries => some (byName entries)
  | .array elements => some (byPlace elements)
  | .tables elements => some (byPlace (elements.map (Toml.table .defined)))
  | .dateTime => some (byName [])
  | .string _ | .integer _ | .float | .boolean _ => none

/-- The value of a field, given its place among the fields of its section. -/
def get? (place : Nat) (name : String) : Fields → Option Toml
  | byName entries => entries.lookup name
  | byPlace elements => elements[place]?

variable {α : Type}

def required (fields : Fields) (place : Nat) (name : String) (read? : Toml → Option α) :
    Option α :=
  (fields.get? place name).bind read?

def optional (fields : Fields) (place : Nat) (name : String) (read? : Toml → Option α)
    (default : α) : Option α :=
  match fields.get? place name with
  | none => some default
  | some value => read? value

end Fields

/-! ## Values -/

def string? : Toml → Option String
  | .string text => some text
  | _ => none

def numberBelow? (limit : Nat) : Toml → Option Nat
  | .integer value => if 0 ≤ value ∧ value < limit then some value.toNat else none
  | _ => none

def uint32? (value : Toml) : Option UInt32 := (numberBelow? UInt32.size value).map Nat.toUInt32

def uint64? (value : Toml) : Option UInt64 := (numberBelow? UInt64.size value).map Nat.toUInt64

def list? {α : Type} (read? : Toml → Option α) : Toml → Option (List α)
  | .array elements => elements.mapM read?
  | .tables elements => elements.mapM fun entries => read? (.table .defined entries)
  | _ => none

/-! ## Reading sections -/

def identity? (value : Toml) : Option Identity := do
  let fields ← Fields.ofToml? value
  let device ← fields.optional 0 "device_id" (fun value => (string? value).map some) none
  let logLevel ← fields.optional 1 "log_level" string? ({} : Identity).logLevel
  some ⟨device.map DeviceId.mk, logLevel⟩

def listening? (value : Toml) : Option Listening := do
  let fields ← Fields.ofToml? value
  let source ← fields.optional 0 "source_listen" string? ({} : Listening).source
  let sink ← fields.optional 1 "sink_listen" string? ({} : Listening).sink
  some ⟨source, sink⟩

def peer? (value : Toml) : Option Peer := do
  let fields ← Fields.ofToml? value
  let device ← fields.required 0 "device_id" string?
  let source ← fields.optional 1 "source_addr" (fun value => (string? value).map some) none
  let sink ← fields.optional 2 "sink_addr" (fun value => (string? value).map some) none
  some ⟨⟨device⟩, source, sink⟩

def sourceTuning? (value : Toml) : Option SourceTuning := do
  let fields ← Fields.ofToml? value
  let initial : SourceTuning := {}
  let period ← fields.optional 0 "latency_probe_interval_ms" uint64? initial.probePeriodMs
  let capacity ← fields.optional 1 "queue_capacity" uint64? initial.queueCapacity
  some ⟨period, capacity⟩

def device? (value : Toml) : Option Device := do
  let fields ← Fields.ofToml? value
  let handle ← fields.required 0 "handle" string?
  let name ← fields.required 1 "name" string?
  let types ← fields.required 2 "types" uint32?
  some ⟨⟨handle⟩, name, ⟨types⟩⟩

def sinkTuning? (value : Toml) : Option SinkTuning := do
  let fields ← Fields.ofToml? value
  let initial : SinkTuning := {}
  let allowList ← fields.optional 0 "allow_list" (list? (list? uint32?)) initial.allowList
  let capacity ← fields.optional 1 "queue_capacity" uint64? initial.queueCapacity
  let batchMax ← fields.optional 2 "batch_max" uint64? initial.batchMax
  let devices ← fields.optional 3 "devices" (list? device?) initial.devices
  some ⟨allowList, capacity, batchMax, devices⟩

def ofDocument? (entries : Toml.Entries) : Option Config := do
  let fields := Fields.byName entries
  let identity ← fields.optional 0 "node" identity? {}
  let listening ← fields.optional 1 "network" listening? {}
  let peers ← fields.optional 2 "peers" (list? peer?) []
  let source ← fields.optional 3 "source" sourceTuning? {}
  let sink ← fields.optional 4 "sink" sinkTuning? {}
  some ⟨identity, listening, peers, source, sink⟩

/-! ## Stating sections -/

def numberEntry (name : String) (number : UInt64) : String × Toml :=
  (name, .integer number.toNat)

/-- The entry with a string, if there is one. -/
def stringEntries (name : String) (text : Option String) : Toml.Entries :=
  (text.map fun text => (name, Toml.string text)).toList

def repeatedTables : List Toml.Entries → Toml
  | [] => .array []
  | elements => .tables elements

def Peer.entries (peer : Peer) : Toml.Entries :=
  stringEntries "device_id" peer.device.text ++ stringEntries "source_addr" peer.sourceAddress ++
    stringEntries "sink_addr" peer.sinkAddress

def deviceEntries (device : Device) : Toml.Entries :=
  [("handle", .string device.handle.text), ("name", .string device.name),
    ("types", .integer device.types.bits.toNat)]

def Identity.entries (identity : Identity) : Toml.Entries :=
  stringEntries "device_id" (identity.device.map DeviceId.text) ++
    [("log_level", .string identity.logLevel)]

def Listening.entries (listening : Listening) : Toml.Entries :=
  [("source_listen", .string listening.source), ("sink_listen", .string listening.sink)]

/-- The entries of the section on how a node behaves as a source. -/
def SourceTuning.entries (tuning : SourceTuning) : Toml.Entries :=
  [numberEntry "latency_probe_interval_ms" tuning.probePeriodMs,
    numberEntry "queue_capacity" tuning.queueCapacity]

def allowListValue (combinations : AllowList) : Toml :=
  .array (combinations.map fun codes =>
    .array (codes.map fun code => .integer code.toNat))

/-- The entries of the section on how a node behaves as a sink.  Devices are
left out if there are none. -/
def SinkTuning.entries (tuning : SinkTuning) : Toml.Entries :=
  [("allow_list", allowListValue tuning.allowList),
    numberEntry "queue_capacity" tuning.queueCapacity,
    numberEntry "batch_max" tuning.batchMax] ++
    if tuning.devices.isEmpty then []
    else [("devices", .tables (tuning.devices.map deviceEntries))]

def toDocument (config : Config) : Toml.Entries :=
  [("node", .table .defined config.identity.entries),
    ("network", .table .defined config.listening.entries),
    ("peers", repeatedTables (config.peers.map Peer.entries)),
    ("source", .table .defined config.source.entries),
    ("sink", .table .defined config.sink.entries)]

end InputSharing.Config
