import InputSharing.Config.Storage

/-!
# The command line

The program takes the path of a configuration, or walks through an example.
-/

namespace InputSharing

/-- What the program is asked for. -/
structure CommandLine where
  /-- The path of the configuration, if it is not the usual one. -/
  config : Option String := none
  /-- Walk through an example. -/
  demo : Bool := false
  deriving DecidableEq, Repr

namespace CommandLine

def usage : String := "usage: [-c|--config FILE] [--demo]"

def readFrom? (read : CommandLine) : List String → Option CommandLine
  | [] => some read
  | "--demo" :: rest => readFrom? { read with demo := true } rest
  | "-c" :: path :: rest | "--config" :: path :: rest =>
      if read.config.isSome then none else readFrom? { read with config := some path } rest
  | _ => none

def read? (arguments : List String) : Option CommandLine := readFrom? {} arguments

end CommandLine

namespace ConfigError

def wording (error : ConfigError) : String :=
  error.message?.getD
    (match error with
      | .text => "the configuration cannot be understood"
      | .tooLarge => "the configuration cannot be stored"
      | _ => "the configuration cannot be read or written")

end ConfigError

namespace Config

/-- The address of one half of another node, as it is shown. -/
def shownAddress (name : String) (address : Option Address) : String :=
  match address with
  | some address => ", " ++ name ++ " at " ++ address.display
  | none => ""

def summary (config : Config) : Except ConfigError (List String) := do
  let peers ← config.peers.mapM fun peer => do
    let addresses ← peer.addresses
    return "peer " ++ peer.device.text ++ shownAddress "source" addresses.source ++
      shownAddress "sink" addresses.sink
  let source ← config.sourceListen
  let sink ← config.sinkListen
  let name := (config.identity.device.map DeviceId.text).getD "with a new name"
  return ("node " ++ name) :: ("source listens at " ++ source.display) ::
    ("sink listens at " ++ sink.display) ::
    (toString config.sink.devices.length ++ " simulated devices") :: peers

end Config

end InputSharing
