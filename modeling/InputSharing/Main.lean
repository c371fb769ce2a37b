import InputSharing.CommandLine
import InputSharing.Network.Walkthrough

/-!
# The program

The program loads the configuration of a node and tells how the node would run,
or walks through an example of relaying.
-/

namespace InputSharing.CommandLine

def look (path : String) : IO Config.File := do
  try
    let content ← IO.FS.readBinFile path
    return .bytes content.data.toList
  catch
    | .noFileOrDirectory _ _ _ => return .missing
    | _ => return .directory

def load (line : CommandLine) : IO (Except ConfigError Config) := do
  let usual := Config.filePath (← IO.getEnv "XDG_CONFIG_HOME") (← IO.getEnv "HOME")
  match line.config.map Except.ok |>.getD usual with
  | .error error => return .error error
  | .ok path => return Config.load (← look path)

def run (line : CommandLine) : IO UInt32 := do
  match (← line.load).bind Config.summary with
  | .error error =>
      IO.eprintln (error.wording)
      return 1
  | .ok summary =>
      (if line.demo then Walkthrough.report else summary).forM IO.println
      return 0

end InputSharing.CommandLine

def main (arguments : List String) : IO UInt32 := do
  match InputSharing.CommandLine.read? arguments with
  | some line => line.run
  | none =>
      IO.eprintln InputSharing.CommandLine.usage
      return 2
