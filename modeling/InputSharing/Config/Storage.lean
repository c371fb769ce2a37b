import InputSharing.Config.Document
import InputSharing.Frame.Bytes
import InputSharing.Toml.Reader
import InputSharing.Toml.Writer

/-!
# Where configurations are kept

A configuration lies in a file, in a directory that depends on two variables of
the environment.  A file that is missing stands for the configuration in which
nothing is said.
-/

namespace InputSharing.Config

/-! ## Places -/

def joinPath (path name : String) : String :=
  if path.isEmpty ∨ path.endsWith "/" then path ++ name else path ++ "/" ++ name

/-- The directory of the configuration: in the one for all configurations of a
user if it is known, else in the home of the user. -/
def directory (configHome home : Option String) : Except ConfigError String :=
  match configHome.or (home.map fun home => joinPath home ".config") with
  | some base => .ok (joinPath base "dinput")
  | none => .error .noDirectory

def filePath (configHome home : Option String) : Except ConfigError String :=
  (directory configHome home).map fun directory => joinPath directory "config.toml"

/-! ## Files -/

/-- What is found at a path. -/
inductive File where
  | missing
  | directory
  | bytes (content : Bytes)

def ofText? (text : String) : Option Config := (Toml.document? text).bind ofDocument?

def toText? (config : Config) : Option String := Toml.write? config.toDocument

def load : File → Except ConfigError Config
  | .missing => .ok {}
  | .directory => .error .file
  | .bytes content =>
      match Bytes.toText? content with
      | none => .error .file
      | some text =>
          match ofText? text with
          | none => .error .text
          | some config => .ok config

/-- A place to which a configuration is saved. -/
inductive Target where
  /-- A file can be written there; the directories on the way are made. -/
  | writable
  | directory
  /-- A file is on the way where a directory would have to be. -/
  | underFile
  deriving DecidableEq, Repr

/-- The text that is saved.  The directories on the way are made before the text
is, and the file is written last. -/
def save (config : Config) (target : Target) : Except ConfigError String :=
  if target = .underFile then .error .file
  else
    match config.toText? with
    | none => .error .tooLarge
    | some text => if target = .directory then .error .file else .ok text

end InputSharing.Config
