import Rulebook.Exchange.Settings
import Rulebook.Path
import Rulebook.Toml.Document

namespace Rulebook

-- Documents write a value without content as an empty table or array, and do not mind a list of
-- fields that goes on.
def Toml.dialect : Json.Dialect where
  isUnit
    | .object [] | .array [] => true
    | _ => false
  exactLists := false

-- Where a file is to be written.
inductive Destination
  -- nothing is in the way
  | free (path : Path)
  -- a folder has the name of the file
  | folder (path : Path)
  -- a file has the name of the folder that the file is to be in
  | belowFile (file : Path)
  deriving DecidableEq

-- The path that a failure to write is about.
def Destination.path : Destination → Path
  | free path => path
  | folder path => path
  | belowFile file => file

namespace Settings

-- Read settings that a document holds.
def ofToml (text : String) : Decoded Settings :=
  match Toml.read? text with
  | none => .error .malformed
  | some j => ofJson Toml.dialect j

-- The settings in a file, given what the file holds if it can be read. Settings that cannot be
-- used are not loaded.
def loadFile (path : Path) : Option String → Except SettingsError Settings
  | none => .error (.read path.shown)
  | some text =>
    match ofToml text with
    | .error _ => .error (.parse path.shown "malformed TOML")
    | .ok s => s.validate.map fun _ => s

-- The text of a settings file. A file that cannot be written does not matter if there is no text
-- to write.
def saveFile (destination : Destination) (s : Settings) : Except SettingsError String :=
  match Toml.print? s.toSections, destination with
  | none, d => .error (.parse d.path.shown "number out of range")
  | some text, .free _ => .ok text
  | some _, d => .error (.write d.path.shown)

end Settings

end Rulebook
