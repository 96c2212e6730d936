import Stubgen.Files.Basic
import Stubgen.Settings.Reader

/-!
# The settings file

The settings of a directory stand in a file of a fixed name.  A directory
without the file has the default settings.
-/

namespace Stubgen.Settings

variable {m : Type → Type} [Monad m]

def fileName : Text := "javastub.config.json".toList

def filePath (directory : Text) : Text := Path.join directory fileName

inductive LoadFault
  | unreadable (fault : ReadFault)
  | malformed (path text : Text) (fault : Json.Fault)
  deriving DecidableEq, Repr

def LoadFault.message : LoadFault → Text
  | unreadable fault => fault.message
  | malformed path text fault =>
    "Invalid config file ".toList ++ path ++ ": ".toList ++ fault.message text

def ofFile (path : Text) : Except ReadFault Text → Except LoadFault Settings
  | .error fault => .error (.unreadable fault)
  | .ok text =>
    match ofText text with
    | .ok s => .ok s
    | .error fault => .error (.malformed path text fault)

def load (files : Files m) (directory : Text) :
    m (Except LoadFault Settings) := do
  let path := filePath directory
  if (← files.kind? path).isSome then return ofFile path (← files.readText path)
  else return .ok {}

def save (s : Settings) (files : Files m) (directory : Text) :
    m (Except SystemError Unit) :=
  files.write (filePath directory) false (Text.encode (s.text ++ ['\n']))

end Stubgen.Settings
