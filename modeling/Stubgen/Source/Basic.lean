import Stubgen.Files.Basic
import Stubgen.Text.Quoted

/-!
# Sources

A source gives the listing of a class.  The plainest one holds listings that
were taken down before.
-/

namespace Stubgen

namespace Source

inductive Fault
  /-- The command did not start. -/
  | notStarted (command : List Text) (error : SystemError)
  | failed (command : List Text) (status : Status) (stderr : Text)
  /-- What the command wrote is no text. -/
  | notUtf8 (command : List Text)
  | notFound (classname : Text)
  | unreadable (path : Text) (fault : ReadFault)
  deriving DecidableEq, Repr

def Fault.message : Fault → Text
  | notStarted command error =>
    "failed to run '".toList ++ Text.commandLine command ++ "': ".toList ++
      error.message
  | failed command status stderr =>
    "'".toList ++ Text.commandLine command ++ "' failed (".toList ++
      status.text ++ "): ".toList ++ stderr
  | notUtf8 command =>
    "output of '".toList ++ Text.commandLine command ++
      "' is not valid UTF-8".toList
  | notFound classname =>
    "no introspection text available for '".toList ++ classname ++ ['\'']
  | unreadable path fault =>
    "failed to read '".toList ++ path ++ "': ".toList ++ fault.message

end Source

/-- What gives the listing of a class that is looked for on a class path. -/
abbrev Source (m : Type → Type) :=
  (classname classpath : Text) → m (Except Source.Fault Text)

namespace Source

/-- The listing of a class among some that were taken down; the first one
counts. -/
def recorded (listings : List (Text × Text)) (classname : Text) :
    Except Fault Text :=
  match listings.lookup classname with
  | some text => .ok text
  | none => .error (.notFound classname)

def ofListings {m : Type → Type} [Monad m] (listings : List (Text × Text)) :
    Source m :=
  fun classname _ => pure (recorded listings classname)

end Source
end Stubgen
