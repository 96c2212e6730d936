import Stubgen.Python.Stub
import Stubgen.Run.Request

/-!
# Writing modules

A generated module is written to a file with a line end behind it, in the place
of what the file held before or after it.
-/

namespace Stubgen

variable {m : Type → Type} [Monad m]

def writeModule (files : Files m) (code path : Text) (append : Bool) :
    m (Except RunFault Unit) := do
  match ← files.write path append (Text.encode (code ++ ['\n'])) with
  | .ok () => return .ok ()
  | .error e => return .error (.unwritable path append e)

/-- The module of classes that were read.  Their properties cite methods of
their own, so that there is one. -/
def moduleOf (options : Python.Options) (classes : List Class) : Text :=
  (Python.module? options classes).getD []

end Stubgen
