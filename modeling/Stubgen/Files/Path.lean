import Stubgen.Text.Basic

/-!
# Paths

A path is a text whose components are separated by slashes.  A path that starts
with a slash is absolute.
-/

namespace Stubgen.Path

/-- A path inside the directory of another one.  An absolute path stands for
itself. -/
def join (base child : Text) : Text :=
  if child.head? = some '/' then child
  else if base.isEmpty then child
  else if base.getLast? = some '/' then base ++ child
  else base ++ '/' :: child

def pieces : Text → List Text
  | [] => [[]]
  | '/' :: rest => [] :: pieces rest
  | c :: rest =>
    match pieces rest with
    | [] => [[c]]
    | piece :: others => (c :: piece) :: others

def components (path : Text) : List Text :=
  (pieces path).filter fun piece => !piece.isEmpty

/-- Whether a path ends in a slash and so can only be a directory. -/
def endsInSlash (path : Text) : Bool := path.getLast? = some '/'

/-- The component that stands for the directory itself. -/
def here : Text := ['.']

/-- The component that stands for the directory above. -/
def up : Text := ['.', '.']

end Stubgen.Path
