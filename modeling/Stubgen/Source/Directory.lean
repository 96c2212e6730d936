import Stubgen.Source.Basic

/-!
# Saved listings

A directory may hold the listings of classes, each in a file with the name of
its class.
-/

namespace Stubgen.Source

variable {m : Type → Type} [Monad m]

def listingPath (directory classname : Text) : Text :=
  Path.join directory (classname ++ ".javap".toList)

/-- The source of the listings in a directory.  What is no file counts as
missing. -/
def ofDirectory (files : Files m) (directory : Text) :
    Source m := fun classname _ => do
  let path := listingPath directory classname
  if (← files.kind? path) = some .file then
    match ← files.readText path with
    | .ok text => return .ok text
    | .error fault => return .error (.unreadable path fault)
  else return .error (.notFound classname)

end Stubgen.Source
