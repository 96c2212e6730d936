import Stubgen.Source.Basic

/-!
# The disassembler

A Java home holds a disassembler that writes the listing of a class.  What it
writes counts only if it ends well.
-/

namespace Stubgen.Source

variable {m : Type → Type} [Monad m]

def toolPath (javaHome : Text) : Text :=
  Path.join (Path.join javaHome "bin".toList) "javap".toList

/-- What is wrong with a Java home, if anything is. -/
def homeDefect? (files : Files m) (javaHome : Text) : m (Option Text) := do
  match ← files.kind? javaHome with
  | none => return some "does not exist".toList
  | some .file => return some "is not a directory".toList
  | some .directory =>
    if (← files.kind? (toolPath javaHome)) = some .file then return none
    else
      return some ("javap binary does not exist: ".toList ++ toolPath javaHome)

/-- The command that writes the listing of a class with the public members. -/
def toolCommand (tool classname classpath : Text) : List Text :=
  [tool, "-s".toList, "-public".toList, "-cp".toList, classpath, classname]

def listingOf (command : List Text) :
    Except SystemError Answer → Except Fault Text
  | .error e => .error (.notStarted command e)
  | .ok answer =>
    if answer.status = .exited 0 then
      match Text.decode? answer.stdout with
      | some text => .ok text
      | none => .error (.notUtf8 command)
    else
      .error (.failed command answer.status
        (Text.trim (Text.decodeLossy answer.stderr)))

/-- The source of the listings that the disassembler of a Java home writes. -/
def ofTool (files : Files m) (javaHome : Text) :
    Source m := fun classname classpath => do
  let command := toolCommand (toolPath javaHome) classname classpath
  return listingOf command (← files.run command)

end Stubgen.Source
