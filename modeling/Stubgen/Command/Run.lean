import Stubgen.Class.Display
import Stubgen.Class.Json
import Stubgen.Command.Basic
import Stubgen.Run.Output
import Stubgen.Settings.File

/-!
# Running commands

A run that fails says why on the error output and has touched no file.  Classes
that are set aside are named there too, and do not make a run fail.
-/

namespace Stubgen

inductive CommandFault
  | settings (fault : Settings.LoadFault)
  | run (fault : RunFault)
  | system (error : SystemError)
  deriving DecidableEq, Repr

def CommandFault.message : CommandFault → Text
  | settings fault => fault.message
  | run fault => fault.message
  | system error => error.message

namespace Report

def success (stdout stderr : Text) : Report := ⟨0, stdout, stderr⟩

/-- A run that failed, with what it had written to the error output before. -/
def failure (stderr : Text) (fault : CommandFault) : Report :=
  ⟨1, [], stderr ++ "\nError: ".toList ++ fault.message ++ "\n\n".toList⟩

end Report

def Failure.line (f : Failure) : Text :=
  "  ✗ ".toList ++ f.classname ++ " - ".toList ++ f.fault.report ++ ['\n']

structure Gathered where
  settings : Settings
  classpath : Text
  collected : Collected
  deriving DecidableEq, Repr

def Gathered.failureLines (g : Gathered) : Text :=
  g.collected.failures.flatMap Failure.line

namespace Command

variable {m : Type → Type} [Monad m]

/-- Loads the settings of a directory, resolves a request with them and reads
its classes. -/
def gather (files : Files m) (directory : Text) (request : Request) :
    m (Except CommandFault Gathered) := do
  match ← Settings.load files directory with
  | .error fault => return .error (.settings fault)
  | .ok settings =>
    match ← request.resolve settings files with
    | .error fault => return .error (.run fault)
    | .ok resolved =>
      return .ok ⟨settings, resolved.classpath, ← resolved.collect⟩

def runInit (files : Files m) (directory : Text) (settings : Settings)
    (force : Bool) : m Report := do
  if (← files.kind? (Settings.filePath directory)).isSome && !force then
    return .success [] ("⚠️ ".toList ++ Settings.fileName ++
      " already exists\nUse --force to overwrite\n".toList)
  else
    match ← settings.save files directory with
    | .error e => return .failure [] (.system e)
    | .ok () =>
      return .success [] ("  ✓ Created ".toList ++ Settings.fileName ++ ['\n'])

/-- What the stubs of a request are written with.  An empty class path is not
cited. -/
def stubOptions (g : Gathered) (profile : Option Python.Profile) :
    Python.Options where
  profile := profile.getD g.settings.profile
  classpath := if g.classpath.isEmpty then none else some g.classpath

/-- The line for a module that was written to a file. -/
def writtenLine (count : Nat) (path : Text) : Text :=
  "✓ Wrote ".toList ++ Text.ofNat count ++ " classes to ".toList ++ path ++
    ['\n']

/-- The line that counts the classes that were set aside, if any were. -/
def skippedLine (failed requested : Nat) : Text :=
  if failed = 0 then []
  else
    "⚠️ Skipped ".toList ++ Text.ofNat failed ++ " of ".toList ++
      Text.ofNat requested ++ " classes\n".toList

def runGenerate (files : Files m) (directory : Text) (request : Request)
    (profile : Option Python.Profile) (output : Option Text) (append : Bool) :
    m Report := do
  match ← gather files directory request with
  | .error fault => return .failure [] fault
  | .ok g =>
    let code := moduleOf (stubOptions g profile) g.collected.classes
    let skipped :=
      skippedLine g.collected.failures.length request.classes.length
    match output with
    | none => return .success (code ++ ['\n']) (g.failureLines ++ skipped)
    | some path =>
      match ← writeModule files code path append with
      | .error fault => return .failure g.failureLines (.run fault)
      | .ok () =>
        return .success [] (g.failureLines ++
          writtenLine g.collected.classes.length path ++ skipped)

def show_ (classes : List Class) : Format → Text
  | .text => classes.flatMap fun c => c.display?.getD []
  | .json => (Json.array (classes.map Class.toJson)).pretty ++ ['\n']

def runInspect (files : Files m) (directory : Text) (request : Request)
    (format : Format) : m Report := do
  match ← gather files directory request with
  | .error fault => return .failure [] fault
  | .ok g => return .success (show_ g.collected.classes format) g.failureLines

def run (files : Files m) (directory : Text) : Command → m Report
  | init settings force => runInit files directory settings force
  | generate request profile output append =>
    runGenerate files directory request profile output append
  | inspect request format => runInspect files directory request format

end Command
end Stubgen
