import Stubgen.Run.Collect
import Stubgen.Settings.Basic
import Stubgen.Skip
import Stubgen.Source.Directory
import Stubgen.Source.Tool

/-!
# Requests

A request names classes and may make settings of its own, which go before those
of the working directory.  Resolving it finds the source of the classes and the
members to leave out, before any class is read.
-/

namespace Stubgen

inductive RunFault
  | invalidSkip (pattern : Text)
  | javaHome (path reason : Text)
  | missingJavaHome
  | missingClassPath
  | noClasses
  | unwritable (path : Text) (append : Bool) (error : SystemError)
  deriving DecidableEq, Repr

def RunFault.message : RunFault → Text
  | invalidSkip pattern =>
    "Invalid regular expression for skipping method names: ".toList ++ pattern
  | javaHome path reason => "Java home ".toList ++ path ++ ": ".toList ++ reason
  | missingJavaHome =>
    "No Java home given; pass --java-home or set JAVA_HOME".toList
  | missingClassPath =>
    "No classpath given; pass --class-path or set classPath in the config file".toList
  | noClasses => "No classnames provided".toList
  | unwritable path append error =>
    "Failed to write to '".toList ++ path ++ "' (append=".toList ++
      Json.boolText append ++ "): ".toList ++ error.message

structure Request where
  classes : List Text
  javaHome : Option Text := none
  classPath : Option Text := none
  skip : Option Text := none
  savedIn : Option Text := none
  deriving DecidableEq, Repr

structure Resolved (m : Type → Type) where
  source : Source m
  skips : Text → Bool
  classpath : Text
  classes : List Text

namespace Request

variable {m : Type → Type} [Monad m]

/-- The request with the settings that it does not make itself. -/
def withSettings (r : Request) (s : Settings) : Request :=
  { r with
    javaHome := r.javaHome <|> s.javaHome
    classPath := r.classPath <|> s.classPath
    skip := r.skip <|> s.skip }

/-- The members that a pattern leaves out; without a pattern none are. -/
def skipsOf : Option Text → Except RunFault (Text → Bool)
  | none => .ok fun _ => false
  | some pattern =>
    match SkipPattern.ofText? pattern with
    | some p => .ok p.skips
    | none => .error (.invalidSkip pattern)

def resolveSource (r : Request) (files : Files m) :
    m (Except RunFault (Source m)) := do
  match r.savedIn, r.javaHome with
  | some directory, _ => return .ok (Source.ofDirectory files directory)
  | none, none => return .error .missingJavaHome
  | none, some home =>
    match ← Source.homeDefect? files home with
    | some reason => return .error (.javaHome home reason)
    | none => return .ok (Source.ofTool files home)

/-- The class path, which saved listings do without. -/
def resolveClassPath (r : Request) : Except RunFault Text :=
  match r.classPath with
  | some classpath => .ok classpath
  | none => if r.savedIn.isSome then .ok [] else .error .missingClassPath

/-- Resolves a request that makes all its settings itself.  The first of several
faults counts: no classes, the pattern, the source, the class path. -/
def resolveAlone (r : Request) (files : Files m) :
    m (Except RunFault (Resolved m)) := do
  if r.classes.isEmpty then return .error .noClasses
  else
    match skipsOf r.skip with
    | .error fault => return .error fault
    | .ok skips =>
      match ← r.resolveSource files with
      | .error fault => return .error fault
      | .ok source =>
        match r.resolveClassPath with
        | .error fault => return .error fault
        | .ok classpath => return .ok ⟨source, skips, classpath, r.classes⟩

def resolve (r : Request) (s : Settings) (files : Files m) :
    m (Except RunFault (Resolved m)) :=
  (r.withSettings s).resolveAlone files

end Request

def Resolved.collect {m : Type → Type} [Monad m] (r : Resolved m) :
    m Collected :=
  Stubgen.collect r.source r.skips r.classpath r.classes

end Stubgen
