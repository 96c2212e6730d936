import Stubgen.Files.Path
import Stubgen.Text.Utf8

/-!
# Files

What the program asks of the system that it runs on: what stands at a path, the
contents of a file, to write a file, and to run a command.  The program is
written over any such system, so that it can run on a real one and be reasoned
about on a model of one.
-/

namespace Stubgen

inductive SystemError
  | notFound
  | permissionDenied
  | notADirectory
  | isADirectory
  | nulInPath
  | nulInCommand
  | other (message : Text)
  deriving DecidableEq, Repr

def SystemError.message : SystemError → Text
  | notFound => "No such file or directory (os error 2)".toList
  | permissionDenied => "Permission denied (os error 13)".toList
  | notADirectory => "Not a directory (os error 20)".toList
  | isADirectory => "Is a directory (os error 21)".toList
  | nulInPath => "file name contained an unexpected NUL byte".toList
  | nulInCommand => "nul byte found in provided data".toList
  | other message => message

inductive FileKind
  | directory
  | file
  deriving DecidableEq, Repr

inductive Status
  | exited (code : UInt8)
  | killed
  deriving DecidableEq, Repr

def Status.text : Status → Text
  | exited code => "exit status: ".toList ++ Text.ofNat code.toNat
  | killed => "signal: 9 (SIGKILL)".toList

structure Answer where
  stdout : Bytes
  stderr : Bytes
  status : Status
  deriving DecidableEq, Repr

structure Files (m : Type → Type) where
  /-- What stands at a path, if anything does. -/
  kind? : (path : Text) → m (Option FileKind)
  read : (path : Text) → m (Except SystemError Bytes)
  /-- Creates or opens a file and adds to its contents, which are dropped first
  unless `append` is set. -/
  write : (path : Text) → (append : Bool) → Bytes → m (Except SystemError Unit)
  /-- Runs a command to its end. -/
  run : (command : List Text) → m (Except SystemError Answer)

inductive ReadFault
  | system (error : SystemError)
  | notUtf8
  deriving DecidableEq, Repr

def ReadFault.message : ReadFault → Text
  | system error => error.message
  | notUtf8 => "stream did not contain valid UTF-8".toList

def readable : Except SystemError Bytes → Except ReadFault Text
  | .error e => .error (.system e)
  | .ok bytes =>
    match Text.decode? bytes with
    | some t => .ok t
    | none => .error .notUtf8

def Files.readText {m : Type → Type} [Monad m] (files : Files m) (path : Text) :
    m (Except ReadFault Text) := do
  return readable (← files.read path)

end Stubgen
