import Stubgen.CommandLine.Run

/-!
# The program

Runs the command line on the files of the system.
-/

namespace Stubgen

/-- The error of the system behind an error of the input and output library. -/
def systemError : IO.Error → SystemError
  | .noFileOrDirectory .. => .notFound
  | .permissionDenied .. => .permissionDenied
  | .inappropriateType .. => .notADirectory
  | e => .other e.toString.toList

/-- What an action gives, or the error of the system. -/
def attempt {α : Type} (action : IO α) : IO (Except SystemError α) := do
  try
    return .ok (← action)
  catch e =>
    return .error (systemError e)

def opens (path : Text) : IO Bool := do
  let handle ← attempt (IO.FS.Handle.mk (String.ofList path) .read)
  return handle.toOption.isSome

/-- What stands at a path.  Only a directory holds itself. -/
def kindOf (path : Text) : IO (Option FileKind) := do
  if ← opens (path ++ "/.".toList) then return some .directory
  else if ← opens path then return some .file
  else return none

def readBytes (path : Text) : IO (Except SystemError Bytes) := do
  if (← kindOf path) = some .directory then return .error .isADirectory
  else attempt do return (← IO.FS.readBinFile (String.ofList path)).toList

def writeBytes (path : Text) (append : Bool) (bytes : Bytes) :
    IO (Except SystemError Unit) := do
  if (← kindOf path) = some .directory then return .error .isADirectory
  else attempt do
    let handle ← IO.FS.Handle.mk (String.ofList path)
      (if append then .append else .write)
    handle.write (ByteArray.mk bytes.toArray)

/-- The files of the system.  Commands are not run. -/
def systemFiles : Files IO where
  kind? := kindOf
  read := readBytes
  write := writeBytes
  run _ := return .error (.other "Operation not supported (os error 95)".toList)

end Stubgen

/-- Runs the program on the words of its command line. -/
def main (args : List String) : IO UInt32 := do
  let directory ← IO.currentDir
  let javaHome ← IO.getEnv "JAVA_HOME"
  let report ← Stubgen.CommandLine.run Stubgen.systemFiles
    directory.toString.toList (javaHome.map String.toList)
    (args.map String.toList)
  (← IO.getStdout).putStr (String.ofList report.stdout)
  (← IO.getStderr).putStr (String.ofList report.stderr)
  return report.exitCode.toUInt32
