import Stubgen.Run.Request

/-!
# Commands

What the program can be told to do: write a settings file, generate the stubs of
classes, or show what was read of them.
-/

namespace Stubgen

inductive Format
  | text
  | json
  deriving DecidableEq, Repr

namespace Format

def ofName? (name : Text) : Option Format :=
  if name = "text".toList then some .text
  else if name = "json".toList then some .json
  else none

end Format

inductive Command
  /-- Writes a settings file.  One that is there is kept unless `force` is
  set. -/
  | init (settings : Settings) (force : Bool)
  /-- Generates stubs, into a file if there is an output. -/
  | generate (request : Request) (profile : Option Python.Profile)
    (output : Option Text) (append : Bool)
  | inspect (request : Request) (format : Format)
  deriving DecidableEq, Repr

structure Report where
  exitCode : Nat
  stdout : Text
  stderr : Text
  deriving DecidableEq, Repr

end Stubgen
