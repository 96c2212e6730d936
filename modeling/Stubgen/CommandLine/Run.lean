import Stubgen.Command.Run
import Stubgen.CommandLine.Parse

/-!
# Running command lines

A command line that is refused ends with an exit code of its own, before
anything is done.
-/

namespace Stubgen.CommandLine

def usage : Text :=
  ("Python stubs for Java classes\n\n" ++
    "Usage: javastub [--debug] <COMMAND>\n\nCommands:\n" ++
    "  init      Write a javastub config file in the current directory\n" ++
    "  generate  Generate Python wrapper stubs for Java classes\n" ++
    "  inspect   Print the parsed public surface of Java classes\n").toList

def Stop.report : Stop → Report
  | misuse m => ⟨2, [], "error: ".toList ++ m.message ++ ['\n']⟩
  | help => ⟨0, usage, []⟩
  | version => ⟨0, "javastub 0.1.0\n".toList, []⟩

def run {m : Type → Type} [Monad m] (files : Files m) (directory : Text)
    (environment : Option Text) (words : List Text) : m Report :=
  match parse environment words with
  | .error stop => pure stop.report
  | .ok command => command.run files directory

end Stubgen.CommandLine
