import Stubgen.Text.Basic

/-!
# Indented output

A writer holds the text that was written and the level at which the next line is
indented.  Its steps add text at the end and move the level, which never falls
below zero.
-/

namespace Stubgen.Python

structure Writer where
  output : Text := []
  level : Nat := 0
  deriving DecidableEq, Repr

inductive Step
  /-- Adds text as it is. -/
  | add (text : Text)
  /-- Adds an indented line. -/
  | line (text : Text)
  /-- Adds lines between two lines of three quotes, all indented. -/
  | docstring (lines : List Text)
  /-- Adds a line that is empty but for its indentation. -/
  | separator
  | indent
  | dedent
  deriving DecidableEq, Repr

def indentation (level : Nat) : Text := List.replicate (4 * level) ' '

def lineAt (level : Nat) (text : Text) : Text :=
  indentation level ++ text ++ ['\n']

/-- The three quotes that open and close a docstring. -/
def quotes : Text := ['"', '"', '"']

namespace Step

def text (level : Nat) : Step → Text
  | add t => t
  | line t => lineAt level t
  | docstring lines => ((quotes :: lines) ++ [quotes]).flatMap (lineAt level)
  | separator => lineAt level []
  | indent => []
  | dedent => []

def levelAfter (level : Nat) : Step → Nat
  | indent => level + 1
  | dedent => level - 1
  | _ => level

end Step

namespace Writer

def step (w : Writer) (s : Step) : Writer :=
  ⟨w.output ++ s.text w.level, s.levelAfter w.level⟩

def run (w : Writer) (steps : List Step) : Writer := steps.foldl step w

end Writer

def textFrom (level : Nat) : List Step → Text
  | [] => []
  | s :: rest => s.text level ++ textFrom (s.levelAfter level) rest

/-- A writer only ever adds to its output, and what it adds depends on its level
alone. -/
theorem Writer.run_output (w : Writer) (steps : List Step) :
    (w.run steps).output = w.output ++ textFrom w.level steps := by
  induction steps generalizing w with
  | nil => simp [Writer.run, textFrom]
  | cons s rest ih =>
    have hrun : w.run (s :: rest) = (w.step s).run rest := rfl
    rw [hrun, ih]
    simp [Writer.step, textFrom]

end Stubgen.Python
