import Stubgen.Regex.Match
import Stubgen.Regex.Parser
import Stubgen.Regex.Size

/-!
# Skip patterns

A skip pattern names members to leave out.  The pattern is placed into a group
between the two text assertions, as text, and the whole is searched for in a
name.
-/

namespace Stubgen

namespace Regex

def depthLimit : Nat := 250

/-- The expression of a pattern that is well formed, not nested too deep and not
too large. -/
def compile? (pattern : Text) : Option Expr :=
  (parse? pattern).bind fun piece =>
    let e := piece.expr.getD .empty
    let fits (direction : Direction) : Bool :=
      e.compiledSize direction ≤ sizeLimit
    if piece.depth ≤ depthLimit && fits .forwards && fits .backwards then some e
    else none

end Regex

structure SkipPattern where
  expr : Regex.Expr
  deriving DecidableEq, Repr

namespace SkipPattern

def anchored (pattern : Text) : Text := "^(?:".toList ++ pattern ++ ")$".toList

/-- The skip pattern that a text spells, if it is valid. -/
def ofText? (pattern : Text) : Option SkipPattern :=
  (Regex.compile? (anchored pattern)).map .mk

/-- Whether the pattern skips a member of the given name. -/
def skips (p : SkipPattern) (name : Text) : Bool := p.expr.occursIn name

end SkipPattern
end Stubgen
