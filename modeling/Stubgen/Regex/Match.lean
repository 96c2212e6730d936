import Stubgen.Regex.Basic

/-!
# Matching

A text of `n` characters has `n + 1` places.  The matcher moves a set of marked
places through the expression: from the places where a match may start to the
places where one may end.
-/

namespace Stubgen.Regex

abbrev Marks := List Bool

namespace Marks

def union (a b : Marks) : Marks := List.zipWith (· || ·) a b

end Marks

/-- The characters before and after each place of a text, coming from
`before`. -/
def neighbours (before : Option Char) : Text → List (Option Char × Option Char)
  | [] => [(before, none)]
  | c :: rest => (before, some c) :: neighbours (some c) rest

/-- The marks after exactly `n` steps.  They stay as they are from the first
step on that changes none of them. -/
def afterExactly (step : Marks → Marks) : Nat → Marks → Marks
  | 0, marks => marks
  | n + 1, marks =>
    let next := step marks
    if next = marks then marks else afterExactly step n next

/-- The marks after at most `n` steps.  The search ends as soon as a step marks
no new place. -/
def afterAtMost (step : Marks → Marks) : Nat → Marks → Marks
  | 0, marks => marks
  | n + 1, marks =>
    let more := marks.union (step marks)
    if more = marks then marks else afterAtMost step n more

namespace Expr

/-- The places where a match that starts at a marked place may end. -/
def ends (text : Text) : Expr → Marks → Marks
  | empty, marks => marks
  | one set, marks =>
    false :: List.zipWith (fun marked c => marked && set.contains c) marks text
  | look test, marks =>
    List.zipWith (fun marked n => marked && test.holds n.1 n.2) marks
      (neighbours none text)
  | seq e f, marks => f.ends text (e.ends text marks)
  | alt e f, marks => (e.ends text marks).union (f.ends text marks)
  | repeated e least most, marks =>
    let least' := afterExactly (e.ends text) least marks
    match most with
    | none => afterAtMost (e.ends text) (text.length + 1) least'
    | some most => afterAtMost (e.ends text) (most - least) least'
  | capture e, marks => e.ends text marks

/-- Whether the expression matches some stretch of the text. -/
def occursIn (e : Expr) (text : Text) : Bool :=
  (e.ends text (List.replicate (text.length + 1) true)).contains true

end Expr
end Stubgen.Regex
