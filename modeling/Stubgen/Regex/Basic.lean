import Stubgen.Unicode.Property

/-!
# Regular expressions

An expression is built from character sets and from looks, which test the
characters around a place without taking one.  `Spans` says which stretches of a
text an expression matches.
-/

namespace Stubgen.Regex

inductive Look
  | textStart
  | textEnd
  | lineStart
  | lineEnd
  /-- Like `lineStart`, where a carriage return and a line feed are one line
  end. -/
  | lineStartAnyEnd
  /-- Like `lineEnd`, where a carriage return and a line feed are one line
  end. -/
  | lineEndAnyEnd
  | wordBoundary (ascii : Bool)
  | noWordBoundary (ascii : Bool)
  | wordStart (ascii : Bool)
  | wordEnd (ascii : Bool)
  | wordStartHalf (ascii : Bool)
  | wordEndHalf (ascii : Bool)
  deriving DecidableEq, Repr

def asciiWord : CodeSet :=
  CodeSet.unionAll
    [CodeSet.range 0x30 0x39, CodeSet.range 0x41 0x5A, CodeSet.singleton 0x5F,
      CodeSet.range 0x61 0x7A]

namespace Look

/-- Whether a neighbour is there and belongs to a word. -/
def isWord (ascii : Bool) : Option Char → Bool
  | none => false
  | some c =>
    if ascii then asciiWord.contains c
    else CharProperty.wordCharacters.contains c

/-- Whether the test holds between the characters `before` and `after`, where
`none` stands for the end of the text. -/
def holds (before after : Option Char) : Look → Bool
  | textStart => before.isNone
  | textEnd => after.isNone
  | lineStart => before.isNone || before = some '\n'
  | lineEnd => after.isNone || after = some '\n'
  | lineStartAnyEnd =>
    before.isNone || before = some '\n' ||
      (before = some '\r' && after ≠ some '\n')
  | lineEndAnyEnd =>
    after.isNone || after = some '\r' ||
      (after = some '\n' && before ≠ some '\r')
  | wordBoundary ascii => isWord ascii before != isWord ascii after
  | noWordBoundary ascii => isWord ascii before == isWord ascii after
  | wordStart ascii => !isWord ascii before && isWord ascii after
  | wordEnd ascii => isWord ascii before && !isWord ascii after
  | wordStartHalf ascii => !isWord ascii before
  | wordEndHalf ascii => !isWord ascii after

end Look

inductive Expr
  | empty
  /-- One character of the set. -/
  | one (set : CodeSet)
  | look (test : Look)
  | seq (first second : Expr)
  | alt (first second : Expr)
  /-- The body at least `least` times, and at most `most` times if that is
  given. -/
  | repeated (body : Expr) (least : Nat) (most : Option Nat)
  /-- A group that is counted. -/
  | capture (body : Expr)
  deriving DecidableEq, Repr

mutual

/-- `Spans before middle after e`: the expression `e` matches the stretch
`middle` of the text `before ++ middle ++ after`. -/
inductive Spans : Text → Text → Text → Expr → Prop
  | empty (before after : Text) : Spans before [] after .empty
  | one (before after : Text) (set : CodeSet) (c : Char)
      (h : set.contains c = true) :
      Spans before [c] after (.one set)
  | look (before after : Text) (test : Look)
      (h : test.holds before.getLast? after.head? = true) :
      Spans before [] after (.look test)
  | seq (before first second after : Text) (e f : Expr)
      (he : Spans before first (second ++ after) e)
      (hf : Spans (before ++ first) second after f) :
      Spans before (first ++ second) after (.seq e f)
  | altLeft (before middle after : Text) (e f : Expr)
      (he : Spans before middle after e) :
      Spans before middle after (.alt e f)
  | altRight (before middle after : Text) (e f : Expr)
      (hf : Spans before middle after f) :
      Spans before middle after (.alt e f)
  | repeated (before middle after : Text) (e : Expr) (least times : Nat)
      (most : Option Nat)
      (hleast : least ≤ times) (hmost : ∀ m ∈ most, times ≤ m)
      (he : SpansTimes before middle after e times) :
      Spans before middle after (.repeated e least most)
  | capture (before middle after : Text) (e : Expr)
      (he : Spans before middle after e) :
      Spans before middle after (.capture e)

/-- `SpansTimes before middle after e n`: the stretch `middle` is `n` matches of
`e` in a row. -/
inductive SpansTimes : Text → Text → Text → Expr → Nat → Prop
  | none (before after : Text) (e : Expr) : SpansTimes before [] after e 0
  | more (before first second after : Text) (e : Expr) (n : Nat)
      (he : Spans before first (second ++ after) e)
      (hn : SpansTimes (before ++ first) second after e n) :
      SpansTimes before (first ++ second) after e (n + 1)

end

end Stubgen.Regex
