import Stubgen.Regex.Escape

/-!
# Bracketed classes

A class in brackets unites characters, ranges, named classes and nested classes,
and combines such unions by intersection, difference and symmetric difference,
all of one strength and grouped from the left.  The reader keeps the open
brackets and the pending operators on a stack.
-/

namespace Stubgen.Regex

structure ClassPart where
  set : CodeSet
  depth : Nat
  deriving DecidableEq, Repr

structure ClassUnion where
  set : CodeSet
  depth : Nat
  size : Nat
  deriving DecidableEq, Repr

namespace ClassUnion

def empty : ClassUnion := ⟨CodeSet.empty, 0, 0⟩

def push (u : ClassUnion) (part : ClassPart) : ClassUnion :=
  ⟨u.set.union part.set, max u.depth part.depth, u.size + 1⟩

/-- The union as one part: two parts or more are one level of nesting. -/
def toPart (u : ClassUnion) : ClassPart :=
  ⟨u.set, if u.size < 2 then u.depth else u.depth + 1⟩

end ClassUnion

inductive ClassOp
  | intersection
  | difference
  | symmetricDifference
  deriving DecidableEq, Repr

def ClassOp.apply : ClassOp → CodeSet → CodeSet → CodeSet
  | intersection => CodeSet.inter
  | difference => CodeSet.diff
  | symmetricDifference => CodeSet.symmDiff

inductive ClassFrame
  /-- A bracket, with the union in which it stands. -/
  | bracket (outer : ClassUnion) (negated : Bool)
  /-- An operator, with its left operand. -/
  | operator (op : ClassOp) (left : ClassPart)
  deriving DecidableEq, Repr

/-- The operand `right` combined with the operator that waits on top of the
stack, if one does. -/
def combinePending (flags : Flags) (right : ClassPart) :
    List ClassFrame → ClassPart × List ClassFrame
  | .operator op left :: stack =>
    (⟨op.apply (flags.fold left.set) (flags.fold right.set),
      max left.depth right.depth + 1⟩, stack)
  | stack => (right, stack)

def asciiClass? (name : Text) : Option CodeSet :=
  let lower := CodeSet.range 0x61 0x7A
  let upper := CodeSet.range 0x41 0x5A
  let digit := CodeSet.range 0x30 0x39
  let alpha := lower.union upper
  if name = "alnum".toList then some (alpha.union digit)
  else if name = "alpha".toList then some alpha
  else if name = "ascii".toList then some (CodeSet.range 0 0x7F)
  else if name = "blank".toList then some (CodeSet.ofPoints [0x09, 0x20])
  else if name = "cntrl".toList then
    some ((CodeSet.range 0 0x1F).union (CodeSet.singleton 0x7F))
  else if name = "digit".toList then some digit
  else if name = "graph".toList then some (CodeSet.range 0x21 0x7E)
  else if name = "lower".toList then some lower
  else if name = "print".toList then some (CodeSet.range 0x20 0x7E)
  else if name = "punct".toList then
    some ((CodeSet.range 0x21 0x7E).diff (alpha.union digit))
  else if name = "space".toList then
    some ((CodeSet.range 9 13).union (CodeSet.singleton 0x20))
  else if name = "upper".toList then some upper
  else if name = "word".toList then some asciiWord
  else if name = "xdigit".toList then
    some (CodeSet.unionAll [digit, CodeSet.range 0x41 0x46,
      CodeSet.range 0x61 0x66])
  else none

/-- Reads a named ASCII class such as `[:alpha:]` or `[:^alpha:]`: whether it is
negated, its members, and what follows. -/
def readAsciiClass? (t : Text) : Option (Bool × CodeSet × Text) :=
  (Text.afterLabel? ['[', ':'] t).bind fun body =>
    let (negated, name) :=
      match body with
      | '^' :: rest => (true, rest)
      | _ => (false, body)
    (Text.afterLabel? [':', ']'] (name.dropWhile (· ≠ ':'))).bind fun rest =>
      (asciiClass? (name.takeWhile (· ≠ ':'))).map fun set =>
        (negated, set, rest)

def readClassPrimitive? (verbose : Bool) : Text → Option (Primitive × Text)
  | [] => none
  | '\\' :: rest => readEscape? verbose rest
  | c :: rest => some (.character c false, rest)

def Primitive.members? (flags : Flags) : Primitive → Option CodeSet
  | character c isByte => (flags.classMember? c isByte).map CodeSet.singleton
  | dot => none
  | assertion _ => none
  | shorthand kind negated => flags.shorthandSet? kind negated
  | property name negated => name.set? flags negated

/-- The character behind a hyphen that decides whether the hyphen makes a range.
In a verbose pattern it is the first character that is no blank, and the mark
that starts a comment is passed over like a blank, but only once. -/
def afterBlanks? (verbose : Bool) (t : Text) : Option Char :=
  if !verbose then t.head?
  else
    match Text.trimStart t with
    | '#' :: rest => (Text.trimStart rest).head?
    | t => t.head?

/-- Reads a range of characters or one member of a class.  A hyphen before the
end of the class or before another hyphen makes no range. -/
def readRange? (flags : Flags) (t : Text) : Option (CodeSet × Text) := do
  let gap := skipGap flags.verbose
  let (low, t) ← readClassPrimitive? flags.verbose t
  match gap t with
  | [] => none
  | '-' :: afterHyphen =>
    let next := afterBlanks? flags.verbose afterHyphen
    if next = some ']' || next = some '-' then
      return (← low.members? flags, gap t)
    let (high, rest) ← readClassPrimitive? flags.verbose (gap afterHyphen)
    match low, high with
    | .character c cIsByte, .character d dIsByte =>
      let first ← flags.classMember? c cIsByte
      let last ← flags.classMember? d dIsByte
      if c.toNat ≤ d.toNat then return (CodeSet.range first last, rest)
      else none
    | _, _ => none
  | t => return (← low.members? flags, t)

/-- The hyphens at the start of a class, which stand for themselves. -/
def readLeadingHyphens (verbose : Bool) (union : ClassUnion) :
    Text → ClassUnion × Text
  | [] => (union, [])
  | '-' :: rest =>
    readLeadingHyphens verbose (union.push ⟨CodeSet.singleton 0x2D, 0⟩)
      (skipGap verbose rest)
  | t => (union, t)
termination_by t => t.length
decreasing_by
  have := length_skipGap_le verbose rest
  simp only [List.length_cons]
  omega

/-- Reads the start of a class behind its bracket: whether it is negated, and
the members that may stand only there, leading hyphens and a leading closing
bracket. -/
def readClassStart? (verbose : Bool) (t : Text) :
    Option (Bool × ClassUnion × Text) :=
  let t := skipGap verbose t
  let (negated, t) :=
    match t with
    | '^' :: rest => (true, skipGap verbose rest)
    | _ => (false, t)
  let (union, t) := readLeadingHyphens verbose ClassUnion.empty t
  match t with
  | [] => none
  | ']' :: rest =>
    if union.size = 0 then
      let rest := skipGap verbose rest
      if rest.isEmpty then none
      else some (negated, union.push ⟨CodeSet.singleton 0x5D, 0⟩, rest)
    else some (negated, union, t)
  | _ => some (negated, union, t)

/-- Reads a class on from the union `union` inside the brackets and operators of
`stack`. -/
def readClassBody? (flags : Flags) (stack : List ClassFrame)
    (union : ClassUnion) (t : Text) : Option (ClassPart × Text) :=
  let continueWith (stack : List ClassFrame) (union : ClassUnion)
      (rest : Text) : Option (ClassPart × Text) :=
    if rest.length < t.length then readClassBody? flags stack union rest
    else none
  let operator (op : ClassOp) (rest : Text) : Option (ClassPart × Text) :=
    let (left, stack) := combinePending flags union.toPart stack
    continueWith (.operator op left :: stack) ClassUnion.empty rest
  match skipGap flags.verbose t with
  | [] => none
  | '[' :: rest =>
    match readAsciiClass? ('[' :: rest) with
    | some (negated, members, rest) =>
      (flags.classSet? negated members).bind fun set =>
        continueWith stack (union.push ⟨set, 0⟩) rest
    | none =>
      (readClassStart? flags.verbose rest).bind fun (negated, inner, rest) =>
        continueWith (.bracket union negated :: stack) inner rest
  | ']' :: rest =>
    let (part, stack) := combinePending flags union.toPart stack
    match stack with
    | .bracket outer negated :: stack =>
      (flags.classSet? negated part.set).bind fun set =>
        let closed : ClassPart := ⟨set, part.depth + 1⟩
        if stack.isEmpty then some (closed, rest)
        else continueWith stack (outer.push closed) rest
    | _ => none
  | '&' :: '&' :: rest => operator .intersection rest
  | '-' :: '-' :: rest => operator .difference rest
  | '~' :: '~' :: rest => operator .symmetricDifference rest
  | t =>
    (readRange? flags t).bind fun (set, rest) =>
      continueWith stack (union.push ⟨set, 0⟩) rest
termination_by t.length

def readClass? (flags : Flags) (t : Text) : Option (ClassPart × Text) :=
  (readClassStart? flags.verbose t).bind fun (negated, union, rest) =>
    readClassBody? flags [.bracket ClassUnion.empty negated] union rest

end Stubgen.Regex
