import Stubgen.Regex.Class

/-!
# Patterns

A pattern is read token by token.  The reader holds the expressions of the
innermost open group and a stack of the groups around it; a token extends the
innermost group, opens one or closes one.  A flag that is set inside a group
holds to the end of that group.
-/

namespace Stubgen.Regex

structure Piece where
  expr : Option Expr
  depth : Nat
  deriving DecidableEq, Repr

namespace Piece

def concat : List Piece → Piece
  | [] => ⟨some .empty, 0⟩
  | [p] => ⟨some (p.expr.getD .empty), p.depth⟩
  | pieces =>
    ⟨some (sequence (pieces.filterMap (·.expr))),
      pieces.foldl (fun d p => max d p.depth) 0 + 1⟩
where
  sequence : List Expr → Expr
    | [] => .empty
    | [e] => e
    | e :: rest => .seq e (sequence rest)

/-- One of the pieces of a list, which is not empty. -/
def choice : List Piece → Piece
  | [] => ⟨some .empty, 0⟩
  | [p] => p
  | pieces =>
    ⟨some (alternatives (pieces.filterMap (·.expr))),
      pieces.foldl (fun d p => max d p.depth) 0 + 1⟩
where
  alternatives : List Expr → Expr
    | [] => .empty
    | [e] => e
    | e :: rest => .alt e (alternatives rest)

end Piece

inductive Token
  | piece (p : Piece)
  | openGroup (changes : List (Char × Bool)) (captures : Bool)
    (name : Option Text)
  | closeGroup
  | bar
  | setFlags (changes : List (Char × Bool))
  | quantifier (least : Nat) (most : Option Nat)
  deriving DecidableEq, Repr

/-- Reads flags up to the colon or the bracket that ends them: the changes,
whether a bracket ended them, and what follows.  `seen` are the letters read so
far, `negated` says that the hyphen stood already, and `dangling` that it was
the last character. -/
def readFlags? (seen : Text) (negated dangling : Bool) :
    Text → Option (List (Char × Bool) × Bool × Text)
  | [] => none
  | c :: rest =>
    if c = ':' then if dangling then none else some ([], false, rest)
    else if c = ')' then if dangling then none else some ([], true, rest)
    else if c = '-' then
      if negated then none else readFlags? seen true true rest
    else if Flags.letters.contains c && !seen.contains c then
      (readFlags? (c :: seen) negated false rest).map
        fun (changes, atEnd, after) => ((c, !negated) :: changes, atEnd, after)
    else none

/-- Reads the name of a group up to its closing angle bracket. -/
def readGroupName? (t : Text) : Option (Text × Text) :=
  let name := t.takeWhile (· ≠ '>')
  let mayStart (c : Char) : Bool :=
    c = '_' || CharProperty.alphabetic.contains c
  let mayFollow (c : Char) : Bool :=
    c = '_' || c = '.' || c = '[' || c = ']' ||
      CharProperty.alphanumeric.contains c
  match name, t.dropWhile (· ≠ '>') with
  | c :: cs, _ :: rest =>
    if mayStart c && cs.all mayFollow then some (name, rest) else none
  | _, _ => none

/-- Whether a look-around begins, which no pattern may hold. -/
def startsLookAround (t : Text) : Bool :=
  ["?=", "?!", "?<=", "?<!"].any fun label => label.toList.isPrefixOf t

/-- Reads what follows an opening bracket up to the body of the group. -/
def readGroupStart? (verbose : Bool) (t : Text) : Option (Token × Text) :=
  let t := skipGap verbose t
  if startsLookAround t then none
  else
    match Text.afterLabel? "?P<".toList t <|>
      Text.afterLabel? "?<".toList t with
    | some rest =>
      (readGroupName? rest).map fun (name, after) =>
        (.openGroup [] true (some name), after)
    | none =>
      match t with
      | '?' :: rest =>
        (readFlags? [] false false rest).bind fun (changes, atEnd, after) =>
          if !atEnd then some (.openGroup changes false none, after)
          else if rest.head? = some ')' then none
          else some (.setFlags changes, after)
      | _ => some (.openGroup [] true none, t)

/-- The question mark behind a quantifier, which asks for the shortest match. -/
def skipLazy : Text → Text
  | '?' :: rest => rest
  | t => t

def maxCount : Nat := Nat.pow 2 32 - 1

/-- Reads the number of a count, with the blanks around it. -/
def readCount? (verbose : Bool) (t : Text) : Option (Option Nat × Text) :=
  let (digits, rest) := spacedRun Char.isDigit verbose (Text.trimStart t)
  let rest := skipBlanks rest
  if digits.isEmpty then some (none, rest)
  else if Text.foldDigits 0 digits ≤ maxCount then
    some (some (Text.foldDigits 0 digits), rest)
  else none
where
  /-- Blanks, and in a verbose pattern the gap behind each of them. -/
  skipBlanks : Text → Text
    | [] => []
    | c :: rest =>
      if Text.isBlank c then skipGap verbose (Text.trimStart rest)
      else c :: rest

/-- Reads a quantifier in braces behind its opening brace. -/
def readBraces? (verbose : Bool) (t : Text) : Option (Token × Text) := do
  let finish (least : Nat) (most : Option Nat) (t : Text) :
      Option (Token × Text) :=
    match t with
    | '\x7d' :: rest =>
      if (most.map fun m => decide (least ≤ m)).getD true then
        some (.quantifier least most, skipLazy (skipGap verbose rest))
      else none
    | _ => none
  let (least, t) ← readCount? verbose (skipGap verbose t)
  let least ← least
  match t with
  | ',' :: rest =>
    match skipGap verbose rest with
    | '\x7d' :: rest => finish least none ('\x7d' :: rest)
    | t =>
      let (most, t) ← readCount? verbose t
      finish least (some (← most)) t
  | t => finish least (some least) t

/-- Reads the token at the start of a text that starts with no gap. -/
def Token.read? (flags : Flags) : Text → Option (Token × Text)
  | [] => none
  | '(' :: rest => readGroupStart? flags.verbose rest
  | ')' :: rest => some (.closeGroup, rest)
  | '|' :: rest => some (.bar, rest)
  | '[' :: rest =>
    (readClass? flags rest).map fun (part, after) =>
      (.piece ⟨some (.one part.set), part.depth⟩, after)
  | '?' :: rest => some (.quantifier 0 (some 1), skipLazy rest)
  | '*' :: rest => some (.quantifier 0 none, skipLazy rest)
  | '+' :: rest => some (.quantifier 1 none, skipLazy rest)
  | '\x7b' :: rest => readBraces? flags.verbose rest
  | t =>
    (readPrimitive? flags.verbose t).bind fun (primitive, after) =>
      (primitive.expr? flags).map fun e => (.piece ⟨some e, 0⟩, after)

structure Level where
  alternatives : List Piece := []
  pieces : List Piece := []
  deriving DecidableEq, Repr

def Level.toPiece (l : Level) : Piece :=
  Piece.choice (Piece.concat l.pieces.reverse :: l.alternatives).reverse

structure OuterGroup where
  level : Level
  flags : Flags
  captures : Bool
  deriving DecidableEq, Repr

structure ParserState where
  flags : Flags := {}
  level : Level := {}
  outer : List OuterGroup := []
  names : List Text := []
  deriving DecidableEq, Repr

namespace ParserState

def push (s : ParserState) (p : Piece) : ParserState :=
  { s with level := { s.level with pieces := p :: s.level.pieces } }

def enter (s : ParserState) (changes : List (Char × Bool)) (captures : Bool) :
    ParserState :=
  { s with
    flags := s.flags.setAll changes
    level := {}
    outer := ⟨s.level, s.flags, captures⟩ :: s.outer }

/-- Takes one token in.  A quantifier needs something to repeat, a closing
bracket an open group, and the names of groups are all different. -/
def take? (s : ParserState) : Token → Option ParserState
  | .piece p => some (s.push p)
  | .setFlags changes =>
    some { s.push ⟨none, 0⟩ with flags := s.flags.setAll changes }
  | .bar =>
    some { s with level :=
      ⟨Piece.concat s.level.pieces.reverse :: s.level.alternatives, []⟩ }
  | .quantifier least most =>
    match s.level.pieces with
    | ⟨some e, depth⟩ :: rest =>
      some { s with
        level := { s.level with
          pieces := ⟨some (.repeated e least most), depth + 1⟩ :: rest } }
    | _ => none
  | .openGroup changes captures name =>
    match name with
    | some name =>
      if s.names.contains name then none
      else some { s.enter changes captures with names := name :: s.names }
    | none => some (s.enter changes captures)
  | .closeGroup =>
    match s.outer with
    | [] => none
    | group :: outer =>
      let inner := s.level.toPiece
      let body := inner.expr.getD .empty
      let e := if group.captures then .capture body else body
      some <| push
        { s with flags := group.flags, level := group.level, outer := outer }
        ⟨some e, inner.depth + 1⟩

def run? (s : ParserState) (t : Text) : Option ParserState :=
  match skipGap s.flags.verbose t with
  | [] => some s
  | c :: rest =>
    match Token.read? s.flags (c :: rest) with
    | none => none
    | some (token, after) =>
      match s.take? token with
      | none => none
      | some s => if after.length < t.length then s.run? after else none
termination_by t.length

end ParserState

def parse? (pattern : Text) : Option Piece :=
  (ParserState.run? {} pattern).bind fun s =>
    if s.outer.isEmpty then some s.level.toPiece else none

end Stubgen.Regex
