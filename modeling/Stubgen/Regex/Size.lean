import Stubgen.Regex.Basic

/-!
# Compiled size

A pattern may not be larger than a fixed number of bytes once it is compiled to
automata over UTF-8 bytes, one that reads a text forwards and one that reads it
backwards.  This module computes the two sizes without building the automata.
-/

namespace Stubgen.Regex

/-- The bytes of a state, without the transitions that it lists. -/
def stateBytes : Nat := 32

/-- The bytes of a transition that is listed in a state. -/
def transitionBytes : Nat := 8

/-- The bytes of a way out of a state that branches without reading. -/
def branchBytes : Nat := 4

def sizeLimit : Nat := 10 * Nat.pow 2 20

inductive Direction
  | forwards
  | backwards
  deriving DecidableEq, Repr

/-- Ranges of bytes, one for each byte of an encoded character. -/
abbrev ByteRanges := List (Nat × Nat)

/-- The UTF-8 bytes of the character with code `n`. -/
def utf8Bytes (n : Nat) : List Nat :=
  if n < 0x80 then [n]
  else if n < 0x800 then [0xC0 + n / 0x40, 0x80 + n % 0x40]
  else if n < 0x10000 then
    [0xE0 + n / 0x1000, 0x80 + n / 0x40 % 0x40, 0x80 + n % 0x40]
  else
    [0xF0 + n / 0x40000, 0x80 + n / 0x1000 % 0x40, 0x80 + n / 0x40 % 0x40,
      0x80 + n % 0x40]

/-- Where a range of codes has to be cut so that the encodings on each side are
the product of their byte ranges; the cut lies before the returned code. -/
def cut? (first last : Nat) : Option Nat :=
  if first ≤ 0x7F ∧ 0x7F < last then some 0x80
  else if first ≤ 0x7FF ∧ 0x7FF < last then some 0x800
  else if first ≤ 0xFFFF ∧ 0xFFFF < last then some 0x10000
  else if last < 0x80 then none
  else alignedCut 0x40 <|> alignedCut 0x1000 <|> alignedCut 0x40000
where
  /-- The cut that aligns the range with blocks of codes that share their
  leading bytes. -/
  alignedCut (block : Nat) : Option Nat :=
    if first / block = last / block then none
    else if first % block ≠ 0 then some ((first / block + 1) * block)
    else if last % block ≠ block - 1 then some (last / block * block)
    else none

/-- The byte ranges whose products are the encodings of the codes from `first`
to `last`. -/
def byteRanges (first last : Nat) : List ByteRanges :=
  match cut? first last with
  | none => [(utf8Bytes first).zip (utf8Bytes last)]
  | some middle =>
    if first < middle ∧ middle ≤ last then
      byteRanges first (middle - 1) ++ byteRanges middle last
    else []
termination_by last - first

/-- The byte ranges of the encodings of a set of characters. -/
def encodings (s : CodeSet) : List ByteRanges :=
  (s.diff (CodeSet.range 0xD800 0xDFFF)).ranges.flatMap fun r =>
    byteRanges r.1 r.2

/-- The sequences grouped by their first range: each range with the tails behind
it. -/
def groupByHead : List ByteRanges → List ((Nat × Nat) × List ByteRanges)
  | [] => []
  | [] :: rest => groupByHead rest
  | (r :: tail) :: rest =>
    match groupByHead rest with
    | (r', tails) :: groups =>
      if r = r' then (r, tail :: tails) :: groups
      else (r, [tail]) :: (r', tails) :: groups
    | [] => [(r, [tail])]

/-- The states of the tree of some sequences, each as the sequences that may
follow it. -/
def treeStates : (depth : Nat) → List ByteRanges → List (List ByteRanges)
  | 0, _ => []
  | depth + 1, sequences =>
    let groups := groupByHead sequences
    if groups.isEmpty then []
    else sequences :: groups.flatMap fun g => treeStates depth g.2

/-- How many ranges at the start two sequences share. -/
def sharedPrefix : ByteRanges → ByteRanges → Nat
  | a :: as, b :: bs => if a = b then sharedPrefix as bs + 1 else 0
  | _, _ => 0

/-- The number of different beginnings of the sequences of a sorted list. -/
def beginnings (previous : ByteRanges) : List ByteRanges → Nat
  | [] => 0
  | s :: rest => s.length - sharedPrefix previous s + beginnings s rest

def setSize (direction : Direction) (s : CodeSet) : Nat :=
  match s.ranges with
  | [] => stateBytes
  | [(first, last)] =>
    if first = last then stateBytes * (utf8Bytes first).length else ofRanges
  | _ => ofRanges
where
  ofRanges : Nat :=
    if s.isAscii then 2 * stateBytes + transitionBytes * s.ranges.length
    else
      let sequences := encodings s
      match direction with
      | .forwards =>
        let states := (treeStates 4 sequences).eraseDups
        states.foldl
          (fun n t =>
            n + (stateBytes + transitionBytes * (groupByHead t).length))
          stateBytes
      | .backwards =>
        2 * stateBytes + branchBytes * sequences.length +
          stateBytes * beginnings [] sequences

namespace Expr

/-- Whether the expression takes no character whatever it matches. -/
def takesNothing : Expr → Bool
  | empty => true
  | one _ => false
  | look _ => true
  | seq e f => e.takesNothing && f.takesNothing
  | alt e f => e.takesNothing && f.takesNothing
  | repeated e _ most => e.takesNothing || most == some 0
  | capture e => e.takesNothing

/-- Whether every match of the expression takes a character. -/
def alwaysTakes : Expr → Bool
  | empty => false
  | one s => !s.ranges.isEmpty
  | look _ => false
  | seq e f => e.alwaysTakes || f.alwaysTakes
  | alt e f => e.alwaysTakes && f.alwaysTakes
  | repeated e least _ => 0 < least && e.alwaysTakes
  | capture e => e.alwaysTakes

/-- The union of the sets of an alternation of sets. -/
def setOfAlternatives? : Expr → Option CodeSet
  | one s => some s
  | alt e f =>
    match e.setOfAlternatives?, f.setOfAlternatives? with
    | some s, some t => some (s.union t)
    | _, _ => none
  | _ => none

/-- The size of a repetition, from the size of its body.  A body that takes
nothing is repeated at most once. -/
def repeatedSize (body : Expr) (bodySize least : Nat) (most : Option Nat) :
    Nat :=
  let branch := stateBytes + 2 * branchBytes
  let least := if body.takesNothing then min least 1 else least
  let most := if body.takesNothing then some (min (most.getD 1) 1) else most
  match most with
  | none =>
    if least = 0 then
      if body.alwaysTakes then bodySize + branch
      else bodySize + 2 * branch + stateBytes
    else least * bodySize + branch
  | some most =>
    if most = 0 then stateBytes
    else if most = least then least * bodySize
    else
      (if least = 0 ∧ most > 1 then stateBytes else 0) + least * bodySize +
        stateBytes + (most - least) * (bodySize + branch)

mutual

/-- The size of the automaton of an expression. -/
def size (direction : Direction) : Expr → Nat
  | empty => stateBytes
  | one s => setSize direction s
  | look _ => stateBytes
  | seq e f => sizeInSequence direction e + sizeInSequence direction f
  | alt e f =>
    match (alt e f).setOfAlternatives? with
    | some s => setSize direction s
    | none =>
      2 * stateBytes + sizeInAlternation direction e +
        sizeInAlternation direction f
  | repeated e least most => repeatedSize e (size direction e) least most
  | capture e =>
    match direction with
    | .forwards => 2 * stateBytes + size direction e
    | .backwards => size direction e

/-- The size of a part of a sequence, where an empty part needs no state. -/
def sizeInSequence (direction : Direction) : Expr → Nat
  | empty => 0
  | e => size direction e

/-- The size of a part of an alternation together with the branches that lead to
it. -/
def sizeInAlternation (direction : Direction) : Expr → Nat
  | alt e f => sizeInAlternation direction e + sizeInAlternation direction f
  | e => branchBytes + size direction e

end

/-- The size of the automaton of a whole pattern: the expression, the states
around it, and a way to start a match at any place unless the pattern starts
with the start of the text. -/
def compiledSize (direction : Direction) (e : Expr) : Nat :=
  size direction e +
    match direction with
    | .forwards => 4 * stateBytes
    | .backwards => 3 * stateBytes + 2 * branchBytes

end Expr
end Stubgen.Regex
