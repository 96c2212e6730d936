import Stubgen.Text.Basic

/-!
# Sets of code points

A set of code points is kept as the increasing list of the points where
membership changes.  The set operations are one sweep over two such lists, and a
table of a character property is the list of the lengths of its runs.
-/

namespace Stubgen

/-- A set of code points.  Going up from zero, outside the set, every boundary
changes sides. -/
structure CodeSet where
  boundaries : List Nat
  deriving DecidableEq, Repr

namespace CodeSet

/-- The code points are the numbers below this one. -/
def codePointLimit : Nat := 0x110000

/-- Whether `n` is on the inside, coming from the side `inside` over the
boundaries. -/
def holdsFrom (n : Nat) (inside : Bool) : List Nat → Bool
  | [] => inside
  | b :: bs => if n < b then inside else holdsFrom n (!inside) bs

/-- Membership of a code point given by its number. -/
def holds (s : CodeSet) (n : Nat) : Bool := holdsFrom n false s.boundaries

def contains (s : CodeSet) (c : Char) : Bool := s.holds c.toNat

def empty : CodeSet := ⟨[]⟩

/-- The code points from `first` to `last`, both included. -/
def range (first last : Nat) : CodeSet :=
  ⟨if first ≤ last then [first, last + 1] else []⟩

def singleton (n : Nat) : CodeSet := range n n

/-- The two set sides `x` and `y` are followed over both boundary lists at once;
a boundary of the result stands where `op x y` changes. -/
def sweep (op : Bool → Bool → Bool) (x y : Bool) :
    List Nat → List Nat → List Nat
  | [], [] => []
  | a :: as, [] => change a (op x y) (op (!x) y) (sweep op (!x) y as [])
  | [], b :: bs => change b (op x y) (op x (!y)) (sweep op x (!y) [] bs)
  | a :: as, b :: bs =>
    if a < b then change a (op x y) (op (!x) y) (sweep op (!x) y as (b :: bs))
    else if b < a then
      change b (op x y) (op x (!y)) (sweep op x (!y) (a :: as) bs)
    else change a (op x y) (op (!x) (!y)) (sweep op (!x) (!y) as bs)
termination_by as bs => as.length + bs.length
where
  change (point : Nat) (before after : Bool) (rest : List Nat) : List Nat :=
    if before = after then rest else point :: rest

def union (s t : CodeSet) : CodeSet :=
  ⟨sweep (· || ·) false false s.boundaries t.boundaries⟩

def inter (s t : CodeSet) : CodeSet :=
  ⟨sweep (· && ·) false false s.boundaries t.boundaries⟩

def diff (s t : CodeSet) : CodeSet :=
  ⟨sweep (fun x y => x && !y) false false s.boundaries t.boundaries⟩

def symmDiff (s t : CodeSet) : CodeSet :=
  ⟨sweep xor false false s.boundaries t.boundaries⟩

def compl (s : CodeSet) : CodeSet :=
  match s.boundaries with
  | 0 :: bs => ⟨bs⟩
  | bs => ⟨0 :: bs⟩

def all : CodeSet := compl empty

def unionAll (sets : List CodeSet) : CodeSet := sets.foldl union empty

def ofPoints (points : List Nat) : CodeSet := ⟨go (points.mergeSort (· ≤ ·))⟩
where
  go : List Nat → List Nat
    | [] => []
    | n :: rest =>
      match go rest with
      | [] => [n, n + 1]
      | b :: bs =>
        if b = n then b :: bs
        else if b = n + 1 then n :: bs else n :: (n + 1) :: b :: bs

/-- The set whose runs have the given lengths: the first run lies outside, the
second inside, and so on in turn. -/
def ofRuns (lengths : List Nat) : CodeSet := ⟨go 0 lengths⟩
where
  go (position : Nat) : List Nat → List Nat
    | [] => []
    | n :: rest =>
      if n = 0 then go position rest
      else (position + n) :: go (position + n) rest

/-- The pairs of first and last code point of the maximal ranges of the set. -/
def ranges (s : CodeSet) : List (Nat × Nat) := go s.boundaries
where
  go : List Nat → List (Nat × Nat)
    | [] => []
    | [first] =>
      if first < codePointLimit then [(first, codePointLimit - 1)] else []
    | first :: stop :: rest => (first, stop - 1) :: go rest

def isAscii (s : CodeSet) : Bool := s.ranges.all fun r => r.2 < 0x80

def numbers (table : String) : List Nat :=
  (Text.words table.toList).map (Text.foldDigits 0)

end CodeSet

/-- A property that gives every code point one value, as runs of code points of
one value in increasing order. -/
abbrev Runs := List (Nat × Text)

namespace Runs

/-- Reads a table in text form: the length of each run and, behind it, the run's
value. -/
def read (table : String) : Runs := pairs (Text.words table.toList)
where
  pairs : List Text → Runs
    | count :: value :: rest => (Text.foldDigits 0 count, value) :: pairs rest
    | _ => []

/-- The code points whose value is one of `values`. -/
def having (values : List Text) (runs : Runs) : CodeSet := ⟨go 0 false runs⟩
where
  go (position : Nat) (inside : Bool) : Runs → List Nat
    | [] => if inside then [position] else []
    | (count, value) :: rest =>
      if values.contains value = inside then go (position + count) inside rest
      else position :: go (position + count) (!inside) rest

end Runs
end Stubgen
