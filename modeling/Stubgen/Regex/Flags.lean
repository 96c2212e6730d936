import Stubgen.Unicode.CaseMap
import Stubgen.Regex.Basic

/-!
# Flags

The flags that hold at a place of a pattern decide what its characters mean.
This module gives the expression of a character, of the dot and of an assertion
under given flags, and the operations on character classes that depend on them.
-/

namespace Stubgen.Regex

structure Flags where
  ignoreCase : Bool := false
  multiLine : Bool := false
  dotMatchesLineFeed : Bool := false
  swapGreed : Bool := false
  unicode : Bool := true
  crlf : Bool := false
  verbose : Bool := false
  deriving DecidableEq, Repr

namespace Flags

def letters : Text := ['i', 'm', 's', 'U', 'u', 'R', 'x']

def set (f : Flags) (letter : Char) (value : Bool) : Flags :=
  match letter with
  | 'i' => { f with ignoreCase := value }
  | 'm' => { f with multiLine := value }
  | 's' => { f with dotMatchesLineFeed := value }
  | 'U' => { f with swapGreed := value }
  | 'u' => { f with unicode := value }
  | 'R' => { f with crlf := value }
  | 'x' => { f with verbose := value }
  | _ => f

def setAll (f : Flags) (changes : List (Char × Bool)) : Flags :=
  changes.foldl (fun f change => f.set change.1 change.2) f

end Flags

inductive Assertion
  | lineStart
  | lineEnd
  | textStart
  | textEnd
  | wordBoundary
  | noWordBoundary
  | wordStart
  | wordEnd
  | wordStartHalf
  | wordEndHalf
  deriving DecidableEq, Repr

inductive Shorthand
  | digit
  | space
  | word
  deriving DecidableEq, Repr

def Assertion.look (flags : Flags) : Assertion → Look
  | lineStart =>
    if flags.multiLine then if flags.crlf then .lineStartAnyEnd else .lineStart
    else .textStart
  | lineEnd =>
    if flags.multiLine then if flags.crlf then .lineEndAnyEnd else .lineEnd
    else .textEnd
  | textStart => .textStart
  | textEnd => .textEnd
  | wordBoundary => .wordBoundary (!flags.unicode)
  | noWordBoundary => .noWordBoundary (!flags.unicode)
  | wordStart => .wordStart (!flags.unicode)
  | wordEnd => .wordEnd (!flags.unicode)
  | wordStartHalf => .wordStartHalf (!flags.unicode)
  | wordEndHalf => .wordEndHalf (!flags.unicode)

namespace Flags

def asciiOtherCase (n : Nat) : Option Nat :=
  if 0x41 ≤ n ∧ n ≤ 0x5A then some (n + 32)
  else if 0x61 ≤ n ∧ n ≤ 0x7A then some (n - 32)
  else none

/-- The set with every character that differs from a member in case only, if
case is ignored. -/
def fold (flags : Flags) (s : CodeSet) : CodeSet :=
  if !flags.ignoreCase then s
  else if flags.unicode then CaseMap.foldClosure s
  else
    s.union <| CodeSet.ofPoints <|
      ((List.range 0x80).filter s.holds).filterMap asciiOtherCase

/-- The complement: of bytes where Unicode is off, of all characters
elsewhere. -/
def negate (flags : Flags) (s : CodeSet) : CodeSet :=
  if flags.unicode then s.compl else s.compl.inter (CodeSet.range 0 0xFF)

/-- The set that a class stands for whose members are `s`.  Where Unicode is
off, a class may hold ASCII characters only, because a lone byte above them is
no text. -/
def classSet? (flags : Flags) (negated : Bool) (s : CodeSet) : Option CodeSet :=
  let folded := flags.fold s
  let result := if negated then flags.negate folded else folded
  if flags.unicode || result.isAscii then some result else none

def shorthandSet? (flags : Flags) (kind : Shorthand) (negated : Bool) :
    Option CodeSet :=
  let members :=
    if flags.unicode then
      match kind with
      | .digit => CharProperty.digits
      | .space => CharProperty.spaces
      | .word => CharProperty.wordCharacters
    else
      match kind with
      | .digit => CodeSet.range 0x30 0x39
      | .space => (CodeSet.range 9 13).union (CodeSet.singleton 0x20)
      | .word => asciiWord
  let result := if negated then flags.negate members else members
  if flags.unicode || result.isAscii then some result else none

/-- The expression of a character.  `isByte` says that it was written as the
code of a byte, which is no text above ASCII where Unicode is off. -/
def character? (flags : Flags) (c : Char) (isByte : Bool) : Option Expr :=
  if flags.unicode then some (.one (flags.fold (CodeSet.singleton c.toNat)))
  else if c.toNat < 0x80 then
    some (.one (flags.fold (CodeSet.singleton c.toNat)))
  else if isByte then none
  else some (.one (CodeSet.singleton c.toNat))

def classMember? (flags : Flags) (c : Char) (isByte : Bool) : Option Nat :=
  if flags.unicode || isByte || c.toNat < 0x80 then some c.toNat else none

/-- The expression of the dot: any character but a line end. -/
def dot? (flags : Flags) : Option Expr :=
  if !flags.unicode then none
  else if flags.dotMatchesLineFeed then some (.one CodeSet.all)
  else if flags.crlf then some (.one (CodeSet.ofPoints [0x0A, 0x0D]).compl)
  else some (.one (CodeSet.singleton 0x0A).compl)

end Flags
end Stubgen.Regex
