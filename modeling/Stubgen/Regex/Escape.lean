import Stubgen.Regex.Flags

/-!
# Escapes

What may follow a backslash.  In verbose mode blanks and comments may stand in
most gaps of a pattern, and the readers here pass over them where they may.
-/

namespace Stubgen.Regex

/-- Passes over blanks and comments; `inComment` says that the text starts
inside a comment. -/
def skipComments : (inComment : Bool) → Text → Text
  | _, [] => []
  | true, c :: rest => skipComments (c ≠ '\n') rest
  | false, c :: rest =>
    if Text.isBlank c then skipComments false rest
    else if c = '#' then skipComments true rest
    else c :: rest

/-- Passes over a gap, which is empty unless the pattern is verbose. -/
def skipGap (verbose : Bool) (t : Text) : Text :=
  if verbose then skipComments false t else t

theorem length_skipComments_le (inComment : Bool) (t : Text) :
    (skipComments inComment t).length ≤ t.length := by
  induction t generalizing inComment with
  | nil => cases inComment <;> simp [skipComments]
  | cons c rest ih =>
    cases inComment with
    | true => exact Nat.le_succ_of_le (ih _)
    | false =>
      unfold skipComments
      split
      · exact Nat.le_succ_of_le (ih _)
      · split
        · exact Nat.le_succ_of_le (ih _)
        · exact Nat.le_refl _

/-- Passing over a gap lengthens no text. -/
theorem length_skipGap_le (verbose : Bool) (t : Text) :
    (skipGap verbose t).length ≤ t.length := by
  unfold skipGap
  split
  · exact length_skipComments_le false t
  · exact Nat.le_refl _

/-- The longest run of characters with `p`, and what follows it.  In a verbose
pattern the gaps inside and behind the run are passed over. -/
def spacedRun (p : Char → Bool) (verbose : Bool) (t : Text) : Text × Text :=
  go false t
where
  go : (inComment : Bool) → Text → Text × Text
    | _, [] => ([], [])
    | true, c :: rest => go (c ≠ '\n') rest
    | false, c :: rest =>
      if verbose && Text.isBlank c then go false rest
      else if verbose && c = '#' then go true rest
      else if p c then
        let (run, after) := go false rest
        (c :: run, after)
      else ([], c :: rest)

/-- Exactly `n` characters with `p`, and what follows them and the gap behind
them. -/
def spacedExactly? (p : Char → Bool) (verbose : Bool) :
    Nat → Text → Option (Text × Text)
  | 0, t => some ([], t)
  | n + 1, t =>
    match t with
    | [] => none
    | c :: rest =>
      if p c then
        (spacedExactly? p verbose n (skipGap verbose rest)).map
          fun (run, after) => (c :: run, after)
      else none

def isHexDigit (c : Char) : Bool :=
  c.isDigit || ('a' ≤ c && c ≤ 'f') || ('A' ≤ c && c ≤ 'F')

def hexDigitValue (c : Char) : Nat :=
  if c.isDigit then c.toNat - '0'.toNat
  else if 'a' ≤ c then c.toNat - 'a'.toNat + 10
  else c.toNat - 'A'.toNat + 10

/-- The character whose code the hexadecimal digits spell. -/
def charOfHex? (digits : Text) : Option Char :=
  let n := digits.foldl (fun n c => 16 * n + hexDigitValue c) 0
  if h : n.isValidChar then some (Char.ofNatAux n h) else none

inductive PropertyName
  | named (name : Text)
  | valued (property value : Text)
  deriving DecidableEq, Repr

inductive Primitive
  | character (c : Char) (isByte : Bool)
  | dot
  | assertion (a : Assertion)
  | shorthand (kind : Shorthand) (negated : Bool)
  | property (name : PropertyName) (negated : Bool)
  deriving DecidableEq, Repr

/-- The punctuation characters that mean something in a pattern. -/
def isMeta (c : Char) : Bool := "\\.+*?()|[]\x7b\x7d^$#&-~".toList.contains c

/-- Whether a backslash before the character leaves it as it is: the characters
with a meaning, and every ASCII character that is no letter, no digit and no
angle bracket. -/
def isEscapable (c : Char) : Bool :=
  isMeta c || (c.toNat < 0x80 && !c.isAlphanum && c ≠ '<' && c ≠ '>')

/-- The code of a character behind `\x`, `\u` or `\U`: that many digits, or any
number in braces. -/
def readHex? (verbose : Bool) (count : Nat) (t : Text) :
    Option (Primitive × Text) :=
  match skipGap verbose t with
  | '\x7b' :: rest =>
    match spacedRun isHexDigit verbose rest with
    | (digits, '\x7d' :: after) =>
      if digits.isEmpty then none
      else
        (charOfHex? digits).map fun c =>
          (.character c false, skipGap verbose after)
    | _ => none
  | rest =>
    (spacedExactly? isHexDigit verbose count rest).bind fun (digits, after) =>
      (charOfHex? digits).map fun c => (.character c (count == 2), after)

/-- The parts of a text before and behind the first place where `separator`
stands. -/
def splitAtFirst? (separator : Text) : Text → Option (Text × Text)
  | [] => (Text.afterLabel? separator []).map fun rest => ([], rest)
  | c :: t =>
    match Text.afterLabel? separator (c :: t) with
    | some rest => some ([], rest)
    | none =>
      (splitAtFirst? separator t).map fun (before, after) =>
        (c :: before, after)

def propertyName (t : Text) : PropertyName :=
  match splitAtFirst? ['!', '='] t <|> splitAtFirst? [':'] t <|>
    splitAtFirst? ['='] t with
  | some (property, value) => .valued property value
  | none => .named t

/-- The name of a property behind `\p` or `\P`: one letter, or a name in
braces. -/
def readProperty? (verbose negated : Bool) (t : Text) :
    Option (Primitive × Text) :=
  match skipGap verbose t with
  | [] => none
  | '\x7b' :: rest =>
    match spacedRun (· ≠ '\x7d') verbose rest with
    | (name, '\x7d' :: after) =>
      some (.property (propertyName name) negated, after)
    | _ => none
  | '\\' :: _ => none
  | c :: rest => some (.property (.named [c]) negated, skipGap verbose rest)

def isAssertionName (c : Char) : Bool := c.isAlpha || c = '-'

/-- What a `\b` stands for.  A name in braces behind it chooses another
assertion; braces around anything else are left for a repetition. -/
def readBoundary? (verbose : Bool) (t : Text) : Option (Primitive × Text) :=
  match t with
  | '\x7b' :: rest =>
    match skipGap verbose rest with
    | [] => none
    | c :: _ =>
      if !isAssertionName c then some (.assertion .wordBoundary, t)
      else
        match spacedRun isAssertionName verbose rest with
        | (name, '\x7d' :: after) =>
          if name = "start".toList then some (.assertion .wordStart, after)
          else if name = "end".toList then some (.assertion .wordEnd, after)
          else if name = "start-half".toList then
            some (.assertion .wordStartHalf, after)
          else if name = "end-half".toList then
            some (.assertion .wordEndHalf, after)
          else none
        | _ => none
  | _ => some (.assertion .wordBoundary, t)

def readEscape? (verbose : Bool) : Text → Option (Primitive × Text)
  | [] => none
  | c :: rest =>
    match c with
    | 'x' => readHex? verbose 2 rest
    | 'u' => readHex? verbose 4 rest
    | 'U' => readHex? verbose 8 rest
    | 'p' => readProperty? verbose false rest
    | 'P' => readProperty? verbose true rest
    | 'd' => some (.shorthand .digit false, rest)
    | 'D' => some (.shorthand .digit true, rest)
    | 's' => some (.shorthand .space false, rest)
    | 'S' => some (.shorthand .space true, rest)
    | 'w' => some (.shorthand .word false, rest)
    | 'W' => some (.shorthand .word true, rest)
    | 'a' => some (.character '\x07' false, rest)
    | 'f' => some (.character '\x0c' false, rest)
    | 't' => some (.character '\t' false, rest)
    | 'n' => some (.character '\n' false, rest)
    | 'r' => some (.character '\r' false, rest)
    | 'v' => some (.character '\x0b' false, rest)
    | 'A' => some (.assertion .textStart, rest)
    | 'z' => some (.assertion .textEnd, rest)
    | 'b' => readBoundary? verbose rest
    | 'B' => some (.assertion .noWordBoundary, rest)
    | '<' => some (.assertion .wordStart, rest)
    | '>' => some (.assertion .wordEnd, rest)
    | _ => if isEscapable c then some (.character c false, rest) else none

/-- Reads one primitive: an escape, the dot, one of the two line assertions, or
a character that stands for itself. -/
def readPrimitive? (verbose : Bool) : Text → Option (Primitive × Text)
  | [] => none
  | '\\' :: rest => readEscape? verbose rest
  | '.' :: rest => some (.dot, rest)
  | '^' :: rest => some (.assertion .lineStart, rest)
  | '$' :: rest => some (.assertion .lineEnd, rest)
  | c :: rest => some (.character c false, rest)

def PropertyName.set? (flags : Flags) (name : PropertyName) (negated : Bool) :
    Option CodeSet :=
  if !flags.unicode then none
  else
    let members :=
      match name with
      | .named name => CharProperty.named? name
      | .valued property value => CharProperty.valued? property value
    members.bind (flags.classSet? negated)

def Primitive.expr? (flags : Flags) : Primitive → Option Expr
  | character c isByte => flags.character? c isByte
  | dot => flags.dot?
  | assertion a => some (.look (a.look flags))
  | shorthand kind negated => (flags.shorthandSet? kind negated).map .one
  | property name negated => (name.set? flags negated).map .one

end Stubgen.Regex
