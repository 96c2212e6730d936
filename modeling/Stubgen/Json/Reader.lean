import Stubgen.Json.Basic
import Stubgen.Text.Utf8

/-!
# Reading JSON

The readers here take a value, or a part of one, from the front of a text.  A
fault cites the place where reading gave up, counted in lines and in the bytes
of a line.
-/

namespace Stubgen.Json

inductive Cause
  | endInList
  | endInObject
  | endInString
  | endInValue
  | expectedColon
  | expectedListEnd
  | expectedObjectEnd
  | expectedIdent
  | expectedValue
  | invalidEscape
  | invalidNumber
  | numberOutOfRange
  | controlCharacter
  | keyNotString
  | loneSurrogate
  | trailingComma
  | trailingCharacters
  | endOfHexEscape
  /-- The JSON is well formed so far, and is refused for another reason. -/
  | refused (message : Text)
  deriving DecidableEq, Repr

def Cause.message : Cause → Text
  | endInList => "EOF while parsing a list".toList
  | endInObject => "EOF while parsing an object".toList
  | endInString => "EOF while parsing a string".toList
  | endInValue => "EOF while parsing a value".toList
  | expectedColon => "expected `:`".toList
  | expectedListEnd => "expected `,` or `]`".toList
  | expectedObjectEnd => "expected `,` or `\x7d`".toList
  | expectedIdent => "expected ident".toList
  | expectedValue => "expected value".toList
  | invalidEscape => "invalid escape".toList
  | invalidNumber => "invalid number".toList
  | numberOutOfRange => "number out of range".toList
  | controlCharacter =>
    "control character (\\u0000-\\u001F) found while parsing a string".toList
  | keyNotString => "key must be a string".toList
  | loneSurrogate => "lone leading surrogate in hex escape".toList
  | trailingComma => "trailing comma".toList
  | trailingCharacters => "trailing characters".toList
  | endOfHexEscape => "unexpected end of hex escape".toList
  | refused message => message

structure Fault where
  cause : Cause
  rest : Text
  ahead : Nat
  deriving DecidableEq, Repr

structure Position where
  line : Nat
  column : Nat
  deriving DecidableEq, Repr

/-- The position behind the first `n` bytes of a text that starts at a
position. -/
def Position.advance (p : Position) : Nat → Text → Position
  | _, [] => p
  | n, c :: rest =>
    if n < c.utf8Size then ⟨p.line, p.column + n⟩
    else
      advance
        (if c = '\n' then ⟨p.line + 1, 0⟩
          else ⟨p.line, p.column + c.utf8Size⟩)
        (n - c.utf8Size) rest

namespace Fault

/-- The position of a fault in the text that was read. -/
def position (input : Text) (f : Fault) : Position :=
  Position.advance ⟨1, 0⟩ (input.utf8Length - f.rest.utf8Length + f.ahead) input

def message (input : Text) (f : Fault) : Text :=
  let p := f.position input
  f.cause.message ++ " at line ".toList ++ Text.ofNat p.line ++
    " column ".toList ++ Text.ofNat p.column

end Fault

def fault {α : Type} (cause : Cause) (rest : Text) : Except Fault (α × Text) :=
  .error ⟨cause, rest, 0⟩

/-- A fault that counts the first byte of the text in front of which it was
found as read. -/
def faultAt {α : Type} (cause : Cause) (rest : Text) :
    Except Fault (α × Text) :=
  .error ⟨cause, rest, if rest.isEmpty then 0 else 1⟩

/-- The text without the blanks of JSON at its start. -/
def skipBlanks (t : Text) : Text :=
  t.dropWhile fun c => c = ' ' || c = '\n' || c = '\t' || c = '\r'

def readLiteral : (expected t : Text) → Except Fault (Unit × Text)
  | [], t => .ok ((), t)
  | _ :: _, [] => fault .endInValue []
  | e :: es, c :: rest =>
    if e = c then readLiteral es rest else faultAt .expectedIdent (c :: rest)

/-- The number that four hexadecimal digits spell, behind which `rest`
stands. -/
def readHex (t : Text) : Except Fault (Nat × Text) :=
  if t.utf8Length < 4 then fault .endInString []
  else
    match t with
    | a :: b :: c :: d :: rest =>
      if [a, b, c, d].all isHexDigit then
        .ok ([a, b, c, d].foldl (fun n x => 16 * n + hexValue x) 0, rest)
      else .error ⟨.invalidEscape, t, 4⟩
    | _ => .error ⟨.invalidEscape, t, 4⟩
where
  isHexDigit (c : Char) : Bool :=
    c.isDigit || ('a' ≤ c && c ≤ 'f') || ('A' ≤ c && c ≤ 'F')
  hexValue (c : Char) : Nat :=
    if c.isDigit then c.toNat - 0x30
    else if 'a' ≤ c then c.toNat - 0x57
    else c.toNat - 0x37

/-- Passes over one character that has to stand in an escape. -/
def expectInEscape (expected : Char) : Text → Except Fault (Unit × Text)
  | [] => fault .endInString []
  | c :: rest =>
    if c = expected then .ok ((), rest) else faultAt .endOfHexEscape (c :: rest)

/-- The character of an escape with a code.  Two codes of surrogates make one
character. -/
def readUnicodeEscape (t : Text) : Except Fault (Char × Text) := do
  let (n, t) ← readHex t
  if 0xDC00 ≤ n && n ≤ 0xDFFF then fault .loneSurrogate t
  else if n < 0xD800 || 0xDBFF < n then return (Char.ofNat n, t)
  else
    let (_, t) ← expectInEscape '\\' t
    let (_, t) ← expectInEscape 'u' t
    let (m, t) ← readHex t
    if m < 0xDC00 || 0xDFFF < m then fault .loneSurrogate t
    else return (Char.ofNat ((n - 0xD800) * 0x400 + (m - 0xDC00) + 0x10000), t)

/-- The character of an escape, behind its backslash. -/
def readEscape : Text → Except Fault (Char × Text)
  | [] => fault .endInString []
  | c :: rest =>
    match c with
    | '"' => .ok ('"', rest)
    | '\\' => .ok ('\\', rest)
    | '/' => .ok ('/', rest)
    | 'b' => .ok (Char.ofNat 0x08, rest)
    | 'f' => .ok (Char.ofNat 0x0C, rest)
    | 'n' => .ok ('\n', rest)
    | 'r' => .ok ('\r', rest)
    | 't' => .ok ('\t', rest)
    | 'u' => readUnicodeEscape rest
    | _ => faultAt .invalidEscape (c :: rest)

/-- The characters of a string, behind its opening quote. -/
def readString (t : Text) : Except Fault (Text × Text) :=
  match t with
  | [] => fault .endInString []
  | '"' :: rest => .ok ([], rest)
  | '\\' :: rest =>
    match readEscape rest with
    | .error f => .error f
    | .ok (c, after) =>
      if after.length ≤ rest.length then
        (readString after).map fun (s, end_) => (c :: s, end_)
      else fault .invalidEscape after
  | c :: rest =>
    if c.toNat < 0x20 then faultAt .controlCharacter (c :: rest)
    else (readString rest).map fun (s, end_) => (c :: s, end_)
termination_by t.length

/-- The digits at the start of a text, which must be some, and what follows
them.  `atEnd` is the cause of the fault that there is no text left. -/
def readDigits (atEnd : Cause) (t : Text) : Except Fault (Text × Text) :=
  match t.takeWhile Char.isDigit with
  | [] => if t.isEmpty then fault atEnd t else faultAt .invalidNumber t
  | digits => .ok (digits, t.dropWhile Char.isDigit)

def readExponent (atEnd : Cause) (t : Text) :
    Except Fault (Option Int × Text) :=
  match t with
  | c :: rest =>
    if c = 'e' || c = 'E' then
      let (negative, rest) :=
        match rest with
        | '+' :: rest => (false, rest)
        | '-' :: rest => (true, rest)
        | _ => (false, rest)
      (readDigits atEnd rest).map fun (digits, after) =>
        let n : Int := Text.foldDigits 0 digits
        (some (if negative then -n else n), after)
    else .ok (none, t)
  | [] => .ok (none, t)

def readNumber (atEnd : Cause) (negative : Bool) (t : Text) :
    Except Fault (Number × Text) := do
  let (whole, t) ← readDigits atEnd t
  if whole.head? = some '0' && 1 < whole.length then
    faultAt .invalidNumber (whole.drop 1 ++ t)
  else
    let (fraction, t) ←
      match t with
      | '.' :: rest =>
        (readDigits atEnd rest).map fun (digits, after) => (some digits, after)
      | _ => .ok (none, t)
    let (exponent, t) ← readExponent atEnd t
    let value := Text.foldDigits 0 whole
    match fraction, exponent with
    | none, none =>
      if negative && value = 0 then return (.decimal true 0 0, t)
      else return (.integer (if negative then -value else value), t)
    | _, _ =>
      let digits := fraction.getD []
      return (.decimal negative (Text.foldDigits value digits)
        (exponent.getD 0 - digits.length), t)

/-- Passes over the colon behind a key and the blanks around it. -/
def readColon (t : Text) : Except Fault (Unit × Text) :=
  match skipBlanks t with
  | ':' :: rest => .ok ((), skipBlanks rest)
  | [] => fault .endInObject []
  | rest => faultAt .expectedColon rest

/-- The key of a member, behind its opening quote, the colon behind it, and the
blanks around them. -/
def readKey (t : Text) : Except Fault (Text × Text) := do
  let (key, t) ← readString t
  let (_, t) ← readColon t
  return (key, t)

mutual

/-- A value at the start of a text without blanks at its start.  The reader goes
at most `fuel` steps deep and far. -/
def readValue (fuel : Nat) (t : Text) : Except Fault (Json × Text) :=
  match fuel with
  | 0 => fault .endInValue t
  | fuel + 1 =>
    match t with
    | [] => fault .endInValue []
    | 'n' :: rest =>
      (readLiteral "ull".toList rest).map fun (_, after) => (.null, after)
    | 't' :: rest =>
      (readLiteral "rue".toList rest).map fun (_, after) => (.bool true, after)
    | 'f' :: rest =>
      (readLiteral "alse".toList rest).map fun (_, after) =>
        (.bool false, after)
    | '"' :: rest => (readString rest).map fun (s, after) => (.string s, after)
    | '-' :: rest =>
      (readNumber .endInValue true rest).map fun (n, after) =>
        (.number n, after)
    | '[' :: rest =>
      match skipBlanks rest with
      | ']' :: after => .ok (.array [], after)
      | rest =>
        (readElements fuel rest).map fun (vs, after) => (.array vs, after)
    | '\x7b' :: rest =>
      match skipBlanks rest with
      | '\x7d' :: after => .ok (.object [], after)
      | rest =>
        (readMembers fuel rest).map fun (ms, after) => (.object ms, after)
    | c :: rest =>
      if c.isDigit then
        (readNumber .endInValue false (c :: rest)).map fun (n, after) =>
          (.number n, after)
      else faultAt .expectedValue (c :: rest)

/-- The elements of an array up to its end, at least one. -/
def readElements (fuel : Nat) (t : Text) : Except Fault (List Json × Text) :=
  match fuel with
  | 0 => fault .endInList t
  | fuel + 1 => do
    let (v, t) ← readValue fuel t
    match skipBlanks t with
    | ']' :: after => return ([v], after)
    | ',' :: rest =>
      (readElements fuel (skipBlanks rest)).map fun (vs, after) =>
        (v :: vs, after)
    | [] => fault .endInList []
    | rest => faultAt .expectedListEnd rest

/-- The members of an object up to its end, at least one. -/
def readMembers (fuel : Nat) (t : Text) :
    Except Fault (List (Text × Json) × Text) :=
  match fuel with
  | 0 => fault .endInObject t
  | fuel + 1 => do
    match t with
    | '"' :: rest =>
      let (key, t) ← readKey rest
      let (v, t) ← readValue fuel t
      match skipBlanks t with
      | '\x7d' :: after => return ([(key, v)], after)
      | ',' :: rest =>
        (readMembers fuel (skipBlanks rest)).map fun (ms, after) =>
          ((key, v) :: ms, after)
      | [] => fault .endInObject []
      | rest => faultAt .expectedObjectEnd rest
    | t => faultAt .keyNotString t

end

def parse? (t : Text) : Option Json :=
  match readValue (2 * t.length + 1) (skipBlanks t) with
  | .ok (v, rest) => if (skipBlanks rest).isEmpty then some v else none
  | .error _ => none

end Stubgen.Json
