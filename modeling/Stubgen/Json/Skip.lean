import Stubgen.Json.Reader

/-!
# Passing over JSON

A value that nobody asks for is passed over.  Its brackets, commas and literals
have to be in order, but the characters of its strings are not put together, so
half of a surrogate pair is as good as any other escape there.
-/

namespace Stubgen.Json

def skipEscape : Text → Except Fault (Unit × Text)
  | [] => fault .endInString []
  | c :: rest =>
    if c = 'u' then (readHex rest).map fun (_, after) => ((), after)
    else if ['"', '\\', '/', 'b', 'f', 'n', 'r', 't'].contains c then
      .ok ((), rest)
    else faultAt .invalidEscape (c :: rest)

def skipString (t : Text) : Except Fault (Unit × Text) :=
  match t with
  | [] => fault .endInString []
  | '"' :: rest => .ok ((), rest)
  | '\\' :: rest =>
    match skipEscape rest with
    | .error f => .error f
    | .ok (_, after) =>
      if after.length ≤ rest.length then skipString after
      else fault .invalidEscape after
  | c :: rest =>
    if c.toNat < 0x20 then fault .controlCharacter (c :: rest)
    else skipString rest
termination_by t.length

/-- Passes over a key, the colon behind it, and the blanks around them. -/
def skipKey : Text → Except Fault (Unit × Text)
  | '"' :: rest => do
    let (_, t) ← skipString rest
    readColon t
  | [] => fault .endInObject []
  | t => faultAt .keyNotString t

mutual

/-- Passes over a value at the start of a text without blanks at its start, at
most `fuel` steps deep and far. -/
def skipValue (fuel : Nat) (t : Text) : Except Fault (Unit × Text) :=
  match fuel with
  | 0 => fault .endInValue t
  | fuel + 1 =>
    match t with
    | [] => fault .endInValue []
    | 'n' :: rest => readLiteral "ull".toList rest
    | 't' :: rest => readLiteral "rue".toList rest
    | 'f' :: rest => readLiteral "alse".toList rest
    | '"' :: rest => skipString rest
    | '-' :: rest =>
      (readNumber .invalidNumber true rest).map fun (_, after) => ((), after)
    | '[' :: rest =>
      match skipBlanks rest with
      | ']' :: after => .ok ((), after)
      | [] => fault .endInList []
      | rest => skipElements fuel rest
    | '\x7b' :: rest =>
      match skipBlanks rest with
      | '\x7d' :: after => .ok ((), after)
      | rest => skipMembers fuel rest
    | c :: rest =>
      if c.isDigit then
        (readNumber .invalidNumber false (c :: rest)).map fun (_, after) =>
          ((), after)
      else faultAt .expectedValue (c :: rest)

/-- Passes over the elements of an array up to its end, at least one. -/
def skipElements (fuel : Nat) (t : Text) : Except Fault (Unit × Text) :=
  match fuel with
  | 0 => fault .endInList t
  | fuel + 1 => do
    let (_, t) ← skipValue fuel t
    match skipBlanks t with
    | ']' :: after => return ((), after)
    | ',' :: rest => skipElements fuel (skipBlanks rest)
    | [] => fault .endInList []
    | rest => faultAt .expectedListEnd rest

/-- Passes over the members of an object up to its end, at least one. -/
def skipMembers (fuel : Nat) (t : Text) : Except Fault (Unit × Text) :=
  match fuel with
  | 0 => fault .endInObject t
  | fuel + 1 => do
    let (_, t) ← skipKey t
    let (_, t) ← skipValue fuel t
    match skipBlanks t with
    | '\x7d' :: after => return ((), after)
    | ',' :: rest => skipMembers fuel (skipBlanks rest)
    | [] => fault .endInObject []
    | rest => faultAt .expectedObjectEnd rest

end

/-- Passes over the value at the start of a text without blanks at its start. -/
def skip (t : Text) : Except Fault (Unit × Text) :=
  skipValue (2 * t.length + 1) t

end Stubgen.Json
