import Stubgen.Text.Quoted

/-!
# JSON values

A value of JSON keeps the members of an object in the order in which they stand.
It is written on one line, or over several lines with two blanks for each level.
-/

namespace Stubgen

/-- A number of JSON: a whole number, or a decimal fraction `± digits · 10 ^
exponent`. -/
inductive Json.Number
  | integer (value : Int)
  | decimal (negative : Bool) (digits : Nat) (exponent : Int)
  deriving DecidableEq, Repr

inductive Json
  | null
  | bool (value : Bool)
  | number (value : Json.Number)
  | string (value : Text)
  | array (elements : List Json)
  | object (members : List (Text × Json))

namespace Json

def ofNat (n : Nat) : Json := .number (.integer n)

/-- A value, or `null` where there is none. -/
def ofOption {α : Type} (f : α → Json) : Option α → Json
  | some a => f a
  | none => .null

/-- The member of an object with a key; the last one counts. -/
def member? (key : String) : Json → Option Json
  | object members =>
    (members.reverse.find? fun m => m.1 = key.toList).map (·.2)
  | _ => none

def integerText : Int → Text
  | .ofNat n => Text.ofNat n
  | .negSucc n => '-' :: Text.ofNat (n + 1)

def Number.text : Number → Text
  | integer value => integerText value
  | decimal negative digits exponent =>
    (if negative then ['-'] else []) ++ Text.ofNat digits ++
      'e' :: integerText exponent

/-- A character inside a string of JSON: quotes, backslashes and control
characters are escaped. -/
def escapeChar (c : Char) : Text :=
  if c = '"' || c = '\\' then ['\\', c]
  else if c = '\n' then "\\n".toList
  else if c = '\r' then "\\r".toList
  else if c = '\t' then "\\t".toList
  else if c.toNat = 0x08 then "\\b".toList
  else if c.toNat = 0x0C then "\\f".toList
  else if c.toNat < 0x20 then "\\u".toList ++ Text.hexPadded 4 c.toNat
  else [c]

def quote (t : Text) : Text := '"' :: t.flatMap escapeChar ++ ['"']

def boolText (value : Bool) : Text :=
  if value then "true".toList else "false".toList

mutual

def compact : Json → Text
  | null => "null".toList
  | bool value => boolText value
  | number value => value.text
  | string value => quote value
  | array elements => '[' :: compactElements elements ++ [']']
  | object members => '\x7b' :: compactMembers members ++ ['\x7d']

def compactElements : List Json → Text
  | [] => []
  | [v] => compact v
  | v :: rest => compact v ++ ',' :: compactElements rest

def compactMembers : List (Text × Json) → Text
  | [] => []
  | [(key, v)] => quote key ++ ':' :: compact v
  | (key, v) :: rest =>
    quote key ++ ':' :: compact v ++ ',' :: compactMembers rest

end

def newline (level : Nat) : Text := '\n' :: List.replicate (2 * level) ' '

mutual

/-- The value over several lines; `level` is the level of the line on which it
starts. -/
def prettyAt (level : Nat) : Json → Text
  | null => "null".toList
  | bool value => boolText value
  | number value => value.text
  | string value => quote value
  | array [] => "[]".toList
  | array (v :: rest) =>
    '[' :: prettyElements (level + 1) (v :: rest) ++ newline level ++ [']']
  | object [] => ['\x7b', '\x7d']
  | object (m :: rest) =>
    '\x7b' :: prettyMembers (level + 1) (m :: rest) ++ newline level ++ ['\x7d']

/-- The elements of an array, each on a line of its own. -/
def prettyElements (level : Nat) : List Json → Text
  | [] => []
  | [v] => newline level ++ prettyAt level v
  | v :: rest =>
    newline level ++ prettyAt level v ++ ',' :: prettyElements level rest

/-- The members of an object, each on a line of its own. -/
def prettyMembers (level : Nat) : List (Text × Json) → Text
  | [] => []
  | [(key, v)] => newline level ++ quote key ++ ": ".toList ++ prettyAt level v
  | (key, v) :: rest =>
    newline level ++ quote key ++ ": ".toList ++ prettyAt level v ++
      ',' :: prettyMembers level rest

end

def pretty (v : Json) : Text := prettyAt 0 v

end Json
end Stubgen
