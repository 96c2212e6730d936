import Stubgen.Text.Basic

/-!
# Declarations

A declaration line shows a member as it stands in the source of its class, for
instance `public static int max(int, int);`.  The model keeps the name of the
member and what kind of member it is.
-/

namespace Stubgen.Listing

structure Declaration where
  name : Text
  isConstructor : Bool
  isStatic : Bool
  isField : Bool
  deriving DecidableEq, Repr

/-- The words that may stand before the type of a member. -/
def modifiers : List Text :=
  ["public", "protected", "private", "static", "final", "abstract",
    "synchronized", "native", "strictfp", "default", "transient",
    "volatile"].map String.toList

/-- What follows the bracket that closes the list in which the text stands
`depth` brackets deep, without blanks at its start; `none` if the list is not
closed. -/
def afterTypeParameters? (depth : Nat) : Text → Option Text
  | [] => none
  | '<' :: rest => afterTypeParameters? (depth + 1) rest
  | '>' :: rest =>
    if depth ≤ 1 then some (Text.trimStart rest)
    else afterTypeParameters? (depth - 1) rest
  | _ :: rest => afterTypeParameters? depth rest

/-- The text without a list of type parameters at its start. -/
def stripTypeParameters (t : Text) : Text :=
  match t with
  | '<' :: rest => (afterTypeParameters? 1 rest).getD t
  | _ => t

namespace Declaration

/-- The part of a line that names the member: what stands before the first round
bracket, or before the semicolons at the end of a line without one. -/
def head (line : Text) : Text :=
  Text.trim <|
    if line.contains '(' then line.takeWhile (· ≠ '(')
    else Text.dropEndWhile (· = ';') (Text.trim line)

/-- Reads a declaration line; `none` if it names no member.  A method whose name
has no type before it is a constructor. -/
def parse? (line : Text) : Option Declaration :=
  let isField := !line.contains '('
  let words := (Text.words (head line)).takeWhile modifiers.contains
  let isStatic := words.contains "static".toList
  let rest := stripTypeParameters (Text.dropWords words.length (head line))
  if rest.isEmpty then none
  else if !isField && !rest.any Text.isBlank then
    some ⟨rest, true, isStatic, isField⟩
  else
    (Text.words rest).getLast?.map fun name => ⟨name, false, isStatic, isField⟩

end Declaration
end Stubgen.Listing
