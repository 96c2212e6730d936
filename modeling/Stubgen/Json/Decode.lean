import Stubgen.Json.Double

/-!
# Decoding JSON values

A value is decoded to a record member by member.  A misfit says why a value is
not of the shape that was asked for.
-/

namespace Stubgen.Json

inductive Misfit
  | missingField (name : Text)
  | wrongType (found : Text) (expected : Text)
  | wrongValue (found : Text) (expected : Text)
  | unknownVariant (name : Text) (expected : Text)
  deriving DecidableEq, Repr

def Misfit.message : Misfit → Text
  | missingField name => "missing field `".toList ++ name ++ ['`']
  | wrongType found expected =>
    "invalid type: ".toList ++ found ++ ", expected ".toList ++ expected
  | wrongValue found expected =>
    "invalid value: ".toList ++ found ++ ", expected ".toList ++ expected
  | unknownVariant name expected =>
    "unknown variant `".toList ++ name ++ "`, expected ".toList ++ expected

def describeString (t : Text) : Text := "string ".toList ++ Text.quoted t

/-- What kind of value a truth value is, and which one. -/
def describeBool (value : Bool) : Text :=
  "boolean `".toList ++ boolText value ++ ['`']

/-- What kind of value a value is, and for a single one which. -/
def describe : Json → Text
  | null => "null".toList
  | bool value => describeBool value
  | number value => value.describe?.getD value.text
  | string value => describeString value
  | array _ => "sequence".toList
  | object _ => "map".toList

def refuse {α : Type} (expected : String) (v : Json) : Except Misfit α :=
  .error (.wrongType v.describe expected.toList)

def toText : Json → Except Misfit Text
  | string value => .ok value
  | v => v.refuse "a string"

def toBool : Json → Except Misfit Bool
  | bool value => .ok value
  | v => v.refuse "a boolean"

def toNat : Json → Except Misfit Nat
  | number (.integer (.ofNat n)) =>
    if n < Nat.pow 2 64 then .ok n else (number (.integer n)).refuse "usize"
  | number (.integer (.negSucc n)) =>
    .error (.wrongValue (describe (number (.integer (.negSucc n))))
      "usize".toList)
  | v => v.refuse "usize"

def toList {α : Type} (decode : Json → Except Misfit α) :
    Json → Except Misfit (List α)
  | array elements => elements.mapM decode
  | v => v.refuse "a sequence"

/-- A value or `null`. -/
def toOption {α : Type} (decode : Json → Except Misfit α) :
    Json → Except Misfit (Option α)
  | null => .ok none
  | v => (decode v).map some

/-- The member of an object with a key, decoded, if there is one. -/
def field? {α : Type} (v : Json) (name : String)
    (decode : Json → Except Misfit α) : Except Misfit (Option α) :=
  match v.member? name with
  | some member => (decode member).map some
  | none => .ok none

def require {α : Type} (name : String) : Option α → Except Misfit α
  | some a => .ok a
  | none => .error (.missingField name.toList)

def expectObject (expected : String) : Json → Except Misfit Unit
  | object _ => .ok ()
  | v => v.refuse expected

end Stubgen.Json
