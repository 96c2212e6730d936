import Stubgen.Text.Utf8

/-!
# Descriptors

A descriptor spells the types of a method or a field in a compact form.  This
module holds what a descriptor is decoded to, and the faults of a malformed one.
-/

namespace Stubgen

structure TypeName where
  name : Text
  array : Bool := false
  deriving DecidableEq, Repr

structure Signature where
  raw : Text
  argTypes : List TypeName
  returnType : Option TypeName
  deriving DecidableEq, Repr

def Signature.isVoid (s : Signature) : Bool := s.returnType.isNone

/-- The types of the arguments in brackets and the type of the result, `V` if
there is none. -/
def Signature.display (s : Signature) : Text :=
  "(".toList ++ Text.joinWith ", ".toList (s.argTypes.map (·.name)) ++
    ")".toList ++ match s.returnType with
    | some t => t.name
    | none => ['V']

namespace Descriptor

/-- Why a descriptor is malformed, with the byte position at which decoding gave
up. -/
inductive Fault
  | empty
  | missingOpenParen (pos : Nat)
  | missingCloseParen (pos : Nat)
  | unterminatedObject (pos : Nat)
  | emptyObjectName (pos : Nat)
  | danglingArray (pos : Nat)
  | missingReturn (pos : Nat)
  | returnWithoutMarker (pos : Nat)
  | trailingInput (pos : Nat)
  deriving DecidableEq, Repr

namespace Fault

/-- The byte position of a fault; an empty descriptor is at fault at its
start. -/
def pos : Fault → Nat
  | empty => 0
  | missingOpenParen pos => pos
  | missingCloseParen pos => pos
  | unterminatedObject pos => pos
  | emptyObjectName pos => pos
  | danglingArray pos => pos
  | missingReturn pos => pos
  | returnWithoutMarker pos => pos
  | trailingInput pos => pos

def message : Fault → Text
  | empty => "empty descriptor".toList
  | missingOpenParen pos => "expected '(' at ".toList ++ Text.ofNat pos
  | missingCloseParen pos =>
    "missing ')' after argument list starting at ".toList ++ Text.ofNat pos
  | unterminatedObject pos =>
    "object type at ".toList ++ Text.ofNat pos ++
      " is not terminated by ';'".toList
  | emptyObjectName pos =>
    "object type at ".toList ++ Text.ofNat pos ++ " has an empty name".toList
  | danglingArray pos =>
    "array prefix at ".toList ++ Text.ofNat pos ++ " has no element type".toList
  | missingReturn pos => "missing return type at ".toList ++ Text.ofNat pos
  | returnWithoutMarker pos =>
    "object return type at ".toList ++ Text.ofNat pos ++
      " has no 'L' marker".toList
  | trailingInput pos =>
    "unexpected trailing input at ".toList ++ Text.ofNat pos

end Fault
end Descriptor
end Stubgen
