import Stubgen.Descriptor.Basic

/-!
# Classes

The public surface of a class: its methods, its fields, and the properties that
pairs of methods amount to.  A property cites its two methods by their places in
the list of methods.
-/

namespace Stubgen

/-- A method or a constructor.  `isProperty` marks the methods that a property
stands for. -/
structure Method where
  name : Text
  isConstructor : Bool
  isStatic : Bool
  isProperty : Bool
  signature : Signature
  deriving DecidableEq, Repr

structure Field where
  name : Text
  type : TypeName
  isStatic : Bool
  deriving DecidableEq, Repr

/-- A property, with the places of the method that reads it and the method that
writes it. -/
structure Property where
  name : Text
  read : Nat
  write : Nat
  deriving DecidableEq, Repr

structure Class where
  name : Text
  methods : List Method := []
  fields : List Field := []
  properties : List Property := []
  deriving DecidableEq, Repr

structure Accessors where
  name : Text
  getter : Method
  setter : Method
  deriving DecidableEq, Repr

namespace Class

/-- The name without its package: what follows the last dot. -/
def simpleName (c : Class) : Text :=
  (c.name.reverse.takeWhile (· ≠ '.')).reverse

def findMethod? (c : Class) (name : Text) : Option Method :=
  c.methods.find? (·.name = name)

def findProperty? (c : Class) (name : Text) : Option Property :=
  c.properties.find? (·.name = name)

/-- The methods that a property cites; `none` if one of the places lies outside
the list. -/
def accessors? (c : Class) (p : Property) : Option Accessors :=
  match c.methods[p.read]?, c.methods[p.write]? with
  | some getter, some setter => some ⟨p.name, getter, setter⟩
  | _, _ => none

/-- All properties with their methods; `none` if a property cites a method that
is not there. -/
def allAccessors? (c : Class) : Option (List Accessors) :=
  c.properties.mapM c.accessors?

end Class
end Stubgen
