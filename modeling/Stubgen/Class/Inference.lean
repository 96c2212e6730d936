import Stubgen.Class.Basic
import Stubgen.Unicode.CaseMap

/-!
# Property inference

A method that is called `set` and more and has no result is paired with the
first method that is called `get` and the same.  The pair becomes a property,
unless an earlier setter or the class as it was given has taken the name.
-/

namespace Stubgen

/-- What follows `set` in the name of a method that may write a property:
something, on a method without a result. -/
def Method.setterStem? (m : Method) : Option Text :=
  match Text.afterLabel? "set".toList m.name with
  | some (c :: stem) => if m.signature.isVoid then some (c :: stem) else none
  | _ => none

/-- The name of the property of a setter: its stem with the first letter in
lower case. -/
def propertyName : (stem : Text) → Text
  | [] => []
  | c :: rest => CaseMap.lower c ++ rest

namespace Class

def methodIndex? (c : Class) (name : Text) : Option Nat :=
  c.methods.findIdx? (·.name = name)

/-- Marks the method at a place as part of a property. -/
def markProperty (c : Class) (i : Nat) : Class :=
  { c with
    methods := c.methods.modify i fun m => { m with isProperty := true } }

/-- The property that the method at place `write` writes, if it is a setter
whose name is not taken and that has a getter. -/
def propertyAt? (c : Class) (write : Nat) : Option Property := do
  let stem ← (← c.methods[write]?).setterStem?
  if (c.findProperty? (propertyName stem)).isSome then none
  else
    let read ← c.methodIndex? ("get".toList ++ stem)
    return ⟨propertyName stem, read, write⟩

/-- Adds the property of the method at place `write`, if there is one. -/
def inferAt (c : Class) (write : Nat) : Class :=
  match c.propertyAt? write with
  | none => c
  | some p =>
    let marked := (c.markProperty p.write).markProperty p.read
    { marked with properties := marked.properties ++ [p] }

/-- Adds the properties of all methods, in the order of the methods. -/
def inferProperties (c : Class) : Class :=
  (List.range c.methods.length).foldl inferAt c

end Class
end Stubgen
