import Stubgen.Class.Basic

/-!
# Classes as text

A class is shown as its name and then a section for each kind of member that it
has.
-/

namespace Stubgen

/-- The name and signature of a method, and what sets it apart. -/
def Method.display (m : Method) : Text :=
  m.name ++ ": ".toList ++ m.signature.display ++
    (if m.isConstructor then " (constructor)".toList else []) ++
    (if m.isStatic then " [static]".toList else [])

def Field.display (f : Field) : Text :=
  f.name ++ ": ".toList ++ f.type.name ++
    (if f.isStatic then " [static]".toList else [])

def Accessors.display (a : Accessors) : Text :=
  a.name ++ ": read(".toList ++ a.getter.name ++ "), write(".toList ++
    a.setter.name ++ ")".toList

namespace Class

/-- A section under a title, which is left out if it has no lines. -/
def displaySection (title : String) (lines : List Text) : Text :=
  if lines.isEmpty then []
  else "  ".toList ++ title.toList ++ ":\n".toList ++
    lines.flatMap fun line => "    ".toList ++ line ++ ['\n']

/-- The text of a class; `none` if a property cites a method that is not
there. -/
def display? (c : Class) : Option Text :=
  c.allAccessors?.map fun properties =>
    c.name ++ ['\n'] ++ displaySection "Methods" (c.methods.map (·.display)) ++
      displaySection "Fields" (c.fields.map (·.display)) ++
      displaySection "Properties" (properties.map (·.display))

end Class
end Stubgen
