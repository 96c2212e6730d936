import Stubgen.Class.Basic
import Stubgen.Python.Name
import Stubgen.Python.Writer

/-!
# Stubs

The stub of a class is a Python class that wraps an object: a constructor, a
method for each method that is no constructor, not static and no part of a
property, and a pair of accessors for each property.  A module is the stubs of
some classes in a row.
-/

namespace Stubgen.Python

inductive Profile
  /-- Classes that hold the wrapped object. -/
  | plain
  /-- Classes derived from an imported base class. -/
  | extended
  deriving DecidableEq, Repr

def Profile.name : Profile → Text
  | plain => "plain".toList
  | extended => "extended".toList

def Profile.ofName? (name : Text) : Option Profile :=
  if name = "plain".toList then some .plain
  else if name = "extended".toList then some .extended
  else none

structure Options where
  profile : Profile := .plain
  classpath : Option Text := none
  deriving DecidableEq, Repr

def preamble? (options : Options) : Option Text :=
  match options.profile with
  | .plain => none
  | .extended => some "from weka.core.classes import JavaObject\n\n\n".toList

def citation (m : Method) : Text :=
  "method: ".toList ++ m.name ++ m.signature.display

def baseClass : Profile → Text
  | .plain => "Object".toList
  | .extended => "JavaObject".toList

def classCitations (options : Options) (c : Class) : List Text :=
  ("classname: ".toList ++ c.name) ::
    match options.profile, options.classpath with
    | .extended, some classpath => ["classpath: ".toList ++ classpath]
    | _, _ => []

def constructorBody (options : Options) (c : Class) : Text :=
  match options.profile with
  | .plain => "self.jobject = jobject".toList
  | .extended =>
    "super(".toList ++ c.simpleName ++ ", self).__init__(jobject)".toList

/-- The definition of a function: its head, its docstring and its last line. -/
def functionSteps (head doc body : Text) : List Step :=
  [.line head, .indent, .docstring [doc], .line body, .separator, .dedent]

/-- The parameters of a method with a number of arguments. -/
def parameters (count : Nat) : List Text :=
  "self".toList :: (List.range count).map fun i => "arg".toList ++ Text.ofNat i

def methodSteps (m : Method) : List Step :=
  functionSteps
    ("def ".toList ++ identifier m.name ++ ['('] ++
      Text.joinWith ", ".toList (parameters m.signature.argTypes.length) ++
      "):".toList)
    (citation m) "pass".toList

def propertySteps (a : Accessors) : List Step :=
  let name := identifier a.name
  .line "@property".toList ::
    functionSteps ("def ".toList ++ name ++ "(self):".toList)
      (citation a.getter) "return None".toList ++
    .line ('@' :: name ++ ".setter".toList) ::
    functionSteps ("def ".toList ++ name ++ "(self, value):".toList)
      (citation a.setter) "pass".toList

/-- Whether a method has a stub of its own. -/
def hasStub (m : Method) : Bool :=
  !(m.isConstructor || m.isProperty || m.isStatic)

/-- The steps that write the stub of a class with given accessors. -/
def classSteps (options : Options) (c : Class) (accessors : List Accessors) :
    List Step :=
  [.line ("class ".toList ++ c.simpleName ++ ['('] ++
      baseClass options.profile ++ "):".toList),
    .indent, .docstring (classCitations options c), .separator,
    .line "def __init__(self, jobject):".toList, .indent,
    .line (constructorBody options c), .separator, .dedent] ++
  (c.methods.filter hasStub).flatMap methodSteps ++
  accessors.flatMap propertySteps ++ [.dedent]

/-- The stub of a class; `none` if a property cites a method that is not
there. -/
def classStub? (options : Options) (c : Class) : Option Text :=
  c.allAccessors?.map fun accessors =>
    textFrom 0 (classSteps options c accessors)

/-- The module of some classes: the preamble, if there is a class, and the
stubs. -/
def module? (options : Options) (classes : List Class) : Option Text :=
  (classes.mapM (classStub? options)).map fun stubs =>
    (if classes.isEmpty then [] else (preamble? options).getD []) ++
      stubs.flatten

end Stubgen.Python
