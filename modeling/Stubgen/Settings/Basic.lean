import Stubgen.Json.Decode
import Stubgen.Python.Stub

/-!
# Settings

The settings of a working directory: where the tools for classes are, which
classes they see, which members to leave out, and the shape of the stubs.  A
setting that is not made is left out of the text of the settings.
-/

namespace Stubgen

structure Settings where
  javaHome : Option Text := none
  classPath : Option Text := none
  skip : Option Text := none
  profile : Python.Profile := .plain
  deriving DecidableEq, Repr

namespace Settings

/-- A setting that is a text, as the member of an object, if it is made. -/
def textMember (name : String) (value : Option Text) : List (Text × Json) :=
  value.toList.map fun t => (name.toList, .string t)

def toJson (s : Settings) : Json :=
  .object (textMember "javaHome" s.javaHome ++
    textMember "classPath" s.classPath ++
    textMember "skip" s.skip ++ [("profile".toList, .string s.profile.name)])

def text (s : Settings) : Text := s.toJson.pretty

end Settings

namespace Python.Profile

def unknown (name : Text) : Json.Misfit :=
  .unknownVariant name "`plain` or `extended`".toList

/-- The profile of a name that stands in some settings. -/
def ofSetting (name : Text) : Except Json.Misfit Profile :=
  match ofName? name with
  | some profile => .ok profile
  | none => .error (unknown name)

/-- The profile of a value: its name, or an object with the name as its one key
and `null`. -/
def ofJson : Json → Except Json.Misfit Profile
  | .string name => ofSetting name
  | .object [(name, value)] => do
    let profile ← ofSetting name
    match value with
    | .null => return profile
    | value => value.refuse "unit"
  | .object _ =>
    .error (.wrongValue "map".toList "map with a single key".toList)
  | v => v.refuse "string or map"

end Python.Profile

namespace Settings

def toPath : Json → Except Json.Misfit Text
  | .string value => .ok value
  | v => v.refuse "path string"

def ofJson (v : Json) : Except Json.Misfit Settings := do
  v.expectObject "struct Config"
  let classPath ← v.field? "classPath" (Json.toOption Json.toText)
  let javaHome ← v.field? "javaHome" (Json.toOption toPath)
  let profile ← v.field? "profile" Python.Profile.ofJson
  let skip ← v.field? "skip" (Json.toOption Json.toText)
  return ⟨javaHome.join, classPath.join, skip.join, profile.getD .plain⟩

end Settings
end Stubgen
