import Stubgen.Json.Skip
import Stubgen.Settings.Basic

/-!
# Reading settings

The settings of a text are the members of an object, or the elements of an array
in the order of the settings.  Members of other names are passed over.  A fault
cites the place where it was found, also where the text is good JSON and only a
value is of the wrong type.
-/

namespace Stubgen.Settings

open Json (Fault Misfit fault faultAt readLiteral readString readNumber
  readColon skipBlanks)

def misfit {α : Type} (m : Misfit) (rest : Text) : Except Fault (α × Text) :=
  fault (.refused m.message) rest

def refuseAfter {α : Type} (expected : String) (found : Text) (rest : Text) :
    Except Fault (α × Text) :=
  misfit (.wrongType found expected.toList) rest

def refuseNumber {α : Type} (expected : String) (negative : Bool) (t : Text) :
    Except Fault (α × Text) := do
  let (number, rest) ← readNumber .endInValue negative t
  match number.describe? with
  | some found => refuseAfter expected found rest
  | none => fault .numberOutOfRange rest

/-- Refuses the value at the start of a text.  An array or an object is refused
at its bracket, and every other value behind its end. -/
def refuse {α : Type} (expected : String) (t : Text) :
    Except Fault (α × Text) :=
  match t with
  | [] => fault .endInValue []
  | 'n' :: rest => do
    let (_, rest) ← readLiteral "ull".toList rest
    refuseAfter expected "null".toList rest
  | 't' :: rest => do
    let (_, rest) ← readLiteral "rue".toList rest
    refuseAfter expected (Json.describeBool true) rest
  | 'f' :: rest => do
    let (_, rest) ← readLiteral "alse".toList rest
    refuseAfter expected (Json.describeBool false) rest
  | '"' :: rest => do
    let (s, rest) ← readString rest
    refuseAfter expected (Json.describeString s) rest
  | '[' :: rest => refuseAfter expected "sequence".toList ('[' :: rest)
  | '\x7b' :: rest => refuseAfter expected "map".toList ('\x7b' :: rest)
  | '-' :: rest => refuseNumber expected true rest
  | c :: rest =>
    if c.isDigit then refuseNumber expected false (c :: rest)
    else faultAt .expectedValue (c :: rest)

def readText (expected : String) (t : Text) : Except Fault (Text × Text) :=
  match t with
  | '"' :: rest => readString rest
  | t => refuse expected t

/-- A text or `null`. -/
def readOptionalText (expected : String) (t : Text) :
    Except Fault (Option Text × Text) :=
  match t with
  | 'n' :: rest =>
    (readLiteral "ull".toList rest).map fun (_, after) => (none, after)
  | t => (readText expected t).map fun (s, after) => (some s, after)

/-- The profile of a name, behind which `rest` stands. -/
def profileOf (name rest : Text) : Except Fault (Python.Profile × Text) :=
  match Python.Profile.ofSetting name with
  | .ok profile => .ok (profile, rest)
  | .error m => misfit m rest

/-- The `null` behind the name of a profile that is a key. -/
def readUnit (t : Text) : Except Fault (Unit × Text) :=
  match t with
  | 'n' :: rest => readLiteral "ull".toList rest
  | t => refuse "unit" t

/-- A profile: its name, or an object with the name as its one key and
`null`. -/
def readProfile (t : Text) : Except Fault (Python.Profile × Text) :=
  match t with
  | '"' :: rest => do
    let (name, rest) ← readString rest
    profileOf name rest
  | '\x7b' :: rest => do
    let (name, rest) ← readText "variant identifier" (skipBlanks rest)
    let (profile, rest) ← profileOf name rest
    let (_, rest) ← readColon rest
    let (_, rest) ← readUnit rest
    match skipBlanks rest with
    | '\x7d' :: after => return (profile, after)
    | [] => fault .endInObject []
    | rest => fault .expectedValue rest
  | t => faultAt (if t.isEmpty then .endInValue else .expectedValue) t

/-- The settings read so far.  What was not read yet is `none`, also where
`null` may stand for a setting that is not made. -/
structure Draft where
  javaHome : Option (Option Text) := none
  classPath : Option (Option Text) := none
  skip : Option (Option Text) := none
  profile : Option Python.Profile := none
  deriving DecidableEq, Repr

/-- The settings of a draft; what was not read is not made. -/
def Draft.settings (d : Draft) : Settings :=
  ⟨d.javaHome.join, d.classPath.join, d.skip.join, d.profile.getD .plain⟩

inductive Slot
  | javaHome
  | classPath
  | skip
  | profile
  deriving DecidableEq, Repr

namespace Slot

/-- The places in the order in which an array gives them. -/
def all : List Slot := [javaHome, classPath, skip, profile]

def name : Slot → Text
  | javaHome => "javaHome".toList
  | classPath => "classPath".toList
  | skip => "skip".toList
  | profile => "profile".toList

def ofName? (name : Text) : Option Slot := all.find? (·.name = name)

def isSet (d : Draft) : Slot → Bool
  | javaHome => d.javaHome.isSome
  | classPath => d.classPath.isSome
  | skip => d.skip.isSome
  | profile => d.profile.isSome

/-- Reads the setting at the start of a text into a draft. -/
def read (slot : Slot) (d : Draft) (t : Text) : Except Fault (Draft × Text) :=
  match slot with
  | javaHome =>
    (readOptionalText "path string" t).map fun (v, after) =>
      ({ d with javaHome := some v }, after)
  | classPath =>
    (readOptionalText "a string" t).map fun (v, after) =>
      ({ d with classPath := some v }, after)
  | skip =>
    (readOptionalText "a string" t).map fun (v, after) =>
      ({ d with skip := some v }, after)
  | profile =>
    (readProfile t).map fun (v, after) => ({ d with profile := some v }, after)

end Slot

/-- The fault of a second member of one name.  The bracket that ends the object
counts as read if it follows the name. -/
def duplicate {α : Type} (slot : Slot) (t : Text) : Except Fault (α × Text) :=
  let message := "duplicate field `".toList ++ slot.name ++ ['`']
  match skipBlanks t with
  | '\x7d' :: after => fault (.refused message) after
  | rest => fault (.refused message) rest

/-- Reads the value of the member of a name, behind the name. -/
def readMember (d : Draft) (name t : Text) : Except Fault (Draft × Text) :=
  match Slot.ofName? name with
  | some slot =>
    if slot.isSet d then duplicate slot t
    else do
      let (_, t) ← readColon t
      slot.read d t
  | none => do
    let (_, t) ← readColon t
    let (_, t) ← Json.skip t
    return (d, t)

/-- Reads members up to the end of their object, at least one and at most
`fuel`. -/
def readMembers (fuel : Nat) (d : Draft) (t : Text) :
    Except Fault (Draft × Text) :=
  match fuel with
  | 0 => fault .endInObject t
  | fuel + 1 =>
    match t with
    | '"' :: rest => do
      let (name, t) ← readString rest
      let (d, t) ← readMember d name t
      match skipBlanks t with
      | '\x7d' :: after => return (d, after)
      | ',' :: rest =>
        match skipBlanks rest with
        | '\x7d' :: after => faultAt .trailingComma ('\x7d' :: after)
        | [] => fault .endInValue []
        | rest => readMembers fuel d rest
      | [] => fault .endInObject []
      | rest => faultAt .expectedObjectEnd rest
    | t => faultAt .keyNotString t

/-- Passes over the end of an array of which all elements were read. -/
def readArrayEnd (t : Text) : Except Fault (Unit × Text) :=
  match skipBlanks t with
  | ']' :: after => .ok ((), after)
  | ',' :: rest =>
    match skipBlanks rest with
    | ']' :: after => faultAt .trailingComma (']' :: after)
    | rest => faultAt .trailingCharacters rest
  | [] => fault .endInList []
  | rest => faultAt .trailingCharacters rest

/-- Reads the elements of an array into some places, up to its end.  The array
may be short. -/
def readElements (first : Bool) (d : Draft) (slots : List Slot) (t : Text) :
    Except Fault (Draft × Text) :=
  match slots with
  | [] => (readArrayEnd t).map fun (_, after) => (d, after)
  | slot :: slots =>
    match skipBlanks t with
    | [] => fault .endInList []
    | ']' :: after => .ok (d, after)
    | c :: rest =>
      if first then do
        let (d, t) ← slot.read d (c :: rest)
        readElements false d slots t
      else if c = ',' then
        match skipBlanks rest with
        | ']' :: after => faultAt .trailingComma (']' :: after)
        | rest => do
          let (d, t) ← slot.read d rest
          readElements false d slots t
      else faultAt .expectedListEnd (c :: rest)

def readSettings (t : Text) : Except Fault (Draft × Text) :=
  match t with
  | '[' :: rest => readElements true {} Slot.all rest
  | '\x7b' :: rest =>
    match skipBlanks rest with
    | '\x7d' :: after => .ok ({}, after)
    | [] => fault .endInObject []
    | rest => readMembers (rest.length + 1) {} rest
  | t => refuse "struct Config" t

def readEnd (t : Text) : Except Fault (Unit × Text) :=
  match skipBlanks t with
  | [] => .ok ((), [])
  | rest => faultAt .trailingCharacters rest

def ofText (t : Text) : Except Fault Settings := do
  let (d, rest) ← readSettings (skipBlanks t)
  let _ ← readEnd rest
  return d.settings

end Stubgen.Settings
