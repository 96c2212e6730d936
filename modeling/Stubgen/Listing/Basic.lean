import Stubgen.Class.Inference
import Stubgen.Descriptor.Decode
import Stubgen.Listing.Declaration

/-!
# Listings

A listing shows a class member by member, each as a declaration line and a
descriptor line.  Lines with braces, blank lines and the banner that cites the
source file carry nothing.
-/

namespace Stubgen.Listing

inductive Fault
  /-- The last declaration line has no descriptor line. -/
  | unpairedLine (line : Text)
  /-- Where a descriptor line should be stands another one. -/
  | missingDescriptor (declaration found : Text)
  /-- A declaration line names no member. -/
  | emptyDeclaration (line : Text)
  | malformedDescriptor (member descriptor : Text) (source : Descriptor.Fault)
  deriving DecidableEq, Repr

def Fault.message : Fault → Text
  | unpairedLine line =>
    "declaration '".toList ++ line ++ "' has no matching descriptor line".toList
  | missingDescriptor declaration found =>
    "expected a descriptor line after '".toList ++ declaration ++
      "', found '".toList ++ found ++ ['\'']
  | emptyDeclaration line =>
    "declaration line '".toList ++ line ++ "' has no member name".toList
  | malformedDescriptor member descriptor source =>
    "malformed descriptor '".toList ++ descriptor ++ "' for member '".toList ++
      member ++ "': ".toList ++ source.message

def isNoise (line : Text) : Bool :=
  Text.occursIn "Compiled from".toList line || line.contains '\x7b' ||
    line.contains '\x7d' || (Text.trim line).isEmpty

def cleanLines (text : Text) : List Text :=
  (Text.lines text).filter fun line => !isNoise line

/-- The descriptor of a descriptor line; `none` if the line has no label. -/
def descriptorOf? (line : Text) : Option Text :=
  (Text.afterLabel? "descriptor:".toList (Text.trim line)).map Text.trim

inductive Member
  | method (m : Method)
  | field (f : Field)
  deriving DecidableEq, Repr

/-- Reads one member; `none` stands for a member that `skips` leaves out. -/
def readMember (skips : Text → Bool) (declarationLine descriptorLine : Text) :
    Except Fault (Option Member) :=
  match descriptorOf? descriptorLine with
  | none =>
    .error (.missingDescriptor (Text.trim declarationLine)
      (Text.trim descriptorLine))
  | some descriptor =>
    match Declaration.parse? declarationLine with
    | none => .error (.emptyDeclaration (Text.trim declarationLine))
    | some d =>
      if skips d.name then .ok none
      else if d.isField then
        match Descriptor.decodeField descriptor with
        | .ok type => .ok (some (.field ⟨d.name, type, d.isStatic⟩))
        | .error fault => .error (.malformedDescriptor d.name descriptor fault)
      else
        match Descriptor.decodeMethod descriptor with
        | .ok signature =>
          .ok (some (.method
            ⟨d.name, d.isConstructor, d.isStatic, false, signature⟩))
        | .error fault => .error (.malformedDescriptor d.name descriptor fault)

/-- Reads the members of a listing that has been cleaned, pair by pair. -/
def readMembers (skips : Text → Bool) : List Text → Except Fault (List Member)
  | [] => .ok []
  | [line] => .error (.unpairedLine (Text.trim line))
  | declarationLine :: descriptorLine :: rest => do
    let member ← readMember skips declarationLine descriptorLine
    let members ← readMembers skips rest
    return member.toList ++ members

def methodsOf (members : List Member) : List Method :=
  members.filterMap fun
    | .method m => some m
    | .field _ => none

def fieldsOf (members : List Member) : List Field :=
  members.filterMap fun
    | .method _ => none
    | .field f => some f

/-- The class of a listing, without properties. -/
def parseMembers (skips : Text → Bool) (classname text : Text) :
    Except Fault Class :=
  (readMembers skips (cleanLines text)).map fun members =>
    ⟨classname, methodsOf members, fieldsOf members, []⟩

/-- The class of a listing, with its properties. -/
def parse (skips : Text → Bool) (classname text : Text) : Except Fault Class :=
  (parseMembers skips classname text).map (·.inferProperties)

end Stubgen.Listing
