import Stubgen.Listing.Report
import Stubgen.Source.Basic

/-!
# Collecting classes

The classes that were asked for are read one by one.  A class that cannot be
read is set aside with the reason, and the others are read all the same.
-/

namespace Stubgen

inductive ClassFault
  | source (fault : Source.Fault)
  | listing (fault : Listing.Fault)
  deriving DecidableEq, Repr

def ClassFault.report : ClassFault → Text
  | source fault => fault.message
  | listing fault => fault.report

structure Failure where
  classname : Text
  fault : ClassFault
  deriving DecidableEq, Repr

abbrev Outcome := Except Failure Class

structure Collected where
  classes : List Class := []
  failures : List Failure := []
  deriving DecidableEq, Repr

/-- What becomes of a class with a listing, or of one without. -/
def outcomeOf (skips : Text → Bool) (classname : Text) :
    Except Source.Fault Text → Outcome
  | .error fault => .error ⟨classname, .source fault⟩
  | .ok text =>
    match Listing.parse skips classname text with
    | .ok c => .ok c
    | .error fault => .error ⟨classname, .listing fault⟩

/-- Sorts outcomes, each kind in the order in which they come. -/
def Collected.ofOutcomes (outcomes : List Outcome) : Collected where
  classes := outcomes.filterMap fun
    | .ok c => some c
    | .error _ => none
  failures := outcomes.filterMap fun
    | .ok _ => none
    | .error failure => some failure

variable {m : Type → Type} [Monad m]

/-- What becomes of each class that is asked for, in order. -/
def outcomes (source : Source m) (skips : Text → Bool) (classpath : Text)
    (classnames : List Text) : m (List Outcome) :=
  classnames.mapM fun classname => do
    return outcomeOf skips classname (← source classname classpath)

def collect (source : Source m) (skips : Text → Bool) (classpath : Text)
    (classnames : List Text) : m Collected := do
  return .ofOutcomes (← outcomes source skips classpath classnames)

end Stubgen
