import Stubgen.Descriptor.Basic
import Stubgen.Listing.Basic
import Stubgen.Snippet

/-!
# Reports of malformed descriptors

A fault is shown against its descriptor.  The position of a fault is counted in
bytes, and the snippet takes the same number as a count of characters.
-/

namespace Stubgen

/-- A fault shown against the descriptor it was found in. -/
def Descriptor.Fault.render (fault : Fault) (descriptor : Text) : Text :=
  let title := "malformed descriptor".toList
  if descriptor.isEmpty then title ++ ": ".toList ++ fault.message
  else
    Snippet.render title "descriptor".toList fault.message descriptor
      (min fault.pos (Text.utf8Length descriptor - 1))

/-- The long form of the fault of a listing, with the descriptor that is
malformed. -/
def Listing.Fault.report : Fault → Text
  | malformedDescriptor member descriptor source =>
    "in member '".toList ++ member ++ "':\n".toList ++ source.render descriptor
  | fault => fault.message

end Stubgen
