import Stubgen.Class.Display
import Stubgen.Proofs.Listing.Parsed
import Stubgen.Proofs.Listing.Position
import Stubgen.Proofs.Python.Stubs

/-!
# No input goes wrong

On the way from a listing to a stub, texts are cut at byte positions, brackets
are counted down, and methods are taken by their places.  The listing is read
with all of this checked, and nothing goes wrong, whatever the text.  The places
that a class keeps for later are in range, so it can be shown and written.
-/

namespace Stubgen

/-- The reading of arguments in front of a closing bracket.  Every type ends
farther on, but not behind the bracket, and the loop ends at the bracket. -/
structure Descriptor.StaysInside (raw : Text) (close : ℕ) : Prop where
  advances : ∀ pos type next,
    typeAt raw pos close = .returns (.ok (type, next)) →
      pos < next ∧ next ≤ close
  ends : typesAt raw close 1 =
    .returns ((readTypes 1 (raw.tail.takeWhile (· ≠ ')'))).map fun types =>
      (types, close))

theorem Descriptor.staysInside {raw : Text} {close : ℕ}
    (hopening : raw.head? = some '(')
    (hclosing : Text.position? (· = ')') raw = some close) :
    StaysInside raw close where
  advances := fun _ _ _ hread => typeAt_advances hread
  ends := by
    obtain ⟨span, c, result, rfl, hspan, hc, rfl⟩ :=
      Text.exists_span_of_position? hclosing
    have hsize : '('.utf8Size = 1 := by decide
    have hbracket : c = ')' := by simpa using hc
    subst hbracket
    obtain ⟨arguments, rfl⟩ : ∃ arguments, span = '(' :: arguments := by
      cases span with
      | nil => simp at hopening
      | cons d arguments =>
          have hd : d = '(' := by simpa using hopening
          exact ⟨arguments, by rw [hd]⟩
    have hplain : ∀ x ∈ arguments, decide (x ≠ ')') = true := by
      intro x hx
      simpa using hspan x (by simp [hx])
    have hstops : Text.Stops (· ≠ ')') (')' :: result) := by simp
    have htypes := typesAt_arguments arguments result
    rwa [List.cons_append, List.tail_cons, Text.takeWhile_span hplain hstops,
      Text.utf8Length_cons, hsize]

/-- Nothing that is written of the class looks outside its methods or its
name. -/
structure Class.IsInRange (c : Class) : Prop where
  read : ∀ p ∈ c.properties, p.read < c.methods.length
  write : ∀ p ∈ c.properties, p.write < c.methods.length
  accessors : ∀ p ∈ c.properties, ∃ a, c.accessors? p = some a
  simpleName : c.simpleName? = some c.simpleName
  display : ∃ text, c.display? = some text
  stub : ∀ options, ∃ text, Python.classStub? options c = some text

theorem Class.IsCoherent.isInRange {c : Class} (hc : c.IsCoherent) :
    c.IsInRange := by
  obtain ⟨all, hall⟩ := Python.exists_allAccessors? hc
  refine ⟨?_, ?_, ?_, c.simpleName?_eq, ?_, ?_⟩
  · intro p hp
    obtain ⟨getter, _, hgetter, _, _⟩ := hc.exists_accessors? hp
    exact (List.getElem?_eq_some_iff.mp hgetter).1
  · intro p hp
    obtain ⟨_, setter, _, hsetter, _⟩ := hc.exists_accessors? hp
    exact (List.getElem?_eq_some_iff.mp hsetter).1
  · intro p hp
    obtain ⟨_, _, _, _, haccessors⟩ := hc.exists_accessors? hp
    exact ⟨_, haccessors⟩
  · exact ⟨_, by rw [display?, hall, Option.map_some]⟩
  · intro options
    exact ⟨_, Python.classStub?_eq_some hall⟩

/-- Reading a listing gives a class or a fault, never a cut or a place out of
range, and the class can be written under any options. -/
theorem pipeline_inRange (skips : Text → Bool) (classname text : Text) :
    Listing.parseAt skips classname text =
        .returns (Listing.parse skips classname text) ∧
      (∀ raw close, raw.head? = some '(' →
        Text.position? (· = ')') raw = some close →
          Descriptor.StaysInside raw close) ∧
      (∀ t, Listing.Declaration.stripTypeParametersAt t =
        .returns (.ok (Listing.stripTypeParameters t))) ∧
      ∀ c, Listing.parse skips classname text = .ok c → c.IsInRange := by
  refine ⟨Listing.parseAt_eq skips classname text, ?_,
    Listing.Declaration.stripTypeParametersAt_eq, ?_⟩
  · intro raw close hopening hclosing
    exact Descriptor.staysInside hopening hclosing
  · intro c hparse
    obtain ⟨b, _, hb, rfl⟩ := Listing.exists_isBare_of_parse hparse
    exact hb.isCoherent_inferProperties.isInRange

/-- A listing with wide characters in names and in descriptors. -/
def cafeListing : Text :=
  Text.joinWith ['\n'] <| [
    "public class Café \x7b",
    "  public <T extends List<T>> void setÉtat(T[], int);",
    "    descriptor: ([Ljava/Été;I)V",
    "  public État getÉtat();",
    "    descriptor: ()[LÉtat;",
    "\x7d"].map String.toList

theorem cafe_inRange :
    (∃ c, Listing.parse (fun _ => false) "Café".toList cafeListing = .ok c ∧
        c.properties = [⟨"état".toList, 1, 0⟩] ∧ c.IsInRange) ∧
      Descriptor.StaysInside "([Ljava/Été;I)V".toList 15 := by
  obtain ⟨_, hdescriptors, _, hclasses⟩ :=
    pipeline_inRange (fun _ => false) "Café".toList cafeListing
  have hproperties : (Listing.parse (fun _ => false) "Café".toList
      cafeListing).map (·.properties) = .ok [⟨"état".toList, 1, 0⟩] := by
    decide +kernel
  obtain ⟨c, hc, hcproperties⟩ := except_map_eq_ok_iff.mp hproperties
  exact ⟨⟨c, hc, hcproperties, hclasses c hc⟩,
    hdescriptors _ _ (by decide) (by decide)⟩

end Stubgen
