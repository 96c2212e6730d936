import Stubgen.Proofs.Python.Names
import Stubgen.Proofs.Python.ReadBack

/-!
# Distinct names stay distinct

Snake case puts an underscore before every letter that was a capital, and the
escape of a keyword puts one at the end.  A name that had no underscore can be
read back from either: an underscore before a letter stands for a capital, and
one at the end for the escape.  So two methods share a name in Python only if
they do in Java, and properties never share one.
-/

namespace Stubgen
namespace Python

/-- The name whose snake case a text is, if the name has no underscore. -/
def camelCase : Text → Text
  | '_' :: c :: rest => c.toUpper :: camelCase rest
  | c :: rest => c :: camelCase rest
  | [] => []

/-- The name whose identifier a text is, if the name has no underscore. -/
def nameOf (t : Text) : Text := (camelCase t).filter (· ≠ '_')

/-! ## Reading names back -/

theorem toUpper_toLower {c : Char} (hc : c.isUpper = true) :
    c.toLower.toUpper = c := by
  have hname : isNameChar c = true := by
    have halpha : c.isAlphanum = (c.isUpper || c.isLower || c.isDigit) := rfl
    simp [isNameChar, halpha, hc]
  revert hc
  apply forall_isNameChar
    (p := fun c => c.isUpper = true → c.toLower.toUpper = c) _ hname
  decide +kernel

theorem camelCase_cons {c : Char} (hc : c ≠ '_') (rest : Text) :
    camelCase (c :: rest) = c :: camelCase rest := by
  rw [camelCase.eq_2]
  intro _ _ hunderscore _
  exact hc hunderscore

theorem camelCase_append_underscore {name : Text} (hname : '_' ∉ name) :
    camelCase (name ++ ['_']) = name ++ ['_'] := by
  induction name with
  | nil => rfl
  | cons c rest ih =>
      rw [List.mem_cons, not_or] at hname
      rw [List.cons_append, camelCase_cons (Ne.symm hname.1), ih hname.2]

/-- Where an underscore stands before a letter, the letter was a capital. -/
theorem camelCase_snakeCase {name : Text} (hname : '_' ∉ name) :
    camelCase (snakeCase name) = name := by
  induction name with
  | nil => rfl
  | cons c rest ih =>
      rw [List.mem_cons, not_or] at hname
      have hrest := ih hname.2
      unfold snakeCase at hrest ⊢
      rw [List.flatMap_cons, snakeChar]
      by_cases hupper : c.isUpper = true
      · rw [if_pos hupper, List.cons_append, List.cons_append, List.nil_append,
          camelCase, toUpper_toLower hupper, hrest]
      · rw [if_neg hupper, List.cons_append, List.nil_append,
          camelCase_cons (Ne.symm hname.1), hrest]

theorem filter_underscore {name : Text} (hname : '_' ∉ name) :
    name.filter (· ≠ '_') = name := by
  apply List.filter_eq_self.mpr
  intro c hc
  rw [decide_eq_true_eq]
  intro hunderscore
  exact hname (hunderscore ▸ hc)

/-- A name is read back from its identifier, escaped or not. -/
theorem nameOf_identifier {name : Text} (hname : '_' ∉ name) :
    nameOf (identifier name) = name := by
  by_cases hkeyword : snakeCase name ∈ keywords
  · have hplain : ∀ word ∈ keywords, '_' ∉ word := by decide +kernel
    have hsame := snakeCase_eq_self (hplain _ hkeyword)
    rw [identifier_of_mem hkeyword, hsame, nameOf,
      camelCase_append_underscore hname, List.filter_append,
      filter_underscore hname]
    exact List.append_nil name
  · rw [identifier_of_notMem hkeyword, nameOf, camelCase_snakeCase hname,
      filter_underscore hname]

theorem identifier_inj {name other : Text} (hname : '_' ∉ name)
    (hother : '_' ∉ other) (heq : identifier name = identifier other) :
    name = other := by
  calc
    name = nameOf (identifier name) := (nameOf_identifier hname).symm
    _ = nameOf (identifier other) := by rw [heq]
    _ = other := nameOf_identifier hother

/-! ## The stub of a class -/

/-- The functions of a class are those of its methods and properties, and they
have different names wherever the members have. -/
structure NamesApart (options : Options) (c : Class) : Prop where
  written : ∃ accessors, c.allAccessors? = some accessors ∧
    classStub? options c = some (textFrom 0 (classSteps options c accessors)) ∧
      functionNames (classSteps options c accessors) =
        "__init__".toList ::
          ((c.methods.filter hasStub).map fun m => identifier m.name) ++
          c.properties.flatMap fun p => List.replicate 3 (identifier p.name)
  properties : c.properties.Pairwise fun p q =>
    identifier p.name ≠ identifier q.name
  methods : ∀ m ∈ c.methods, ∀ other ∈ c.methods,
    hasStub m = true → hasStub other = true →
      identifier m.name = identifier other.name → m.name = other.name

theorem pairwise_name_of_parse {skips : Text → Bool} {classname text : Text}
    {c : Class} (hparse : Listing.parse skips classname text = .ok c) :
    c.properties.Pairwise fun p q => p.name ≠ q.name := by
  obtain ⟨b, _, hbare, rfl⟩ := Listing.exists_isBare_of_parse hparse
  rw [hbare.properties_inferProperties]
  exact b.pairwise_name_inferredBelow _

/-- A property is cut out of the name of a method, which brings no underscore. -/
theorem underscore_notMem_of_mem_properties {skips : Text → Bool}
    {classname text : Text} {c : Class}
    (hparse : Listing.parse skips classname text = .ok c)
    (hnames : ∀ m ∈ c.methods, '_' ∉ m.name) {p : Property}
    (hp : p ∈ c.properties) : '_' ∉ p.name := by
  intro hmem
  obtain ⟨m, hm, hin⟩ := Listing.exists_method_of_mem_property hparse hp hmem
    (by decide) (by decide)
  exact hnames m hm hin

theorem written_of_parse {skips : Text → Bool} {classname text : Text}
    {c : Class} (hparse : Listing.parse skips classname text = .ok c)
    (options : Options) :
    ∃ accessors, c.allAccessors? = some accessors ∧
      classStub? options c = some (textFrom 0 (classSteps options c accessors)) ∧
        functionNames (classSteps options c accessors) =
          "__init__".toList ::
            ((c.methods.filter hasStub).map fun m => identifier m.name) ++
            c.properties.flatMap fun p =>
              List.replicate 3 (identifier p.name) := by
  have hline := Listing.isOneLine_of_parse hparse
  obtain ⟨accessors, haccessors⟩ :=
    exists_allAccessors? (Listing.isCoherent_of_parse hparse)
  refine ⟨accessors, haccessors, classStub?_eq_some haccessors, ?_⟩
  apply functionNames_classSteps options haccessors
  · intro m hm _ hmem
    exact hline.bracket m hm (mem_of_mem_identifier hmem (by decide))
  · intro p hp hmem
    exact (hline.property p hp).2 (mem_of_mem_identifier hmem (by decide))

/-- Names without underscores have different identifiers, so the members of a
class without underscores are told apart in its stub. -/
theorem identifier_tellsApart :
    Set.InjOn identifier {name : Text | '_' ∉ name} ∧
      ∀ (skips : Text → Bool) (classname text : Text) (c : Class),
        Listing.parse skips classname text = .ok c →
          (∀ m ∈ c.methods, '_' ∉ m.name) →
            ∀ options, NamesApart options c := by
  constructor
  · intro name hname other hother heq
    exact identifier_inj hname hother heq
  · intro skips classname text c hparse hnames options
    have hproperty : ∀ p ∈ c.properties, '_' ∉ p.name := by
      intro p hp
      exact underscore_notMem_of_mem_properties hparse hnames hp
    constructor
    · exact written_of_parse hparse options
    · apply (pairwise_name_of_parse hparse).imp_of_mem
      intro p q hp hq hne heq
      exact hne (identifier_inj (hproperty p hp) (hproperty q hq) heq)
    · intro m hm other hother _ _ heq
      exact identifier_inj (hnames m hm) (hnames other hother) heq

/-- Two properties and a method whose names differ in capitals only, and a method
that is named by a word of Python. -/
def kiteListing : Text :=
  Text.joinWith ['\n'] <| [
    "public class demo.Kite \x7b",
    "  public void setURL(int);", "    descriptor: (I)V",
    "  public int getURL();", "    descriptor: ()I",
    "  public void setUrl(int);", "    descriptor: (I)V",
    "  public int getUrl();", "    descriptor: ()I",
    "  public void url();", "    descriptor: ()V",
    "  public void is();", "    descriptor: ()V",
    "  public void iS();", "    descriptor: ()V",
    "\x7d"].map String.toList

def kite : Class where
  name := "demo.Kite".toList
  methods :=
    [⟨"setURL".toList, false, false, true,
        ⟨"(I)V".toList, [⟨['I'], false⟩], none⟩⟩,
      ⟨"getURL".toList, false, false, true,
        ⟨"()I".toList, [], some ⟨['I'], false⟩⟩⟩,
      ⟨"setUrl".toList, false, false, true,
        ⟨"(I)V".toList, [⟨['I'], false⟩], none⟩⟩,
      ⟨"getUrl".toList, false, false, true,
        ⟨"()I".toList, [], some ⟨['I'], false⟩⟩⟩,
      ⟨"url".toList, false, false, false, ⟨"()V".toList, [], none⟩⟩,
      ⟨"is".toList, false, false, false, ⟨"()V".toList, [], none⟩⟩,
      ⟨"iS".toList, false, false, false, ⟨"()V".toList, [], none⟩⟩]
  properties := [⟨"uRL".toList, 1, 0⟩, ⟨"url".toList, 3, 2⟩]

theorem kite_namesApart :
    Listing.parse (fun _ => false) "demo.Kite".toList kiteListing = .ok kite ∧
      (∀ m ∈ kite.methods, '_' ∉ m.name) ∧
      (kite.properties.map fun p => identifier p.name) =
        ["u_r_l".toList, "url".toList] ∧
      ((kite.methods.filter hasStub).map fun m => identifier m.name) =
        ["url".toList, "is_".toList, "i_s".toList] ∧
      ∀ options, NamesApart options kite := by
  have hparse : Listing.parse (fun _ => false) "demo.Kite".toList kiteListing =
      .ok kite := by
    decide +kernel
  have hnames : ∀ m ∈ kite.methods, '_' ∉ m.name := by decide
  refine ⟨hparse, hnames, by decide +kernel, by decide +kernel, ?_⟩
  exact identifier_tellsApart.2 _ _ _ _ hparse hnames

end Python
end Stubgen
