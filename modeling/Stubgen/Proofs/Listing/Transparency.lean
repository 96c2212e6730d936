import Stubgen.Proofs.Listing.Pairs
import Stubgen.Proofs.Listing.RoundTrip

/-!
# What may stand in front of a declaration

Modifiers and a list of type parameters may be put in front of any line, also of
one that is no declaration.  The line says of its member what it said before, up
to the marks of the modifiers, and a line that names no member still names none.
A list of type parameters needs a line that starts with the type or the name: it
is looked for once, and behind the modifiers.
-/

namespace Stubgen
namespace Listing

open Text

/-- Text in front of a line adds the marks of some modifiers to what the line
says, and a line that says nothing is quoted with it. -/
structure IsTransparent (words : List Text) (front line : Text) : Prop where
  parse : Declaration.parse? (front ++ line) =
    (Declaration.parse? line).map (Declaration.withModifiers words)
  fault : Declaration.parse? line = none →
    ∀ skips descriptorLine, descriptorOf? descriptorLine ≠ none →
      readMember skips line descriptorLine =
          .error (.emptyDeclaration (trim line)) ∧
        readMember skips (front ++ line) descriptorLine =
          .error (.emptyDeclaration (trim (front ++ line)))

/-- The line starts neither with type parameters nor with a modifier.  Its first
word ends at a blank, at the first round bracket, or at the semicolons that end
the line. -/
@[mk_iff]
structure StartsBare (line : Text) : Prop where
  notBracket : (trim line).head? ≠ some '<'
  notModifier : ∀ word ∈ (words (Declaration.head line)).head?,
    word ∉ modifiers

instance : DecidablePred StartsBare := fun line =>
  decidable_of_iff
    ((trim line).head? ≠ some '<' ∧
      (words (Declaration.head line)).head?.all
        (fun word => !modifiers.contains word) = true)
    (by simp [startsBare_iff, Option.all_eq_true])

/-! ## The start of a line -/

theorem Declaration.head_prefix_trim (line : Text) : head line <+: trim line := by
  by_cases hline : '(' ∈ line
  · obtain ⟨before, tail, rfl, hbefore⟩ := List.eq_append_cons_of_mem hline
    rw [head_bracket hbefore]
    exact trim_prefix_trim_append before _
  · obtain ⟨rest, hrest⟩ :=
      List.rdropWhile_prefix (fun c => decide (c = ';')) (l := trim line)
    have htrim := trim_prefix_trim_append
      (dropEndWhile (· = ';') (trim line)) rest
    rw [dropEndWhile_eq_rdropWhile, hrest, trim_trim] at htrim
    rw [head_of_notMem hline]
    exact htrim

theorem StartsBare.startsPlain_head {line : Text} (hline : StartsBare line) :
    Declaration.StartsPlain (Declaration.head line) := by
  have hstops := (Declaration.isTrimmed_head line).start
  constructor
  · cases hhead : Declaration.head line with
    | nil => decide
    | cons c rest =>
        apply hline.notModifier
        rw [hhead] at hstops ⊢
        rw [words_eq_cons (List.cons_ne_nil c rest) hstops]
        rfl
  · intro hbracket
    obtain ⟨rest, hrest⟩ := Declaration.head_prefix_trim line
    apply hline.notBracket
    rw [← hrest, List.head?_append, hbracket]
    rfl

/-! ## Lines with a front -/

/-- A pair of lines that names no member is faulty whatever is left out. -/
theorem readMember_of_parse?_eq_none {line descriptorLine : Text}
    (hline : Declaration.parse? line = none)
    (hlabel : descriptorOf? descriptorLine ≠ none) (skips : Text → Bool) :
    readMember skips line descriptorLine =
      .error (.emptyDeclaration (trim line)) := by
  obtain ⟨descriptor, hdescriptor⟩ := Option.ne_none_iff_exists'.mp hlabel
  exact readMember_eq_error_iff.mpr (.noName hdescriptor hline)

theorem isTransparent_of_parse? {words : List Text} {front line : Text}
    (hparse : Declaration.parse? (front ++ line) =
      (Declaration.parse? line).map (Declaration.withModifiers words)) :
    IsTransparent words front line where
  parse := hparse
  fault := by
    intro hline skips descriptorLine hlabel
    rw [hline] at hparse
    exact ⟨readMember_of_parse?_eq_none hline hlabel skips,
      readMember_of_parse?_eq_none hparse hlabel skips⟩

theorem parse?_gap_append {gap : Text} (hgap : IsGap gap) (line : Text) :
    Declaration.parse? (gap ++ line) = Declaration.parse? line := by
  have h := Declaration.parse?_surround hgap isGap_nil line
  rwa [List.append_nil] at h

/-- Modifiers are transparent in front of every line, and type parameters in
front of every line that starts with neither. -/
theorem isTransparent_front (line : Text) :
    (∀ (gap : Text) (parts : List Part), IsGap gap →
      (∀ p ∈ parts, p.text ∈ modifiers ∧ p.IsApart) →
        IsTransparent (parts.map Part.text)
          (gap ++ parts.flatMap Part.print) line) ∧
      (StartsBare line → ∀ (gap : Text) (list : Part), IsGap gap →
        list.IsList → IsTransparent [] (gap ++ list.print) line) := by
  constructor
  · intro gap parts hgap hparts
    apply isTransparent_of_parse?
    rw [List.append_assoc, parse?_gap_append hgap]
    exact Declaration.parse?_modifiers hparts line
  · intro hbare gap list hgap hlist
    apply isTransparent_of_parse?
    rw [List.append_assoc, parse?_gap_append hgap,
      Declaration.withModifiers_nil, Option.map_id, Part.print]
    exact Declaration.parse?_typeParameters hlist.list hlist.bracket
      hlist.gap_blank hbare.startsPlain_head

/-- A constructor with nested type parameters, and no blank behind them. -/
def pairLine : Text := "demo.Pair(K, V);".toList

def pairParameters : Part := ⟨"<K, V extends Comparable<V>>".toList, []⟩

def pairModifiers : List Part :=
  [⟨"public".toList, " ".toList⟩, ⟨"static".toList, "\t ".toList⟩]

theorem pairLine_isTransparent :
    StartsBare pairLine ∧ pairParameters.IsList ∧
      (∀ p ∈ pairModifiers, p.text ∈ modifiers ∧ p.IsApart) ∧
      IsTransparent [] pairParameters.print pairLine ∧
      Declaration.parse?
          "public static\t <K, V extends Comparable<V>>demo.Pair(K, V);".toList =
        some ⟨"demo.Pair".toList, true, true, false⟩ := by
  have hbare : StartsBare pairLine := by decide
  have hlist : pairParameters.IsList := ⟨by decide, by decide, by decide⟩
  have hmodifiers : ∀ p ∈ pairModifiers, p.text ∈ modifiers ∧ p.IsApart := by
    decide
  have hlisted := (isTransparent_front pairLine).2 hbare [] pairParameters
    isGap_nil hlist
  have hmodified := ((isTransparent_front
    (pairParameters.print ++ pairLine)).1 [] pairModifiers isGap_nil
      hmodifiers).parse
  have hline : Declaration.parse? pairLine =
      some ⟨"demo.Pair".toList, true, false, false⟩ := by decide +kernel
  rw [List.nil_append] at hlisted hmodified
  rw [hlisted.parse, hline] at hmodified
  exact ⟨hbare, hlist, hmodifiers, hlisted, hmodified⟩

end Listing
end Stubgen
