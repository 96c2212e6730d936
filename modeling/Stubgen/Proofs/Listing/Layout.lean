import Stubgen.Listing.Basic
import Stubgen.Proofs.Listing.Declaration
import Stubgen.Proofs.Outcome

/-!
# Listings by their lines

The members of a listing depend on its lines only up to layout: lines that
carry nothing, gaps around a line and carriage returns do not matter.  The
reader of a text is thereby reduced to the reader of the lines it was joined
from.
-/

namespace Stubgen
namespace Listing

open Text

/-- A line without a declaration or a descriptor: it is blank, holds a brace or
cites the source file. -/
def CarriesNothing (line : Text) : Prop :=
  IsGap line ∨ '\x7b' ∈ line ∨ '\x7d' ∈ line ∨
    "Compiled from".toList <:+: line

theorem trim_eq_nil_iff {line : Text} : trim line = [] ↔ IsGap line := by
  constructor
  · intro hempty
    obtain ⟨a, b, ha, hb, hline⟩ := exists_surround line
    rw [hempty, List.append_nil] at hline
    rw [hline]
    exact ha.append hb
  · intro hgap
    have h := trim_surround hgap isGap_nil []
    simp only [List.append_nil] at h
    rw [h]
    rfl

theorem isNoise_iff {line : Text} :
    isNoise line = true ↔ CarriesNothing line := by
  unfold isNoise CarriesNothing
  simp only [Bool.or_eq_true, occursIn_iff, List.contains_iff_mem,
    List.isEmpty_iff, trim_eq_nil_iff]
  tauto

instance : DecidablePred CarriesNothing := fun line =>
  decidable_of_iff (isNoise line = true) isNoise_iff

theorem isGap_surround_iff {a b : Text} (ha : IsGap a) (hb : IsGap b)
    (line : Text) : IsGap (a ++ line ++ b) ↔ IsGap line := by
  refine ⟨fun h c hc => h c (by simp [hc]), fun h => (ha.append h).append hb⟩

theorem carriesNothing_surround {a b : Text} (ha : IsGap a) (hb : IsGap b)
    (line : Text) : CarriesNothing (a ++ line ++ b) ↔ CarriesNothing line := by
  have hbrace : ∀ c, isBlank c = false → (c ∈ a ++ line ++ b ↔ c ∈ line) := by
    intro c hc
    simp [ha.notMem hc, hb.notMem hc]
  unfold CarriesNothing
  rw [isGap_surround_iff ha hb, hbrace _ rfl, hbrace _ rfl,
    infix_surround_iff (by decide) (by decide) ha hb]

@[simp] theorem isNoise_surround {a b : Text} (ha : IsGap a) (hb : IsGap b)
    (line : Text) : isNoise (a ++ line ++ b) = isNoise line := by
  rw [Bool.eq_iff_iff, isNoise_iff, isNoise_iff, carriesNothing_surround ha hb]

@[simp] theorem isNoise_chomp (line : Text) :
    isNoise (chomp line) = isNoise line := by
  rcases chomp_eq_or line with heq | heq
  · rw [heq]
  · have h := isNoise_surround isGap_nil isGap_return (chomp line)
    rw [List.nil_append, ← heq] at h
    exact h.symm

/-- Joined lines are cut apart again, up to gaps around them. -/
theorem cleanLines_joinWith {ls : List Text}
    (hls : ∀ line ∈ ls, '\n' ∉ line) :
    (cleanLines (joinWith ['\n'] ls)).map trim =
      (ls.filter fun line => !isNoise line).map trim := by
  induction ls with
  | nil => rfl
  | cons line ls ih =>
      have hline : '\n' ∉ line := hls line (by simp)
      have hrest := ih fun l hl => hls l (by simp [hl])
      unfold cleanLines at hrest ⊢
      cases ls with
      | nil =>
          rw [joinWith, lines_of_notMem hline]
          split
          next hempty =>
            subst line
            rfl
          next => rfl
      | cons next ls =>
          rw [joinWith, List.append_assoc, List.singleton_append,
            lines_append_newline hline, List.filter_cons, List.filter_cons,
            isNoise_chomp]
          split
          next =>
            rw [List.map_cons, List.map_cons, trim_chomp, hrest]
          next => exact hrest

/-! ## Pairs of lines -/

@[simp] theorem trim_trim (t : Text) : trim (trim t) = trim t :=
  (isTrimmed_trim t).trim_eq

@[simp] theorem descriptorOf?_trim (line : Text) :
    descriptorOf? (trim line) = descriptorOf? line := by
  unfold descriptorOf?
  rw [trim_trim]

@[simp] theorem Declaration.parse?_trim (line : Text) :
    parse? (trim line) = parse? line := by
  obtain ⟨a, b, ha, hb, hline⟩ := exists_surround line
  conv_rhs => rw [hline, parse?_surround ha hb]

theorem readMember_trim (skips : Text → Bool)
    (declarationLine descriptorLine : Text) :
    readMember skips (trim declarationLine) (trim descriptorLine) =
      readMember skips declarationLine descriptorLine := by
  unfold readMember
  simp only [descriptorOf?_trim, Declaration.parse?_trim, trim_trim]

theorem readMembers_map_trim (skips : Text → Bool) (ls : List Text) :
    readMembers skips (ls.map trim) = readMembers skips ls := by
  induction ls using readMembers.induct with
  | case1 => rfl
  | case2 line =>
      simp only [List.map_cons, List.map_nil, readMembers, trim_trim]
  | case3 declarationLine descriptorLine rest ih =>
      simp only [List.map_cons, readMembers, readMember_trim, ih]

theorem readMembers_joinWith (skips : Text → Bool) {ls : List Text}
    (hls : ∀ line ∈ ls, '\n' ∉ line) :
    readMembers skips (cleanLines (joinWith ['\n'] ls)) =
      readMembers skips (ls.filter fun line => !isNoise line) := by
  rw [← readMembers_map_trim, cleanLines_joinWith hls, readMembers_map_trim]

theorem isNoise_of_mem_cleanLines {text line : Text}
    (hline : line ∈ cleanLines text) : isNoise line = false := by
  have hkept := (List.mem_filter.mp hline).2
  simpa using hkept

/-- The lines that a text is cut into can be joined again, all or some. -/
theorem readMembers_joinWith_of_subset (skips : Text → Bool)
    {text : Text} {ls : List Text} (hls : ls ⊆ cleanLines text) :
    readMembers skips (cleanLines (joinWith ['\n'] ls)) =
      readMembers skips ls := by
  have hlines : ∀ line ∈ ls, '\n' ∉ line := by
    intro line hline
    exact newline_notMem_of_mem_lines (List.mem_of_mem_filter (hls hline))
  have hkept : (ls.filter fun line => !isNoise line) = ls := by
    apply List.filter_eq_self.mpr
    intro line hline
    simp [isNoise_of_mem_cleanLines (hls hline)]
  rw [readMembers_joinWith skips hlines, hkept]

/-- A line that is kept is read the same with its line feed behind it. -/
theorem readMembers_line_append (skips : Text → Bool) {line : Text}
    (hline : '\n' ∉ line) (hkept : isNoise line = false) (text : Text) :
    readMembers skips (cleanLines (line ++ '\n' :: text)) =
      readMembers skips (line :: cleanLines text) := by
  have hclean : cleanLines (line ++ '\n' :: text) =
      chomp line :: cleanLines text := by
    unfold cleanLines
    rw [lines_append_newline hline, List.filter_cons_of_pos (by simp [hkept])]
  rw [← readMembers_map_trim, hclean, List.map_cons, trim_chomp,
    ← List.map_cons, readMembers_map_trim]

theorem cleanLines_append {a : Text} (ha : a = [] ∨ a.getLast? = some '\n')
    (b : Text) : cleanLines (a ++ b) = cleanLines a ++ cleanLines b := by
  rcases ha with rfl | hlast
  · rfl
  · obtain ⟨start, rfl⟩ := List.getLast?_eq_some_iff.mp hlast
    unfold cleanLines
    rw [List.append_assoc, List.singleton_append, lines_append,
      List.filter_append]

end Listing
end Stubgen
