import Stubgen.Proofs.Listing.Layout
import Mathlib.Logic.Relation

/-!
# Texts that differ in layout only

The layout of a listing is changed in four ways: blanks come around a line, a
line end gets a carriage return, and a line that carries nothing comes in front
of a line or at the end of the text.  Two texts differ in layout only if such
changes lead from one to the other, forwards and backwards.  Each change keeps
the lines that carry something up to the blanks around them, and more is not
read, so the two texts are read alike, into one class or with one fault.
-/

namespace Stubgen
namespace Listing

open Text

/-- A line starts behind the text. -/
def EndsLine (before : Text) : Prop :=
  before = [] ∨ before.getLast? = some '\n'

/-- One change of layout. -/
inductive Relaid : Text → Text → Prop
  | padded (before a line b after : Text) (hbefore : EndsLine before)
      (hafter : after = [] ∨ after.head? = some '\n')
      (hline : '\n' ∉ a ++ line ++ b) (ha : IsGap a) (hb : IsGap b) :
      Relaid (before ++ (line ++ after))
        (before ++ (a ++ line ++ b ++ after))
  | returned (before after : Text) :
      Relaid (before ++ '\n' :: after) (before ++ '\r' :: '\n' :: after)
  | inserted (before line after : Text) (hbefore : EndsLine before)
      (hline : '\n' ∉ line) (hnothing : CarriesNothing line) :
      Relaid (before ++ after) (before ++ (line ++ '\n' :: after))
  | appended (before line : Text) (hline : '\n' ∉ line)
      (hnothing : CarriesNothing line) :
      Relaid before (before ++ '\n' :: line)

/-! ## What is read of a text -/

/-- The lines that carry something, without the blanks around them. -/
def contents (text : Text) : List Text := (cleanLines text).map trim

/-- What is read of one line. -/
def contentOf (line : Text) : List Text :=
  if isNoise line then [] else [trim line]

theorem contentOf_surround {a b : Text} (ha : IsGap a) (hb : IsGap b)
    (line : Text) : contentOf (a ++ line ++ b) = contentOf line := by
  rw [contentOf, contentOf, isNoise_surround ha hb, trim_surround ha hb]

theorem contentOf_of_carriesNothing {line : Text}
    (hnothing : CarriesNothing line) : contentOf line = [] := by
  rw [contentOf, if_pos (isNoise_iff.mpr hnothing)]

theorem contents_append {before : Text} (hbefore : EndsLine before)
    (text : Text) :
    contents (before ++ text) = contents before ++ contents text := by
  rw [contents, cleanLines_append hbefore, List.map_append]
  rfl

theorem contents_line {line : Text} (hline : '\n' ∉ line) :
    contents line = contentOf line := by
  unfold contents cleanLines contentOf
  rw [lines_of_notMem hline]
  by_cases hempty : line = []
  · subst hempty
    rfl
  · rw [if_neg hempty]
    cases hnoise : isNoise line <;> simp [hnoise]

theorem contents_line_append {line : Text} (hline : '\n' ∉ line)
    (rest : Text) :
    contents (line ++ '\n' :: rest) = contentOf line ++ contents rest := by
  unfold contents cleanLines contentOf
  rw [lines_append_newline hline, List.filter_cons, isNoise_chomp]
  cases isNoise line <;> simp

/-- The first line of a text adds what is read of it, however it is ended. -/
theorem contents_padded {a line b after : Text}
    (hafter : after = [] ∨ after.head? = some '\n')
    (hline : '\n' ∉ a ++ line ++ b) (ha : IsGap a) (hb : IsGap b) :
    contents (a ++ line ++ b ++ after) = contents (line ++ after) := by
  have hinner : '\n' ∉ line := fun hmem => hline (by simp [hmem])
  rcases hafter with rfl | hhead
  · rw [List.append_nil, List.append_nil, contents_line hline,
      contents_line hinner, contentOf_surround ha hb]
  · obtain ⟨rest, rfl⟩ := List.head?_eq_some_iff.mp hhead
    rw [contents_line_append hline, contents_line_append hinner,
      contentOf_surround ha hb]

/-- One change keeps what is read. -/
theorem Relaid.contents_eq {t u : Text} (h : Relaid t u) :
    contents t = contents u := by
  cases h with
  | padded before a line b after hbefore hafter hline ha hb =>
      rw [contents_append hbefore, contents_append hbefore,
        contents_padded hafter hline ha hb]
  | returned before after =>
      -- A carriage return is a blank behind the last line of what comes before.
      obtain ⟨start, line, rfl, hstart, hline⟩ := exists_lastLine before
      have hpadded : contents ([] ++ line ++ ['\r'] ++ '\n' :: after) =
          contents (line ++ '\n' :: after) :=
        contents_padded (Or.inr rfl) (by simpa using hline) isGap_nil
          isGap_return
      rw [List.append_assoc, List.append_assoc, contents_append hstart,
        contents_append hstart, ← hpadded]
      simp
  | inserted before line after hbefore hline hnothing =>
      rw [contents_append hbefore, contents_append hbefore,
        contents_line_append hline, contentOf_of_carriesNothing hnothing,
        List.nil_append]
  | appended _ line hline hnothing =>
      obtain ⟨start, last, rfl, hstart, hlast⟩ := exists_lastLine t
      rw [List.append_assoc, contents_append hstart, contents_append hstart,
        contents_line_append hlast, contents_line hline,
        contentOf_of_carriesNothing hnothing, List.append_nil,
        contents_line hlast]

theorem contents_eq_of_eqvGen {t u : Text} (h : Relation.EqvGen Relaid t u) :
    contents t = contents u := by
  induction h with
  | rel t u h => exact h.contents_eq
  | refl t => rfl
  | symm t u _ ih => exact ih.symm
  | trans t u v _ _ first second => exact first.trans second

/-! ## What is made of it -/

theorem readMembers_contents (skips : Text → Bool) (text : Text) :
    readMembers skips (contents text) = readMembers skips (cleanLines text) :=
  readMembers_map_trim skips (cleanLines text)

/-- Texts that differ in layout only are parsed alike. -/
theorem parse_eq_of_eqvGen {t u : Text} (h : Relation.EqvGen Relaid t u)
    (skips : Text → Bool) (classname : Text) :
    parse skips classname t = parse skips classname u := by
  have hread : readMembers skips (cleanLines t) =
      readMembers skips (cleanLines u) := by
    rw [← readMembers_contents, contents_eq_of_eqvGen h, readMembers_contents]
  unfold parse parseMembers
  rw [hread]

/-- The two lines of a method. -/
def bellListing : Text := "void stop();\ndescriptor: ()V".toList

/-- The same lines between those of a class, indented, with carriage returns and
with a wide blank at the end of one. -/
def wideBellListing : Text :=
  ("Compiled from \"Bell.java\"\r\n" ++
    "\t void stop();\u3000\r\ndescriptor: ()V\n\x7d").toList

def bell : Class where
  name := "demo.Bell".toList
  methods :=
    [⟨"stop".toList, false, false, false, ⟨"()V".toList, [], none⟩⟩]

theorem eqvGen_bellListing :
    Relation.EqvGen Relaid bellListing wideBellListing := by
  have hpadded := Relaid.padded [] "\t ".toList "void stop();".toList
    "\u3000".toList "\ndescriptor: ()V".toList (Or.inl rfl) (Or.inr rfl)
    (by decide) (by decide) (by decide)
  have hreturned := Relaid.returned "\t void stop();\u3000".toList
    "descriptor: ()V".toList
  have hinserted := Relaid.inserted [] "Compiled from \"Bell.java\"\r".toList
    "\t void stop();\u3000\r\ndescriptor: ()V".toList (Or.inl rfl) (by decide)
    (by decide)
  have happended := Relaid.appended
    ("Compiled from \"Bell.java\"\r\n" ++
      "\t void stop();\u3000\r\ndescriptor: ()V").toList ['\x7d']
    (by decide) (by decide)
  exact .trans _ _ _ (.rel _ _ hpadded) (.trans _ _ _ (.rel _ _ hreturned)
    (.trans _ _ _ (.rel _ _ hinserted) (.rel _ _ happended)))

theorem wideBellListing_parse :
    Relation.EqvGen Relaid bellListing wideBellListing ∧
      parse (fun _ => false) "demo.Bell".toList wideBellListing = .ok bell := by
  have hparse : parse (fun _ => false) "demo.Bell".toList bellListing =
      .ok bell := by
    decide +kernel
  refine ⟨eqvGen_bellListing, ?_⟩
  rw [← hparse]
  exact (parse_eq_of_eqvGen eqvGen_bellListing _ _).symm

end Listing
end Stubgen
