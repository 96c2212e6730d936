import Stubgen.Proofs.Regex.Bounds
import Stubgen.Proofs.Regex.Spliced

/-!
# Skip patterns match whole names

A skip pattern is placed between the ends of the text as text, and what is read
from that is the pattern's own expression between them.  So a name is skipped
exactly if the pattern matches all of it.
-/

namespace Stubgen

namespace Regex

/-- The expression of a well-formed pattern, however large. -/
def expression? (pattern : Text) : Option Expr :=
  (parse? pattern).map fun piece => piece.expr.getD .empty

theorem expression?_of_compile? {pattern : Text} {e : Expr}
    (h : compile? pattern = some e) : expression? pattern = some e := by
  obtain ⟨piece, hparse, hfits⟩ := Option.bind_eq_some_iff.mp h
  rw [expression?, hparse, Option.map_some]
  simp only at hfits
  split at hfits
  next => exact hfits
  next => cases hfits

theorem isOrdered_expression {pattern : Text} {e : Expr}
    (h : expression? pattern = some e) : e.IsOrdered := by
  obtain ⟨piece, hparse, rfl⟩ := Option.map_eq_some_iff.mp h
  exact (isOrdered_parse hparse).getD

theorem spans_textStart_iff {before middle after : Text} :
    Spans before middle after (.look .textStart) ↔ before = [] ∧ middle = [] := by
  constructor
  · intro h
    cases h with
    | look _ _ _ h => exact ⟨by simpa [Look.holds] using h, rfl⟩
  · rintro ⟨rfl, rfl⟩
    exact .look _ _ _ rfl

theorem spans_textEnd_iff {before middle after : Text} :
    Spans before middle after (.look .textEnd) ↔ middle = [] ∧ after = [] := by
  constructor
  · intro h
    cases h with
    | look _ _ _ h => exact ⟨rfl, by simpa [Look.holds] using h⟩
  · rintro ⟨rfl, rfl⟩
    exact .look _ _ _ rfl

/-- Between the ends of the text there is nothing but the whole text. -/
theorem spans_between_ends_iff {text : Text} {e : Expr} :
    (∃ before middle after, text = before ++ middle ++ after ∧
      Spans before middle after (.seq (.look .textStart) (.seq e (.look .textEnd)))) ↔
      Spans [] text [] e := by
  constructor
  · rintro ⟨before, middle, after, rfl, hspans⟩
    cases hspans with
    | seq _ first second _ _ _ hstart hrest =>
        obtain ⟨rfl, rfl⟩ := spans_textStart_iff.mp hstart
        cases hrest with
        | seq _ body last _ _ _ hbody hend =>
            obtain ⟨rfl, rfl⟩ := spans_textEnd_iff.mp hend
            simpa using hbody
  · intro h
    have hend : Spans text [] [] (.look .textEnd) := spans_textEnd_iff.mpr ⟨rfl, rfl⟩
    have hrest := Spans.seq [] text [] [] e _ h hend
    have hstart : Spans [] [] (text ++ []) (.look .textStart) :=
      spans_textStart_iff.mpr ⟨rfl, rfl⟩
    have hwhole := Spans.seq [] [] (text ++ []) [] _ _ (by simpa using hstart) hrest
    exact ⟨[], [] ++ (text ++ []), [], by simp, hwhole⟩

end Regex

namespace SkipPattern

open Regex (Expr Spans expression?)

/-- What is searched for a valid pattern is its expression between the ends of the
text. -/
theorem expr_of_ofText {pattern : Text} {e : Expr} {p : SkipPattern}
    (hvalid : expression? pattern = some e) (hskip : ofText? pattern = some p) :
    p.expr = .seq (.look .textStart) (.seq e (.look .textEnd)) ∧
      p.expr.IsOrdered := by
  obtain ⟨whole, hcompile, rfl⟩ := Option.map_eq_some_iff.mp hskip
  obtain ⟨piece, hpattern, rfl⟩ := Option.map_eq_some_iff.mp hvalid
  have hexpression := Regex.expression?_of_compile? hcompile
  refine ⟨?_, Regex.isOrdered_expression hexpression⟩
  obtain ⟨wholePiece, hwhole, heq⟩ := Option.map_eq_some_iff.mp hexpression
  rw [Regex.expr_of_parse_anchored hpattern hwhole] at heq
  exact heq.symm

/-- A pattern that is valid alone and as a skip pattern skips exactly the names that
it matches from their start to their end.  Nothing is said of a pattern like
`a)|(b`, which is valid between the brackets only. -/
theorem skips_iff_spans {pattern : Text} {e : Expr} {p : SkipPattern}
    (hvalid : expression? pattern = some e) (hskip : ofText? pattern = some p)
    (name : Text) : p.skips name = true ↔ Spans [] name [] e := by
  obtain ⟨hexpr, hordered⟩ := expr_of_ofText hvalid hskip
  rw [skips, Regex.occursIn_iff name hordered, hexpr]
  exact Regex.spans_between_ends_iff

/-- The letter `a` at the end of a line, or nothing. -/
def lineOrNothing : Expr :=
  .alt (.seq (.one (CodeSet.singleton 0x61)) (.look .lineEnd)) .empty

/-- A flag inside the pattern does not reach the end of the text behind it. -/
theorem skips_lineOrNothing :
    expression? "(?m)a$|".toList = some lineOrNothing ∧
      ∃ p, ofText? "(?m)a$|".toList = some p ∧
        (∀ name, p.skips name = true ↔ Spans [] name [] lineOrNothing) ∧
        p.skips "a".toList = true ∧ p.skips [] = true ∧
        p.skips "a\n".toList = false := by
  let whole : Expr := .seq (.look .textStart) (.seq lineOrNothing (.look .textEnd))
  have hvalid : expression? "(?m)a$|".toList = some lineOrNothing := by
    decide +kernel
  have hparse : Regex.parse? (anchored "(?m)a$|".toList) = some ⟨some whole, 4⟩ := by
    decide +kernel
  have hsize : ∀ direction, whole.compiledSize direction ≤ Regex.sizeLimit := by
    intro direction
    simp only [whole, lineOrNothing, Expr.compiledSize, Expr.size,
      Expr.sizeInSequence, Expr.sizeInAlternation, Expr.setOfAlternatives?]
    cases direction <;> decide
  have hskip : ofText? "(?m)a$|".toList = some ⟨whole⟩ := by
    rw [ofText?, Regex.compile?, hparse]
    simp [hsize, Regex.depthLimit]
  exact ⟨hvalid, ⟨whole⟩, hskip, skips_iff_spans hvalid hskip, by decide +kernel,
    by decide +kernel, by decide +kernel⟩

end SkipPattern
end Stubgen
