import Stubgen.Skip
import Stubgen.Proofs.Regex.ClosingToken
import Stubgen.Proofs.Regex.Reading

/-!
# A pattern inside its anchors

The text that is searched for a pattern is read as the start of the text, the
pattern as a group, and the end of the text.  While the pattern is read, the group
around it stands at the bottom of the stack and nothing sees it; behind the pattern
its bracket closes it and brings back the flags that held before.  A comment that
takes the bracket in leaves the group open, and then the text is no pattern.
-/

namespace Stubgen.Regex

namespace ParserState

/-- The same state inside one more group. -/
def under (s : ParserState) (group : OuterGroup) : ParserState :=
  { s with outer := s.outer ++ [group] }

/-- Taking a token in does not look at the groups further out. -/
theorem take?_under {s s' : ParserState} {token : Token}
    (htake : s.take? token = some s') (group : OuterGroup) :
    (s.under group).take? token = some (s'.under group) := by
  cases token with
  | piece p =>
      cases htake
      rfl
  | setFlags changes =>
      cases htake
      rfl
  | bar =>
      cases htake
      rfl
  | quantifier least most =>
      simp only [take?, under] at htake ⊢
      split at htake
      next =>
          cases htake
          rfl
      next => cases htake
  | openGroup changes captures name =>
      simp only [take?] at htake ⊢
      split at htake
      next name =>
          simp only [under]
          split at htake
          next => cases htake
          next hfresh =>
              cases htake
              exact if_neg hfresh
      next =>
          cases htake
          rfl
  | closeGroup =>
      simp only [take?] at htake
      split at htake
      next => cases htake
      next inner outer houter =>
          cases htake
          simp only [take?, under, houter]
          rfl

/-- What the closing does behind a pattern: the bracket closes the group, and the
rest is read on. -/
def close? (s : ParserState) : Option ParserState :=
  (s.take? .closeGroup).bind fun s => s.run? ['$']

theorem run?_closing (s : ParserState) {t : Text}
    (hgap : skipGap s.flags.verbose t = closing) : s.run? t = s.close? := by
  have hread : Token.read? s.flags closing = some (.closeGroup, ['$']) := rfl
  have hshorter : ['$'].length < t.length := by
    have hlength := length_skipGap_le s.flags.verbose t
    rw [hgap] at hlength
    exact hlength
  rw [close?]
  cases htake : s.take? .closeGroup with
  | none =>
      rw [run?, hgap]
      simp only [closing] at hread ⊢
      simp only [hread, htake]
      rfl
  | some next => exact run?_of_token hgap hread htake hshorter

/-- A pattern is read inside a group as it is read alone. -/
theorem Reads.run?_under {s last : ParserState} {t : Text} (h : s.Reads t last)
    {t' : Text} (ht : Carries t t') (group : OuterGroup) :
    (s.under group).run? t' = (last.under group).close? ∨
      (s.under group).run? t' = some (last.under group) := by
  induction h generalizing t' with
  | done s t hgap =>
      have hgap' := ht.skipGap s.flags.verbose
      rw [hgap] at hgap'
      generalize hrest : skipGap s.flags.verbose t' = rest at hgap'
      cases hgap' with
      | kept => exact .inl (run?_closing _ hrest)
      | taken => exact .inr (run?_of_gap hrest)
  | step s next last t after c body token hgap hread htake hshorter _ ih =>
      have hgap' := ht.skipGap s.flags.verbose
      rw [hgap] at hgap'
      obtain ⟨body', hcons, hbody⟩ := hgap'.exists_cons
      obtain ⟨after', hread', hafter⟩ :=
        (Token.readsOn_read s.flags).of_carries hbody.cons hread
      have hshorter' : after'.length < t'.length := by
        cases ht with
        | kept =>
            have hle := hafter.le_length
            rw [List.length_append]
            omega
        | taken =>
            rw [hgap] at hcons
            obtain ⟨-, rfl⟩ := List.cons.inj hcons
            rw [hread] at hread'
            cases hread'
            exact hshorter
      rw [run?_of_token (s := s.under group) hcons hread' (take?_under htake group)
        hshorter']
      exact ih hafter

end ParserState

/-- The group of the pattern stands behind the start of the text. -/
def anchorGroup : OuterGroup :=
  ⟨{ pieces := [⟨some (.look .textStart), 0⟩] }, {}, false⟩

theorem run?_anchored (pattern : Text) :
    ParserState.run? {} (SkipPattern.anchored pattern) =
      (ParserState.under {} anchorGroup).run? (pattern ++ closing) := by
  have hanchored : SkipPattern.anchored pattern =
      '^' :: '(' :: '?' :: ':' :: (pattern ++ closing) := rfl
  have hstart : ∀ t, Token.read? {} ('^' :: t) =
      some (.piece ⟨some (.look .textStart), 0⟩, t) := fun _ => rfl
  have hgroup : ∀ t, Token.read? {} ('(' :: '?' :: ':' :: t) =
      some (.openGroup [] false none, t) := fun _ => rfl
  have hshorter : (pattern ++ closing).length <
      ('(' :: '?' :: ':' :: (pattern ++ closing)).length := by
    simp only [List.length_cons]
    omega
  rw [hanchored, ParserState.run?_of_token rfl (hstart _) rfl (Nat.lt_succ_self _),
    ParserState.run?_of_token rfl (hgroup _) rfl hshorter]
  rfl

/-- Behind the pattern the bracket and the end of the text are read with the flags
that held at the start. -/
theorem close?_under_anchorGroup {s : ParserState} (hs : s.outer = []) :
    (s.under anchorGroup).close? = some
      { flags := {}
        level := ⟨[], [⟨some (.look .textEnd), 0⟩,
          ⟨some (s.level.toPiece.expr.getD .empty), s.level.toPiece.depth + 1⟩,
          ⟨some (.look .textStart), 0⟩]⟩
        outer := []
        names := s.names } := by
  have hend : Token.read? {} ['$'] = some (.piece ⟨some (.look .textEnd), 0⟩, []) := rfl
  have hshorter : ([] : Text).length < ['$'].length := Nat.zero_lt_one
  have houter : (s.under anchorGroup).outer = [anchorGroup] := by
    rw [ParserState.under, hs]
    rfl
  simp only [ParserState.close?, ParserState.take?, houter, Option.bind_some]
  rw [ParserState.run?_of_token rfl hend rfl hshorter]
  exact ParserState.run?_of_gap rfl

/-- The text that is searched for a pattern is the pattern's own expression between
the two ends of the text. -/
theorem expr_of_parse_anchored {pattern : Text} {piece whole : Piece}
    (hpattern : parse? pattern = some piece)
    (hwhole : parse? (SkipPattern.anchored pattern) = some whole) :
    whole.expr = some (.seq (.look .textStart)
      (.seq (piece.expr.getD .empty) (.look .textEnd))) := by
  obtain ⟨s, hrun, hpiece⟩ := Option.bind_eq_some_iff.mp hpattern
  obtain ⟨s', hrun', hwhole⟩ := Option.bind_eq_some_iff.mp hwhole
  split at hpiece
  next houter =>
      cases hpiece
      have hs : s.outer = [] := List.isEmpty_iff.mp houter
      rw [run?_anchored] at hrun'
      obtain hclosed | hopen := (ParserState.reads_of_run? hrun).run?_under .kept anchorGroup
      · rw [hclosed, close?_under_anchorGroup hs] at hrun'
        cases hrun'
        cases hwhole
        rfl
      · -- the comment took the bracket in, and the group is open at the end
        rw [hopen] at hrun'
        cases hrun'
        have houter' : (s.under anchorGroup).outer.isEmpty = false := by
          rw [ParserState.under, hs]
          rfl
        rw [houter'] at hwhole
        cases hwhole
  next => cases hpiece

end Stubgen.Regex
