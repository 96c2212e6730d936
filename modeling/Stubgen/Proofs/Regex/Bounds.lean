import Stubgen.Proofs.Regex.Matching
import Stubgen.Proofs.Regex.Reading

/-!
# Bounds of repetitions

A repetition whose bounds contradict each other is not read, so in the expression
of a pattern every repetition has a number of rounds that it allows.
-/

namespace Stubgen.Regex

def Piece.IsOrdered (p : Piece) : Prop := ∀ e ∈ p.expr, e.IsOrdered

theorem Piece.IsOrdered.getD {p : Piece} (hp : p.IsOrdered) :
    (p.expr.getD .empty).IsOrdered := by
  cases hexpr : p.expr with
  | none => exact trivial
  | some e => exact hp e hexpr

/-! ## Pieces in a row and alternatives -/

theorem isOrdered_sequence {es : List Expr} (hes : ∀ e ∈ es, e.IsOrdered) :
    (Piece.concat.sequence es).IsOrdered := by
  induction es with
  | nil => exact trivial
  | cons e rest ih =>
      have he := hes e List.mem_cons_self
      have hrest := ih fun f hf => hes f (List.mem_cons_of_mem e hf)
      cases rest with
      | nil => exact he
      | cons f rest => exact ⟨he, hrest⟩

theorem isOrdered_alternatives {es : List Expr} (hes : ∀ e ∈ es, e.IsOrdered) :
    (Piece.choice.alternatives es).IsOrdered := by
  induction es with
  | nil => exact trivial
  | cons e rest ih =>
      have he := hes e List.mem_cons_self
      have hrest := ih fun f hf => hes f (List.mem_cons_of_mem e hf)
      cases rest with
      | nil => exact he
      | cons f rest => exact ⟨he, hrest⟩

section Pieces

variable {pieces : List Piece}

theorem isOrdered_of_mem_filterMap (hpieces : ∀ p ∈ pieces, p.IsOrdered) :
    ∀ e ∈ pieces.filterMap (·.expr), e.IsOrdered := by
  intro e he
  obtain ⟨p, hp, hexpr⟩ := List.mem_filterMap.mp he
  exact hpieces p hp e hexpr

theorem isOrdered_some {e : Expr} {depth : ℕ} (he : e.IsOrdered) :
    Piece.IsOrdered ⟨some e, depth⟩ := by
  intro f hf
  cases hf
  exact he

theorem isOrdered_concat (hpieces : ∀ p ∈ pieces, p.IsOrdered) :
    (Piece.concat pieces).IsOrdered := by
  unfold Piece.concat
  split
  next => exact isOrdered_some trivial
  next p => exact isOrdered_some (hpieces p List.mem_cons_self).getD
  next =>
      exact isOrdered_some (isOrdered_sequence (isOrdered_of_mem_filterMap hpieces))

theorem isOrdered_choice (hpieces : ∀ p ∈ pieces, p.IsOrdered) :
    (Piece.choice pieces).IsOrdered := by
  unfold Piece.choice
  split
  next => exact isOrdered_some trivial
  next p => exact hpieces p List.mem_cons_self
  next =>
      exact isOrdered_some
        (isOrdered_alternatives (isOrdered_of_mem_filterMap hpieces))

end Pieces

/-! ## Tokens -/

def Token.IsOrdered : Token → Prop
  | piece p => p.IsOrdered
  | quantifier least most => ∀ m ∈ most, least ≤ m
  | openGroup _ _ _ => True
  | closeGroup => True
  | bar => True
  | setFlags _ => True

theorem isOrdered_readBraces {verbose : Bool} {t rest : Text} {token : Token}
    (hread : readBraces? verbose t = some (token, rest)) : token.IsOrdered := by
  unfold readBraces? at hread
  extract_lets finish at hread
  have hfinish : ∀ least most s, finish least most s = some (token, rest) →
      token.IsOrdered := by
    intro least most s hfinish
    simp only [finish] at hfinish
    split at hfinish
    next =>
        split at hfinish
        next hbounds =>
            cases hfinish
            intro m hm
            rw [hm] at hbounds
            exact of_decide_eq_true hbounds
        next => cases hfinish
    next => cases hfinish
  clear_value finish
  obtain ⟨⟨count, between⟩, -, hread⟩ := Option.bind_eq_some_iff.mp hread
  obtain ⟨least, -, hread⟩ := Option.bind_eq_some_iff.mp hread
  split at hread
  next =>
      split at hread
      next => exact hfinish _ _ _ hread
      next =>
          obtain ⟨⟨count, after⟩, -, hread⟩ := Option.bind_eq_some_iff.mp hread
          obtain ⟨most, -, hread⟩ := Option.bind_eq_some_iff.mp hread
          exact hfinish _ _ _ hread
  next => exact hfinish _ _ _ hread

theorem isOrdered_readGroupStart {verbose : Bool} {t rest : Text} {token : Token}
    (hread : readGroupStart? verbose t = some (token, rest)) : token.IsOrdered := by
  unfold readGroupStart? at hread
  extract_lets s at hread
  clear_value s
  split at hread
  next => cases hread
  next =>
      split at hread
      next =>
          obtain ⟨_, -, heq⟩ := Option.map_eq_some_iff.mp hread
          cases heq
          exact trivial
      next =>
          split at hread
          next =>
              obtain ⟨_, -, hread⟩ := Option.bind_eq_some_iff.mp hread
              simp only at hread
              split at hread
              next =>
                  cases hread
                  exact trivial
              next =>
                  split at hread
                  next => cases hread
                  next =>
                      cases hread
                      exact trivial
          next =>
              cases hread
              exact trivial

theorem isOrdered_expr {flags : Flags} {primitive : Primitive} {e : Expr}
    (h : primitive.expr? flags = some e) : e.IsOrdered := by
  cases primitive with
  | character c isByte =>
      rw [Primitive.expr?, Flags.character?] at h
      split_ifs at h
      all_goals cases h
      all_goals exact trivial
  | dot =>
      rw [Primitive.expr?, Flags.dot?] at h
      split_ifs at h
      all_goals cases h
      all_goals exact trivial
  | assertion a =>
      cases h
      exact trivial
  | shorthand kind negated =>
      obtain ⟨set, -, rfl⟩ := Option.map_eq_some_iff.mp h
      exact trivial
  | property name negated =>
      obtain ⟨set, -, rfl⟩ := Option.map_eq_some_iff.mp h
      exact trivial

theorem Token.isOrdered_read {flags : Flags} {t rest : Text} {token : Token}
    (hread : Token.read? flags t = some (token, rest)) : token.IsOrdered := by
  unfold Token.read? at hread
  split at hread
  next => cases hread
  next => exact isOrdered_readGroupStart hread
  next =>
      cases hread
      exact trivial
  next =>
      cases hread
      exact trivial
  next =>
      obtain ⟨part, -, heq⟩ := Option.map_eq_some_iff.mp hread
      cases heq
      exact isOrdered_some trivial
  next =>
      cases hread
      intro m hm
      exact Nat.zero_le m
  next =>
      cases hread
      nofun
  next =>
      cases hread
      nofun
  next => exact isOrdered_readBraces hread
  next =>
      obtain ⟨⟨primitive, after⟩, -, hread⟩ := Option.bind_eq_some_iff.mp hread
      obtain ⟨e, he, heq⟩ := Option.map_eq_some_iff.mp hread
      cases heq
      exact isOrdered_some (isOrdered_expr he)

/-! ## Groups and patterns -/

/-- All pieces that were read into a group. -/
def Level.IsOrdered (l : Level) : Prop :=
  ∀ p ∈ l.alternatives ++ l.pieces, p.IsOrdered

theorem isOrdered_empty : Level.IsOrdered {} := nofun

theorem Level.IsOrdered.push {l : Level} (hl : l.IsOrdered) {p : Piece}
    (hp : p.IsOrdered) : Level.IsOrdered { l with pieces := p :: l.pieces } := by
  intro q hq
  simp only [List.mem_append, List.mem_cons] at hq
  obtain hq | rfl | hq := hq
  · exact hl q (List.mem_append_left _ hq)
  · exact hp
  · exact hl q (List.mem_append_right _ hq)

theorem Level.IsOrdered.concat {l : Level} (hl : l.IsOrdered) :
    (Piece.concat l.pieces.reverse).IsOrdered := by
  apply isOrdered_concat
  intro p hp
  exact hl p (List.mem_append_right _ (List.mem_reverse.mp hp))

theorem Level.IsOrdered.toPiece {l : Level} (hl : l.IsOrdered) :
    l.toPiece.IsOrdered := by
  apply isOrdered_choice
  intro p hp
  obtain rfl | hp := List.mem_cons.mp (List.mem_reverse.mp hp)
  · exact hl.concat
  · exact hl p (List.mem_append_left _ hp)

/-- The pieces of the innermost group and of the groups around it. -/
def ParserState.IsOrdered (s : ParserState) : Prop :=
  s.level.IsOrdered ∧ ∀ group ∈ s.outer, group.level.IsOrdered

namespace ParserState

variable {s s' : ParserState} {token : Token}

theorem IsOrdered.take (hs : s.IsOrdered) (htoken : token.IsOrdered)
    (htake : s.take? token = some s') : s'.IsOrdered := by
  cases token with
  | piece p =>
      cases htake
      exact ⟨hs.1.push htoken, hs.2⟩
  | setFlags changes =>
      cases htake
      exact ⟨hs.1.push nofun, hs.2⟩
  | bar =>
      cases htake
      refine ⟨?_, hs.2⟩
      intro p hp
      simp only [List.append_nil, List.mem_cons] at hp
      obtain rfl | hp := hp
      · exact hs.1.concat
      · exact hs.1 p (List.mem_append_left _ hp)
  | quantifier least most =>
      rw [take?] at htake
      split at htake
      next e depth rest hpieces =>
          cases htake
          have hlevel : Level.IsOrdered { s.level with pieces := rest } := by
            intro p hp
            apply hs.1 p
            rw [hpieces]
            simp only [List.mem_append, List.mem_cons] at hp ⊢
            tauto
          have he : e.IsOrdered := by
            apply hs.1 ⟨some e, depth⟩ _ e rfl
            rw [hpieces]
            exact List.mem_append_right _ List.mem_cons_self
          exact ⟨hlevel.push (isOrdered_some ⟨he, htoken⟩), hs.2⟩
      next => cases htake
  | openGroup changes captures name =>
      have henter : (s.enter changes captures).IsOrdered := by
        refine ⟨isOrdered_empty, ?_⟩
        intro group hgroup
        obtain rfl | hgroup := List.mem_cons.mp hgroup
        · exact hs.1
        · exact hs.2 group hgroup
      simp only [take?] at htake
      split at htake
      next =>
          split at htake
          next => cases htake
          next =>
              cases htake
              exact henter
      next =>
          cases htake
          exact henter
  | closeGroup =>
      simp only [take?] at htake
      split at htake
      next => cases htake
      next group outer houter =>
          cases htake
          have hgroup := hs.2 group (houter ▸ List.mem_cons_self)
          refine ⟨hgroup.push (isOrdered_some ?_), ?_⟩
          · split
            next => exact hs.1.toPiece.getD
            next => exact hs.1.toPiece.getD
          · intro other hother
            exact hs.2 other (houter ▸ List.mem_cons_of_mem group hother)

theorem Reads.isOrdered {t : Text} (h : s.Reads t s') (hs : s.IsOrdered) :
    s'.IsOrdered := by
  induction h with
  | done => exact hs
  | step _ _ _ _ _ _ _ _ _ hread htake _ _ ih =>
      exact ih (hs.take (Token.isOrdered_read hread) htake)

end ParserState

/-- The expression of a pattern allows a number of rounds in each repetition. -/
theorem isOrdered_parse {pattern : Text} {piece : Piece}
    (hparse : parse? pattern = some piece) : piece.IsOrdered := by
  obtain ⟨s, hrun, hpiece⟩ := Option.bind_eq_some_iff.mp hparse
  have hs : s.IsOrdered := by
    apply (ParserState.reads_of_run? hrun).isOrdered
    exact ⟨isOrdered_empty, nofun⟩
  split at hpiece
  next =>
      cases hpiece
      exact hs.1.toPiece
  next => cases hpiece

end Stubgen.Regex
