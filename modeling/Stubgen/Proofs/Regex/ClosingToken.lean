import Stubgen.Regex.Parser
import Stubgen.Proofs.Regex.ClosingClass

/-!
# Tokens in front of the closing

Every token of a pattern is read to the same token when the closing stands behind
the pattern.
-/

namespace Stubgen.Regex

/-! ## Groups -/

theorem readFlags?_append_closing {seen t rest : Text} {negated dangling atEnd : Bool}
    {changes : List (Char × Bool)}
    (hread : readFlags? seen negated dangling t = some (changes, atEnd, rest)) :
    readFlags? seen negated dangling (t ++ closing) =
      some (changes, atEnd, rest ++ closing) := by
  induction t generalizing seen negated dangling changes with
  | nil => cases hread
  | cons c t ih =>
      rw [readFlags?] at hread
      rw [List.cons_append, readFlags?]
      by_cases hcolon : c = ':'
      · rw [if_pos hcolon] at hread ⊢
        by_cases hdangling : dangling = true
        · rw [if_pos hdangling] at hread
          cases hread
        · rw [if_neg hdangling] at hread ⊢
          cases hread
          rfl
      · rw [if_neg hcolon] at hread ⊢
        by_cases hend : c = ')'
        · rw [if_pos hend] at hread ⊢
          by_cases hdangling : dangling = true
          · rw [if_pos hdangling] at hread
            cases hread
          · rw [if_neg hdangling] at hread ⊢
            cases hread
            rfl
        · rw [if_neg hend] at hread ⊢
          by_cases hhyphen : c = '-'
          · rw [if_pos hhyphen] at hread ⊢
            by_cases hnegated : negated = true
            · rw [if_pos hnegated] at hread
              cases hread
            · rw [if_neg hnegated] at hread ⊢
              exact ih hread
          · rw [if_neg hhyphen] at hread ⊢
            split at hread
            next hletter =>
                rw [if_pos hletter]
                obtain ⟨⟨others, atEnd', after⟩, hothers, heq⟩ :=
                  Option.map_eq_some_iff.mp hread
                cases heq
                rw [ih hothers]
                rfl
            next => cases hread

theorem readsOn_readGroupName : ReadsOn readGroupName? := by
  intro t name rest hread
  unfold readGroupName? at hread ⊢
  extract_lets span mayStart mayFollow at hread
  extract_lets span'
  split at hread
  next c cs x after hspan hdrop =>
      obtain ⟨hnil, -⟩ | ⟨hdrop', hspan'⟩ := separator_append_closing (x := '>') rfl t
      · rw [hnil] at hdrop
        cases hdrop
      · split at hread
        next hvalid =>
            obtain ⟨hname, rfl⟩ := Prod.mk.inj (Option.some.inj hread)
            have hsame : span' = span := hspan'
            rw [hdrop', hdrop, hsame, hname, ← hname, hspan]
            exact ⟨after ++ closing, if_pos hvalid, .kept⟩
        next => cases hread
  next => cases hread

theorem isPrefixOf_eq_isSome_afterLabel? (label t : Text) :
    label.isPrefixOf t = (Text.afterLabel? label t).isSome := by
  induction label generalizing t with
  | nil => rfl
  | cons l label ih =>
      cases t with
      | nil => rfl
      | cons c t =>
          rw [List.isPrefixOf_cons_cons, Text.afterLabel?, ih]
          by_cases hc : l = c <;> simp [hc]

theorem startsLookAround_append_closing (t : Text) :
    startsLookAround (t ++ closing) = startsLookAround t := by
  have hlabel : ∀ label : String, ')' ∉ label.toList →
      label.toList.isPrefixOf (t ++ closing) = label.toList.isPrefixOf t := by
    intro label hclean
    rw [isPrefixOf_eq_isSome_afterLabel?, afterLabel?_append_closing hclean,
      Option.isSome_map, isPrefixOf_eq_isSome_afterLabel?]
  unfold startsLookAround
  simp only [List.any_cons, List.any_nil, hlabel "?=" (by decide),
    hlabel "?!" (by decide), hlabel "?<=" (by decide), hlabel "?<!" (by decide)]

theorem readsOn_readGroupStart (verbose : Bool) :
    ReadsOn (readGroupStart? verbose) := by
  intro t token rest hread
  unfold readGroupStart? at hread ⊢
  extract_lets s at hread
  extract_lets s'
  have hgap : Carries s s' := Carries.kept.skipGap verbose
  clear_value s s'
  cases hgap with
  | taken => exact ⟨rest, hread, .taken⟩
  | kept =>
      rw [startsLookAround_append_closing, afterLabel?_append_closing (by decide),
        afterLabel?_append_closing (by decide)]
      by_cases hlook : startsLookAround s = true
      · rw [if_pos hlook] at hread
        cases hread
      · rw [if_neg hlook] at hread ⊢
        have hlabels : ∀ first second : Option Text,
            (first.map (· ++ closing) <|> second.map (· ++ closing)) =
              (first <|> second).map (· ++ closing) := by
          intro first second
          cases first <;> rfl
        rw [hlabels]
        split at hread
        next body hlabel =>
            rw [hlabel]
            exact (readsOn_readGroupName.map fun name =>
              Token.openGroup [] true (some name)) body token rest hread
        next hlabel =>
            rw [hlabel]
            simp only [Option.map_none]
            split at hread
            next body =>
                obtain ⟨⟨changes, atEnd, after⟩, hflags, hread⟩ :=
                  Option.bind_eq_some_iff.mp hread
                have hflags' := readFlags?_append_closing hflags
                have hhead : (body ++ closing).head? = body.head? := by
                  cases body with
                  | nil => cases hflags
                  | cons c body => rfl
                simp only [List.cons_append, hflags', hhead, Option.bind_some] at hread ⊢
                split at hread
                next hopens =>
                    cases hread
                    rw [if_pos hopens]
                    exact ⟨_, rfl, .kept⟩
                next hopens =>
                    rw [if_neg hopens]
                    split at hread
                    next => cases hread
                    next hempty =>
                        cases hread
                        rw [if_neg hempty]
                        exact ⟨_, rfl, .kept⟩
            next hne =>
                cases hread
                split
                next body heq =>
                    exact absurd heq (Carries.kept.ne_cons (by decide) hne body)
                next => exact ⟨_, rfl, .kept⟩

/-! ## Quantifiers -/

theorem Carries.skipLazy {t t' : Text} (h : Carries t t') :
    Carries (skipLazy t) (skipLazy t') := by
  cases t with
  | nil =>
      cases h with
      | kept => exact .kept
      | taken => exact .taken
  | cons c t =>
      obtain ⟨t', rfl, ht⟩ := h.exists_cons
      by_cases hc : c = '?'
      · subst hc
        exact ht
      · simpa [Regex.skipLazy, hc] using ht.cons

theorem Carries.skipCountBlanks {t t' : Text} (h : Carries t t') (verbose : Bool) :
    Carries (readCount?.skipBlanks verbose t) (readCount?.skipBlanks verbose t') := by
  cases t with
  | nil =>
      cases h with
      | kept => exact .kept
      | taken => exact .taken
  | cons c t =>
      obtain ⟨t', rfl, ht⟩ := h.exists_cons
      rw [readCount?.skipBlanks, readCount?.skipBlanks]
      by_cases hblank : Text.isBlank c = true
      · rw [if_pos hblank, if_pos hblank]
        exact ht.trimStart.skipGap verbose
      · rw [if_neg hblank, if_neg hblank]
        exact ht.cons

theorem readsOn_readCount (verbose : Bool) : ReadsOn (readCount? verbose) := by
  intro t count rest hread
  unfold readCount? at hread ⊢
  generalize hrun : spacedRun Char.isDigit verbose (Text.trimStart t) = spaced at hread
  obtain ⟨digits, after⟩ := spaced
  have htrim : Carries (Text.trimStart t) (Text.trimStart (t ++ closing)) :=
    Carries.kept.trimStart
  obtain ⟨after', hrun', hafter⟩ := htrim.spacedRun hrun (.inl (by decide))
  rw [hrun']
  have hcount : ReadsOn fun t =>
      if digits.isEmpty then some (none, t)
      else if Text.foldDigits 0 digits ≤ maxCount then
        some (some (Text.foldDigits 0 digits), t)
      else none := by
    apply readsOn_ite
    · exact fun _ => readsOn_some none
    · intro _
      apply readsOn_ite
      · exact fun _ => readsOn_some (some (Text.foldDigits 0 digits))
      · exact fun _ => readsOn_none
  exact hcount.of_carries (hafter.skipCountBlanks verbose) hread

theorem readsOn_readBraces (verbose : Bool) : ReadsOn (readBraces? verbose) := by
  intro t token rest hread
  unfold readBraces? at hread ⊢
  extract_lets finish at hread
  extract_lets
  have hfinish : ∀ least most, ReadsOn (finish least most) := by
    intro least most t token rest hread
    simp only [finish] at hread ⊢
    split at hread
    next body =>
        simp only [List.cons_append]
        split at hread
        next hbounds =>
            rw [if_pos hbounds]
            cases hread
            exact ⟨_, rfl, (Carries.kept.skipGap verbose).skipLazy⟩
        next => cases hread
    next => cases hread
  obtain ⟨⟨least?, between⟩, hleast, hread⟩ := Option.bind_eq_some_iff.mp hread
  obtain ⟨between', hleast', hbetween⟩ :=
    (readsOn_readCount verbose).of_carries (Carries.kept.skipGap verbose) hleast
  obtain ⟨least, hsome, hread⟩ := Option.bind_eq_some_iff.mp hread
  subst hsome
  simp only [hleast', Option.bind_eq_bind, Option.bind_some] at hread ⊢
  split at hread
  next body =>
      obtain ⟨body', rfl, hbody⟩ := hbetween.exists_cons
      have hgap := hbody.skipGap verbose
      simp only
      split at hread
      next after heq =>
          rw [heq] at hgap
          obtain ⟨after', heq', hafter⟩ := hgap.exists_cons
          rw [heq']
          have hbrace : Carries ('\x7d' :: after) ('\x7d' :: after') := hafter.cons
          exact (hfinish least none).of_carries hbrace hread
      next hne =>
          split
          next after heq => exact absurd heq (hgap.ne_cons (by decide) hne after)
          next =>
              have hmost : ReadsOn fun t =>
                  (readCount? verbose t).bind fun x =>
                    x.1.bind fun most => finish least (some most) x.2 := by
                apply (readsOn_readCount verbose).bind
                intro most
                apply readsOn_bind
                intro most
                exact hfinish least (some most)
              exact hmost.of_carries hgap hread
  next hne =>
      split
      next body' => exact absurd rfl (hbetween.ne_cons (by decide) hne body')
      next => exact (hfinish least (some least)).of_carries hbetween hread

/-! ## Tokens -/

theorem Token.read?_cons (flags : Flags) (c : Char) (t : Text) :
    Token.read? flags (c :: t) =
      match c with
      | '(' => readGroupStart? flags.verbose t
      | ')' => some (.closeGroup, t)
      | '|' => some (.bar, t)
      | '[' =>
        (readClass? flags t).map fun (part, after) =>
          (.piece ⟨some (.one part.set), part.depth⟩, after)
      | '?' => some (.quantifier 0 (some 1), skipLazy t)
      | '*' => some (.quantifier 0 none, skipLazy t)
      | '+' => some (.quantifier 1 none, skipLazy t)
      | '\x7b' => readBraces? flags.verbose t
      | c =>
        (readPrimitive? flags.verbose (c :: t)).bind fun (primitive, after) =>
          (primitive.expr? flags).map fun e => (.piece ⟨some e, 0⟩, after) := by
  split
  all_goals rw [Token.read?]
  all_goals simp_all

/-- A token in front of the closing is the token that it is alone. -/
theorem Token.readsOn_read (flags : Flags) : ReadsOn (Token.read? flags) := by
  intro t token rest hread
  cases t with
  | nil => cases hread
  | cons c t =>
      have hlazy : ∀ token : Token, ReadsOn fun t => some (token, skipLazy t) := by
        intro token t other rest heq
        cases heq
        exact ⟨_, rfl, Carries.kept.skipLazy⟩
      rw [Token.read?_cons] at hread
      rw [List.cons_append, Token.read?_cons]
      split at hread
      next => exact readsOn_readGroupStart _ _ _ _ hread
      next => exact readsOn_some _ _ _ _ hread
      next => exact readsOn_some _ _ _ _ hread
      next =>
          exact ((readsOn_readClass flags).map fun part =>
            Token.piece ⟨some (.one part.set), part.depth⟩) _ _ _ hread
      next => exact hlazy _ _ _ _ hread
      next => exact hlazy _ _ _ _ hread
      next => exact hlazy _ _ _ _ hread
      next => exact readsOn_readBraces _ _ _ _ hread
      next =>
          obtain ⟨⟨primitive, after⟩, hprimitive, hread⟩ :=
            Option.bind_eq_some_iff.mp hread
          obtain ⟨after', hprimitive', hafter⟩ :=
            readsOn_readPrimitive _ _ _ _ hprimitive
          rw [List.cons_append] at hprimitive'
          rw [hprimitive']
          exact (readsOn_map (primitive.expr? flags) fun e =>
            Token.piece ⟨some e, 0⟩).of_carries hafter hread

end Stubgen.Regex
