import Stubgen.Regex.Class
import Stubgen.Proofs.Regex.Closing

/-!
# Classes in front of the closing

A class ends with a bracket of its own, so its reader does not come to the
closing.  It looks ahead for blanks, hyphens and named classes, and none of them
is spelled with the bracket that stands there.
-/

namespace Stubgen.Regex

theorem readAsciiClass?_append_closing (t : Text) :
    readAsciiClass? (t ++ closing) =
      (readAsciiClass? t).map fun (negated, set, rest) =>
        (negated, set, rest ++ closing) := by
  have hname : ∀ (negated : Bool) (name : Text),
      ((Text.afterLabel? [':', ']'] ((name ++ closing).dropWhile (· ≠ ':'))).bind
        fun rest => (asciiClass? ((name ++ closing).takeWhile (· ≠ ':'))).map
          fun set => (negated, set, rest)) =
      ((Text.afterLabel? [':', ']'] (name.dropWhile (· ≠ ':'))).bind
        fun rest => (asciiClass? (name.takeWhile (· ≠ ':'))).map
          fun set => (negated, set, rest)).map fun (negated, set, rest) =>
            (negated, set, rest ++ closing) := by
    intro negated name
    obtain ⟨hnil, hnil'⟩ | ⟨hdrop, htake⟩ := separator_append_closing (x := ':') rfl name
    · rw [hnil, hnil']
      rfl
    · rw [hdrop, htake, afterLabel?_append_closing (by decide)]
      cases Text.afterLabel? [':', ']'] (name.dropWhile (· ≠ ':')) with
      | none => rfl
      | some rest => cases asciiClass? (name.takeWhile (· ≠ ':')) <;> rfl
  unfold readAsciiClass?
  rw [afterLabel?_append_closing (by decide)]
  cases Text.afterLabel? ['[', ':'] t with
  | none => rfl
  | some body =>
      rw [Option.map_some, Option.bind_some, Option.bind_some]
      cases body with
      | nil => exact hname false []
      | cons c name =>
          dsimp only [List.cons_append]
          split
          next rest heq =>
              obtain ⟨rfl, rfl⟩ := List.cons.inj heq
              exact hname true name
          next hne =>
              split
              next rest heq =>
                  obtain ⟨rfl, rfl⟩ := List.cons.inj heq
                  exact (hne _ rfl).elim
              next => exact hname false (c :: name)

section Ascii

variable {t t' rest : Text} {negated : Bool} {set : CodeSet}

theorem readAsciiClass?_of_carries (h : Carries t t')
    (hread : readAsciiClass? t = some (negated, set, rest)) :
    ∃ rest', readAsciiClass? t' = some (negated, set, rest') ∧ Carries rest rest' := by
  cases h with
  | kept =>
      rw [readAsciiClass?_append_closing, hread]
      exact ⟨_, rfl, .kept⟩
  | taken => exact ⟨rest, hread, .taken⟩

theorem readAsciiClass?_eq_none_of_carries (h : Carries t t')
    (hread : readAsciiClass? t = none) : readAsciiClass? t' = none := by
  cases h with
  | kept =>
      rw [readAsciiClass?_append_closing, hread]
      rfl
  | taken => exact hread

end Ascii

theorem readsOn_readClassPrimitive (verbose : Bool) :
    ReadsOn (readClassPrimitive? verbose) := by
  intro t primitive rest hread
  cases t with
  | nil => cases hread
  | cons c t =>
      rw [List.cons_append]
      unfold readClassPrimitive? at hread ⊢
      split at hread
      next heq => cases heq
      next body heq =>
          obtain ⟨rfl, rfl⟩ := List.cons.inj heq
          exact readsOn_readEscape _ _ _ _ hread
      next d body hne heq =>
          obtain ⟨rfl, rfl⟩ := List.cons.inj heq
          split
          next heq => cases heq
          next body heq =>
              obtain ⟨rfl, rfl⟩ := List.cons.inj heq
              exact (hne rfl).elim
          next d body _ heq =>
              obtain ⟨rfl, rfl⟩ := List.cons.inj heq
              exact readsOn_some _ _ _ _ hread

/-- Looking ahead past blanks finds another character than the bracket in front
of the closing or not at all. -/
theorem afterBlanks?_append_closing (verbose : Bool) (t : Text) {c : Char}
    (hc : c ≠ ')') :
    afterBlanks? verbose (t ++ closing) = some c ↔ afterBlanks? verbose t = some c := by
  have hhead : ∀ s : Text, (s ++ closing).head? = some c ↔ s.head? = some c := by
    intro s
    cases s with
    | nil => simpa [closing] using hc.symm
    | cons d s => rfl
  cases verbose with
  | false => exact hhead t
  | true =>
      unfold afterBlanks?
      rw [trimStart_append_closing]
      cases Text.trimStart t with
      | nil => exact hhead []
      | cons d s =>
          by_cases hd : d = '#'
          · subst hd
            simp only [List.cons_append, trimStart_append_closing]
            exact hhead _
          · simp [hd]

theorem readLeadingHyphens_of_ne {verbose : Bool} {union : ClassUnion} {t : Text}
    (ht : ∀ s, t ≠ '-' :: s) : readLeadingHyphens verbose union t = (union, t) := by
  cases t with
  | nil => rw [readLeadingHyphens]
  | cons c t =>
      rw [readLeadingHyphens]
      · exact List.cons_ne_nil c t
      · exact ht

theorem readLeadingHyphens_of_carries {t t' : Text} (h : Carries t t')
    (verbose : Bool) (union : ClassUnion) :
    ∃ rest', readLeadingHyphens verbose union t' =
        ((readLeadingHyphens verbose union t).1, rest') ∧
      Carries (readLeadingHyphens verbose union t).2 rest' := by
  induction union, t using readLeadingHyphens.induct verbose generalizing t' with
  | case1 union =>
      have hnil : ∀ s, ([] : Text) ≠ '-' :: s :=
        fun s => (List.cons_ne_nil '-' s).symm
      rw [readLeadingHyphens_of_ne hnil,
        readLeadingHyphens_of_ne (h.ne_cons (by decide) hnil)]
      exact ⟨t', rfl, h⟩
  | case2 union rest ih =>
      obtain ⟨rest', rfl, hrest⟩ := h.exists_cons
      rw [readLeadingHyphens, readLeadingHyphens]
      exact ih (hrest.skipGap verbose)
  | case3 union t hnil hne =>
      rw [readLeadingHyphens_of_ne hne,
        readLeadingHyphens_of_ne (h.ne_cons (by decide) hne)]
      exact ⟨t', rfl, h⟩

theorem readClassStart?_of_carries {verbose negated : Bool} {t t' rest : Text}
    {inner : ClassUnion} (h : Carries t t')
    (hread : readClassStart? verbose t = some (negated, inner, rest)) :
    ∃ rest', readClassStart? verbose t' = some (negated, inner, rest') ∧
      Carries rest rest' := by
  unfold readClassStart? at hread ⊢
  extract_lets s at hread
  extract_lets s'
  have hgap : Carries s s' := h.skipGap verbose
  clear_value s s'
  split at hread
  next caret u hcaret =>
  split
  next caret' u' hcaret' =>
  have hboth : caret' = caret ∧ Carries u u' := by
    split at hcaret
    next body =>
        cases hcaret
        obtain ⟨body', rfl, hbody⟩ := hgap.exists_cons
        cases hcaret'
        exact ⟨rfl, hbody.skipGap verbose⟩
    next hne =>
        cases hcaret
        split at hcaret'
        next body' => exact absurd rfl (hgap.ne_cons (by decide) hne body')
        next =>
            cases hcaret'
            exact ⟨rfl, hgap⟩
  obtain ⟨rfl, hu⟩ := hboth
  obtain ⟨w', hhyphens', hw⟩ := readLeadingHyphens_of_carries hu verbose ClassUnion.empty
  rw [hhyphens']
  generalize readLeadingHyphens verbose ClassUnion.empty u = leading at hread hw
  obtain ⟨union, w⟩ := leading
  dsimp only at hread hw ⊢
  split at hread
  next => cases hread
  next body =>
      obtain ⟨body', rfl, hbody⟩ := hw.exists_cons
      by_cases hsize : union.size = 0
      · rw [if_pos hsize] at hread
        simp only [if_pos hsize] at hread ⊢
        have hgap := hbody.skipGap verbose
        by_cases hempty : (skipGap verbose body).isEmpty = true
        · rw [if_pos hempty] at hread
          cases hread
        · rw [if_neg hempty] at hread
          cases hread
          have hempty' : ¬ (skipGap verbose body').isEmpty = true := by
            rw [List.isEmpty_iff, ← List.length_eq_zero_iff] at hempty ⊢
            have hlength := hgap.length_le
            omega
          exact ⟨_, if_neg hempty', hgap⟩
      · rw [if_neg hsize] at hread
        cases hread
        exact ⟨_, if_neg hsize, hw⟩
  next hnil hne =>
      cases hread
      refine ⟨w', ?_, hw⟩
      split
      next => exact (hnil (List.length_eq_zero_iff.mp (by simpa using hw.length_le))).elim
      next body => exact absurd rfl (hw.ne_cons (by decide) hne body)
      next => rfl

/-- A member and what follows it. -/
theorem readsOn_member (members : Option CodeSet) :
    ReadsOn fun t => members.bind fun set => pure (set, t) :=
  readsOn_bind members readsOn_some

theorem readsOn_readRange (flags : Flags) : ReadsOn (readRange? flags) := by
  intro t set rest hread
  unfold readRange? at hread ⊢
  extract_lets gap at hread
  extract_lets
  obtain ⟨⟨low, between⟩, hlow, hmore⟩ := Option.bind_eq_some_iff.mp hread
  obtain ⟨between', hlow', hbetween⟩ := readsOn_readClassPrimitive _ _ _ _ hlow
  have hgap : Carries (gap between) (gap between') := hbetween.skipGap flags.verbose
  simp only [hlow', Option.bind_eq_bind, Option.bind_some] at hmore ⊢
  split at hmore
  next => cases hmore
  next body heq =>
      rw [heq] at hgap hmore
      obtain ⟨body', heq', hbody⟩ := hgap.exists_cons
      rw [heq']
      have hnext : ∀ c, c ≠ ')' → (afterBlanks? flags.verbose body' = some c ↔
          afterBlanks? flags.verbose body = some c) := by
        intro c hc
        cases hbody with
        | kept => exact afterBlanks?_append_closing flags.verbose body hc
        | taken => rfl
      simp only [hnext ']' (by decide), hnext '-' (by decide)]
      split at hmore
      next hhyphen =>
          rw [if_pos hhyphen]
          exact (readsOn_member _).of_carries hbody.cons hmore
      next hrange =>
          rw [if_neg hrange]
          apply ReadsOn.of_carries (ReadsOn.bind _ _) (hbody.skipGap _) hmore
          · exact readsOn_readClassPrimitive flags.verbose
          · intro high
            cases low
            case character =>
                cases high
                case character =>
                    apply readsOn_bind
                    intro first
                    apply readsOn_bind
                    intro last
                    apply readsOn_ite
                    · exact fun _ => readsOn_some _
                    · exact fun _ => readsOn_none
                all_goals exact readsOn_none
            all_goals exact readsOn_none
  next hnil hne =>
      split
      next heq =>
          rw [heq] at hgap
          exact (hnil (List.length_eq_zero_iff.mp (by simpa using hgap.length_le))).elim
      next body heq => exact absurd heq (hgap.ne_cons (by decide) hne body)
      next => exact (readsOn_member _).of_carries hgap hmore

section Body

variable {flags : Flags} {stack : List ClassFrame} {union : ClassUnion}
  {t rest rest' after : Text} {part : ClassPart}

/-- The reader of a class goes on behind what it read. -/
def readClassOn? (flags : Flags) (whole : Text) (stack : List ClassFrame)
    (union : ClassUnion) (rest : Text) : Option (ClassPart × Text) :=
  if rest.length < whole.length then readClassBody? flags stack union rest else none

theorem readClassOn?_of_carries
    (ih : ∀ s : Text, s.length < t.length → ReadsAt (readClassBody? flags stack union) s)
    (hrest : Carries rest rest')
    (hread : readClassOn? flags t stack union rest = some (part, after)) :
    ∃ after', readClassOn? flags (t ++ closing) stack union rest' =
      some (part, after') ∧ Carries after after' := by
  unfold readClassOn? at hread ⊢
  by_cases hlength : rest.length < t.length
  · rw [if_pos hlength] at hread
    have hlength' : rest'.length < (t ++ closing).length := by
      rw [List.length_append]
      have hle := hrest.le_length
      omega
    rw [if_pos hlength']
    exact (ih rest hlength).of_carries hrest hread
  · rw [if_neg hlength] at hread
    cases hread

theorem readsOn_readClassBody (flags : Flags) (stack : List ClassFrame)
    (union : ClassUnion) : ReadsOn (readClassBody? flags stack union) := by
  intro t
  induction hlength : t.length using Nat.strong_induction_on
    generalizing t stack union with
  | h n ih =>
      subst hlength
      intro part after hread
      have hon : ∀ stack union rest rest' after,
          Carries rest rest' →
          readClassOn? flags t stack union rest = some (part, after) →
          ∃ after', readClassOn? flags (t ++ closing) stack union rest' =
            some (part, after') ∧ Carries after after' := by
        intro stack union rest rest' after hrest hread
        exact readClassOn?_of_carries (fun s hs => ih s.length hs stack union s rfl)
          hrest hread
      rw [readClassBody?] at hread ⊢
      have hgap : Carries (skipGap flags.verbose t)
          (skipGap flags.verbose (t ++ closing)) := Carries.kept.skipGap flags.verbose
      generalize skipGap flags.verbose t = s at hread hgap
      generalize skipGap flags.verbose (t ++ closing) = s' at hgap ⊢
      split at hread
      next => cases hread
      next body =>
          obtain ⟨body', rfl, hbody⟩ := hgap.exists_cons
          simp only
          split at hread
          next negated members rest hascii =>
              obtain ⟨rest', hascii', hrest⟩ := readAsciiClass?_of_carries hbody.cons hascii
              obtain ⟨set, hset, hread⟩ := Option.bind_eq_some_iff.mp hread
              rw [hascii']
              dsimp only
              rw [hset]
              exact hon _ _ _ _ _ hrest hread
          next hascii =>
              rw [readAsciiClass?_eq_none_of_carries hbody.cons hascii]
              obtain ⟨⟨negated, inner, rest⟩, hstart, hread⟩ :=
                Option.bind_eq_some_iff.mp hread
              obtain ⟨rest', hstart', hrest⟩ := readClassStart?_of_carries hbody hstart
              dsimp only
              rw [hstart']
              exact hon _ _ _ _ _ hrest hread
      next body =>
          obtain ⟨body', rfl, hbody⟩ := hgap.exists_cons
          generalize combinePending flags union.toPart stack = pending at hread
          obtain ⟨inner, stack'⟩ := pending
          simp only at hread ⊢
          split at hread
          next outer negated others =>
              obtain ⟨set, hset, hread⟩ := Option.bind_eq_some_iff.mp hread
              simp only [hset, Option.bind_some] at hread ⊢
              split at hread
              next hempty =>
                  cases hread
                  rw [if_pos hempty]
                  exact ⟨body', rfl, hbody⟩
              next hempty =>
                  rw [if_neg hempty]
                  exact hon _ _ _ _ _ hbody hread
          next => cases hread
      next body =>
          obtain ⟨body', rfl, hbody⟩ := hgap.exists_cons_cons
          exact hon _ _ _ _ _ hbody hread
      next body =>
          obtain ⟨body', rfl, hbody⟩ := hgap.exists_cons_cons
          exact hon _ _ _ _ _ hbody hread
      next body =>
          obtain ⟨body', rfl, hbody⟩ := hgap.exists_cons_cons
          exact hon _ _ _ _ _ hbody hread
      next hnil hopen hclose hand hminus htilde =>
          obtain ⟨⟨set, rest⟩, hset, hread⟩ := Option.bind_eq_some_iff.mp hread
          obtain ⟨rest', hset', hrest⟩ := (readsOn_readRange flags).of_carries hgap hset
          obtain ⟨after', hread', hafter⟩ := hon _ _ _ _ _ hrest hread
          refine ⟨after', ?_, hafter⟩
          split
          next => cases hset'
          next body' => exact absurd rfl (hgap.ne_cons (by decide) hopen body')
          next body' => exact absurd rfl (hgap.ne_cons (by decide) hclose body')
          next body' => exact (hgap.ne_cons_cons (by decide) hand body' rfl).elim
          next body' => exact (hgap.ne_cons_cons (by decide) hminus body' rfl).elim
          next body' => exact (hgap.ne_cons_cons (by decide) htilde body' rfl).elim
          next =>
              rw [hset']
              exact hread'

end Body

theorem readsOn_readClass (flags : Flags) : ReadsOn (readClass? flags) := by
  intro t part after hread
  obtain ⟨⟨negated, union, rest⟩, hstart, hread⟩ := Option.bind_eq_some_iff.mp hread
  obtain ⟨rest', hstart', hrest⟩ := readClassStart?_of_carries .kept hstart
  rw [readClass?, hstart']
  exact (readsOn_readClassBody _ _ _).of_carries hrest hread

end Stubgen.Regex
