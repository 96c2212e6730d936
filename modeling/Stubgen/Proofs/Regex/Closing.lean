import Stubgen.Regex.Escape
import Stubgen.Proofs.Text.Span
import Mathlib.Tactic

/-!
# Reading on into a closing bracket

A pattern is searched for with a bracket and the end of the text behind it.  A
reader that reads a token of the pattern reads the same token there, and what it
leaves has the closing behind it.  There is one way around: a comment that ends
with the pattern takes the closing in, and then nothing is left of either.
-/

namespace Stubgen.Regex

/-- What stands behind the pattern. -/
def closing : Text := [')', '$']

/-- The text with the closing behind it, or without where a comment took it in. -/
inductive Carries (t : Text) : Text → Prop
  | kept : Carries t (t ++ closing)
  | taken : Carries t t

namespace Carries

variable {t t' : Text} {c : Char}

theorem cons (h : Carries t t') : Carries (c :: t) (c :: t') := by
  cases h with
  | kept => exact kept
  | taken => exact taken

theorem exists_cons (h : Carries (c :: t) t') : ∃ s', t' = c :: s' ∧ Carries t s' := by
  cases h with
  | kept => exact ⟨t ++ closing, rfl, kept⟩
  | taken => exact ⟨t, rfl, taken⟩

theorem exists_cons_cons {d : Char} (h : Carries (c :: d :: t) t') :
    ∃ s', t' = c :: d :: s' ∧ Carries t s' := by
  obtain ⟨behind, rfl, hbehind⟩ := h.exists_cons
  obtain ⟨s', rfl, hs⟩ := hbehind.exists_cons
  exact ⟨s', rfl, hs⟩

theorem length_le (h : Carries t t') : t.length ≤ t'.length := by
  cases h <;> simp

theorem le_length (h : Carries t t') : t'.length ≤ t.length + closing.length := by
  cases h <;> simp

/-- A character at the start stood there already, unless it is the bracket. -/
theorem exists_of_cons {s' : Text} (h : Carries t (c :: s')) (hc : c ≠ ')') :
    ∃ s, t = c :: s ∧ Carries s s' := by
  cases t with
  | nil =>
      generalize hwhole : c :: s' = whole at h
      cases h with
      | kept => exact (hc (List.cons.inj hwhole).1).elim
      | taken => cases hwhole
  | cons d t =>
      obtain ⟨rest, heq, hcarries⟩ := h.exists_cons
      obtain ⟨rfl, rfl⟩ := List.cons.inj heq
      exact ⟨t, rfl, hcarries⟩

/-- A text that does not start with a character goes on not to, unless the
character is the bracket. -/
theorem ne_cons (h : Carries t t') (hc : c ≠ ')') (ht : ∀ s, t = c :: s → False)
    (s : Text) : t' ≠ c :: s := by
  rintro rfl
  obtain ⟨rest, heq, -⟩ := h.exists_of_cons hc
  exact ht rest heq

theorem ne_cons_cons {d : Char} (h : Carries t t') (hd : c ≠ ')' ∧ d ≠ ')')
    (ht : ∀ s, t = c :: d :: s → False) (s : Text) : t' ≠ c :: d :: s := by
  rintro rfl
  obtain ⟨rest, rfl, hrest⟩ := h.exists_of_cons hd.1
  obtain ⟨others, rfl, -⟩ := hrest.exists_of_cons hd.2
  exact ht others rfl

end Carries

/-- With the closing behind it a text is read to the same. -/
def ReadsAt {α : Type} (read : Text → Option (α × Text)) (t : Text) : Prop :=
  ∀ a rest, read t = some (a, rest) →
    ∃ rest', read (t ++ closing) = some (a, rest') ∧ Carries rest rest'

/-- With the closing behind it every text is read to the same. -/
def ReadsOn {α : Type} (read : Text → Option (α × Text)) : Prop :=
  ∀ t, ReadsAt read t

section ReadsOn

variable {α β : Type} {read : Text → Option (α × Text)}

theorem ReadsAt.of_carries {t t' rest : Text} {a : α} (h : ReadsAt read t)
    (ht : Carries t t') (hread : read t = some (a, rest)) :
    ∃ rest', read t' = some (a, rest') ∧ Carries rest rest' := by
  cases ht with
  | kept => exact h a rest hread
  | taken => exact ⟨rest, hread, .taken⟩

theorem ReadsOn.of_carries (h : ReadsOn read) {t t' rest : Text} {a : α}
    (ht : Carries t t') (hread : read t = some (a, rest)) :
    ∃ rest', read t' = some (a, rest') ∧ Carries rest rest' :=
  (h t).of_carries ht hread

theorem readsOn_none : ReadsOn fun _ => (none : Option (α × Text)) := nofun

theorem readsOn_some (a : α) : ReadsOn fun t => some (a, t) := by
  intro t b rest h
  cases h
  exact ⟨_, rfl, .kept⟩

theorem readsOn_map (o : Option β) (f : β → α) :
    ReadsOn fun t => o.map fun b => (f b, t) := by
  cases o with
  | none => exact readsOn_none
  | some b => exact readsOn_some (f b)

theorem ReadsOn.map (h : ReadsOn read) (f : α → β) :
    ReadsOn fun t => (read t).map fun (a, rest) => (f a, rest) := by
  intro t b rest hread
  obtain ⟨⟨a, after⟩, ha, heq⟩ := Option.map_eq_some_iff.mp hread
  cases heq
  obtain ⟨rest', ha', hrest⟩ := h t a rest ha
  exact ⟨rest', Option.map_eq_some_iff.mpr ⟨(a, rest'), ha', rfl⟩, hrest⟩

theorem readsOn_bind (o : Option β) {next : β → Text → Option (α × Text)}
    (hnext : ∀ b, ReadsOn (next b)) : ReadsOn fun t => o.bind (next · t) := by
  cases o with
  | none => exact readsOn_none
  | some b => exact hnext b

theorem readsOn_ite {p : Prop} [Decidable p] {other : Text → Option (α × Text)}
    (hread : p → ReadsOn read) (hother : ¬p → ReadsOn other) :
    ReadsOn fun t => if p then read t else other t := by
  by_cases h : p
  · simpa only [if_pos h] using hread h
  · simpa only [if_neg h] using hother h

theorem ReadsOn.bind (h : ReadsOn read) {next : α × Text → Option (β × Text)}
    (hnext : ∀ a, ReadsOn fun rest => next (a, rest)) :
    ReadsOn fun t => (read t).bind next := by
  intro t b rest hread
  obtain ⟨⟨a, between⟩, ha, hb⟩ := Option.bind_eq_some_iff.mp hread
  obtain ⟨between', ha', hcarries⟩ := h t a between ha
  obtain ⟨rest', hb', hrest⟩ := (hnext a).of_carries hcarries hb
  exact ⟨rest', Option.bind_eq_some_iff.mpr ⟨(a, between'), ha', hb'⟩, hrest⟩

end ReadsOn

/-! ## Gaps and runs -/

theorem skipComments_append (inComment : Bool) (t : Text) :
    Carries (skipComments inComment t) (skipComments inComment (t ++ closing)) := by
  induction t generalizing inComment with
  | nil =>
      cases inComment with
      | true => exact .taken
      | false => exact .kept
  | cons c t ih =>
      cases inComment with
      | true =>
          rw [List.cons_append, skipComments, skipComments]
          exact ih _
      | false =>
          rw [List.cons_append, skipComments, skipComments]
          by_cases hblank : Text.isBlank c = true
          · simpa only [hblank, if_true] using ih false
          · simp only [hblank]
            by_cases hcomment : c = '#'
            · simpa [hcomment] using ih true
            · simpa [hcomment] using .kept

theorem Carries.skipGap {t t' : Text} (h : Carries t t') (verbose : Bool) :
    Carries (skipGap verbose t) (skipGap verbose t') := by
  cases h with
  | taken => exact .taken
  | kept =>
      cases verbose with
      | true => exact skipComments_append false t
      | false => exact .kept

theorem trimStart_append_closing (t : Text) :
    Text.trimStart (t ++ closing) = Text.trimStart t ++ closing := by
  have hstops : Text.Stops Text.isBlank closing := by decide
  rw [Text.trimStart, Text.trimStart, List.dropWhile_append]
  split
  next hempty =>
      rw [List.isEmpty_iff.mp hempty, Text.dropWhile_of_stops hstops]
      rfl
  next => rfl

theorem Carries.trimStart {t t' : Text} (h : Carries t t') :
    Carries (Text.trimStart t) (Text.trimStart t') := by
  cases h with
  | kept =>
      rw [trimStart_append_closing]
      exact .kept
  | taken => exact .taken

/-- A run stops at the closing, if its characters are of another kind; and a run
that stopped before does not come there. -/
theorem spacedRun_go_append {p : Char → Bool} {verbose inComment : Bool}
    {t run after : Text} (hread : spacedRun.go p verbose inComment t = (run, after))
    (hstops : p ')' = false ∨ after ≠ []) :
    ∃ after', spacedRun.go p verbose inComment (t ++ closing) = (run, after') ∧
      Carries after after' := by
  induction t generalizing inComment run with
  | nil =>
      cases inComment with
      | true =>
          cases hread
          exact ⟨[], rfl, .taken⟩
      | false =>
          cases hread
          have hp : p ')' = false := hstops.resolve_right fun hne => hne rfl
          refine ⟨closing, ?_, .kept⟩
          have hblank : Text.isBlank ')' = false := by decide
          simp [closing, spacedRun.go, hp, hblank]
  | cons c t ih =>
      cases inComment with
      | true =>
          rw [List.cons_append, spacedRun.go]
          exact ih hread
      | false =>
          rw [spacedRun.go] at hread
          rw [List.cons_append, spacedRun.go]
          by_cases hblank : (verbose && Text.isBlank c) = true
          · rw [if_pos hblank] at hread ⊢
            exact ih hread
          · rw [if_neg hblank] at hread ⊢
            by_cases hcomment : (verbose && decide (c = '#')) = true
            · rw [if_pos hcomment] at hread ⊢
              exact ih hread
            · rw [if_neg hcomment] at hread ⊢
              by_cases hc : p c = true
              · rw [if_pos hc] at hread ⊢
                cases hread
                obtain ⟨after', hrun, hcarries⟩ := ih rfl
                exact ⟨after', by rw [hrun], hcarries⟩
              · rw [if_neg hc] at hread ⊢
                cases hread
                exact ⟨_, rfl, .kept⟩

theorem Carries.spacedRun {t t' : Text} (h : Carries t t') {p : Char → Bool}
    {verbose : Bool} {run after : Text} (hread : spacedRun p verbose t = (run, after))
    (hstops : p ')' = false ∨ after ≠ []) :
    ∃ after', spacedRun p verbose t' = (run, after') ∧ Carries after after' := by
  cases h with
  | kept => exact spacedRun_go_append hread hstops
  | taken => exact ⟨after, hread, .taken⟩

theorem readsOn_spacedExactly (p : Char → Bool) (verbose : Bool) (n : ℕ) :
    ReadsOn (spacedExactly? p verbose n) := by
  induction n with
  | zero => exact readsOn_some []
  | succ n ih =>
      intro t digits rest hread
      cases t with
      | nil => cases hread
      | cons c t =>
          rw [spacedExactly?] at hread
          rw [List.cons_append, spacedExactly?]
          by_cases hc : p c = true
          · rw [if_pos hc] at hread ⊢
            obtain ⟨⟨others, after⟩, hothers, heq⟩ := Option.map_eq_some_iff.mp hread
            cases heq
            obtain ⟨after', hread', hcarries⟩ :=
              ih.of_carries (Carries.kept.skipGap verbose) hothers
            exact ⟨after', by rw [hread']; rfl, hcarries⟩
          · rw [if_neg hc] at hread
            cases hread

/-! ## Labels and separators -/

/-- A label without the bracket is found in front of the closing or not at all. -/
theorem afterLabel?_append_closing {label : Text} (hlabel : ')' ∉ label) (t : Text) :
    Text.afterLabel? label (t ++ closing) =
      (Text.afterLabel? label t).map (· ++ closing) := by
  induction label generalizing t with
  | nil => rfl
  | cons l label ih =>
      have hl : l ≠ ')' := fun heq => hlabel (heq ▸ List.mem_cons_self)
      have hlabel : ')' ∉ label := fun hmem => hlabel (List.mem_cons_of_mem l hmem)
      cases t with
      | nil =>
          rw [List.nil_append, closing]
          exact if_neg hl
      | cons c t =>
          rw [List.cons_append, Text.afterLabel?, Text.afterLabel?]
          by_cases hc : l = c
          · rw [if_pos hc, if_pos hc]
            exact ih hlabel t
          · rw [if_neg hc, if_neg hc]
            rfl

/-- The two parts of a text around the first separator, if there is one. -/
theorem separator_append_closing {x : Char} (hx : closing.dropWhile (· ≠ x) = [])
    (t : Text) :
    (t.dropWhile (· ≠ x) = [] ∧ (t ++ closing).dropWhile (· ≠ x) = []) ∨
      ((t ++ closing).dropWhile (· ≠ x) = t.dropWhile (· ≠ x) ++ closing ∧
        (t ++ closing).takeWhile (· ≠ x) = t.takeWhile (· ≠ x)) := by
  rw [List.dropWhile_append, List.takeWhile_append]
  by_cases hnil : t.dropWhile (· ≠ x) = []
  · left
    rw [hnil]
    exact ⟨rfl, hx⟩
  · right
    have hlength : (t.takeWhile (· ≠ x)).length ≠ t.length := by
      intro heq
      have hsplit := List.takeWhile_append_dropWhile (p := (· ≠ x)) (l := t)
      have htake := (List.takeWhile_prefix (· ≠ x)).eq_of_length heq
      rw [htake] at hsplit
      exact hnil (List.append_right_eq_self.mp hsplit)
    have hempty : ¬ (t.dropWhile (· ≠ x)).isEmpty = true := by
      rwa [List.isEmpty_iff]
    rw [if_neg hlength, if_neg hempty]
    exact ⟨rfl, rfl⟩

/-! ## Escapes -/

theorem readsOn_readHex (verbose : Bool) (count : ℕ) :
    ReadsOn (readHex? verbose count) := by
  intro t primitive rest hread
  have hgap : Carries (skipGap verbose t) (skipGap verbose (t ++ closing)) :=
    Carries.kept.skipGap verbose
  unfold readHex? at hread ⊢
  split at hread
  next body heq =>
      rw [heq] at hgap
      obtain ⟨body', heq', hbody⟩ := hgap.exists_cons
      rw [heq']
      split at hread
      next digits after hrun =>
          obtain ⟨after', hrun', hafter⟩ := hbody.spacedRun hrun (.inl (by decide))
          obtain ⟨after'', rfl, hcarries⟩ := hafter.exists_cons
          simp only [hrun']
          split at hread
          next => cases hread
          next hdigits =>
              obtain ⟨c, hc, heq⟩ := Option.map_eq_some_iff.mp hread
              cases heq
              exact ⟨skipGap verbose after'', by rw [if_neg hdigits, hc]; rfl,
                hcarries.skipGap verbose⟩
      next => cases hread
  next hne =>
      split
      next body heq =>
          exact absurd heq (hgap.ne_cons (by decide) hne body)
      next =>
          apply ReadsOn.of_carries (ReadsOn.bind _ _) hgap hread
          · exact readsOn_spacedExactly isHexDigit verbose count
          · intro digits
            exact readsOn_map (charOfHex? digits) (Primitive.character · (count == 2))

theorem readsOn_readProperty (verbose negated : Bool) :
    ReadsOn (readProperty? verbose negated) := by
  intro t primitive rest hread
  have hgap : Carries (skipGap verbose t) (skipGap verbose (t ++ closing)) :=
    Carries.kept.skipGap verbose
  unfold readProperty? at hread ⊢
  split at hread
  next => cases hread
  next body heq =>
      rw [heq] at hgap
      obtain ⟨body', heq', hbody⟩ := hgap.exists_cons
      rw [heq']
      split at hread
      next name after hrun =>
          cases hread
          obtain ⟨after', hrun', hafter⟩ := hbody.spacedRun hrun (.inr nofun)
          obtain ⟨after'', rfl, hcarries⟩ := hafter.exists_cons
          exact ⟨after'', by simp only [hrun'], hcarries⟩
      next => cases hread
  next => cases hread
  next c body hbrace hslash heq =>
      cases hread
      rw [heq] at hgap
      obtain ⟨body', heq', hbody⟩ := hgap.exists_cons
      rw [heq']
      split
      next h => cases h
      next h =>
          obtain ⟨rfl, -⟩ := List.cons.inj h
          exact (hbrace rfl).elim
      next h =>
          obtain ⟨rfl, -⟩ := List.cons.inj h
          exact (hslash rfl).elim
      next h =>
          cases h
          exact ⟨_, rfl, hbody.skipGap verbose⟩

theorem readsOn_boundaryName (name : Text) : ReadsOn fun t =>
    if name = "start".toList then some (Primitive.assertion .wordStart, t)
    else if name = "end".toList then some (Primitive.assertion .wordEnd, t)
    else if name = "start-half".toList then
      some (Primitive.assertion .wordStartHalf, t)
    else if name = "end-half".toList then some (Primitive.assertion .wordEndHalf, t)
    else none := by
  apply readsOn_ite fun _ => readsOn_some _
  intro _
  apply readsOn_ite fun _ => readsOn_some _
  intro _
  apply readsOn_ite fun _ => readsOn_some _
  intro _
  exact readsOn_ite (fun _ => readsOn_some _) fun _ => readsOn_none

theorem readsOn_readBoundary (verbose : Bool) : ReadsOn (readBoundary? verbose) := by
  intro t primitive rest hread
  unfold readBoundary? at hread
  split at hread
  next body =>
      rw [List.cons_append, readBoundary?]
      have hgap : Carries (skipGap verbose body) (skipGap verbose (body ++ closing)) :=
        Carries.kept.skipGap verbose
      split at hread
      next => cases hread
      next c tail heq =>
          rw [heq] at hgap
          obtain ⟨tail', heq', -⟩ := hgap.exists_cons
          rw [heq']
          by_cases hname : (!isAssertionName c) = true
          · rw [if_pos hname] at hread
            simp only [if_pos hname]
            cases hread
            exact ⟨_, rfl, .kept⟩
          · rw [if_neg hname] at hread
            simp only [if_neg hname]
            split at hread
            next name after hrun =>
                obtain ⟨after', hrun', hafter⟩ :=
                  Carries.kept.spacedRun hrun (.inl (by decide))
                obtain ⟨after'', rfl, hcarries⟩ := hafter.exists_cons
                simp only [hrun']
                exact (readsOn_boundaryName name).of_carries hcarries hread
            next => cases hread
  next hne =>
      cases hread
      refine ⟨_, ?_, .kept⟩
      unfold readBoundary?
      split
      next body heq => exact absurd heq (Carries.kept.ne_cons (by decide) hne body)
      next => rfl

theorem readsOn_readEscape (verbose : Bool) : ReadsOn (readEscape? verbose) := by
  intro t primitive rest hread
  cases t with
  | nil => cases hread
  | cons c t =>
      rw [List.cons_append]
      unfold readEscape? at hread ⊢
      dsimp only at hread ⊢
      -- one case for each letter that may follow, and one for all other characters
      split at hread
      all_goals first
        | exact readsOn_some _ _ _ _ hread
        | exact readsOn_readHex _ _ _ _ _ hread
        | exact readsOn_readProperty _ _ _ _ _ hread
        | exact readsOn_readBoundary _ _ _ _ hread
        | exact readsOn_ite (fun _ => readsOn_some _) (fun _ => readsOn_none) _ _ _ hread

theorem readPrimitive?_cons (verbose : Bool) (c : Char) (t : Text) :
    readPrimitive? verbose (c :: t) =
      match c with
      | '\\' => readEscape? verbose t
      | '.' => some (.dot, t)
      | '^' => some (.assertion .lineStart, t)
      | '$' => some (.assertion .lineEnd, t)
      | c => some (.character c false, t) := by
  split
  all_goals rw [readPrimitive?]
  all_goals simp_all

theorem readsOn_readPrimitive (verbose : Bool) :
    ReadsOn (readPrimitive? verbose) := by
  intro t primitive rest hread
  cases t with
  | nil => cases hread
  | cons c t =>
      rw [readPrimitive?_cons] at hread
      rw [List.cons_append, readPrimitive?_cons]
      split at hread
      next => exact readsOn_readEscape _ _ _ _ hread
      all_goals exact readsOn_some _ _ _ _ hread

end Stubgen.Regex
