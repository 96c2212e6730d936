import Stubgen.Regex.Match
import Mathlib.Tactic

/-!
# The matcher finds the matches

The matcher moves marks from the places where a match may start to the places
where one may end.  An expression leads from a place to another if it matches
the stretch between them.  The marks that the matcher sets are exactly those that
the expression leads to, and for a repetition that is because every step of a
match moves on or stays.
-/

namespace Stubgen.Regex

/-! ## Marks that move along a relation -/

namespace Marks

def IsMarked (marks : Marks) (i : ℕ) : Prop := marks[i]? = some true

theorem IsMarked.lt_length {marks : Marks} {i : ℕ} (h : marks.IsMarked i) :
    i < marks.length :=
  (List.getElem?_eq_some_iff.mp h).1

theorem isMarked_replicate {n i : ℕ} :
    IsMarked (List.replicate n true) i ↔ i < n := by
  simp [IsMarked, List.getElem?_replicate]

theorem contains_iff (marks : Marks) :
    marks.contains true = true ↔ ∃ i, marks.IsMarked i := by
  rw [List.contains_iff_mem, List.mem_iff_getElem?]
  rfl

theorem isMarked_union {a b : Marks} (h : a.length = b.length) (i : ℕ) :
    (a.union b).IsMarked i ↔ a.IsMarked i ∨ b.IsMarked i := by
  unfold IsMarked union
  rw [List.getElem?_zipWith]
  by_cases hi : i < a.length
  · rw [List.getElem?_eq_getElem hi, List.getElem?_eq_getElem (h ▸ hi)]
    simp
  · rw [List.getElem?_eq_none (by omega), List.getElem?_eq_none (by omega)]
    simp

end Marks

open Marks (IsMarked)

/-- A step on `size` marks sets the marks that the relation leads to from a
marked place. -/
structure Moves (size : ℕ) (rel : ℕ → ℕ → Prop) (step : Marks → Marks) : Prop where
  length : ∀ marks : Marks, marks.length = size → (step marks).length = size
  isMarked : ∀ marks : Marks, marks.length = size →
    ∀ j, IsMarked (step marks) j ↔ ∃ i, IsMarked marks i ∧ rel i j

/-- A number of steps along a relation. -/
def Walks (rel : ℕ → ℕ → Prop) : ℕ → ℕ → ℕ → Prop
  | 0, i, j => i = j
  | n + 1, i, j => ∃ k, rel i k ∧ Walks rel n k j

section Moves

variable {size : ℕ} {rel other : ℕ → ℕ → Prop} {step next : Marks → Marks}

theorem Moves.congr (h : Moves size rel step)
    (heq : ∀ i j, i < size → (rel i j ↔ other i j)) : Moves size other step := by
  apply Moves.mk h.length
  intro marks hmarks j
  rw [h.isMarked marks hmarks j]
  apply exists_congr
  intro i
  apply and_congr_right
  intro hi
  exact heq i j (hmarks ▸ hi.lt_length)

theorem moves_id : Moves size Eq id := by
  apply Moves.mk (fun _ hmarks => hmarks)
  intro marks _ j
  simp

theorem Moves.comp (hnext : Moves size other next) (hstep : Moves size rel step) :
    Moves size (fun i j => ∃ k, rel i k ∧ other k j) (next ∘ step) := by
  have hlength : ∀ marks : Marks, marks.length = size → (step marks).length = size :=
    hstep.length
  apply Moves.mk
  · intro marks hmarks
    exact hnext.length _ (hlength marks hmarks)
  · intro marks hmarks j
    rw [Function.comp_apply, hnext.isMarked _ (hlength marks hmarks)]
    constructor
    · rintro ⟨k, hk, hkj⟩
      rw [hstep.isMarked marks hmarks] at hk
      obtain ⟨i, hi, hik⟩ := hk
      exact ⟨i, hi, k, hik, hkj⟩
    · rintro ⟨i, hi, k, hik, hkj⟩
      exact ⟨k, (hstep.isMarked marks hmarks k).mpr ⟨i, hi, hik⟩, hkj⟩

theorem Moves.union (hstep : Moves size rel step) (hnext : Moves size other next) :
    Moves size (fun i j => rel i j ∨ other i j)
      (fun marks => (step marks).union (next marks)) := by
  apply Moves.mk
  · intro marks hmarks
    rw [Marks.union, List.length_zipWith, hstep.length marks hmarks,
      hnext.length marks hmarks, min_self]
  · intro marks hmarks j
    rw [Marks.isMarked_union, hstep.isMarked marks hmarks,
      hnext.isMarked marks hmarks]
    · simp only [and_or_left, exists_or]
    · rw [hstep.length marks hmarks, hnext.length marks hmarks]

theorem Moves.iterate (h : Moves size rel step) (n : ℕ) :
    Moves size (Walks rel n) (step^[n]) := by
  induction n with
  | zero => exact moves_id
  | succ n ih =>
      rw [Function.iterate_succ]
      exact ih.comp h

end Moves

/-! ## Walks -/

section Walks

variable {rel : ℕ → ℕ → Prop} {i j k m n : ℕ}

theorem walks_add : Walks rel (m + n) i j ↔
    ∃ k, Walks rel m i k ∧ Walks rel n k j := by
  induction m generalizing i with
  | zero => simp [Walks]
  | succ m ih =>
      rw [Nat.succ_add, Walks]
      simp only [ih]
      constructor
      · rintro ⟨k, hik, l, hkl, hlj⟩
        exact ⟨l, ⟨k, hik, hkl⟩, hlj⟩
      · rintro ⟨l, ⟨k, hik, hkl⟩, hlj⟩
        exact ⟨k, hik, l, hkl, hlj⟩

theorem Walks.le (hrel : ∀ i j, rel i j → i ≤ j) (h : Walks rel n i j) : i ≤ j := by
  induction n generalizing i with
  | zero => exact h.le
  | succ n ih =>
      obtain ⟨k, hik, hkj⟩ := h
      exact (hrel i k hik).trans (ih hkj)

/-- Where no step goes back, the steps that stay can be left out. -/
theorem Walks.shorten (hrel : ∀ i j, rel i j → i ≤ j) (h : Walks rel n i j) :
    ∃ m ≤ j - i, Walks rel m i j := by
  induction n generalizing i with
  | zero => exact ⟨0, Nat.zero_le _, h⟩
  | succ n ih =>
      obtain ⟨k, hik, hkj⟩ := h
      obtain ⟨m, hm, hwalk⟩ := ih hkj
      by_cases hstays : i = k
      · rw [hstays]
        exact ⟨m, hm, hwalk⟩
      · have hik' := hrel i k hik
        have hkj' := hkj.le hrel
        exact ⟨m + 1, by omega, k, hik, hwalk⟩

/-- Steps that may be left out: at most that many steps. -/
theorem walks_or_stay_iff : Walks (fun i j => i = j ∨ rel i j) n i j ↔
    ∃ m ≤ n, Walks rel m i j := by
  induction n generalizing i with
  | zero => simp [Walks]
  | succ n ih =>
      rw [Walks]
      simp only [ih]
      constructor
      · rintro ⟨k, rfl | hik, m, hm, hwalk⟩
        · exact ⟨m, Nat.le_succ_of_le hm, hwalk⟩
        · exact ⟨m + 1, Nat.succ_le_succ hm, k, hik, hwalk⟩
      · rintro ⟨m, hm, hwalk⟩
        cases m with
        | zero => exact ⟨i, .inl rfl, 0, Nat.zero_le n, hwalk⟩
        | succ m =>
            obtain ⟨k, hik, hkj⟩ := hwalk
            exact ⟨k, .inr hik, m, Nat.le_of_succ_le_succ hm, hkj⟩

end Walks

/-! ## Repeated steps -/

/-- Stopping at the first step that changes nothing leaves nothing out. -/
theorem afterExactly_eq_iterate (step : Marks → Marks) (n : ℕ) (marks : Marks) :
    afterExactly step n marks = step^[n] marks := by
  induction n generalizing marks with
  | zero => rfl
  | succ n ih =>
      unfold afterExactly
      by_cases hfixed : step marks = marks
      · simp only [hfixed, if_true]
        exact (Function.iterate_fixed hfixed (n + 1)).symm
      · simp only [hfixed, if_false]
        exact ih (step marks)

theorem afterAtMost_eq_iterate (step : Marks → Marks) (n : ℕ) (marks : Marks) :
    afterAtMost step n marks = (fun ms => ms.union (step ms))^[n] marks := by
  induction n generalizing marks with
  | zero => rfl
  | succ n ih =>
      unfold afterAtMost
      by_cases hfixed : marks.union (step marks) = marks
      · simp only [hfixed, if_true]
        exact (Function.iterate_fixed hfixed (n + 1)).symm
      · simp only [hfixed, if_false]
        exact ih (marks.union (step marks))

section Repeated

variable {size : ℕ} {rel : ℕ → ℕ → Prop} {step : Marks → Marks}

theorem Moves.afterExactly (h : Moves size rel step) (n : ℕ) :
    Moves size (Walks rel n) (afterExactly step n) := by
  have heq : Regex.afterExactly step n = step^[n] :=
    funext (afterExactly_eq_iterate step n)
  rw [heq]
  exact h.iterate n

theorem Moves.afterAtMost (h : Moves size rel step) (n : ℕ) :
    Moves size (fun i j => ∃ m ≤ n, Walks rel m i j) (afterAtMost step n) := by
  have heq : Regex.afterAtMost step n = (fun ms => ms.union (step ms))^[n] :=
    funext (afterAtMost_eq_iterate step n)
  rw [heq]
  apply ((moves_id.union h).iterate n).congr
  intro i j _
  exact walks_or_stay_iff

end Repeated

/-! ## Places that an expression leads to -/

/-- An expression matches the stretch of a text between two places. -/
def Leads (text : Text) (e : Expr) (i j : ℕ) : Prop :=
  ∃ before middle after, text = before ++ middle ++ after ∧ before.length = i ∧
    before.length + middle.length = j ∧ Spans before middle after e

section Leads

variable {text : Text} {e f : Expr} {i j : ℕ}

theorem Leads.le (h : Leads text e i j) : i ≤ j := by
  obtain ⟨before, middle, after, -, hi, hj, -⟩ := h
  omega

theorem Leads.le_length (h : Leads text e i j) : j ≤ text.length := by
  obtain ⟨before, middle, after, rfl, hi, hj, -⟩ := h
  simp only [List.length_append]
  omega

theorem leads_empty_iff (hi : i ≤ text.length) : Leads text .empty i j ↔ i = j := by
  constructor
  · rintro ⟨before, middle, after, -, rfl, rfl, hspans⟩
    cases hspans
    rfl
  · rintro rfl
    exact ⟨text.take i, [], text.drop i, by simp, by simp [hi], by simp [hi],
      .empty _ _⟩

theorem leads_one_iff {set : CodeSet} : Leads text (.one set) i j ↔
    ∃ c, text[i]? = some c ∧ set.contains c = true ∧ i + 1 = j := by
  constructor
  · rintro ⟨before, middle, after, rfl, rfl, rfl, hspans⟩
    cases hspans with
    | one _ _ _ c hc => exact ⟨c, by simp, hc, rfl⟩
  · rintro ⟨c, hget, hc, rfl⟩
    obtain ⟨hi, rfl⟩ := List.getElem?_eq_some_iff.mp hget
    refine ⟨text.take i, [text[i]], text.drop (i + 1), ?_, ?_, ?_, .one _ _ _ _ hc⟩
    · rw [List.append_assoc, List.singleton_append, List.cons_getElem_drop_succ,
        List.take_append_drop]
    · exact List.length_take_of_le hi.le
    · rw [List.length_take_of_le hi.le, List.length_singleton]

theorem leads_look_iff {test : Look} : Leads text (.look test) i j ↔
    i = j ∧ ∃ before after, text = before ++ after ∧ before.length = i ∧
      test.holds before.getLast? after.head? = true := by
  constructor
  · rintro ⟨before, middle, after, rfl, rfl, rfl, hspans⟩
    cases hspans with
    | look _ _ _ h => exact ⟨rfl, before, after, by simp, rfl, h⟩
  · rintro ⟨rfl, before, after, rfl, rfl, h⟩
    exact ⟨before, [], after, by simp, rfl, rfl, .look _ _ _ h⟩

theorem leads_seq_iff : Leads text (.seq e f) i j ↔
    ∃ k, Leads text e i k ∧ Leads text f k j := by
  constructor
  · rintro ⟨before, middle, after, rfl, rfl, rfl, hspans⟩
    cases hspans with
    | seq _ first second _ _ _ he hf =>
        refine ⟨(before ++ first).length, ?_, ?_⟩
        · exact ⟨before, first, second ++ after, by simp, rfl, by simp, he⟩
        · exact ⟨before ++ first, second, after, by simp, rfl, by simp; omega, hf⟩
  · rintro ⟨k, ⟨before, first, rest, htext, rfl, rfl, he⟩,
      ⟨ahead, second, after, hsame, hahead, rfl, hf⟩⟩
    have hparts : before ++ first = ahead ∧ rest = second ++ after := by
      apply List.append_inj
      · rw [← htext, hsame, List.append_assoc]
      · simp only [List.length_append]
        omega
    obtain ⟨rfl, rfl⟩ := hparts
    refine ⟨before, first ++ second, after, ?_, rfl, ?_, .seq _ _ _ _ _ _ he hf⟩
    · simp [htext]
    · simp only [List.length_append]
      omega

theorem leads_alt_iff : Leads text (.alt e f) i j ↔
    Leads text e i j ∨ Leads text f i j := by
  constructor
  · rintro ⟨before, middle, after, rfl, hi, hj, hspans⟩
    cases hspans with
    | altLeft _ _ _ _ _ he => exact .inl ⟨before, middle, after, rfl, hi, hj, he⟩
    | altRight _ _ _ _ _ hf => exact .inr ⟨before, middle, after, rfl, hi, hj, hf⟩
  · rintro (⟨before, middle, after, rfl, hi, hj, he⟩ |
      ⟨before, middle, after, rfl, hi, hj, hf⟩)
    · exact ⟨before, middle, after, rfl, hi, hj, .altLeft _ _ _ _ _ he⟩
    · exact ⟨before, middle, after, rfl, hi, hj, .altRight _ _ _ _ _ hf⟩

theorem leads_capture_iff : Leads text (.capture e) i j ↔ Leads text e i j := by
  constructor
  · rintro ⟨before, middle, after, rfl, hi, hj, hspans⟩
    cases hspans with
    | capture _ _ _ _ he => exact ⟨before, middle, after, rfl, hi, hj, he⟩
  · rintro ⟨before, middle, after, rfl, hi, hj, he⟩
    exact ⟨before, middle, after, rfl, hi, hj, .capture _ _ _ _ he⟩

/-- Several matches in a row are a walk along the places that one match leads
to. -/
theorem walks_leads_iff {n : ℕ} (hi : i ≤ text.length) : Walks (Leads text e) n i j ↔
    ∃ before middle after, text = before ++ middle ++ after ∧ before.length = i ∧
      before.length + middle.length = j ∧ SpansTimes before middle after e n := by
  induction n generalizing i with
  | zero =>
      constructor
      · rintro rfl
        exact ⟨text.take i, [], text.drop i, by simp, by simp [hi], by simp [hi],
          .none _ _ _⟩
      · rintro ⟨before, middle, after, -, rfl, rfl, htimes⟩
        cases htimes
        rfl
  | succ n ih =>
      constructor
      · rintro ⟨k, hlead, hwalk⟩
        obtain ⟨ahead, second, after, hsame, hahead, rfl, htimes⟩ :=
          (ih hlead.le_length).mp hwalk
        obtain ⟨before, first, rest, htext, rfl, hk, he⟩ := hlead
        have hparts : before ++ first = ahead ∧ rest = second ++ after := by
          apply List.append_inj
          · rw [← htext, hsame, List.append_assoc]
          · rw [List.length_append, hk, hahead]
        obtain ⟨rfl, rfl⟩ := hparts
        refine ⟨before, first ++ second, after, ?_, rfl, ?_,
          .more _ _ _ _ _ _ he htimes⟩
        · simp [htext]
        · simp only [List.length_append]
          omega
      · rintro ⟨before, middle, after, rfl, rfl, rfl, htimes⟩
        cases htimes with
        | more _ first second _ _ _ he htimes =>
            refine ⟨(before ++ first).length, ?_, (ih ?_).mpr ?_⟩
            · exact ⟨before, first, second ++ after, by simp, rfl, by simp, he⟩
            · simp only [List.length_append]
              omega
            · exact ⟨before ++ first, second, after, by simp, rfl, by simp; omega,
                htimes⟩

theorem leads_repeated_iff {least : ℕ} {most : Option ℕ} (hi : i ≤ text.length) :
    Leads text (.repeated e least most) i j ↔
      ∃ n, least ≤ n ∧ (∀ m ∈ most, n ≤ m) ∧ Walks (Leads text e) n i j := by
  simp only [walks_leads_iff hi]
  constructor
  · rintro ⟨before, middle, after, rfl, hi, hj, hspans⟩
    cases hspans with
    | repeated _ _ _ _ _ n _ hleast hmost htimes =>
        exact ⟨n, hleast, hmost, before, middle, after, rfl, hi, hj, htimes⟩
  · rintro ⟨n, hleast, hmost, before, middle, after, rfl, hi, hj, htimes⟩
    exact ⟨before, middle, after, rfl, hi, hj,
      .repeated _ _ _ _ _ n _ hleast hmost htimes⟩

end Leads

/-! ## The matcher -/

theorem length_neighbours (before : Option Char) (text : Text) :
    (neighbours before text).length = text.length + 1 := by
  induction text generalizing before with
  | nil => rfl
  | cons c rest ih => rw [neighbours, List.length_cons, ih, List.length_cons]

theorem neighbours_append (ahead : Option Char) (before after : Text) :
    (neighbours ahead (before ++ after))[before.length]? =
      some (before.getLast?.or ahead, after.head?) := by
  induction before generalizing ahead with
  | nil => cases after <;> rfl
  | cons c before ih =>
      rw [List.cons_append, neighbours, List.length_cons, List.getElem?_cons_succ,
        ih, List.getLast?_cons]
      cases before.getLast? <;> rfl

/-- Every bound on a repetition is at least its other bound. -/
def Expr.IsOrdered : Expr → Prop
  | empty => True
  | one _ => True
  | look _ => True
  | seq e f => e.IsOrdered ∧ f.IsOrdered
  | alt e f => e.IsOrdered ∧ f.IsOrdered
  | repeated e least most => e.IsOrdered ∧ ∀ m ∈ most, least ≤ m
  | capture e => e.IsOrdered

section Ends

variable (text : Text)

theorem moves_one (set : CodeSet) :
    Moves (text.length + 1) (Leads text (.one set)) ((Expr.one set).ends text) := by
  apply Moves.mk
  · intro marks hmarks
    simp only [Expr.ends, List.length_cons, List.length_zipWith]
    omega
  · intro marks _ j
    simp only [leads_one_iff, IsMarked, Expr.ends]
    cases j with
    | zero => simp
    | succ j =>
        rw [List.getElem?_cons_succ, List.getElem?_zipWith_eq_some]
        constructor
        · rintro ⟨marked, c, hmarked, hc, hboth⟩
          rw [Bool.and_eq_true] at hboth
          exact ⟨j, hboth.1 ▸ hmarked, c, hc, hboth.2, rfl⟩
        · rintro ⟨i, hi, c, hc, hset, hij⟩
          cases hij
          exact ⟨true, c, hi, hc, by rw [hset, Bool.and_true]⟩

theorem moves_look (test : Look) :
    Moves (text.length + 1) (Leads text (.look test)) ((Expr.look test).ends text) := by
  apply Moves.mk
  · intro marks hmarks
    rw [Expr.ends, List.length_zipWith, length_neighbours, hmarks, min_self]
  · intro marks hmarks j
    simp only [leads_look_iff, IsMarked, Expr.ends, List.getElem?_zipWith_eq_some]
    constructor
    · rintro ⟨marked, n, hmarked, hn, hboth⟩
      rw [Bool.and_eq_true] at hboth
      obtain ⟨hlength, -⟩ := List.getElem?_eq_some_iff.mp hmarked
      have hj : (text.take j).length = j := by
        rw [List.length_take]
        omega
      have hplace := neighbours_append none (text.take j) (text.drop j)
      rw [List.take_append_drop, hj, hn, Option.or_none] at hplace
      cases hplace
      exact ⟨j, hboth.1 ▸ hmarked, rfl, text.take j, text.drop j, by simp, hj,
        hboth.2⟩
    · rintro ⟨i, hi, rfl, before, after, rfl, rfl, hholds⟩
      have hplace := neighbours_append none before after
      rw [Option.or_none] at hplace
      exact ⟨true, _, hi, hplace, by rw [hholds, Bool.and_true]⟩

theorem moves_repeated {e : Expr} {least : ℕ} {most : Option ℕ}
    (hbounds : ∀ m ∈ most, least ≤ m)
    (he : Moves (text.length + 1) (Leads text e) (e.ends text)) :
    Moves (text.length + 1) (Leads text (.repeated e least most))
      ((Expr.repeated e least most).ends text) := by
  cases most with
  | none =>
      apply ((he.afterAtMost (text.length + 1)).comp (he.afterExactly least)).congr
      intro i j hi
      constructor
      · rintro ⟨k, hleast, m, -, hmore⟩
        apply (leads_repeated_iff (Nat.le_of_lt_succ hi)).mpr
        exact ⟨least + m, Nat.le_add_right _ _, nofun, walks_add.mpr ⟨k, hleast, hmore⟩⟩
      · intro hlead
        obtain ⟨n, hn, -, hwalk⟩ :=
          (leads_repeated_iff (Nat.le_of_lt_succ hi)).mp hlead
        obtain ⟨m, rfl⟩ := Nat.exists_eq_add_of_le hn
        obtain ⟨k, hleast, hmore⟩ := walks_add.mp hwalk
        -- no match goes back, so more steps than there are places add nothing
        obtain ⟨m', hm', hshort⟩ := hmore.shorten fun _ _ => Leads.le
        have hj := hlead.le_length
        exact ⟨k, hleast, m', by omega, hshort⟩
  | some most =>
      have hbound : least ≤ most := hbounds most rfl
      apply ((he.afterAtMost (most - least)).comp (he.afterExactly least)).congr
      intro i j hi
      rw [leads_repeated_iff (Nat.le_of_lt_succ hi)]
      constructor
      · rintro ⟨k, hleast, m, hm, hmore⟩
        refine ⟨least + m, Nat.le_add_right _ _, ?_, walks_add.mpr ⟨k, hleast, hmore⟩⟩
        intro top htop
        cases htop
        omega
      · rintro ⟨n, hn, hmost, hwalk⟩
        have htop := hmost most rfl
        obtain ⟨m, rfl⟩ := Nat.exists_eq_add_of_le hn
        obtain ⟨k, hleast, hmore⟩ := walks_add.mp hwalk
        exact ⟨k, hleast, m, by omega, hmore⟩

/-- The matcher takes the marks exactly where the expression leads. -/
theorem moves_ends {e : Expr} (he : e.IsOrdered) :
    Moves (text.length + 1) (Leads text e) (e.ends text) := by
  induction e with
  | empty =>
      apply moves_id.congr
      intro i j hi
      exact (leads_empty_iff (Nat.le_of_lt_succ hi)).symm
  | one set => exact moves_one text set
  | look test => exact moves_look text test
  | seq e f ihe ihf =>
      apply ((ihf he.2).comp (ihe he.1)).congr
      intro i j _
      exact leads_seq_iff.symm
  | alt e f ihe ihf =>
      apply ((ihe he.1).union (ihf he.2)).congr
      intro i j _
      exact leads_alt_iff.symm
  | repeated e least most ih => exact moves_repeated text he.2 (ih he.1)
  | capture e ih =>
      apply (ih he).congr
      intro i j _
      exact leads_capture_iff.symm

/-- An expression occurs in a text exactly if it matches some stretch of it. -/
theorem occursIn_iff {e : Expr} (he : e.IsOrdered) : e.occursIn text = true ↔
    ∃ before middle after, text = before ++ middle ++ after ∧
      Spans before middle after e := by
  have hmarked := (moves_ends text he).isMarked
    (List.replicate (text.length + 1) true) List.length_replicate
  rw [Expr.occursIn, Marks.contains_iff]
  simp only [hmarked, Marks.isMarked_replicate]
  constructor
  · rintro ⟨j, i, -, before, middle, after, htext, -, -, hspans⟩
    exact ⟨before, middle, after, htext, hspans⟩
  · rintro ⟨before, middle, after, htext, hspans⟩
    have hlead : Leads text e before.length (before.length + middle.length) :=
      ⟨before, middle, after, htext, rfl, rfl, hspans⟩
    have hle := hlead.le
    have hlength := hlead.le_length
    exact ⟨_, _, by omega, hlead⟩

end Ends

end Stubgen.Regex
