import Stubgen.Proofs.Python.Recovery

/-!
# Steps at another level

What steps add depends on nothing but the level at which they start.  Started at
a deeper level they write the same lines with more blanks in front, unless a
dedent is lost: the level never falls below zero, so a dedent at level zero moves
the shallow run no further, but still moves the deep one.  Steps that never
dedent at the level at which they start lose no dedent, wherever they start.
-/

namespace Stubgen.Python

/-! ## Blanks in front of lines -/

/-- A text with blanks in front of the lines that start in it.  A line starts
behind a line feed, and at the start of the text if the text is `fresh`. -/
def indentFrom (width : ℕ) : Bool → Text → Text
  | _, [] => []
  | fresh, c :: rest =>
    (if fresh then List.replicate width ' ' else []) ++
      c :: indentFrom width (c = '\n') rest

/-- A text with blanks in front of every line. -/
def indentLines (width : ℕ) (t : Text) : Text := indentFrom width true t

theorem indentFrom_line_append {line : Text} (hline : '\n' ∉ line) (width : ℕ)
    (rest : Text) :
    indentFrom width false (line ++ '\n' :: rest) =
      line ++ '\n' :: indentLines width rest := by
  induction line with
  | nil => rfl
  | cons c line ih =>
      have hc : (decide (c = '\n')) = false := by
        rw [decide_eq_false_iff_not]
        intro heq
        exact hline (by simp [heq])
      rw [List.cons_append, indentFrom, hc,
        ih fun hmem => hline (List.mem_cons_of_mem c hmem)]
      simp

theorem indentLines_line_append {line : Text} (hline : '\n' ∉ line) (width : ℕ)
    (rest : Text) :
    indentLines width (line ++ '\n' :: rest) =
      List.replicate width ' ' ++ line ++ '\n' :: indentLines width rest := by
  cases line with
  | nil => simp [indentLines, indentFrom]
  | cons c line =>
      have hfresh : ∀ t, indentFrom width true (c :: t) =
          List.replicate width ' ' ++ indentFrom width false (c :: t) := by
        intro t
        simp [indentFrom]
      rw [indentLines, List.cons_append, hfresh, ← List.cons_append,
        indentFrom_line_append hline, List.append_assoc]

example : indentLines 2 "a\n\n b".toList = "  a\n  \n   b".toList := by
  decide

/-! ## Lines at a deeper level -/

namespace Line

def deeper (k : ℕ) (l : Line) : Line := ⟨l.level + k, l.text⟩

end Line

theorem indentation_add (level k : ℕ) :
    indentation (level + k) =
      List.replicate (4 * k) ' ' ++ indentation level := by
  unfold indentation
  rw [← List.replicate_add, ← Nat.mul_add, Nat.add_comm k level]

/-- Lines that stand deeper are rendered with more blanks in front. -/
theorem indentLines_flatMap_render {ls : List Line}
    (hls : ∀ l ∈ ls, '\n' ∉ l.text) (k : ℕ) :
    indentLines (4 * k) (ls.flatMap Line.render) =
      (ls.map (Line.deeper k)).flatMap Line.render := by
  induction ls with
  | nil => rfl
  | cons l rest ih =>
      have hline : '\n' ∉ indentation l.level ++ l.text := by
        rw [List.mem_append, not_or]
        exact ⟨newline_notMem_indentation l.level, hls l (by simp)⟩
      have hrest := ih fun l' hl' => hls l' (List.mem_cons_of_mem l hl')
      have hsplit : (l :: rest).flatMap Line.render =
          (indentation l.level ++ l.text) ++
            '\n' :: rest.flatMap Line.render := by
        simp [Line.render, lineAt]
      rw [hsplit, indentLines_line_append hline, hrest]
      simp [Line.render, Line.deeper, lineAt, indentation_add]

/-! ## Lost dedents -/

/-- Started at a level, the steps never dedent where the level is `floor`. -/
def NeverDedentsAt (floor level : ℕ) (steps : List Step) : Prop :=
  ∀ before after, steps = before ++ .dedent :: after →
    levelFrom level before ≠ floor

theorem neverDedentsAt_nil (floor level : ℕ) : NeverDedentsAt floor level [] := by
  intro before after hsteps
  simp at hsteps

theorem neverDedentsAt_cons {floor level : ℕ} {s : Step} {rest : List Step} :
    NeverDedentsAt floor level (s :: rest) ↔
      (s = .dedent → level ≠ floor) ∧
        NeverDedentsAt floor (s.levelAfter level) rest := by
  constructor
  · intro h
    constructor
    · intro hs
      exact h [] rest (by rw [hs, List.nil_append])
    · intro before after hrest
      exact h (s :: before) after (by rw [hrest, List.cons_append])
  · intro h before after hsteps
    cases before with
    | nil =>
        cases hsteps
        exact h.1 rfl
    | cons first before =>
        cases hsteps
        exact h.2 before after rfl

instance decidableNeverDedentsAt (floor : ℕ) :
    (level : ℕ) → (steps : List Step) →
      Decidable (NeverDedentsAt floor level steps)
  | level, [] => .isTrue (neverDedentsAt_nil floor level)
  | level, s :: rest =>
    have := decidableNeverDedentsAt floor (s.levelAfter level) rest
    decidable_of_iff _ neverDedentsAt_cons.symm

theorem neverDedentsAt_append {floor level : ℕ} {first second : List Step} :
    NeverDedentsAt floor level (first ++ second) ↔
      NeverDedentsAt floor level first ∧
        NeverDedentsAt floor (levelFrom level first) second := by
  induction first generalizing level with
  | nil => simp [neverDedentsAt_nil, levelFrom]
  | cons s rest ih =>
      rw [List.cons_append, neverDedentsAt_cons, neverDedentsAt_cons, ih,
        and_assoc]
      rfl

namespace Step

/-- The step adds whole lines: no text as it is, and no text with a line feed. -/
def AddsLines : Step → Prop
  | add _ => False
  | line t => '\n' ∉ t
  | docstring ts => ∀ t ∈ ts, '\n' ∉ t
  | _ => True

instance : DecidablePred AddsLines
  | add _ => inferInstanceAs (Decidable False)
  | line t => inferInstanceAs (Decidable ('\n' ∉ t))
  | docstring ts => inferInstanceAs (Decidable (∀ t ∈ ts, '\n' ∉ t))
  | separator => inferInstanceAs (Decidable True)
  | indent => inferInstanceAs (Decidable True)
  | dedent => inferInstanceAs (Decidable True)

theorem AddsLines.newline_notMem {s : Step} (hs : s.AddsLines) {level : ℕ}
    {l : Line} (hl : l ∈ s.lines level) : '\n' ∉ l.text := by
  have hquotes : '\n' ∉ quotes := by decide
  cases s with
  | add t => exact hs.elim
  | line t =>
      rw [List.mem_singleton.mp hl]
      exact hs
  | docstring ts =>
      simp only [lines, List.cons_append, List.mem_cons, List.mem_append,
        List.mem_map, List.not_mem_nil, or_false] at hl
      rcases hl with rfl | ⟨t, ht, rfl⟩ | rfl
      · exact hquotes
      · exact hs t ht
      · exact hquotes
  | separator =>
      rw [List.mem_singleton.mp hl]
      exact List.not_mem_nil
  | indent => cases hl
  | dedent => cases hl

variable {s : Step} {floor level : ℕ}

theorem le_levelAfter (hle : floor ≤ level) (hs : s = .dedent → level ≠ floor) :
    floor ≤ s.levelAfter level := by
  cases s with
  | dedent =>
      have hne := hs rfl
      simp only [levelAfter]
      omega
  | indent => exact Nat.le_succ_of_le hle
  | add t => exact hle
  | line t => exact hle
  | docstring ts => exact hle
  | separator => exact hle

/-- A step that is no lost dedent moves every level alike. -/
theorem levelAfter_add (hle : floor ≤ level)
    (hs : s = .dedent → level ≠ floor) (k : ℕ) :
    s.levelAfter (level + k) = s.levelAfter level + k := by
  cases s with
  | dedent =>
      have hne := hs rfl
      simp only [levelAfter]
      omega
  | indent => exact Nat.add_right_comm level k 1
  | add t => rfl
  | line t => rfl
  | docstring ts => rfl
  | separator => rfl

theorem lines_add (s : Step) (level k : ℕ) :
    s.lines (level + k) = (s.lines level).map (Line.deeper k) := by
  cases s with
  | docstring ts => simp [lines, Line.deeper, Function.comp_def]
  | add t => rfl
  | line t => rfl
  | separator => rfl
  | indent => rfl
  | dedent => rfl

end Step

theorem newline_notMem_of_mem_linesFrom {steps : List Step}
    (hsteps : ∀ s ∈ steps, s.AddsLines) {level : ℕ} {l : Line}
    (hl : l ∈ linesFrom level steps) : '\n' ∉ l.text := by
  induction steps generalizing level with
  | nil => cases hl
  | cons s rest ih =>
      rcases List.mem_append.mp hl with hfirst | hrest
      · exact (hsteps s (by simp)).newline_notMem hfirst
      · exact ih (fun s' hs' => hsteps s' (List.mem_cons_of_mem s hs')) hrest

/-! ## Runs at a deeper level -/

section Deeper

variable {floor level : ℕ} {steps : List Step}

/-- Above the floor no dedent is lost, so the two runs stay equally far apart. -/
theorem levelFrom_add (hle : floor ≤ level)
    (hsteps : NeverDedentsAt floor level steps) (k : ℕ) :
    levelFrom (level + k) steps = levelFrom level steps + k := by
  induction steps generalizing level with
  | nil => rfl
  | cons s rest ih =>
      obtain ⟨hs, hrest⟩ := neverDedentsAt_cons.mp hsteps
      calc levelFrom (level + k) (s :: rest)
          = levelFrom (s.levelAfter (level + k)) rest := rfl
        _ = levelFrom (s.levelAfter level + k) rest := by
            rw [Step.levelAfter_add hle hs]
        _ = levelFrom (s.levelAfter level) rest + k :=
            ih (Step.le_levelAfter hle hs) hrest

theorem linesFrom_add (hle : floor ≤ level)
    (hsteps : NeverDedentsAt floor level steps) (k : ℕ) :
    linesFrom (level + k) steps =
      (linesFrom level steps).map (Line.deeper k) := by
  induction steps generalizing level with
  | nil => rfl
  | cons s rest ih =>
      obtain ⟨hs, hrest⟩ := neverDedentsAt_cons.mp hsteps
      rw [linesFrom, linesFrom, Step.lines_add, Step.levelAfter_add hle hs,
        ih (Step.le_levelAfter hle hs) hrest, List.map_append]

theorem textFrom_add (hle : floor ≤ level)
    (hsteps : NeverDedentsAt floor level steps)
    (hadd : ∀ s ∈ steps, ∀ t, s ≠ .add t)
    (hlines : ∀ l ∈ linesFrom level steps, '\n' ∉ l.text) (k : ℕ) :
    textFrom (level + k) steps =
      indentLines (4 * k) (textFrom level steps) := by
  rw [textFrom_eq_flatMap_render hadd, textFrom_eq_flatMap_render hadd,
    linesFrom_add hle hsteps, indentLines_flatMap_render hlines]

theorem neverDedentsAt_add_iff (hle : floor ≤ level) (k : ℕ) :
    NeverDedentsAt (floor + k) (level + k) steps ↔
      NeverDedentsAt floor level steps := by
  induction steps generalizing level with
  | nil => simp [neverDedentsAt_nil]
  | cons s rest ih =>
      rw [neverDedentsAt_cons, neverDedentsAt_cons, Ne, Nat.add_right_cancel_iff]
      apply and_congr_right
      intro hs
      rw [Step.levelAfter_add hle hs, ih (Step.le_levelAfter hle hs)]

/-- Whether steps dedent at the level at which they start is a matter of the
steps alone. -/
theorem neverDedentsAt_start_iff (n m : ℕ) :
    NeverDedentsAt n n steps ↔ NeverDedentsAt m m steps := by
  have hzero : ∀ k, NeverDedentsAt k k steps ↔ NeverDedentsAt 0 0 steps := by
    intro k
    have hshift := @neverDedentsAt_add_iff 0 0 steps le_rfl k
    rwa [Nat.zero_add] at hshift
  rw [hzero n, hzero m]

theorem levelFrom_add_le (steps : List Step) (level k : ℕ) :
    levelFrom (level + k) steps ≤ levelFrom level steps + k := by
  induction steps generalizing level k with
  | nil => exact le_rfl
  | cons s rest ih =>
      change levelFrom (s.levelAfter (level + k)) rest ≤
        levelFrom (s.levelAfter level) rest + k
      by_cases hs : s = .dedent → level ≠ 0
      · rw [Step.levelAfter_add (Nat.zero_le level) hs]
        exact ih (s.levelAfter level) k
      · -- The lost dedent brings the two runs nearer to each other.
        obtain ⟨rfl, hlevel⟩ := Classical.not_imp.mp hs
        have hlost : Step.levelAfter (level + k) .dedent =
            Step.levelAfter level .dedent + (k - 1) := by
          simp only [Step.levelAfter]
          omega
        have hrest := ih (Step.levelAfter level .dedent) (k - 1)
        rw [hlost]
        omega

/-- The two runs stay equally far apart exactly if no dedent is lost. -/
theorem levelFrom_add_eq_iff {k : ℕ} (hk : 0 < k) :
    levelFrom (level + k) steps = levelFrom level steps + k ↔
      NeverDedentsAt 0 level steps := by
  constructor
  · intro hlevel before after hsteps hlost
    have hbefore := levelFrom_add_le before level k
    have hafter := levelFrom_add_le after 0 (levelFrom (level + k) before - 1)
    rw [hsteps, levelFrom_append, levelFrom_append, hlost] at hlevel
    change levelFrom (levelFrom (level + k) before - 1) after =
      levelFrom 0 after + k at hlevel
    rw [Nat.zero_add] at hafter
    omega
  · intro hsteps
    exact levelFrom_add (Nat.zero_le level) hsteps k

end Deeper

/-! ## Classes at a deeper level -/

theorem neverDedentsAt_functionSteps {floor level : ℕ} (hle : floor ≤ level)
    (head doc body : Text) :
    NeverDedentsAt floor level (functionSteps head doc body) := by
  have hne : level + 1 ≠ floor := by omega
  simp [functionSteps, neverDedentsAt_cons, neverDedentsAt_nil, Step.levelAfter,
    hne]

theorem neverDedentsAt_propertySteps {floor level : ℕ} (hle : floor ≤ level)
    (a : Accessors) : NeverDedentsAt floor level (propertySteps a) := by
  unfold propertySteps
  rw [neverDedentsAt_append, neverDedentsAt_cons, neverDedentsAt_cons]
  refine ⟨⟨Step.noConfusion, neverDedentsAt_functionSteps hle _ _ _⟩,
    Step.noConfusion, ?_⟩
  change NeverDedentsAt floor (levelFrom level (functionSteps _ _ _)) _
  rw [isBlock_functionSteps]
  exact neverDedentsAt_functionSteps hle _ _ _

theorem neverDedentsAt_flatMap {α : Type} {l : List α} {f : α → List Step}
    {floor level : ℕ} (hblock : ∀ a ∈ l, IsBlock (f a))
    (hf : ∀ a ∈ l, NeverDedentsAt floor level (f a)) :
    NeverDedentsAt floor level (l.flatMap f) := by
  induction l with
  | nil => exact neverDedentsAt_nil floor level
  | cons a rest ih =>
      rw [List.flatMap_cons, neverDedentsAt_append, hblock a (by simp)]
      exact ⟨hf a (by simp), ih
        (fun b hb => hblock b (List.mem_cons_of_mem a hb))
        (fun b hb => hf b (List.mem_cons_of_mem a hb))⟩

/-- A class is written without a dedent that could be lost. -/
theorem neverDedentsAt_classSteps (options : Options) (c : Class)
    (accessors : List Accessors) :
    NeverDedentsAt 0 0 (classSteps options c accessors) := by
  have hhead : NeverDedentsAt 0 0 (headSteps options c) := by
    simp [headSteps, neverDedentsAt_cons, neverDedentsAt_nil, Step.levelAfter]
  simp only [classSteps_eq_append, neverDedentsAt_append, levelFrom_append,
    levelFrom_headSteps, isBlock_flatMap_methodSteps _ 1,
    isBlock_flatMap_propertySteps _ 1]
  refine ⟨⟨⟨hhead, ?_⟩, ?_⟩, ?_⟩
  · apply neverDedentsAt_flatMap
    · exact fun m _ => isBlock_functionSteps _ _ _
    · exact fun m _ => neverDedentsAt_functionSteps (Nat.zero_le _) _ _ _
  · apply neverDedentsAt_flatMap
    · exact fun a _ => isBlock_propertySteps a
    · exact fun a _ => neverDedentsAt_propertySteps (Nat.zero_le _) a
  · rw [neverDedentsAt_cons]
    exact ⟨fun _ => Nat.one_ne_zero, neverDedentsAt_nil _ _⟩

/-- The stub of a class may be written behind any text and at any level. -/
theorem run_classSteps_of_parse {skips : Text → Bool} {classname text : Text}
    {c : Class} (hparse : Listing.parse skips classname text = .ok c)
    (hname : '\n' ∉ classname) {options : Options}
    (hpath : ∀ path ∈ options.classpath, '\n' ∉ path) :
    ∃ accessors stub, c.allAccessors? = some accessors ∧
      classStub? options c = some stub ∧
      ∀ w : Writer, w.run (classSteps options c accessors) =
        ⟨w.output ++ indentLines (4 * w.level) stub, w.level⟩ := by
  obtain ⟨accessors, haccessors⟩ :=
    exists_allAccessors? (Listing.isCoherent_of_parse hparse)
  have hwritable := isWritable_of_parse hparse hname hpath haccessors
  have hnever := neverDedentsAt_classSteps options c accessors
  refine ⟨accessors, _, haccessors, classStub?_eq_some haccessors, ?_⟩
  intro w
  have htext := textFrom_add le_rfl hnever
    (fun s hs => ne_add_of_mem_classSteps hs)
    (fun l hl => (isLegible_of_mem_classLines hwritable hl).ended) w.level
  have hlevel := levelFrom_add le_rfl hnever w.level
  rw [Nat.zero_add] at htext hlevel
  rw [Writer.run_eq, htext, hlevel, levelFrom_classSteps, Nat.zero_add]

/-! ## The laws of a run -/

/-- What steps write: they add to any output the same text, the parts of a run
write one after the other, a dedent at level zero is lost, runs stay equally far
apart exactly if none is lost, and steps that do not dedent at the level at which
they start write the same lines at every level. -/
structure IsRelocatable (steps : List Step) : Prop where
  adds : ∀ w : Writer, w.run steps =
    ⟨w.output ++ textFrom w.level steps, levelFrom w.level steps⟩
  parts : ∀ first second, steps = first ++ second → ∀ level,
    textFrom level steps =
        textFrom level first ++ textFrom (levelFrom level first) second ∧
      levelFrom level steps = levelFrom (levelFrom level first) second
  lost : ∀ before after, steps = before ++ .dedent :: after →
    ∀ level, levelFrom level before = 0 →
      textFrom level steps = textFrom level (before ++ after) ∧
        levelFrom level steps = levelFrom level (before ++ after)
  apart : ∀ level k, 0 < k →
    (levelFrom (level + k) steps = levelFrom level steps + k ↔
      NeverDedentsAt 0 level steps)
  deeper : (∀ s ∈ steps, s.AddsLines) →
    ∀ start, NeverDedentsAt start start steps → ∀ n k,
      textFrom (n + k) steps = indentLines (4 * k) (textFrom n steps) ∧
        levelFrom (n + k) steps = levelFrom n steps + k

theorem isRelocatable (steps : List Step) : IsRelocatable steps where
  adds := fun w => w.run_eq steps
  parts := by
    intro first second hsteps level
    rw [hsteps]
    exact ⟨textFrom_append level first second,
      levelFrom_append level first second⟩
  lost := by
    intro before after hsteps level hlevel
    rw [hsteps, textFrom_append, textFrom_append, levelFrom_append,
      levelFrom_append, hlevel]
    exact ⟨rfl, rfl⟩
  apart := fun level k hk => levelFrom_add_eq_iff hk
  deeper := by
    intro hlines start hstart n k
    have hn := (neverDedentsAt_start_iff start n).mp hstart
    have hadd : ∀ s ∈ steps, ∀ t, s ≠ .add t := by
      intro s hs t hst
      rw [hst] at hs
      exact hlines (.add t) hs
    constructor
    · apply textFrom_add le_rfl hn hadd
      exact fun l hl => newline_notMem_of_mem_linesFrom hlines hl
    · exact levelFrom_add le_rfl hn k

/-- Steps that come back to the level at which they start, with a text that ends
in a carriage return. -/
def drawerSteps : List Step :=
  [.line "a:".toList, .indent, .docstring ["b\r".toList], .separator, .dedent,
    .line "c".toList, .indent]

theorem drawerSteps_deeper :
    (∀ s ∈ drawerSteps, s.AddsLines) ∧ NeverDedentsAt 1 1 drawerSteps ∧
      textFrom 1 drawerSteps =
        ("    a:\n        \"\"\"\n        b\r\n        \"\"\"\n" ++
          "        \n    c\n").toList ∧
      textFrom 3 drawerSteps = indentLines 8 (textFrom 1 drawerSteps) ∧
      levelFrom 3 drawerSteps = levelFrom 1 drawerSteps + 2 := by
  have hlines : ∀ s ∈ drawerSteps, s.AddsLines := by decide
  have hnever : NeverDedentsAt 1 1 drawerSteps := by decide
  exact ⟨hlines, hnever, by decide,
    (isRelocatable drawerSteps).deeper hlines 1 hnever 1 2⟩

end Stubgen.Python
