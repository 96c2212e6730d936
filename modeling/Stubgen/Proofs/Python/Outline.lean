import Stubgen.Proofs.Python.Writer
import Stubgen.Proofs.Text.Span
import Mathlib.Tactic

/-!
# Indented lines and blocks

The text of steps that add lines only is a row of ended lines, each at the level
of its step.  Such a text can be read back: a line ends at its line feed, its
blanks give its level, and the lines below a line that are indented deeper are
its body.  What is read is what was written as long as no line holds a line feed
or starts with a blank.
-/

namespace Stubgen.Python

/-! ## Lines -/

structure Line where
  level : ℕ
  text : Text
  deriving DecidableEq

namespace Line

def render (l : Line) : Text := lineAt l.level l.text

end Line

/-- The text of a line can be told from its indentation and from its
neighbours. -/
structure IsLegible (t : Text) : Prop where
  ended : '\n' ∉ t
  flush : Text.Stops (· = ' ') t

theorem IsLegible.append {s t : Text} (hs : IsLegible s) (hne : s ≠ [])
    (ht : '\n' ∉ t) : IsLegible (s ++ t) where
  ended := by
    rw [List.mem_append, not_or]
    exact ⟨hs.ended, ht⟩
  flush := by
    obtain ⟨c, rest, rfl⟩ := List.exists_cons_of_ne_nil hne
    simpa using hs.flush

/-- The lines that a step adds.  Text that is added as it is makes no line. -/
def Step.lines (level : ℕ) : Step → List Line
  | .add _ => []
  | .line t => [⟨level, t⟩]
  | .docstring ts =>
    ⟨level, quotes⟩ :: ts.map (Line.mk level) ++ [⟨level, quotes⟩]
  | .separator => [⟨level, []⟩]
  | .indent => []
  | .dedent => []

def linesFrom (level : ℕ) : List Step → List Line
  | [] => []
  | s :: rest => s.lines level ++ linesFrom (s.levelAfter level) rest

theorem Step.text_eq_flatMap_render {s : Step} (hs : ∀ t, s ≠ .add t)
    (level : ℕ) : s.text level = (s.lines level).flatMap Line.render := by
  cases s with
  | add t => exact absurd rfl (hs t)
  | line t => exact (List.append_nil _).symm
  | docstring ts =>
      simp [Step.text, Step.lines, Line.render, List.flatMap_map]
  | separator => exact (List.append_nil _).symm
  | indent => rfl
  | dedent => rfl

/-- Steps that add lines only write the rendered lines. -/
theorem textFrom_eq_flatMap_render {steps : List Step}
    (hsteps : ∀ s ∈ steps, ∀ t, s ≠ .add t) (level : ℕ) :
    textFrom level steps = (linesFrom level steps).flatMap Line.render := by
  induction steps generalizing level with
  | nil => rfl
  | cons s rest ih =>
      rw [textFrom, linesFrom, List.flatMap_append,
        Step.text_eq_flatMap_render (hsteps s (by simp)),
        ih fun s' hs' => hsteps s' (List.mem_cons_of_mem s hs')]

theorem linesFrom_append (level : ℕ) (first second : List Step) :
    linesFrom level (first ++ second) =
      linesFrom level first ++ linesFrom (levelFrom level first) second := by
  induction first generalizing level with
  | nil => rfl
  | cons s rest ih =>
      rw [List.cons_append, linesFrom, linesFrom, ih, List.append_assoc]
      rfl

theorem linesFrom_flatMap {α : Type} {l : List α} {f : α → List Step}
    (hf : ∀ a ∈ l, IsBlock (f a)) (level : ℕ) :
    linesFrom level (l.flatMap f) = l.flatMap fun a => linesFrom level (f a) := by
  induction l with
  | nil => rfl
  | cons a rest ih =>
      rw [List.flatMap_cons, List.flatMap_cons, linesFrom_append,
        hf a (by simp), ih fun b hb => hf b (List.mem_cons_of_mem a hb)]

/-! ## Reading lines -/

/-- The lines of a text of which every line is ended by a line feed. -/
def endedLines? : Text → Option (List Text)
  | [] => some []
  | '\n' :: rest => (endedLines? rest).map ([] :: ·)
  | c :: rest =>
    match endedLines? rest with
    | some (line :: others) => some ((c :: line) :: others)
    | _ => none

theorem endedLines?_cons {c : Char} (hc : c ≠ '\n') {rest line : Text}
    {others : List Text} (hrest : endedLines? rest = some (line :: others)) :
    endedLines? (c :: rest) = some ((c :: line) :: others) := by
  rw [endedLines?]
  · rw [hrest]
  · exact hc

theorem endedLines?_line_append {line : Text} (hline : '\n' ∉ line) {rest : Text}
    {others : List Text} (hrest : endedLines? rest = some others) :
    endedLines? (line ++ '\n' :: rest) = some (line :: others) := by
  induction line with
  | nil =>
      rw [List.nil_append, endedLines?, hrest]
      rfl
  | cons c line ih =>
      have hc : c ≠ '\n' := by
        rintro rfl
        exact hline (by simp)
      exact endedLines?_cons hc (ih fun hmem => hline (by simp [hmem]))

/-- A line is indented by four blanks for each level. -/
def readLine? (t : Text) : Option Line :=
  let blanks := (t.takeWhile (· = ' ')).length
  if blanks % 4 = 0 then some ⟨blanks / 4, t.dropWhile (· = ' ')⟩ else none

def readLines? (t : Text) : Option (List Line) :=
  (endedLines? t).bind fun ls => ls.mapM readLine?

theorem readLine?_indentation {l : Line} (hl : IsLegible l.text) :
    readLine? (indentation l.level ++ l.text) = some l := by
  have hblanks : ∀ c ∈ indentation l.level, decide (c = ' ') = true := by
    intro c hc
    simpa using List.eq_of_mem_replicate hc
  have hlength : (indentation l.level).length = 4 * l.level := by
    simp [indentation]
  unfold readLine?
  rw [Text.takeWhile_span hblanks hl.flush,
    Text.dropWhile_span hblanks hl.flush, hlength]
  simp

theorem newline_notMem_indentation (level : ℕ) : '\n' ∉ indentation level := by
  intro hmem
  exact absurd (List.eq_of_mem_replicate hmem) (by decide)

theorem endedLines?_flatMap_render {ls : List Line}
    (hls : ∀ l ∈ ls, IsLegible l.text) :
    endedLines? (ls.flatMap Line.render) =
      some (ls.map fun l => indentation l.level ++ l.text) := by
  induction ls with
  | nil => rfl
  | cons l rest ih =>
      have hline : '\n' ∉ indentation l.level ++ l.text := by
        rw [List.mem_append, not_or]
        exact ⟨newline_notMem_indentation l.level, (hls l (by simp)).ended⟩
      have hrest := endedLines?_line_append hline
        (ih fun l' hl' => hls l' (List.mem_cons_of_mem l hl'))
      rw [List.flatMap_cons, List.map_cons, ← hrest, Line.render, lineAt]
      simp

/-- Rendered lines are read back. -/
theorem readLines?_flatMap_render {ls : List Line}
    (hls : ∀ l ∈ ls, IsLegible l.text) :
    readLines? (ls.flatMap Line.render) = some ls := by
  rw [readLines?, endedLines?_flatMap_render hls, Option.bind_some]
  induction ls with
  | nil => rfl
  | cons l rest ih =>
      have hrest := ih fun l' hl' => hls l' (List.mem_cons_of_mem l hl')
      rw [List.map_cons, List.mapM_cons, readLine?_indentation (hls l (by simp)),
        hrest]
      rfl

/-! ## Blocks -/

/-- A line and the lines below it that are indented deeper. -/
structure Block where
  head : Text
  body : List Text := []
  deriving DecidableEq

namespace Block

/-- The lines of a block that stands at a level. -/
def lines (level : ℕ) (b : Block) : List Line :=
  ⟨level, b.head⟩ :: b.body.map (Line.mk (level + 1))

end Block

/-- The lines ahead of the first block at a level, and the blocks at that
level. -/
def grouped (level : ℕ) : List Line → List Text × List Block
  | [] => ([], [])
  | l :: rest =>
    let (deeper, others) := grouped level rest
    if level < l.level then (l.text :: deeper, others)
    else ([], ⟨l.text, deeper⟩ :: others)

theorem grouped_body_append (level : ℕ) (body : List Text) (rest : List Line) :
    grouped level (body.map (Line.mk (level + 1)) ++ rest) =
      (body ++ (grouped level rest).1, (grouped level rest).2) := by
  induction body with
  | nil => rfl
  | cons t body ih =>
      rw [List.map_cons, List.cons_append, grouped, ih]
      simp

/-- Blocks are read back. -/
theorem grouped_flatMap_lines (level : ℕ) (blocks : List Block) :
    grouped level (blocks.flatMap (Block.lines level)) = ([], blocks) := by
  induction blocks with
  | nil => rfl
  | cons b rest ih =>
      rw [List.flatMap_cons, Block.lines, List.cons_append, grouped,
        grouped_body_append, ih]
      simp

/-! ## Layout -/

/-- Whether a line opens a block. -/
def opensBlock (t : Text) : Bool :=
  "class ".toList.isPrefixOf t || "def ".toList.isPrefixOf t

/-- Behind a line that opens a block, and only there, a line is indented deeper
than the line before it, by one level, and it is not empty. -/
def Line.MayPrecede (above below : Line) : Prop :=
  if opensBlock above.text = true then
    below.level = above.level + 1 ∧ below.text ≠ []
  else below.level ≤ above.level

/-- The first line is the header of a class, the lines below it are indented once
or twice, and every line that opens a block has a body. -/
structure IsIndented (ls : List Line) : Prop where
  header : ∃ l ∈ ls.head?, l.level = 0 ∧ "class ".toList <+: l.text
  levels : ∀ l ∈ ls.tail, l.level = 1 ∨ l.level = 2
  steps : ls.IsChain Line.MayPrecede
  closed : ∀ l ∈ ls.getLast?, opensBlock l.text = false

namespace Block

/-- The block has a body exactly if its head opens one, and the body opens none
in turn. -/
structure IsClosed (b : Block) : Prop where
  opens : opensBlock b.head = true → ∃ t ∈ b.body.head?, t ≠ []
  plain : opensBlock b.head = false → b.body = []
  body : ∀ t ∈ b.body, opensBlock t = false

theorem isChain_body {body : List Text} (hbody : ∀ t ∈ body, opensBlock t = false)
    (level : ℕ) : (body.map (Line.mk level)).IsChain Line.MayPrecede := by
  induction body with
  | nil => exact List.isChain_nil
  | cons t rest ih =>
      rw [List.map_cons, List.isChain_cons]
      refine ⟨?_, ih fun t' ht' => hbody t' (List.mem_cons_of_mem t ht')⟩
      intro below hbelow
      obtain ⟨_, _, rfl⟩ := List.mem_map.mp (List.mem_of_mem_head? hbelow)
      rw [Line.MayPrecede, if_neg (by simp [hbody t (by simp)])]

theorem IsClosed.isChain_lines {b : Block} (hb : b.IsClosed) (level : ℕ) :
    (b.lines level).IsChain Line.MayPrecede := by
  rw [lines, List.isChain_cons]
  refine ⟨?_, isChain_body hb.body (level + 1)⟩
  intro below hbelow
  rw [List.head?_map] at hbelow
  obtain ⟨t, ht, rfl⟩ := Option.map_eq_some_iff.mp hbelow
  unfold Line.MayPrecede
  cases hopens : opensBlock b.head with
  | true =>
      obtain ⟨t', ht', hne⟩ := hb.opens hopens
      cases ht.symm.trans ht'
      exact ⟨rfl, hne⟩
  | false =>
      rw [hb.plain hopens] at ht
      cases ht

theorem IsClosed.of_mem_getLast? {b : Block} (hb : b.IsClosed) {level : ℕ}
    {l : Line} (hl : l ∈ (b.lines level).getLast?) :
    opensBlock l.text = false ∧ level ≤ l.level := by
  cases hbody : b.body with
  | nil =>
      rw [lines, hbody] at hl
      cases hl
      refine ⟨?_, le_rfl⟩
      by_contra hopens
      obtain ⟨t, ht, _⟩ := hb.opens (Bool.eq_true_of_not_eq_false hopens)
      rw [hbody] at ht
      cases ht
  | cons t rest =>
      rw [lines, hbody, List.map_cons, List.getLast?_cons_cons] at hl
      have hmem : l ∈ b.body.map (Line.mk (level + 1)) := by
        rw [hbody]
        exact List.mem_of_getLast? hl
      obtain ⟨t', ht', rfl⟩ := List.mem_map.mp hmem
      exact ⟨hb.body t' ht', Nat.le_succ level⟩

theorem level_of_mem_lines {b : Block} {level : ℕ} {l : Line}
    (hl : l ∈ b.lines level) : l.level = level ∨ l.level = level + 1 := by
  rcases List.mem_cons.mp hl with rfl | hbody
  · exact Or.inl rfl
  · obtain ⟨_, _, rfl⟩ := List.mem_map.mp hbody
    exact Or.inr rfl

/-- Closed blocks stand below each other: the last line of one opens nothing, and
the first line of the next is not indented deeper. -/
theorem isChain_flatMap_lines {blocks : List Block}
    (hblocks : ∀ b ∈ blocks, b.IsClosed) (level : ℕ) :
    (blocks.flatMap (lines level)).IsChain Line.MayPrecede := by
  induction blocks with
  | nil => exact List.isChain_nil
  | cons b rest ih =>
      have hb := hblocks b (by simp)
      have hrest := ih fun b' hb' => hblocks b' (List.mem_cons_of_mem b hb')
      rw [List.flatMap_cons, List.isChain_append]
      refine ⟨hb.isChain_lines level, hrest, ?_⟩
      intro above habove below hbelow
      obtain ⟨hplain, hlevel⟩ := hb.of_mem_getLast? habove
      rw [Line.MayPrecede, if_neg (by simp [hplain])]
      cases rest with
      | nil => cases hbelow
      | cons next others =>
          cases hbelow
          exact hlevel

theorem of_mem_getLast?_flatMap_lines {blocks : List Block}
    (hblocks : ∀ b ∈ blocks, b.IsClosed) {level : ℕ} {l : Line}
    (hl : l ∈ (blocks.flatMap (lines level)).getLast?) :
    opensBlock l.text = false := by
  induction blocks with
  | nil => cases hl
  | cons b rest ih =>
      rw [List.flatMap_cons, List.getLast?_append, Option.mem_def,
        Option.or_eq_some_iff] at hl
      rcases hl with hlast | ⟨_, hlast⟩
      · exact ih (fun b' hb' => hblocks b' (List.mem_cons_of_mem b hb')) hlast
      · exact ((hblocks b (by simp)).of_mem_getLast? hlast).1

end Block

/-- Closed blocks below the header of a class are indented. -/
theorem isIndented_cons {header : Text} (hheader : "class ".toList <+: header)
    {first : Block} (hfirst : first.head ≠ []) {blocks : List Block}
    (hblocks : ∀ b ∈ first :: blocks, b.IsClosed) :
    IsIndented (⟨0, header⟩ :: (first :: blocks).flatMap (Block.lines 1)) := by
  have hopens : opensBlock header = true := by
    rw [opensBlock, List.isPrefixOf_iff_prefix.mpr hheader, Bool.true_or]
  refine ⟨⟨_, rfl, rfl, hheader⟩, ?_, ?_, ?_⟩
  · intro l hl
    obtain ⟨b, _, hb⟩ := List.mem_flatMap.mp hl
    exact Block.level_of_mem_lines hb
  · rw [List.isChain_cons]
    refine ⟨?_, Block.isChain_flatMap_lines hblocks 1⟩
    intro below hbelow
    cases hbelow
    rw [Line.MayPrecede, if_pos hopens]
    exact ⟨rfl, hfirst⟩
  · intro l hl
    exact Block.of_mem_getLast?_flatMap_lines hblocks hl

end Stubgen.Python
