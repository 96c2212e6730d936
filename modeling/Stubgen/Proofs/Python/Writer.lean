import Stubgen.Python.Writer
import Mathlib.Tactic

/-!
# Steps in a row

What steps add from a level on is what their parts add, each from the level at
which the part before it ends.  The steps of a block end at the level at which
they start, so blocks in a row are all written at one level.
-/

namespace Stubgen.Python

/-- The level at which steps end. -/
def levelFrom (level : ℕ) (steps : List Step) : ℕ :=
  steps.foldl Step.levelAfter level

@[simp] theorem levelFrom_append (level : ℕ) (first second : List Step) :
    levelFrom level (first ++ second) =
      levelFrom (levelFrom level first) second :=
  List.foldl_append

theorem textFrom_append (level : ℕ) (first second : List Step) :
    textFrom level (first ++ second) =
      textFrom level first ++ textFrom (levelFrom level first) second := by
  induction first generalizing level with
  | nil => rfl
  | cons s rest ih =>
      rw [List.cons_append, textFrom, textFrom, ih, List.append_assoc]
      rfl

/-- A run adds to the output and moves the level, and both depend on nothing but
the level at which it starts. -/
theorem Writer.run_eq (w : Writer) (steps : List Step) :
    w.run steps =
      ⟨w.output ++ textFrom w.level steps, levelFrom w.level steps⟩ := by
  have hlevel : (w.run steps).level = levelFrom w.level steps := by
    induction steps generalizing w with
    | nil => rfl
    | cons s rest ih => exact ih (w.step s)
  rw [← hlevel, ← Writer.run_output]

/-- The steps end at the level at which they start. -/
def IsBlock (steps : List Step) : Prop :=
  ∀ level, levelFrom level steps = level

theorem isBlock_nil : IsBlock [] := by
  intro level
  rfl

theorem isBlock_flatMap {α : Type} {l : List α} {f : α → List Step}
    (hf : ∀ a ∈ l, IsBlock (f a)) : IsBlock (l.flatMap f) := by
  intro level
  induction l with
  | nil => rfl
  | cons a rest ih =>
      rw [List.flatMap_cons, levelFrom_append, hf a (by simp),
        ih fun b hb => hf b (List.mem_cons_of_mem a hb)]

theorem textFrom_flatMap {α : Type} {l : List α} {f : α → List Step}
    (hf : ∀ a ∈ l, IsBlock (f a)) (level : ℕ) :
    textFrom level (l.flatMap f) = l.flatMap fun a => textFrom level (f a) := by
  induction l with
  | nil => rfl
  | cons a rest ih =>
      have hrest : ∀ b ∈ rest, IsBlock (f b) := by
        intro b hb
        exact hf b (by simp [hb])
      rw [List.flatMap_cons, List.flatMap_cons, textFrom_append,
        hf a (by simp), ih hrest]

end Stubgen.Python
