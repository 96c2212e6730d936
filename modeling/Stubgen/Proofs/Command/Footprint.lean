import Stubgen.CommandLine.Run
import Stubgen.Proofs.Files.Tree

/-!
# What a run leaves behind

A run looks around, reads classes and writes at the end, one file at most.  All
that can fail comes before the file is opened.  So a run that fails has changed
nothing, and one that succeeds has changed nothing but its own file; what the
tools write to their logs is theirs.
-/

namespace Stubgen

open FileTree (Keeps)

/-! ## Actions on a tree -/

section Actions

variable {α β : Type}

/-- An action that only asks, and whose answer has a property. -/
def Asks (x : StateM FileTree α) (p : α → Prop) : Prop :=
  ∀ tree, (x tree).2 = tree ∧ p (x tree).1

theorem asks_pure {p : α → Prop} {a : α} (ha : p a) : Asks (pure a) p :=
  fun _ => ⟨rfl, ha⟩

theorem Asks.bind {x : StateM FileTree α} {f : α → StateM FileTree β}
    {p : α → Prop} {q : β → Prop} (hx : Asks x p)
    (hf : ∀ a, p a → Asks (f a) q) : Asks (x >>= f) q := by
  intro tree
  obtain ⟨hstate, ha⟩ := hx tree
  rw [stateM_bind_apply, hstate]
  exact hf _ ha tree

theorem asks_kind? (path : Text) : Asks (Files.ofTree.kind? path) fun _ => True :=
  fun _ => ⟨rfl, trivial⟩

/-- An action that changes logs only. -/
def OnlyLogs (x : StateM FileTree α) : Prop :=
  ∀ tree, Keeps tree.IsLog tree (x tree).2

theorem onlyLogs_pure (a : α) : OnlyLogs (pure a) :=
  fun tree => Keeps.refl _ tree

/-- The logs of a later tree are logs of the first one. -/
theorem OnlyLogs.bind {x : StateM FileTree α} {f : α → StateM FileTree β}
    (hx : OnlyLogs x) (hf : ∀ a, OnlyLogs (f a)) : OnlyLogs (x >>= f) := by
  intro tree
  rw [stateM_bind_apply]
  have hfirst := hx tree
  exact hfirst.trans ((hf _ _).mono fun _ => hfirst.isLog)

theorem OnlyLogs.mapM {f : α → StateM FileTree β} (hf : ∀ a, OnlyLogs (f a))
    (l : List α) : OnlyLogs (l.mapM f) := by
  induction l with
  | nil => exact onlyLogs_pure []
  | cons a rest ih =>
      rw [List.mapM_cons]
      exact (hf a).bind fun _ => ih.bind fun _ => onlyLogs_pure _

theorem onlyLogs_run (command : List Text) :
    OnlyLogs (Files.ofTree.run command) := by
  intro tree
  rw [run_ofTree]
  cases hrun : tree.run command with
  | error e => exact Keeps.refl _ tree
  | ok outcome => exact FileTree.keeps_of_run hrun

end Actions

/-! ## Reading classes -/

theorem load_ofTree (tree : FileTree) (directory : Text) :
    Settings.load Files.ofTree directory tree =
      (if (tree.kind? (Settings.filePath directory)).isSome = true then
        Settings.ofFile (Settings.filePath directory)
          (readable (tree.read (Settings.filePath directory)))
      else .ok {}, tree) := by
  have hkind : Files.ofTree.kind? (Settings.filePath directory) tree =
      (tree.kind? (Settings.filePath directory), tree) := rfl
  rw [Settings.load, stateM_bind_apply, hkind]
  simp only
  split <;> rfl

theorem asks_load (directory : Text) :
    Asks (Settings.load Files.ofTree directory) fun _ => True := by
  intro tree
  rw [load_ofTree]
  exact ⟨rfl, trivial⟩

theorem asks_homeDefect? (javaHome : Text) :
    Asks (Source.homeDefect? Files.ofTree javaHome) fun _ => True := by
  apply (asks_kind? javaHome).bind
  rintro (_ | _ | _) _
  · exact asks_pure trivial
  · apply (asks_kind? _).bind
    intro kind _
    split <;> exact asks_pure trivial
  · exact asks_pure trivial

variable {tree : FileTree} {directory : Text}

/-- A place that generating stubs may change. -/
def IsOutput (tree : FileTree) (output : Option Text) (at_ : Location) : Prop :=
  ∃ path ∈ output, tree.Opens path at_

end Stubgen
