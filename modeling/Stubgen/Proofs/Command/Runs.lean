import Stubgen.Proofs.Command.Footprint

/-!
# Runs of the program

A command line that is refused does nothing.  A command that fails has changed no
file, and one that succeeds has changed its own file only.  Generating stubs fails
for want of settings, of a source or of an output, and for no class.  Where a
request does not resolve, no class is asked for: the run is the same on a system
that answers other commands and holds other listings.
-/

namespace Stubgen

open FileTree (Keeps)

/-! ## Requests that do not resolve -/

/-- A system that finds the settings file of a directory, a Java home and its
disassembler as a tree does, and reads the settings.  Whatever else it is asked
to do, it may do as it likes. -/
structure LooksUpLike (files : Files (StateM FileTree)) (directory : Text)
    (javaHome : Option Text) (tree : FileTree) : Prop where
  kind : files.kind? (Settings.filePath directory) tree =
    (tree.kind? (Settings.filePath directory), tree)
  read : files.read (Settings.filePath directory) tree =
    (tree.read (Settings.filePath directory), tree)
  home : ∀ home ∈ javaHome, files.kind? home tree = (tree.kind? home, tree)
  tool : ∀ home ∈ javaHome, files.kind? (Source.toolPath home) tree =
    (tree.kind? (Source.toolPath home), tree)

namespace LooksUpLike

variable {files : Files (StateM FileTree)} {directory : Text}
  {javaHome : Option Text} {tree : FileTree}

theorem load (h : LooksUpLike files directory javaHome tree) :
    Settings.load files directory tree =
      Settings.load Files.ofTree directory tree := by
  have htext : files.readText (Settings.filePath directory) tree =
      Files.ofTree.readText (Settings.filePath directory) tree := by
    rw [Files.readText, Files.readText, stateM_bind_apply, stateM_bind_apply,
      h.read]
    rfl
  have hkind : Files.ofTree.kind? (Settings.filePath directory) tree =
      (tree.kind? (Settings.filePath directory), tree) := rfl
  rw [Settings.load, Settings.load, stateM_bind_apply, stateM_bind_apply, h.kind,
    hkind]
  simp only
  split
  next => rw [stateM_bind_apply, stateM_bind_apply, htext]
  next => rfl

theorem homeDefect? (h : LooksUpLike files directory javaHome tree) {home : Text}
    (hhome : home ∈ javaHome) : Source.homeDefect? files home tree =
      Source.homeDefect? Files.ofTree home tree := by
  have hkind : ∀ path, Files.ofTree.kind? path tree = (tree.kind? path, tree) :=
    fun _ => rfl
  rw [Source.homeDefect?, Source.homeDefect?, stateM_bind_apply,
    stateM_bind_apply, h.home home hhome, hkind]
  cases tree.kind? home with
  | none => rfl
  | some kind =>
      cases kind with
      | file => rfl
      | directory =>
          simp only
          rw [stateM_bind_apply, stateM_bind_apply, h.tool home hhome, hkind]

/-- A source that is not found in the tree is not found at all, and one that is
found is. -/
theorem resolveSource {r : Request}
    (h : LooksUpLike files directory r.javaHome tree) :
    (∃ fault, r.resolveSource Files.ofTree tree = (.error fault, tree) ∧
        r.resolveSource files tree = (.error fault, tree)) ∨
      ∃ source source', r.resolveSource Files.ofTree tree = (.ok source, tree) ∧
        r.resolveSource files tree = (.ok source', tree) := by
  unfold Request.resolveSource
  cases r.savedIn with
  | some saved => exact Or.inr ⟨_, _, rfl, rfl⟩
  | none =>
      cases hhome : r.javaHome with
      | none => exact Or.inl ⟨_, rfl, rfl⟩
      | some home =>
          simp only
          rw [stateM_bind_apply, stateM_bind_apply, h.homeDefect? hhome,
            (asks_homeDefect? home tree).1]
          cases (Source.homeDefect? Files.ofTree home tree).1 with
          | none => exact Or.inr ⟨_, _, rfl, rfl⟩
          | some reason => exact Or.inl ⟨_, rfl, rfl⟩

theorem resolve {r : Request} {s : Settings}
    (h : LooksUpLike files directory (r.withSettings s).javaHome tree)
    {fault : RunFault}
    (hfault : (r.resolve s Files.ofTree tree).1 = .error fault) :
    r.resolve s files tree = (.error fault, tree) := by
  unfold Request.resolve Request.resolveAlone at hfault ⊢
  split at hfault
  next hempty =>
    cases hfault
    rw [if_pos hempty]
    rfl
  next hempty =>
    rw [if_neg hempty]
    cases hskips : Request.skipsOf (r.withSettings s).skip with
    | error skipFault =>
        rw [hskips] at hfault
        cases hfault
        rfl
    | ok skips =>
        rw [hskips] at hfault
        simp only at hfault ⊢
        rw [stateM_bind_apply] at hfault ⊢
        rcases h.resolveSource with
          ⟨sourceFault, htree, hfiles⟩ | ⟨source, source', htree, hfiles⟩
        · rw [htree] at hfault
          rw [hfiles]
          cases hfault
          rfl
        · rw [htree] at hfault
          rw [hfiles]
          cases hpath : (r.withSettings s).resolveClassPath with
          | error pathFault =>
              simp only [hpath] at hfault ⊢
              cases hfault
              rfl
          | ok classpath =>
              simp only [hpath] at hfault
              cases hfault

end LooksUpLike

/-- The request of a command that reads classes. -/
def Command.request? : Command → Option Request
  | init _ _ => none
  | generate r _ _ _ => some r
  | inspect r _ => some r

theorem LooksUpLike.run {files : Files (StateM FileTree)} {directory : Text}
    {tree : FileTree} {command : Command} {r : Request}
    (hrequest : command.request? = some r) {s : Settings}
    (h : LooksUpLike files directory (r.withSettings s).javaHome tree)
    (hload : (Settings.load Files.ofTree directory tree).1 = .ok s)
    {fault : RunFault} (hfault : (r.resolve s Files.ofTree tree).1 = .error fault) :
    command.run files directory tree = (.failure [] (.run fault), tree) := by
  have hgather : Command.gather files directory r tree =
      (.error (.run fault), tree) := by
    rw [Command.gather, stateM_bind_apply, h.load,
      (asks_load directory tree).1, hload]
    simp only
    rw [stateM_bind_apply, h.resolve hfault]
    rfl
  cases command with
  | init settings force => cases hrequest
  | generate r' profile output append =>
      cases hrequest
      change Command.runGenerate files directory r profile output append tree = _
      rw [Command.runGenerate, stateM_bind_apply, hgather]
      rfl
  | inspect r' format =>
      cases hrequest
      change Command.runInspect files directory r format tree = _
      rw [Command.runInspect, stateM_bind_apply, hgather]
      rfl

end Stubgen
