import Stubgen.Files.Tree
import Stubgen.Proofs.Outcome
import Mathlib.Tactic

/-!
# What changes in a file tree

The operations of a tree make no directories and remove nothing.  So a path leads
to the same place after any of them, a file that could be opened before can be
opened after, and what an operation changes can be named in advance: the file
that it writes, and the logs of the tools.
-/

namespace Stubgen.FileTree

/-! ## Entries -/

theorem lookup_filter_ne {at_ other : Location} (hne : other ≠ at_)
    (entries : List (Location × Entry)) :
    (entries.filter fun entry => entry.1 ≠ at_).lookup other =
      entries.lookup other := by
  induction entries with
  | nil => rfl
  | cons entry rest ih =>
      by_cases hentry : entry.1 = at_
      · have hother : (other == entry.1) = false := by
          rw [hentry, beq_eq_false_iff_ne]
          exact hne
        rw [List.filter_cons_of_neg (by simpa using hentry), ih,
          List.lookup_cons, hother]
      · rw [List.filter_cons_of_pos (by simpa using hentry), List.lookup_cons,
          List.lookup_cons, ih]

theorem entry?_insert_self {at_ : Location} (hat : at_ ≠ []) (tree : FileTree)
    (e : Entry) : FileTree.entry? (tree.insert at_ e) at_ = some e := by
  unfold FileTree.entry?
  rw [if_neg (by simpa using hat), insert, List.lookup_cons_self]

theorem entry?_insert_of_ne {at_ other : Location} (hne : other ≠ at_)
    (tree : FileTree) (e : Entry) :
    FileTree.entry? (tree.insert at_ e) other = tree.entry? other := by
  have hbeq : (other == at_) = false := beq_eq_false_iff_ne.mpr hne
  unfold FileTree.entry?
  rw [insert, List.lookup_cons, hbeq]
  simp only
  rw [lookup_filter_ne hne]

theorem entry?_nil (tree : FileTree) : tree.entry? [] = some .directory := rfl

/-! ## Places -/

/-- Two trees have the same directories. -/
structure SameDirectories (before after : FileTree) : Prop where
  root : after.root = before.root
  directory : ∀ at_, after.entry? at_ = some .directory ↔
    before.entry? at_ = some .directory

theorem SameDirectories.refl (tree : FileTree) : SameDirectories tree tree :=
  ⟨rfl, fun _ => Iff.rfl⟩

theorem SameDirectories.symm {before after : FileTree}
    (h : SameDirectories before after) : SameDirectories after before :=
  ⟨h.root.symm, fun at_ => (h.directory at_).symm⟩

theorem SameDirectories.trans {first second third : FileTree}
    (h : SameDirectories first second) (h' : SameDirectories second third) :
    SameDirectories first third :=
  ⟨h'.root.trans h.root, fun at_ => (h'.directory at_).trans (h.directory at_)⟩

/-- A walk that succeeds passes through directories only. -/
theorem SameDirectories.walk {before after : FileTree}
    (h : SameDirectories before after) {components : List Text}
    {start at_ : Location} (hwalk : before.walk start components = .ok at_) :
    after.walk start components = .ok at_ := by
  induction components generalizing start with
  | nil => exact hwalk
  | cons c rest ih =>
      rw [FileTree.walk] at hwalk ⊢
      split at hwalk
      next => cases hwalk
      next hentry =>
        rw [(h.directory start).mpr hentry]
        simp only
        split_ifs at hwalk ⊢
        · exact ih hwalk
        · exact ih hwalk
        · exact ih hwalk
      next => cases hwalk

theorem SameDirectories.locate {before after : FileTree}
    (h : SameDirectories before after) {path : Text} {at_ : Location}
    (hlocate : before.locate path = .ok at_) : after.locate path = .ok at_ := by
  have hbelow : ∀ p, after.below? p = before.below? p := by
    intro p
    rw [below?, below?, h.root]
  unfold FileTree.locate at hlocate ⊢
  rw [hbelow]
  split_ifs at hlocate ⊢
  split at hlocate
  next => cases hlocate
  next => exact h.walk hlocate

theorem find_eq_ok_iff {tree : FileTree} {path : Text} {e : Entry} :
    tree.find path = .ok e ↔
      ∃ at_, tree.locate path = .ok at_ ∧ tree.entry? at_ = some e := by
  rw [find, except_bind_eq_ok_iff]
  refine exists_congr fun at_ => and_congr_right fun _ => ?_
  cases tree.entry? at_ with
  | none =>
      constructor <;> intro h <;> cases h
  | some e' =>
      change Except.ok e' = .ok e ↔ _
      simp

theorem exists_find_of_kind? {tree : FileTree} {path : Text} {kind : FileKind}
    (h : tree.kind? path = some kind) : ∃ e, tree.find path = .ok e := by
  unfold kind? at h
  cases hfind : tree.find path with
  | ok e => exact ⟨e, rfl⟩
  | error _ =>
      rw [hfind] at h
      cases h

/-! ## Opening files -/

theorem openFile_eq_ok_iff {tree : FileTree} {path : Text} {at_ : Location}
    {contents : Bytes} :
    tree.openFile path = .ok (at_, contents) ↔ Path.endsInSlash path = false ∧
      tree.locate path = .ok at_ ∧ tree.entry? at_ ≠ some .directory ∧
      contents = (tree.contents? at_).getD [] := by
  unfold openFile
  cases hslash : Path.endsInSlash path with
  | true =>
      rw [if_pos rfl, except_bind_eq_ok_iff]
      simp
  | false =>
      rw [if_neg Bool.false_ne_true, except_bind_eq_ok_iff]
      constructor
      · rintro ⟨place, hlocate, hopen⟩
        split at hopen
        next => cases hopen
        all_goals
          next hentry =>
            cases hopen
            exact ⟨rfl, hlocate, by simp [hentry], by simp [contents?, hentry]⟩
      · rintro ⟨_, hlocate, hentry, rfl⟩
        refine ⟨at_, hlocate, ?_⟩
        unfold contents?
        split
        next hdirectory => exact absurd hdirectory hentry
        all_goals
          next hplace => rw [hplace]; rfl

/-- A file can be opened for writing at a path, and it has a place. -/
def Opens (tree : FileTree) (path : Text) (at_ : Location) : Prop :=
  ∃ contents, tree.openFile path = .ok (at_, contents)

theorem opens_iff {tree : FileTree} {path : Text} {at_ : Location} :
    tree.Opens path at_ ↔ Path.endsInSlash path = false ∧
      tree.locate path = .ok at_ ∧ tree.entry? at_ ≠ some .directory := by
  unfold Opens
  simp only [openFile_eq_ok_iff, exists_and_left, exists_eq, and_true]

theorem SameDirectories.opens {before after : FileTree}
    (h : SameDirectories before after) {path : Text} {at_ : Location}
    (hopens : before.Opens path at_) : after.Opens path at_ := by
  obtain ⟨hslash, hlocate, hentry⟩ := opens_iff.mp hopens
  refine opens_iff.mpr ⟨hslash, h.locate hlocate, ?_⟩
  exact fun hdirectory => hentry ((h.directory at_).mp hdirectory)

theorem openFile_eq_error_iff {tree : FileTree} {path : Text} :
    (∃ e, tree.openFile path = .error e) ↔ ∀ at_, ¬ tree.Opens path at_ := by
  cases hopen : tree.openFile path with
  | error e =>
      refine ⟨fun _ at_ => ?_, fun _ => ⟨e, rfl⟩⟩
      rintro ⟨contents, hopens⟩
      rw [hopen] at hopens
      cases hopens
  | ok opened =>
      constructor
      · rintro ⟨e, he⟩
        cases he
      · intro hnone
        exact absurd ⟨opened.2, hopen⟩ (hnone opened.1)

/-! ## Changes -/

/-- Nothing changes but what stands at some places, no directory comes or goes,
and no tool comes. -/
structure Keeps (changed : Location → Prop) (before after : FileTree) : Prop
    extends SameDirectories before after where
  entry : ∀ at_, ¬ changed at_ → after.entry? at_ = before.entry? at_
  tool : ∀ at_ t, after.entry? at_ = some (.tool t) →
    before.entry? at_ = some (.tool t)

theorem Keeps.refl (changed : Location → Prop) (tree : FileTree) :
    Keeps changed tree tree :=
  ⟨SameDirectories.refl tree, fun _ _ => rfl, fun _ _ => id⟩

theorem Keeps.mono {changed others : Location → Prop} {before after : FileTree}
    (h : Keeps changed before after) (hsub : ∀ at_, changed at_ → others at_) :
    Keeps others before after :=
  ⟨h.toSameDirectories, fun at_ hat => h.entry at_ fun hc => hat (hsub at_ hc),
    h.tool⟩

theorem Keeps.trans {changed : Location → Prop} {first second third : FileTree}
    (h : Keeps changed first second) (h' : Keeps changed second third) :
    Keeps changed first third where
  toSameDirectories := h.toSameDirectories.trans h'.toSameDirectories
  entry := fun at_ hat => (h'.entry at_ hat).trans (h.entry at_ hat)
  tool := fun at_ t ht => h.tool at_ t (h'.tool at_ t ht)

/-- A file put where no directory stands changes that place only. -/
theorem keeps_insert {tree : FileTree} {at_ : Location}
    (hat : tree.entry? at_ ≠ some .directory) (contents : Bytes) :
    Keeps (· = at_) tree (tree.insert at_ (.file contents)) := by
  have hne : at_ ≠ [] := by
    rintro rfl
    exact hat tree.entry?_nil
  refine ⟨⟨rfl, fun other => ?_⟩,
    fun other hother => entry?_insert_of_ne hother tree _, fun other t ht => ?_⟩
  · by_cases hother : other = at_
    · rw [hother, entry?_insert_self hne]
      exact ⟨fun h => (by cases h), fun h => absurd h hat⟩
    · rw [entry?_insert_of_ne hother]
  · by_cases hother : other = at_
    · rw [hother, entry?_insert_self hne] at ht
      cases ht
    · rwa [entry?_insert_of_ne hother] at ht

/-- A write that succeeds changes the file that was opened. -/
theorem keeps_of_write {tree after : FileTree} {path : Text} {append : Bool}
    {bytes : Bytes} (hwrite : tree.write path append bytes = .ok after) :
    ∃ at_, tree.Opens path at_ ∧ Keeps (· = at_) tree after := by
  obtain ⟨⟨at_, contents⟩, hopen, hafter⟩ := except_bind_eq_ok_iff.mp hwrite
  cases hafter
  have hopens : tree.Opens path at_ := ⟨contents, hopen⟩
  exact ⟨at_, hopens, keeps_insert (opens_iff.mp hopens).2.2 _⟩

/-- Only opening can fail in a write. -/
theorem write_eq_error_iff {tree : FileTree} {path : Text} {append : Bool}
    {bytes : Bytes} {e : SystemError} :
    tree.write path append bytes = .error e ↔ tree.openFile path = .error e := by
  unfold write
  cases tree.openFile path with
  | error e' =>
      change Except.error e' = .error e ↔ _
      simp
  | ok opened =>
      constructor
      · intro hwrite
        cases hwrite
      · intro hopen
        cases hopen

/-- Nothing goes when a file is written. -/
theorem entry?_of_write {tree after : FileTree} {path : Text} {append : Bool}
    {bytes : Bytes} (hwrite : tree.write path append bytes = .ok after)
    {at_ : Location} (hafter : after.entry? at_ = none) :
    tree.entry? at_ = none := by
  obtain ⟨⟨place, contents⟩, hopen, hinsert⟩ := except_bind_eq_ok_iff.mp hwrite
  cases hinsert
  have hplace : place ≠ [] := by
    rintro rfl
    exact (opens_iff.mp ⟨contents, hopen⟩).2.2 tree.entry?_nil
  by_cases hat : at_ = place
  · rw [hat, entry?_insert_self hplace] at hafter
    cases hafter
  · rwa [entry?_insert_of_ne hat] at hafter

/-! ## Tools -/

/-- A tool of the tree keeps its log at a place. -/
def IsLog (tree : FileTree) (at_ : Location) : Prop :=
  ∃ place t log, tree.entry? place = some (.tool t) ∧ t.log = some log ∧
    tree.Opens log at_

theorem Keeps.isLog {changed : Location → Prop} {before after : FileTree}
    (h : Keeps changed before after) {at_ : Location} (hlog : after.IsLog at_) :
    before.IsLog at_ := by
  obtain ⟨place, t, log, ht, hlog, hopens⟩ := hlog
  exact ⟨place, t, log, h.tool place t ht, hlog,
    h.toSameDirectories.symm.opens hopens⟩

theorem keeps_logCommand {tree : FileTree} {place : Location} {t : Tool}
    (ht : tree.entry? place = some (.tool t)) (command : List Text) :
    Keeps tree.IsLog tree (tree.logCommand t command) := by
  unfold logCommand
  split
  next => exact Keeps.refl _ tree
  next log hlog =>
    cases hwrite : tree.write log true (Text.encode (Tool.logLine command)) with
    | error e => exact Keeps.refl _ tree
    | ok after =>
        obtain ⟨at_, hopens, hkeeps⟩ := keeps_of_write hwrite
        refine hkeeps.mono ?_
        rintro other rfl
        exact ⟨place, t, log, ht, hlog, hopens⟩

theorem entry?_of_logCommand {tree : FileTree} {t : Tool} {command : List Text}
    {at_ : Location}
    (hafter : FileTree.entry? (tree.logCommand t command) at_ = none) :
    tree.entry? at_ = none := by
  unfold logCommand at hafter
  split at hafter
  next => exact hafter
  next log _ =>
    cases hwrite : tree.write log true (Text.encode (Tool.logLine command)) with
    | error e => rwa [hwrite] at hafter
    | ok after =>
        rw [hwrite] at hafter
        exact entry?_of_write hwrite hafter

/-- A command that runs is a tool's. -/
theorem run_eq_ok_iff {tree after : FileTree} {command : List Text}
    {answer : Answer} :
    tree.run command = .ok (answer, after) ↔
      (command.any fun word => word.any (·.toNat = 0)) = false ∧
        ∃ t, tree.find (command.head?.getD []) = .ok (.tool t) ∧
          t.executable = true ∧ answer = t.answer command ∧
          after = tree.logCommand t command := by
  unfold run
  cases command.any fun word => word.any (·.toNat = 0) with
  | true => simp
  | false =>
      rw [if_neg Bool.false_ne_true, except_bind_eq_ok_iff]
      constructor
      · rintro ⟨e, hfind, hrun⟩
        split at hrun
        next t =>
          split at hrun
          next hexecutable =>
            cases hrun
            exact ⟨rfl, t, hfind, hexecutable, rfl, rfl⟩
          next => cases hrun
        next => cases hrun
      · rintro ⟨_, t, hfind, hexecutable, rfl, rfl⟩
        refine ⟨.tool t, hfind, ?_⟩
        simp only
        rw [if_pos hexecutable]
        rfl

/-- The answer to a command is that of what stands at its path. -/
theorem answer_eq_of_find {tree other : FileTree} {command : List Text}
    {e : Entry} (htree : tree.find (command.head?.getD []) = .ok e)
    (hother : other.find (command.head?.getD []) = .ok e) :
    (other.run command).map (·.1) = (tree.run command).map (·.1) := by
  unfold run
  rw [htree, hother]
  split
  next => rfl
  next =>
    cases e with
    | directory => rfl
    | file _ => rfl
    | tool t =>
        simp only [bind, Except.bind]
        split <;> rfl

/-- A command changes logs only. -/
theorem keeps_of_run {tree after : FileTree} {command : List Text}
    {answer : Answer} (hrun : tree.run command = .ok (answer, after)) :
    Keeps tree.IsLog tree after := by
  obtain ⟨_, t, hfind, _, _, rfl⟩ := run_eq_ok_iff.mp hrun
  obtain ⟨place, _, ht⟩ := find_eq_ok_iff.mp hfind
  exact keeps_logCommand ht command

end Stubgen.FileTree

namespace Stubgen

/-! ## A tree as a system -/

theorem run_ofTree (tree : FileTree) (command : List Text) :
    Files.ofTree.run command tree =
      ((tree.run command).map (·.1),
        ((tree.run command).map (·.2)).toOption.getD tree) := by
  have hget : (get : StateM FileTree FileTree) tree = (tree, tree) := rfl
  simp only [Files.ofTree, stateM_bind_apply, hget]
  cases tree.run command with
  | error e => rfl
  | ok outcome => rfl

theorem write_ofTree (tree : FileTree) (path : Text) (append : Bool)
    (bytes : Bytes) :
    Files.ofTree.write path append bytes tree =
      ((tree.write path append bytes).map fun _ => (),
        (tree.write path append bytes).toOption.getD tree) := by
  have hget : (get : StateM FileTree FileTree) tree = (tree, tree) := rfl
  simp only [Files.ofTree, stateM_bind_apply, hget]
  cases tree.write path append bytes with
  | error e => rfl
  | ok after => rfl

end Stubgen
