import Stubgen.Proofs.Files.Tree
import Stubgen.Run.Output
import Mathlib.Data.List.DropRight

/-!
# Modules written one after another

A call writes a module to a file: it drops what the file held or keeps it, and
adds the module with a line end.  Where a path leads does not depend on what was
written before, and a call that cannot open its path changes nothing.  So a file
holds what the calls on it have added since the last one that dropped, whatever
was written to other files in between.
-/

namespace Stubgen

/-! ## Calls -/

/-- A call that writes a module to a file. -/
structure Writing where
  code : Text
  path : Text
  append : Bool
  deriving DecidableEq, Repr

namespace Writing

/-- What a call adds to its file. -/
def bytes (w : Writing) : Bytes := Text.encode (w.code ++ ['\n'])

def run {m : Type → Type} [Monad m] (files : Files m) (w : Writing) :
    m (Except RunFault Unit) :=
  writeModule files w.code w.path w.append

/-- Whether the path of a call can be opened and leads to a place. -/
def goesTo (tree : FileTree) (at_ : Location) (w : Writing) : Bool :=
  (tree.openFile w.path).toOption.map (·.1) = some at_

end Writing

/-- Makes calls in order. -/
def writeAll {m : Type → Type} [Monad m] (files : Files m)
    (calls : List Writing) : m (List (Except RunFault Unit)) :=
  calls.mapM (Writing.run files)

/-- What a file holds after calls that went to it: the modules from the last call
on that dropped the contents, or behind the first contents if none did. -/
def accumulated (initial : Bytes) (calls : List Writing) : Bytes :=
  ((calls.rdropWhile (·.append)).getLast?.map Writing.bytes).getD initial ++
    (calls.rtakeWhile (·.append)).flatMap Writing.bytes

/-- The bytes at a place, which has none unless a file stands there. -/
def FileTree.bytesAt (tree : FileTree) (at_ : Location) : Bytes :=
  (tree.contents? at_).getD []

/-- What stands at a place after calls that went to it. -/
def FileTree.entryAfter (tree : FileTree) (at_ : Location)
    (calls : List Writing) : Option Entry :=
  if calls = [] then tree.entry? at_
  else some (.file (accumulated (tree.bytesAt at_) calls))

/-- What the calls on a tree report. -/
def FileTree.resultsOf (tree : FileTree) (calls : List Writing) :
    List (Except RunFault Unit) :=
  (writeAll Files.ofTree calls tree).1

/-- The tree after calls. -/
def FileTree.afterAll (tree : FileTree) (calls : List Writing) : FileTree :=
  (writeAll Files.ofTree calls tree).2

/-- One call writes to its own file, or says why that cannot be opened and leaves
everything as it is. -/
structure Writing.Makes (w : Writing) (before : FileTree)
    (result : Except RunFault Unit) (after : FileTree) : Prop where
  opened : ∀ at_, before.Opens w.path at_ → result = .ok () ∧
    ∀ other, other ≠ at_ → after.entry? other = before.entry? other
  refused : ∀ e, before.openFile w.path = .error e →
    result = .error (.unwritable w.path w.append e) ∧ after = before

/-- What calls leave: every call has done its own part, paths lead where they
led, and a file holds what the calls that went to it add up to. -/
structure AddsUp (tree : FileTree) (calls : List Writing) : Prop where
  answered : (tree.resultsOf calls).length = calls.length
  call : ∀ front w rest, calls = front ++ w :: rest →
    ∃ result, (tree.resultsOf calls)[front.length]? = some result ∧
      w.Makes (tree.afterAll front) result (tree.afterAll (front ++ [w]))
  opens : ∀ path at_, (tree.afterAll calls).Opens path at_ ↔
    tree.Opens path at_
  entry : ∀ at_, FileTree.entry? (tree.afterAll calls) at_ =
    tree.entryAfter at_ (calls.filter (Writing.goesTo tree at_))

/-! ## One call -/

section System

variable {σ : Type}

theorem writeModule_apply (files : Files (StateM σ)) (code path : Text)
    (append : Bool) (state : σ) :
    writeModule files code path append state =
      let written := files.write path append (Text.encode (code ++ ['\n'])) state
      (written.1.mapError (RunFault.unwritable path append), written.2) := by
  rw [writeModule, stateM_bind_apply]
  dsimp only
  cases (files.write path append (Text.encode (code ++ ['\n'])) state).1 <;> rfl

theorem writeAll_append (files : Files (StateM σ)) (first second : List Writing)
    (state : σ) :
    writeAll files (first ++ second) state =
      ((writeAll files first state).1 ++
          (writeAll files second (writeAll files first state).2).1,
        (writeAll files second (writeAll files first state).2).2) := by
  unfold writeAll
  rw [List.mapM_append, stateM_bind_apply, stateM_bind_apply]
  rfl

theorem writeAll_cons (files : Files (StateM σ)) (w : Writing)
    (calls : List Writing) (state : σ) :
    writeAll files (w :: calls) state =
      ((w.run files state).1 :: (writeAll files calls (w.run files state).2).1,
        (writeAll files calls (w.run files state).2).2) := by
  unfold writeAll
  rw [List.mapM_cons, stateM_bind_apply, stateM_bind_apply]
  rfl

theorem length_writeAll (files : Files (StateM σ)) (calls : List Writing)
    (state : σ) : (writeAll files calls state).1.length = calls.length := by
  induction calls generalizing state with
  | nil => rfl
  | cons w rest ih => rw [writeAll_cons, List.length_cons, ih, List.length_cons]

end System

namespace Writing

variable {tree : FileTree} {w : Writing}

theorem run_of_openFile_error {e : SystemError}
    (hopen : tree.openFile w.path = .error e) :
    w.run Files.ofTree tree = (.error (.unwritable w.path w.append e), tree) := by
  have hwrite : tree.write w.path w.append w.bytes = .error e :=
    FileTree.write_eq_error_iff.mpr hopen
  rw [bytes] at hwrite
  rw [run, writeModule_apply, write_ofTree, hwrite]
  rfl

theorem run_of_openFile_ok {at_ : Location} {contents : Bytes}
    (hopen : tree.openFile w.path = .ok (at_, contents)) :
    w.run Files.ofTree tree = (.ok (), tree.insert at_
      (.file (if w.append then contents ++ w.bytes else w.bytes))) := by
  have hwrite : tree.write w.path w.append w.bytes = .ok (tree.insert at_
      (.file (if w.append then contents ++ w.bytes else w.bytes))) := by
    rw [FileTree.write, hopen]
    rfl
  rw [bytes] at hwrite
  rw [run, writeModule_apply, write_ofTree, hwrite]
  rfl

theorem goesTo_iff {at_ : Location} :
    w.goesTo tree at_ = true ↔ tree.Opens w.path at_ := by
  unfold goesTo FileTree.Opens
  cases tree.openFile w.path <;> simp [Except.toOption, Prod.ext_iff, eq_comm]

/-- A call does its own part. -/
theorem makes (w : Writing) (tree : FileTree) :
    w.Makes tree (w.run Files.ofTree tree).1 (w.run Files.ofTree tree).2 := by
  cases hopen : tree.openFile w.path with
  | error e =>
      rw [run_of_openFile_error hopen]
      refine ⟨fun at_ hopens => ?_, fun e' he' => ?_⟩
      · obtain ⟨contents, hok⟩ := hopens
        cases hopen.symm.trans hok
      · cases hopen.symm.trans he'
        exact ⟨rfl, rfl⟩
  | ok opened =>
      rw [run_of_openFile_ok hopen]
      refine ⟨fun at_ hopens => ⟨rfl, fun other hother => ?_⟩, fun e he => ?_⟩
      · obtain ⟨contents, hok⟩ := hopens
        cases hopen.symm.trans hok
        exact FileTree.entry?_insert_of_ne hother tree _
      · cases hopen.symm.trans he

end Writing

/-! ## What a file holds -/

namespace FileTree

variable {tree : FileTree} {at_ : Location}

/-- A file is opened with the bytes that it holds. -/
theorem eq_bytesAt_of_openFile {path : Text} {contents : Bytes}
    (hopen : tree.openFile path = .ok (at_, contents)) :
    contents = tree.bytesAt at_ := by
  unfold openFile at hopen
  split at hopen
  next =>
    obtain ⟨_, _, hopen⟩ := except_bind_eq_ok_iff.mp hopen
    cases hopen
  next =>
    obtain ⟨place, _, hopen⟩ := except_bind_eq_ok_iff.mp hopen
    unfold bytesAt contents?
    split at hopen
    next => cases hopen
    next hentry => cases hopen; rw [hentry]; rfl
    next hentry => cases hopen; rw [hentry]; rfl
    next hentry => cases hopen; rw [hentry]; rfl

end FileTree

@[simp] theorem accumulated_nil (initial : Bytes) :
    accumulated initial [] = initial :=
  List.append_nil initial

/-- One more call keeps what has been added up, or drops it. -/
theorem accumulated_concat (initial : Bytes) (calls : List Writing)
    (w : Writing) :
    accumulated initial (calls ++ [w]) =
      if w.append then accumulated initial calls ++ w.bytes else w.bytes := by
  unfold accumulated
  rw [List.rdropWhile_concat, List.rtakeWhile_concat]
  by_cases happend : w.append = true
  · rw [if_pos happend, if_pos happend, if_pos happend, List.flatMap_append,
      List.append_assoc]
    simp
  · rw [if_neg happend, if_neg happend, if_neg happend]
    simp

theorem bytesAt_of_entryAfter {tree after : FileTree} {at_ : Location}
    {calls : List Writing} (hentry : after.entry? at_ =
      tree.entryAfter at_ calls) :
    after.bytesAt at_ = accumulated (tree.bytesAt at_) calls := by
  unfold FileTree.entryAfter at hentry
  by_cases hcalls : calls = []
  · rw [if_pos hcalls] at hentry
    rw [hcalls, accumulated_nil, FileTree.bytesAt, FileTree.bytesAt,
      FileTree.contents?, FileTree.contents?, hentry]
  · rw [if_neg hcalls] at hentry
    rw [FileTree.bytesAt, FileTree.contents?, hentry]
    rfl

/-! ## All calls -/

namespace FileTree

variable (tree : FileTree)

theorem afterAll_concat (calls : List Writing) (w : Writing) :
    tree.afterAll (calls ++ [w]) =
      (w.run Files.ofTree (tree.afterAll calls)).2 := by
  unfold afterAll
  rw [writeAll_append, writeAll_cons]
  rfl

/-- The result of a call is that of making it on what the calls ahead of it have
left. -/
theorem getElem?_resultsOf (front : List Writing) (w : Writing)
    (rest : List Writing) :
    (tree.resultsOf (front ++ w :: rest))[front.length]? =
      some (w.run Files.ofTree (tree.afterAll front)).1 := by
  unfold resultsOf
  rw [writeAll_append, writeAll_cons, List.getElem?_append_right
    (length_writeAll Files.ofTree front tree).le, length_writeAll, Nat.sub_self]
  rfl

/-- Writing makes no directories and removes none. -/
theorem sameDirectories_afterAll (calls : List Writing) :
    SameDirectories tree (tree.afterAll calls) := by
  induction calls using List.reverseRecOn with
  | nil => exact SameDirectories.refl tree
  | append_singleton calls w ih =>
      rw [afterAll_concat]
      cases hopen : (tree.afterAll calls).openFile w.path with
      | error e =>
          rw [Writing.run_of_openFile_error hopen]
          exact ih
      | ok opened =>
          rw [Writing.run_of_openFile_ok hopen]
          have hopens : (tree.afterAll calls).Opens w.path opened.1 :=
            ⟨opened.2, hopen⟩
          exact ih.trans
            (keeps_insert (opens_iff.mp hopens).2.2 _).toSameDirectories

theorem opens_afterAll_iff (calls : List Writing) {path : Text}
    {at_ : Location} :
    (tree.afterAll calls).Opens path at_ ↔ tree.Opens path at_ := by
  have hsame := tree.sameDirectories_afterAll calls
  exact ⟨hsame.symm.opens, hsame.opens⟩

/-- What stands at a place after one more call. -/
theorem entry?_afterAll_concat {calls : List Writing} {at_ : Location}
    (w : Writing) (hentry : FileTree.entry? (tree.afterAll calls) at_ =
      tree.entryAfter at_ (calls.filter (Writing.goesTo tree at_))) :
    FileTree.entry? (tree.afterAll (calls ++ [w])) at_ =
      tree.entryAfter at_ ((calls ++ [w]).filter (Writing.goesTo tree at_)) := by
  rw [List.filter_append, afterAll_concat]
  by_cases hgoes : w.goesTo tree at_ = true
  · have hopens : (tree.afterAll calls).Opens w.path at_ :=
      (tree.opens_afterAll_iff calls).mpr (Writing.goesTo_iff.mp hgoes)
    have hplace : at_ ≠ [] := by
      intro hroot
      have hdirectory := (opens_iff.mp hopens).2.2
      rw [hroot] at hdirectory
      exact hdirectory (entry?_nil _)
    obtain ⟨contents, hopen⟩ := hopens
    have hcontents : contents = accumulated (tree.bytesAt at_)
        (calls.filter (Writing.goesTo tree at_)) := by
      rw [eq_bytesAt_of_openFile hopen]
      exact bytesAt_of_entryAfter hentry
    have hcalls : calls.filter (Writing.goesTo tree at_) ++ [w] ≠ [] :=
      List.append_ne_nil_of_right_ne_nil _ (List.cons_ne_nil w [])
    rw [Writing.run_of_openFile_ok hopen, List.filter_singleton, hgoes, cond_true,
      entryAfter, if_neg hcalls, accumulated_concat, ← hcontents]
    exact entry?_insert_self hplace _ _
  · have hsame : FileTree.entry? (w.run Files.ofTree (tree.afterAll calls)).2 at_ =
        FileTree.entry? (tree.afterAll calls) at_ := by
      cases hopen : (tree.afterAll calls).openFile w.path with
      | error e => rw [Writing.run_of_openFile_error hopen]
      | ok opened =>
          have hopens : (tree.afterAll calls).Opens w.path opened.1 :=
            ⟨opened.2, hopen⟩
          have hother : at_ ≠ opened.1 := by
            intro heq
            rw [← heq, tree.opens_afterAll_iff calls] at hopens
            exact hgoes (Writing.goesTo_iff.mpr hopens)
          rw [Writing.run_of_openFile_ok hopen]
          exact entry?_insert_of_ne hother _ _
    rw [hsame, hentry, List.filter_singleton, Bool.eq_false_of_not_eq_true hgoes,
      cond_false, List.append_nil]

theorem entry?_afterAll (calls : List Writing) (at_ : Location) :
    FileTree.entry? (tree.afterAll calls) at_ =
      tree.entryAfter at_ (calls.filter (Writing.goesTo tree at_)) := by
  induction calls using List.reverseRecOn with
  | nil => rfl
  | append_singleton calls w ih => exact tree.entry?_afterAll_concat w ih

end FileTree

/-- Any calls on any tree add up. -/
theorem writeAll_addsUp (tree : FileTree) (calls : List Writing) :
    AddsUp tree calls := by
  constructor
  · exact length_writeAll Files.ofTree calls tree
  · intro front w rest hcalls
    rw [hcalls, tree.afterAll_concat]
    exact ⟨_, tree.getElem?_resultsOf front w rest, w.makes _⟩
  · intro path at_
    exact tree.opens_afterAll_iff calls
  · exact tree.entry?_afterAll calls

/-- Calls on two files, one of which is new, with a call in between that names a
directory which is not there. -/
example :
    let tree : FileTree :=
      ⟨"/work".toList, [([['a']], .file (Text.encode "old\n".toList))]⟩
    let calls : List Writing :=
      [⟨['x'], ['a'], true⟩, ⟨['y'], ['b'], true⟩, ⟨['z'], "c/a".toList, false⟩,
        ⟨['u'], "./a".toList, false⟩, ⟨['v'], ['a'], true⟩]
    tree.resultsOf calls =
        [.ok (), .ok (), .error (.unwritable "c/a".toList false .notFound),
          .ok (), .ok ()] ∧
      (tree.afterAll calls).contents? [['a']] =
        some (Text.encode "u\nv\n".toList) ∧
      (tree.afterAll calls).contents? [['b']] =
        some (Text.encode "y\n".toList) := by
  decide +kernel

end Stubgen
