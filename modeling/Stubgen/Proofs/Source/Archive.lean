import Stubgen.Proofs.Command.Footprint
import Stubgen.Proofs.Source.Recorded

/-!
# Archives

For every table there is a tree with both: a disassembler that answers by the
table, and a directory of the listings that the table has.
-/

namespace Stubgen

/-! ## The disassembler of a tree -/

section Trees

variable {tree : FileTree} {table : AnswerTable}

theorem FileTree.run_tool {command : List Text} {t : Tool} {path : Text}
    (hhead : command.head? = some path) (htool : tree.find path = .ok (.tool t))
    (hexecutable : t.executable = true) (hlog : t.log = none)
    (hnul : ∀ word ∈ command, Path.IsNulFree word) :
    tree.run command = .ok (t.answer command, tree) := by
  have hfree : (command.any fun word => word.any (·.toNat = 0)) = false := by
    simpa [Path.IsNulFree] using hnul
  have hafter : tree.logCommand t command = tree := by
    rw [logCommand, hlog]
  rw [FileTree.run_eq_ok_iff, hhead]
  exact ⟨hfree, t, htool, hexecutable, rfl, hafter.symm⟩

theorem Tool.answer_recorded {t : Tool} {command : List Text} {name : Text}
    {answer : Answer} (hlast : command.getLast? = some name)
    (hlookup : t.answers.lookup name = some answer) :
    t.answer command = answer := by
  simp only [Tool.answer, hlast, Option.getD_some, hlookup]

theorem Tool.status_answer_missing {t : Tool} {command : List Text}
    {name : Text} (hlast : command.getLast? = some name)
    (hlookup : t.answers.lookup name = none) :
    (t.answer command).status = .exited 1 := by
  simp only [Tool.answer, hlast, Option.getD_some, hlookup]

/-- The disassembler of a tree answers by its table, if it keeps no log and the
class path can be handed to a command. -/
theorem answersBy_ofTree {home classpath : Text} {t : Tool}
    (hhome : tree.kind? home = some .directory)
    (htool : tree.find (Source.toolPath home) = .ok (.tool t))
    (hexecutable : t.executable = true) (hlog : t.log = none)
    (hclasspath : Path.IsNulFree classpath) :
    AnswersBy Files.ofTree home classpath t.answers (· = tree) := by
  have hrun : ∀ name, Path.IsFileName name →
      Files.ofTree.run (Source.toolCommand (Source.toolPath home) name classpath)
        tree = (.ok (t.answer (Source.toolCommand (Source.toolPath home) name
          classpath)), tree) := by
    intro name hname
    have hnul : ∀ word ∈ Source.toolCommand (Source.toolPath home) name classpath,
        Path.IsNulFree word := by
      simp only [Source.toolCommand, List.forall_mem_cons]
      exact ⟨FileTree.isNulFree_of_find htool, by decide, by decide, by decide,
        hclasspath, hname.isNulFree, by simp⟩
    rw [run_ofTree, FileTree.run_tool rfl htool hexecutable hlog hnul]
    rfl
  refine ⟨?_, ?_, ?_, ?_⟩
  · rintro _ rfl
    exact ⟨hhome, rfl⟩
  · rintro _ rfl
    refine ⟨?_, rfl⟩
    change FileTree.kind? _ _ = _
    rw [FileTree.kind?, htool]
  · rintro name answer hname hlookup _ rfl
    rw [hrun name hname, Tool.answer_recorded rfl hlookup]
    exact ⟨rfl, rfl⟩
  · rintro name hname hlookup _ rfl
    rw [hrun name hname]
    refine ⟨?_, rfl⟩
    rintro _ ⟨⟩
    rw [Tool.status_answer_missing rfl hlookup]
    decide

/-! ## The listings of a tree -/

theorem find_listingPath {directory : Text} {at_ : Location}
    (hroot : tree.HasAbsoluteRoot) (hlocate : tree.locate directory = .ok at_)
    (hat : tree.entry? at_ = some .directory) {name : Text}
    (hname : Path.IsFileName name) :
    tree.find (Source.listingPath directory name) =
      match tree.entry? (at_ ++ [name ++ ".javap".toList]) with
      | some e => .ok e
      | none => .error .notFound := by
  have hextension : Path.IsFileName ".javap".toList := by decide
  have hlast : (name ++ ".javap".toList).getLast? = some 'p' := by simp
  -- With its extension, the name does not stand for a directory.
  have hdots : ∀ u : Text, u.getLast? = some '.' →
      name ++ ".javap".toList ≠ u := by
    rintro u hu rfl
    rw [hlast] at hu
    exact absurd hu (by decide)
  exact hroot.find_join hlocate hat (hname.append hextension) (by simp)
    (hdots _ rfl) (hdots _ rfl)

/-- A directory of a tree holds listings if its entries are the files of the
listings. -/
theorem holdsListings_ofTree {directory : Text} {at_ : Location}
    (hroot : tree.HasAbsoluteRoot) (hlocate : tree.locate directory = .ok at_)
    (hat : tree.entry? at_ = some .directory)
    (hsaved : ∀ name, Path.IsFileName name →
      tree.entry? (at_ ++ [name ++ ".javap".toList]) =
        (table.savedBytes? name).map .file) :
    HoldsListings Files.ofTree directory table (· = tree) := by
  have hthere : ∀ name bytes, Path.IsFileName name →
      table.savedBytes? name = some bytes →
      tree.find (Source.listingPath directory name) = .ok (.file bytes) := by
    intro name bytes hname hbytes
    rw [find_listingPath hroot hlocate hat hname, hsaved name hname, hbytes]
    rfl
  refine ⟨?_, ?_, ?_⟩
  · rintro name bytes hname hbytes _ rfl
    refine ⟨?_, rfl⟩
    change FileTree.kind? _ _ = _
    rw [FileTree.kind?, hthere name bytes hname hbytes]
  · rintro name bytes hname hbytes _ rfl
    refine ⟨?_, rfl⟩
    change FileTree.read _ _ = _
    rw [FileTree.read, hthere name bytes hname hbytes]
    rfl
  · rintro name hname hbytes _ rfl
    refine ⟨?_, rfl⟩
    change FileTree.kind? _ _ ≠ _
    rw [FileTree.kind?, find_listingPath hroot hlocate hat hname,
      hsaved name hname, hbytes]
    intro hkind
    cases hkind

end Trees

/-! ## Archives -/

/-- The files of the listings of some classes in a table. -/
def savedEntries (table : AnswerTable) (at_ : Location) (names : List Text) :
    List (Location × Entry) :=
  names.filterMap fun name => (table.savedBytes? name).map fun bytes =>
    (at_ ++ [name ++ ".javap".toList], .file bytes)

theorem lookup_savedEntries {table : AnswerTable} (at_ : Location) (name : Text)
    {names : List Text} (hnames : table.savedBytes? name ≠ none → name ∈ names) :
    (savedEntries table at_ names).lookup (at_ ++ [name ++ ".javap".toList]) =
      (table.savedBytes? name).map .file := by
  induction names with
  | nil =>
      have hnone : table.savedBytes? name = none := by
        by_contra hsome
        cases hnames hsome
      rw [hnone]
      rfl
  | cons other names ih =>
      by_cases hother : other = name
      · subst hother
        cases hsaved : table.savedBytes? other with
        | none =>
            rw [hsaved] at ih
            rw [savedEntries, List.filterMap_cons_none (by rw [hsaved]; rfl)]
            exact ih fun hsome => absurd rfl hsome
        | some bytes =>
            rw [savedEntries, List.filterMap_cons_some (by rw [hsaved]; rfl),
              List.lookup_cons_self]
            rfl
      · have hrest := ih fun hsome =>
          ((List.mem_cons.mp (hnames hsome)).resolve_left (Ne.symm hother))
        cases hsaved : table.savedBytes? other with
        | none =>
            rw [savedEntries, List.filterMap_cons_none (by rw [hsaved]; rfl)]
            exact hrest
        | some bytes =>
            have hkey : (at_ ++ [name ++ ".javap".toList] ==
                at_ ++ [other ++ ".javap".toList]) = false := by
              rw [beq_eq_false_iff_ne]
              simpa using Ne.symm hother
            rw [savedEntries, List.filterMap_cons_some (by rw [hsaved]; rfl),
              List.lookup_cons, hkey]
            exact hrest

/-- A tree with a disassembler that answers by a table, and with a directory of
the listings in the table. -/
def archive (table : AnswerTable) : FileTree where
  root := "/work".toList
  entries :=
    [(["jdk".toList], .directory), (["jdk".toList, "bin".toList], .directory),
      (["jdk".toList, "bin".toList, "javap".toList],
        .tool { answers := table }),
      (["saved".toList], .directory)] ++
    savedEntries table ["saved".toList] (table.map (·.1))

theorem mem_of_savedBytes? {table : AnswerTable} {name : Text}
    (hsaved : table.savedBytes? name ≠ none) : name ∈ table.map (·.1) := by
  by_contra hname
  have hlookup : table.lookup name = none := by
    rw [List.lookup_eq_none_iff]
    rintro ⟨other, answer⟩ hentry
    rw [bne_iff_ne]
    rintro rfl
    exact hname (List.mem_map.mpr ⟨_, hentry, rfl⟩)
  rw [AnswerTable.savedBytes?, hlookup] at hsaved
  exact hsaved rfl

theorem archive_answersBy (table : AnswerTable) {classpath : Text}
    (hclasspath : Path.IsNulFree classpath) :
    AnswersBy Files.ofTree "jdk".toList classpath table (· = archive table) := by
  have hhome : (archive table).kind? "jdk".toList = some .directory := rfl
  have htool : (archive table).find (Source.toolPath "jdk".toList) =
      .ok (.tool { answers := table }) := rfl
  exact answersBy_ofTree hhome htool rfl rfl hclasspath

theorem archive_holdsListings (table : AnswerTable) :
    HoldsListings Files.ofTree "saved".toList table (· = archive table) := by
  have hroot : (archive table).HasAbsoluteRoot := ⟨rfl, rfl⟩
  have hlocate : (archive table).locate "saved".toList = .ok ["saved".toList] :=
    rfl
  refine holdsListings_ofTree hroot hlocate rfl fun name _ => ?_
  have hentry : FileTree.entry? (archive table) (["saved".toList] ++
      [name ++ ".javap".toList]) =
        (savedEntries table ["saved".toList] (table.map (·.1))).lookup
          (["saved".toList] ++ [name ++ ".javap".toList]) := rfl
  rw [hentry]
  exact lookup_savedEntries _ name mem_of_savedBytes?

end Stubgen
