import Stubgen.Proofs.Files.Path
import Stubgen.Proofs.Files.Tree

/-!
# A tree with one more file

Two trees are the same but for a file that one of them has and the other has
not.  They say the same of every path that does not lead to the file.  A path
that goes on behind it leads nowhere in both, for different reasons.  What is
written elsewhere leaves the trees the same but for the file.
-/

namespace Stubgen.FileTree

open Stubgen.Path

/-- A path goes on behind a place: its first components lead there, and it has
more of them. -/
def GoesThrough (tree : FileTree) (path : Text) (place : Location) : Prop :=
  ∃ p first c rest, tree.below? (Text.dropEndWhile (· = '/') path) = some p ∧
    components p = first ++ c :: rest ∧ tree.walk [] first = .ok place

theorem SameDirectories.goesThrough {before after : FileTree}
    (h : SameDirectories before after) {path : Text} {place : Location}
    (hpath : before.GoesThrough path place) : after.GoesThrough path place := by
  obtain ⟨p, first, c, rest, hp, hsplit, hwalk⟩ := hpath
  refine ⟨p, first, c, rest, ?_, hsplit, h.walk hwalk⟩
  rw [← hp, below?, below?, h.root]

/-- A tree is the same as another one but for a file, which stands where the
other has nothing. -/
structure AddsFile (place : Location) (bytes : Bytes) (bare held : FileTree) :
    Prop where
  root : held.root = bare.root
  absent : bare.entry? place = none
  present : held.entry? place = some (.file bytes)
  elsewhere : ∀ at_, at_ ≠ place → held.entry? at_ = bare.entry? at_

theorem addsFile_insert {tree : FileTree} {place : Location}
    (habsent : tree.entry? place = none) (bytes : Bytes) :
    AddsFile place bytes tree (tree.insert place (.file bytes)) where
  root := rfl
  absent := habsent
  present := by
    refine entry?_insert_self ?_ tree _
    rintro rfl
    cases habsent
  elsewhere := fun _ hother => entry?_insert_of_ne hother tree _

/-- Two trees are the same, or they are the same but for a file. -/
def SameBesides (place : Location) (bytes : Bytes) (bare held : FileTree) :
    Prop :=
  AddsFile place bytes bare held ∨
    held.root = bare.root ∧ ∀ at_, held.entry? at_ = bare.entry? at_

namespace AddsFile

variable {place : Location} {bytes : Bytes} {bare held : FileTree}

theorem place_ne_nil (h : AddsFile place bytes bare held) : place ≠ [] := by
  rintro rfl
  cases h.absent

theorem sameDirectories (h : AddsFile place bytes bare held) :
    SameDirectories bare held := by
  refine ⟨h.root, fun at_ => ?_⟩
  by_cases hat : at_ = place
  · rw [hat, h.present, h.absent]
    simp
  · rw [h.elsewhere at_ hat]

theorem locate_eq_ok_iff (h : AddsFile place bytes bare held) {path : Text}
    {at_ : Location} :
    held.locate path = .ok at_ ↔ bare.locate path = .ok at_ :=
  ⟨h.sameDirectories.symm.locate, h.sameDirectories.locate⟩

theorem find_eq_ok_iff (h : AddsFile place bytes bare held) {path : Text}
    (hpath : bare.locate path ≠ .ok place) {e : Entry} :
    held.find path = .ok e ↔ bare.find path = .ok e := by
  rw [FileTree.find_eq_ok_iff, FileTree.find_eq_ok_iff]
  refine exists_congr fun at_ => ?_
  rw [h.locate_eq_ok_iff]
  refine and_congr_right fun hlocate => ?_
  have hat : at_ ≠ place := by
    rintro rfl
    exact hpath hlocate
  rw [h.elsewhere at_ hat]

/-- Both trees say the same of a path that does not lead to the file. -/
theorem kind?_eq (h : AddsFile place bytes bare held) {path : Text}
    (hpath : bare.locate path ≠ .ok place) :
    held.kind? path = bare.kind? path := by
  have hfind := fun e => h.find_eq_ok_iff hpath (e := e)
  unfold kind?
  cases hbare : bare.find path with
  | ok e => rw [(hfind e).mpr hbare]
  | error fault =>
      cases hheld : held.find path with
      | ok e =>
          rw [(hfind e).mp hheld] at hbare
          cases hbare
      | error fault' => rfl

theorem read_eq (h : AddsFile place bytes bare held) {path : Text}
    (hpath : bare.locate path ≠ .ok place) {e : Entry}
    (hfind : bare.find path = .ok e) : held.read path = bare.read path := by
  unfold read
  rw [hfind, (h.find_eq_ok_iff hpath).mpr hfind]

/-! ### Walks -/

/-- A walk goes the same way as long as it does not have to go on behind the
file. -/
theorem walk_eq (h : AddsFile place bytes bare held) {start : Location}
    {cs : List Text} (hcs : ∀ first c rest, cs = first ++ c :: rest →
      bare.walk start first ≠ .ok place) :
    held.walk start cs = bare.walk start cs := by
  induction cs generalizing start with
  | nil => rfl
  | cons c rest ih =>
      have hstart : start ≠ place := by
        rintro rfl
        exact hcs [] c rest rfl rfl
      have hrest : ∀ next, (∀ first, bare.walk start (c :: first) =
          bare.walk next first) → held.walk next rest = bare.walk next rest := by
        intro next hnext
        refine ih fun first c' rest' hsplit hwalk => ?_
        exact hcs (c :: first) c' rest' (by rw [hsplit]; rfl)
          ((hnext first).trans hwalk)
      rw [walk, walk, h.elsewhere start hstart]
      cases hentry : bare.entry? start with
      | none => rfl
      | some e =>
          cases e with
          | file _ => rfl
          | tool _ => rfl
          | directory =>
              simp only
              split_ifs with hhere hup hempty
              · refine hrest start fun first => ?_
                rw [walk, hentry]
                simp only
                rw [if_pos hhere]
              · rfl
              · refine hrest _ fun first => ?_
                rw [walk, hentry]
                simp only
                rw [if_neg hhere, if_pos hup, if_neg hempty]
              · refine hrest _ fun first => ?_
                rw [walk, hentry]
                simp only
                rw [if_neg hhere, if_neg hup]

theorem locate_eq (h : AddsFile place bytes bare held) {path : Text}
    (hpath : ¬ bare.GoesThrough path place) :
    held.locate (Text.dropEndWhile (· = '/') path) =
      bare.locate (Text.dropEndWhile (· = '/') path) := by
  have hbelow : ∀ t, held.below? t = bare.below? t := by
    intro t
    rw [below?, below?, h.root]
  unfold locate
  rw [hbelow]
  split_ifs
  · rfl
  · rfl
  cases hp : bare.below? (Text.dropEndWhile (· = '/') path) with
  | none => rfl
  | some p =>
      have hopen := endsInSlash_of_below? (endsInSlash_dropEndWhile path) hp
      simp only [hopen, Bool.false_eq_true, if_false, List.append_nil]
      refine h.walk_eq fun first c rest hsplit hwalk => ?_
      exact hpath ⟨p, first, c, rest, hp, hsplit, hwalk⟩

/-- A file that is opened elsewhere is the same in both trees, and so is the
reason why a file cannot be opened. -/
theorem openFile_eq (h : AddsFile place bytes bare held) {path : Text}
    (hthrough : ¬ bare.GoesThrough path place)
    (hpath : ¬ bare.Opens path place) :
    held.openFile path = bare.openFile path := by
  have hlocate := h.locate_eq hthrough
  unfold openFile
  cases hslash : endsInSlash path with
  | true => rw [if_pos rfl, if_pos rfl, hlocate]
  | false =>
      rw [dropEndWhile_of_endsInSlash hslash] at hlocate
      rw [if_neg Bool.false_ne_true, if_neg Bool.false_ne_true, hlocate]
      cases hplace : bare.locate path with
      | error e => rfl
      | ok at_ =>
          have hat : at_ ≠ place := by
            rintro rfl
            refine hpath (opens_iff.mpr ⟨hslash, hplace, ?_⟩)
            rw [h.absent]
            simp
          simp only [bind, Except.bind, h.elsewhere at_ hat]

theorem openFile_of_eq_ok (h : AddsFile place bytes bare held) {path : Text}
    {at_ : Location} {contents : Bytes} (hat : at_ ≠ place)
    (hopen : bare.openFile path = .ok (at_, contents)) :
    held.openFile path = .ok (at_, contents) := by
  rw [openFile_eq_ok_iff] at hopen ⊢
  rw [h.locate_eq_ok_iff, contents?, h.elsewhere at_ hat]
  exact hopen

theorem opens_iff (h : AddsFile place bytes bare held) {path : Text}
    {at_ : Location} : held.Opens path at_ ↔ bare.Opens path at_ :=
  ⟨h.sameDirectories.symm.opens, h.sameDirectories.opens⟩

/-! ### Writing -/

theorem insert (h : AddsFile place bytes bare held) {at_ : Location}
    (hne : at_ ≠ []) (hat : at_ ≠ place) (e : Entry) :
    AddsFile place bytes (bare.insert at_ e) (held.insert at_ e) where
  root := h.root
  absent := by rw [entry?_insert_of_ne hat.symm, h.absent]
  present := by rw [entry?_insert_of_ne hat.symm, h.present]
  elsewhere := by
    intro other hother
    by_cases heq : other = at_
    · rw [heq, entry?_insert_self hne, entry?_insert_self hne]
    · rw [entry?_insert_of_ne heq, entry?_insert_of_ne heq,
        h.elsewhere other hother]

/-- What is written elsewhere is written in both trees. -/
theorem write_getD (h : AddsFile place bytes bare held) {path : Text}
    (hpath : ¬ bare.Opens path place) (append : Bool) (more : Bytes) :
    AddsFile place bytes ((bare.write path append more).toOption.getD bare)
      ((held.write path append more).toOption.getD held) := by
  cases hopen : bare.openFile path with
  | error e =>
      have hnone := openFile_eq_error_iff.mp ⟨e, hopen⟩
      obtain ⟨e', hheld⟩ := openFile_eq_error_iff.mpr fun at_ hopens =>
        hnone at_ (h.opens_iff.mp hopens)
      rw [write_eq_error_iff.mpr hopen, write_eq_error_iff.mpr hheld]
      exact h
  | ok opened =>
      obtain ⟨at_, contents⟩ := opened
      have hat : at_ ≠ place := by
        rintro rfl
        exact hpath ⟨contents, hopen⟩
      have hne : at_ ≠ [] := by
        rintro rfl
        exact (FileTree.opens_iff.mp ⟨contents, hopen⟩).2.2 bare.entry?_nil
      rw [write, write, hopen, h.openFile_of_eq_ok hat hopen]
      exact h.insert hne hat _

/-- A file is written in the same way in both trees.  What is written in the
place of the file that one of them has leaves no difference. -/
theorem write_sameBesides (h : AddsFile place bytes bare held) {path : Text}
    {append : Bool} (hthrough : ¬ bare.GoesThrough path place)
    (happend : append = true → ¬ bare.Opens path place) (more : Bytes) :
    (held.write path append more).map (fun _ => ()) =
        (bare.write path append more).map (fun _ => ()) ∧
      SameBesides place bytes ((bare.write path append more).toOption.getD bare)
        ((held.write path append more).toOption.getD held) := by
  by_cases hpath : bare.Opens path place
  · cases append with
    | true => exact absurd hpath (happend rfl)
    | false =>
        have hne := h.place_ne_nil
        obtain ⟨contents, hbare⟩ := hpath
        obtain ⟨contents', hheld⟩ := h.opens_iff.mpr ⟨contents, hbare⟩
        rw [write, write, hbare, hheld]
        refine ⟨rfl, Or.inr ⟨h.root, fun at_ => ?_⟩⟩
        change FileTree.entry? (held.insert place (.file more)) at_ =
          FileTree.entry? (bare.insert place (.file more)) at_
        by_cases hat : at_ = place
        · rw [hat, entry?_insert_self hne, entry?_insert_self hne]
        · rw [entry?_insert_of_ne hat, entry?_insert_of_ne hat,
            h.elsewhere at_ hat]
  · refine ⟨?_, Or.inl (h.write_getD hpath append more)⟩
    rw [write, write, h.openFile_eq hthrough hpath]
    cases bare.openFile path <;> rfl

theorem logCommand (h : AddsFile place bytes bare held) {t : Tool}
    (hlog : ∀ log, t.log = some log → ¬ bare.Opens log place)
    (command : List Text) :
    AddsFile place bytes (bare.logCommand t command)
      (held.logCommand t command) := by
  unfold FileTree.logCommand
  split
  next => exact h
  next log hsome => exact h.write_getD (hlog log hsome) true _

end AddsFile
end Stubgen.FileTree
