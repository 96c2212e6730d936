import Stubgen.Proofs.Command.Footprint
import Stubgen.Proofs.Files.Besides

/-!
# Runs beside a file

A run in a tree goes the same way with one more file in it, as long as the
paths that it uses do not lead to the file.  The listing of a class and the
disassembler of a Java home have names of their own, so that what remains are
the Java home itself, the output, and the log of the disassembler.
-/

namespace Stubgen

/-! ## What commands leave -/

namespace FileTree

/-- What is in a tree is there after a command, which changes logs only. -/
structure IsAfter (start after : FileTree) : Prop
    extends Keeps start.IsLog start after where
  stays : ∀ at_, after.entry? at_ = none → start.entry? at_ = none

theorem IsAfter.refl (tree : FileTree) : IsAfter tree tree :=
  ⟨Keeps.refl _ tree, fun _ => id⟩

theorem IsAfter.run {start tree : FileTree} (h : IsAfter start tree)
    (command : List Text) :
    IsAfter start (Files.ofTree.run command tree).2 := by
  refine ⟨h.toKeeps.trans ((onlyLogs_run command tree).mono fun _ => h.isLog),
    fun at_ hafter => h.stays at_ ?_⟩
  rw [run_ofTree] at hafter
  cases hrun : tree.run command with
  | error e => rwa [hrun] at hafter
  | ok outcome =>
      obtain ⟨answer, after⟩ := outcome
      obtain ⟨_, t, _, _, _, rfl⟩ := run_eq_ok_iff.mp hrun
      rw [hrun] at hafter
      exact entry?_of_logCommand hafter

/-- What can be found is found after a command, too. -/
theorem IsAfter.exists_find {start after : FileTree} (h : IsAfter start after)
    {path : Text} {e : Entry} (hfind : start.find path = .ok e) :
    ∃ e', after.find path = .ok e' := by
  obtain ⟨at_, hlocate, hentry⟩ := find_eq_ok_iff.mp hfind
  cases hafter : after.entry? at_ with
  | none =>
      rw [h.stays at_ hafter] at hentry
      cases hentry
  | some e' => exact ⟨e', find_eq_ok_iff.mpr ⟨at_, h.locate hlocate, hafter⟩⟩

/-- Commands have changed a tree, and have changed it in the same way with one
more file in it. -/
structure RunsBeside (start : FileTree) (place : Location) (bytes : Bytes)
    (bare held : FileTree) : Prop where
  after : IsAfter start bare
  adds : AddsFile place bytes bare held

theorem AddsFile.runsBeside {place : Location} {bytes : Bytes}
    {bare held : FileTree} (h : AddsFile place bytes bare held) :
    RunsBeside bare place bytes bare held :=
  ⟨IsAfter.refl bare, h⟩

/-- What runs at a path keeps no log at a place. -/
def KeepsNoLog (tree : FileTree) (path : Text) (place : Location) : Prop :=
  ∀ t, tree.find path = .ok (.tool t) → ∀ log ∈ t.log, ¬ tree.Opens log place

theorem IsAfter.find_tool {start after : FileTree} (h : IsAfter start after)
    {path : Text} {t : Tool} (hafter : after.find path = .ok (.tool t)) :
    start.find path = .ok (.tool t) := by
  obtain ⟨at_, hlocate, hentry⟩ := find_eq_ok_iff.mp hafter
  exact find_eq_ok_iff.mpr ⟨at_, h.symm.locate hlocate, h.tool at_ t hentry⟩

end FileTree

open FileTree (RunsBeside SameBesides)

section Actions

variable {start : FileTree} {place : Location} {bytes : Bytes}

theorem FileTree.RunsBeside.locate_ne {bare held : FileTree}
    (h : RunsBeside start place bytes bare held) {path : Text}
    (hpath : start.locate path ≠ .ok place) : bare.locate path ≠ .ok place :=
  fun hbare => hpath (h.after.symm.locate hbare)

theorem alike_kind? {path : Text} (hpath : start.locate path ≠ .ok place) :
    Alike (RunsBeside start place bytes) (Files.ofTree.kind? path) :=
  fun _ _ h => ⟨h.adds.kind?_eq (h.locate_ne hpath), h⟩

/-- A command that is there and is not the file runs the same way, if it keeps
no log there. -/
theorem alike_run {command : List Text} {e : Entry}
    (hfind : start.find (command.head?.getD []) = .ok e)
    (hpath : start.locate (command.head?.getD []) ≠ .ok place)
    (hlog : start.KeepsNoLog (command.head?.getD []) place) :
    Alike (RunsBeside start place bytes) (Files.ofTree.run command) := by
  intro bare held h
  have hsame := fun e => h.adds.find_eq_ok_iff (h.locate_ne hpath) (e := e)
  obtain ⟨e', hbare⟩ := h.after.exists_find hfind
  have hvalue := FileTree.answer_eq_of_find hbare ((hsame e').mpr hbare)
  have hafter := h.after.run command
  rw [run_ofTree] at hafter
  rw [run_ofTree, run_ofTree]
  refine ⟨hvalue, hafter, ?_⟩
  cases hrun : bare.run command with
  | error fault =>
      rw [hrun] at hvalue
      rw [except_map_eq_error_iff.mp hvalue]
      exact h.adds
  | ok outcome =>
      obtain ⟨answer, after⟩ := outcome
      obtain ⟨hfree, t, ht, hexecutable, rfl, rfl⟩ :=
        FileTree.run_eq_ok_iff.mp hrun
      have hheld := FileTree.run_eq_ok_iff.mpr
        ⟨hfree, t, (hsame _).mpr ht, hexecutable, rfl, rfl⟩
      rw [hheld]
      refine h.adds.logCommand (fun log hsome hopens => ?_) command
      exact hlog t (h.after.find_tool ht) log hsome (h.after.symm.opens hopens)

/-! ## Sources -/

/-- Reading with a source goes the same way from related states. -/
def ReadsAlike (rel : FileTree → FileTree → Prop)
    (source : Source (StateM FileTree)) : Prop :=
  ∀ classname classpath, Alike rel (source classname classpath)

theorem ReadsAlike.collect {rel : FileTree → FileTree → Prop}
    {resolved : Resolved (StateM FileTree)}
    (hsource : ReadsAlike rel resolved.source) : Alike rel resolved.collect := by
  apply (Alike.mapM _ resolved.classes).bind
  · exact fun _ => alike_pure _
  · exact fun classname => (hsource classname _).bind fun _ => alike_pure _

/-- A place is no listing and no disassembler: its name has another ending. -/
structure IsApart (place : Location) : Prop where
  ending : ∀ name ∈ place.getLast?, name.getLast? ≠ some 'p'
  below : place ≠ []

theorem IsApart.locate_ne (h : IsApart place) {path : Text}
    (hpath : path.getLast? = some 'p') : start.locate path ≠ .ok place := by
  intro hlocate
  rcases FileTree.lastLetter_of_locate hpath (by decide) (by decide)
    hlocate with hroot | ⟨name, hname, hlast⟩
  · exact h.below hroot
  · exact h.ending name hname hlast

theorem getLast?_listingPath (directory classname : Text) :
    (Source.listingPath directory classname).getLast? = some 'p' := by
  rw [Source.listingPath, Path.getLast?_join (by simp)]
  simp

theorem getLast?_toolPath (javaHome : Text) :
    (Source.toolPath javaHome).getLast? = some 'p' := by
  rw [Source.toolPath, Path.getLast?_join (by decide)]
  rfl

theorem ofDirectory_ofTree (tree : FileTree)
    (directory classname classpath : Text) :
    Source.ofDirectory Files.ofTree directory classname classpath tree =
      (if tree.kind? (Source.listingPath directory classname) = some .file then
        (readable (tree.read (Source.listingPath directory classname))).mapError
          (.unreadable (Source.listingPath directory classname))
      else .error (.notFound classname), tree) := by
  unfold Source.ofDirectory
  generalize Source.listingPath directory classname = path
  have hkind : Files.ofTree.kind? path tree = (tree.kind? path, tree) := rfl
  have hread : Files.ofTree.readText path tree =
      (readable (tree.read path), tree) := rfl
  rw [stateM_bind_apply, hkind]
  simp only
  split
  next =>
    rw [stateM_bind_apply, hread]
    cases readable (tree.read path) <;> rfl
  next => rfl

theorem readsAlike_ofDirectory (hplace : IsApart place) (directory : Text) :
    ReadsAlike (RunsBeside start place bytes)
      (Source.ofDirectory Files.ofTree directory) := by
  intro classname classpath bare held h
  have hpath := h.locate_ne
    (hplace.locate_ne (getLast?_listingPath directory classname))
  rw [ofDirectory_ofTree, ofDirectory_ofTree, h.adds.kind?_eq hpath]
  refine ⟨?_, h⟩
  simp only
  -- Why nothing can be read may differ, but then there is no listing.
  split
  next hfile =>
    obtain ⟨e, hfind⟩ := FileTree.exists_find_of_kind? hfile
    rw [h.adds.read_eq hpath hfind]
  next => rfl

theorem readsAlike_ofTool (hplace : IsApart place) {javaHome : Text} {e : Entry}
    (hfind : start.find (Source.toolPath javaHome) = .ok e)
    (hlog : start.KeepsNoLog (Source.toolPath javaHome) place) :
    ReadsAlike (RunsBeside start place bytes)
      (Source.ofTool Files.ofTree javaHome) := by
  intro classname classpath
  apply (alike_run (e := e) hfind ?_ hlog).bind
  · exact fun _ => alike_pure _
  · exact hplace.locate_ne (getLast?_toolPath javaHome)

theorem alike_homeDefect? (hplace : IsApart place) {javaHome : Text}
    (hhome : start.locate javaHome ≠ .ok place) :
    Alike (RunsBeside start place bytes)
      (Source.homeDefect? Files.ofTree javaHome) := by
  apply (alike_kind? hhome).bind
  rintro (_ | _ | _)
  · exact alike_pure _
  · have htool : start.locate (Source.toolPath javaHome) ≠ .ok place :=
      hplace.locate_ne (getLast?_toolPath javaHome)
    apply (alike_kind? htool).bind
    intro kind
    split <;> exact alike_pure _
  · exact alike_pure _

theorem gives_kind? (start : FileTree) (path : Text) :
    Gives (· = start) (Files.ofTree.kind? path) (· = start.kind? path) := by
  rintro _ rfl
  exact ⟨rfl, rfl⟩

/-- A Java home without a defect holds its disassembler. -/
theorem gives_homeDefect? (start : FileTree) (javaHome : Text) :
    Gives (· = start) (Source.homeDefect? Files.ofTree javaHome) fun defect =>
      defect = none → ∃ e, start.find (Source.toolPath javaHome) = .ok e := by
  apply (gives_kind? start javaHome).bind
  rintro (_ | _ | _) _
  · exact gives_pure fun h => by cases h
  · apply (gives_kind? start (Source.toolPath javaHome)).bind
    intro kind hkind
    split
    next hfile =>
      rw [hkind] at hfile
      exact gives_pure fun _ => FileTree.exists_find_of_kind? hfile
    next => exact gives_pure fun h => by cases h
  · exact gives_pure fun h => by cases h

/-! ## Requests -/

/-- The Java home that a request takes its classes from.  Saved listings stand
in for it. -/
def Request.homeInUse? (r : Request) : Option Text :=
  match r.savedIn with
  | some _ => none
  | none => r.javaHome

/-- A request does not use what stands at a place: its Java home is another one,
and the disassembler keeps no log there. -/
structure Request.KeepsOff (start : FileTree) (place : Location) (r : Request) :
    Prop where
  home : ∀ javaHome ∈ r.homeInUse?, start.locate javaHome ≠ .ok place
  unlogged : ∀ javaHome ∈ r.homeInUse?,
    start.KeepsNoLog (Source.toolPath javaHome) place

variable {r : Request}

theorem alike_resolveSource (hplace : IsApart place)
    (hhome : ∀ javaHome ∈ r.homeInUse?, start.locate javaHome ≠ .ok place) :
    Alike (RunsBeside start place bytes) (r.resolveSource Files.ofTree) := by
  unfold Request.resolveSource
  split
  next => exact alike_pure _
  next => exact alike_pure _
  next home hsaved hjavaHome =>
    have huse : r.homeInUse? = some home := by
      rw [Request.homeInUse?, hsaved, hjavaHome]
    apply (alike_homeDefect? hplace (hhome home huse)).bind
    rintro (_ | reason) <;> exact alike_pure _

theorem gives_resolveSource (hplace : IsApart place)
    (hrequest : r.KeepsOff start place) :
    Gives (· = start) (r.resolveSource Files.ofTree) fun outcome =>
      ∀ source, outcome = .ok source →
        ReadsAlike (RunsBeside start place bytes) source := by
  unfold Request.resolveSource
  split
  next directory _ =>
    apply gives_pure
    rintro source ⟨⟩
    exact readsAlike_ofDirectory hplace directory
  next =>
    apply gives_pure
    rintro source ⟨⟩
  next home hsaved hjavaHome =>
    have huse : r.homeInUse? = some home := by
      rw [Request.homeInUse?, hsaved, hjavaHome]
    apply (gives_homeDefect? start home).bind
    rintro (_ | reason) hdefect
    · obtain ⟨e, hfind⟩ := hdefect rfl
      apply gives_pure
      rintro source ⟨⟩
      exact readsAlike_ofTool hplace hfind (hrequest.unlogged home huse)
    · apply gives_pure
      rintro source ⟨⟩

theorem alike_resolveAlone (hplace : IsApart place)
    (hhome : ∀ javaHome ∈ r.homeInUse?, start.locate javaHome ≠ .ok place) :
    Alike (RunsBeside start place bytes) (r.resolveAlone Files.ofTree) := by
  unfold Request.resolveAlone
  split
  next => exact alike_pure _
  next =>
    split
    next => exact alike_pure _
    next =>
      apply (alike_resolveSource hplace hhome).bind
      rintro (fault | source)
      · exact alike_pure _
      · simp only
        split <;> exact alike_pure _

theorem gives_resolveAlone (hplace : IsApart place)
    (hrequest : r.KeepsOff start place) :
    Gives (· = start) (r.resolveAlone Files.ofTree) fun outcome =>
      ∀ resolved, outcome = .ok resolved →
        ReadsAlike (RunsBeside start place bytes) resolved.source := by
  unfold Request.resolveAlone
  split
  next => exact gives_pure fun _ h => by cases h
  next =>
    split
    next => exact gives_pure fun _ h => by cases h
    next =>
      apply (gives_resolveSource hplace hrequest).bind
      rintro (fault | source) hsource
      · exact gives_pure fun _ h => by cases h
      · simp only
        split
        next => exact gives_pure fun _ h => by cases h
        next =>
          apply gives_pure
          rintro resolved ⟨⟩
          exact hsource source rfl

/-! ## Outputs -/

/-- An output does not go on behind a place, and nothing is added to what stands
there. -/
structure OutputKeepsOff (start : FileTree) (place : Location)
    (output : Option Text) (append : Bool) : Prop where
  through : ∀ path ∈ output, ¬ start.GoesThrough path place
  appended : append = true → ¬ IsOutput start output place

theorem writeModule_sameBesides {bare held : FileTree}
    (h : RunsBeside start place bytes bare held) {path : Text} {append : Bool}
    (houtput : OutputKeepsOff start place (some path) append) (code : Text) :
    (writeModule Files.ofTree code path append held).1 =
        (writeModule Files.ofTree code path append bare).1 ∧
      SameBesides place bytes (writeModule Files.ofTree code path append bare).2
        (writeModule Files.ofTree code path append held).2 := by
  have hback := h.after.symm
  obtain ⟨hvalue, hafter⟩ := h.adds.write_sameBesides
    (fun hthrough => houtput.through path rfl (hback.goesThrough hthrough))
    (fun happend hopens =>
      houtput.appended happend ⟨path, rfl, hback.opens hopens⟩)
    (Text.encode (code ++ ['\n']))
  rw [writeModule, stateM_bind_apply, stateM_bind_apply, write_ofTree,
    write_ofTree, hvalue]
  cases (bare.write path append (Text.encode (code ++ ['\n']))).map fun _ => ()
  all_goals exact ⟨rfl, hafter⟩

end Actions
end Stubgen
