import Stubgen.Proofs.Command.Beside
import Stubgen.Proofs.Settings.RoundTrip

/-!
# Settings on the command line and in the file

A setting may be made by a command or in the settings file of the directory.  A
command with the settings of the file filled in goes on without the file in the
same way as the command does with the file, as long as none of its paths leads
to the file itself.
-/

namespace Stubgen

open FileTree (AddsFile RunsBeside SameBesides)

/-- The request, with what it leaves open taken from some settings. -/
def Request.filledFrom (s : Settings) (r : Request) : Request where
  classes := r.classes
  javaHome := match r.javaHome with
    | some home => some home
    | none => s.javaHome
  classPath := match r.classPath with
    | some path => some path
    | none => s.classPath
  skip := match r.skip with
    | some pattern => some pattern
    | none => s.skip
  savedIn := r.savedIn

theorem Request.withSettings_filledFrom (s : Settings) (r : Request) :
    (r.filledFrom s).withSettings {} = r.withSettings s := by
  obtain ⟨classes, javaHome, classPath, skip, savedIn⟩ := r
  obtain ⟨javaHome', classPath', skip', profile⟩ := s
  cases javaHome <;> cases classPath <;> cases skip <;>
    cases javaHome' <;> cases classPath' <;> cases skip' <;> rfl

theorem Request.resolve_filledFrom {m : Type → Type} [Monad m] (s : Settings)
    (r : Request) (files : Files m) :
    (r.filledFrom s).resolve {} files = r.resolve s files := by
  rw [resolve, resolve, withSettings_filledFrom]

section State

variable {σ : Type} {files : Files (StateM σ)} {directory : Text} {state : σ}

/-- What a command goes on with once its settings are loaded. -/
def Command.gatherWith (files : Files (StateM σ)) (s : Settings)
    (r : Request) : StateM σ (Except CommandFault Gathered) := do
  match ← r.resolve s files with
  | .error fault => return .error (.run fault)
  | .ok resolved => return .ok ⟨s, resolved.classpath, ← resolved.collect⟩

theorem Command.gather_of_load {s : Settings}
    (hload : Settings.load files directory state = (.ok s, state))
    (r : Request) :
    gather files directory r state = gatherWith files s r state := by
  simp only [gather, gatherWith, stateM_bind_apply, hload]
  cases (r.resolve s files state).1 with
  | error fault => rfl
  | ok resolved => rfl

/-- What was gathered, put under other settings. -/
def Gathered.under (s : Settings) (g : Gathered) : Gathered :=
  { g with settings := s }

@[simp] theorem Gathered.collected_under (s : Settings) (g : Gathered) :
    (g.under s).collected = g.collected := rfl

@[simp] theorem Gathered.failureLines_under (s : Settings) (g : Gathered) :
    (g.under s).failureLines = g.failureLines := rfl

theorem Command.gatherWith_filledFrom (s : Settings) (r : Request) :
    gatherWith files s r state =
      ((gatherWith files {} (r.filledFrom s) state).1.map (Gathered.under s),
        (gatherWith files {} (r.filledFrom s) state).2) := by
  simp only [gatherWith, stateM_bind_apply, Request.resolve_filledFrom]
  cases (r.resolve s files state).1 with
  | error fault => rfl
  | ok resolved => rfl

/-- The profile that is given, or else the one of some settings. -/
def profileFrom (s : Settings) : Option Python.Profile → Option Python.Profile
  | some profile => some profile
  | none => some s.profile

theorem stubOptions_under (s : Settings) (g : Gathered)
    (profile : Option Python.Profile) :
    Command.stubOptions (g.under s) profile =
      Command.stubOptions g (profileFrom s profile) := by
  cases profile <;> rfl

end State

/-! ## With the settings file and without it -/

/-- A tree is the same as another one but for the settings file of a directory,
which holds some settings. -/
structure AddsSettings (directory : Text) (s : Settings) (place : Location)
    (bytes : Bytes) (bare held : FileTree) : Prop
    extends AddsFile place bytes bare held where
  text : Settings.IsTextOf bytes s
  leads : bare.locate (Settings.filePath directory) = .ok place

namespace AddsSettings

variable {directory : Text} {s : Settings} {place : Location} {bytes : Bytes}
  {bare held : FileTree} {r : Request}

theorem load_held (h : AddsSettings directory s place bytes bare held) :
    Settings.load Files.ofTree directory held = (.ok s, held) := by
  have hfind : held.find (Settings.filePath directory) = .ok (.file bytes) :=
    FileTree.find_eq_ok_iff.mpr
      ⟨place, h.locate_eq_ok_iff.mpr h.leads, h.present⟩
  have hkind : held.kind? (Settings.filePath directory) = some .file := by
    rw [FileTree.kind?, hfind]
  have hread : held.read (Settings.filePath directory) = .ok bytes := by
    rw [FileTree.read, hfind]
    rfl
  rw [load_ofTree, hkind, hread]
  exact congrArg (·, held) (h.text.ofFile (Settings.filePath directory))

theorem load_bare (h : AddsSettings directory s place bytes bare held) :
    Settings.load Files.ofTree directory bare = (.ok {}, bare) := by
  have hkind : bare.kind? (Settings.filePath directory) = none := by
    cases hkind : bare.kind? (Settings.filePath directory) with
    | none => rfl
    | some kind =>
        obtain ⟨e, hfind⟩ := FileTree.exists_find_of_kind? hkind
        obtain ⟨at_, hlocate, hentry⟩ := FileTree.find_eq_ok_iff.mp hfind
        cases h.leads.symm.trans hlocate
        cases h.absent.symm.trans hentry
  rw [load_ofTree, hkind]
  rfl

theorem isApart (h : AddsSettings directory s place bytes bare held) :
    IsApart place := by
  refine ⟨fun name hname hlast => ?_, h.place_ne_nil⟩
  have hpath : (Settings.filePath directory).getLast? = some 'n' := by
    rw [Settings.filePath, Path.getLast?_join (by decide)]
    decide
  rcases FileTree.lastLetter_of_locate hpath (by decide) (by decide)
    h.leads with hroot | ⟨name', hname', hlast'⟩
  · exact h.place_ne_nil hroot
  · cases hname.symm.trans hname'
    cases hlast.symm.trans hlast'

theorem resolve (h : AddsSettings directory s place bytes bare held)
    (hhome : ∀ javaHome ∈ (r.withSettings s).homeInUse?,
      bare.locate javaHome ≠ .ok place) :
    (r.resolve s Files.ofTree held).1 = (r.resolve s Files.ofTree bare).1 ∧
      RunsBeside bare place bytes (r.resolve s Files.ofTree bare).2
        (r.resolve s Files.ofTree held).2 :=
  alike_resolveAlone h.isApart hhome bare held h.runsBeside

theorem gatherWith (h : AddsSettings directory s place bytes bare held)
    (hrequest : (r.withSettings s).KeepsOff bare place) :
    (Command.gatherWith Files.ofTree s r held).1 =
        (Command.gatherWith Files.ofTree s r bare).1 ∧
      RunsBeside bare place bytes
        (Command.gatherWith Files.ofTree s r bare).2
        (Command.gatherWith Files.ofTree s r held).2 := by
  obtain ⟨hvalue, hafter⟩ := h.resolve hrequest.home
  rw [Command.gatherWith, stateM_bind_apply, stateM_bind_apply, hvalue]
  cases hresolve : (r.resolve s Files.ofTree bare).1 with
  | error fault => exact ⟨rfl, hafter⟩
  | ok resolved =>
      have hsource : ReadsAlike (RunsBeside bare place bytes) resolved.source :=
        (gives_resolveAlone h.isApart hrequest bare rfl).1 resolved hresolve
      obtain ⟨hcollected, hcollect⟩ := hsource.collect _ _ hafter
      have hgathered := congrArg (fun collected =>
        (Except.ok ⟨s, resolved.classpath, collected⟩ :
          Except CommandFault Gathered)) hcollected
      exact ⟨hgathered, hcollect⟩

theorem gather (h : AddsSettings directory s place bytes bare held)
    (hrequest : (r.withSettings s).KeepsOff bare place) :
    (Command.gather Files.ofTree directory r held).1 =
        (Command.gather Files.ofTree directory (r.filledFrom s) bare).1.map
          (Gathered.under s) ∧
      RunsBeside bare place bytes
        (Command.gather Files.ofTree directory (r.filledFrom s) bare).2
        (Command.gather Files.ofTree directory r held).2 := by
  rw [Command.gather_of_load h.load_held, Command.gather_of_load h.load_bare]
  have hfilled : Command.gatherWith Files.ofTree s r bare = _ :=
    Command.gatherWith_filledFrom s r
  have hgather := h.gatherWith hrequest
  rwa [hfilled] at hgather

theorem runInspect (h : AddsSettings directory s place bytes bare held)
    (hrequest : (r.withSettings s).KeepsOff bare place) (format : Format) :
    let without := Command.runInspect Files.ofTree directory (r.filledFrom s)
      format bare
    let within := Command.runInspect Files.ofTree directory r format held
    within.1 = without.1 ∧ AddsFile place bytes without.2 within.2 := by
  obtain ⟨hvalue, hafter⟩ := h.gather hrequest
  simp only [Command.runInspect, stateM_bind_apply, hvalue]
  cases (Command.gather Files.ofTree directory (r.filledFrom s) bare).1 with
  | error fault => exact ⟨rfl, hafter.adds⟩
  | ok g => exact ⟨rfl, hafter.adds⟩

theorem runGenerate (h : AddsSettings directory s place bytes bare held)
    (hrequest : (r.withSettings s).KeepsOff bare place)
    (profile : Option Python.Profile) {output : Option Text} {append : Bool}
    (houtput : OutputKeepsOff bare place output append) :
    let without := Command.runGenerate Files.ofTree directory (r.filledFrom s)
      (profileFrom s profile) output append bare
    let within := Command.runGenerate Files.ofTree directory r profile output
      append held
    within.1 = without.1 ∧ SameBesides place bytes without.2 within.2 := by
  obtain ⟨hvalue, hafter⟩ := h.gather hrequest
  simp only [Command.runGenerate, stateM_bind_apply, hvalue]
  cases (Command.gather Files.ofTree directory (r.filledFrom s) bare).1 with
  | error fault => exact ⟨rfl, .inl hafter.adds⟩
  | ok g =>
      simp only [Except.map, stubOptions_under, Gathered.collected_under,
        Gathered.failureLines_under]
      cases output with
      | none => exact ⟨rfl, .inl hafter.adds⟩
      | some path =>
          obtain ⟨hwritten, hsame⟩ := writeModule_sameBesides hafter houtput
            (moduleOf (Command.stubOptions g (profileFrom s profile))
              g.collected.classes)
          simp only
          rw [stateM_bind_apply, stateM_bind_apply, hwritten]
          generalize (writeModule Files.ofTree _ path append _).1 = written
          cases written with
          | error fault => exact ⟨rfl, hsame⟩
          | ok done => exact ⟨rfl, hsame⟩

end AddsSettings

/-- Settings mean the same in the settings file of a directory as they do when
a command makes them and there is no such file.  A run that is compared does not
use the file in any other way: it is not the Java home, no log of the
disassembler, and no output that is added to. -/
structure MeansTheSame (directory : Text) (s : Settings) (place : Location)
    (bytes : Bytes) (bare held : FileTree) : Prop where
  load : Settings.load Files.ofTree directory held = (.ok s, held)
  resolve : ∀ r : Request, (∀ javaHome ∈ (r.withSettings s).homeInUse?,
      bare.locate javaHome ≠ .ok place) →
    (r.resolve s Files.ofTree held).1 =
      ((r.filledFrom s).resolve {} Files.ofTree bare).1
  gather : ∀ r : Request, (r.withSettings s).KeepsOff bare place →
    (Command.gather Files.ofTree directory r held).1 =
        (Command.gather Files.ofTree directory (r.filledFrom s) bare).1.map
          (Gathered.under s) ∧
      AddsFile place bytes
        (Command.gather Files.ofTree directory (r.filledFrom s) bare).2
        (Command.gather Files.ofTree directory r held).2
  generate : ∀ (r : Request) (profile : Option Python.Profile)
    (output : Option Text) (append : Bool),
    (r.withSettings s).KeepsOff bare place →
    OutputKeepsOff bare place output append →
    let without := (Command.generate (r.filledFrom s) (profileFrom s profile)
      output append).run Files.ofTree directory bare
    let within := (Command.generate r profile output append).run Files.ofTree
      directory held
    within.1 = without.1 ∧ SameBesides place bytes without.2 within.2
  inspect : ∀ (r : Request) (format : Format),
    (r.withSettings s).KeepsOff bare place →
    let without := (Command.inspect (r.filledFrom s) format).run Files.ofTree
      directory bare
    let within := (Command.inspect r format).run Files.ofTree directory held
    within.1 = without.1 ∧ AddsFile place bytes without.2 within.2

theorem settings_meanTheSame {directory : Text} {s : Settings}
    {place : Location} {bytes : Bytes} {bare held : FileTree}
    (h : AddsSettings directory s place bytes bare held) :
    MeansTheSame directory s place bytes bare held where
  load := h.load_held
  resolve := by
    intro r hhome
    rw [Request.resolve_filledFrom]
    exact (h.resolve hhome).1
  gather := by
    intro r hrequest
    obtain ⟨hvalue, hafter⟩ := h.gather hrequest
    exact ⟨hvalue, hafter.adds⟩
  generate := fun _ profile _ _ hrequest houtput =>
    h.runGenerate hrequest profile houtput
  inspect := fun _ format hrequest => h.runInspect hrequest format

/-- Settings with characters that are escaped. -/
def shelfSettings : Settings where
  javaHome := some "jdk".toList
  classPath := some "lib \"a\"\n\u0001é".toList
  profile := .extended

def shelfText : Bytes := Text.encode (shelfSettings.text ++ ['\n'])

def shelfListing : Text :=
  "public class demo.Kettle \x7b\n".toList ++
    "  public void boil();\n    descriptor: ()V\n\x7d\n".toList

def shelfTool : Tool where
  answers := [("demo.Kettle".toList, ⟨Text.encode shelfListing, [], .exited 0⟩)]
  log := some "calls".toList

/-- A directory with a disassembler that keeps a log, and the stubs of an
earlier run. -/
def shelf : FileTree where
  root := "/work".toList
  entries :=
    [(["jdk".toList], .directory), (["jdk".toList, "bin".toList], .directory),
      (["jdk".toList, "bin".toList, "javap".toList], .tool shelfTool),
      (["stubs.py".toList], .file (Text.encode "earlier\n".toList))]

def shelfWithSettings : FileTree :=
  shelf.insert [Settings.fileName] (.file shelfText)

def shelfRequest : Request where
  classes := ["demo.Kettle".toList, "demo.Cup".toList]

theorem shelf_addsSettings : AddsSettings "/work".toList shelfSettings
    [Settings.fileName] shelfText shelf shelfWithSettings :=
  ⟨FileTree.addsFile_insert (by decide +kernel) shelfText, Or.inr rfl,
    by decide +kernel⟩

theorem shelfRequest_keepsOff :
    (shelfRequest.withSettings shelfSettings).KeepsOff shelf
      [Settings.fileName] := by
  refine ⟨?_, ?_⟩
  · rintro _ ⟨⟩
    decide +kernel
  · rintro _ ⟨⟩ t ht log hlog hopens
    have hfind : shelf.find (Source.toolPath "jdk".toList) =
        .ok (.tool shelfTool) := by
      decide +kernel
    cases ht.symm.trans hfind
    cases hlog
    have hcalls : shelf.locate "calls".toList ≠ .ok [Settings.fileName] := by
      decide +kernel
    exact hcalls (FileTree.opens_iff.mp hopens).2.1

theorem shelf_outputKeepsOff : OutputKeepsOff shelf [Settings.fileName]
    (some "stubs.py".toList) true := by
  refine ⟨?_, ?_⟩
  · rintro _ ⟨⟩ ⟨p, first, c, rest, hp, hsplit, hwalk⟩
    have hbelow : shelf.below? (Text.dropEndWhile (· = '/') "stubs.py".toList) =
        some "stubs.py".toList := by
      decide +kernel
    cases hp.symm.trans hbelow
    have hone : Path.components "stubs.py".toList = ["stubs.py".toList] := by
      decide +kernel
    rw [hone] at hsplit
    cases first with
    | nil => cases hwalk
    | cons _ _ => simp at hsplit
  · rintro _ ⟨_, ⟨⟩, hopens⟩
    have hstubs : shelf.locate "stubs.py".toList ≠ .ok [Settings.fileName] := by
      decide +kernel
    exact hstubs (FileTree.opens_iff.mp hopens).2.1

/-- One class is found and one is not, and the same stubs are added to those of
the earlier run. -/
theorem shelf_meansTheSame :
    let without := (Command.generate (shelfRequest.filledFrom shelfSettings)
      (some .extended) (some "stubs.py".toList) true).run Files.ofTree
        "/work".toList shelf
    let within := (Command.generate shelfRequest none (some "stubs.py".toList)
      true).run Files.ofTree "/work".toList shelfWithSettings
    AddsSettings "/work".toList shelfSettings [Settings.fileName] shelfText
        shelf shelfWithSettings ∧
      (shelfRequest.withSettings shelfSettings).KeepsOff shelf
        [Settings.fileName] ∧
      OutputKeepsOff shelf [Settings.fileName] (some "stubs.py".toList) true ∧
      without.1.exitCode = 0 ∧ within.1 = without.1 ∧
      SameBesides [Settings.fileName] shelfText without.2 within.2 :=
  ⟨shelf_addsSettings, shelfRequest_keepsOff, shelf_outputKeepsOff,
    by decide +kernel,
    (settings_meanTheSame shelf_addsSettings).generate shelfRequest none
      (some "stubs.py".toList) true shelfRequest_keepsOff shelf_outputKeepsOff⟩

/-- A path that leads to the settings file tells whether it is there: as the
Java home, behind the file, or where stubs are added to it. -/
theorem settingsFile_tells :
    let s : Settings := { classPath := some "lib".toList, profile := .extended }
    let bytes := Text.encode (s.text ++ ['\n'])
    let bare : FileTree := ⟨"/work".toList, []⟩
    let held := bare.insert [Settings.fileName] (.file bytes)
    let atHome : Request :=
      ⟨["demo.Kettle".toList], some Settings.fileName, none, none, none⟩
    let saved : Request :=
      ⟨["demo.Kettle".toList], none, none, none, some "saved".toList⟩
    let without (r : Request) (output : Option Text) (append : Bool) :=
      (Command.generate (r.filledFrom s) (profileFrom s none) output append).run
        Files.ofTree "/work".toList bare
    let within (r : Request) (output : Option Text) (append : Bool) :=
      (Command.generate r none output append).run Files.ofTree "/work".toList
        held
    AddsSettings "/work".toList s [Settings.fileName] bytes bare held ∧
      (within atHome none false).1.stderr =
        "\nError: Java home javastub.config.json: is not a directory\n\n".toList ∧
      (without atHome none false).1.stderr =
        "\nError: Java home javastub.config.json: does not exist\n\n".toList ∧
      (within saved (some "javastub.config.json/stubs.py".toList) false).1 ≠
        (without saved (some "javastub.config.json/stubs.py".toList) false).1 ∧
      (within saved (some Settings.fileName) true).2.contents?
          [Settings.fileName] ≠
        (without saved (some Settings.fileName) true).2.contents?
          [Settings.fileName] := by
  refine ⟨⟨FileTree.addsFile_insert (by decide +kernel) _, Or.inr rfl,
    by decide +kernel⟩, ?_, ?_, ?_, ?_⟩ <;> decide +kernel

end Stubgen
