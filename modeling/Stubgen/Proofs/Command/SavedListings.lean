import Stubgen.Proofs.Run.Output
import Stubgen.Proofs.Source.Archive

/-!
# Saved listings in the place of a disassembler

Classes may be read by a disassembler or from listings that were saved before.
If the directory holds what the disassembler would answer, the two give the same
classes, the same failures but for the way in which a source fails, and the same
module.
-/

namespace Stubgen

/-! ## Requests -/

namespace Request

/-- The request with saved listings in the place of a Java home, which may be
named or not. -/
def offline (directory : Text) (javaHome : Option Text) (r : Request) : Request :=
  { r with javaHome := javaHome, savedIn := some directory }

/-- Why a request is refused before its source is looked for. -/
def refusal? (r : Request) (s : Settings) : Option RunFault :=
  if r.classes.isEmpty then some .noClasses
  else
    match skipsOf (r.withSettings s).skip with
    | .error fault => some fault
    | .ok _ => none

theorem resolve_of_refusal? {m : Type → Type} [Monad m] {r : Request}
    {s : Settings} {fault : RunFault} (h : r.refusal? s = some fault)
    (files : Files m) : r.resolve s files = pure (.error fault) := by
  unfold refusal? at h
  unfold resolve resolveAlone
  have hclasses : (r.withSettings s).classes = r.classes := rfl
  rw [hclasses]
  split at h
  next hempty =>
    cases h
    rw [if_pos hempty]
  next hempty =>
    rw [if_neg hempty]
    cases hskips : skipsOf (r.withSettings s).skip with
    | error skipFault =>
        rw [hskips] at h
        cases h
        rfl
    | ok skips =>
        rw [hskips] at h
        cases h

theorem exists_skips_of_refusal? {r : Request} {s : Settings}
    (h : r.refusal? s = none) : r.classes ≠ [] ∧
      ∃ skips, skipsOf (r.withSettings s).skip = .ok skips := by
  unfold refusal? at h
  split at h
  next => cases h
  next hempty =>
    refine ⟨by simpa using hempty, ?_⟩
    split at h
    next => cases h
    next skips hskips => exact ⟨skips, hskips⟩

end Request

section Systems

variable {σ : Type} {files : Files (StateM σ)} {table : AnswerTable}
  {inv : σ → Prop} {there home directory classpath : Text} {r : Request}
  {s : Settings} {skips : Text → Bool}

/-- A request can be run on the listings of a table. -/
def IsReady (table : AnswerTable) (inv : σ → Prop) (classpath : Text)
    (skips : Text → Bool) (classes : List Text)
    (resolved : Except RunFault (Resolved (StateM σ))) : Prop :=
  ∃ source, resolved = .ok ⟨source, skips, classpath, classes⟩ ∧
    ReadsFrom table classpath inv source

theorem gives_resolve {source : Source (StateM σ)} (hclasses : r.classes ≠ [])
    (hskips : Request.skipsOf (r.withSettings s).skip = .ok skips)
    (hsource : Gives inv ((r.withSettings s).resolveSource files)
      (· = .ok source))
    (hpath : (r.withSettings s).classPath = some classpath)
    (hreads : ReadsFrom table classpath inv source) :
    Gives inv (r.resolve s files)
      (IsReady table inv classpath skips r.classes) := by
  have hempty : ¬ (r.withSettings s).classes.isEmpty = true := by
    simpa [Request.withSettings] using hclasses
  have hclasspath : (r.withSettings s).resolveClassPath = .ok classpath := by
    rw [Request.resolveClassPath, hpath]
  rw [Request.resolve, Request.resolveAlone, if_neg hempty, hskips]
  refine hsource.bind ?_
  rintro _ rfl
  simp only [hclasspath]
  exact gives_pure ⟨source, rfl, hreads⟩

theorem AnswersBy.resolveSource (h : AnswersBy files home classpath table inv)
    (hsaved : r.savedIn = none) (hhome : r.javaHome = some home) :
    Gives inv (r.resolveSource files) (· = .ok (Source.ofTool files home)) := by
  have hdefect : Gives inv (Source.homeDefect? files home) (· = none) := by
    refine h.homeKind.bind ?_
    rintro _ rfl
    refine h.toolKind.bind ?_
    rintro _ rfl
    exact gives_pure rfl
  rw [Request.resolveSource, hsaved, hhome]
  refine hdefect.bind ?_
  rintro _ rfl
  exact gives_pure rfl

theorem gives_resolveSource_saved (hsaved : r.savedIn = some directory) :
    Gives inv (r.resolveSource files)
      (· = .ok (Source.ofDirectory files directory)) := by
  rw [Request.resolveSource, hsaved]
  exact gives_pure rfl

/-! ## Runs -/

/-- What a command goes on with is read from a table. -/
def IsGathered (table : AnswerTable) (s : Settings) (classpath : Text)
    (skips : Text → Bool) (classes : List Text)
    (gathered : Except CommandFault Gathered) : Prop :=
  ∃ k, gathered = .ok ⟨s, classpath, k⟩ ∧ CollectsBy table skips classes k

theorem gives_gather
    (hload : Gives inv (Settings.load files there) (· = .ok s))
    (hresolve : Gives inv (r.resolve s files)
      (IsReady table inv classpath skips r.classes))
    (hnames : ∀ name ∈ r.classes, Path.IsFileName name) :
    Gives inv (Command.gather files there r)
      (IsGathered table s classpath skips r.classes) := by
  refine hload.bind ?_
  rintro _ rfl
  refine hresolve.bind ?_
  rintro _ ⟨source, rfl, hsource⟩
  refine (hsource.collect skips hnames).bind fun k hk => ?_
  exact gives_pure ⟨k, rfl, hk⟩

theorem gives_refused {fault : RunFault}
    (hload : Gives inv (Settings.load files there) (· = .ok s))
    (hrefusal : r.refusal? s = some fault) (profile : Option Python.Profile)
    (output : Option Text) (append : Bool) :
    Gives inv (Command.runGenerate files there r profile output append)
      (· = .failure [] (.run fault)) := by
  have hgather : Gives inv (Command.gather files there r)
      (· = .error (.run fault)) := by
    refine hload.bind ?_
    rintro _ rfl
    simp only [Request.resolve_of_refusal? hrefusal, pure_bind]
    exact gives_pure rfl
  refine hgather.bind ?_
  rintro _ rfl
  exact gives_pure rfl

/-- The text of the module of the classes of a table. -/
def AnswerTable.code (table : AnswerTable) (options : Python.Options)
    (skips : Text → Bool) (names : List Text) : Text :=
  moduleOf options (table.classes skips names)

/-- A run has written a module with a line end behind it, and nothing else: to
the standard output, or to the files as they are by then. -/
structure Delivers (files : Files (StateM σ)) (inv : σ → Prop)
    (output : Option Text) (append : Bool) (code : Text)
    (result : Report × σ) : Prop where
  printed : output = none → result.1.exitCode = 0 ∧
    result.1.stdout = code ++ ['\n'] ∧ inv result.2
  written : ∀ path, output = some path → ∃ state, inv state ∧
    result.1.stdout = [] ∧
    result.2 =
      (files.write path append (Text.encode (code ++ ['\n'])) state).2 ∧
    (result.1.exitCode = 0 ↔
      (files.write path append (Text.encode (code ++ ['\n'])) state).1 = .ok ())

/-- What the stubs are written with, on a class path that is known. -/
def optionsOn (classpath : Text) (profile : Python.Profile) : Python.Options where
  profile := profile
  classpath := if classpath.isEmpty then none else some classpath

theorem delivers_runGenerate {profile : Option Python.Profile}
    {output : Option Text} {append : Bool}
    (hgather : Gives inv (Command.gather files there r)
      (IsGathered table s classpath skips r.classes)) {state : σ}
    (hstate : inv state) :
    Delivers files inv output append
      (table.code (optionsOn classpath (profile.getD s.profile)) skips
        r.classes)
      (Command.runGenerate files there r profile output append state) := by
  obtain ⟨⟨k, hk, hcollects⟩, hafter⟩ := hgather state hstate
  have hmodule : moduleOf (Command.stubOptions ⟨s, classpath, k⟩ profile)
      k.classes = table.code (optionsOn classpath (profile.getD s.profile))
        skips r.classes := by
    rw [hcollects.classes]
    rfl
  rw [Command.runGenerate, stateM_bind_apply, hk]
  simp only [hmodule]
  cases output with
  | none =>
      refine ⟨fun _ => ⟨rfl, rfl, hafter⟩, ?_⟩
      intro path hpath
      cases hpath
  | some path =>
      refine ⟨fun hnone => absurd hnone (Option.some_ne_none path), ?_⟩
      rintro _ ⟨⟩
      refine ⟨_, hafter, ?_⟩
      simp only [stateM_bind_apply, writeModule_apply]
      generalize files.write path append _ _ = written
      obtain ⟨outcome, after⟩ := written
      cases outcome with
      | error e =>
          refine ⟨rfl, rfl, fun hexit => absurd hexit Nat.one_ne_zero, ?_⟩
          intro hok
          cases hok
      | ok _ => exact ⟨rfl, rfl, fun _ => rfl, fun _ => rfl⟩

end Systems

/-! ## The two sources -/

section Sources

variable {σ σ' : Type} {files : Files (StateM σ)} {files' : Files (StateM σ')}
  {home directory classpath : Text} {table : AnswerTable} {inv : σ → Prop}
  {inv' : σ' → Prop}

/-- Two lists of outcomes differ in the ways in which sources fail at most. -/
def SameOutcomes (l l' : List Outcome) : Prop :=
  l.map (·.mapError Failure.cause) = l'.map (·.mapError Failure.cause)

/-- The same classes were read, and the same were set aside. -/
structure SameCollected (k k' : Collected) : Prop where
  classes : k.classes = k'.classes
  causes : k.failures.map Failure.cause = k'.failures.map Failure.cause

theorem AreOutcomes.map_eq {skips : Text → Bool} {names : List Text}
    {l : List Outcome} (h : AreOutcomes table skips names l) :
    l.map (·.mapError Failure.cause) = names.map (table.outcome skips) := by
  induction h with
  | nil => rfl
  | cons ho _ ih => rw [List.map_cons, List.map_cons, ho, ih]

/-- Saved listings stand in for a disassembler. -/
structure StandsIn (files : Files (StateM σ)) (home classpath : Text)
    (inv : σ → Prop) (files' : Files (StateM σ')) (directory : Text)
    (inv' : σ' → Prop) : Prop where
  outcomes : ∀ (skips : Text → Bool) (names : List Text) (classpath' : Text),
    (∀ name ∈ names, Path.IsFileName name) →
    ∀ state state', inv state → inv' state' →
      SameOutcomes
        (outcomes (Source.ofTool files home) skips classpath names state).1
        (outcomes (Source.ofDirectory files' directory) skips classpath' names
          state').1
  collect : ∀ (skips : Text → Bool) (names : List Text) (classpath' : Text),
    (∀ name ∈ names, Path.IsFileName name) →
    ∀ state state', inv state → inv' state' →
      SameCollected
        (collect (Source.ofTool files home) skips classpath names state).1
        (collect (Source.ofDirectory files' directory) skips classpath' names
          state').1
  generate : ∀ (r : Request) (s : Settings) (there there' : Text)
    (javaHome : Option Text) (profile : Option Python.Profile)
    (output : Option Text) (append : Bool),
    Gives inv (Settings.load files there) (· = .ok s) →
    Gives inv' (Settings.load files' there') (· = .ok s) →
    r.savedIn = none → (r.withSettings s).javaHome = some home →
    (r.withSettings s).classPath = some classpath →
    (∀ name ∈ r.classes, Path.IsFileName name) → r.refusal? s = none →
    ∃ code, (∀ state, inv state → Delivers files inv output append code
        ((Command.generate r profile output append).run files there state)) ∧
      ∀ state', inv' state' → Delivers files' inv' output append code
        ((Command.generate (r.offline directory javaHome) profile output
          append).run files' there' state')
  refuse : ∀ (r : Request) (s : Settings) (there there' : Text)
    (javaHome : Option Text) (profile : Option Python.Profile)
    (output : Option Text) (append : Bool) (fault : RunFault),
    Gives inv (Settings.load files there) (· = .ok s) →
    Gives inv' (Settings.load files' there') (· = .ok s) →
    r.refusal? s = some fault →
    Gives inv ((Command.generate r profile output append).run files there)
        (· = .failure [] (.run fault)) ∧
      Gives inv' ((Command.generate (r.offline directory javaHome) profile
          output append).run files' there') (· = .failure [] (.run fault))

theorem savedListings_standIn
    (hlive : AnswersBy files home classpath table inv)
    (hsaved : HoldsListings files' directory table inv') :
    StandsIn files home classpath inv files' directory inv' where
  outcomes := by
    intro skips names classpath' hnames state state' hstate hstate'
    obtain ⟨hl, _⟩ := hlive.readsFrom.outcomes skips hnames state hstate
    obtain ⟨hl', _⟩ :=
      (hsaved.readsFrom classpath').outcomes skips hnames state' hstate'
    exact hl.map_eq.trans hl'.map_eq.symm
  collect := by
    intro skips names classpath' hnames state state' hstate hstate'
    obtain ⟨hk, _⟩ := hlive.readsFrom.collect skips hnames state hstate
    obtain ⟨hk', _⟩ :=
      (hsaved.readsFrom classpath').collect skips hnames state' hstate'
    exact ⟨hk.classes.trans hk'.classes.symm, hk.causes.trans hk'.causes.symm⟩
  generate := by
    intro r s there there' javaHome profile output append hload hload' hnone
      hhome hpath hnames hrefusal
    obtain ⟨hclasses, skips, hskips⟩ :=
      Request.exists_skips_of_refusal? hrefusal
    have hgather := gives_gather hload (gives_resolve hclasses hskips
      (hlive.resolveSource hnone hhome) hpath hlive.readsFrom) hnames
    have hgather' := gives_gather (r := r.offline directory javaHome) hload'
      (gives_resolve hclasses hskips (gives_resolveSource_saved rfl) hpath
        (hsaved.readsFrom classpath)) hnames
    exact ⟨_, fun _ hstate => delivers_runGenerate hgather hstate,
      fun _ hstate => delivers_runGenerate hgather' hstate⟩
  refuse := by
    intro r s there there' javaHome profile output append fault hload hload'
      hrefusal
    exact ⟨gives_refused hload hrefusal profile output append,
      gives_refused (r := r.offline directory javaHome) hload' hrefusal profile
        output append⟩

end Sources

/-- The listing of a class with one method. -/
def cupListing : Text :=
  "public class demo.Cup \x7b\n  public int size();\n    descriptor: ()I\n\x7d\n".toList

/-- A listing, output that is no text, output ahead of a failure, no output, and
a listing that ends too early. -/
def cups : AnswerTable :=
  [("demo.Cup".toList, ⟨Text.encode cupListing, [], .exited 0⟩),
    ("demo.Raw".toList, ⟨[0xFF], [], .exited 0⟩),
    ("demo.Late".toList, ⟨Text.encode cupListing, [0xFF], .exited 1⟩),
    ("demo.Void".toList, ⟨[], [], .exited 0⟩),
    ("demo.Cut".toList,
      ⟨Text.encode "public int size();".toList, [], .exited 0⟩)]

def cupNames : List Text :=
  ["demo.Cup", "demo.Raw", "demo.Late", "demo.Void", "demo.Cut", "demo.Gone",
    "demo.Cup"].map String.toList

theorem cups_standIn :
    let read := (collect (Source.ofTool Files.ofTree "jdk".toList)
      (fun _ => false) "lib".toList cupNames (archive cups)).1
    let r : Request :=
      ⟨cupNames, some "jdk".toList, some "lib".toList, none, none⟩
    SameCollected read (collect (Source.ofDirectory Files.ofTree "saved".toList)
        (fun _ => false) [] cupNames (archive cups)).1 ∧
      read.failures.map Failure.classname =
        ["demo.Raw", "demo.Late", "demo.Cut", "demo.Gone"].map String.toList ∧
      ((Command.generate r none none false).run Files.ofTree "/work".toList
          (archive cups)).1.stdout =
        ((Command.generate (r.offline "saved".toList none) none none false).run
          Files.ofTree "/work".toList (archive cups)).1.stdout := by
  have hstands := savedListings_standIn
    (archive_answersBy cups (by decide : Path.IsNulFree "lib".toList))
    (archive_holdsListings cups)
  have hnames : ∀ name ∈ cupNames, Path.IsFileName name := by decide
  have hload : Gives (· = archive cups)
      (Settings.load Files.ofTree "/work".toList) (· = .ok {}) := by
    rintro _ rfl
    exact ⟨by decide +kernel, rfl⟩
  refine ⟨hstands.collect _ _ _ hnames _ _ rfl rfl, by decide +kernel, ?_⟩
  obtain ⟨code, hlive, hsaved⟩ := hstands.generate
    ⟨cupNames, some "jdk".toList, some "lib".toList, none, none⟩ {} _ _ none
    none none false hload hload rfl rfl rfl hnames (by decide +kernel)
  rw [((hlive _ rfl).printed rfl).2.1, ((hsaved _ rfl).printed rfl).2.1]

end Stubgen
