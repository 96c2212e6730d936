import Stubgen.Proofs.Files.Path
import Stubgen.Run.Collect
import Stubgen.Source.Directory
import Stubgen.Source.Tool

/-!
# One table, two sources

A table says what the disassembler answers for each class.  The directory that
goes with it holds the output of the answers that ended well.  The two sources
fail in different ways, but they fail for the same classes: an answer that ended
badly has no file, and output that is no text is a file that is no text.
-/

namespace Stubgen

/-! ## Tables -/

/-- What the disassembler answers for classes; the first entry of a name counts. -/
abbrev AnswerTable := List (Text × Answer)

namespace AnswerTable

/-- The output for a class, if there was any and the command ended well. -/
def savedBytes? (table : AnswerTable) (name : Text) : Option Bytes :=
  match table.lookup name with
  | some answer => if answer.status = .exited 0 then some answer.stdout else none
  | none => none

def listing? (table : AnswerTable) (name : Text) : Option Text :=
  (table.savedBytes? name).bind Text.decode?

/-- A source gives the listing of the table, and fails where there is none. -/
def IsFetched (table : AnswerTable) (name : Text)
    (fetched : Except Source.Fault Text) : Prop :=
  ∀ text, fetched = .ok text ↔ table.listing? name = some text

end AnswerTable

section Systems

variable {σ : Type} {files : Files (StateM σ)} {table : AnswerTable}
  {inv : σ → Prop}

/-- A system has a Java home whose disassembler answers by a table. -/
structure AnswersBy (files : Files (StateM σ)) (home classpath : Text)
    (table : AnswerTable) (inv : σ → Prop) : Prop where
  homeKind : Gives inv (files.kind? home) (· = some .directory)
  toolKind : Gives inv (files.kind? (Source.toolPath home)) (· = some .file)
  recorded : ∀ name answer, Path.IsFileName name →
    table.lookup name = some answer →
      Gives inv (files.run
          (Source.toolCommand (Source.toolPath home) name classpath))
        (· = .ok answer)
  missing : ∀ name, Path.IsFileName name → table.lookup name = none →
    Gives inv (files.run
        (Source.toolCommand (Source.toolPath home) name classpath))
      fun outcome => ∀ answer, outcome = .ok answer → answer.status ≠ .exited 0

/-- A system has a directory that holds the output of the table's answers that
ended well, each in the file of its class, and no files of other classes. -/
structure HoldsListings (files : Files (StateM σ)) (directory : Text)
    (table : AnswerTable) (inv : σ → Prop) : Prop where
  kind : ∀ name bytes, Path.IsFileName name →
    table.savedBytes? name = some bytes →
      Gives inv (files.kind? (Source.listingPath directory name))
        (· = some .file)
  read : ∀ name bytes, Path.IsFileName name →
    table.savedBytes? name = some bytes →
      Gives inv (files.read (Source.listingPath directory name)) (· = .ok bytes)
  missing : ∀ name, Path.IsFileName name → table.savedBytes? name = none →
    Gives inv (files.kind? (Source.listingPath directory name))
      (· ≠ some .file)

/-- A source gives the listings of a table on a class path. -/
def ReadsFrom (table : AnswerTable) (classpath : Text) (inv : σ → Prop)
    (source : Source (StateM σ)) : Prop :=
  ∀ name, Path.IsFileName name →
    Gives inv (source name classpath) (table.IsFetched name)

theorem isFetched_listingOf_recorded {name : Text} {answer : Answer}
    (hlookup : table.lookup name = some answer) (command : List Text) :
    table.IsFetched name (Source.listingOf command (.ok answer)) := by
  intro text
  unfold Source.listingOf AnswerTable.listing? AnswerTable.savedBytes?
  rw [hlookup]
  by_cases hstatus : answer.status = .exited 0
  · simp only [if_pos hstatus, Option.bind_some]
    cases Text.decode? answer.stdout <;> simp
  · simp [hstatus]

theorem isFetched_listingOf_missing {name : Text}
    {outcome : Except SystemError Answer}
    (hlookup : table.lookup name = none)
    (houtcome : ∀ answer, outcome = .ok answer → answer.status ≠ .exited 0)
    (command : List Text) :
    table.IsFetched name (Source.listingOf command outcome) := by
  intro text
  unfold Source.listingOf AnswerTable.listing? AnswerTable.savedBytes?
  rw [hlookup]
  cases outcome with
  | error e => simp
  | ok answer => simp [houtcome answer rfl]

theorem AnswersBy.readsFrom {home classpath : Text}
    (h : AnswersBy files home classpath table inv) :
    ReadsFrom table classpath inv (Source.ofTool files home) := by
  intro name hname
  cases hlookup : table.lookup name with
  | some answer =>
      refine (h.recorded name answer hname hlookup).bind ?_
      rintro _ rfl
      exact gives_pure (isFetched_listingOf_recorded hlookup _)
  | none =>
      refine (h.missing name hname hlookup).bind fun outcome houtcome => ?_
      exact gives_pure (isFetched_listingOf_missing hlookup houtcome _)

theorem isFetched_saved {name : Text} {bytes : Bytes}
    (hsaved : table.savedBytes? name = some bytes) (path : Text) :
    table.IsFetched name (match readable (.ok bytes) with
      | .ok text => .ok text
      | .error fault => .error (.unreadable path fault)) := by
  intro text
  rw [AnswerTable.listing?, hsaved, Option.bind_some, readable]
  cases Text.decode? bytes <;> simp

theorem HoldsListings.readsFrom {directory : Text}
    (h : HoldsListings files directory table inv) (classpath : Text) :
    ReadsFrom table classpath inv (Source.ofDirectory files directory) := by
  intro name hname
  cases hsaved : table.savedBytes? name with
  | some bytes =>
      refine (h.kind name bytes hname hsaved).bind ?_
      rintro _ rfl
      rw [if_pos rfl]
      have hread : Gives inv
          (files.readText (Source.listingPath directory name))
          (· = readable (.ok bytes)) := by
        refine (h.read name bytes hname hsaved).bind ?_
        rintro _ rfl
        exact gives_pure rfl
      refine hread.bind ?_
      rintro _ rfl
      have hfetched :=
        isFetched_saved hsaved (Source.listingPath directory name)
      cases hreadable : readable (.ok bytes) with
      | ok text =>
          rw [hreadable] at hfetched
          exact gives_pure hfetched
      | error fault =>
          rw [hreadable] at hfetched
          exact gives_pure hfetched
  | none =>
      refine (h.missing name hname hsaved).bind fun kind hkind => ?_
      rw [if_neg hkind]
      refine gives_pure fun text => ?_
      rw [AnswerTable.listing?, hsaved]
      simp

/-! ## Collecting -/

/-- What a failure tells whatever the source is: the class, and what is wrong
with its listing if there is one. -/
abbrev Cause := Text × Option Listing.Fault

def Failure.cause (f : Failure) : Cause :=
  (f.classname, match f.fault with
    | .source _ => none
    | .listing fault => some fault)

namespace AnswerTable

/-- What becomes of a class. -/
def outcome (table : AnswerTable) (skips : Text → Bool) (name : Text) :
    Except Cause Class :=
  match table.listing? name with
  | none => .error (name, none)
  | some text =>
    (Listing.parse skips name text).mapError fun fault => (name, some fault)

def classes (table : AnswerTable) (skips : Text → Bool) (names : List Text) :
    List Class :=
  names.filterMap fun name => (table.outcome skips name).toOption

def causes (table : AnswerTable) (skips : Text → Bool) (names : List Text) :
    List Cause :=
  names.filterMap fun name => match table.outcome skips name with
    | .ok _ => none
    | .error cause => some cause

end AnswerTable

theorem mapError_cause_outcomeOf {name : Text}
    {fetched : Except Source.Fault Text} (hfetched : table.IsFetched name fetched)
    (skips : Text → Bool) :
    (outcomeOf skips name fetched).mapError Failure.cause =
      table.outcome skips name := by
  unfold outcomeOf AnswerTable.outcome
  cases fetched with
  | error fault =>
      have hnone : table.listing? name = none := by
        rw [Option.eq_none_iff_forall_ne_some]
        intro text htext
        cases (hfetched text).mpr htext
      rw [hnone]
      rfl
  | ok text =>
      rw [(hfetched text).mp rfl]
      simp only
      cases Listing.parse skips name text <;> rfl

/-- The outcomes for some names are those of a table. -/
def AreOutcomes (table : AnswerTable) (skips : Text → Bool) :
    List Text → List Outcome → Prop :=
  List.Forall₂ fun name o => o.mapError Failure.cause = table.outcome skips name

/-- What was collected for some names is what a table has for them. -/
structure CollectsBy (table : AnswerTable) (skips : Text → Bool)
    (names : List Text) (k : Collected) : Prop where
  classes : k.classes = table.classes skips names
  causes : k.failures.map Failure.cause = table.causes skips names

theorem AreOutcomes.collectsBy {skips : Text → Bool} {names : List Text}
    {l : List Outcome} (h : AreOutcomes table skips names l) :
    CollectsBy table skips names (.ofOutcomes l) := by
  induction h with
  | nil => exact ⟨rfl, rfl⟩
  | @cons name o names l ho _ ih =>
      obtain ⟨hclasses, hcauses⟩ := ih
      cases o with
      | ok c =>
          have hname : table.outcome skips name = .ok c := ho.symm
          refine ⟨?_, ?_⟩
          · rw [AnswerTable.classes, List.filterMap_cons_some (by rw [hname]; rfl)]
            exact congrArg (c :: ·) hclasses
          · rw [AnswerTable.causes, List.filterMap_cons_none (by rw [hname])]
            exact hcauses
      | error f =>
          have hname : table.outcome skips name = .error f.cause := ho.symm
          refine ⟨?_, ?_⟩
          · rw [AnswerTable.classes, List.filterMap_cons_none (by rw [hname]; rfl)]
            exact hclasses
          · rw [AnswerTable.causes, List.filterMap_cons_some (by rw [hname])]
            exact congrArg (f.cause :: ·) hcauses

theorem ReadsFrom.outcomes {classpath : Text} {source : Source (StateM σ)}
    (h : ReadsFrom table classpath inv source) (skips : Text → Bool)
    {names : List Text} (hnames : ∀ name ∈ names, Path.IsFileName name) :
    Gives inv (outcomes source skips classpath names)
      (AreOutcomes table skips names) :=
  Gives.mapM fun name hname => (h name (hnames name hname)).bind
    fun _ hfetched => gives_pure (mapError_cause_outcomeOf hfetched skips)

theorem ReadsFrom.collect {classpath : Text} {source : Source (StateM σ)}
    (h : ReadsFrom table classpath inv source) (skips : Text → Bool)
    {names : List Text} (hnames : ∀ name ∈ names, Path.IsFileName name) :
    Gives inv (collect source skips classpath names)
      (CollectsBy table skips names) :=
  (h.outcomes skips hnames).bind fun _ houtcomes =>
    gives_pure houtcomes.collectsBy

end Systems

end Stubgen
