import Stubgen.Proofs.Python.Stubs
import Stubgen.Run.Output

/-!
# Each class on its own

Classes are read one by one, and what becomes of one does not depend on the
others.  A class that is set aside stands among the failures, and the module of
those that were read is the same as if it had not been asked for.
-/

namespace Stubgen

/-! ## Answers -/

section Answers

variable {m : Type → Type} [Monad m] {α β : Type}

/-- Whatever an action does besides, it gives one value. -/
def Answers (action : m α) (a : α) : Prop := (fun _ => a) <$> action = action

variable [LawfulMonad m]

theorem answers_pure (a : α) : Answers (pure a : m α) a := by
  rw [Answers, map_pure]

/-- What follows an action goes on with the one value that the action gives. -/
theorem Answers.bind {action : m α} {a : α} {f : α → m β} {b : β}
    (haction : Answers action a) (hf : Answers (f a) b) :
    Answers (action >>= f) b := by
  have hgoes : action >>= f = action >>= fun _ => f a := by
    rw [← haction, bind_map_left, bind_map_left]
  rw [Answers, hgoes, map_bind]
  exact bind_congr fun _ => hf

theorem Answers.mapM {f : α → m β} {g : α → β} (hf : ∀ a, Answers (f a) (g a))
    (l : List α) : Answers (l.mapM f) (l.map g) := by
  induction l with
  | nil => exact answers_pure []
  | cons a rest ih =>
      rw [List.mapM_cons, List.map_cons]
      exact (hf a).bind (ih.bind (answers_pure (g a :: rest.map g)))

end Answers

/-! ## Collecting -/

namespace Collected

def append (k l : Collected) : Collected :=
  ⟨k.classes ++ l.classes, k.failures ++ l.failures⟩

/-- The classes and the failures, each kind in order, can be put in one row that
goes by the names. -/
inductive Accounts : List Text → Collected → Prop
  | nil : Accounts [] {}
  | read (c : Class) {names : List Text} {k : Collected} (hk : Accounts names k) :
    Accounts (c.name :: names) ⟨c :: k.classes, k.failures⟩
  | setAside (f : Failure) {names : List Text} {k : Collected}
    (hk : Accounts names k) :
    Accounts (f.classname :: names) ⟨k.classes, f :: k.failures⟩

theorem Accounts.length_eq {names : List Text} {k : Collected}
    (hk : Accounts names k) :
    names.length = k.classes.length + k.failures.length := by
  induction hk with
  | nil => rfl
  | read c _ ih => simp only [List.length_cons, ih]; omega
  | setAside f _ ih => simp only [List.length_cons, ih]; omega

theorem ofOutcomes_append (first second : List Outcome) :
    ofOutcomes (first ++ second) =
      (ofOutcomes first).append (ofOutcomes second) := by
  simp [ofOutcomes, append]

theorem mem_classes_ofOutcomes {l : List Outcome} {c : Class} :
    c ∈ (ofOutcomes l).classes ↔ .ok c ∈ l := by
  rw [ofOutcomes, List.mem_filterMap]
  constructor
  · rintro ⟨o, ho, hc⟩
    cases o with
    | ok d =>
        cases hc
        exact ho
    | error f => cases hc
  · exact fun hc => ⟨_, hc, rfl⟩

end Collected

/-- What becomes of a name. -/
def outcomeAt (fetch : Source Id) (skips : Text → Bool) (classpath name : Text) :
    Outcome :=
  outcomeOf skips name (fetch name classpath)

theorem outcomeOf_eq_ok_iff {skips : Text → Bool} {name : Text}
    {listing : Except Source.Fault Text} {c : Class} :
    outcomeOf skips name listing = .ok c ↔
      ∃ text, listing = .ok text ∧ Listing.parse skips name text = .ok c := by
  cases listing with
  | error fault => simp [outcomeOf]
  | ok text =>
      cases hparse : Listing.parse skips name text <;> simp [outcomeOf, hparse]

theorem classname_of_outcomeOf {skips : Text → Bool} {name : Text}
    {listing : Except Source.Fault Text} {f : Failure}
    (hf : outcomeOf skips name listing = .error f) : f.classname = name := by
  unfold outcomeOf at hf
  split at hf
  · cases hf
    rfl
  · split at hf
    · cases hf
    · cases hf
      rfl

theorem outcomes_eq_map (fetch : Source Id) (skips : Text → Bool)
    (classpath : Text) (names : List Text) :
    outcomes fetch skips classpath names =
      names.map (outcomeAt fetch skips classpath) :=
  List.mapM_pure

theorem collect_eq (fetch : Source Id) (skips : Text → Bool) (classpath : Text)
    (names : List Text) :
    collect fetch skips classpath names =
      .ofOutcomes (names.map (outcomeAt fetch skips classpath)) :=
  congrArg Collected.ofOutcomes (outcomes_eq_map fetch skips classpath names)

/-- A source that gives the listings of another one collects the same, whatever
it does besides. -/
theorem answers_collect {m : Type → Type} [Monad m] [LawfulMonad m]
    {source : Source m} {fetch : Source Id} {classpath : Text}
    (hsource : ∀ name, Answers (source name classpath) (fetch name classpath))
    (skips : Text → Bool) (names : List Text) :
    Answers (collect source skips classpath names)
      (collect fetch skips classpath names) := by
  have houtcome : ∀ name, Answers
      (do return outcomeOf skips name (← source name classpath))
      (outcomeAt fetch skips classpath name) :=
    fun name => (hsource name).bind (answers_pure _)
  rw [collect_eq]
  exact (Answers.mapM houtcome names).bind (answers_pure _)

section Collect

variable (fetch : Source Id) (skips : Text → Bool) (classpath : Text)

theorem accounts_collect (names : List Text) :
    Collected.Accounts names (collect fetch skips classpath names) := by
  rw [collect_eq]
  induction names with
  | nil => exact .nil
  | cons name rest ih =>
      rw [List.map_cons]
      cases houtcome : outcomeAt fetch skips classpath name with
      | ok c =>
          obtain ⟨_, _, hparse⟩ := outcomeOf_eq_ok_iff.mp houtcome
          rw [← Listing.name_of_parse hparse]
          exact .read c ih
      | error f =>
          rw [← classname_of_outcomeOf houtcome]
          exact .setAside f ih

theorem isCoherent_of_mem_collect {names : List Text} {c : Class}
    (hc : c ∈ (collect fetch skips classpath names).classes) :
    c.IsCoherent := by
  rw [collect_eq, Collected.mem_classes_ofOutcomes] at hc
  obtain ⟨name, _, houtcome⟩ := List.mem_map.mp hc
  obtain ⟨_, _, hparse⟩ := outcomeOf_eq_ok_iff.mp houtcome
  exact Listing.isCoherent_of_parse hparse

/-- Whether the class of a name can be read. -/
def isRead (name : Text) : Bool := (outcomeAt fetch skips classpath name).isOk

/-- Names of classes that cannot be read add no class. -/
theorem classes_collect_filter (names : List Text) :
    (collect fetch skips classpath
        (names.filter (isRead fetch skips classpath))).classes =
      (collect fetch skips classpath names).classes := by
  rw [collect_eq, collect_eq]
  induction names with
  | nil => rfl
  | cons name rest ih =>
      cases houtcome : outcomeAt fetch skips classpath name with
      | ok c =>
          have hread : isRead fetch skips classpath name = true := by
            rw [isRead, houtcome]
            rfl
          rw [List.filter_cons_of_pos hread, List.map_cons, List.map_cons,
            houtcome]
          exact congrArg (c :: ·) ih
      | error f =>
          have hread : ¬ isRead fetch skips classpath name = true := by
            rw [isRead, houtcome]
            exact Bool.false_ne_true
          rw [List.filter_cons_of_neg hread, ih, List.map_cons, houtcome]
          rfl

end Collect

/-! ## The module -/

namespace Python

/-- The texts of some classes, in the order of the classes. -/
def AreFragments (options : Options) (classes : List Class)
    (fragments : List Text) : Prop :=
  List.Forall₂ (fun c fragment => classStub? options c = some fragment)
    classes fragments

theorem exists_fragments {options : Options} {classes : List Class}
    (hclasses : ∀ c ∈ classes, c.IsCoherent) :
    ∃ fragments, AreFragments options classes fragments ∧
      classes.mapM (classStub? options) = some fragments := by
  induction classes with
  | nil => exact ⟨[], .nil, rfl⟩
  | cons c rest ih =>
      obtain ⟨accessors, haccessors⟩ := exists_allAccessors? (hclasses c (by simp))
      obtain ⟨fragments, hrest, hfragments⟩ :=
        ih fun d hd => hclasses d (List.mem_cons_of_mem c hd)
      have hstub : classStub? options c = some _ := classStub?_eq_some haccessors
      refine ⟨_ :: fragments, .cons hstub hrest, ?_⟩
      rw [List.mapM_cons, hstub, hfragments]
      rfl

end Python

theorem moduleOf_eq {options : Python.Options} {classes : List Class}
    (hclasses : ∀ c ∈ classes, c.IsCoherent) :
    ∃ fragments, Python.AreFragments options classes fragments ∧
      moduleOf options classes =
        (if options.profile = .extended ∧ classes ≠ [] then
          "from weka.core.classes import JavaObject\n\n\n".toList else []) ++
          fragments.flatten := by
  obtain ⟨fragments, hfragments, hmap⟩ := Python.exists_fragments hclasses
  refine ⟨fragments, hfragments, ?_⟩
  unfold moduleOf Python.module?
  rw [hmap, Option.map_some, Option.getD_some]
  congr 1
  cases hprofile : options.profile <;> cases classes <;>
    simp [Python.preamble?, hprofile]

/-! ## The account -/

/-- What becomes of a class that is asked for does not depend on the others. -/
structure ReadsEachAlone (fetch : Source Id) (skips : Text → Bool)
    (classpath : Text) (options : Python.Options) : Prop where
  outcomes : ∀ names, Stubgen.outcomes fetch skips classpath names =
    names.map fun name => outcomeOf skips name (fetch name classpath)
  accounts : ∀ names,
    Collected.Accounts names (collect fetch skips classpath names) ∧
      names.length = (collect fetch skips classpath names).classes.length +
        (collect fetch skips classpath names).failures.length
  append : ∀ first second, collect fetch skips classpath (first ++ second) =
    (collect fetch skips classpath first).append
      (collect fetch skips classpath second)
  code : ∀ names, ∃ fragments,
    Python.AreFragments options (collect fetch skips classpath names).classes
        fragments ∧
      moduleOf options (collect fetch skips classpath names).classes =
        (if options.profile = .extended ∧
            (collect fetch skips classpath names).classes ≠ [] then
          "from weka.core.classes import JavaObject\n\n\n".toList else []) ++
          fragments.flatten
  undisturbed : ∀ names others,
    names.filter (isRead fetch skips classpath) =
        others.filter (isRead fetch skips classpath) →
      moduleOf options (collect fetch skips classpath names).classes =
        moduleOf options (collect fetch skips classpath others).classes
  answers : ∀ {m : Type → Type} [Monad m] [LawfulMonad m] (source : Source m),
    (∀ name, Answers (source name classpath) (fetch name classpath)) →
      ∀ names, Answers (collect source skips classpath names)
        (collect fetch skips classpath names)

theorem collect_readsEachAlone (fetch : Source Id) (skips : Text → Bool)
    (classpath : Text) (options : Python.Options) :
    ReadsEachAlone fetch skips classpath options where
  outcomes := outcomes_eq_map fetch skips classpath
  accounts := by
    intro names
    have haccounts := accounts_collect fetch skips classpath names
    exact ⟨haccounts, haccounts.length_eq⟩
  append := by
    intro first second
    rw [collect_eq, collect_eq, collect_eq, List.map_append,
      Collected.ofOutcomes_append]
  code := fun _ => moduleOf_eq fun _ hc =>
    isCoherent_of_mem_collect fetch skips classpath hc
  undisturbed := by
    intro names others hnames
    rw [← classes_collect_filter, hnames, classes_collect_filter]
  answers := fun _ hsource => answers_collect hsource skips

/-- A source that has one class, and a listing that ends too early. -/
def kettleSource : Source Id :=
  Source.ofListings [("demo.Kettle".toList, Python.kettleListing),
    ("demo.Cut".toList, "public void boil(int);".toList)]

/-- One class fails ahead of the first that is read, and one between two. -/
theorem kettleSource_readsEachAlone :
    let names := ["demo.Gone", "demo.Kettle", "demo.Cut",
      "demo.Kettle"].map String.toList
    let read := collect kettleSource (fun _ => false) [] names
    read.classes = [Python.kettle, Python.kettle] ∧
      read.failures.map Failure.classname =
        ["demo.Gone", "demo.Cut"].map String.toList ∧
      moduleOf { profile := .extended } read.classes =
        moduleOf { profile := .extended }
          (collect kettleSource (fun _ => false) []
            (["demo.Kettle", "demo.Kettle"].map String.toList)).classes := by
  refine ⟨by decide +kernel, by decide +kernel, ?_⟩
  exact (collect_readsEachAlone kettleSource (fun _ => false) []
    { profile := .extended }).undisturbed _ _ (by decide +kernel)

end Stubgen
