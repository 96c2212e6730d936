import Stubgen.Python.Stub
import Stubgen.Proofs.Listing.Parsed
import Stubgen.Proofs.Python.Writer
import Mathlib.Data.List.Nodup
import Mathlib.Tactic

/-!
# The stubs of a class account for its methods

A class is written as a head and a list of stubs, each of which stands for one
method.  Marks decide which methods have a stub of their own, and properties
decide which methods have an accessor; the two agree in a coherent class.  Hence
no method is lost and none is written twice.
-/

namespace Stubgen.Python

inductive Stub
  | plain (place : ℕ)
  | getter (p : Property)
  | setter (p : Property)
  deriving DecidableEq

namespace Stub

/-- The place of the method that a stub stands for. -/
def place : Stub → ℕ
  | plain i => i
  | getter p => p.read
  | setter p => p.write

def isAccessor : Stub → Bool
  | plain _ => false
  | getter _ => true
  | setter _ => true

/-- The steps that write a stub which stands for a method. -/
def steps (m : Method) : Stub → List Step
  | plain _ => methodSteps m
  | getter p =>
    .line "@property".toList ::
      functionSteps
        ("def ".toList ++ identifier p.name ++ "(self):".toList)
        (citation m) "return None".toList
  | setter p =>
    .line ('@' :: identifier p.name ++ ".setter".toList) ::
      functionSteps
        ("def ".toList ++ identifier p.name ++ "(self, value):".toList)
        (citation m) "pass".toList

/-- The steps that write a stub in a class. -/
def stepsIn (c : Class) (s : Stub) : List Step :=
  match c.methods[s.place]? with
  | some m => s.steps m
  | none => []

def textIn (c : Class) (s : Stub) : Text := textFrom 1 (s.stepsIn c)

end Stub

/-- The steps that write the head of a class: everything ahead of its stubs. -/
def headSteps (options : Options) (c : Class) : List Step :=
  [.line ("class ".toList ++ c.simpleName ++ ['('] ++
      baseClass options.profile ++ "):".toList),
    .indent, .docstring (classCitations options c), .separator,
    .line "def __init__(self, jobject):".toList, .indent,
    .line (constructorBody options c), .separator, .dedent]

/-- The places of the methods of one kind. -/
def placesOf (kind : Method → Bool) (c : Class) : List ℕ :=
  (c.methods.zipIdx.filter fun x => kind x.1).map (·.2)

def accessorStubs (properties : List Property) : List Stub :=
  properties.flatMap fun p => [.getter p, .setter p]

/-- The stubs of a class, as they are written. -/
def stubs (c : Class) : List Stub :=
  (placesOf hasStub c).map .plain ++ accessorStubs c.properties

/-- The docstring of a function, which cites a method. -/
def citesMethod : Step → Bool
  | .docstring (line :: _) => "method: ".toList.isPrefixOf line
  | _ => false

/-- Whether a method is neither part of a property nor written as a method. -/
def isLeftOut (m : Method) : Bool :=
  !m.isProperty && (m.isStatic || m.isConstructor)

/-! ## One stub -/

theorem isBlock_functionSteps (head doc body : Text) :
    IsBlock (functionSteps head doc body) := by
  intro level
  simp [levelFrom, functionSteps, Step.levelAfter]

theorem isBlock_steps (m : Method) (s : Stub) : IsBlock (s.steps m) := by
  cases s with
  | plain i => exact isBlock_functionSteps _ _ _
  | getter p => exact isBlock_functionSteps _ _ _
  | setter p => exact isBlock_functionSteps _ _ _

theorem isBlock_stepsIn (c : Class) (s : Stub) : IsBlock (s.stepsIn c) := by
  unfold Stub.stepsIn
  split
  next m _ => exact isBlock_steps m s
  next => exact isBlock_nil

theorem countP_citesMethod_functionSteps (head body : Text) (m : Method) :
    (functionSteps head (citation m) body).countP citesMethod = 1 := by
  have hcites : "method: ".toList.isPrefixOf (citation m) = true := by
    rw [List.isPrefixOf_iff_prefix]
    exact ⟨m.name ++ m.signature.display, (List.append_assoc _ _ _).symm⟩
  simp only [functionSteps, List.countP_cons, List.countP_nil, citesMethod,
    hcites, if_true]
  rfl

theorem countP_citesMethod_steps (m : Method) (s : Stub) :
    (s.steps m).countP citesMethod = 1 := by
  cases s with
  | plain i => exact countP_citesMethod_functionSteps _ _ m
  | getter p =>
      rw [Stub.steps, List.countP_cons_of_neg (by simp [citesMethod])]
      exact countP_citesMethod_functionSteps _ _ m
  | setter p =>
      rw [Stub.steps, List.countP_cons_of_neg (by simp [citesMethod])]
      exact countP_citesMethod_functionSteps _ _ m

theorem isBlock_propertySteps (a : Accessors) : IsBlock (propertySteps a) := by
  intro level
  simp [levelFrom, propertySteps, functionSteps, Step.levelAfter]

theorem isBlock_flatMap_methodSteps (methods : List Method) :
    IsBlock (methods.flatMap methodSteps) :=
  isBlock_flatMap fun _ _ => isBlock_functionSteps _ _ _

theorem isBlock_flatMap_propertySteps (accessors : List Accessors) :
    IsBlock (accessors.flatMap propertySteps) :=
  isBlock_flatMap fun a _ => isBlock_propertySteps a

/-! ## The steps of a class -/

theorem classSteps_eq_append (options : Options) (c : Class)
    (accessors : List Accessors) :
    classSteps options c accessors =
      headSteps options c ++ (c.methods.filter hasStub).flatMap methodSteps ++
        accessors.flatMap propertySteps ++ [.dedent] :=
  rfl

theorem levelFrom_headSteps (options : Options) (c : Class) :
    levelFrom 0 (headSteps options c) = 1 :=
  rfl

theorem mem_placesOf {kind : Method → Bool} {c : Class} {i : ℕ} :
    i ∈ placesOf kind c ↔ ∃ m, c.methods[i]? = some m ∧ kind m = true := by
  simp [placesOf, List.mem_zipIdx_iff_getElem?]

theorem pairwise_placesOf (kind : Method → Bool) (c : Class) :
    (placesOf kind c).Pairwise (· < ·) := by
  have hall : (c.methods.zipIdx.map (·.2)).Pairwise (· < ·) := by
    rw [List.zipIdx_map_snd]
    exact List.pairwise_lt_range'
  exact hall.sublist (List.filter_sublist.map _)

theorem map_placesOf {α : Type} (kind : Method → Bool) (c : Class)
    (f : ℕ → α) (g : Method → α)
    (hfg : ∀ i m, c.methods[i]? = some m → f i = g m) :
    (placesOf kind c).map f = (c.methods.filter kind).map g := by
  have hmethods : c.methods.filter kind =
      (c.methods.zipIdx.filter fun x => kind x.1).map (·.1) := by
    have hfilter := List.filter_map (f := fun x : Method × ℕ => x.1)
      (p := kind) (l := c.methods.zipIdx)
    rw [List.zipIdx_map_fst] at hfilter
    exact hfilter
  rw [hmethods, placesOf, List.map_map, List.map_map]
  apply List.map_congr_left
  intro x hx
  exact hfg x.2 x.1
    (List.mem_zipIdx_iff_getElem?.mp (List.mem_of_mem_filter hx))

theorem length_placesOf (kind : Method → Bool) (c : Class) :
    (placesOf kind c).length = c.methods.countP kind := by
  have hmap := congrArg List.length
    (map_placesOf kind c (fun _ => ()) (fun _ => ()) fun _ _ _ => rfl)
  rwa [List.length_map, List.length_map, ← List.countP_eq_length_filter]
    at hmap

@[simp] theorem length_accessorStubs (properties : List Property) :
    (accessorStubs properties).length = 2 * properties.length := by
  simp [accessorStubs, List.length_flatMap, Nat.mul_comm]

theorem flatMap_plain (c : Class) :
    ((placesOf hasStub c).map Stub.plain).flatMap (Stub.stepsIn c) =
      (c.methods.filter hasStub).flatMap methodSteps := by
  have hsteps : ∀ i m, c.methods[i]? = some m →
      (Stub.plain i).stepsIn c = methodSteps m := by
    intro i m hm
    simp only [Stub.stepsIn, Stub.place, hm]
    rfl
  rw [List.flatMap_map, List.flatMap_def, List.flatMap_def,
    map_placesOf hasStub c _ _ hsteps]

theorem propertySteps_eq {c : Class} {p : Property} {a : Accessors}
    (ha : c.accessors? p = some a) :
    propertySteps a =
      (Stub.getter p).stepsIn c ++ (Stub.setter p).stepsIn c := by
  unfold Class.accessors? at ha
  split at ha
  next getter setter hread hwrite =>
    cases ha
    simp only [Stub.stepsIn, Stub.place, hread, hwrite]
    rfl
  next => cases ha

theorem flatMap_accessorStubs {c : Class} {properties : List Property}
    {accessors : List Accessors}
    (haccessors : properties.mapM c.accessors? = some accessors) :
    (accessorStubs properties).flatMap (Stub.stepsIn c) =
      accessors.flatMap propertySteps := by
  induction properties generalizing accessors with
  | nil =>
      cases haccessors
      rfl
  | cons p rest ih =>
      rw [List.mapM_cons] at haccessors
      obtain ⟨a, ha, haccessors⟩ := Option.bind_eq_some_iff.mp haccessors
      obtain ⟨others, hothers, hcons⟩ := Option.bind_eq_some_iff.mp haccessors
      cases hcons
      rw [List.flatMap_cons, propertySteps_eq ha, ← ih hothers]
      simp [accessorStubs]

theorem classSteps_eq {options : Options} {c : Class}
    {accessors : List Accessors} (haccessors : c.allAccessors? = some accessors) :
    classSteps options c accessors =
      headSteps options c ++ (stubs c).flatMap (Stub.stepsIn c) ++
        [.dedent] := by
  rw [stubs, List.flatMap_append, flatMap_plain,
    flatMap_accessorStubs haccessors, classSteps_eq_append,
    ← List.append_assoc]

theorem textFrom_classSteps {options : Options} {c : Class}
    {accessors : List Accessors} (haccessors : c.allAccessors? = some accessors) :
    textFrom 0 (classSteps options c accessors) =
      textFrom 0 (headSteps options c) ++
        (stubs c).flatMap (Stub.textIn c) := by
  rw [classSteps_eq haccessors, textFrom_append, textFrom_append,
    levelFrom_headSteps, textFrom_flatMap fun s _ => isBlock_stepsIn c s]
  exact List.append_nil _

theorem classStub?_eq_some {options : Options} {c : Class}
    {accessors : List Accessors} (haccessors : c.allAccessors? = some accessors) :
    classStub? options c =
      some (textFrom 0 (classSteps options c accessors)) := by
  rw [classStub?, haccessors, Option.map_some]

theorem exists_allAccessors? {c : Class} (hc : c.IsCoherent) :
    ∃ accessors, c.allAccessors? = some accessors := by
  have haccessors : ∀ p ∈ c.properties, ∃ a, c.accessors? p = some a := by
    intro p hp
    obtain ⟨getter, setter, _, _, haccessors⟩ := hc.exists_accessors? hp
    exact ⟨⟨p.name, getter, setter⟩, haccessors⟩
  unfold Class.allAccessors?
  generalize c.properties = properties at haccessors
  induction properties with
  | nil => exact ⟨[], rfl⟩
  | cons p rest ih =>
      obtain ⟨a, ha⟩ := haccessors p (by simp)
      obtain ⟨others, hothers⟩ := ih fun q hq => haccessors q (by simp [hq])
      exact ⟨a :: others, by rw [List.mapM_cons, ha, hothers]; rfl⟩

/-! ## The place of a stub -/

theorem map_place_stubs (c : Class) :
    (stubs c).map Stub.place =
      placesOf hasStub c ++ c.properties.flatMap fun p => [p.read, p.write] := by
  simp [stubs, accessorStubs, List.map_flatMap, Function.comp_def, Stub.place]

theorem mem_accessorStubs {properties : List Property} {s : Stub} :
    s ∈ accessorStubs properties ↔
      ∃ p ∈ properties, s = .getter p ∨ s = .setter p := by
  simp [accessorStubs]

theorem nodup_place_stubs {c : Class} (hc : c.IsCoherent) :
    ((stubs c).map Stub.place).Nodup := by
  rw [map_place_stubs, List.nodup_append]
  refine ⟨(pairwise_placesOf hasStub c).imp Nat.ne_of_lt, hc.apart, ?_⟩
  -- A method that a property cites is marked, so it has no stub of its own.
  rintro i hi j hj rfl
  obtain ⟨m, hm, hstub⟩ := mem_placesOf.mp hi
  obtain ⟨p, hp, hplace⟩ := List.mem_flatMap.mp hj
  obtain ⟨m', hm', hmarked⟩ :=
    (hc.marked i).mpr ⟨p, hp, by simpa [eq_comm] using hplace⟩
  cases hm.symm.trans hm'
  simp [hasStub, hmarked] at hstub

/-- In a list of stubs with different places, each stub is alone at its place. -/
theorem filter_place_eq_singleton {l : List Stub}
    (hl : (l.map Stub.place).Nodup) {s : Stub} (hs : s ∈ l) :
    (l.filter fun t => t.place = s.place) = [s] := by
  induction l with
  | nil => cases hs
  | cons t rest ih =>
      rw [List.map_cons, List.nodup_cons] at hl
      rcases List.mem_cons.mp hs with rfl | hs
      · have hrest : (rest.filter fun t => t.place = s.place) = [] := by
          rw [List.filter_eq_nil_iff]
          intro t ht hplace
          rw [decide_eq_true_eq] at hplace
          exact hl.1 (List.mem_map.mpr ⟨t, ht, hplace⟩)
        rw [List.filter_cons_of_pos (by simp), hrest]
      · have hne : t.place ≠ s.place := by
          intro heq
          exact hl.1 (List.mem_map.mpr ⟨s, hs, heq.symm⟩)
        rw [List.filter_cons_of_neg (by simpa using hne), ih hl.2 hs]

theorem mem_stubs_plain {c : Class} {i : ℕ} :
    Stub.plain i ∈ stubs c ↔ ∃ m, c.methods[i]? = some m ∧ hasStub m = true := by
  simp [stubs, mem_accessorStubs, mem_placesOf]

theorem mem_stubs_accessor {c : Class} {s : Stub} (hs : s.isAccessor = true) :
    s ∈ stubs c ↔ ∃ p ∈ c.properties, s = .getter p ∨ s = .setter p := by
  rw [stubs, List.mem_append, mem_accessorStubs]
  constructor
  · rintro (hplain | haccessor)
    · obtain ⟨i, _, rfl⟩ := List.mem_map.mp hplain
      cases hs
    · exact haccessor
  · exact Or.inr

/-- The method at the place of a stub: it has the stub for its own, or it is
marked and the stub is an accessor. -/
theorem exists_method_of_mem_stubs {c : Class} (hc : c.IsCoherent) {s : Stub}
    (hs : s ∈ stubs c) :
    ∃ m, c.methods[s.place]? = some m ∧
      (hasStub m = true ∧ s.isAccessor = false ∨
        m.isProperty = true ∧ s.isAccessor = true) := by
  cases s with
  | plain i =>
      obtain ⟨m, hm, hstub⟩ := mem_stubs_plain.mp hs
      exact ⟨m, hm, Or.inl ⟨hstub, rfl⟩⟩
  | getter p =>
      obtain ⟨q, hq, hpq | hpq⟩ := (mem_stubs_accessor rfl).mp hs
      · cases hpq
        obtain ⟨m, hm, hmarked⟩ := (hc.marked p.read).mpr ⟨p, hq, Or.inl rfl⟩
        exact ⟨m, hm, Or.inr ⟨hmarked, rfl⟩⟩
      · cases hpq
  | setter p =>
      obtain ⟨q, hq, hpq | hpq⟩ := (mem_stubs_accessor rfl).mp hs
      · cases hpq
      · cases hpq
        obtain ⟨m, hm, hmarked⟩ := (hc.marked p.write).mpr ⟨p, hq, Or.inr rfl⟩
        exact ⟨m, hm, Or.inr ⟨hmarked, rfl⟩⟩

theorem filter_place_of_hasStub {c : Class} (hc : c.IsCoherent) {i : ℕ}
    {m : Method} (hm : c.methods[i]? = some m) (hstub : hasStub m = true) :
    ((stubs c).filter fun s => s.place = i) = [.plain i] :=
  filter_place_eq_singleton (nodup_place_stubs hc)
    (mem_stubs_plain.mpr ⟨m, hm, hstub⟩)

theorem filter_place_of_isProperty {c : Class} (hc : c.IsCoherent) {i : ℕ}
    {m : Method} (hm : c.methods[i]? = some m) (hmarked : m.isProperty = true) :
    ∃! p, p ∈ c.properties ∧
      (((stubs c).filter fun s => s.place = i) = [.getter p] ∨
        ((stubs c).filter fun s => s.place = i) = [.setter p]) := by
  have hnodup := nodup_place_stubs hc
  obtain ⟨p, hp, hplace⟩ := (hc.marked i).mp ⟨m, hm, hmarked⟩
  have hstub : ((stubs c).filter fun s => s.place = i) = [.getter p] ∨
      ((stubs c).filter fun s => s.place = i) = [.setter p] := by
    rcases hplace with rfl | rfl
    · exact Or.inl (filter_place_eq_singleton hnodup
        ((mem_stubs_accessor rfl).mpr ⟨p, hp, Or.inl rfl⟩))
    · exact Or.inr (filter_place_eq_singleton hnodup
        ((mem_stubs_accessor rfl).mpr ⟨p, hp, Or.inr rfl⟩))
  refine ⟨p, ⟨hp, hstub⟩, ?_⟩
  rintro q ⟨_, hq⟩
  rcases hstub with hstub | hstub <;> rw [hstub] at hq <;> simpa [eq_comm] using hq

theorem filter_place_of_isLeftOut {c : Class} (hc : c.IsCoherent) {i : ℕ}
    {m : Method} (hm : c.methods[i]? = some m) (hout : isLeftOut m = true) :
    ((stubs c).filter fun s => s.place = i) = [] := by
  rw [List.filter_eq_nil_iff]
  intro s hs hplace
  rw [decide_eq_true_eq] at hplace
  obtain ⟨m', hm', hkind⟩ := exists_method_of_mem_stubs hc hs
  rw [hplace] at hm'
  cases hm.symm.trans hm'
  rcases hkind with ⟨hstub, _⟩ | ⟨hmarked, _⟩
  · cases hconstructor : m.isConstructor <;> cases hstatic : m.isStatic <;>
      simp_all [isLeftOut, hasStub]
  · simp [isLeftOut, hmarked] at hout

/-! ## Counting -/

/-- The marked methods are those of the properties, two for each. -/
theorem countP_isProperty {c : Class} (hc : c.IsCoherent) :
    c.methods.countP (·.isProperty) = 2 * c.properties.length := by
  -- Neither list names a place twice, and they name the same places.
  have hnodup : (placesOf (·.isProperty) c).Nodup :=
    (pairwise_placesOf (·.isProperty) c).imp Nat.ne_of_lt
  have hperm : (placesOf (·.isProperty) c).Perm
      (c.properties.flatMap fun p => [p.read, p.write]) := by
    rw [List.perm_ext_iff_of_nodup hnodup hc.apart]
    intro i
    rw [mem_placesOf, hc.marked i, List.mem_flatMap]
    simp [@eq_comm ℕ i]
  rw [← length_placesOf, hperm.length_eq, List.length_flatMap]
  simp [Nat.mul_comm]

theorem countP_hasStub_add (methods : List Method) :
    methods.countP hasStub + methods.countP (·.isProperty) +
      methods.countP isLeftOut = methods.length := by
  induction methods with
  | nil => rfl
  | cons m rest ih =>
      have hone : (if hasStub m = true then 1 else 0) +
          (if m.isProperty = true then 1 else 0) +
            (if isLeftOut m = true then 1 else 0) = 1 := by
        cases hproperty : m.isProperty <;> cases hstatic : m.isStatic <;>
          cases hconstructor : m.isConstructor <;>
            simp [hasStub, isLeftOut, hproperty, hstatic, hconstructor]
      simp only [List.countP_cons, List.length_cons]
      omega

theorem countP_citesMethod_classSteps {options : Options} {c : Class}
    (hc : c.IsCoherent) {accessors : List Accessors}
    (haccessors : c.allAccessors? = some accessors) :
    (classSteps options c accessors).countP citesMethod = (stubs c).length := by
  have hhead : (headSteps options c).countP citesMethod = 0 := by
    simp [headSteps, citesMethod, classCitations]
  have hone : ∀ s ∈ stubs c, (s.stepsIn c).countP citesMethod = 1 := by
    intro s hs
    obtain ⟨m, hm, _⟩ := exists_method_of_mem_stubs hc hs
    rw [Stub.stepsIn, hm]
    exact countP_citesMethod_steps m s
  have hstubs : (stubs c).map (List.countP citesMethod ∘ Stub.stepsIn c) =
      (stubs c).map fun _ => 1 :=
    List.map_congr_left hone
  rw [classSteps_eq haccessors, List.countP_append, List.countP_append, hhead,
    List.countP_flatMap, hstubs]
  simp [citesMethod]

/-! ## The account -/

/-- The text of a class accounts for its methods. -/
structure AccountsForMethods (options : Options) (c : Class) : Prop where
  text : classStub? options c = some
    (textFrom 0 (headSteps options c) ++ (stubs c).flatMap (Stub.textIn c))
  inRange : ∀ s ∈ stubs c, s.place < c.methods.length
  ordered : ∃ (places : List ℕ) (accessors : List Stub),
    stubs c = places.map Stub.plain ++ accessors ∧
      places.Pairwise (· < ·) ∧ ∀ s ∈ accessors, s.isAccessor = true
  plain : ∀ i m, c.methods[i]? = some m → m.isProperty = false →
    m.isStatic = false → m.isConstructor = false →
      ((stubs c).filter fun s => s.place = i) = [.plain i]
  accessor : ∀ i m, c.methods[i]? = some m → m.isProperty = true →
    ∃! p, p ∈ c.properties ∧
      (((stubs c).filter fun s => s.place = i) = [.getter p] ∨
        ((stubs c).filter fun s => s.place = i) = [.setter p])
  leftOut : ∀ i m, c.methods[i]? = some m → m.isProperty = false →
    m.isStatic = true ∨ m.isConstructor = true →
      ((stubs c).filter fun s => s.place = i) = []
  docstrings : ∀ accessors, c.allAccessors? = some accessors →
    (classSteps options c accessors).countP citesMethod =
      c.methods.countP hasStub + 2 * c.properties.length
  total : c.methods.countP hasStub + 2 * c.properties.length +
    c.methods.countP isLeftOut = c.methods.length

theorem accountsForMethods {c : Class} (hc : c.IsCoherent)
    (options : Options) : AccountsForMethods options c where
  text := by
    obtain ⟨accessors, haccessors⟩ := exists_allAccessors? hc
    rw [classStub?_eq_some haccessors, textFrom_classSteps haccessors]
  inRange := by
    intro s hs
    obtain ⟨m, hm, _⟩ := exists_method_of_mem_stubs hc hs
    exact (List.getElem?_eq_some_iff.mp hm).1
  ordered := by
    refine ⟨placesOf hasStub c, accessorStubs c.properties, rfl,
      pairwise_placesOf hasStub c, ?_⟩
    intro s hs
    obtain ⟨p, _, rfl | rfl⟩ := mem_accessorStubs.mp hs <;> rfl
  plain := by
    intro i m hm hproperty hstatic hconstructor
    apply filter_place_of_hasStub hc hm
    simp [hasStub, hproperty, hstatic, hconstructor]
  accessor := fun _ _ hm hmarked => filter_place_of_isProperty hc hm hmarked
  leftOut := by
    intro i m hm hproperty hkind
    apply filter_place_of_isLeftOut hc hm
    rcases hkind with hkind | hkind <;> simp [isLeftOut, hproperty, hkind]
  docstrings := by
    intro accessors haccessors
    rw [countP_citesMethod_classSteps hc haccessors, stubs, List.length_append,
      List.length_map, length_placesOf, length_accessorStubs]
  total := by
    have hall := countP_hasStub_add c.methods
    rw [countP_isProperty hc] at hall
    omega

theorem accountsForMethods_of_parse {skips : Text → Bool}
    {classname text : Text} {c : Class}
    (hparse : Listing.parse skips classname text = .ok c) (options : Options) :
    AccountsForMethods options c := by
  obtain ⟨b, _, hbare, rfl⟩ := Listing.exists_isBare_of_parse hparse
  exact accountsForMethods hbare.isCoherent_inferProperties options

/-- A listing with a constructor, a static method, a method that stays plain,
and a property with a second setter. -/
def kettleListing : Text :=
  Text.joinWith ['\n'] <| [
    "public class demo.Kettle \x7b",
    "  public demo.Kettle();", "    descriptor: ()V",
    "  public static void boil(int);", "    descriptor: (I)V",
    "  public void setLevel(int);", "    descriptor: (I)V",
    "  public void setLevel(long);", "    descriptor: (J)V",
    "  public int getLevel();", "    descriptor: ()I",
    "\x7d"].map String.toList

def kettle : Class where
  name := "demo.Kettle".toList
  methods :=
    [⟨"demo.Kettle".toList, true, false, false, ⟨"()V".toList, [], none⟩⟩,
      ⟨"boil".toList, false, true, false, ⟨"(I)V".toList, [⟨['I'], false⟩], none⟩⟩,
      ⟨"setLevel".toList, false, false, true,
        ⟨"(I)V".toList, [⟨['I'], false⟩], none⟩⟩,
      ⟨"setLevel".toList, false, false, false,
        ⟨"(J)V".toList, [⟨['J'], false⟩], none⟩⟩,
      ⟨"getLevel".toList, false, false, true,
        ⟨"()I".toList, [], some ⟨['I'], false⟩⟩⟩]
  properties := [⟨"level".toList, 4, 2⟩]

theorem kettle_accountsForMethods :
    Listing.parse (fun _ => false) "demo.Kettle".toList kettleListing =
        .ok kettle ∧
      stubs kettle = [.plain 3, .getter ⟨"level".toList, 4, 2⟩,
        .setter ⟨"level".toList, 4, 2⟩] ∧
      ∀ options, AccountsForMethods options kettle := by
  have hparse : Listing.parse (fun _ => false) "demo.Kettle".toList
      kettleListing = .ok kettle := by
    decide +kernel
  exact ⟨hparse, by decide, accountsForMethods_of_parse hparse⟩

end Stubgen.Python
