import Stubgen.Proofs.Class.Inference
import Stubgen.Text.Utf8
import Mathlib.Data.List.Nodup
import Mathlib.Order.Bounds.Basic
import Mathlib.Tactic

/-!
# The pairs of setters and getters

Which methods inference pairs, in terms of the given class alone.  A property
belongs to the first setter that derives its name and has a getter, and to the
first method with the name of that getter.  A setter without a getter does not
reserve a name.

The name of a setter determines the name of its getter and the name of its
property, and no name is the name of a setter and of a getter.  Hence no method
takes part in two properties.
-/

namespace Stubgen

namespace Method

def getterName (m : Method) : Text := 'g' :: m.name.tail

/-- The method is a setter, and its name derives the name of a property. -/
structure IsSetter (m : Method) (property : Text) : Prop where
  void : m.signature.isVoid = true
  long : 3 < m.name.utf8Length
  label : "set".toList <+: m.name
  derives : propertyName (m.name.drop 3) = property

theorem isSetter_iff {m : Method} {property : Text} :
    m.IsSetter property ↔
      ∃ stem, m.setterStem? = some stem ∧ propertyName stem = property := by
  constructor
  · rintro ⟨hvoid, hlong, ⟨stem, hname⟩, hderives⟩
    have hne : stem ≠ [] := by
      rintro rfl
      rw [← hname] at hlong
      exact absurd hlong (by decide)
    rw [← hname] at hderives
    exact ⟨stem, setterStem?_eq_some_iff.mpr ⟨hvoid, hname.symm, hne⟩, hderives⟩
  · rintro ⟨stem, hstem, hderives⟩
    obtain ⟨hvoid, hname, hne⟩ := setterStem?_eq_some_iff.mp hstem
    obtain ⟨first, rest, rfl⟩ := List.exists_cons_of_ne_nil hne
    refine ⟨hvoid, ?_, ⟨first :: rest, hname.symm⟩, ?_⟩
    · have hfirst : 0 < first.utf8Size := Char.utf8Size_pos first
      have hlabel : Text.utf8Length "set".toList = 3 := by decide
      rw [hname, Text.utf8Length_append, Text.utf8Length_cons, hlabel]
      omega
    · rw [hname]
      exact hderives

theorem getterName_of_setterStem? {m : Method} {stem : Text}
    (hstem : m.setterStem? = some stem) :
    m.getterName = "get".toList ++ stem := by
  obtain ⟨_, hname, _⟩ := setterStem?_eq_some_iff.mp hstem
  rw [getterName, hname]
  rfl

end Method

namespace Class

/-- The method at a place is a setter that derives the name of a property, and
some method has the name of its getter. -/
def Writes (c : Class) (property : Text) (i : ℕ) : Prop :=
  ∃ m, c.methods[i]? = some m ∧ m.IsSetter property ∧
    ∃ getter ∈ c.methods, getter.name = m.getterName

/-- The method at place `i` has the name of the getter of the method at place
`write`. -/
def Reads (c : Class) (write i : ℕ) : Prop :=
  ∃ m getter, c.methods[write]? = some m ∧ c.methods[i]? = some getter ∧
    getter.name = m.getterName

/-! ## The pair at one place -/

theorem methodIndex?_eq_some_iff {c : Class} {name : Text} {i : ℕ} :
    c.methodIndex? name = some i ↔
      IsLeast {j | ∃ m, c.methods[j]? = some m ∧ m.name = name} i := by
  unfold methodIndex?
  rw [List.findIdx?_eq_some_iff_getElem]
  constructor
  · rintro ⟨hi, hname, hbelow⟩
    refine ⟨⟨c.methods[i], List.getElem?_eq_getElem hi, by simpa using hname⟩,
      ?_⟩
    rintro j ⟨m, hm, hmname⟩
    obtain ⟨hj, rfl⟩ := List.getElem?_eq_some_iff.mp hm
    by_contra hlt
    exact hbelow j (by omega) (by simpa using hmname)
  · rintro ⟨⟨m, hm, hname⟩, hleast⟩
    obtain ⟨hi, rfl⟩ := List.getElem?_eq_some_iff.mp hm
    refine ⟨hi, by simpa using hname, ?_⟩
    intro j hji hjname
    have hle : i ≤ j := hleast
      ⟨c.methods[j], List.getElem?_eq_getElem (hji.trans hi),
        by simpa using hjname⟩
    omega

theorem pairAt?_eq_some_iff {c : Class} {write : ℕ} {p : Property} :
    c.pairAt? write = some p ↔
      p.write = write ∧ c.Writes p.name write ∧
        IsLeast {i | c.Reads write i} p.read := by
  have hreads : ∀ m stem, c.methods[write]? = some m →
      m.setterStem? = some stem →
      {i | c.Reads write i} =
        {i | ∃ getter, c.methods[i]? = some getter ∧
          getter.name = "get".toList ++ stem} := by
    intro m stem hm hstem
    ext i
    simp [Reads, hm, Method.getterName_of_setterStem? hstem]
  constructor
  · intro hpair
    obtain ⟨m, hm, hpair⟩ := Option.bind_eq_some_iff.mp hpair
    obtain ⟨stem, hstem, hpair⟩ := Option.bind_eq_some_iff.mp hpair
    obtain ⟨read, hread, hp⟩ := Option.bind_eq_some_iff.mp hpair
    cases hp
    rw [methodIndex?_eq_some_iff, ← hreads m stem hm hstem] at hread
    obtain ⟨m', getter, hm', hgetter, hname⟩ := hread.1
    cases hm.symm.trans hm'
    exact ⟨rfl, ⟨m, hm, Method.isSetter_iff.mpr ⟨stem, hstem, rfl⟩, getter,
      List.mem_of_getElem? hgetter, hname⟩, hread⟩
  · rintro ⟨hwrite, ⟨m, hm, hsetter, _⟩, hread⟩
    obtain ⟨stem, hstem, hname⟩ := Method.isSetter_iff.mp hsetter
    rw [hreads m stem hm hstem, ← methodIndex?_eq_some_iff] at hread
    refine Option.bind_eq_some_iff.mpr ⟨m, hm, ?_⟩
    refine Option.bind_eq_some_iff.mpr ⟨stem, hstem, ?_⟩
    refine Option.bind_eq_some_iff.mpr ⟨p.read, hread, ?_⟩
    rw [hname, ← hwrite]
    rfl

theorem exists_pairAt?_iff {c : Class} {property : Text} {write : ℕ} :
    (∃ p, c.pairAt? write = some p ∧ p.name = property) ↔
      c.Writes property write := by
  constructor
  · rintro ⟨p, hp, rfl⟩
    exact (pairAt?_eq_some_iff.mp hp).2.1
  · intro hwrites
    obtain ⟨m, hm, hsetter, getter, hgetter, hname⟩ := hwrites
    obtain ⟨i, hi⟩ := List.mem_iff_getElem?.mp hgetter
    have hleast : IsLeast {i | c.Reads write i} (sInf {i | c.Reads write i}) :=
      isLeast_csInf ⟨i, m, getter, hm, hi, hname⟩
    exact ⟨⟨property, sInf {i | c.Reads write i}, write⟩,
      pairAt?_eq_some_iff.mpr
        ⟨rfl, ⟨m, hm, hsetter, getter, hgetter, hname⟩, hleast⟩, rfl⟩

/-! ## The properties below a place -/

theorem taken_append (properties others : List Property) (name : Text) :
    taken (properties ++ others) name =
      (taken properties name || taken others name) :=
  List.any_append

theorem taken_eq_true_iff {properties : List Property} {name : Text} :
    taken properties name = true ↔ ∃ p ∈ properties, p.name = name := by
  simp [taken]

theorem mem_inferredBelow_succ {c : Class} {k : ℕ} {p : Property} :
    p ∈ c.inferredBelow (k + 1) ↔
      p ∈ c.inferredBelow k ∨
        c.pairAt? k = some p ∧
          taken (c.properties ++ c.inferredBelow k) p.name = false := by
  rw [inferredBelow, List.mem_append, Option.mem_toList,
    Option.filter_eq_some_iff]
  simp

/-- A free name is taken below a place if some setter below derives it, and not
only if the property of that setter was added. -/
theorem taken_inferredBelow_iff {c : Class} {name : Text}
    (hfree : taken c.properties name = false) (k : ℕ) :
    taken (c.inferredBelow k) name = true ↔ ∃ i < k, c.Writes name i := by
  induction k with
  | zero => simp [inferredBelow, taken]
  | succ k ih =>
      rw [taken_eq_true_iff]
      constructor
      · rintro ⟨p, hp, rfl⟩
        rcases mem_inferredBelow_succ.mp hp with hbelow | ⟨hpair, _⟩
        · obtain ⟨i, hi, hwrites⟩ :=
            ih.mp (taken_eq_true_iff.mpr ⟨p, hbelow, rfl⟩)
          exact ⟨i, by omega, hwrites⟩
        · exact ⟨k, by omega, exists_pairAt?_iff.mp ⟨p, hpair, rfl⟩⟩
      · rintro ⟨i, hi, hwrites⟩
        by_cases hbelow : taken (c.inferredBelow k) name = true
        · obtain ⟨p, hp, hname⟩ := taken_eq_true_iff.mp hbelow
          exact ⟨p, mem_inferredBelow_succ.mpr (Or.inl hp), hname⟩
        · -- The name is free up to here, so the setter at `k` takes it.
          have hik : i = k := by
            by_contra hne
            exact hbelow (ih.mpr ⟨i, by omega, hwrites⟩)
          subst i
          obtain ⟨p, hpair, rfl⟩ := exists_pairAt?_iff.mpr hwrites
          refine ⟨p, mem_inferredBelow_succ.mpr (Or.inr ⟨hpair, ?_⟩), rfl⟩
          rw [taken_append, hfree, Bool.false_or]
          exact Bool.eq_false_of_not_eq_true hbelow

theorem mem_inferredBelow_iff {c : Class} {k : ℕ} {p : Property} :
    p ∈ c.inferredBelow k ↔
      p.write < k ∧ c.pairAt? p.write = some p ∧
        taken c.properties p.name = false ∧
        ∀ i < p.write, ¬ c.Writes p.name i := by
  induction k with
  | zero => simp [inferredBelow]
  | succ k ih =>
      rw [mem_inferredBelow_succ, ih, taken_append, Bool.or_eq_false_iff]
      constructor
      · rintro (⟨hlt, hp⟩ | ⟨hpair, hfree, hbelow⟩)
        · exact ⟨by omega, hp⟩
        · have hwrite : p.write = k := (pairAt?_eq_some_iff.mp hpair).1
          rw [hwrite]
          refine ⟨by omega, hpair, hfree, ?_⟩
          intro i hi hwrites
          rw [(taken_inferredBelow_iff hfree k).mpr ⟨i, hi, hwrites⟩] at hbelow
          cases hbelow
      · rintro ⟨hlt, hpair, hfree, hfirst⟩
        by_cases hwrite : p.write = k
        · rw [hwrite] at hpair hfirst
          refine Or.inr ⟨hpair, hfree, Bool.eq_false_of_not_eq_true ?_⟩
          intro hbelow
          obtain ⟨i, hi, hwrites⟩ := (taken_inferredBelow_iff hfree k).mp hbelow
          exact hfirst i hi hwrites
        · exact Or.inl ⟨by omega, hpair, hfree, hfirst⟩

/-- Behind all methods stand the properties with a free name whose setter and
getter are the first of their kinds. -/
theorem mem_inferredBelow_length_iff {c : Class} {p : Property} :
    p ∈ c.inferredBelow c.methods.length ↔
      taken c.properties p.name = false ∧
        IsLeast {i | c.Writes p.name i} p.write ∧
          IsLeast {i | c.Reads p.write i} p.read := by
  rw [mem_inferredBelow_iff, pairAt?_eq_some_iff]
  constructor
  · rintro ⟨_, ⟨_, hwrites, hreads⟩, hfree, hfirst⟩
    refine ⟨hfree, ⟨hwrites, ?_⟩, hreads⟩
    intro i hi
    by_contra hlt
    exact hfirst i (by omega) hi
  · rintro ⟨hfree, ⟨hwrites, hleast⟩, hreads⟩
    obtain ⟨m, hm, _⟩ := id hwrites
    obtain ⟨hlt, _⟩ := List.getElem?_eq_some_iff.mp hm
    refine ⟨hlt, ⟨rfl, hwrites, hreads⟩, hfree, ?_⟩
    intro i hi hiwrites
    have hle : p.write ≤ i := hleast hiwrites
    omega

theorem writes_of_mem {c : Class} {k : ℕ} {p : Property}
    (hp : p ∈ c.inferredBelow k) : c.Writes p.name p.write :=
  exists_pairAt?_iff.mp ⟨p, (mem_inferredBelow_iff.mp hp).2.1, rfl⟩

theorem reads_of_mem {c : Class} {k : ℕ} {p : Property}
    (hp : p ∈ c.inferredBelow k) : c.Reads p.write p.read :=
  (pairAt?_eq_some_iff.mp (mem_inferredBelow_iff.mp hp).2.1).2.2.1

/-! ## Order and disjointness -/

theorem pairwise_write_inferredBelow (c : Class) (k : ℕ) :
    (c.inferredBelow k).Pairwise fun p q => p.write < q.write := by
  induction k with
  | zero => exact List.Pairwise.nil
  | succ k ih =>
      rw [inferredBelow, List.pairwise_append]
      refine ⟨ih, ?_, ?_⟩
      · cases Option.filter _ _ <;> simp
      · intro p hp q hq
        have hlt : p.write < k := (mem_inferredBelow_iff.mp hp).1
        rw [Option.mem_toList, Option.filter_eq_some_iff] at hq
        have hwrite : q.write = k := (pairAt?_eq_some_iff.mp hq.1).1
        omega

/-- The later of two properties has another name, since the setter of the
earlier one was free to take it. -/
theorem pairwise_name_inferredBelow (c : Class) (k : ℕ) :
    (c.inferredBelow k).Pairwise fun p q => p.name ≠ q.name := by
  apply (c.pairwise_write_inferredBelow k).imp_of_mem
  intro p q hp hq hlt hname
  have hfirst := (mem_inferredBelow_iff.mp hq).2.2.2 p.write hlt
  rw [← hname] at hfirst
  exact hfirst (writes_of_mem hp)

theorem Writes.head?_name {c : Class} {property : Text} {i : ℕ} {m : Method}
    (hwrites : c.Writes property i) (hm : c.methods[i]? = some m) :
    m.name.head? = some 's' := by
  obtain ⟨m', hm', hsetter, _⟩ := hwrites
  cases hm.symm.trans hm'
  obtain ⟨stem, hname⟩ := hsetter.label
  rw [← hname]
  rfl

theorem read_ne_write {c : Class} {k : ℕ} {p q : Property}
    (hp : p ∈ c.inferredBelow k) (hq : q ∈ c.inferredBelow k) :
    p.read ≠ q.write := by
  intro heq
  obtain ⟨m, getter, _, hgetter, hname⟩ := reads_of_mem hp
  rw [heq] at hgetter
  have hhead := (writes_of_mem hq).head?_name hgetter
  rw [hname] at hhead
  cases hhead

/-- Two setters with one getter have one name, and so one property. -/
theorem name_eq_of_reads {c : Class} {property other : Text} {i j read : ℕ}
    (hi : c.Writes property i) (hj : c.Writes other j)
    (hiread : c.Reads i read) (hjread : c.Reads j read) :
    property = other := by
  obtain ⟨m, getter, hm, hgetter, hmname⟩ := hiread
  obtain ⟨n, getter', hn, hgetter', hnname⟩ := hjread
  cases hgetter.symm.trans hgetter'
  obtain ⟨m', hm', hmset, _⟩ := hi
  cases hm.symm.trans hm'
  obtain ⟨n', hn', hnset, _⟩ := hj
  cases hn.symm.trans hn'
  -- The getter keeps all of the setter's name but its first character, and
  -- the property is named after what follows the third.
  have htail : m.name.tail = n.name.tail := by
    have hgetters : m.getterName = n.getterName := hmname.symm.trans hnname
    exact List.tail_eq_of_cons_eq hgetters
  have hdrop : m.name.drop 3 = n.name.drop 3 := by
    have hm3 : m.name.drop 3 = m.name.tail.drop 2 := List.drop_tail.symm
    have hn3 : n.name.drop 3 = n.name.tail.drop 2 := List.drop_tail.symm
    rw [hm3, hn3, htail]
  rw [← hmset.derives, ← hnset.derives, hdrop]

theorem nodup_places_inferredBelow (c : Class) (k : ℕ) :
    ((c.inferredBelow k).flatMap fun p => [p.read, p.write]).Nodup := by
  rw [List.nodup_flatMap]
  refine ⟨?_, ?_⟩
  · intro p hp
    simpa using read_ne_write hp hp
  · apply (c.pairwise_name_inferredBelow k).imp_of_mem
    intro p q hp hq hname
    have hread : p.read ≠ q.read := by
      intro heq
      have hpread := reads_of_mem hp
      rw [heq] at hpread
      exact hname (name_eq_of_reads (writes_of_mem hp) (writes_of_mem hq)
        hpread (reads_of_mem hq))
    have hwrite : p.write ≠ q.write := by
      intro heq
      have hpair := (mem_inferredBelow_iff.mp hp).2.1
      rw [heq, (mem_inferredBelow_iff.mp hq).2.1] at hpair
      cases hpair
      exact hname rfl
    simp [Function.onFun, hread.symm, hwrite.symm, read_ne_write hq hp,
      (read_ne_write hp hq).symm]

/-! ## The inferred class -/

/-- Nothing was inferred for the class yet. -/
structure IsBare (c : Class) : Prop where
  properties : c.properties = []
  unmarked : ∀ m ∈ c.methods, m.isProperty = false

theorem IsBare.properties_inferProperties {c : Class} (hc : c.IsBare) :
    c.inferProperties.properties = c.inferredBelow c.methods.length := by
  rw [inferProperties_eq]
  change c.properties ++ _ = _
  rw [hc.properties, List.nil_append]

theorem IsBare.getElem?_inferProperties {c : Class} (hc : c.IsBare) (i : ℕ) :
    c.inferProperties.methods[i]? =
      c.methods[i]?.map fun m =>
        { m with isProperty := cites c.inferProperties.properties i } := by
  rw [hc.properties_inferProperties, inferProperties_eq,
    getElem?_withProperties]
  cases hm : c.methods[i]? with
  | none => rfl
  | some m =>
      have hunmarked := hc.unmarked m (List.mem_of_getElem? hm)
      rw [Option.map_some, Option.map_some, hunmarked, Bool.false_or]

theorem IsBare.map_unmarked_inferProperties {c : Class} (hc : c.IsBare) :
    c.inferProperties.methods.map Method.unmarked = c.methods := by
  apply List.ext_getElem?
  intro i
  rw [List.getElem?_map, hc.getElem?_inferProperties]
  cases hm : c.methods[i]? with
  | none => rfl
  | some m =>
      have hunmarked := hc.unmarked m (List.mem_of_getElem? hm)
      obtain ⟨name, isConstructor, isStatic, isProperty, signature⟩ := m
      cases hunmarked
      rfl

@[simp] theorem name_inferProperties (c : Class) :
    c.inferProperties.name = c.name := by
  rw [inferProperties_eq]
  rfl

theorem IsBare.mem_inferProperties_iff {c : Class} (hc : c.IsBare)
    {p : Property} :
    p ∈ c.inferProperties.properties ↔
      IsLeast {i | c.Writes p.name i} p.write ∧
        IsLeast {i | c.Reads p.write i} p.read := by
  rw [hc.properties_inferProperties, mem_inferredBelow_length_iff,
    hc.properties]
  exact and_iff_right rfl

theorem cites_eq_true_iff {properties : List Property} {i : ℕ} :
    cites properties i = true ↔ ∃ p ∈ properties, p.read = i ∨ p.write = i := by
  simp [cites]

theorem reads_lt {c : Class} {k : ℕ} {p : Property}
    (hp : p ∈ c.inferredBelow k) : p.read < c.methods.length := by
  obtain ⟨_, _, _, hgetter, _⟩ := reads_of_mem hp
  exact (List.getElem?_eq_some_iff.mp hgetter).1

theorem writes_lt {c : Class} {k : ℕ} {p : Property}
    (hp : p ∈ c.inferredBelow k) : p.write < c.methods.length := by
  obtain ⟨_, hm, _⟩ := writes_of_mem hp
  exact (List.getElem?_eq_some_iff.mp hm).1

theorem IsBare.isProperty_inferProperties_iff {c : Class} (hc : c.IsBare)
    (i : ℕ) :
    (∃ m, c.inferProperties.methods[i]? = some m ∧ m.isProperty = true) ↔
      ∃ p ∈ c.inferProperties.properties, p.read = i ∨ p.write = i := by
  rw [hc.getElem?_inferProperties, ← cites_eq_true_iff]
  constructor
  · rintro ⟨m, hm, hmarked⟩
    obtain ⟨m', _, rfl⟩ := Option.map_eq_some_iff.mp hm
    exact hmarked
  · intro hcites
    have hlt : i < c.methods.length := by
      obtain ⟨p, hp, hi⟩ := cites_eq_true_iff.mp hcites
      rw [hc.properties_inferProperties] at hp
      rcases hi with rfl | rfl
      · exact reads_lt hp
      · exact writes_lt hp
    rw [List.getElem?_eq_getElem hlt, Option.map_some]
    exact ⟨_, rfl, hcites⟩

/-- Every marked method takes part in one property, on one side of it, and no
other method takes part in any. -/
structure IsCoherent (c : Class) : Prop where
  apart : (c.properties.flatMap fun p => [p.read, p.write]).Nodup
  marked : ∀ i, (∃ m, c.methods[i]? = some m ∧ m.isProperty = true) ↔
    ∃ p ∈ c.properties, p.read = i ∨ p.write = i

theorem IsBare.isCoherent_inferProperties {c : Class} (hc : c.IsBare) :
    c.inferProperties.IsCoherent where
  apart := by
    rw [hc.properties_inferProperties]
    exact c.nodup_places_inferredBelow _
  marked := hc.isProperty_inferProperties_iff

theorem IsCoherent.exists_accessors? {c : Class} (hc : c.IsCoherent)
    {p : Property} (hp : p ∈ c.properties) :
    ∃ getter setter, c.methods[p.read]? = some getter ∧
      c.methods[p.write]? = some setter ∧
        c.accessors? p = some ⟨p.name, getter, setter⟩ := by
  obtain ⟨getter, hgetter, _⟩ := (hc.marked p.read).mpr ⟨p, hp, Or.inl rfl⟩
  obtain ⟨setter, hsetter, _⟩ := (hc.marked p.write).mpr ⟨p, hp, Or.inr rfl⟩
  refine ⟨getter, setter, hgetter, hsetter, ?_⟩
  rw [accessors?, hgetter, hsetter]

/-- What inference makes of a class: which properties it finds, which methods
it marks, and what it leaves alone. -/
structure IsInferred (c d : Class) : Prop extends d.IsCoherent where
  mem_iff : ∀ p, p ∈ d.properties ↔
    IsLeast {i | c.Writes p.name i} p.write ∧
      IsLeast {i | c.Reads p.write i} p.read
  ordered : d.properties.Pairwise fun p q => p.write < q.write
  named : d.properties.Pairwise fun p q => p.name ≠ q.name
  methods : d.methods.map Method.unmarked = c.methods
  fields : d.fields = c.fields
  name : d.name = c.name

theorem inferProperties_isInferred (c : Class) (hc : c.IsBare) :
    c.IsInferred c.inferProperties := by
  have hproperties := hc.properties_inferProperties
  exact {
    toIsCoherent := hc.isCoherent_inferProperties
    mem_iff := fun _ => hc.mem_inferProperties_iff
    ordered := by
      rw [hproperties]
      exact c.pairwise_write_inferredBelow _
    named := by
      rw [hproperties]
      exact c.pairwise_name_inferredBelow _
    methods := hc.map_unmarked_inferProperties
    fields := by rw [inferProperties_eq]; rfl
    name := c.name_inferProperties }

def accessorNamed (name : String) (returnType : Option TypeName) : Method :=
  ⟨name.toList, false, false, false, ⟨"()".toList, [], returnType⟩⟩

/-- A class with two setters for one property, a setter without a getter, and
two getters of one name. -/
def lamp : Class where
  name := "Lamp".toList
  methods :=
    [accessorNamed "setcolor" none, accessorNamed "setColor" none,
      accessorNamed "getColor" (some ⟨"int".toList, false⟩),
      accessorNamed "setColor" none,
      accessorNamed "getColor" (some ⟨"long".toList, false⟩)]

theorem lamp_isInferred :
    lamp.IsBare ∧
      lamp.inferProperties.properties = [⟨"color".toList, 2, 1⟩] ∧
      lamp.IsInferred lamp.inferProperties := by
  have hbare : lamp.IsBare := ⟨rfl, by decide⟩
  exact ⟨hbare, by decide, inferProperties_isInferred lamp hbare⟩

end Class
end Stubgen
