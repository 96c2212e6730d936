import Stubgen.Proofs.Class.Pairing
import Mathlib.Logic.Function.Iterate

/-!
# Inference on any class

Inference may be run on a class with properties and marks of any origin, stale
ones included.  It takes no property away and no mark off, and every setter is
settled by one run: either the name of its property is taken by then, or it has
no getter.  A second run finds nothing to add.
-/

namespace Stubgen
namespace Class

/-- A class and what inference makes of it when it adds a list of
properties. -/
structure GrowsBy (c : Class) (added : List Property) (d : Class) : Prop where
  properties : d.properties = c.properties ++ added
  /-- What is added are the pairs with a name that the class has left free. -/
  mem_iff : ∀ p, p ∈ added ↔
    (∀ q ∈ c.properties, q.name ≠ p.name) ∧
      IsLeast {i | c.Writes p.name i} p.write ∧
        IsLeast {i | c.Reads p.write i} p.read
  inRange : ∀ p ∈ added, p.read < d.methods.length ∧ p.write < d.methods.length
  named : ∀ i p, d.properties[i]? = some p → c.properties.length ≤ i →
    ∀ j q, d.properties[j]? = some q → j ≠ i → q.name ≠ p.name
  /-- A mark was there before, or it belongs to a property that was added. -/
  marked : ∀ i m, c.methods[i]? = some m → ∃ m', d.methods[i]? = some m' ∧
    (m'.isProperty = true ↔
      m.isProperty = true ∨ ∃ p ∈ added, p.read = i ∨ p.write = i)
  methods : d.methods.map Method.unmarked = c.methods.map Method.unmarked
  fields : d.fields = c.fields
  name : d.name = c.name

/-! ## One run -/

theorem taken_eq_false_iff {properties : List Property} {name : Text} :
    taken properties name = false ↔ ∀ p ∈ properties, p.name ≠ name := by
  simp [taken]

theorem length_methods_withProperties (c : Class) (added : List Property) :
    (c.withProperties added).methods.length = c.methods.length :=
  List.length_mapIdx

theorem map_unmarked_withProperties (c : Class) (added : List Property) :
    (c.withProperties added).methods.map Method.unmarked =
      c.methods.map Method.unmarked := by
  apply List.ext_getElem?
  intro i
  rw [List.getElem?_map, List.getElem?_map, getElem?_withProperties,
    Option.map_map]
  rfl

/-- The name of an added property is that of no other one: not of a property
that was there, and not of another one that was added. -/
theorem name_ne_of_added (c : Class) {i j : ℕ} {p q : Property}
    (hp : (c.properties ++ c.inferredBelow c.methods.length)[i]? = some p)
    (hi : c.properties.length ≤ i)
    (hq : (c.properties ++ c.inferredBelow c.methods.length)[j]? = some q)
    (hji : j ≠ i) : q.name ≠ p.name := by
  rw [List.getElem?_append_right hi] at hp
  have hfree := (mem_inferredBelow_length_iff.mp (List.mem_of_getElem? hp)).1
  by_cases hj : j < c.properties.length
  · rw [List.getElem?_append_left hj] at hq
    exact taken_eq_false_iff.mp hfree q (List.mem_of_getElem? hq)
  · rw [List.getElem?_append_right (by omega)] at hq
    have hnames := c.pairwise_name_inferredBelow c.methods.length
    rw [List.pairwise_iff_getElem] at hnames
    obtain ⟨hpplace, rfl⟩ := List.getElem?_eq_some_iff.mp hp
    obtain ⟨hqplace, rfl⟩ := List.getElem?_eq_some_iff.mp hq
    rcases Nat.lt_or_gt_of_ne hji with hlt | hgt
    · exact hnames _ _ hqplace hpplace (by omega)
    · exact (hnames _ _ hpplace hqplace (by omega)).symm

theorem growsBy_inferProperties (c : Class) :
    c.GrowsBy (c.inferredBelow c.methods.length) c.inferProperties := by
  rw [inferProperties_eq]
  exact {
    properties := rfl
    mem_iff := by
      intro p
      rw [mem_inferredBelow_length_iff, taken_eq_false_iff]
    inRange := by
      intro p hp
      rw [length_methods_withProperties]
      exact ⟨reads_lt hp, writes_lt hp⟩
    named := fun _ _ hp hi _ _ hq hji => c.name_ne_of_added hp hi hq hji
    marked := by
      intro i m hm
      rw [getElem?_withProperties, hm]
      refine ⟨_, rfl, ?_⟩
      rw [Bool.or_eq_true, cites_eq_true_iff]
    methods := c.map_unmarked_withProperties _
    fields := rfl
    name := rfl }

/-! ## Further runs -/

/-- Behind one run every setter with a getter finds its name taken, by a
property that was there or by one that was added. -/
theorem inferredBelow_inferProperties (c : Class) :
    c.inferProperties.inferredBelow c.inferProperties.methods.length = [] := by
  rw [inferProperties_eq, length_methods_withProperties,
    List.eq_nil_iff_forall_not_mem]
  intro p hp
  obtain ⟨hlt, hpair, hfree, _⟩ := mem_inferredBelow_iff.mp hp
  rw [pairAt?_withProperties] at hpair
  change taken (c.properties ++ c.inferredBelow c.methods.length) p.name =
    false at hfree
  rw [taken_append, Bool.or_eq_false_iff] at hfree
  have hwrites : c.Writes p.name p.write :=
    exists_pairAt?_iff.mp ⟨p, hpair, rfl⟩
  have htaken := (taken_inferredBelow_iff hfree.1 c.methods.length).mpr
    ⟨p.write, hlt, hwrites⟩
  rw [hfree.2] at htaken
  cases htaken

theorem inferProperties_inferProperties (c : Class) :
    c.inferProperties.inferProperties = c.inferProperties := by
  rw [c.inferProperties.inferProperties_eq, inferredBelow_inferProperties,
    withProperties_nil]

/-- Any number of runs amounts to one, and one run only adds. -/
theorem iterate_inferProperties (c : Class) :
    (∀ k, inferProperties^[k + 1] c = c.inferProperties) ∧
      ∃ added, c.GrowsBy added c.inferProperties := by
  refine ⟨fun k => ?_, _, c.growsBy_inferProperties⟩
  rw [Function.iterate_succ_apply]
  exact Function.iterate_fixed c.inferProperties_inferProperties k

end Class
end Stubgen
