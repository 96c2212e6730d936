import Stubgen.Class.Inference
import Stubgen.Proofs.Text.Span
import Mathlib.Tactic

/-!
# The inferred properties in closed form

Inference walks through the methods and changes the class while it searches it.
The changes are of one form, a list of properties added and their methods
marked, and they touch nothing that the search looks at besides the names that
are taken.  So the class after any number of steps is the given class with the
properties of a list that is defined on the given class alone, and what inference
finds can be read off that list.
-/

namespace Stubgen

namespace Method

/-- The method without the mark of a property. -/
def unmarked (m : Method) : Method := { m with isProperty := false }

theorem setterStem?_eq_some_iff {m : Method} {stem : Text} :
    m.setterStem? = some stem ↔
      m.signature.isVoid = true ∧ m.name = "set".toList ++ stem ∧
        stem ≠ [] := by
  unfold setterStem?
  split
  next first rest hafter =>
    rw [Text.afterLabel?_eq_some_iff] at hafter
    by_cases hvoid : m.signature.isVoid = true
    · simp only [hvoid, if_true, Option.some.injEq, hafter, true_and,
        List.append_cancel_left_eq, ne_eq, iff_self_and]
      rintro rfl
      exact List.cons_ne_nil _ _
    · simp [hvoid]
  next hafter =>
    constructor
    · intro h
      cases h
    · rintro ⟨_, hname, hne⟩
      obtain ⟨first, rest, rfl⟩ := List.exists_cons_of_ne_nil hne
      exact absurd (Text.afterLabel?_eq_some_iff.mpr hname)
        (hafter first rest)

end Method

namespace Class

/-- The property that the setter at a place stands for, whether or not its name
is taken. -/
def pairAt? (c : Class) (write : ℕ) : Option Property := do
  let stem ← (← c.methods[write]?).setterStem?
  let read ← c.methodIndex? ("get".toList ++ stem)
  return ⟨propertyName stem, read, write⟩

/-- Whether a property of the list cites the method at a place. -/
def cites (properties : List Property) (i : ℕ) : Bool :=
  properties.any fun p => p.read = i || p.write = i

/-- The class with properties added and their methods marked. -/
def withProperties (c : Class) (added : List Property) : Class :=
  { c with
    methods := c.methods.mapIdx fun i m =>
      { m with isProperty := m.isProperty || cites added i }
    properties := c.properties ++ added }

/-- Whether a property of the list has a name. -/
def taken (properties : List Property) (name : Text) : Bool :=
  properties.any fun p => p.name = name

/-- The properties that the setters ahead of a place add. -/
def inferredBelow (c : Class) : ℕ → List Property
  | 0 => []
  | k + 1 =>
    c.inferredBelow k ++
      ((c.pairAt? k).filter fun p =>
        !taken (c.properties ++ c.inferredBelow k) p.name).toList

/-! ## One step -/

theorem isSome_findProperty? (c : Class) (name : Text) :
    (c.findProperty? name).isSome = taken c.properties name := by
  rw [findProperty?, taken, List.isSome_find?]

theorem propertyAt?_eq_filter (c : Class) (write : ℕ) :
    c.propertyAt? write =
      (c.pairAt? write).filter fun p => !taken c.properties p.name := by
  unfold propertyAt? pairAt?
  cases c.methods[write]? with
  | none => rfl
  | some m =>
      rw [Option.bind_eq_bind, Option.bind_eq_bind, Option.bind_some,
        Option.bind_some]
      cases m.setterStem? with
      | none => rfl
      | some stem =>
          rw [Option.bind_some, Option.bind_some, isSome_findProperty?]
          cases c.methodIndex? ("get".toList ++ stem) <;>
            cases htaken : taken c.properties (propertyName stem) <;>
              simp [Option.filter, htaken]

theorem getElem?_withProperties (c : Class) (added : List Property) (i : ℕ) :
    (c.withProperties added).methods[i]? =
      c.methods[i]?.map fun m =>
        { m with isProperty := m.isProperty || cites added i } := by
  simp [withProperties]

@[simp] theorem withProperties_nil (c : Class) : c.withProperties [] = c := by
  have hmethods : (c.withProperties []).methods = c.methods := by
    apply List.ext_getElem?
    intro i
    rw [getElem?_withProperties]
    cases c.methods[i]? <;> simp [cites]
  calc
    c.withProperties [] =
        ⟨c.name, (c.withProperties []).methods, c.fields,
          c.properties ++ []⟩ := rfl
    _ = c := by rw [hmethods, List.append_nil]

theorem map_name_withProperties (c : Class) (added : List Property) :
    (c.withProperties added).methods.map (·.name) =
      c.methods.map (·.name) := by
  apply List.ext_getElem?
  intro i
  rw [List.getElem?_map, List.getElem?_map, getElem?_withProperties,
    Option.map_map]
  rfl

theorem methodIndex?_eq_findIdx? (c : Class) (name : Text) :
    c.methodIndex? name =
      (c.methods.map (·.name)).findIdx? fun other => other = name := by
  rw [methodIndex?, List.findIdx?_map]
  rfl

theorem pairAt?_withProperties (c : Class) (added : List Property)
    (write : ℕ) : (c.withProperties added).pairAt? write = c.pairAt? write := by
  unfold pairAt?
  simp only [methodIndex?_eq_findIdx?, map_name_withProperties,
    getElem?_withProperties]
  cases c.methods[write]? <;> rfl

/-- Adding one more property marks its two methods and nothing else. -/
theorem withProperties_append (c : Class) (added : List Property)
    (p : Property) :
    c.withProperties (added ++ [p]) =
      { ((c.withProperties added).markProperty p.write).markProperty p.read with
        properties := (c.withProperties added).properties ++ [p] } := by
  have hmethods : (c.withProperties (added ++ [p])).methods =
      (((c.withProperties added).markProperty p.write).markProperty
        p.read).methods := by
    apply List.ext_getElem?
    intro i
    rw [getElem?_withProperties]
    simp only [markProperty, List.getElem?_modify, getElem?_withProperties]
    cases c.methods[i]? with
    | none => simp
    | some m =>
        by_cases hread : p.read = i <;> by_cases hwrite : p.write = i <;>
          simp [cites, hread, hwrite]
  calc
    c.withProperties (added ++ [p]) =
        ⟨c.name, (c.withProperties (added ++ [p])).methods, c.fields,
          c.properties ++ (added ++ [p])⟩ := rfl
    _ = ⟨c.name, (((c.withProperties added).markProperty p.write).markProperty
          p.read).methods, c.fields, c.properties ++ added ++ [p]⟩ := by
        rw [hmethods, List.append_assoc]

theorem inferAt_withProperties (c : Class) (added : List Property)
    (write : ℕ) :
    (c.withProperties added).inferAt write =
      c.withProperties (added ++
        ((c.pairAt? write).filter fun p =>
          !taken (c.properties ++ added) p.name).toList) := by
  have hproperty := (c.withProperties added).propertyAt?_eq_filter write
  rw [pairAt?_withProperties] at hproperty
  change _ = Option.filter
    (fun p => !taken (c.properties ++ added) p.name) (c.pairAt? write)
    at hproperty
  unfold inferAt
  rw [hproperty]
  split
  next hnone => rw [hnone, Option.toList_none, List.append_nil]
  next p hsome =>
    rw [hsome, Option.toList_some, withProperties_append]
    rfl

/-- The loop invariant: behind the first `k` places the class is the given one
with the properties below `k`. -/
theorem foldl_range_inferAt (c : Class) (k : ℕ) :
    (List.range k).foldl inferAt c = c.withProperties (c.inferredBelow k) := by
  induction k with
  | zero => simp [inferredBelow]
  | succ k ih =>
      rw [List.range_succ, List.foldl_append, ih]
      exact inferAt_withProperties c (c.inferredBelow k) k

theorem inferProperties_eq (c : Class) :
    c.inferProperties =
      c.withProperties (c.inferredBelow c.methods.length) :=
  foldl_range_inferAt c c.methods.length

end Class
end Stubgen
