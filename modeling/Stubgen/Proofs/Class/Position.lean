import Stubgen.Proofs.Class.Pairing
import Stubgen.Proofs.Text.Position

/-!
# Inference at checked places

Inference takes the method at each place of the list as it was when it started,
cuts the names of setters at fixed byte positions, and marks methods by their
places.  The inference of this module checks every place and every cut.  None of
the checks fails: no step changes the number of methods, the label of a setter
takes up three bytes, and a getter is found in the list in which it is marked.
-/

namespace Stubgen

/-- Whether a name is long enough for a setter and starts like one. -/
def Method.isSetterCandidate (m : Method) : Bool :=
  decide (3 < m.name.utf8Length) && "set".toList.isPrefixOf m.name

theorem Method.isSome_setterStem? (m : Method) :
    m.setterStem?.isSome = (m.isSetterCandidate && m.signature.isVoid) := by
  rw [Bool.eq_iff_iff, Option.isSome_iff_exists]
  simp only [isSetterCandidate, Bool.and_eq_true, decide_eq_true_iff,
    List.isPrefixOf_iff_prefix]
  constructor
  · rintro ⟨stem, hstem⟩
    have hsetter := Method.isSetter_iff.mpr ⟨stem, hstem, rfl⟩
    exact ⟨⟨hsetter.long, hsetter.label⟩, hsetter.void⟩
  · rintro ⟨⟨hlong, hlabel⟩, hvoid⟩
    obtain ⟨stem, hstem, _⟩ :=
      Method.isSetter_iff.mp ⟨hvoid, hlong, hlabel, rfl⟩
    exact ⟨stem, hstem⟩

namespace Class

/-- Marks the method at a place; `none` outside the list. -/
def markProperty? (c : Class) (i : ℕ) : Option Class :=
  if i < c.methods.length then some (c.markProperty i) else none

def inferAt? (c : Class) (write : ℕ) : Option Class := do
  let setter ← c.methods[write]?
  if setter.isSetterCandidate && setter.signature.isVoid then
    let stem ← setter.name.dropBytes? 3
    if (c.findProperty? (propertyName stem)).isSome then return c
    else
      let behind ← setter.name.dropBytes? 1
      match c.methodIndex? ('g' :: behind) with
      | none => return c
      | some read =>
        let written ← c.markProperty? write
        let marked ← written.markProperty? read
        return { marked with
          properties := marked.properties ++ [⟨propertyName stem, read, write⟩] }
  else return c

def inferProperties? (c : Class) : Option Class :=
  (List.range c.methods.length).foldlM inferAt? c

@[simp] theorem length_markProperty (c : Class) (i : ℕ) :
    (c.markProperty i).methods.length = c.methods.length := by
  simp [markProperty]

theorem markProperty?_eq {c : Class} {i : ℕ} (hi : i < c.methods.length) :
    c.markProperty? i = some (c.markProperty i) := if_pos hi

@[simp] theorem length_inferAt (c : Class) (write : ℕ) :
    (c.inferAt write).methods.length = c.methods.length := by
  unfold inferAt
  split
  next => rfl
  next => simp

theorem methodIndex?_lt {c : Class} {name : Text} {i : ℕ}
    (hi : c.methodIndex? name = some i) : i < c.methods.length := by
  obtain ⟨m, hm, _⟩ := (methodIndex?_eq_some_iff.mp hi).1
  exact (List.getElem?_eq_some_iff.mp hm).1

theorem inferAt?_eq {c : Class} {write : ℕ}
    (hwrite : write < c.methods.length) :
    c.inferAt? write = some (c.inferAt write) := by
  obtain ⟨setter, hsetter⟩ : ∃ setter, c.methods[write]? = some setter :=
    ⟨_, List.getElem?_eq_getElem hwrite⟩
  have hcandidate := setter.isSome_setterStem?
  unfold inferAt? inferAt propertyAt?
  simp only [hsetter, Option.bind_eq_bind, Option.bind_some, ← hcandidate]
  cases hstem : setter.setterStem? with
  | none => rfl
  | some stem =>
      obtain ⟨_, hname, _⟩ := Method.setterStem?_eq_some_iff.mp hstem
      have hset : setter.name.dropBytes? 3 = some stem := by
        rw [hname]
        exact Text.dropBytes?_append "set".toList stem
      have hget : setter.name.dropBytes? 1 = some ("et".toList ++ stem) := by
        rw [hname]
        exact Text.dropBytes?_append ['s'] ("et".toList ++ stem)
      have hgetter : 'g' :: ("et".toList ++ stem) = "get".toList ++ stem := rfl
      rw [Option.isSome_some, if_pos rfl, hset, hget, Option.bind_some,
        Option.bind_some, Option.bind_some, hgetter]
      by_cases htaken : (c.findProperty? (propertyName stem)).isSome = true
      · rw [if_pos htaken, if_pos htaken]
        rfl
      · rw [if_neg htaken, if_neg htaken]
        cases hread : c.methodIndex? ("get".toList ++ stem) with
        | none => rfl
        | some read =>
            have hlt : read < (c.markProperty write).methods.length := by
              rw [length_markProperty]
              exact methodIndex?_lt hread
            dsimp only
            rw [markProperty?_eq hwrite, Option.bind_some, markProperty?_eq hlt]
            rfl

/-- The loop keeps the number of methods, so its places stay in range. -/
theorem foldlM_inferAt? {c : Class} {places : List ℕ}
    (hplaces : ∀ i ∈ places, i < c.methods.length) :
    places.foldlM inferAt? c = some (places.foldl inferAt c) := by
  induction places generalizing c with
  | nil => rfl
  | cons i places ih =>
      have hrest : ∀ j ∈ places, j < (c.inferAt i).methods.length := by
        intro j hj
        rw [length_inferAt]
        exact hplaces j (by simp [hj])
      rw [List.foldlM_cons, inferAt?_eq (hplaces i (by simp)), List.foldl_cons]
      exact ih hrest

theorem inferProperties?_eq (c : Class) :
    c.inferProperties? = some c.inferProperties := by
  apply foldlM_inferAt?
  intro i hi
  exact List.mem_range.mp hi

/-! ## The name without its package -/

def simpleName? (c : Class) : Option Text :=
  match Text.lastPosition? (· = '.') c.name with
  | none => some c.name
  | some dot => c.name.dropBytes? (dot + 1)

theorem simpleName?_eq (c : Class) : c.simpleName? = some c.simpleName := by
  unfold simpleName? simpleName
  by_cases hdot : '.' ∈ c.name
  · obtain ⟨last, package, hreverse, hlast⟩ :=
      List.eq_append_cons_of_mem (List.mem_reverse.mpr hdot)
    have hname : c.name = package.reverse ++ '.' :: last.reverse := by
      rw [← List.reverse_reverse c.name, hreverse]
      simp
    have hplain : ∀ x ∈ last.reverse, decide (x = '.') = false :=
      Text.decide_eq_of_notMem (by simpa using hlast)
    have hstops : Text.Stops (· ≠ '.') ('.' :: package) := by simp
    have hsize : '.'.utf8Size = 1 := by decide
    have hdrop : Text.dropBytes? (Text.utf8Length package.reverse + 1) c.name =
        some last.reverse :=
      Text.dropBytes?_eq_some_iff.mpr
        ⟨package.reverse ++ ['.'], by simp [hname], by simp [hsize]⟩
    rw [hreverse, Text.takeWhile_span (Text.decide_ne_of_notMem hlast) hstops,
      ← hdrop, hname, Text.lastPosition?_span (by decide) hplain]
  · have hplain := Text.decide_eq_of_notMem hdot
    have hall : ∀ x ∈ c.name.reverse, decide (x ≠ '.') = true :=
      Text.decide_ne_of_notMem (by simpa using hdot)
    rw [Text.lastPosition?_eq_none hplain, List.takeWhile_eq_self_iff.mpr hall,
      List.reverse_reverse]

end Class
end Stubgen
