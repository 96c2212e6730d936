import Stubgen.Command.Run
import Stubgen.Proofs.Json.RoundTrip
import Stubgen.Proofs.Outcome

/-!
# Classes are read back from JSON

Writing a class gives every member of every record, and reading asks for each of
them by name.  Three members may be missing when they say nothing: that a type is
no array, that there are no fields, and that there is no result.  Whether they are
there or not, and in whichever object, the classes that were written are read.
-/

namespace Stubgen

namespace Json

/-! ## Members that may be missing -/

/-- A member that may be left out. -/
inductive IsSpare : Text × Json → Prop
  | array : IsSpare ("array".toList, .bool false)
  | fields : IsSpare ("fields".toList, .array [])
  | returnType : IsSpare ("return_type".toList, .null)

def spareKeys : List Text :=
  ["array", "fields", "return_type"].map String.toList

mutual

/-- The second value is the first without some spare members, in any of its
objects. -/
inductive Omits : Json → Json → Prop
  | null : Omits .null .null
  | bool (value : Bool) : Omits (.bool value) (.bool value)
  | number (value : Number) : Omits (.number value) (.number value)
  | string (value : Text) : Omits (.string value) (.string value)
  | array (elements others : List Json) (h : OmitsInAll elements others) :
    Omits (.array elements) (.array others)
  | object (members others : List (Text × Json))
    (h : OmitsMembers members others) : Omits (.object members) (.object others)

inductive OmitsInAll : List Json → List Json → Prop
  | nil : OmitsInAll [] []
  | cons (v w : Json) (vs ws : List Json) (hv : Omits v w)
    (hvs : OmitsInAll vs ws) : OmitsInAll (v :: vs) (w :: ws)

inductive OmitsMembers : List (Text × Json) → List (Text × Json) → Prop
  | nil : OmitsMembers [] []
  | keep (key : Text) (v w : Json) (ms ns : List (Text × Json)) (hv : Omits v w)
    (hms : OmitsMembers ms ns) : OmitsMembers ((key, v) :: ms) ((key, w) :: ns)
  | drop (m : Text × Json) (ms ns : List (Text × Json)) (hm : IsSpare m)
    (hms : OmitsMembers ms ns) : OmitsMembers (m :: ms) ns

end

theorem IsSpare.key_mem {m : Text × Json} (h : IsSpare m) : m.1 ∈ spareKeys := by
  cases h <;> decide

mutual

theorem omits_refl (v : Json) : Omits v v := by
  match v with
  | .null => exact Omits.null
  | .bool value => exact Omits.bool value
  | .number value => exact Omits.number value
  | .string value => exact Omits.string value
  | .array elements => exact Omits.array _ _ (omitsInAll_refl elements)
  | .object members => exact Omits.object _ _ (omitsMembers_refl members)

theorem omitsInAll_refl (vs : List Json) : OmitsInAll vs vs := by
  match vs with
  | [] => exact OmitsInAll.nil
  | v :: vs => exact OmitsInAll.cons _ _ _ _ (omits_refl v) (omitsInAll_refl vs)

theorem omitsMembers_refl (ms : List (Text × Json)) : OmitsMembers ms ms := by
  match ms with
  | [] => exact OmitsMembers.nil
  | (key, v) :: ms =>
      exact OmitsMembers.keep key _ _ _ _ (omits_refl v) (omitsMembers_refl ms)

end

/-- Under another key than the three nothing is left out. -/
theorem OmitsMembers.exists_keep {key : Text} {v : Json}
    {ms ns : List (Text × Json)} (h : OmitsMembers ((key, v) :: ms) ns)
    (hkey : key ∉ spareKeys) :
    ∃ w others, ns = (key, w) :: others ∧ Omits v w ∧ OmitsMembers ms others := by
  cases h with
  | keep _ _ w _ others hv hms => exact ⟨w, others, rfl, hv, hms⟩
  | drop _ _ _ hspare hms => exact absurd hspare.key_mem hkey

theorem OmitsMembers.eq_nil {ns : List (Text × Json)} (h : OmitsMembers [] ns) :
    ns = [] := by
  cases h
  rfl

/-! ## Decoding -/

section Decoding

variable {α : Type} {decode : Json → Except Misfit α}

/-- A value is decoded to the same whichever spare members are missing. -/
def Decodes (decode : Json → Except Misfit α) (v : Json) (a : α) : Prop :=
  ∀ w, Omits v w → decode w = .ok a

theorem decodes_text (t : Text) : Decodes toText (.string t) t := by
  intro w hw
  cases hw
  rfl

theorem decodes_bool (value : Bool) : Decodes toBool (.bool value) value := by
  intro w hw
  cases hw
  rfl

theorem decodes_nat {n : ℕ} (hn : n < 2 ^ 64) : Decodes toNat (ofNat n) n := by
  intro w hw
  cases hw
  exact if_pos hn

theorem decodes_list {toJson : α → Json} {l : List α}
    (h : ∀ a ∈ l, Decodes decode (toJson a) a) :
    Decodes (toList decode) (.array (l.map toJson)) l := by
  intro w hw
  cases hw with
  | array _ others hall =>
      change others.mapM decode = .ok l
      induction l generalizing others with
      | nil =>
          cases hall
          rfl
      | cons a l ih =>
          cases hall with
          | cons _ first _ rest hfirst hrest =>
              have ha := h a List.mem_cons_self first hfirst
              have hl := ih (fun b hb => h b (List.mem_cons_of_mem a hb)) rest
                hrest
              rw [List.mapM_cons, ha, except_bind_eq_ok_iff]
              exact ⟨a, rfl, except_bind_eq_ok_iff.mpr ⟨l, hl, rfl⟩⟩

theorem field?_of_member {v m : Json} {name : String} {a : α}
    (hmember : v.member? name = some m) (hdecode : decode m = .ok a) :
    v.field? name decode = .ok (some a) := by
  rw [field?, hmember]
  simp only [hdecode]
  rfl

end Decoding

end Json

open Json (Decodes Omits OmitsMembers decodes_text decodes_bool decodes_nat
  decodes_list field?_of_member)

/-! ## Records -/

theorem TypeName.decodes (t : TypeName) : Decodes TypeName.ofJson t.toJson t := by
  intro w hw
  cases hw with
  | object _ ns hns =>
      obtain ⟨name, ms, rfl, hname, hms⟩ := hns.exists_keep (by decide)
      cases hname
      cases hms with
      | keep _ _ array _ rest harray hrest =>
          cases hrest.eq_nil
          cases harray
          rfl
      | drop _ _ _ hspare hrest =>
          cases hrest.eq_nil
          obtain ⟨name, array⟩ := t
          cases hspare
          rfl

/-- A type is written as an object, never as `null`. -/
theorem TypeName.decodes_option (o : Option TypeName) :
    Decodes (Json.toOption TypeName.ofJson) (Json.ofOption TypeName.toJson o) o := by
  intro w hw
  cases o with
  | none =>
      cases hw
      rfl
  | some t =>
      have ht := t.decodes w hw
      cases hw with
      | object _ ns _ =>
          rw [Json.toOption, ht]
          · rfl
          · exact nofun

theorem Signature.decodes (s : Signature) :
    Decodes Signature.ofJson s.toJson s := by
  intro w hw
  cases hw with
  | object _ ns hns =>
      obtain ⟨raw, ms, rfl, hraw, hms⟩ := hns.exists_keep (by decide)
      obtain ⟨args, ls, rfl, hargs, hls⟩ := hms.exists_keep (by decide)
      have hraw := decodes_text _ _ hraw
      have hargs := decodes_list (fun t _ => TypeName.decodes t) _ hargs
      cases hls with
      | keep _ _ result _ rest hresult hrest =>
          cases hrest.eq_nil
          have hresult := TypeName.decodes_option s.returnType _ hresult
          rw [Signature.ofJson, field?_of_member rfl hargs, field?_of_member rfl hraw,
            field?_of_member rfl hresult]
          rfl
      | drop _ _ _ hspare hrest =>
          cases hrest.eq_nil
          obtain ⟨rawText, argTypes, returnType⟩ := s
          cases returnType with
          | none =>
              rw [Signature.ofJson, field?_of_member rfl hargs,
                field?_of_member rfl hraw]
              rfl
          | some t => cases hspare

theorem Method.decodes (m : Method) : Decodes Method.ofJson m.toJson m := by
  intro w hw
  cases hw with
  | object _ ns hns =>
      obtain ⟨name, ms, rfl, hname, hms⟩ := hns.exists_keep (by decide)
      obtain ⟨isConstructor, ks, rfl, hconstructor, hks⟩ :=
        hms.exists_keep (by decide)
      obtain ⟨isStatic, ls, rfl, hstatic, hls⟩ := hks.exists_keep (by decide)
      obtain ⟨isProperty, os, rfl, hproperty, hos⟩ := hls.exists_keep (by decide)
      obtain ⟨signature, ps, rfl, hsignature, hps⟩ := hos.exists_keep (by decide)
      cases hps.eq_nil
      have hname := decodes_text _ _ hname
      have hconstructor := decodes_bool _ _ hconstructor
      have hstatic := decodes_bool _ _ hstatic
      have hproperty := decodes_bool _ _ hproperty
      have hsignature := m.signature.decodes _ hsignature
      rw [Method.ofJson, field?_of_member rfl hconstructor,
        field?_of_member rfl hproperty, field?_of_member rfl hstatic,
        field?_of_member rfl hname, field?_of_member rfl hsignature]
      rfl

theorem Field.decodes (f : Field) : Decodes Field.ofJson f.toJson f := by
  intro w hw
  cases hw with
  | object _ ns hns =>
      obtain ⟨name, ms, rfl, hname, hms⟩ := hns.exists_keep (by decide)
      obtain ⟨type, ks, rfl, htype, hks⟩ := hms.exists_keep (by decide)
      obtain ⟨isStatic, ls, rfl, hstatic, hls⟩ := hks.exists_keep (by decide)
      cases hls.eq_nil
      have hname := decodes_text _ _ hname
      have htype := f.type.decodes _ htype
      have hstatic := decodes_bool _ _ hstatic
      rw [Field.ofJson, field?_of_member rfl hstatic, field?_of_member rfl hname,
        field?_of_member rfl htype]
      rfl

/-- The places of a property fit a machine word, the width in which they are
kept. -/
def Property.Fits (p : Property) : Prop := p.read < 2 ^ 64 ∧ p.write < 2 ^ 64

theorem Property.decodes {p : Property} (hp : p.Fits) :
    Decodes Property.ofJson p.toJson p := by
  intro w hw
  cases hw with
  | object _ ns hns =>
      obtain ⟨name, ms, rfl, hname, hms⟩ := hns.exists_keep (by decide)
      obtain ⟨read, ks, rfl, hread, hks⟩ := hms.exists_keep (by decide)
      obtain ⟨write, ls, rfl, hwrite, hls⟩ := hks.exists_keep (by decide)
      cases hls.eq_nil
      have hname := decodes_text _ _ hname
      have hread := decodes_nat hp.1 _ hread
      have hwrite := decodes_nat hp.2 _ hwrite
      rw [Property.ofJson, field?_of_member rfl hname, field?_of_member rfl hread,
        field?_of_member rfl hwrite]
      rfl

/-- The places that the properties of a class cite fit a machine word. -/
def Class.Fits (c : Class) : Prop := ∀ p ∈ c.properties, p.Fits

theorem Class.decodes {c : Class} (hc : c.Fits) :
    Decodes Class.ofJson c.toJson c := by
  intro w hw
  cases hw with
  | object _ ns hns =>
      obtain ⟨name, ms, rfl, hname, hms⟩ := hns.exists_keep (by decide)
      obtain ⟨methods, ks, rfl, hmethods, hks⟩ := hms.exists_keep (by decide)
      have hname := decodes_text _ _ hname
      have hmethods := decodes_list (fun m _ => Method.decodes m) _ hmethods
      cases hks with
      | keep _ _ fields _ rest hfields hrest =>
          obtain ⟨properties, ls, rfl, hproperties, hls⟩ :=
            hrest.exists_keep (by decide)
          cases hls.eq_nil
          have hfields := decodes_list (fun f _ => Field.decodes f) _ hfields
          have hproperties :=
            decodes_list (fun p hp => Property.decodes (hc p hp)) _ hproperties
          rw [Class.ofJson, field?_of_member rfl hfields,
            field?_of_member rfl hmethods, field?_of_member rfl hname,
            field?_of_member rfl hproperties]
          rfl
      | drop _ _ _ hspare hrest =>
          obtain ⟨properties, ls, rfl, hproperties, hls⟩ :=
            hrest.exists_keep (by decide)
          cases hls.eq_nil
          have hproperties :=
            decodes_list (fun p hp => Property.decodes (hc p hp)) _ hproperties
          obtain ⟨className, allMethods, allFields, allProperties⟩ := c
          cases allFields with
          | nil =>
              rw [Class.ofJson, field?_of_member rfl hmethods,
                field?_of_member rfl hname, field?_of_member rfl hproperties]
              rfl
          | cons f fields => cases hspare

/-! ## Lists of classes -/

/-- The classes that a text spells, or why its value is no list of classes; `none`
if the text is no JSON. -/
def classesOfJson? (t : Text) : Option (Except Json.Misfit (List Class)) :=
  (Json.parse? t).map (Json.toList Class.ofJson)

/-- Two lists of classes are shown, searched, paired and compiled to the same. -/
structure AnswerAlike (classes others : List Class) : Prop where
  display : classes.map Class.display? = others.map Class.display?
  findMethod : ∀ name,
    classes.map (Class.findMethod? · name) = others.map (Class.findMethod? · name)
  findProperty : ∀ name,
    classes.map (Class.findProperty? · name) =
      others.map (Class.findProperty? · name)
  inferProperties :
    classes.map Class.inferProperties = others.map Class.inferProperties
  module : ∀ options,
    Python.module? options classes = Python.module? options others

/-- A text gives back the classes themselves, and with them every answer. -/
structure GivesBack (classes : List Class) (t : Text) : Prop where
  same : classesOfJson? t = some (.ok classes)
  alike : ∀ decoded, classesOfJson? t = some (.ok decoded) →
    AnswerAlike decoded classes

theorem GivesBack.of_same {classes : List Class} {t : Text}
    (h : classesOfJson? t = some (.ok classes)) : GivesBack classes t := by
  apply GivesBack.mk h
  intro decoded hdecoded
  rw [h] at hdecoded
  cases hdecoded
  exact ⟨rfl, fun _ => rfl, fun _ => rfl, rfl, fun _ => rfl⟩

/-- However a text spells the classes, with or without the members that may be
missing, they are read from it. -/
theorem givesBack_of_parse {classes : List Class} (hclasses : ∀ c ∈ classes, c.Fits)
    {v : Json} (hv : Omits (.array (classes.map Class.toJson)) v) {t : Text}
    (ht : Json.parse? t = some v) : GivesBack classes t := by
  apply GivesBack.of_same
  have hdecode := decodes_list (fun c hc => Class.decodes (hclasses c hc)) v hv
  rw [classesOfJson?, ht, Option.map_some, hdecode]

/-- What is shown of classes as JSON gives back the same classes, and so does the
value that is shown without some of the members that may be missing. -/
theorem json_keepsClasses {classes : List Class}
    (hclasses : ∀ c ∈ classes, c.Fits) :
    GivesBack classes (Command.show_ classes .json) ∧
      ∀ v, Omits (.array (classes.map Class.toJson)) v →
        GivesBack classes (v.pretty ++ ['\n']) := by
  have hline : ∀ v : Json, Json.parse? (v.pretty ++ ['\n']) = some v := by
    intro v
    exact Json.parse?_pretty_append v (by decide) (by decide)
  constructor
  · exact givesBack_of_parse hclasses (Json.omits_refl _) (hline _)
  · intro v hv
    exact givesBack_of_parse hclasses hv (hline v)

/-- No fields and no result, and names with characters that are escaped. -/
def heron : Class where
  name := "birds.\"Heron\"".toList
  methods :=
    [⟨"wade\n".toList, false, true, false,
      ⟨"([I)V".toList, [⟨['I'], true⟩], none⟩⟩]
  properties := [⟨"αβ".toList, 0, 2 ^ 64 - 1⟩]

/-- The value of the class without the members that say nothing. -/
def heronSpared : Json :=
  .object [("name".toList, .string heron.name),
    ("methods".toList, .array [.object [("name".toList, .string "wade\n".toList),
      ("is_constructor".toList, .bool false), ("is_static".toList, .bool true),
      ("is_property".toList, .bool false),
      ("signature".toList, .object [("raw".toList, .string "([I)V".toList),
        ("arg_types".toList, .array [TypeName.toJson ⟨['I'], true⟩])])]]),
    ("properties".toList, .array (heron.properties.map Property.toJson))]

theorem heron_givesBack :
    (∀ c ∈ [heron], c.Fits) ∧
      GivesBack [heron] (Command.show_ [heron] .json) ∧
      Omits (.array [heron.toJson]) (.array [heronSpared]) ∧
      GivesBack [heron] ((Json.array [heronSpared]).pretty ++ ['\n']) := by
  have hfits : ∀ c ∈ [heron], c.Fits := by
    intro c hc p hp
    rw [List.mem_singleton.mp hc] at hp
    rw [List.mem_singleton.mp hp]
    exact ⟨by decide, by decide⟩
  have homits : Omits (.array [heron.toJson]) (.array [heronSpared]) := by
    apply Omits.array _ _ (.cons _ _ _ _ (.object _ _ _) .nil)
    apply OmitsMembers.keep _ _ _ _ _ (Json.omits_refl _)
    apply OmitsMembers.keep
    · apply Omits.array _ _ (.cons _ _ _ _ (.object _ _ _) .nil)
      apply OmitsMembers.keep _ _ _ _ _ (Json.omits_refl _)
      apply OmitsMembers.keep _ _ _ _ _ (Json.omits_refl _)
      apply OmitsMembers.keep _ _ _ _ _ (Json.omits_refl _)
      apply OmitsMembers.keep _ _ _ _ _ (Json.omits_refl _)
      apply OmitsMembers.keep _ _ _ _ _ (.object _ _ _) .nil
      apply OmitsMembers.keep _ _ _ _ _ (Json.omits_refl _)
      apply OmitsMembers.keep _ _ _ _ _ (Json.omits_refl _)
      exact OmitsMembers.drop _ _ _ .returnType .nil
    · apply OmitsMembers.drop _ _ _ .fields
      exact Json.omitsMembers_refl _
  have hback := json_keepsClasses hfits
  exact ⟨hfits, hback.1, homits, hback.2 _ homits⟩

end Stubgen
