import Stubgen.Proofs.Python.Names
import Stubgen.Proofs.Python.ReadBack

/-!
# What the text of a class says

The class that a listing declares has names and types without line feeds.  As long
as its own name and the class path have none either, each line of its text is a
line of one block, so the reader gets back what the text was to say, and classes
with the same text say the same.
-/

namespace Stubgen.Python

/-! ## Lines -/

theorem ne_add_of_mem_functionSteps {head doc body : Text} {s : Step}
    (hs : s ∈ functionSteps head doc body) (t : Text) : s ≠ .add t := by
  rintro rfl
  simp [functionSteps] at hs

theorem ne_add_of_mem_classSteps {options : Options} {c : Class}
    {accessors : List Accessors} {s : Step}
    (hs : s ∈ classSteps options c accessors) (t : Text) : s ≠ .add t := by
  simp only [classSteps_eq_append, List.mem_append, List.mem_flatMap] at hs
  rcases hs with ((hhead | ⟨m, _, hmethod⟩) | ⟨a, _, haccessor⟩) | hlast
  · rintro rfl
    simp [headSteps] at hhead
  · exact ne_add_of_mem_functionSteps hmethod t
  · rcases List.mem_append.mp haccessor with hgetter | hsetter
    · rcases List.mem_cons.mp hgetter with rfl | hgetter
      · exact Step.noConfusion
      · exact ne_add_of_mem_functionSteps hgetter t
    · rcases List.mem_cons.mp hsetter with rfl | hsetter
      · exact Step.noConfusion
      · exact ne_add_of_mem_functionSteps hsetter t
  · rw [List.mem_singleton.mp hlast]
    exact Step.noConfusion

namespace Block

/-- The texts of a block can be told apart as lines. -/
def IsLegible (b : Block) : Prop := ∀ t ∈ b.head :: b.body, Python.IsLegible t

end Block

theorem isLegible_nil : IsLegible [] := ⟨by simp, Text.stops_nil _⟩

theorem isLegible_citation {m : Method} (hname : '\n' ∉ m.name)
    (hdisplay : '\n' ∉ m.signature.display) : IsLegible (citation m) := by
  have hlabel : IsLegible "method: ".toList := ⟨by decide, by decide⟩
  exact (hlabel.append (by simp) hname).append (by simp) hdisplay

theorem newline_notMem_identifier {name : Text} (hname : '\n' ∉ name) :
    '\n' ∉ identifier name :=
  fun hmem => hname (mem_of_mem_identifier hmem (by decide))

theorem isLegible_functionBlock {head doc body : Text} (hhead : IsLegible head)
    (hdoc : IsLegible doc) (hbody : IsLegible body) :
    (functionBlock head doc body).IsLegible := by
  have hquotes : IsLegible quotes := ⟨by decide, by decide⟩
  intro t ht
  simp only [functionBlock, List.mem_cons, List.not_mem_nil, or_false] at ht
  rcases ht with rfl | rfl | rfl | rfl | rfl | rfl
  · exact hhead
  · exact hquotes
  · exact hdoc
  · exact hquotes
  · exact hbody
  · exact isLegible_nil

theorem isClosed_functionBlock {name doc body : Text}
    (hdoc : opensBlock doc = false) (hbody : opensBlock body = false) :
    (functionBlock ("def ".toList ++ name) doc body).IsClosed where
  opens := fun _ => ⟨quotes, rfl, by decide⟩
  plain := by
    intro hplain
    have hopens : opensBlock ("def ".toList ++ name) = true := by
      unfold opensBlock
      rw [Bool.or_eq_true]
      exact Or.inr (List.isPrefixOf_iff_prefix.mpr (List.prefix_append _ _))
    rw [functionBlock, hopens] at hplain
    cases hplain
  body := by
    intro t ht
    simp only [functionBlock, List.mem_cons, List.not_mem_nil, or_false] at ht
    rcases ht with rfl | rfl | rfl | rfl | rfl
    · rfl
    · exact hdoc
    · rfl
    · exact hbody
    · rfl

theorem opensBlock_citation (m : Method) : opensBlock (citation m) = false := rfl

/-! ## Blocks -/

/-- A block that is a line on its own. -/
theorem isLegible_line {t : Text} (ht : IsLegible t) : Block.IsLegible ⟨t, []⟩ := by
  intro u hu
  rw [List.mem_singleton.mp hu]
  exact ht

theorem isClosed_line {t : Text} (ht : opensBlock t = false) :
    Block.IsClosed ⟨t, []⟩ where
  opens := fun hopens => absurd (ht.symm.trans hopens) Bool.false_ne_true
  plain := fun _ => rfl
  body := fun _ hu => absurd hu List.not_mem_nil

theorem isLegible_methodBlock {m : Method} (hname : '\n' ∉ m.name)
    (hdisplay : '\n' ∉ m.signature.display) : (methodBlock m).IsLegible := by
  have hlabel : IsLegible "def ".toList := ⟨by decide, by decide⟩
  have hlist : '\n' ∉ Text.joinWith ", ".toList
      (parameters m.signature.argTypes.length) := by
    intro hmem
    rcases Text.mem_joinWith hmem with hseparator | ⟨p, hp, hmem⟩
    · exact absurd hseparator (by decide)
    · exact notMem_parameters hp (by decide) (by decide) hmem
  apply isLegible_functionBlock _ (isLegible_citation hname hdisplay)
    ⟨by decide, by decide⟩
  have hopened := (hlabel.append (by simp) (newline_notMem_identifier hname)).append
    (t := ['(']) (by simp) (by decide)
  exact (hopened.append (by simp) hlist).append (by simp) (by decide)

theorem isClosed_methodBlock (m : Method) : (methodBlock m).IsClosed := by
  unfold methodBlock
  rw [List.append_assoc, List.append_assoc, List.append_assoc]
  exact isClosed_functionBlock (opensBlock_citation m) rfl

theorem isLegible_propertyBlocks {a : Accessors} (hname : '\n' ∉ a.name)
    (hgetter : IsLegible (citation a.getter))
    (hsetter : IsLegible (citation a.setter)) :
    ∀ b ∈ propertyBlocks a, b.IsLegible := by
  have hidentifier := newline_notMem_identifier hname
  have hlabel : IsLegible "def ".toList := ⟨by decide, by decide⟩
  have hat : IsLegible ('@' :: identifier a.name) := by
    have hsign : IsLegible ['@'] := ⟨by decide, by decide⟩
    exact hsign.append (by simp) hidentifier
  have hhead : ∀ list : Text, '\n' ∉ list →
      IsLegible ("def ".toList ++ identifier a.name ++ list) := by
    intro list hlist
    exact (hlabel.append (by simp) hidentifier).append (by simp) hlist
  intro b hb
  simp only [propertyBlocks, List.mem_cons, List.not_mem_nil, or_false] at hb
  rcases hb with rfl | rfl | rfl | rfl
  · exact isLegible_line ⟨by decide, by decide⟩
  · exact isLegible_functionBlock (hhead _ (by decide)) hgetter
      ⟨by decide, by decide⟩
  · exact isLegible_line (hat.append (by simp) (by decide))
  · exact isLegible_functionBlock (hhead _ (by decide)) hsetter
      ⟨by decide, by decide⟩

theorem isClosed_propertyBlocks (a : Accessors) :
    ∀ b ∈ propertyBlocks a, b.IsClosed := by
  intro b hb
  simp only [propertyBlocks, List.append_assoc, List.mem_cons, List.not_mem_nil,
    or_false] at hb
  rcases hb with rfl | rfl | rfl | rfl
  · exact isClosed_line rfl
  · exact isClosed_functionBlock (opensBlock_citation a.getter) rfl
  · exact isClosed_line rfl
  · exact isClosed_functionBlock (opensBlock_citation a.setter) rfl

/-- What comes into the text of a class from outside holds no line feed. -/
structure IsWritable (options : Options) (c : Class) (accessors : List Accessors) :
    Prop where
  classname : '\n' ∉ c.name
  classpath : ∀ path ∈ options.classpath, '\n' ∉ path
  method : ∀ m ∈ c.methods, '\n' ∉ m.name ∧ '\n' ∉ m.signature.display
  accessor : ∀ a ∈ accessors,
    '\n' ∉ a.name ∧ a.getter ∈ c.methods ∧ a.setter ∈ c.methods

theorem newline_notMem_simpleName {c : Class} (hc : '\n' ∉ c.name) :
    '\n' ∉ c.simpleName :=
  fun hmem => hc ((simpleName_suffix c).subset hmem)

theorem isLegible_headerText {options : Options} {c : Class}
    (hc : '\n' ∉ c.name) : IsLegible (headerText options c) := by
  have hlabel : IsLegible "class ".toList := ⟨by decide, by decide⟩
  have hopened := (hlabel.append (by simp) (newline_notMem_simpleName hc)).append
    (t := ['(']) (by simp) (by decide)
  have hbase : '\n' ∉ baseClass options.profile := by
    cases options.profile <;> decide
  exact (hopened.append (by simp) hbase).append (by simp) (by decide)

theorem isLegible_constructorBody {options : Options} {c : Class}
    (hc : '\n' ∉ c.name) : IsLegible (constructorBody options c) := by
  unfold constructorBody
  split
  · exact ⟨by decide, by decide⟩
  · have hlabel : IsLegible "super(".toList := ⟨by decide, by decide⟩
    exact (hlabel.append (by simp) (newline_notMem_simpleName hc)).append
      (by simp) (by decide)

theorem opensBlock_constructorBody (options : Options) (c : Class) :
    opensBlock (constructorBody options c) = false := by
  unfold constructorBody
  split <;> rfl

theorem isLegible_of_mem_classCitations {options : Options} {c : Class}
    (hc : '\n' ∉ c.name) (hpath : ∀ path ∈ options.classpath, '\n' ∉ path)
    {t : Text} (ht : t ∈ classCitations options c) : IsLegible t := by
  have hname : IsLegible "classname: ".toList := ⟨by decide, by decide⟩
  have hlabel : IsLegible "classpath: ".toList := ⟨by decide, by decide⟩
  rcases List.mem_cons.mp ht with rfl | hcited
  · exact hname.append (by simp) hc
  · split at hcited
    next path _ hoption =>
      rw [List.mem_singleton.mp hcited]
      exact hlabel.append (by simp) (hpath path hoption)
    next => cases hcited

theorem opensBlock_of_mem_classCitations {options : Options} {c : Class}
    {t : Text} (ht : t ∈ classCitations options c) : opensBlock t = false := by
  rcases List.mem_cons.mp ht with rfl | hcited
  · rfl
  · split at hcited
    next => rw [List.mem_singleton.mp hcited]; rfl
    next => cases hcited

theorem mem_innerBlocks {options : Options} {c : Class}
    {accessors : List Accessors} {b : Block} :
    b ∈ innerBlocks options c accessors ↔
      (∃ t ∈ classCitations options c, b = ⟨t, []⟩) ∨
      b = ⟨quotes, []⟩ ∨ b = ⟨[], []⟩ ∨
      b = ⟨"def __init__(self, jobject):".toList,
        [constructorBody options c, []]⟩ ∨
      (∃ m ∈ c.methods.filter hasStub, b = methodBlock m) ∨
      ∃ a ∈ accessors, b ∈ propertyBlocks a := by
  unfold innerBlocks
  simp only [List.mem_append, List.mem_map, List.mem_flatMap, List.mem_cons,
    List.not_mem_nil, or_false, or_assoc, eq_comm (b := b)]

theorem isLegible_of_mem_innerBlocks {options : Options} {c : Class}
    {accessors : List Accessors} (hc : IsWritable options c accessors) {b : Block}
    (hb : b ∈ innerBlocks options c accessors) : b.IsLegible := by
  have hcitation : ∀ m ∈ c.methods, IsLegible (citation m) := by
    intro m hm
    exact isLegible_citation (hc.method m hm).1 (hc.method m hm).2
  rcases mem_innerBlocks.mp hb with
    ⟨t, ht, rfl⟩ | rfl | rfl | rfl | ⟨m, hm, rfl⟩ | ⟨a, ha, hproperty⟩
  · exact isLegible_line
      (isLegible_of_mem_classCitations hc.classname hc.classpath ht)
  · exact isLegible_line ⟨by decide, by decide⟩
  · exact isLegible_line isLegible_nil
  · intro t ht
    simp only [List.mem_cons, List.not_mem_nil, or_false] at ht
    rcases ht with rfl | rfl | rfl
    · exact ⟨by decide, by decide⟩
    · exact isLegible_constructorBody hc.classname
    · exact isLegible_nil
  · obtain ⟨hname, hdisplay⟩ := hc.method m (List.mem_of_mem_filter hm)
    exact isLegible_methodBlock hname hdisplay
  · obtain ⟨hname, hgetter, hsetter⟩ := hc.accessor a ha
    exact isLegible_propertyBlocks hname (hcitation _ hgetter)
      (hcitation _ hsetter) b hproperty

theorem isClosed_of_mem_innerBlocks {options : Options} {c : Class}
    {accessors : List Accessors} {b : Block}
    (hb : b ∈ innerBlocks options c accessors) : b.IsClosed := by
  rcases mem_innerBlocks.mp hb with
    ⟨t, ht, rfl⟩ | rfl | rfl | rfl | ⟨m, _, rfl⟩ | ⟨a, _, hproperty⟩
  · exact isClosed_line (opensBlock_of_mem_classCitations ht)
  · exact isClosed_line rfl
  · exact isClosed_line rfl
  · have hbody := opensBlock_constructorBody options c
    have hne : constructorBody options c ≠ [] := by
      unfold constructorBody
      split <;> simp
    refine ⟨fun _ => ⟨_, rfl, hne⟩, fun hplain => ?_, ?_⟩
    · exact absurd hplain.symm Bool.false_ne_true
    · intro t ht
      simp only [List.mem_cons, List.not_mem_nil, or_false] at ht
      rcases ht with rfl | rfl
      · exact hbody
      · rfl
  · exact isClosed_methodBlock m
  · exact isClosed_propertyBlocks a b hproperty

/-! ## The text of a class -/

/-- The lines of a class. -/
def classLines (options : Options) (c : Class) (accessors : List Accessors) :
    List Line :=
  linesFrom 0 (classSteps options c accessors)

theorem isLegible_of_mem_classLines {options : Options} {c : Class}
    {accessors : List Accessors} (hc : IsWritable options c accessors) {l : Line}
    (hl : l ∈ classLines options c accessors) : IsLegible l.text := by
  rw [classLines, linesFrom_classSteps] at hl
  rcases List.mem_cons.mp hl with rfl | hbelow
  · exact isLegible_headerText hc.classname
  · obtain ⟨b, hb, hline⟩ := List.mem_flatMap.mp hbelow
    have hblock : b.IsLegible := by
      rcases List.mem_cons.mp hb with rfl | hinner
      · exact isLegible_line ⟨by decide, by decide⟩
      · exact isLegible_of_mem_innerBlocks hc hinner
    rcases List.mem_cons.mp hline with rfl | hbody
    · exact hblock _ List.mem_cons_self
    · obtain ⟨t, ht, rfl⟩ := List.mem_map.mp hbody
      exact hblock t (List.mem_cons_of_mem _ ht)

theorem isIndented_classLines (options : Options) (c : Class)
    (accessors : List Accessors) : IsIndented (classLines options c accessors) := by
  have hheader : "class ".toList <+: headerText options c := by
    unfold headerText
    rw [List.append_assoc, List.append_assoc, List.append_assoc]
    exact List.prefix_append _ _
  rw [classLines, linesFrom_classSteps]
  apply isIndented_cons hheader (by simp [quotes])
  intro b hb
  rcases List.mem_cons.mp hb with rfl | hinner
  · exact isClosed_line rfl
  · exact isClosed_of_mem_innerBlocks hinner

theorem exists_property_of_mem {c : Class} {properties : List Property}
    {accessors : List Accessors}
    (haccessors : properties.mapM c.accessors? = some accessors) {a : Accessors}
    (ha : a ∈ accessors) : ∃ p ∈ properties, c.accessors? p = some a := by
  induction properties generalizing accessors with
  | nil =>
      cases haccessors
      cases ha
  | cons p rest ih =>
      rw [List.mapM_cons] at haccessors
      obtain ⟨first, hfirst, haccessors⟩ := Option.bind_eq_some_iff.mp haccessors
      obtain ⟨others, hothers, hcons⟩ := Option.bind_eq_some_iff.mp haccessors
      cases hcons
      rcases List.mem_cons.mp ha with rfl | hmem
      · exact ⟨p, by simp, hfirst⟩
      · obtain ⟨q, hq, hqa⟩ := ih hothers hmem
        exact ⟨q, List.mem_cons_of_mem p hq, hqa⟩

theorem accessors?_eq_some {c : Class} {p : Property} {a : Accessors}
    (ha : c.accessors? p = some a) :
    a.name = p.name ∧ a.getter ∈ c.methods ∧ a.setter ∈ c.methods := by
  unfold Class.accessors? at ha
  split at ha
  next getter setter hgetter hsetter =>
    cases ha
    exact ⟨rfl, List.mem_of_getElem? hgetter, List.mem_of_getElem? hsetter⟩
  next => cases ha

/-- The accessors of a class that was read are methods of the class, under names
that have no line feed and no bracket. -/
theorem accessors_of_parse {skips : Text → Bool} {classname text : Text}
    {c : Class} (hparse : Listing.parse skips classname text = .ok c)
    {accessors : List Accessors} (haccessors : c.allAccessors? = some accessors)
    {a : Accessors} (ha : a ∈ accessors) :
    ('\n' ∉ a.name ∧ '(' ∉ a.name) ∧ a.getter ∈ c.methods ∧
      a.setter ∈ c.methods := by
  obtain ⟨p, hp, hpa⟩ := exists_property_of_mem haccessors ha
  obtain ⟨hname, hmethods⟩ := accessors?_eq_some hpa
  rw [hname]
  exact ⟨(Listing.isOneLine_of_parse hparse).property p hp, hmethods⟩

theorem isWritable_of_parse {skips : Text → Bool} {classname text : Text}
    {c : Class} (hparse : Listing.parse skips classname text = .ok c)
    (hname : '\n' ∉ classname) {options : Options}
    (hpath : ∀ path ∈ options.classpath, '\n' ∉ path)
    {accessors : List Accessors} (haccessors : c.allAccessors? = some accessors) :
    IsWritable options c accessors where
  classname := by rwa [Listing.name_of_parse hparse]
  classpath := hpath
  method := by
    have hline := Listing.isOneLine_of_parse hparse
    exact fun m hm => ⟨hline.name m hm, hline.display m hm⟩
  accessor := by
    intro a ha
    obtain ⟨⟨hname, _⟩, hmethods⟩ := accessors_of_parse hparse haccessors ha
    exact ⟨hname, hmethods⟩

/-- The signature of a method that was read has a type for each argument that its
descriptor spells. -/
theorem length_argTypes_of_parse {skips : Text → Bool} {classname text : Text}
    {c : Class} (hparse : Listing.parse skips classname text = .ok c) {m : Method}
    (hm : m ∈ c.methods) :
    ∃ arguments result, Descriptor.Spells m.signature.raw arguments result ∧
      m.signature.argTypes.length = arguments.length := by
  obtain ⟨_, descriptor, _, _, _, _, _, _, hdecode⟩ :=
    Listing.exists_lines_of_mem_methods hparse hm
  obtain ⟨arguments, result, hspells⟩ :=
    Descriptor.exists_spelling_of_decodeMethod hdecode
  have hsignature := Except.ok.inj (hdecode.symm.trans hspells.decodeMethod)
  rw [hsignature]
  exact ⟨arguments, result, hspells, List.length_map _⟩

/-- A text has the layout of a class, and a reader gets out of it what the class
is to say.  No line starts with a blank of its own, so the blanks ahead of a line
are those of its level. -/
structure IsReadable (options : Options) (c : Class) (accessors : List Accessors)
    (stub : Text) : Prop where
  level : levelFrom 0 (classSteps options c accessors) = 0
  layout : ∃ lines : List Line, stub = lines.flatMap Line.render ∧
    (∀ l ∈ lines, IsLegible l.text) ∧ IsIndented lines
  outline : readOutline? stub = some (classOutline options c accessors)

theorem isReadable_of_parse {skips : Text → Bool} {classname text : Text}
    {c : Class} (hparse : Listing.parse skips classname text = .ok c)
    (hname : '\n' ∉ classname) {options : Options}
    (hpath : ∀ path ∈ options.classpath, '\n' ∉ path)
    {accessors : List Accessors} (haccessors : c.allAccessors? = some accessors) :
    IsReadable options c accessors (textFrom 0 (classSteps options c accessors)) := by
  have hwritable := isWritable_of_parse hparse hname hpath haccessors
  have hlegible : ∀ l ∈ classLines options c accessors, IsLegible l.text :=
    fun l hl => isLegible_of_mem_classLines hwritable hl
  have htext : textFrom 0 (classSteps options c accessors) =
      (classLines options c accessors).flatMap Line.render :=
    textFrom_eq_flatMap_render (fun s hs => ne_add_of_mem_classSteps hs) 0
  refine ⟨levelFrom_classSteps options c accessors, ?_, ?_⟩
  · exact ⟨_, htext, hlegible, isIndented_classLines options c accessors⟩
  -- No name holds a bracket, so the names end where the lists of parameters start.
  · rw [htext, readOutline?, readLines?_flatMap_render hlegible, Option.bind_some]
    exact readClass?_linesFrom (Listing.isOneLine_of_parse hparse).bracket
      fun a ha => (accessors_of_parse hparse haccessors ha).1.2

/-- The text of a class that was read can be read back, and it is the text of no
class that says anything else. -/
theorem readOutline?_classStub_of_parse {skips : Text → Bool}
    {classname text : Text} {c : Class}
    (hparse : Listing.parse skips classname text = .ok c)
    (hname : '\n' ∉ classname) {options : Options}
    (hpath : ∀ path ∈ options.classpath, '\n' ∉ path) :
    ∃ accessors stub, c.allAccessors? = some accessors ∧
      classStub? options c = some stub ∧ IsReadable options c accessors stub ∧
      (∀ m ∈ c.methods, ∃ arguments result,
        Descriptor.Spells m.signature.raw arguments result ∧
          m.signature.argTypes.length = arguments.length) ∧
      ∀ {skips' : Text → Bool} {classname' text' : Text} {c' : Class}
        {options' : Options} {accessors' : List Accessors},
        Listing.parse skips' classname' text' = .ok c' → '\n' ∉ classname' →
        (∀ path ∈ options'.classpath, '\n' ∉ path) →
        c'.allAccessors? = some accessors' → classStub? options' c' = some stub →
          classOutline options' c' accessors' =
            classOutline options c accessors := by
  obtain ⟨accessors, haccessors⟩ :=
    exists_allAccessors? (Listing.isCoherent_of_parse hparse)
  have hstub : classStub? options c =
      some (textFrom 0 (classSteps options c accessors)) := by
    rw [classStub?, haccessors, Option.map_some]
  have hreadable := isReadable_of_parse hparse hname hpath haccessors
  refine ⟨accessors, _, haccessors, hstub, hreadable,
    fun m hm => length_argTypes_of_parse hparse hm, ?_⟩
  intro _ _ _ c' options' accessors' hparse' hname' hpath' haccessors' hstub'
  have houtline := (isReadable_of_parse hparse' hname' hpath' haccessors').outline
  rw [classStub?, haccessors', Option.map_some, Option.some.injEq] at hstub'
  rw [hstub', hreadable.outline] at houtline
  exact (Option.some.inj houtline).symm

/-- A listing with a constructor, a method with two arguments and a property whose
name has two words. -/
def teapotListing : Text :=
  Text.joinWith ['\n'] <| [
    "public class demo.Teapot \x7b",
    "  public demo.Teapot();", "    descriptor: ()V",
    "  public int pour(int, java.lang.String[]);",
    "    descriptor: (I[Ljava/lang/String;)I",
    "  public void setLidOpen(boolean);", "    descriptor: (Z)V",
    "  public boolean getLidOpen();", "    descriptor: ()Z",
    "\x7d"].map String.toList

def teapot : Class where
  name := "demo.Teapot".toList
  methods :=
    [⟨"demo.Teapot".toList, true, false, false, ⟨"()V".toList, [], none⟩⟩,
      ⟨"pour".toList, false, false, false,
        ⟨"(I[Ljava/lang/String;)I".toList,
          [⟨['I'], false⟩, ⟨"java/lang/String".toList, true⟩],
          some ⟨['I'], false⟩⟩⟩,
      ⟨"setLidOpen".toList, false, false, true,
        ⟨"(Z)V".toList, [⟨['Z'], false⟩], none⟩⟩,
      ⟨"getLidOpen".toList, false, false, true,
        ⟨"()Z".toList, [], some ⟨['Z'], false⟩⟩⟩]
  properties := [⟨"lidOpen".toList, 3, 2⟩]

def teapotOptions : Options := ⟨.extended, some "/opt/demo".toList⟩

def teapotOutline : ClassOutline where
  simpleName := "Teapot".toList
  profile := .extended
  name := "demo.Teapot".toList
  classpath := some "/opt/demo".toList
  stubs :=
    [⟨"pour".toList, ["self", "arg0", "arg1"].map String.toList,
      "method: pour(I, java/lang/String)I".toList⟩]
  properties :=
    [⟨⟨"lid_open".toList, ["self".toList], "method: getLidOpen()Z".toList⟩,
      "lid_open".toList,
      ⟨"lid_open".toList, ["self", "value"].map String.toList,
        "method: setLidOpen(Z)V".toList⟩⟩]

theorem teapot_readOutline? :
    Listing.parse (fun _ => false) "demo.Teapot".toList teapotListing =
        .ok teapot ∧
      '\n' ∉ "demo.Teapot".toList ∧
      (∀ path ∈ teapotOptions.classpath, '\n' ∉ path) ∧
      ∃ stub, classStub? teapotOptions teapot = some stub ∧
        readOutline? stub = some teapotOutline := by
  have hparse : Listing.parse (fun _ => false) "demo.Teapot".toList
      teapotListing = .ok teapot := by
    decide +kernel
  have hname : '\n' ∉ "demo.Teapot".toList := by decide
  have hpath : ∀ path ∈ teapotOptions.classpath, '\n' ∉ path := by
    rintro path ⟨⟩
    decide
  obtain ⟨accessors, stub, haccessors, hstub, hreadable, _⟩ :=
    readOutline?_classStub_of_parse hparse hname hpath
  have houtline : classOutline teapotOptions teapot accessors =
      teapotOutline := by
    have hall : teapot.allAccessors? = some [⟨"lidOpen".toList,
        ⟨"getLidOpen".toList, false, false, true,
          ⟨"()Z".toList, [], some ⟨['Z'], false⟩⟩⟩,
        ⟨"setLidOpen".toList, false, false, true,
          ⟨"(Z)V".toList, [⟨['Z'], false⟩], none⟩⟩⟩] := rfl
    rw [← Option.some.inj (hall.symm.trans haccessors)]
    decide +kernel
  exact ⟨hparse, hname, hpath, stub, hstub, houtline ▸ hreadable.outline⟩

end Stubgen.Python
