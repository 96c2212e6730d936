import Stubgen.Proofs.Listing.Characters
import Stubgen.Proofs.Python.Outline
import Stubgen.Proofs.Python.Stubs

/-!
# Reading a class back

The text of a class is a header with closed blocks below it.  A reader that knows
the layout, but not the class, gets out of the text which class it is, which
stubs it has and what they cite.  Names, descriptors and class paths are text
from outside; none of them reaches beyond its line or hides the end of the part
of the line that it stands in.
-/

namespace Stubgen.Python

/-! ## What is read -/

/-- A function of a class, by its name, its parameters and the line of its
docstring. -/
structure FunctionOutline where
  name : Text
  parameters : List Text
  doc : Text
  deriving DecidableEq

/-- The two functions of a property, and the name in the line between them. -/
structure PropertyOutline where
  getter : FunctionOutline
  tiedTo : Text
  setter : FunctionOutline
  deriving DecidableEq

structure ClassOutline where
  simpleName : Text
  profile : Profile
  name : Text
  classpath : Option Text
  stubs : List FunctionOutline
  properties : List PropertyOutline
  deriving DecidableEq

def methodOutline (m : Method) : FunctionOutline :=
  ⟨identifier m.name, parameters m.signature.argTypes.length, citation m⟩

def propertyOutline (a : Accessors) : PropertyOutline where
  getter := ⟨identifier a.name, ["self".toList], citation a.getter⟩
  tiedTo := identifier a.name
  setter := ⟨identifier a.name, ["self".toList, "value".toList], citation a.setter⟩

/-- The class path that a class cites. -/
def citedClasspath (options : Options) : Option Text :=
  match options.profile with
  | .plain => none
  | .extended => options.classpath

/-- What the text of a class is to say. -/
def classOutline (options : Options) (c : Class) (accessors : List Accessors) :
    ClassOutline where
  simpleName := c.simpleName
  profile := options.profile
  name := c.name
  classpath := citedClasspath options
  stubs := (c.methods.filter hasStub).map methodOutline
  properties := accessors.map propertyOutline

/-! ## The reader -/

/-- What stands before `label`, if the text ends with it. -/
def beforeLabel? (label t : Text) : Option Text :=
  (Text.afterLabel? label.reverse t.reverse).map List.reverse

/-- The parts of a text between commas that are followed by a blank. -/
def splitParameters : Text → List Text
  | [] => [[]]
  | ',' :: ' ' :: rest => [] :: splitParameters rest
  | c :: rest =>
    match splitParameters rest with
    | [] => [[c]]
    | first :: others => (c :: first) :: others

/-- The one line of a docstring at the start of a body. -/
def readDoc? : List Text → Option Text
  | opening :: doc :: closing :: _ =>
    if opening = quotes ∧ closing = quotes then some doc else none
  | _ => none

def readFunction? (b : Block) : Option FunctionOutline := do
  let rest ← Text.afterLabel? "def ".toList b.head
  let inside ← beforeLabel? "):".toList ((rest.dropWhile (· ≠ '(')).drop 1)
  let doc ← readDoc? b.body
  return ⟨rest.takeWhile (· ≠ '('), splitParameters inside, doc⟩

/-- A property takes four blocks, two of them without a body. -/
def readProperties? : List Block → Option (List PropertyOutline)
  | [] => some []
  | mark :: getter :: tie :: setter :: rest => do
    if mark.head ≠ "@property".toList then none
    else
      let getter ← readFunction? getter
      let tiedTo ← (Text.afterLabel? ['@'] tie.head).bind
        (beforeLabel? ".setter".toList)
      let setter ← readFunction? setter
      return ⟨getter, tiedTo, setter⟩ :: (← readProperties? rest)
  | _ => none

/-- The stubs of methods come first. -/
def readMembers? : List Block →
    Option (List FunctionOutline × List PropertyOutline)
  | [] => some ([], [])
  | b :: rest =>
    match readFunction? b with
    | some f => (readMembers? rest).map fun (fs, ps) => (f :: fs, ps)
    | none => (readProperties? (b :: rest)).map fun ps => ([], ps)

/-- The name and the profile in the header of a class. -/
def readHeader? (t : Text) : Option (Text × Profile) := do
  let rest ← Text.afterLabel? "class ".toList t
  match beforeLabel? "(Object):".toList rest with
  | some name => return (name, .plain)
  | none => return (← beforeLabel? "(JavaObject):".toList rest, .extended)

/-- The names in the docstring of a class, and the blocks behind them. -/
def readCitations? : List Block → Option (Text × Option Text × List Block)
  | _ :: name :: rest => do
    let name ← Text.afterLabel? "classname: ".toList name.head
    match rest with
    | next :: others =>
      match Text.afterLabel? "classpath: ".toList next.head with
      | some classpath => return (name, some classpath, others)
      | none => return (name, none, rest)
    | [] => return (name, none, [])
  | _ => none

/-- Reads the lines of a class.  Behind the names stand the closing quotes, the
separator and the constructor. -/
def readClass? : List Line → Option ClassOutline
  | [] => none
  | header :: rest => do
    let (simpleName, profile) ← readHeader? header.text
    let (name, classpath, blocks) ← readCitations? (grouped 1 rest).2
    let (stubs, properties) ← readMembers? (blocks.drop 3)
    return ⟨simpleName, profile, name, classpath, stubs, properties⟩

def readOutline? (t : Text) : Option ClassOutline := (readLines? t).bind readClass?

/-! ## The blocks of a class -/

def functionBlock (head doc body : Text) : Block :=
  ⟨head, [quotes, doc, quotes, body, []]⟩

def methodBlock (m : Method) : Block :=
  functionBlock
    ("def ".toList ++ identifier m.name ++ ['('] ++
      Text.joinWith ", ".toList (parameters m.signature.argTypes.length) ++
        "):".toList)
    (citation m) "pass".toList

def propertyBlocks (a : Accessors) : List Block :=
  [⟨"@property".toList, []⟩,
    functionBlock ("def ".toList ++ identifier a.name ++ "(self):".toList)
      (citation a.getter) "return None".toList,
    ⟨'@' :: identifier a.name ++ ".setter".toList, []⟩,
    functionBlock ("def ".toList ++ identifier a.name ++ "(self, value):".toList)
      (citation a.setter) "pass".toList]

def headerText (options : Options) (c : Class) : Text :=
  "class ".toList ++ c.simpleName ++ ['('] ++ baseClass options.profile ++
    "):".toList

/-- The blocks below the opening quotes of the docstring of a class. -/
def innerBlocks (options : Options) (c : Class) (accessors : List Accessors) :
    List Block :=
  (classCitations options c).map (⟨·, []⟩) ++
    [⟨quotes, []⟩, ⟨[], []⟩,
      ⟨"def __init__(self, jobject):".toList, [constructorBody options c, []]⟩] ++
    (c.methods.filter hasStub).map methodBlock ++
    accessors.flatMap propertyBlocks

/-- A class is written as its header and blocks one level below it. -/
theorem linesFrom_classSteps (options : Options) (c : Class)
    (accessors : List Accessors) :
    linesFrom 0 (classSteps options c accessors) =
      ⟨0, headerText options c⟩ ::
        (⟨quotes, []⟩ :: innerBlocks options c accessors).flatMap
          (Block.lines 1) := by
  have hdoc : ∀ ts : List Text, ts.map (Line.mk 1) =
      (ts.map fun t => (⟨t, []⟩ : Block)).flatMap (Block.lines 1) := by
    intro ts
    rw [List.flatMap_map, List.map_eq_flatMap]
    rfl
  have hmethods : linesFrom 1 ((c.methods.filter hasStub).flatMap methodSteps) =
      ((c.methods.filter hasStub).map methodBlock).flatMap (Block.lines 1) := by
    rw [linesFrom_flatMap (f := methodSteps)
      fun m _ => isBlock_functionSteps _ _ _, List.flatMap_map]
    rfl
  have hproperties : linesFrom 1 (accessors.flatMap propertySteps) =
      (accessors.flatMap propertyBlocks).flatMap (Block.lines 1) := by
    rw [linesFrom_flatMap fun a _ => isBlock_propertySteps a, List.flatMap_assoc]
    rfl
  have hhead : linesFrom 0 (headSteps options c) =
      ⟨0, headerText options c⟩ :: ⟨1, quotes⟩ ::
        ((classCitations options c).map (Line.mk 1) ++ [⟨1, quotes⟩]) ++
        [⟨1, []⟩, ⟨1, "def __init__(self, jobject):".toList⟩,
          ⟨2, constructorBody options c⟩, ⟨2, []⟩] := rfl
  have hlevel : levelFrom 0 (headSteps options c ++
      (c.methods.filter hasStub).flatMap methodSteps) = 1 := by
    rw [levelFrom_append, levelFrom_headSteps, isBlock_flatMap_methodSteps]
  rw [classSteps_eq_append, linesFrom_append, linesFrom_append, hlevel,
    hproperties, linesFrom_append, hhead]
  change _ ++ linesFrom 1 _ ++ _ ++ [] = _
  rw [hmethods, hdoc]
  simp only [innerBlocks, List.flatMap_append, List.flatMap_cons,
    List.flatMap_nil, List.cons_append, List.append_assoc, List.append_nil]
  rfl

theorem levelFrom_classSteps (options : Options) (c : Class)
    (accessors : List Accessors) :
    levelFrom 0 (classSteps options c accessors) = 0 := by
  rw [classSteps_eq_append, levelFrom_append, levelFrom_append,
    levelFrom_append, levelFrom_headSteps, isBlock_flatMap_methodSteps,
    isBlock_flatMap_propertySteps]
  rfl

/-! ## Characters of the lines -/

/-- Only an underscore and small letters come into an identifier. -/
theorem mem_of_mem_identifier {name : Text} {c : Char}
    (hc : c ∈ identifier name) (hcode : c.toNat < '_'.toNat) : c ∈ name := by
  have hsnake : c ∈ snakeCase name := by
    unfold identifier at hc
    split at hc
    · rcases List.mem_append.mp hc with hmem | hmem
      · exact hmem
      · rw [List.mem_singleton.mp hmem] at hcode
        exact absurd hcode (lt_irrefl _)
    · exact hc
  obtain ⟨d, hd, hcd⟩ := List.mem_flatMap.mp hsnake
  unfold snakeChar at hcd
  split at hcd
  next hupper =>
    rcases List.mem_cons.mp hcd with rfl | hlower
    · exact absurd hcode (lt_irrefl _)
    · rw [List.mem_singleton.mp hlower] at hcode
      have hall : ∀ n < 128, (Char.ofNat n).isUpper = true →
          '_'.toNat ≤ (Char.ofNat n).toLower.toNat := by decide
      have hle : d.toNat ≤ 'Z'.toNat := (of_decide_eq_true hupper).2
      have hletter := hall d.toNat (Nat.lt_of_le_of_lt hle (by decide))
      rw [Char.ofNat_toNat] at hletter
      exact absurd hcode (Nat.not_lt.mpr (hletter hupper))
  next =>
    rw [List.mem_singleton.mp hcd]
    exact hd

theorem notMem_parameters {count : ℕ} {p : Text} (hp : p ∈ parameters count)
    {c : Char} (hletter : c ∉ "selfarg".toList) (hdigit : c.isDigit = false) :
    c ∉ p := by
  intro hc
  rcases List.mem_cons.mp hp with rfl | hnumbered
  · exact hletter (List.mem_append_left "arg".toList hc)
  · obtain ⟨i, _, rfl⟩ := List.mem_map.mp hnumbered
    rcases List.mem_append.mp hc with hlabel | hnumber
    · exact hletter (List.mem_append_right "self".toList hlabel)
    · rw [Text.ofNat, Nat.toList_repr] at hnumber
      rw [Nat.isDigit_of_mem_toDigits (by decide) le_rfl hnumber] at hdigit
      cases hdigit

theorem splitParameters_append {p : Text} (hp : ',' ∉ p) {rest first : Text}
    {others : List Text} (hrest : splitParameters rest = first :: others) :
    splitParameters (p ++ rest) = (p ++ first) :: others := by
  induction p with
  | nil => exact hrest
  | cons c p ih =>
      have hc : c ≠ ',' := by
        rintro rfl
        exact hp (by simp)
      rw [List.cons_append, splitParameters,
        ih fun hmem => hp (List.mem_cons_of_mem c hmem)]
      · rfl
      · intro _ hcomma
        exact absurd hcomma hc

theorem splitParameters_joinWith {ps : List Text} (hne : ps ≠ [])
    (hps : ∀ p ∈ ps, ',' ∉ p) :
    splitParameters (Text.joinWith ", ".toList ps) = ps := by
  induction ps using Text.joinWith.induct with
  | case1 => exact absurd rfl hne
  | case2 p =>
      have hempty : splitParameters [] = [] :: [] := rfl
      have hsplit := splitParameters_append (hps p (by simp)) hempty
      rwa [List.append_nil] at hsplit
  | case3 p q rest ih =>
      have hrest := ih (by simp) fun r hr => hps r (List.mem_cons_of_mem p hr)
      have hbreak : splitParameters (", ".toList ++
          Text.joinWith ", ".toList (q :: rest)) = [] :: q :: rest :=
        congrArg ([] :: ·) hrest
      rw [Text.joinWith, List.append_assoc,
        splitParameters_append (hps p (by simp)) hbreak, List.append_nil]

theorem beforeLabel?_append (t label : Text) :
    beforeLabel? label (t ++ label) = some t := by
  have hafter : Text.afterLabel? label.reverse (t ++ label).reverse =
      some t.reverse := by
    rw [Text.afterLabel?_eq_some_iff, List.reverse_append]
  rw [beforeLabel?, hafter, Option.map_some, List.reverse_reverse]

/-- A function is read back from its head, whatever stands in its body. -/
theorem readFunction?_functionBlock {name : Text} (hname : '(' ∉ name)
    {ps : List Text} (hne : ps ≠ []) (hps : ∀ p ∈ ps, ',' ∉ p) {list : Text}
    (hlist : list = '(' :: (Text.joinWith ", ".toList ps ++ "):".toList))
    (doc body : Text) :
    readFunction? (functionBlock ("def ".toList ++ name ++ list) doc body) =
      some ⟨name, ps, doc⟩ := by
  have hafter : Text.afterLabel? "def ".toList ("def ".toList ++ name ++ list) =
      some (name ++ list) := by
    rw [Text.afterLabel?_eq_some_iff, List.append_assoc]
  have hstops : Text.Stops (· ≠ '(') list := by simp [hlist]
  have htake := Text.takeWhile_span (Text.decide_ne_of_notMem hname) hstops
  have hdrop := Text.dropWhile_span (Text.decide_ne_of_notMem hname) hstops
  have hinside : beforeLabel? "):".toList (list.drop 1) =
      some (Text.joinWith ", ".toList ps) := by
    rw [hlist]
    exact beforeLabel?_append _ _
  have hdoc : readDoc? [quotes, doc, quotes, body, []] = some doc := rfl
  simp only [readFunction?, functionBlock, hafter, hdoc, htake, hdrop, hinside,
    Option.bind_eq_bind, Option.bind_some, splitParameters_joinWith hne hps]
  rfl

theorem readFunction?_methodBlock {m : Method} (hname : '(' ∉ m.name) :
    readFunction? (methodBlock m) = some (methodOutline m) := by
  unfold methodBlock
  rw [List.append_assoc, List.append_assoc]
  apply readFunction?_functionBlock _ (List.cons_ne_nil _ _) _ rfl
  · exact fun hmem => hname (mem_of_mem_identifier hmem (by decide))
  · intro p hp
    exact notMem_parameters hp (by decide) (by decide)

theorem readProperties?_propertyBlocks_append {a : Accessors}
    (hname : '(' ∉ a.name) {rest : List Block} {others : List PropertyOutline}
    (hrest : readProperties? rest = some others) :
    readProperties? (propertyBlocks a ++ rest) =
      some (propertyOutline a :: others) := by
  have hidentifier : '(' ∉ identifier a.name :=
    fun hmem => hname (mem_of_mem_identifier hmem (by decide))
  have hself : "(self):".toList = '(' ::
      (Text.joinWith ", ".toList ["self".toList] ++ "):".toList) := rfl
  have hvalue : "(self, value):".toList = '(' ::
      (Text.joinWith ", ".toList ["self".toList, "value".toList] ++
        "):".toList) := rfl
  have hgetter := readFunction?_functionBlock hidentifier (by simp) (by decide)
    hself (citation a.getter) "return None".toList
  have hsetter := readFunction?_functionBlock hidentifier (by simp) (by decide)
    hvalue (citation a.setter) "pass".toList
  have htie : (Text.afterLabel? ['@']
      ('@' :: identifier a.name ++ ".setter".toList)).bind
        (beforeLabel? ".setter".toList) = some (identifier a.name) :=
    beforeLabel?_append _ _
  unfold propertyBlocks
  simp only [List.cons_append, List.nil_append] at htie ⊢
  rw [readProperties?, if_neg (by simp), hgetter, htie, hsetter, hrest]
  rfl

theorem readProperties?_flatMap {accessors : List Accessors}
    (hnames : ∀ a ∈ accessors, '(' ∉ a.name) :
    readProperties? (accessors.flatMap propertyBlocks) =
      some (accessors.map propertyOutline) := by
  induction accessors with
  | nil => rfl
  | cons a rest ih =>
      exact readProperties?_propertyBlocks_append (hnames a (by simp))
        (ih fun b hb => hnames b (List.mem_cons_of_mem a hb))

theorem readMembers?_append {methods : List Method} {accessors : List Accessors}
    (hmethods : ∀ m ∈ methods, '(' ∉ m.name)
    (hnames : ∀ a ∈ accessors, '(' ∉ a.name) :
    readMembers? (methods.map methodBlock ++ accessors.flatMap propertyBlocks) =
      some (methods.map methodOutline, accessors.map propertyOutline) := by
  induction methods with
  | nil =>
      have hproperties := readProperties?_flatMap hnames
      cases accessors with
      | nil => rfl
      | cons a rest =>
          have hmark : readFunction? ⟨"@property".toList, []⟩ = none := rfl
          rw [List.map_nil, List.nil_append]
          rw [List.flatMap_cons] at hproperties ⊢
          unfold propertyBlocks at hproperties ⊢
          simp only [List.cons_append] at hproperties ⊢
          rw [readMembers?, hmark, hproperties]
          rfl
  | cons m rest ih =>
      rw [List.map_cons, List.cons_append, readMembers?,
        readFunction?_methodBlock (hmethods m (by simp)),
        ih fun m' hm' => hmethods m' (List.mem_cons_of_mem m hm')]
      rfl

theorem beforeLabel?_object_extended (t : Text) :
    beforeLabel? "(Object):".toList (t ++ "(JavaObject):".toList) = none := by
  rw [beforeLabel?, List.reverse_append]
  rfl

theorem readHeader?_headerText (options : Options) (c : Class) :
    readHeader? (headerText options c) = some (c.simpleName, options.profile) := by
  have hafter : Text.afterLabel? "class ".toList (headerText options c) =
      some (c.simpleName ++ (['('] ++ (baseClass options.profile ++
        "):".toList))) := by
    rw [Text.afterLabel?_eq_some_iff]
    unfold headerText
    rw [List.append_assoc, List.append_assoc, List.append_assoc]
  cases hprofile : options.profile with
  | plain =>
      have hbase : ['('] ++ (baseClass options.profile ++ "):".toList) =
          "(Object):".toList := by
        rw [hprofile]
        rfl
      rw [hbase] at hafter
      simp only [readHeader?, hafter, Option.bind_eq_bind, Option.bind_some,
        beforeLabel?_append]
      rfl
  | extended =>
      have hbase : ['('] ++ (baseClass options.profile ++ "):".toList) =
          "(JavaObject):".toList := by
        rw [hprofile]
        rfl
      rw [hbase] at hafter
      simp only [readHeader?, hafter, Option.bind_eq_bind, Option.bind_some,
        beforeLabel?_object_extended, beforeLabel?_append]
      rfl

/-- The names of a class are read back.  The line behind them holds quotes, so it
is not taken for a class path. -/
theorem readCitations?_innerBlocks (options : Options) (c : Class)
    (accessors : List Accessors) :
    ∃ rest, readCitations? (⟨quotes, []⟩ :: innerBlocks options c accessors) =
        some (c.name, citedClasspath options, rest) ∧
      rest.drop 3 = (c.methods.filter hasStub).map methodBlock ++
        accessors.flatMap propertyBlocks := by
  have hname : Text.afterLabel? "classname: ".toList
      ("classname: ".toList ++ c.name) = some c.name :=
    Text.afterLabel?_eq_some_iff.mpr rfl
  have hquotes : Text.afterLabel? "classpath: ".toList quotes = none := rfl
  have hsplit : innerBlocks options c accessors =
      (classCitations options c).map (⟨·, []⟩) ++ (⟨quotes, []⟩ :: ⟨[], []⟩ ::
        ⟨"def __init__(self, jobject):".toList, [constructorBody options c, []]⟩ ::
        ((c.methods.filter hasStub).map methodBlock ++
          accessors.flatMap propertyBlocks)) := by
    unfold innerBlocks
    rw [List.append_assoc, List.append_assoc]
    rfl
  refine ⟨⟨quotes, []⟩ :: ⟨[], []⟩ ::
    ⟨"def __init__(self, jobject):".toList, [constructorBody options c, []]⟩ ::
      ((c.methods.filter hasStub).map methodBlock ++
        accessors.flatMap propertyBlocks), ?_, rfl⟩
  rw [hsplit]
  obtain ⟨profile, classpath⟩ := options
  cases profile with
  | plain =>
      simp only [classCitations, List.map_cons, List.map_nil, List.cons_append,
        List.nil_append, readCitations?, hname, hquotes]
      rfl
  | extended =>
      cases classpath with
      | none =>
          simp only [classCitations, List.map_cons, List.map_nil,
            List.cons_append, List.nil_append, readCitations?, hname, hquotes]
          rfl
      | some classpath =>
          have hpath : Text.afterLabel? "classpath: ".toList
              ("classpath: ".toList ++ classpath) = some classpath :=
            Text.afterLabel?_eq_some_iff.mpr rfl
          simp only [classCitations, List.map_cons, List.map_nil,
            List.cons_append, List.nil_append, readCitations?, hname, hpath]
          rfl

theorem readClass?_linesFrom {options : Options} {c : Class}
    {accessors : List Accessors} (hmethods : ∀ m ∈ c.methods, '(' ∉ m.name)
    (hnames : ∀ a ∈ accessors, '(' ∉ a.name) :
    readClass? (linesFrom 0 (classSteps options c accessors)) =
      some (classOutline options c accessors) := by
  obtain ⟨rest, hcitations, hrest⟩ :=
    readCitations?_innerBlocks options c accessors
  have hstubs : ∀ m ∈ c.methods.filter hasStub, '(' ∉ m.name :=
    fun m hm => hmethods m (List.mem_of_mem_filter hm)
  have hmembers := readMembers?_append hstubs hnames
  rw [← hrest] at hmembers
  rw [linesFrom_classSteps, readClass?]
  simp only [readHeader?_headerText, grouped_flatMap_lines, hcitations, hmembers,
    Option.bind_eq_bind, Option.bind_some]
  rfl

end Stubgen.Python
