import Stubgen.Proofs.Python.Stubs

/-!
# The names of the written functions

Java reserves other words than Python.  The names of methods reach the stub in
snake case, and the words that Python alone reserves are escaped.  The names of
properties are cut out of the names of methods, so they range over more: a
property may be named by any word of Python, and its name may start with a
digit.  A stub is legal exactly if no property has such a name.
-/

namespace Stubgen
namespace Python

/-- The characters of an identifier in ASCII. -/
def isNameChar (c : Char) : Bool := c.isAlphanum || c == '_'

/-- The form that identifiers in ASCII have in Java and in Python. -/
@[mk_iff]
structure IsIdentifier (name : Text) : Prop where
  ne_nil : name ≠ []
  start : ∀ c ∈ name.head?, c.isDigit = false
  characters : ∀ c ∈ name, isNameChar c = true

-- The search for an instance would decide "for all characters" over the whole
-- type of characters.
instance : DecidablePred IsIdentifier := fun name =>
  decidable_of_iff
    (name ≠ [] ∧ Text.Stops Char.isDigit name ∧ name.all isNameChar = true)
    (by rw [isIdentifier_iff, List.all_eq_true, Text.Stops])

/-- The reserved words of Python. -/
def reserved : List Text :=
  ["False", "None", "True", "and", "as", "assert", "async", "await", "break",
    "class", "continue", "def", "del", "elif", "else", "except", "finally",
    "for", "from", "global", "if", "import", "in", "is", "lambda", "nonlocal",
    "not", "or", "pass", "raise", "return", "try", "while", "with",
    "yield"].map String.toList

/-- The reserved words of Java. -/
def javaReserved : List Text :=
  ["_", "abstract", "assert", "boolean", "break", "byte", "case", "catch",
    "char", "class", "const", "continue", "default", "do", "double", "else",
    "enum", "extends", "false", "final", "finally", "float", "for", "goto",
    "if", "implements", "import", "instanceof", "int", "interface", "long",
    "native", "new", "null", "package", "private", "protected", "public",
    "return", "short", "static", "strictfp", "super", "switch",
    "synchronized", "this", "throw", "throws", "transient", "true", "try",
    "void", "volatile", "while"].map String.toList

/-- The name may stand behind `def`. -/
@[mk_iff]
structure IsLegalName (name : Text) : Prop where
  identifier : IsIdentifier name
  notReserved : name ∉ reserved

instance : DecidablePred IsLegalName := fun name =>
  decidable_of_iff (IsIdentifier name ∧ reserved.contains name = false)
    (by simp [isLegalName_iff])

/-- The methods have names that Java allows, and the constructors are named after
the class. -/
structure HasJavaNames (c : Class) : Prop where
  constructors : ∀ m ∈ c.methods, m.isConstructor = true →
    m.name = c.name ∨ m.name = c.simpleName
  methods : ∀ m ∈ c.methods, m.isConstructor = false →
    IsIdentifier m.name ∧ m.name ∉ javaReserved

/-- The name does not start with a digit, and it is escaped if Python reserves
it. -/
@[mk_iff]
structure IsExpressible (name : Text) : Prop where
  start : ∀ c ∈ name.head?, c.isDigit = false
  escaped : name ∈ reserved → name ∈ keywords

instance : DecidablePred IsExpressible := fun name =>
  decidable_of_iff
    (Text.Stops Char.isDigit name ∧
      (reserved.contains name = true → keywords.contains name = true))
    (by simp [isExpressible_iff, Text.Stops])

/-- The name of the function that a line defines or adds a setter to. -/
def functionName? : Step → Option Text
  | .line text =>
    match Text.afterLabel? "def ".toList text with
    | some rest => some (rest.takeWhile (· ≠ '('))
    | none =>
      (Text.afterLabel? ['@'] text).bind fun rest =>
        (Text.afterLabel? ".setter".toList.reverse rest.reverse).map
          List.reverse
  | _ => none

def functionNames (steps : List Step) : List Text :=
  steps.filterMap functionName?

/-! ## Characters -/

/-- What holds of the code points of ASCII holds of the characters of names. -/
theorem forall_isNameChar {p : Char → Prop}
    (hall : ∀ n < 128, isNameChar (Char.ofNat n) = true → p (Char.ofNat n))
    {c : Char} (hc : isNameChar c = true) : p c := by
  have hlt : c.toNat < 128 := by
    change (c.isUpper || c.isLower || c.isDigit || c == '_') = true at hc
    simp only [Bool.or_eq_true, beq_iff_eq] at hc
    rcases hc with ((hupper | hlower) | hdigit) | rfl
    · have hle : c.val ≤ 'Z'.val := (of_decide_eq_true hupper).2
      exact Nat.lt_of_le_of_lt hle (by decide)
    · have hle : c.val ≤ 'z'.val :=
        of_decide_eq_true (Bool.and_eq_true_iff.mp hlower).2
      exact Nat.lt_of_le_of_lt hle (by decide)
    · have hle : c.val ≤ '9'.val :=
        of_decide_eq_true (Bool.and_eq_true_iff.mp hdigit).2
      exact Nat.lt_of_le_of_lt hle (by decide)
    · decide
  have hchar := hall c.toNat hlt
  rw [Char.ofNat_toNat] at hchar
  exact hchar hc

theorem lower_of_isNameChar {c : Char} (hc : isNameChar c = true) :
    CaseMap.lower c = [c.toLower] := by
  apply forall_isNameChar (p := fun c => CaseMap.lower c = [c.toLower]) _ hc
  decide +kernel

theorem isNameChar_toLower {c : Char} (hc : isNameChar c = true) :
    isNameChar c.toLower = true := by
  apply forall_isNameChar (p := fun c => isNameChar c.toLower = true) _ hc
  decide +kernel

theorem notMem_of_isNameChar {name : Text}
    (hname : ∀ c ∈ name, isNameChar c = true) {c : Char}
    (hc : isNameChar c = false) : c ∉ name := by
  intro hmem
  rw [hname c hmem] at hc
  cases hc

/-! ## Snake case -/

theorem isNameChar_of_mem_snakeCase {name : Text}
    (hname : ∀ c ∈ name, isNameChar c = true) :
    ∀ c ∈ snakeCase name, isNameChar c = true := by
  intro c hc
  obtain ⟨d, hd, hcd⟩ := List.mem_flatMap.mp hc
  unfold snakeChar at hcd
  split at hcd
  next =>
    simp only [List.mem_cons, List.not_mem_nil, or_false] at hcd
    rcases hcd with rfl | rfl
    · rfl
    · exact isNameChar_toLower (hname d hd)
  next =>
    rw [List.mem_singleton.mp hcd]
    exact hname d hd

theorem head?_snakeCase (c : Char) (rest : Text) :
    (snakeCase (c :: rest)).head? = some (if c.isUpper then '_' else c) := by
  unfold snakeCase
  rw [List.flatMap_cons, snakeChar]
  split <;> rfl

theorem isUpper_eq_false_of_isDigit {c : Char} (hc : c.isDigit = true) :
    c.isUpper = false := by
  have hname : isNameChar c = true := by simp [isNameChar, Char.isAlphanum, hc]
  revert hc
  apply forall_isNameChar
    (p := fun c => c.isDigit = true → c.isUpper = false) _ hname
  decide

/-- The first character of a name is a digit in either case. -/
theorem start_snakeCase_iff {name : Text} (hne : name ≠ []) :
    (∀ c ∈ (snakeCase name).head?, c.isDigit = false) ↔
      ∀ c ∈ name.head?, c.isDigit = false := by
  obtain ⟨first, rest, rfl⟩ := List.exists_cons_of_ne_nil hne
  simp only [head?_snakeCase, List.head?_cons, Option.mem_def,
    Option.some.injEq, forall_eq']
  cases hupper : first.isUpper with
  | false => rfl
  | true =>
      have hdigit : first.isDigit = false := by
        by_contra hdigit
        have hnotUpper := isUpper_eq_false_of_isDigit
          (Bool.eq_true_of_not_eq_false hdigit)
        rw [hupper] at hnotUpper
        cases hnotUpper
      simp only [hdigit, if_true, iff_true]
      decide

theorem snakeCase_ne_nil {name : Text} (hne : name ≠ []) :
    snakeCase name ≠ [] := by
  obtain ⟨first, rest, rfl⟩ := List.exists_cons_of_ne_nil hne
  intro hnil
  have hhead := head?_snakeCase first rest
  rw [hnil] at hhead
  cases hhead

/-- A name changes only if it gets an underscore. -/
theorem snakeCase_eq_self {name : Text} (hname : '_' ∉ snakeCase name) :
    snakeCase name = name := by
  induction name with
  | nil => rfl
  | cons c rest ih =>
      unfold snakeCase at hname ih ⊢
      rw [List.flatMap_cons, List.mem_append, not_or] at hname
      rw [List.flatMap_cons, ih hname.2]
      cases hupper : c.isUpper with
      | true => simp [snakeChar, hupper] at hname
      | false => simp [snakeChar, hupper]

/-! ## Identifiers -/

theorem underscore_notMem_of_mem_reserved {name : Text}
    (hname : name ∈ reserved) : '_' ∉ name := by
  have hall : ∀ word ∈ reserved, '_' ∉ word := by decide +kernel
  exact hall name hname

theorem identifier_of_mem {name : Text} (hname : snakeCase name ∈ keywords) :
    identifier name = snakeCase name ++ ['_'] := by
  unfold identifier
  rw [if_pos (by simpa using hname)]

theorem identifier_of_notMem {name : Text}
    (hname : snakeCase name ∉ keywords) :
    identifier name = snakeCase name := by
  unfold identifier
  rw [if_neg (by simpa using hname)]

theorem isIdentifier_identifier_iff {name : Text} (hne : name ≠ [])
    (hname : ∀ c ∈ name, isNameChar c = true) :
    IsIdentifier (identifier name) ↔ ∀ c ∈ name.head?, c.isDigit = false := by
  have hsnake := isNameChar_of_mem_snakeCase hname
  have hsnakeNe := snakeCase_ne_nil hne
  rw [← start_snakeCase_iff hne]
  by_cases hkeyword : snakeCase name ∈ keywords
  · rw [identifier_of_mem hkeyword]
    have hhead : (snakeCase name ++ ['_']).head? = (snakeCase name).head? :=
      List.head?_append_of_ne_nil _ hsnakeNe
    constructor
    · intro hidentifier
      rw [← hhead]
      exact hidentifier.start
    · intro hstart
      refine ⟨by simp, by rwa [hhead], ?_⟩
      intro c hc
      rcases List.mem_append.mp hc with hmem | hmem
      · exact hsnake c hmem
      · rw [List.mem_singleton.mp hmem]
        rfl
  · rw [identifier_of_notMem hkeyword]
    exact ⟨fun hidentifier => hidentifier.start,
      fun hstart => ⟨hsnakeNe, hstart, hsnake⟩⟩

theorem identifier_notMem_reserved_iff (name : Text) :
    identifier name ∉ reserved ↔ (name ∈ reserved → name ∈ keywords) := by
  by_cases hkeyword : snakeCase name ∈ keywords
  · have hleft : identifier name ∉ reserved := by
      intro hmem
      rw [identifier_of_mem hkeyword] at hmem
      exact underscore_notMem_of_mem_reserved hmem (by simp)
    have hplain : ∀ word ∈ keywords, '_' ∉ word := by decide +kernel
    have hsame := snakeCase_eq_self (hplain _ hkeyword)
    rw [hsame] at hkeyword
    exact iff_of_true hleft fun _ => hkeyword
  · rw [identifier_of_notMem hkeyword]
    constructor
    · intro hleft hmem
      -- The reserved words that are written in another way are escaped ones.
      have hall : ∀ word ∈ reserved, word ∈ keywords ∨ snakeCase word = word := by
        decide +kernel
      rcases hall name hmem with hescaped | hsame
      · exact hescaped
      · rw [hsame] at hleft
        exact absurd hmem hleft
    · intro hescaped hmem
      have hsame := snakeCase_eq_self (underscore_notMem_of_mem_reserved hmem)
      rw [hsame] at hmem hkeyword
      exact hkeyword (hescaped hmem)

theorem isLegalName_identifier_iff {name : Text} (hne : name ≠ [])
    (hname : ∀ c ∈ name, isNameChar c = true) :
    IsLegalName (identifier name) ↔ IsExpressible name := by
  constructor
  · rintro ⟨hidentifier, hleft⟩
    exact ⟨(isIdentifier_identifier_iff hne hname).mp hidentifier,
      (identifier_notMem_reserved_iff name).mp hleft⟩
  · rintro ⟨hstart, hescaped⟩
    exact ⟨(isIdentifier_identifier_iff hne hname).mpr hstart,
      (identifier_notMem_reserved_iff name).mpr hescaped⟩

/-- The words that are not escaped are reserved in Java, too, so no method is
named by one. -/
theorem isExpressible_of_isIdentifier {name : Text} (hname : IsIdentifier name)
    (hfree : name ∉ javaReserved) : IsExpressible name := by
  have hall : ∀ word ∈ reserved, word ∈ keywords ∨ word ∈ javaReserved := by
    decide +kernel
  refine ⟨hname.start, ?_⟩
  intro hmem
  exact (hall name hmem).resolve_right hfree

/-! ## The names of properties -/

theorem simpleName_suffix (c : Class) : c.simpleName <:+ c.name := by
  unfold Class.simpleName
  have htake := List.takeWhile_prefix (l := c.name.reverse) (· ≠ '.')
  have hsuffix := List.reverse_suffix.mpr htake
  rwa [List.reverse_reverse] at hsuffix

/-- A property is named after a stem that stands in the name of its setter and
in that of its getter. -/
theorem exists_stem_of_mem_properties {c : Class} (hc : c.IsBare)
    {p : Property} (hp : p ∈ c.inferProperties.properties) :
    ∃ stem, stem ≠ [] ∧ p.name = propertyName stem ∧
      ∃ setter ∈ c.methods, setter.name = "set".toList ++ stem ∧
        ∃ getter ∈ c.methods, getter.name = "get".toList ++ stem := by
  rw [hc.properties_inferProperties] at hp
  obtain ⟨setter, hsetter, hstem, getter, hgetter, hname⟩ :=
    Class.writes_of_mem hp
  obtain ⟨stem, hstem, hproperty⟩ := Method.isSetter_iff.mp hstem
  obtain ⟨_, hset, hne⟩ := Method.setterStem?_eq_some_iff.mp hstem
  rw [Method.getterName_of_setterStem? hstem] at hname
  exact ⟨stem, hne, hproperty.symm, setter, List.mem_of_getElem? hsetter, hset,
    getter, hgetter, hname⟩

/-- Two constructors cannot be called `set` and `get` and the same, so one of the
two methods of a property has a name of Java. -/
theorem isNameChar_of_mem_stem {c : Class} (hc : HasJavaNames c)
    {setter getter : Method} (hsetter : setter ∈ c.methods)
    (hgetter : getter ∈ c.methods) {stem : Text}
    (hset : setter.name = "set".toList ++ stem)
    (hget : getter.name = "get".toList ++ stem) :
    ∀ ch ∈ stem, isNameChar ch = true := by
  intro ch hch
  cases hsetterKind : setter.isConstructor with
  | false =>
      have hname := (hc.methods setter hsetter hsetterKind).1
      exact hname.characters ch (by simp [hset, hch])
  | true =>
      cases hgetterKind : getter.isConstructor with
      | false =>
          have hname := (hc.methods getter hgetter hgetterKind).1
          exact hname.characters ch (by simp [hget, hch])
      | true =>
          exfalso
          have hlength : setter.name.length = getter.name.length := by
            rw [hset, hget]
            rfl
          have hsuffix := simpleName_suffix c
          have hsame : setter.name = getter.name := by
            rcases hc.constructors setter hsetter hsetterKind with hs | hs <;>
              rcases hc.constructors getter hgetter hgetterKind with hg | hg <;>
                rw [hs, hg] at hlength ⊢
            · exact (hsuffix.eq_of_length hlength.symm).symm
            · exact hsuffix.eq_of_length hlength
          rw [hset, hget] at hsame
          exact absurd (List.append_cancel_right hsame) (by decide)

theorem isNameChar_of_mem_propertyName {stem : Text}
    (hstem : ∀ ch ∈ stem, isNameChar ch = true) :
    ∀ ch ∈ propertyName stem, isNameChar ch = true := by
  cases stem with
  | nil => simp [propertyName]
  | cons first rest =>
      have hfirst := hstem first (by simp)
      rw [propertyName, lower_of_isNameChar hfirst]
      intro ch hch
      rcases List.mem_cons.mp hch with rfl | hrest
      · exact isNameChar_toLower hfirst
      · exact hstem ch (List.mem_cons_of_mem first hrest)

theorem propertyName_ne_nil {stem : Text} (hne : stem ≠ [])
    (hstem : ∀ ch ∈ stem, isNameChar ch = true) : propertyName stem ≠ [] := by
  obtain ⟨first, rest, rfl⟩ := List.exists_cons_of_ne_nil hne
  rw [propertyName, lower_of_isNameChar (hstem first (by simp))]
  simp

/-! ## The functions of a class -/

theorem functionName?_def (name rest : Text) (hname : '(' ∉ name) :
    functionName? (.line ("def ".toList ++ name ++ '(' :: rest)) =
      some name := by
  have hafter : Text.afterLabel? "def ".toList
      ("def ".toList ++ name ++ '(' :: rest) = some (name ++ '(' :: rest) := by
    rw [Text.afterLabel?_eq_some_iff, List.append_assoc]
  have htake : (name ++ '(' :: rest).takeWhile (· ≠ '(') = name :=
    Text.takeWhile_span (Text.decide_ne_of_notMem hname) (by simp)
  simp only [functionName?, hafter, htake]

theorem functionName?_setter (name : Text) :
    functionName? (.line ('@' :: name ++ ".setter".toList)) = some name := by
  have hdef : Text.afterLabel? "def ".toList
      ('@' :: name ++ ".setter".toList) = none := rfl
  have hat : Text.afterLabel? ['@'] ('@' :: name ++ ".setter".toList) =
      some (name ++ ".setter".toList) := rfl
  have hend : Text.afterLabel? ".setter".toList.reverse
      (name ++ ".setter".toList).reverse = some name.reverse := by
    rw [Text.afterLabel?_eq_some_iff, List.reverse_append]
  simp only [functionName?, hdef, hat, hend, Option.bind_some, Option.map_some,
    List.reverse_reverse]

theorem functionName?_of_ne_line {s : Step} (hs : ∀ text, s ≠ .line text) :
    functionName? s = none := by
  cases s with
  | line text => exact absurd rfl (hs text)
  | _ => rfl

theorem functionNames_functionSteps {head name body : Text}
    (hhead : functionName? (.line head) = some name)
    (hbody : functionName? (.line body) = none) (doc : Text) :
    functionNames (functionSteps head doc body) = [name] := by
  simp [functionNames, functionSteps, hhead, hbody, functionName?_of_ne_line]

theorem functionNames_methodSteps (m : Method)
    (hname : '(' ∉ identifier m.name) :
    functionNames (methodSteps m) = [identifier m.name] := by
  refine functionNames_functionSteps ?_ (by decide) (citation m)
  have hdef := functionName?_def (identifier m.name)
    (Text.joinWith ", ".toList (parameters m.signature.argTypes.length) ++
      "):".toList) hname
  simpa using hdef

/-- A property is written in three lines with its name: two definitions, and the
line that ties the second to the first. -/
theorem functionNames_propertySteps (a : Accessors)
    (hname : '(' ∉ identifier a.name) :
    functionNames (propertySteps a) =
      List.replicate 3 (identifier a.name) := by
  have hmark : functionName? (.line "@property".toList) = none := by decide
  have htie := functionName?_setter (identifier a.name)
  have hnone : functionName? (.line "return None".toList) = none := by decide
  have hpass : functionName? (.line "pass".toList) = none := by decide
  have hget := functionNames_functionSteps
    (functionName?_def (identifier a.name) "self):".toList hname) hnone
    (citation a.getter)
  have hset := functionNames_functionSteps
    (functionName?_def (identifier a.name) "self, value):".toList hname) hpass
    (citation a.setter)
  unfold functionNames at hget hset ⊢
  change List.filterMap functionName?
    (.line "@property".toList :: functionSteps
        ("def ".toList ++ identifier a.name ++ '(' :: "self):".toList)
        (citation a.getter) "return None".toList ++
      .line ('@' :: identifier a.name ++ ".setter".toList) :: functionSteps
        ("def ".toList ++ identifier a.name ++ '(' :: "self, value):".toList)
        (citation a.setter) "pass".toList) = _
  rw [List.filterMap_append, List.filterMap_cons_none hmark,
    List.filterMap_cons_some htie, hget, hset]
  rfl

theorem functionNames_append (first second : List Step) :
    functionNames (first ++ second) =
      functionNames first ++ functionNames second :=
  List.filterMap_append

theorem functionNames_flatMap {α : Type} {l : List α} {f : α → List Step}
    {g : α → List Text} (hfg : ∀ a ∈ l, functionNames (f a) = g a) :
    functionNames (l.flatMap f) = l.flatMap g := by
  unfold functionNames at hfg ⊢
  rw [List.filterMap_flatMap]
  exact List.flatMap_congr hfg

theorem functionNames_headSteps (options : Options) (c : Class) :
    functionNames (headSteps options c) = ["__init__".toList] := by
  have hinit : functionName? (.line "def __init__(self, jobject):".toList) =
      some "__init__".toList := by decide
  have hclass : functionName? (.line ("class ".toList ++ c.simpleName ++
      ['('] ++ baseClass options.profile ++ "):".toList)) = none := rfl
  have hbody : functionName? (.line (constructorBody options c)) = none := by
    unfold constructorBody
    split <;> rfl
  unfold headSteps functionNames
  simp only [List.filterMap_cons, List.filterMap_nil, hinit, hclass, hbody]
  simp [functionName?_of_ne_line]

theorem map_name_of_allAccessors? {c : Class} {accessors : List Accessors}
    (haccessors : c.allAccessors? = some accessors) :
    accessors.map (·.name) = c.properties.map (·.name) := by
  unfold Class.allAccessors? at haccessors
  generalize c.properties = properties at haccessors
  induction properties generalizing accessors with
  | nil =>
      cases haccessors
      rfl
  | cons p rest ih =>
      rw [List.mapM_cons] at haccessors
      obtain ⟨a, ha, haccessors⟩ := Option.bind_eq_some_iff.mp haccessors
      obtain ⟨others, hothers, hcons⟩ := Option.bind_eq_some_iff.mp haccessors
      cases hcons
      have hname : a.name = p.name := by
        unfold Class.accessors? at ha
        split at ha <;> cases ha
        rfl
      rw [List.map_cons, List.map_cons, hname, ih hothers]

/-- The functions of a class: the constructor, the methods that have a stub of
their own, and every property three times. -/
theorem functionNames_classSteps (options : Options) {c : Class}
    {accessors : List Accessors} (haccessors : c.allAccessors? = some accessors)
    (hmethods : ∀ m ∈ c.methods, hasStub m = true → '(' ∉ identifier m.name)
    (hproperties : ∀ p ∈ c.properties, '(' ∉ identifier p.name) :
    functionNames (classSteps options c accessors) =
      "__init__".toList ::
        ((c.methods.filter hasStub).map fun m => identifier m.name) ++
        c.properties.flatMap fun p => List.replicate 3 (identifier p.name) := by
  have hplain : functionNames ((c.methods.filter hasStub).flatMap methodSteps) =
      (c.methods.filter hasStub).flatMap fun m => [identifier m.name] := by
    apply functionNames_flatMap
    intro m hm
    obtain ⟨hmem, hstub⟩ := List.mem_filter.mp hm
    exact functionNames_methodSteps m (hmethods m hmem hstub)
  have hnames := map_name_of_allAccessors? haccessors
  have hpairs : functionNames (accessors.flatMap propertySteps) =
      accessors.flatMap fun a => List.replicate 3 (identifier a.name) := by
    apply functionNames_flatMap
    intro a ha
    have hmem : a.name ∈ c.properties.map (·.name) := by
      rw [← hnames]
      exact List.mem_map_of_mem ha
    obtain ⟨p, hp, hname⟩ := List.mem_map.mp hmem
    apply functionNames_propertySteps
    rw [← hname]
    exact hproperties p hp
  have hflat : (accessors.flatMap fun a =>
      List.replicate 3 (identifier a.name)) =
        c.properties.flatMap fun p => List.replicate 3 (identifier p.name) := by
    have hmap := congrArg
      (List.flatMap fun name => List.replicate 3 (identifier name)) hnames
    rwa [List.flatMap_map, List.flatMap_map] at hmap
  have hlast : functionNames [.dedent] = [] := rfl
  rw [classSteps_eq_append, functionNames_append, functionNames_append,
    functionNames_append, functionNames_headSteps, hplain, hpairs, hflat, hlast,
    List.append_nil, List.map_eq_flatMap]
  rfl

/-! ## Legal stubs -/

theorem HasJavaNames.of_inferProperties {c : Class} (hc : c.IsBare)
    (hnames : HasJavaNames c.inferProperties) : HasJavaNames c := by
  have hmethod : ∀ m ∈ c.methods, ∃ m' ∈ c.inferProperties.methods,
      m'.unmarked = m := by
    intro m hm
    rw [← hc.map_unmarked_inferProperties] at hm
    exact List.mem_map.mp hm
  have hsimple : c.inferProperties.simpleName = c.simpleName := by
    unfold Class.simpleName
    rw [Class.name_inferProperties]
  constructor
  · intro m hm hkind
    obtain ⟨m', hm', rfl⟩ := hmethod m hm
    have hname := hnames.constructors m' hm' hkind
    rwa [Class.name_inferProperties, hsimple] at hname
  · intro m hm hkind
    obtain ⟨m', hm', rfl⟩ := hmethod m hm
    exact hnames.methods m' hm' hkind

/-- The names of the properties of a class whose methods have names of Java are
made of the characters of such names. -/
theorem isNameChar_of_mem_properties {c : Class} (hc : c.IsBare)
    (hnames : HasJavaNames c.inferProperties) {p : Property}
    (hp : p ∈ c.inferProperties.properties) :
    p.name ≠ [] ∧ ∀ ch ∈ p.name, isNameChar ch = true := by
  obtain ⟨stem, hne, hname, setter, hsetter, hset, getter, hgetter, hget⟩ :=
    exists_stem_of_mem_properties hc hp
  have hstem := isNameChar_of_mem_stem
    (HasJavaNames.of_inferProperties hc hnames) hsetter hgetter hset hget
  rw [hname]
  exact ⟨propertyName_ne_nil hne hstem, isNameChar_of_mem_propertyName hstem⟩

theorem isLegalName_of_hasStub {c : Class} (hnames : HasJavaNames c)
    {m : Method} (hm : m ∈ c.methods) (hstub : hasStub m = true) :
    IsLegalName (identifier m.name) := by
  have hkind : m.isConstructor = false := by
    cases hconstructor : m.isConstructor with
    | false => rfl
    | true => simp [hasStub, hconstructor] at hstub
  obtain ⟨hidentifier, hfree⟩ := hnames.methods m hm hkind
  exact (isLegalName_identifier_iff hidentifier.ne_nil
    hidentifier.characters).mpr (isExpressible_of_isIdentifier hidentifier hfree)

theorem IsIdentifier.bracket_notMem {name : Text} (hname : IsIdentifier name) :
    '(' ∉ name :=
  notMem_of_isNameChar hname.characters rfl

theorem bracket_notMem_identifier {name : Text}
    (hname : ∀ c ∈ name, isNameChar c = true) : '(' ∉ identifier name := by
  have hsnake : '(' ∉ snakeCase name :=
    notMem_of_isNameChar (isNameChar_of_mem_snakeCase hname) rfl
  unfold identifier
  split <;> simp [hsnake]

/-- The stub of a class whose methods have names of Java is a Python class with
legal function names if and only if all its properties can be expressed. -/
theorem isLegalName_functionNames_iff {skips : Text → Bool}
    {classname text : Text} {c : Class}
    (hparse : Listing.parse skips classname text = .ok c)
    (hnames : HasJavaNames c) (options : Options) :
    ∃ accessors, c.allAccessors? = some accessors ∧
      classStub? options c = some (textFrom 0 (classSteps options c accessors)) ∧
      functionNames (classSteps options c accessors) =
        "__init__".toList ::
          ((c.methods.filter hasStub).map fun m => identifier m.name) ++
          (c.properties.flatMap fun p =>
            List.replicate 3 (identifier p.name)) ∧
      (∀ m ∈ c.methods, hasStub m = true → IsLegalName (identifier m.name)) ∧
      ((∀ name ∈ functionNames (classSteps options c accessors),
        IsLegalName name) ↔ ∀ p ∈ c.properties, IsExpressible p.name) := by
  obtain ⟨b, _, hbare, rfl⟩ := Listing.exists_isBare_of_parse hparse
  obtain ⟨accessors, haccessors⟩ :=
    exists_allAccessors? hbare.isCoherent_inferProperties
  have hplain : ∀ m ∈ b.inferProperties.methods, hasStub m = true →
      IsLegalName (identifier m.name) := by
    intro m hm hstub
    exact isLegalName_of_hasStub hnames hm hstub
  have hproperty : ∀ p ∈ b.inferProperties.properties,
      p.name ≠ [] ∧ ∀ ch ∈ p.name, isNameChar ch = true := by
    intro p hp
    exact isNameChar_of_mem_properties hbare hnames hp
  have hfunctions := functionNames_classSteps options haccessors
    (fun m hm hstub => (hplain m hm hstub).identifier.bracket_notMem)
    (fun p hp => bracket_notMem_identifier (hproperty p hp).2)
  refine ⟨accessors, haccessors, ?_, hfunctions, hplain, ?_⟩
  · rw [classStub?, haccessors]
    rfl
  · rw [hfunctions]
    constructor
    · intro hlegal p hp
      have hmem : identifier p.name ∈ b.inferProperties.properties.flatMap
          fun p => List.replicate 3 (identifier p.name) :=
        List.mem_flatMap.mpr ⟨p, hp, by simp⟩
      exact (isLegalName_identifier_iff (hproperty p hp).1
        (hproperty p hp).2).mp (hlegal _ (List.mem_append_right _ hmem))
    · intro hexpressible name hname
      rcases List.mem_append.mp hname with hhead | htail
      · rcases List.mem_cons.mp hhead with rfl | hmethod
        · decide +kernel
        · obtain ⟨m, hm, rfl⟩ := List.mem_map.mp hmethod
          obtain ⟨hmem, hstub⟩ := List.mem_filter.mp hm
          exact hplain m hmem hstub
      · obtain ⟨p, hp, hreplicate⟩ := List.mem_flatMap.mp htail
        rw [List.eq_of_mem_replicate hreplicate]
        exact (isLegalName_identifier_iff (hproperty p hp).1
          (hproperty p hp).2).mpr (hexpressible p hp)

/-- A method and a property that are named by words of Python. -/
def feedListing : Text :=
  Text.joinWith ['\n'] <| [
    "public class demo.Feed \x7b",
    "  public demo.Feed();", "    descriptor: ()V",
    "  public void from(int);", "    descriptor: (I)V",
    "  public void setIn(int);", "    descriptor: (I)V",
    "  public int getIn();", "    descriptor: ()I",
    "\x7d"].map String.toList

def feed : Class where
  name := "demo.Feed".toList
  methods :=
    [⟨"demo.Feed".toList, true, false, false, ⟨"()V".toList, [], none⟩⟩,
      ⟨"from".toList, false, false, false,
        ⟨"(I)V".toList, [⟨['I'], false⟩], none⟩⟩,
      ⟨"setIn".toList, false, false, true,
        ⟨"(I)V".toList, [⟨['I'], false⟩], none⟩⟩,
      ⟨"getIn".toList, false, false, true,
        ⟨"()I".toList, [], some ⟨['I'], false⟩⟩⟩]
  properties := [⟨"in".toList, 3, 2⟩]

theorem feed_functionNames :
    Listing.parse (fun _ => false) "demo.Feed".toList feedListing = .ok feed ∧
      HasJavaNames feed ∧
      ∃ accessors, feed.allAccessors? = some accessors ∧
        functionNames (classSteps {} feed accessors) =
          ["__init__", "from_", "in_", "in_", "in_"].map String.toList ∧
        ∀ name ∈ functionNames (classSteps {} feed accessors),
          IsLegalName name := by
  have hparse : Listing.parse (fun _ => false) "demo.Feed".toList
      feedListing = .ok feed := by
    decide +kernel
  have hnames : HasJavaNames feed := ⟨by decide, by decide +kernel⟩
  obtain ⟨accessors, haccessors, _, hfunctions, _, hlegal⟩ :=
    isLegalName_functionNames_iff hparse hnames {}
  have hexpressible : ∀ p ∈ feed.properties, IsExpressible p.name := by
    intro p hp
    rw [List.mem_singleton.mp hp]
    decide +kernel
  exact ⟨hparse, hnames, accessors, haccessors, hfunctions,
    hlegal.mpr hexpressible⟩

/-- A property that is named by a word which Java reserves, too. -/
def parcelListing : Text :=
  ("public class demo.Parcel \x7b\n" ++
    "  public void setImport(int);\n    descriptor: (I)V\n" ++
    "  public int getImport();\n    descriptor: ()I\n\x7d\n").toList

def parcel : Class where
  name := "demo.Parcel".toList
  methods :=
    [⟨"setImport".toList, false, false, true,
        ⟨"(I)V".toList, [⟨['I'], false⟩], none⟩⟩,
      ⟨"getImport".toList, false, false, true,
        ⟨"()I".toList, [], some ⟨['I'], false⟩⟩⟩]
  properties := [⟨"import".toList, 1, 0⟩]

/-- A class with names of Java and a function that Python does not allow. -/
theorem parcel_functionNames_not_legal :
    Listing.parse (fun _ => false) "demo.Parcel".toList parcelListing =
        .ok parcel ∧
      HasJavaNames parcel ∧
      ∃ accessors, parcel.allAccessors? = some accessors ∧
        "import".toList ∈ functionNames (classSteps {} parcel accessors) ∧
        ¬ IsLegalName "import".toList := by
  have hparse : Listing.parse (fun _ => false) "demo.Parcel".toList
      parcelListing = .ok parcel := by
    decide +kernel
  have hnames : HasJavaNames parcel := ⟨by decide, by decide +kernel⟩
  refine ⟨hparse, hnames, _, rfl, ?_, ?_⟩ <;> decide +kernel

end Python
end Stubgen
