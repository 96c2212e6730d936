import Stubgen.Proofs.Python.Literal
import Stubgen.Proofs.Python.ReadBack

/-!
# Docstrings

The docstrings of a class cite names, descriptors and the class path as they are.
A docstring is read as it was written if and only if each of its lines, with the
line feed that ends it, is a text that stands for itself; what Python sees of a
class can then be told from the texts that are cited.
-/

namespace Stubgen.Python

open Text

/-! ## Docstrings in a text -/

/-- A docstring, with the text on both sides of it. -/
structure Docstring where
  before : Text
  level : ℕ
  lines : List Text
  behind : Text
  deriving DecidableEq

namespace Docstring

/-- What stands between the quotes: the lines, each with its indentation, and the
indentation of the closing quotes. -/
def body (d : Docstring) : Text :=
  '\n' :: d.lines.flatMap (lineAt d.level) ++ indentation d.level

/-- The text from the opening quotes on. -/
def quoted (d : Docstring) : Text :=
  quotes ++ (d.body ++ (quotes ++ d.behind))

/-- The literal at the opening quotes ends at the closing ones, and its value is
the body. -/
def ReadsAsWritten (charNamed? : Text → Option ℕ) (d : Docstring) : Prop :=
  readLiteral? charNamed? d.quoted = some (d.body.map Char.toNat, d.behind)

end Docstring

/-- The docstrings that steps write from a level on, behind a text. -/
def docstringsFrom (before : Text) (level : ℕ) : List Step → List Docstring
  | [] => []
  | .docstring lines :: rest =>
    ⟨before ++ indentation level, level, lines, '\n' :: textFrom level rest⟩ ::
      docstringsFrom (before ++ (Step.docstring lines).text level) level rest
  | s :: rest =>
    docstringsFrom (before ++ s.text level) (s.levelAfter level) rest

/-- The docstrings of a class with given accessors. -/
def docstrings (options : Options) (c : Class) (accessors : List Accessors) :
    List Docstring :=
  docstringsFrom [] 0 (classSteps options c accessors)

theorem text_docstring (level : ℕ) (lines : List Text) :
    (Step.docstring lines).text level =
      indentation level ++ (quotes ++
        (('\n' :: lines.flatMap (lineAt level) ++ indentation level) ++
          (quotes ++ ['\n']))) := by
  simp [Step.text, lineAt]

/-- Each docstring stands in the text that the steps write. -/
theorem append_quoted_of_mem_docstringsFrom {before : Text} {level : ℕ}
    {steps : List Step} {d : Docstring}
    (hd : d ∈ docstringsFrom before level steps) :
    d.before ++ d.quoted = before ++ textFrom level steps := by
  induction before, level, steps using docstringsFrom.induct with
  | case1 => cases hd
  | case2 before level lines rest ih =>
      rcases List.mem_cons.mp hd with rfl | hd
      · rw [textFrom, text_docstring]
        simp [Docstring.quoted, Docstring.body, Step.levelAfter]
      · rw [ih hd, textFrom, List.append_assoc]
        rfl
  | case3 before level s rest hs ih =>
      rw [docstringsFrom] at hd
      · rw [ih hd, textFrom, List.append_assoc]
      · exact hs

theorem mem_map_lines_docstringsFrom {before : Text} {level : ℕ}
    {steps : List Step} {lines : List Text} :
    lines ∈ (docstringsFrom before level steps).map (·.lines) ↔
      Step.docstring lines ∈ steps := by
  induction before, level, steps using docstringsFrom.induct with
  | case1 => simp [docstringsFrom]
  | case2 before level others rest ih =>
      rw [docstringsFrom, List.map_cons, List.mem_cons, ih, List.mem_cons,
        Step.docstring.injEq]
  | case3 before level s rest hs ih =>
      rw [docstringsFrom, ih, List.mem_cons, or_iff_right]
      · exact fun heq => hs lines heq.symm
      · exact hs

/-! ## What a docstring stands for -/

theorem isPlain_indentation (level : ℕ) : IsPlain (indentation level) := by
  intro c hc
  rw [List.eq_of_mem_replicate hc]
  decide

theorem stops_reverse_lineAt (level : ℕ) (line : Text) :
    Stops isDelicate (lineAt level line).reverse := by
  rw [lineAt, List.reverse_append]
  exact stops_cons.mpr (by decide)

theorem stops_reverse_flatMap_lineAt (level : ℕ) (lines : List Text) :
    Stops isDelicate (lines.flatMap (lineAt level)).reverse := by
  induction lines with
  | nil => exact stops_nil _
  | cons line rest ih =>
      exact stops_reverse_append (stops_reverse_lineAt level line) ih

/-- The line feed belongs to the line: a backslash at the end would hide it. -/
theorem isVerbatim_lineAt_iff {level : ℕ} {line : Text} :
    IsVerbatim (lineAt level line) ↔ IsVerbatim (line ++ ['\n']) := by
  rw [lineAt, List.append_assoc,
    isVerbatim_plain_append_iff (isPlain_indentation level)]

theorem isVerbatim_flatMap_lineAt_iff {level : ℕ} {lines : List Text} :
    IsVerbatim (lines.flatMap (lineAt level)) ↔
      ∀ line ∈ lines, IsVerbatim (line ++ ['\n']) := by
  induction lines with
  | nil => simpa using (by decide : IsVerbatim [])
  | cons line rest ih =>
      rw [List.flatMap_cons, List.forall_mem_cons, ← ih,
        isVerbatim_append_iff (stops_reverse_lineAt level line),
        isVerbatim_lineAt_iff]

namespace Docstring

theorem stops_reverse_body (d : Docstring) :
    Stops isDelicate d.body.reverse :=
  stops_reverse_append
    (stops_reverse_append (by decide : Stops isDelicate ['\n'].reverse)
      (stops_reverse_flatMap_lineAt d.level d.lines))
    (isPlain_indentation d.level).stops_reverse

theorem isVerbatim_body_iff (d : Docstring) :
    IsVerbatim d.body ↔ ∀ line ∈ d.lines, IsVerbatim (line ++ ['\n']) := by
  have hlines : Stops isDelicate
      ('\n' :: d.lines.flatMap (lineAt d.level)).reverse :=
    stops_reverse_append (by decide : Stops isDelicate ['\n'].reverse)
      (stops_reverse_flatMap_lineAt d.level d.lines)
  rw [body, isVerbatim_append_iff hlines,
    and_iff_left (isPlain_indentation d.level).isVerbatim,
    ← List.singleton_append, isVerbatim_plain_append_iff (by decide),
    isVerbatim_flatMap_lineAt_iff]

/-- A docstring is read as it was written if and only if each of its lines
stands for itself. -/
theorem readsAsWritten_iff (charNamed? : Text → Option ℕ) (d : Docstring) :
    d.ReadsAsWritten charNamed? ↔
      ∀ line ∈ d.lines, IsVerbatim (line ++ ['\n']) := by
  rw [ReadsAsWritten, quoted, readLiteral?_eq_some_iff d.stops_reverse_body,
    isVerbatim_body_iff]

theorem not_readsAsWritten {charNamed? : Text → Option ℕ} {d : Docstring}
    (hread : readLiteral? charNamed? d.quoted = none) :
    ¬ d.ReadsAsWritten charNamed? := by
  rw [ReadsAsWritten, hread]
  exact nofun

end Docstring

/-! ## The docstrings of a class -/

theorem docstring_mem_functionSteps {head doc body : Text}
    {lines : List Text} :
    Step.docstring lines ∈ functionSteps head doc body ↔ lines = [doc] := by
  simp [functionSteps]

theorem docstring_mem_steps {m : Method} {s : Stub} {lines : List Text} :
    Step.docstring lines ∈ s.steps m ↔ lines = [citation m] := by
  cases s with
  | plain i => exact docstring_mem_functionSteps
  | getter p =>
      rw [Stub.steps, List.mem_cons, docstring_mem_functionSteps]
      simp
  | setter p =>
      rw [Stub.steps, List.mem_cons, docstring_mem_functionSteps]
      simp

theorem docstring_mem_headSteps {options : Options} {c : Class}
    {lines : List Text} :
    Step.docstring lines ∈ headSteps options c ↔
      lines = classCitations options c := by
  simp [headSteps]

/-- The methods that stubs stand for are those with a stub of their own and the
marked ones. -/
theorem exists_stub_iff {c : Class} (hc : c.IsCoherent) {m : Method} :
    (∃ s ∈ stubs c, c.methods[s.place]? = some m) ↔
      m ∈ c.methods ∧ (hasStub m = true ∨ m.isProperty = true) := by
  constructor
  · rintro ⟨s, hs, hm⟩
    obtain ⟨m', hm', hkind⟩ := exists_method_of_mem_stubs hc hs
    cases hm.symm.trans hm'
    exact ⟨List.mem_of_getElem? hm, hkind.imp And.left And.left⟩
  · rintro ⟨hm, hstub | hmarked⟩
    · obtain ⟨i, hi⟩ := List.mem_iff_getElem?.mp hm
      exact ⟨.plain i, mem_stubs_plain.mpr ⟨m, hi, hstub⟩, hi⟩
    · obtain ⟨i, hi⟩ := List.mem_iff_getElem?.mp hm
      obtain ⟨p, hp, rfl | rfl⟩ := (hc.marked i).mp ⟨m, hi, hmarked⟩
      · exact ⟨.getter p, (mem_stubs_accessor rfl).mpr ⟨p, hp, Or.inl rfl⟩, hi⟩
      · exact ⟨.setter p, (mem_stubs_accessor rfl).mpr ⟨p, hp, Or.inr rfl⟩, hi⟩

theorem docstring_mem_classSteps {options : Options} {c : Class}
    (hc : c.IsCoherent) {accessors : List Accessors}
    (haccessors : c.allAccessors? = some accessors) {lines : List Text} :
    Step.docstring lines ∈ classSteps options c accessors ↔
      lines = classCitations options c ∨
        ∃ m ∈ c.methods, (hasStub m = true ∨ m.isProperty = true) ∧
          lines = [citation m] := by
  have hstub : ∀ s, Step.docstring lines ∈ Stub.stepsIn c s ↔
      ∃ m, c.methods[s.place]? = some m ∧ lines = [citation m] := by
    intro s
    unfold Stub.stepsIn
    cases c.methods[s.place]? <;> simp [docstring_mem_steps]
  have hstubs : (∃ s ∈ stubs c, ∃ m,
      c.methods[s.place]? = some m ∧ lines = [citation m]) ↔
        ∃ m ∈ c.methods, (hasStub m = true ∨ m.isProperty = true) ∧
          lines = [citation m] := by
    constructor
    · rintro ⟨s, hs, m, hm, hlines⟩
      obtain ⟨hmem, hkind⟩ := (exists_stub_iff hc).mp ⟨s, hs, hm⟩
      exact ⟨m, hmem, hkind, hlines⟩
    · rintro ⟨m, hmem, hkind, hlines⟩
      obtain ⟨s, hs, hm⟩ := (exists_stub_iff hc).mpr ⟨hmem, hkind⟩
      exact ⟨s, hs, m, hm, hlines⟩
  rw [classSteps_eq haccessors, List.mem_append, List.mem_append,
    docstring_mem_headSteps, List.mem_flatMap]
  simp only [hstub, hstubs, List.mem_singleton, reduceCtorEq, or_false]

/-! ## What the docstrings cite -/

theorem isVerbatim_citation_iff {m : Method} :
    IsVerbatim (citation m ++ ['\n']) ↔
      IsVerbatim (m.name ++ m.signature.display ++ ['\n']) := by
  have hlabel : IsPlain "method: ".toList := by decide
  unfold citation
  rw [List.append_assoc, List.append_assoc,
    isVerbatim_plain_append_iff hlabel, List.append_assoc]

theorem isVerbatim_classCitations_iff {options : Options} {c : Class} :
    (∀ line ∈ classCitations options c, IsVerbatim (line ++ ['\n'])) ↔
      IsVerbatim (c.name ++ ['\n']) ∧
        ∀ path ∈ citedClasspath options, IsVerbatim (path ++ ['\n']) := by
  have hname : IsPlain "classname: ".toList := by decide
  have hpath : IsPlain "classpath: ".toList := by decide
  obtain ⟨profile, classpath⟩ := options
  rw [classCitations, List.forall_mem_cons, List.append_assoc,
    isVerbatim_plain_append_iff hname]
  cases profile with
  | plain => simp [citedClasspath]
  | extended =>
      cases classpath with
      | none => simp [citedClasspath]
      | some path =>
          simp only [citedClasspath, List.forall_mem_singleton,
            List.append_assoc, isVerbatim_plain_append_iff hpath,
            Option.mem_some_iff, forall_eq']

/-- The docstrings of a class in its text, and when they are read as they were
written, whatever the characters are called. -/
structure CitesTexts (options : Options) (c : Class)
    (accessors : List Accessors) (stub : Text) : Prop where
  text : classStub? options c = some stub
  place : ∀ d ∈ docstrings options c accessors, d.before ++ d.quoted = stub
  cited : ∀ lines,
    lines ∈ (docstrings options c accessors).map (·.lines) ↔
      lines = classCitations options c ∨
        ∃ m ∈ c.methods, (hasStub m = true ∨ m.isProperty = true) ∧
          lines = [citation m]
  each : ∀ charNamed?, ∀ d ∈ docstrings options c accessors,
    d.ReadsAsWritten charNamed? ↔ ∀ line ∈ d.lines, IsVerbatim (line ++ ['\n'])
  all : ∀ charNamed?,
    (∀ d ∈ docstrings options c accessors, d.ReadsAsWritten charNamed?) ↔
      IsVerbatim (c.name ++ ['\n']) ∧
        (∀ path ∈ citedClasspath options, IsVerbatim (path ++ ['\n'])) ∧
        ∀ m ∈ c.methods, hasStub m = true ∨ m.isProperty = true →
          IsVerbatim (m.name ++ m.signature.display ++ ['\n'])

theorem citesTexts {c : Class} (hc : c.IsCoherent) {accessors : List Accessors}
    (haccessors : c.allAccessors? = some accessors) (options : Options) :
    CitesTexts options c accessors
      (textFrom 0 (classSteps options c accessors)) := by
  have hcited : ∀ lines,
      lines ∈ (docstrings options c accessors).map (·.lines) ↔
        lines = classCitations options c ∨
          ∃ m ∈ c.methods, (hasStub m = true ∨ m.isProperty = true) ∧
            lines = [citation m] := by
    intro lines
    rw [docstrings, mem_map_lines_docstringsFrom,
      docstring_mem_classSteps hc haccessors]
  refine ⟨classStub?_eq_some haccessors, ?_, hcited,
    fun charNamed? d _ => d.readsAsWritten_iff charNamed?, ?_⟩
  · intro d hd
    exact append_quoted_of_mem_docstringsFrom hd
  · intro charNamed?
    have hlines : (∀ d ∈ docstrings options c accessors,
        d.ReadsAsWritten charNamed?) ↔
          ∀ lines ∈ (docstrings options c accessors).map (·.lines),
            ∀ line ∈ lines, IsVerbatim (line ++ ['\n']) := by
      simp only [Docstring.readsAsWritten_iff, List.forall_mem_map]
    rw [hlines, ← and_assoc, ← isVerbatim_classCitations_iff]
    constructor
    · intro h
      refine ⟨h _ ((hcited _).mpr (Or.inl rfl)), ?_⟩
      intro m hm hkind
      rw [← isVerbatim_citation_iff]
      exact h [citation m] ((hcited _).mpr (Or.inr ⟨m, hm, hkind, rfl⟩)) _
        (List.mem_singleton.mpr rfl)
    · rintro ⟨hclass, hmethods⟩ lines hmem
      rcases (hcited lines).mp hmem with rfl | ⟨m, hm, hkind, rfl⟩
      · exact hclass
      · rw [List.forall_mem_singleton, isVerbatim_citation_iff]
        exact hmethods m hm hkind

/-- The docstrings of a class that was read cite what stands for itself, and
nothing else, faithfully. -/
theorem citesTexts_of_parse {skips : Text → Bool} {classname text : Text}
    {c : Class} (hparse : Listing.parse skips classname text = .ok c)
    (options : Options) :
    c.name = classname ∧ ∃ accessors stub,
      c.allAccessors? = some accessors ∧ CitesTexts options c accessors stub := by
  have hc := Listing.isCoherent_of_parse hparse
  obtain ⟨accessors, haccessors⟩ := exists_allAccessors? hc
  exact ⟨Listing.name_of_parse hparse, accessors, _, haccessors,
    citesTexts hc haccessors options⟩

/-- A listing with a method and a property. -/
def ladleListing : Text :=
  Text.joinWith ['\n'] <| [
    "public class demo.Ladle \x7b",
    "  public int fill(int);", "    descriptor: (I)I",
    "  public void setDepth(int);", "    descriptor: (I)V",
    "  public int getDepth();", "    descriptor: ()I",
    "\x7d"].map String.toList

def ladle : Class where
  name := "demo.Ladle".toList
  methods :=
    [⟨"fill".toList, false, false, false,
        ⟨"(I)I".toList, [⟨['I'], false⟩], some ⟨['I'], false⟩⟩⟩,
      ⟨"setDepth".toList, false, false, true,
        ⟨"(I)V".toList, [⟨['I'], false⟩], none⟩⟩,
      ⟨"getDepth".toList, false, false, true,
        ⟨"()I".toList, [], some ⟨['I'], false⟩⟩⟩]
  properties := [⟨"depth".toList, 2, 1⟩]

def ladleOptions (classpath : String) : Options :=
  ⟨.extended, some classpath.toList⟩

theorem parse_ladleListing :
    Listing.parse (fun _ => false) "demo.Ladle".toList ladleListing =
      .ok ladle := by
  decide +kernel

/-- Not every backslash belongs to an escape. -/
theorem ladle_citesTexts :
    Listing.parse (fun _ => false) "demo.Ladle".toList ladleListing =
        .ok ladle ∧
      ∃ accessors stub, ladle.allAccessors? = some accessors ∧
        classStub? (ladleOptions "C:\\Java\\demo.jar") ladle = some stub ∧
        ∀ charNamed?, ∀ d ∈ docstrings (ladleOptions "C:\\Java\\demo.jar") ladle
            accessors,
          d.before ++ d.quoted = stub ∧ d.ReadsAsWritten charNamed? := by
  obtain ⟨_, accessors, stub, haccessors, hcites⟩ :=
    citesTexts_of_parse parse_ladleListing (ladleOptions "C:\\Java\\demo.jar")
  refine ⟨parse_ladleListing, accessors, stub, haccessors, hcites.text, ?_⟩
  intro charNamed? d hd
  refine ⟨hcites.place d hd, (hcites.all charNamed?).mpr ?_ d hd⟩
  decide +kernel

/-- A class path that Python does not read at all: eight hexadecimal digits are to
follow the letter `U`. -/
theorem ladle_not_readsAsWritten :
    Listing.parse (fun _ => false) "demo.Ladle".toList ladleListing =
        .ok ladle ∧
      '\n' ∉ "C:\\Users\\demo\\ladle.jar".toList ∧
      ∃ accessors stub, ladle.allAccessors? = some accessors ∧
        classStub? (ladleOptions "C:\\Users\\demo\\ladle.jar") ladle =
          some stub ∧
        ∃ d ∈ docstrings (ladleOptions "C:\\Users\\demo\\ladle.jar") ladle
            accessors,
          d.before ++ d.quoted = stub ∧
          ∀ charNamed?, readLiteral? charNamed? d.quoted = none ∧
            ¬ d.ReadsAsWritten charNamed? := by
  refine ⟨parse_ladleListing, by decide, _, _, rfl, rfl, _,
    List.mem_cons_self, append_quoted_of_mem_docstringsFrom List.mem_cons_self,
    ?_⟩
  intro charNamed?
  exact ⟨rfl, Docstring.not_readsAsWritten rfl⟩

end Stubgen.Python
