import Stubgen.Proofs.Listing.Layout

/-!
# Printed listings are read back

An entry is a member together with the way it is printed: its modifiers, type
parameters and type as parts of a declaration line, its descriptor on a labelled
line, and the lines in between that carry nothing.  The main statement says that
the reader gets exactly the members of the entries back, in order, whatever the
layout.
-/

namespace Stubgen
namespace Listing

open Text

structure Part where
  text : Text
  gap : Text

def Part.print (p : Part) : Text := p.text ++ p.gap

/-- The part is set apart from what follows it. -/
@[mk_iff]
structure Part.IsApart (p : Part) : Prop where
  gap_ne_nil : p.gap ≠ []
  gap_blank : IsGap p.gap

instance : DecidablePred Part.IsApart := fun p =>
  decidable_of_iff _ (Part.isApart_iff p).symm

/-- What is declared, and what its descriptor stands for.  A method is declared
with a type and a constructor without one; `tail` is all that follows the
opening bracket. -/
inductive Shape
  | callable (typeParameters type : Option Part) (tail : Text)
      (signature : Signature)
  | field (type : Part) (ending : Text) (typeName : TypeName)

/-- A member and the way it is printed. -/
structure Entry where
  noiseBefore : List Text
  indentation : Text
  modifiers : List Part
  shape : Shape
  name : Text
  noiseBetween : List Text
  labelIndentation : Text
  labelGap : Text
  descriptor : Text
  descriptorEnd : Text

namespace Shape

/-- The declaration line from the type on. -/
def core (name : Text) : Shape → Text
  | callable _ type tail _ =>
      (type.elim [] Part.print) ++ name ++ '(' :: tail
  | field type ending _ => type.print ++ name ++ ';' :: ending

/-- The declaration line behind the modifiers. -/
def print (name : Text) : Shape → Text
  | callable typeParameters type tail signature =>
      (typeParameters.elim [] Part.print) ++
        (callable typeParameters type tail signature).core name
  | field type ending typeName => (field type ending typeName).core name

/-- What the declaration line shows first behind the modifiers and the type
parameters. -/
def first (name : Text) : Shape → Text
  | callable _ type _ _ => type.elim name Part.text
  | field type _ _ => type.text

/-- The descriptor stands for what the member has. -/
def Describes (descriptor : Text) : Shape → Prop
  | callable _ _ _ signature =>
      Descriptor.decodeMethod descriptor = .ok signature
  | field _ _ typeName => Descriptor.decodeField descriptor = .ok typeName

end Shape

/-- A declared type may contain gaps, but it does not start with one. -/
@[mk_iff]
structure Part.IsType (p : Part) : Prop where
  ne_nil : p.text ≠ []
  start : Stops isBlank p.text
  bracket : '(' ∉ p.text
  apart : p.IsApart

instance : DecidablePred Part.IsType := fun p =>
  decidable_of_iff _ (Part.isType_iff p).symm

/-- A list of type parameters; a gap behind it may be missing. -/
structure Part.IsList (p : Part) : Prop where
  list : Declaration.IsTypeParameters p.text
  bracket : '(' ∉ p.text
  gap_blank : IsGap p.gap

/-- The parts of the shape are what they are meant to be. -/
def Shape.Fits (name : Text) : Shape → Prop
  | .callable typeParameters type _ _ =>
      (∀ p ∈ typeParameters, p.IsList) ∧ ∀ p ∈ type, p.IsType
  | .field type ending _ =>
      type.IsType ∧ name.getLast? ≠ some ';' ∧ IsGap ending

namespace Entry

def declarationLine (e : Entry) : Text :=
  e.indentation ++ (e.modifiers.flatMap Part.print ++ e.shape.print e.name)

def descriptorLine (e : Entry) : Text :=
  e.labelIndentation ++
    ("descriptor:".toList ++ e.labelGap ++ e.descriptor) ++ e.descriptorEnd

def lines (e : Entry) : List Text :=
  e.noiseBefore ++ e.declarationLine ::
    (e.noiseBetween ++ [e.descriptorLine])

def isStatic (e : Entry) : Bool :=
  (e.modifiers.map Part.text).contains "static".toList

def member (e : Entry) : Member :=
  match e.shape with
  | .callable _ type _ signature =>
      .method ⟨e.name, type.isNone, e.isStatic, false, signature⟩
  | .field _ _ typeName => .field ⟨e.name, typeName, e.isStatic⟩

/-- One line of text that carries nothing. -/
def IsNoiseLine (line : Text) : Prop := '\n' ∉ line ∧ CarriesNothing line

/-- One line of text that carries something. -/
def IsContentLine (line : Text) : Prop := '\n' ∉ line ∧ ¬ CarriesNothing line

instance : DecidablePred IsNoiseLine := fun line =>
  inferInstanceAs (Decidable ('\n' ∉ line ∧ CarriesNothing line))

instance : DecidablePred IsContentLine := fun line =>
  inferInstanceAs (Decidable ('\n' ∉ line ∧ ¬ CarriesNothing line))

/-- The entry is printed so that it can be told from its lines. -/
structure IsPrintable (e : Entry) : Prop where
  noise : ∀ line ∈ e.noiseBefore ++ e.noiseBetween, IsNoiseLine line
  content : IsContentLine e.declarationLine ∧ IsContentLine e.descriptorLine
  gaps : IsGap e.indentation ∧ IsGap e.labelIndentation ∧
    IsGap e.labelGap ∧ IsGap e.descriptorEnd
  modifiers : ∀ p ∈ e.modifiers, p.text ∈ Listing.modifiers ∧ p.IsApart
  name : IsWord e.name ∧ '(' ∉ e.name
  shape : e.shape.Fits e.name
  plain : Declaration.StartsPlain (e.shape.first e.name)
  describes : e.shape.Describes e.descriptor
  descriptor : IsTrimmed e.descriptor

end Entry

/-- The text of entries, with more lines that carry nothing at the end.  The
last line is not ended; an empty line at the end ends the line ahead of it. -/
def listing (entries : List Entry) (noiseAfter : List Text) : Text :=
  joinWith ['\n'] (entries.flatMap Entry.lines ++ noiseAfter)

/-! ## One declaration line -/

theorem Part.IsApart.stops {p : Part} (hp : p.IsApart) (rest : Text) :
    Stops (fun c => !isBlank c) (p.gap ++ rest) := by
  obtain ⟨c, gap, hcons⟩ := List.exists_cons_of_ne_nil hp.gap_ne_nil
  have hc := hp.gap_blank c (by simp [hcons])
  simp [hcons, hc]

theorem Declaration.StartsPlain.append {t rest : Text}
    (ht : StartsPlain t) (hne : t ≠ [])
    (hrest : Stops (fun c => !isBlank c) rest) : StartsPlain (t ++ rest) := by
  constructor
  · rw [takeWhile_append_of_stops hrest]
    exact ht.notModifier
  · rw [List.head?_append_of_ne_nil _ hne]
    exact ht.notBracket

theorem Part.IsType.isTrimmed_append {p : Part} (hp : p.IsType)
    {name : Text} (hname : IsWord name) :
    IsTrimmed (p.print ++ name) :=
  IsTrimmed.append p.gap hp.ne_nil hname.1 hp.start hname.isTrimmed.finish

theorem Part.IsType.startsPlain_append {p : Part} (hp : p.IsType)
    (hplain : Declaration.StartsPlain p.text) (name : Text) :
    Declaration.StartsPlain (p.print ++ name) := by
  rw [Part.print, List.append_assoc]
  exact hplain.append hp.ne_nil (hp.apart.stops name)

theorem Part.IsType.bracket_notMem {p : Part} (hp : p.IsType) :
    '(' ∉ p.print := by
  have hgap := Declaration.bracket_notMem_gap hp.apart.gap_blank
  simp [Part.print, hp.bracket, hgap]

theorem Part.IsType.ofHead?_print_append {p : Part} (hp : p.IsType)
    (hplain : Declaration.StartsPlain p.text) {name : Text}
    (hname : IsWord name) (isField : Bool) :
    Declaration.ofHead? isField (p.print ++ name) =
      some ⟨name, false, false, isField⟩ := by
  rw [Declaration.ofHead?_of_startsPlain (hp.isTrimmed_append hname).start
    (hp.startsPlain_append hplain name)]
  exact Declaration.ofRest?_named hp.apart.gap_ne_nil hp.apart.gap_blank hname
    isField false

def Shape.headText (name : Text) : Shape → Text
  | callable _ type _ _ => (type.elim [] Part.print) ++ name
  | field type _ _ => type.print ++ name

def Shape.declaration (name : Text) : Shape → Declaration
  | callable _ type _ _ => ⟨name, type.isNone, false, false⟩
  | field _ _ _ => ⟨name, false, false, true⟩

theorem Shape.head_core {s : Shape} {name : Text} (hfits : s.Fits name)
    (hname : IsWord name) (hbracket : '(' ∉ name) :
    Declaration.head (s.core name) = s.headText name := by
  cases s with
  | callable typeParameters type tail signature =>
      cases type with
      | none =>
          have hhead := Declaration.head_bracket hbracket tail
          rw [hname.isTrimmed.trim_eq] at hhead
          exact hhead
      | some p =>
          have hp : p.IsType := hfits.2 p rfl
          have hfront : '(' ∉ p.print ++ name := by
            simp [hp.bracket_notMem, hbracket]
          have hhead := Declaration.head_bracket hfront tail
          rw [(hp.isTrimmed_append hname).trim_eq] at hhead
          exact hhead
  | field p ending typeName =>
      obtain ⟨hp, hsemicolon, hending⟩ := hfits
      have htrimmed := hp.isTrimmed_append hname
      have hclosed : IsTrimmed (p.print ++ name ++ [';']) := by
        rw [Part.print, List.append_assoc, List.append_assoc,
          ← List.append_assoc p.gap, ← List.append_assoc]
        exact IsTrimmed.append _ hp.ne_nil (by simp) hp.start (by decide)
      have hline : '(' ∉ p.print ++ name ++ ';' :: ending := by
        simp [hp.bracket_notMem, hbracket,
          Declaration.bracket_notMem_gap hending]
      have hsplit : p.print ++ name ++ ';' :: ending =
          [] ++ (p.print ++ name ++ [';']) ++ ending := by simp
      have hstops : Stops (· = ';') (p.print ++ name).reverse := by
        intro c hc
        rw [List.head?_reverse,
          List.getLast?_append_of_ne_nil _ hname.1] at hc
        rw [decide_eq_false_iff_not]
        rintro rfl
        exact hsemicolon hc
      have hdrop : dropEndWhile (· = ';') (p.print ++ name ++ [';']) =
          p.print ++ name := by
        rw [dropEndWhile_append_span (by simp), dropEndWhile_of_stops hstops]
      rw [Shape.core, Declaration.head_of_notMem hline, hsplit,
        trim_surround isGap_nil hending, hclosed.trim_eq, hdrop,
        htrimmed.trim_eq, Shape.headText]

theorem Shape.startsPlain_headText {s : Shape} {name : Text}
    (hfits : s.Fits name) (hplain : Declaration.StartsPlain (s.first name)) :
    Declaration.StartsPlain (s.headText name) := by
  cases s with
  | callable typeParameters type tail signature =>
      cases type with
      | none => exact hplain
      | some p => exact (hfits.2 p rfl).startsPlain_append hplain name
  | field p ending typeName => exact hfits.1.startsPlain_append hplain name

theorem Shape.parse?_core {s : Shape} {name : Text} (hfits : s.Fits name)
    (hname : IsWord name) (hbracket : '(' ∉ name)
    (hplain : Declaration.StartsPlain (s.first name)) :
    Declaration.parse? (s.core name) = some (s.declaration name) := by
  have hhead := Shape.head_core hfits hname hbracket
  rw [Declaration.parse?_eq_ofHead?, hhead]
  cases s with
  | callable typeParameters type tail signature =>
      have hcontains : ((callable typeParameters type tail signature).core
          name).contains '(' = true := by simp [Shape.core]
      rw [hcontains]
      cases type with
      | none =>
          have hrest := Declaration.ofRest?_constructor hname false
          rw [← Declaration.ofHead?_of_startsPlain hname.isTrimmed.start
            hplain] at hrest
          exact hrest
      | some p =>
          exact (hfits.2 p rfl).ofHead?_print_append hplain hname false
  | field p ending typeName =>
      obtain ⟨hp, _, hending⟩ := hfits
      have hcontains : ((field p ending typeName).core name).contains '(' =
          false := by
        simp [Shape.core, hp.bracket_notMem, hbracket,
          Declaration.bracket_notMem_gap hending]
      rw [hcontains]
      exact hp.ofHead?_print_append hplain hname true

/-- A list of type parameters in front of the type is passed over. -/
theorem Shape.parse?_print {s : Shape} {name : Text} (hfits : s.Fits name)
    (hname : IsWord name) (hbracket : '(' ∉ name)
    (hplain : Declaration.StartsPlain (s.first name)) :
    Declaration.parse? (s.print name) = some (s.declaration name) := by
  have hcore := Shape.parse?_core hfits hname hbracket hplain
  cases s with
  | callable typeParameters type tail signature =>
      cases typeParameters with
      | none => exact hcore
      | some list =>
          have hlist : list.IsList := hfits.1 list rfl
          have hhead := Shape.startsPlain_headText hfits hplain
          rw [← Shape.head_core hfits hname hbracket] at hhead
          rw [← hcore]
          exact Declaration.parse?_typeParameters hlist.list hlist.bracket
            hlist.gap_blank hhead
  | field type ending typeName => exact hcore

/-- Modifiers in front of any line, well-formed or not, only add their marks. -/
theorem Declaration.parse?_modifiers {parts : List Part}
    (hparts : ∀ p ∈ parts, p.text ∈ Listing.modifiers ∧ p.IsApart)
    (line : Text) :
    parse? (parts.flatMap Part.print ++ line) =
      (parse? line).map (withModifiers (parts.map Part.text)) := by
  induction parts with
  | nil => rw [List.map_nil, withModifiers_nil, Option.map_id]; rfl
  | cons p parts ih =>
      obtain ⟨hword, hapart⟩ := hparts p (by simp)
      have hrest := ih fun q hq => hparts q (by simp [hq])
      rw [List.flatMap_cons, List.append_assoc, Part.print,
        parse?_modifier hword hapart.gap_ne_nil hapart.gap_blank, hrest,
        Option.map_map, List.map_cons, withModifier_comp_withModifiers]

namespace Entry

theorem parse?_declarationLine {e : Entry} (he : e.IsPrintable) :
    Declaration.parse? e.declarationLine =
      some { e.shape.declaration e.name with isStatic := e.isStatic } := by
  have hshape := Shape.parse?_print he.shape he.name.1 he.name.2 he.plain
  have hmodifiers := Declaration.parse?_modifiers he.modifiers
    (e.shape.print e.name)
  have hsurround := Declaration.parse?_surround he.gaps.1 isGap_nil
    (e.modifiers.flatMap Part.print ++ e.shape.print e.name)
  rw [List.append_nil] at hsurround
  have hstatic : (e.shape.declaration e.name).isStatic = false := by
    cases e.shape <;> rfl
  rw [declarationLine, hsurround, hmodifiers, hshape, Option.map_some,
    Declaration.withModifiers, hstatic, Bool.or_false]
  rfl

/-! ## One entry -/

theorem descriptorOf?_descriptorLine {e : Entry} (he : e.IsPrintable)
    (hne : e.descriptor ≠ []) :
    descriptorOf? e.descriptorLine = some e.descriptor := by
  obtain ⟨_, hlabelIndentation, hlabelGap, hdescriptorEnd⟩ := he.gaps
  have htrimmed : IsTrimmed
      ("descriptor:".toList ++ e.labelGap ++ e.descriptor) :=
    IsTrimmed.append e.labelGap (by decide) hne (by decide)
      he.descriptor.finish
  have hgap := trim_surround hlabelGap isGap_nil e.descriptor
  rw [List.append_nil, he.descriptor.trim_eq] at hgap
  unfold descriptorOf?
  rw [descriptorLine, trim_surround hlabelIndentation hdescriptorEnd,
    htrimmed.trim_eq, List.append_assoc, afterLabel?_eq_some_iff.mpr rfl,
    Option.map_some, hgap]

theorem descriptor_ne_nil {e : Entry} (he : e.IsPrintable) :
    e.descriptor ≠ [] := by
  intro hempty
  have hdescribes := he.describes
  rw [hempty] at hdescribes
  cases hshape : e.shape <;> rw [hshape] at hdescribes <;> cases hdescribes

theorem readMember_lines {e : Entry} (he : e.IsPrintable) :
    readMember (fun _ => false) e.declarationLine e.descriptorLine =
      .ok (some e.member) := by
  have hdeclaration := parse?_declarationLine he
  have hdescriptor := descriptorOf?_descriptorLine he (descriptor_ne_nil he)
  have hdescribes := he.describes
  unfold readMember
  rw [hdescriptor, hdeclaration]
  unfold member
  cases hshape : e.shape with
  | callable typeParameters type tail signature =>
      rw [hshape] at hdescribes
      change Descriptor.decodeMethod e.descriptor = .ok signature at hdescribes
      simp [Shape.declaration, hdescribes]
  | field type ending typeName =>
      rw [hshape] at hdescribes
      change Descriptor.decodeField e.descriptor = .ok typeName at hdescribes
      simp [Shape.declaration, hdescribes]

theorem isNoise_of_isNoiseLine {line : Text} (hline : IsNoiseLine line) :
    isNoise line = true :=
  isNoise_iff.mpr hline.2

theorem isNoise_of_isContentLine {line : Text} (hline : IsContentLine line) :
    isNoise line = false := by
  rw [Bool.eq_false_iff]
  exact fun hnoise => hline.2 (isNoise_iff.mp hnoise)

theorem filter_lines {e : Entry} (he : e.IsPrintable) :
    (e.lines.filter fun line => !isNoise line) =
      [e.declarationLine, e.descriptorLine] := by
  have hnoise : ∀ line ∈ e.noiseBefore ++ e.noiseBetween,
      isNoise line = true := by
    intro line hline
    exact isNoise_of_isNoiseLine (he.noise line hline)
  have hbefore : (e.noiseBefore.filter fun line => !isNoise line) = [] := by
    simp only [List.filter_eq_nil_iff]
    intro line hline
    simp [hnoise line (by simp [hline])]
  have hbetween : (e.noiseBetween.filter fun line => !isNoise line) = [] := by
    simp only [List.filter_eq_nil_iff]
    intro line hline
    simp [hnoise line (by simp [hline])]
  have hdeclaration := isNoise_of_isContentLine he.content.1
  have hdescriptor := isNoise_of_isContentLine he.content.2
  simp [lines, hbefore, hbetween, hdeclaration, hdescriptor]

theorem newline_notMem_lines {e : Entry} (he : e.IsPrintable) :
    ∀ line ∈ e.lines, '\n' ∉ line := by
  intro line hline
  have hcases : line ∈ e.noiseBefore ++ e.noiseBetween ∨
      line = e.declarationLine ∨ line = e.descriptorLine := by
    simp only [lines, List.mem_append, List.mem_cons] at hline ⊢
    tauto
  rcases hcases with hnoise | rfl | rfl
  · exact (he.noise line hnoise).1
  · exact he.content.1.1
  · exact he.content.2.1

end Entry

/-! ## Whole listings -/

/-- The induction is on the entries; each takes one pair of lines. -/
theorem readMembers_entries {entries : List Entry}
    (hentries : ∀ e ∈ entries, e.IsPrintable) :
    readMembers (fun _ => false)
        (entries.flatMap fun e => [e.declarationLine, e.descriptorLine]) =
      .ok (entries.map Entry.member) := by
  induction entries with
  | nil => rfl
  | cons e entries ih =>
      have hfirst := Entry.readMember_lines (hentries e (by simp))
      have hrest := ih fun e he => hentries e (by simp [he])
      rw [List.flatMap_cons]
      change readMembers _ (e.declarationLine :: e.descriptorLine ::
        entries.flatMap _) = _
      rw [readMembers, hfirst, hrest]
      rfl

theorem filter_listing {entries : List Entry} {noiseAfter : List Text}
    (hentries : ∀ e ∈ entries, e.IsPrintable)
    (hafter : ∀ line ∈ noiseAfter, Entry.IsNoiseLine line) :
    ((entries.flatMap Entry.lines ++ noiseAfter).filter fun line =>
        !isNoise line) =
      entries.flatMap fun e => [e.declarationLine, e.descriptorLine] := by
  have hnoise : (noiseAfter.filter fun line => !isNoise line) = [] := by
    simp only [List.filter_eq_nil_iff]
    intro line hline
    simp [Entry.isNoise_of_isNoiseLine (hafter line hline)]
  rw [List.filter_append, hnoise, List.append_nil, List.filter_flatMap]
  apply List.flatMap_congr
  intro e he
  exact Entry.filter_lines (hentries e he)

/-- Reading a printed listing gives back its members, in order. -/
theorem parseMembers_listing (classname : Text) (entries : List Entry)
    (noiseAfter : List Text) (hentries : ∀ e ∈ entries, e.IsPrintable)
    (hafter : ∀ line ∈ noiseAfter, Entry.IsNoiseLine line) :
    parseMembers (fun _ => false) classname (listing entries noiseAfter) =
      .ok {
        name := classname
        methods := methodsOf (entries.map Entry.member)
        fields := fieldsOf (entries.map Entry.member)
        properties := [] } := by
  have hlines : ∀ line ∈ entries.flatMap Entry.lines ++ noiseAfter,
      '\n' ∉ line := by
    intro line hline
    rcases List.mem_append.mp hline with hmem | hmem
    · obtain ⟨e, he, hline⟩ := List.mem_flatMap.mp hmem
      exact Entry.newline_notMem_lines (hentries e he) line hline
    · exact (hafter line hmem).1
  unfold parseMembers listing
  rw [readMembers_joinWith _ hlines, filter_listing hentries hafter,
    readMembers_entries hentries]
  rfl

/-- A static method with type parameters, behind the head of its class. -/
def copyEntry : Entry where
  noiseBefore := ["Compiled from \"Box.java\"".toList,
    "class demo.Box \x7b".toList]
  indentation := "  ".toList
  modifiers := [⟨"public".toList, " ".toList⟩, ⟨"static".toList, " ".toList⟩]
  shape := .callable (some ⟨"<K>".toList, " ".toList⟩)
    (some ⟨"Map<K, V>".toList, " ".toList⟩) "int) throws E;".toList
    ⟨"(I)Ljava/util/Map;".toList, [⟨"I".toList, false⟩],
      some ⟨"java/util/Map".toList, false⟩⟩
  name := "copy".toList
  noiseBetween := []
  labelIndentation := "    ".toList
  labelGap := " ".toList
  descriptor := "(I)Ljava/util/Map;".toList
  descriptorEnd := []

/-- A field, with a blank line between its two lines. -/
def maxEntry : Entry where
  noiseBefore := []
  indentation := "  ".toList
  modifiers := [⟨"final".toList, " ".toList⟩]
  shape := .field ⟨"int[]".toList, " ".toList⟩ [] ⟨"I".toList, true⟩
  name := "MAX".toList
  noiseBetween := ["  ".toList]
  labelIndentation := "    ".toList
  labelGap := " ".toList
  descriptor := "[I".toList
  descriptorEnd := []

theorem copyEntry_isPrintable : copyEntry.IsPrintable where
  noise := by decide
  content := by decide
  gaps := by decide
  modifiers := by decide
  name := by decide
  shape := by
    constructor
    · rintro p ⟨⟩
      exact ⟨by decide, by decide, by decide⟩
    · rintro p ⟨⟩
      decide
  plain := by decide
  describes := by
    change Descriptor.decodeMethod "(I)Ljava/util/Map;".toList = _
    cbv
  descriptor := by decide

theorem maxEntry_isPrintable : maxEntry.IsPrintable where
  noise := by decide
  content := by decide
  gaps := by decide
  modifiers := by decide
  name := by decide
  shape := ⟨by decide, by decide, by decide⟩
  plain := by decide
  describes := by
    change Descriptor.decodeField "[I".toList = _
    decide
  descriptor := by decide

theorem parseMembers_listing_box :
    parseMembers (fun _ => false) "demo.Box".toList
        ("Compiled from \"Box.java\"\nclass demo.Box \x7b\n" ++
          "  public static <K> Map<K, V> copy(int) throws E;\n" ++
          "    descriptor: (I)Ljava/util/Map;\n" ++
          "  final int[] MAX;\n  \n    descriptor: [I\n\x7d\n").toList =
      .ok {
        name := "demo.Box".toList
        methods := [⟨"copy".toList, false, true, false,
          "(I)Ljava/util/Map;".toList, [⟨"I".toList, false⟩],
          some ⟨"java/util/Map".toList, false⟩⟩]
        fields := [⟨"MAX".toList, ⟨"I".toList, true⟩, false⟩]
        properties := [] } := by
  have hentries : ∀ e ∈ [copyEntry, maxEntry], e.IsPrintable := by
    intro e he
    simp only [List.mem_cons, List.not_mem_nil, or_false] at he
    rcases he with rfl | rfl
    · exact copyEntry_isPrintable
    · exact maxEntry_isPrintable
  have hafter : ∀ line ∈ ["\x7d".toList, []], Entry.IsNoiseLine line := by
    decide
  have hread := parseMembers_listing "demo.Box".toList [copyEntry, maxEntry]
    ["\x7d".toList, []] hentries hafter
  have htext : listing [copyEntry, maxEntry] ["\x7d".toList, []] =
      ("Compiled from \"Box.java\"\nclass demo.Box \x7b\n" ++
        "  public static <K> Map<K, V> copy(int) throws E;\n" ++
        "    descriptor: (I)Ljava/util/Map;\n" ++
        "  final int[] MAX;\n  \n    descriptor: [I\n\x7d\n").toList := by
    simp only [String.toList_append]
    decide +kernel
  rw [← htext]
  exact hread

end Listing
end Stubgen
