import Stubgen.Listing.Declaration
import Stubgen.Proofs.Text.Layout

/-!
# Declarations by their parts

What is read off a declaration line depends only on its head, the text in front
of the first round bracket or of the closing semicolons.  This module follows
the head of a line that is put together from parts: surrounding gaps vanish, a
modifier in front only adds its mark, a list of type parameters in front
vanishes, and what is left is a type and a name or a name alone.
-/

namespace Stubgen
namespace Listing

open Text

namespace Declaration

/-- What the text behind the modifiers says of a member. -/
def ofRest? (isField isStatic : Bool) (rest : Text) : Option Declaration :=
  if rest.isEmpty then none
  else if !isField && !rest.any Text.isBlank then
    some ⟨rest, true, isStatic, isField⟩
  else (Text.words rest).getLast?.map fun name =>
    ⟨name, false, isStatic, isField⟩

def leading (h : Text) : List Text :=
  (Text.words h).takeWhile modifiers.contains

/-- What the head of a declaration line says of a member. -/
def ofHead? (isField : Bool) (h : Text) : Option Declaration :=
  ofRest? isField ((leading h).contains "static".toList)
    (stripTypeParameters (Text.dropWords (leading h).length h))

theorem parse?_eq_ofHead? (line : Text) :
    parse? line = ofHead? (!line.contains '(') (head line) := rfl

@[simp] theorem ofHead?_nil (isField : Bool) : ofHead? isField [] = none := rfl

/-- The declaration with the mark of one more modifier. -/
def withModifier (word : Text) (d : Declaration) : Declaration :=
  { d with isStatic := decide (word = "static".toList) || d.isStatic }

/-- The declaration with the marks of some modifiers. -/
def withModifiers (words : List Text) (d : Declaration) : Declaration :=
  { d with isStatic := words.contains "static".toList || d.isStatic }

@[simp] theorem withModifiers_nil : withModifiers [] = id := rfl

theorem withModifier_comp_withModifiers (word : Text) (words : List Text) :
    withModifier word ∘ withModifiers words =
      withModifiers (word :: words) := by
  funext d
  unfold Function.comp withModifier withModifiers
  generalize "static".toList = static
  simp [Bool.or_assoc, eq_comm]

theorem ofRest?_withModifier (isField isStatic : Bool) (rest word : Text) :
    ofRest? isField (decide (word = "static".toList) || isStatic) rest =
      (ofRest? isField isStatic rest).map (withModifier word) := by
  unfold ofRest?
  split
  next => rfl
  next =>
    split
    next => rfl
    next =>
      rw [Option.map_map]
      rfl

/-! ## Heads -/

theorem contains_eq_false {t : Text} {c : Char} (hc : c ∉ t) :
    t.contains c = false := by
  simpa using hc

theorem head_of_notMem {line : Text} (hline : '(' ∉ line) :
    head line = trim (dropEndWhile (· = ';') (trim line)) := by
  unfold head
  rw [contains_eq_false hline]
  rfl

theorem head_of_mem {line : Text} (hline : '(' ∈ line) :
    head line = trim (line.takeWhile (· ≠ '(')) := by
  unfold head
  rw [if_pos (by simpa using hline)]

theorem head_bracket {before : Text} (hbefore : '(' ∉ before) (tail : Text) :
    head (before ++ '(' :: tail) = trim before := by
  have hstops : Stops (· ≠ '(') ('(' :: tail) := by simp
  rw [head_of_mem (by simp),
    takeWhile_span (decide_ne_of_notMem hbefore) hstops]

theorem isTrimmed_head (line : Text) : IsTrimmed (head line) := by
  unfold head
  exact isTrimmed_trim _

theorem bracket_notMem_gap {gap : Text} (hgap : IsGap gap) : '(' ∉ gap :=
  hgap.notMem rfl

theorem head_surround {a b : Text} (ha : IsGap a) (hb : IsGap b)
    (line : Text) : head (a ++ line ++ b) = head line := by
  have hopen := bracket_notMem_gap ha
  have hclose := bracket_notMem_gap hb
  by_cases hline : '(' ∈ line
  · obtain ⟨before, tail, rfl, hbefore⟩ := List.eq_append_cons_of_mem hline
    have hsplit : a ++ (before ++ '(' :: tail) ++ b =
        (a ++ before) ++ '(' :: (tail ++ b) := by simp
    have hfront : '(' ∉ a ++ before := by simp [hopen, hbefore]
    have htrim := trim_surround ha isGap_nil before
    rw [List.append_nil] at htrim
    rw [hsplit, head_bracket hfront, head_bracket hbefore, htrim]
  · have hall : '(' ∉ a ++ line ++ b := by simp [hopen, hclose, hline]
    rw [head_of_notMem hall, head_of_notMem hline, trim_surround ha hb]

/-- The head of a line with a trimmed text in front. -/
theorem follows_head {x gap : Text} (hx : IsTrimmed x) (hne : x ≠ [])
    (hbracket : '(' ∉ x) (hsemicolon : Stops (· = ';') x.reverse)
    (hgap : IsGap gap) (line : Text) :
    Follows x (gap ≠ []) (head line) (head (x ++ gap ++ line)) := by
  have hgapBracket := bracket_notMem_gap hgap
  by_cases hline : '(' ∈ line
  · obtain ⟨before, tail, rfl, hbefore⟩ := List.eq_append_cons_of_mem hline
    have hsplit : x ++ gap ++ (before ++ '(' :: tail) =
        (x ++ gap ++ before) ++ '(' :: tail := by simp
    have hfront : '(' ∉ x ++ gap ++ before := by
      simp [hbracket, hgapBracket, hbefore]
    rw [hsplit, head_bracket hfront, head_bracket hbefore]
    exact follows_trim hx hne hgap before
  · have hall : '(' ∉ x ++ gap ++ line := by
      simp [hbracket, hgapBracket, hline]
    rw [head_of_notMem hall, head_of_notMem hline]
    rcases follows_trim hx hne hgap line with
      ⟨hempty, htrim⟩ | ⟨_, gap', hgap', hapart, htrim⟩
    · rw [htrim, hempty, dropEndWhile_of_stops hsemicolon, hx.trim_eq]
      exact Or.inl ⟨rfl, rfl⟩
    · have hstops : Stops (· = ';') (x ++ gap').reverse := by
        rw [List.reverse_append]
        refine Stops.append ?_ hsemicolon
        intro c hc
        have hblank := hgap' c (List.mem_reverse.mp (List.mem_of_mem_head? hc))
        rw [decide_eq_false_iff_not]
        rintro rfl
        simp [isBlank] at hblank
      rw [htrim, dropEndWhile_append hstops]
      exact (follows_trim hx hne hgap' _).imp hapart

/-! ## Modifiers in front -/

theorem isWord_of_mem_modifiers {word : Text} (hword : word ∈ modifiers) :
    IsWord word := by
  have hall : ∀ w ∈ modifiers, IsWord w := by decide
  exact hall word hword

theorem bracket_notMem_of_mem_modifiers {word : Text}
    (hword : word ∈ modifiers) : '(' ∉ word := by
  have hall : ∀ w ∈ modifiers, '(' ∉ w := by decide
  exact hall word hword

theorem stops_semicolon_of_mem_modifiers {word : Text}
    (hword : word ∈ modifiers) : Stops (· = ';') word.reverse := by
  have hall : ∀ w ∈ modifiers, ';' ∉ w := by decide
  intro c hc
  have hmem := List.mem_reverse.mp (List.mem_of_mem_head? hc)
  rw [decide_eq_false_iff_not]
  rintro rfl
  exact hall word hword hmem

theorem ofHead?_follows_modifier {word h t : Text} (hword : word ∈ modifiers)
    (hh : Stops isBlank h) (hfollows : Follows word True h t)
    (isField : Bool) :
    ofHead? isField t = (ofHead? isField h).map (withModifier word) := by
  have hisWord := isWord_of_mem_modifiers hword
  have hcontains : modifiers.contains word = true := by simpa using hword
  rcases hfollows with ⟨hempty, ht⟩ | ⟨_, gap, hgap, hapart, rfl⟩
  · have hwords := words_of_isWord hisWord
    have hleading : leading word = [word] := by
      unfold leading
      rw [hwords, List.takeWhile_cons_of_pos hcontains]
      rfl
    have hdrop : Text.dropWords 1 word = [] := by
      have h := dropWords_word_append hisWord
        (stops_nil fun c => !isBlank c) 0
      rwa [List.append_nil] at h
    rw [ht, hempty, ofHead?_nil]
    unfold ofHead?
    rw [hleading, List.length_singleton, hdrop]
    rfl
  · have hstops : Stops (fun c => !isBlank c) (gap ++ h) := by
      cases gap with
      | nil => exact absurd rfl (hapart trivial)
      | cons b gap => simpa using hgap b (by simp)
    have hleading : leading (word ++ gap ++ h) = word :: leading h := by
      unfold leading
      rw [List.append_assoc, words_word_append hisWord hstops,
        words_gap_append hgap, List.takeWhile_cons_of_pos hcontains]
    have hdrop : Text.dropWords (leading h).length.succ (word ++ gap ++ h) =
        Text.dropWords (leading h).length h := by
      rw [List.append_assoc, Nat.succ_eq_add_one,
        dropWords_word_append hisWord hstops, trimStart_gap_append hgap,
        trimStart_of_stops hh]
    unfold ofHead?
    rw [hleading, List.length_cons, hdrop, ← ofRest?_withModifier]
    generalize "static".toList = static
    congr 1
    simp [eq_comm]

/-- A modifier in front of any line, well-formed or not, only adds its mark. -/
theorem parse?_modifier {word gap : Text} (hword : word ∈ modifiers)
    (hne : gap ≠ []) (hgap : IsGap gap) (line : Text) :
    parse? (word ++ gap ++ line) = (parse? line).map (withModifier word) := by
  have hisWord := isWord_of_mem_modifiers hword
  have hbracket := bracket_notMem_of_mem_modifiers hword
  have hfollows := follows_head hisWord.isTrimmed hisWord.1 hbracket
    (stops_semicolon_of_mem_modifiers hword) hgap line
  have hcontains :
      (word ++ gap ++ line).contains '(' = line.contains '(' := by
    have hgapBracket := bracket_notMem_gap hgap
    simp [hbracket, hgapBracket]
  rw [parse?_eq_ofHead?, parse?_eq_ofHead?, hcontains]
  exact ofHead?_follows_modifier hword (isTrimmed_head line).start
    (hfollows.imp fun _ => hne) _

theorem parse?_surround {a b : Text} (ha : IsGap a) (hb : IsGap b)
    (line : Text) : parse? (a ++ line ++ b) = parse? line := by
  have hcontains : (a ++ line ++ b).contains '(' = line.contains '(' := by
    simp [bracket_notMem_gap ha, bracket_notMem_gap hb]
  rw [parse?_eq_ofHead?, parse?_eq_ofHead?, hcontains,
    head_surround ha hb]

/-! ## Plain starts -/

/-- The text does not go on with the modifiers or the type parameters in front
of it. -/
@[mk_iff]
structure StartsPlain (t : Text) : Prop where
  notModifier : t.takeWhile (fun c => !isBlank c) ∉ modifiers
  notBracket : t.head? ≠ some '<'

instance : DecidablePred StartsPlain := fun t =>
  decidable_of_iff _ (startsPlain_iff t).symm

theorem leading_eq {t : Text} (hne : t ≠ []) (ht : Stops isBlank t) :
    leading t =
      if modifiers.contains (t.takeWhile fun c => !isBlank c) then
        (t.takeWhile fun c => !isBlank c) ::
          leading (trimStart (t.dropWhile fun c => !isBlank c))
      else [] := by
  unfold leading
  rw [words_eq_cons hne ht, List.takeWhile_cons, words_trimStart]

theorem leading_eq_nil {t : Text} (ht : Stops isBlank t)
    (hword : t.takeWhile (fun c => !isBlank c) ∉ modifiers) :
    leading t = [] := by
  cases t with
  | nil => rfl
  | cons c t =>
      rw [leading_eq (List.cons_ne_nil c t) ht, if_neg (by simpa using hword)]

theorem ofHead?_of_startsPlain {h : Text} (hh : Stops isBlank h)
    (hplain : StartsPlain h) (isField : Bool) :
    ofHead? isField h = ofRest? isField false h := by
  have hstrip : stripTypeParameters h = h := by
    unfold stripTypeParameters
    split
    next rest => exact absurd rfl hplain.notBracket
    next => rfl
  unfold ofHead?
  rw [leading_eq_nil hh hplain.notModifier]
  change ofRest? isField false (stripTypeParameters h) = _
  rw [hstrip]

/-! ## Type parameters in front -/

/-- A list in angle brackets that is closed by its last character only. -/
structure IsTypeParameters (list : Text) : Prop where
  opens : list.head? = some '<'
  balanced : list.count '<' = list.count '>'
  open_before_end : ∀ start, start <+: list → start ≠ [] → start ≠ list →
    start.count '>' < start.count '<'

instance : DecidablePred IsTypeParameters := fun list =>
  decidable_of_iff
    (list.head? = some '<' ∧ list.count '<' = list.count '>' ∧
      ∀ start ∈ list.inits, start ≠ [] → start ≠ list →
        start.count '>' < start.count '<')
    ⟨fun ⟨hopens, hbalanced, hopen⟩ => ⟨hopens, hbalanced,
        fun start hstart => hopen start ((List.mem_inits start list).mpr hstart)⟩,
      fun hlist => ⟨hlist.opens, hlist.balanced, fun start hstart =>
        hlist.open_before_end start ((List.mem_inits start list).mp hstart)⟩⟩

/-- The induction is on the list; `depth` counts the brackets that are open in
front of it. -/
theorem afterTypeParameters?_append (list rest : Text) (depth : ℕ)
    (hdepth : 0 < depth)
    (hbalanced : depth + list.count '<' = list.count '>')
    (hopen : ∀ start, start <+: list → start ≠ list →
      start.count '>' < depth + start.count '<') :
    afterTypeParameters? depth (list ++ rest) = some (trimStart rest) := by
  induction list generalizing depth with
  | nil =>
      simp only [List.count_nil] at hbalanced
      omega
  | cons c list ih =>
      have hstep : ∀ start, start <+: list → start ≠ list →
          (c :: start).count '>' < depth + (c :: start).count '<' := by
        intro start hstart hne
        apply hopen (c :: start)
        · exact List.cons_prefix_cons.mpr ⟨rfl, hstart⟩
        · simpa using hne
      rw [List.cons_append]
      by_cases hopening : c = '<'
      · subst c
        rw [afterTypeParameters?]
        apply ih (depth + 1) (by omega)
        · simp at hbalanced
          omega
        · intro start hstart hne
          have h := hstep start hstart hne
          simp at h
          omega
      · by_cases hclosing : c = '>'
        · subst c
          rw [afterTypeParameters?]
          by_cases hone : depth ≤ 1
          · have hlast : list = [] := by
              by_contra hne
              have h := hstep [] (List.nil_prefix) (Ne.symm hne)
              simp at h
              omega
            rw [if_pos hone, hlast, List.nil_append]
          · rw [if_neg hone]
            apply ih (depth - 1) (by omega)
            · simp at hbalanced
              omega
            · intro start hstart hne
              have h := hstep start hstart hne
              simp at h
              omega
        · rw [afterTypeParameters?.eq_4 depth c _ hopening hclosing]
          apply ih depth hdepth
          · simpa [hopening, hclosing] using hbalanced
          · intro start hstart hne
            simpa [hopening, hclosing] using hstep start hstart hne

theorem IsTypeParameters.exists_cons {list : Text}
    (hlist : IsTypeParameters list) : ∃ tail, list = '<' :: tail := by
  have hopens := hlist.opens
  cases list with
  | nil => simp at hopens
  | cons c tail =>
      have hc : c = '<' := by simpa using hopens
      exact ⟨tail, by rw [hc]⟩

theorem stripTypeParameters_append {list : Text}
    (hlist : IsTypeParameters list) (rest : Text) :
    stripTypeParameters (list ++ rest) = trimStart rest := by
  obtain ⟨tail, rfl⟩ := hlist.exists_cons
  have hbalanced := hlist.balanced
  have hafter : afterTypeParameters? 1 (tail ++ rest) =
      some (trimStart rest) := by
    apply afterTypeParameters?_append tail rest 1 (by omega)
    · simp at hbalanced
      omega
    · intro start hstart hne
      have h := hlist.open_before_end ('<' :: start)
        (List.cons_prefix_cons.mpr ⟨rfl, hstart⟩) (by simp)
        (by simpa using hne)
      simp at h
      omega
  rw [List.cons_append, stripTypeParameters, hafter]
  rfl

theorem IsTypeParameters.getLast?_eq {list : Text}
    (hlist : IsTypeParameters list) : list.getLast? = some '>' := by
  obtain ⟨tail, rfl⟩ := hlist.exists_cons
  have hbalanced := hlist.balanced
  rcases List.eq_nil_or_concat tail with rfl | ⟨start, c, rfl⟩
  · simp at hbalanced
  · have h := hlist.open_before_end ('<' :: start) ⟨[c], by simp⟩
      (by simp) (by simp)
    by_cases hclosing : c = '>'
    · rw [hclosing, List.concat_eq_append, ← List.cons_append,
        List.getLast?_concat]
    · simp [List.count_singleton, hclosing] at hbalanced h
      omega

theorem IsTypeParameters.stops_reverse {list : Text}
    (hlist : IsTypeParameters list) {p : Char → Bool} (hp : p '>' = false) :
    Stops p list.reverse := by
  intro c hc
  rw [List.head?_reverse, hlist.getLast?_eq] at hc
  rw [← Option.some.inj hc]
  exact hp

theorem IsTypeParameters.isTrimmed {list : Text}
    (hlist : IsTypeParameters list) : IsTrimmed list := by
  refine ⟨?_, hlist.stops_reverse rfl⟩
  intro c hc
  rw [hlist.opens] at hc
  rw [← Option.some.inj hc]
  rfl

theorem ofHead?_follows_typeParameters {list h t : Text}
    (hlist : IsTypeParameters list) (hh : Stops isBlank h)
    (hplain : StartsPlain h) (hfollows : Follows list False h t)
    (isField : Bool) : ofHead? isField t = ofHead? isField h := by
  have hstrip : stripTypeParameters t = h := by
    rcases hfollows with ⟨hempty, ht⟩ | ⟨_, gap, hgap, _, ht⟩
    · have happend := stripTypeParameters_append hlist []
      rw [List.append_nil] at happend
      rw [ht, happend, hempty]
      rfl
    · rw [ht, List.append_assoc, stripTypeParameters_append hlist,
        trimStart_gap_append hgap, trimStart_of_stops hh]
  obtain ⟨tail, hlistTail⟩ := hlist.exists_cons
  have hstart : ∃ rest, t = '<' :: rest := by
    rcases hfollows with ⟨_, ht⟩ | ⟨_, gap, _, _, ht⟩
    · exact ⟨tail, by rw [ht, hlistTail]⟩
    · exact ⟨tail ++ gap ++ h, by simp [ht, hlistTail]⟩
  obtain ⟨rest, ht⟩ := hstart
  have hblank : isBlank '<' = false := rfl
  have hword : t.takeWhile (fun c => !isBlank c) ∉ modifiers := by
    have hall : ∀ w ∈ modifiers, w.head? ≠ some '<' := by decide
    intro hmem
    apply hall _ hmem
    simp [ht, hblank]
  have hstops : Stops isBlank t := by simp [ht, hblank]
  rw [ofHead?_of_startsPlain hh hplain]
  unfold ofHead?
  rw [leading_eq_nil hstops hword]
  change ofRest? isField false (stripTypeParameters t) = _
  rw [hstrip]

/-- Type parameters in front of a line that starts plain are transparent. -/
theorem parse?_typeParameters {list gap : Text} (hlist : IsTypeParameters list)
    (hbracket : '(' ∉ list) (hgap : IsGap gap) {line : Text}
    (hplain : StartsPlain (head line)) :
    parse? (list ++ gap ++ line) = parse? line := by
  obtain ⟨tail, hlistTail⟩ := hlist.exists_cons
  have hfollows := follows_head hlist.isTrimmed (by simp [hlistTail]) hbracket
    (hlist.stops_reverse rfl) hgap line
  have hcontains :
      (list ++ gap ++ line).contains '(' = line.contains '(' := by
    have hgapBracket := bracket_notMem_gap hgap
    simp [hbracket, hgapBracket]
  rw [parse?_eq_ofHead?, parse?_eq_ofHead?, hcontains]
  exact ofHead?_follows_typeParameters hlist (isTrimmed_head line).start
    hplain (hfollows.imp False.elim) _

/-! ## Names behind a type -/

theorem ofRest?_named {type gap name : Text} (hne : gap ≠ [])
    (hgap : IsGap gap) (hname : IsWord name) (isField isStatic : Bool) :
    ofRest? isField isStatic (type ++ gap ++ name) =
      some ⟨name, false, isStatic, isField⟩ := by
  have hblank : (type ++ gap ++ name).any isBlank = true := by
    obtain ⟨c, rest, hcons⟩ := List.exists_cons_of_ne_nil hne
    have hc := hgap c (by simp [hcons])
    simp [hcons, hc]
  have hnonempty : (type ++ gap ++ name).isEmpty = false := by
    simp [hne]
  unfold ofRest?
  rw [hnonempty, hblank, getLast?_words_append type hne hgap hname]
  simp

theorem ofRest?_constructor {name : Text} (hname : IsWord name)
    (isStatic : Bool) :
    ofRest? false isStatic name = some ⟨name, true, isStatic, false⟩ := by
  have hblank : name.any isBlank = false := by
    simpa using hname.2
  have hnonempty : name.isEmpty = false := by simp [hname.1]
  unfold ofRest?
  rw [hnonempty, hblank]
  rfl

end Declaration
end Listing
end Stubgen
