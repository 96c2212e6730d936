import Stubgen.Python.Writer
import Stubgen.Regex.Escape
import Stubgen.Proofs.Text.Layout
import Mathlib.Tactic

/-!
# String literals

A string literal of Python between three quotes ends at the next three quotes in
a row that no backslash hides, and its value is the text in between with every
line end made a line feed and every escape replaced.  An escape is never shorter
than what it stands for, so a text that ends at its own quotes stands for itself
if and only if nothing in it is replaced.
-/

namespace Stubgen.Python

open Text Regex

/-! ## Escapes -/

/-- What the character behind a backslash announces. -/
inductive Escape
  /-- The line goes on: nothing is meant. -/
  | continuation
  | character (code : ℕ)
  /-- One to three octal digits, of which this is the first. -/
  | octal
  /-- A number of hexadecimal digits. -/
  | hexadecimal (count : ℕ)
  /-- The name of a character in braces. -/
  | named
  deriving DecidableEq

def isOctalDigit (c : Char) : Bool := '0' ≤ c && c ≤ '7'

namespace Escape

/-- The characters that announce an escape. -/
def announcements : List (Char × Escape) :=
  [('\n', continuation), ('\\', character 92), ('\'', character 39),
    ('"', character 34), ('a', character 7), ('b', character 8),
    ('f', character 12), ('n', character 10), ('r', character 13),
    ('t', character 9), ('v', character 11), ('x', hexadecimal 2),
    ('u', hexadecimal 4), ('U', hexadecimal 8), ('N', named)] ++
    "01234567".toList.map (·, octal)

/-- A backslash in front of any other character is no escape. -/
def announcedBy? (c : Char) : Option Escape := announcements.lookup c

end Escape

/-- The number that the digits at the start of a text spell, which has to be the
code of a character. -/
def hexCode? (count : ℕ) (t : Text) : Option ℕ :=
  let digits := t.take count
  let code := digits.foldl (fun n c => 16 * n + hexDigitValue c) 0
  if digits.length = count ∧ digits.all isHexDigit ∧ code ≤ 0x10FFFF then some code
  else none

def octalCode (digits : Text) : ℕ :=
  digits.foldl (fun n c => 8 * n + (c.toNat - '0'.toNat)) 0

/-- The name between two braces at the start of a text. -/
def nameInBraces? : Text → Option Text
  | '\x7b' :: rest =>
    if rest.contains '\x7d' then some (rest.takeWhile (· ≠ '\x7d')) else none
  | _ => none

section Reader

-- The table of the names of characters.
variable (charNamed? : Text → Option ℕ)

/-- The codes that a backslash in front of a text stands for, and the number of
characters of the text that belong to it.  A backslash that is no escape stands
for itself. -/
def escape? : Text → Option (List ℕ × ℕ)
  | [] => none
  | c :: rest =>
    match Escape.announcedBy? c with
    | none => some (['\\'.toNat], 0)
    | some .continuation => some ([], 1)
    | some (.character code) => some ([code], 1)
    | some .octal =>
      let digits := ((c :: rest).take 3).takeWhile isOctalDigit
      some ([octalCode digits], digits.length)
    | some (.hexadecimal count) =>
      (hexCode? count rest).map fun code => ([code], count + 1)
    | some .named =>
      (nameInBraces? rest).bind fun name =>
        (charNamed? name).map fun code => ([code], name.length + 3)

/-- The codes that a text stands for behind its first `skip` characters. -/
def unescape : (skip : ℕ) → Text → Option (List ℕ)
  | _, [] => some []
  | skip + 1, _ :: rest => unescape skip rest
  | 0, c :: rest =>
    if c = '\\' then do
      let (codes, skip) ← escape? charNamed? rest
      return codes ++ (← unescape skip rest)
    else (unescape 0 rest).map (c.toNat :: ·)

/-- The text with a line feed for every line end. -/
def unifyLineEnds : Text → Text
  | [] => []
  | '\r' :: '\n' :: rest => '\n' :: unifyLineEnds rest
  | c :: rest => (if c = '\r' then '\n' else c) :: unifyLineEnds rest

/-- The text up to three quotes in a row, and what follows them; `hidden` says
that a backslash hides the first character. -/
def splitAtQuotes? : (hidden : Bool) → Text → Option (Text × Text)
  | _, [] => none
  | true, c :: rest =>
    (splitAtQuotes? false rest).map fun (body, after) => (c :: body, after)
  | false, c :: rest =>
    if quotes.isPrefixOf (c :: rest) then some ([], rest.drop 2)
    else
      (splitAtQuotes? (c = '\\') rest).map fun (body, after) =>
        (c :: body, after)

/-- The value of what stands between the quotes, by the codes of its characters.
No source holds the character zero. -/
def literalValue? (body : Text) : Option (List ℕ) :=
  if body.contains '\x00' then none
  else unescape charNamed? 0 (unifyLineEnds body)

/-- The value of the literal at the start of a text, and the text behind its
closing quotes. -/
def readLiteral? (t : Text) : Option (List ℕ × Text) :=
  ((afterLabel? quotes t).bind (splitAtQuotes? false)).bind
    fun split => (literalValue? charNamed? split.1).map (·, split.2)

end Reader

/-! ## Texts that stand for themselves -/

/-- Nothing in the text is read as anything but itself. -/
@[mk_iff]
structure IsVerbatim (t : Text) : Prop where
  zero : '\x00' ∉ t
  lineEnds : '\r' ∉ t
  quotes : ¬ quotes <:+: t
  escapes : ∀ c, (Escape.announcedBy? c).isSome = true → ¬ ['\\', c] <:+: t

/-- A character that may hide or end what follows it. -/
def isDelicate (c : Char) : Bool := c = '"' || c = '\\'

theorem Escape.forall_isSome_announcedBy?_iff {p : Char → Prop} :
    (∀ c, (announcedBy? c).isSome = true → p c) ↔
      ∀ x ∈ announcements, p x.1 := by
  have hannounced : ∀ c, (announcedBy? c).isSome = true ↔
      ∃ x ∈ announcements, x.1 = c := by
    intro c
    rw [announcedBy?, ← Option.ne_none_iff_isSome, Ne, List.lookup_eq_none_iff]
    simp only [bne_iff_ne, not_forall, ne_eq, not_not, exists_prop,
      @eq_comm Char c]
  constructor
  · intro h x hx
    exact h x.1 ((hannounced x.1).mpr ⟨x, hx, rfl⟩)
  · intro h c hc
    obtain ⟨x, hx, rfl⟩ := (hannounced c).mp hc
    exact h x hx

instance : DecidablePred IsVerbatim := fun t =>
  decidable_of_iff
    ('\x00' ∉ t ∧ '\r' ∉ t ∧ ¬ quotes <:+: t ∧
      ∀ x ∈ Escape.announcements, ¬ ['\\', x.1] <:+: t)
    (by rw [isVerbatim_iff, Escape.forall_isSome_announcedBy?_iff])

/-- No character of the text can have a part in anything that is replaced. -/
def IsPlain (t : Text) : Prop :=
  ∀ c ∈ t, c ≠ '\x00' ∧ c ≠ '\r' ∧ isDelicate c = false

instance : DecidablePred IsPlain := fun t =>
  List.decidableBAll _ t

theorem IsPlain.isVerbatim {t : Text} (ht : IsPlain t) : IsVerbatim t where
  zero := fun hzero => (ht _ hzero).1 rfl
  lineEnds := fun hreturn => (ht _ hreturn).2.1 rfl
  quotes := fun hquotes =>
    absurd (ht '"' (hquotes.subset (by decide))).2.2 (by decide)
  escapes := fun _ _ hescape =>
    absurd (ht '\\' (hescape.subset (by simp))).2.2 (by decide)

theorem IsPlain.stops_reverse {t : Text} (ht : IsPlain t) :
    Stops isDelicate t.reverse := by
  intro c hc
  exact (ht c (List.mem_reverse.mp (List.mem_of_mem_head? hc))).2.2

/-- A text that ends with no delicate character does not reach into what stands
behind it. -/
theorem isVerbatim_append_iff {s t : Text} (hs : Stops isDelicate s.reverse) :
    IsVerbatim (s ++ t) ↔ IsVerbatim s ∧ IsVerbatim t := by
  have hquotes : quotes <:+: s ++ t ↔ quotes <:+: s ∨ quotes <:+: t :=
    infix_append_iff (by simp [Python.quotes, isDelicate]) hs
  have hescapes : ∀ c, ['\\', c] <:+: s ++ t ↔
      ['\\', c] <:+: s ∨ ['\\', c] <:+: t :=
    fun c => infix_append_iff (by simp [isDelicate]) hs
  simp only [isVerbatim_iff, List.mem_append, hquotes, hescapes, not_or,
    imp_and, forall_and]
  tauto

theorem isVerbatim_plain_append_iff {s t : Text} (hs : IsPlain s) :
    IsVerbatim (s ++ t) ↔ IsVerbatim t := by
  rw [isVerbatim_append_iff hs.stops_reverse, and_iff_right hs.isVerbatim]

/-! ## The end of a literal -/

theorem not_infix_of_cons {piece t : Text} {c : Char}
    (h : ¬ piece <:+: c :: t) : ¬ piece <:+: t :=
  fun hpart => h (hpart.trans (List.suffix_cons c t).isInfix)

theorem splitAtQuotes?_eq_append {hidden : Bool} {t body after : Text}
    (hsplit : splitAtQuotes? hidden t = some (body, after)) :
    t = body ++ (quotes ++ after) := by
  induction t generalizing hidden body with
  | nil => cases hidden <;> cases hsplit
  | cons c rest ih =>
      cases hidden with
      | true =>
          obtain ⟨⟨inner, _⟩, hinner, heq⟩ := Option.map_eq_some_iff.mp hsplit
          cases heq
          rw [ih hinner, List.cons_append]
      | false =>
          rw [splitAtQuotes?] at hsplit
          split at hsplit
          next hquotes =>
            cases hsplit
            obtain ⟨tail, htail⟩ := List.isPrefixOf_iff_prefix.mp hquotes
            cases htail
            rfl
          next =>
            obtain ⟨⟨inner, _⟩, hinner, heq⟩ :=
              Option.map_eq_some_iff.mp hsplit
            cases heq
            rw [ih hinner, List.cons_append]

/-- The quotes behind a text are not read together with its end. -/
theorem not_quotes_prefix_append {body : Text} (hne : body ≠ [])
    (hquotes : ¬ quotes <:+: body) (hlast : Stops isDelicate body.reverse)
    (behind : Text) : ¬ quotes <+: body ++ behind := by
  rintro ⟨tail, htail⟩
  match body, hne with
  | [c], _ =>
      cases htail
      exact absurd hlast (by decide)
  | [c, d], _ =>
      cases htail
      exact absurd hlast (by decide)
  | c :: d :: e :: rest, _ =>
      cases htail
      exact hquotes ⟨[], rest, rfl⟩

/-- A text without three quotes in a row is read up to the quotes behind it. -/
theorem splitAtQuotes?_append {body : Text} (hquotes : ¬ quotes <:+: body)
    (hlast : Stops isDelicate body.reverse) (after : Text) {hidden : Bool}
    (hhidden : hidden = true → body ≠ []) :
    splitAtQuotes? hidden (body ++ (quotes ++ after)) = some (body, after) := by
  induction body generalizing hidden with
  | nil =>
      cases hidden with
      | true => exact absurd rfl (hhidden rfl)
      | false => rfl
  | cons c rest ih =>
      have ih := @ih (not_infix_of_cons hquotes) (stops_reverse_of_cons hlast)
      cases hidden with
      | true =>
          rw [List.cons_append, splitAtQuotes?, ih fun h => Bool.noConfusion h]
          rfl
      | false =>
          have hopen := not_quotes_prefix_append (List.cons_ne_nil c rest)
            hquotes hlast (quotes ++ after)
          rw [← List.isPrefixOf_iff_prefix, List.cons_append] at hopen
          have hnext : decide (c = '\\') = true → rest ≠ [] := by
            rintro hc rfl
            rw [of_decide_eq_true hc] at hlast
            exact absurd hlast (by decide)
          rw [List.cons_append, splitAtQuotes?, if_neg hopen, ih hnext]
          rfl

/-- Where no quote is hidden, the text up to three quotes holds no three quotes. -/
theorem not_quotes_infix_of_splitAtQuotes? {hidden : Bool}
    {t body after : Text} (hsplit : splitAtQuotes? hidden t = some (body, after))
    (hplain : ¬ ['\\', '"'] <:+: body)
    (hfirst : hidden = true → body.head? ≠ some '"') : ¬ quotes <:+: body := by
  induction t generalizing hidden body with
  | nil => cases hidden <;> cases hsplit
  | cons c rest ih =>
      cases hidden with
      | true =>
          obtain ⟨⟨inner, _⟩, hinner, heq⟩ := Option.map_eq_some_iff.mp hsplit
          cases heq
          rw [List.infix_cons_iff, not_or]
          refine ⟨?_, ih hinner (not_infix_of_cons hplain)
            fun h => Bool.noConfusion h⟩
          rintro ⟨tail, htail⟩
          cases htail
          exact hfirst rfl rfl
      | false =>
          rw [splitAtQuotes?] at hsplit
          split at hsplit
          next =>
            cases hsplit
            decide
          next hopen =>
            obtain ⟨⟨inner, _⟩, hinner, heq⟩ :=
              Option.map_eq_some_iff.mp hsplit
            cases heq
            rw [List.infix_cons_iff, not_or]
            refine ⟨?_, ih hinner (not_infix_of_cons hplain) ?_⟩
            · intro hprefix
              apply hopen
              rw [List.isPrefixOf_iff_prefix, splitAtQuotes?_eq_append hinner]
              exact hprefix.trans (List.prefix_append _ _)
            · intro hc hhead
              obtain ⟨tail, rfl⟩ := List.head?_eq_some_iff.mp hhead
              rw [of_decide_eq_true hc] at hplain
              exact hplain ⟨[], tail, rfl⟩

/-! ## The value of a literal -/

theorem length_unifyLineEnds_le (t : Text) :
    (unifyLineEnds t).length ≤ t.length := by
  induction t using unifyLineEnds.induct with
  | case1 => exact le_rfl
  | case2 rest ih =>
      simp only [unifyLineEnds, List.length_cons]
      omega
  | case3 c rest hreturn ih =>
      rw [unifyLineEnds]
      · simpa using ih
      · exact hreturn

theorem return_notMem_unifyLineEnds (t : Text) : '\r' ∉ unifyLineEnds t := by
  induction t using unifyLineEnds.induct with
  | case1 => simp [unifyLineEnds]
  | case2 rest ih => simpa [unifyLineEnds] using ih
  | case3 c rest hreturn ih =>
      rw [unifyLineEnds]
      · by_cases hc : c = '\r'
        · simpa [hc] using ih
        · simpa [hc, eq_comm] using ih
      · exact hreturn

theorem unifyLineEnds_eq_self {t : Text} (ht : '\r' ∉ t) :
    unifyLineEnds t = t := by
  induction t using unifyLineEnds.induct with
  | case1 => rfl
  | case2 rest ih => simp at ht
  | case3 c rest hreturn ih =>
      obtain ⟨hc, hrest⟩ : c ≠ '\r' ∧ '\r' ∉ rest := by
        simpa [eq_comm] using ht
      rw [unifyLineEnds, if_neg hc, ih hrest]
      exact hreturn

namespace Escape

theorem isOctalDigit_of_announcedBy? {c : Char}
    (hc : announcedBy? c = some octal) : isOctalDigit c = true := by
  have hall : ∀ x ∈ announcements, x.2 = octal → isOctalDigit x.1 = true := by
    decide
  obtain ⟨before, behind, heq, _⟩ := List.lookup_eq_some_iff.mp hc
  exact hall (c, octal) (by simp [heq]) rfl

end Escape

section Reader

variable {charNamed? : Text → Option ℕ}

theorem escape?_of_announcedBy?_eq_none {c : Char}
    (hc : Escape.announcedBy? c = none) (rest : Text) :
    escape? charNamed? (c :: rest) = some (['\\'.toNat], 0) := by
  rw [escape?, hc]

/-- An escape stands for one character at most, and takes more than the
backslash. -/
theorem length_codes_of_escape? {c : Char} {e : Escape}
    (hc : Escape.announcedBy? c = some e) {rest : Text} {codes : List ℕ}
    {count : ℕ} (hescape : escape? charNamed? (c :: rest) = some (codes, count)) :
    codes.length ≤ 1 ∧ 1 ≤ count := by
  rw [escape?, hc] at hescape
  cases e with
  | continuation =>
      cases hescape
      simp
  | character code =>
      cases hescape
      simp
  | octal =>
      have hdigit := Escape.isOctalDigit_of_announcedBy? hc
      cases hescape
      simp [hdigit]
  | hexadecimal digits =>
      obtain ⟨code, _, heq⟩ := Option.map_eq_some_iff.mp hescape
      cases heq
      simp
  | named =>
      obtain ⟨name, _, hname⟩ := Option.bind_eq_some_iff.mp hescape
      obtain ⟨code, _, heq⟩ := Option.map_eq_some_iff.mp hname
      cases heq
      simp

/-- What is read behind a backslash: the backslash itself, or an escape. -/
theorem exists_of_unescape_backslash {t : Text} {codes : List ℕ}
    (hcodes : unescape charNamed? 0 ('\\' :: t) = some codes) :
    ∃ c rest, t = c :: rest ∧
      ((Escape.announcedBy? c = none ∧ ∃ more,
          unescape charNamed? 0 t = some more ∧
            codes = '\\'.toNat :: more) ∨
        (Escape.announcedBy? c).isSome = true ∧ ∃ first count more,
          unescape charNamed? count t = some more ∧ codes = first ++ more ∧
            first.length ≤ 1 ∧ 1 ≤ count) := by
  rw [unescape, if_pos rfl] at hcodes
  obtain ⟨⟨first, count⟩, hescape, hcodes⟩ := Option.bind_eq_some_iff.mp hcodes
  obtain ⟨more, hmore, heq⟩ := Option.bind_eq_some_iff.mp hcodes
  cases heq
  cases t with
  | nil => cases hescape
  | cons c rest =>
      refine ⟨c, rest, rfl, ?_⟩
      cases hc : Escape.announcedBy? c with
      | none =>
          rw [escape?_of_announcedBy?_eq_none hc] at hescape
          cases hescape
          exact Or.inl ⟨rfl, more, hmore, rfl⟩
      | some e =>
          exact Or.inr ⟨rfl, first, count, more, hmore, rfl,
            length_codes_of_escape? hc hescape⟩

theorem length_unescape_le {skip : ℕ} {t : Text} {codes : List ℕ}
    (hcodes : unescape charNamed? skip t = some codes) :
    codes.length ≤ t.length - skip := by
  induction t generalizing skip codes with
  | nil =>
      cases skip <;> cases hcodes <;> simp
  | cons c rest ih =>
      cases skip with
      | succ skip =>
          have hrest := ih hcodes
          rw [List.length_cons]
          omega
      | zero =>
          by_cases hc : c = '\\'
          · subst hc
            obtain ⟨d, others, rfl, ⟨_, more, hmore, rfl⟩ |
              ⟨_, first, count, more, hmore, rfl, hfirst, hcount⟩⟩ :=
              exists_of_unescape_backslash hcodes
            · have hrest := ih hmore
              simp only [List.length_cons] at hrest ⊢
              omega
            · have hrest := ih hmore
              simp only [List.length_cons, List.length_append] at hrest ⊢
              omega
          · rw [unescape, if_neg hc] at hcodes
            obtain ⟨more, hmore, rfl⟩ := Option.map_eq_some_iff.mp hcodes
            have hrest := ih hmore
            simp only [List.length_cons] at hrest ⊢
            omega

/-- A text whose value is as long as the text has no escapes. -/
theorem eq_map_of_length_unescape {t : Text} {codes : List ℕ}
    (hcodes : unescape charNamed? 0 t = some codes)
    (hlength : codes.length = t.length) :
    codes = t.map Char.toNat ∧
      ∀ c, (Escape.announcedBy? c).isSome = true → ¬ ['\\', c] <:+: t := by
  induction t generalizing codes with
  | nil =>
      cases hcodes
      exact ⟨rfl, fun c _ => by simp⟩
  | cons c rest ih =>
      by_cases hc : c = '\\'
      · subst hc
        obtain ⟨d, others, rfl, ⟨hd, more, hmore, rfl⟩ |
          ⟨_, first, count, more, hmore, rfl, hfirst, hcount⟩⟩ :=
          exists_of_unescape_backslash hcodes
        · obtain ⟨rfl, hescapes⟩ := ih hmore (by simpa using hlength)
          refine ⟨rfl, fun e he => ?_⟩
          rw [List.infix_cons_iff, not_or]
          refine ⟨?_, hescapes e he⟩
          rintro ⟨tail, htail⟩
          cases htail
          rw [hd] at he
          cases he
        · have hrest := length_unescape_le hmore
          simp only [List.length_cons, List.length_append] at hrest hlength
          omega
      · rw [unescape, if_neg hc] at hcodes
        obtain ⟨more, hmore, rfl⟩ := Option.map_eq_some_iff.mp hcodes
        obtain ⟨rfl, hescapes⟩ := ih hmore (by simpa using hlength)
        refine ⟨rfl, fun e he => ?_⟩
        rw [List.infix_cons_iff, not_or]
        refine ⟨?_, hescapes e he⟩
        rintro ⟨tail, htail⟩
        cases htail
        exact hc rfl

theorem unescape_eq_map {t : Text}
    (hescapes : ∀ c, (Escape.announcedBy? c).isSome = true →
      ¬ ['\\', c] <:+: t)
    (hlast : Stops isDelicate t.reverse) :
    unescape charNamed? 0 t = some (t.map Char.toNat) := by
  induction t with
  | nil => rfl
  | cons c rest ih =>
      have hrest := ih (fun d hd => not_infix_of_cons (hescapes d hd))
        (stops_reverse_of_cons hlast)
      by_cases hc : c = '\\'
      · subst hc
        cases rest with
        | nil => exact absurd hlast (by decide)
        | cons d others =>
            have hd : Escape.announcedBy? d = none := by
              rw [← Option.not_isSome_iff_eq_none]
              exact fun hd => hescapes d hd ⟨[], others, rfl⟩
            rw [unescape, if_pos rfl, escape?_of_announcedBy?_eq_none hd]
            change (unescape charNamed? 0 (d :: others)).bind _ = _
            rw [hrest]
            rfl
      · rw [unescape, if_neg hc, hrest]
        rfl

/-! ## Literals that stand for their text -/

theorem readLiteral?_quotes_append_eq_some_iff {t after : Text}
    {codes : List ℕ} :
    readLiteral? charNamed? (quotes ++ t) = some (codes, after) ↔
      ∃ body, splitAtQuotes? false t = some (body, after) ∧
        literalValue? charNamed? body = some codes := by
  rw [readLiteral?, afterLabel?_eq_some_iff.mpr rfl, Option.bind_some,
    Option.bind_eq_some_iff]
  constructor
  · rintro ⟨⟨body, _⟩, hsplit, hread⟩
    obtain ⟨_, hvalue, heq⟩ := Option.map_eq_some_iff.mp hread
    cases heq
    exact ⟨body, hsplit, hvalue⟩
  · rintro ⟨body, hsplit, hvalue⟩
    refine ⟨(body, after), hsplit, ?_⟩
    rw [hvalue]
    rfl

theorem literalValue?_eq_map_iff {body : Text}
    (hlast : Stops isDelicate body.reverse) :
    literalValue? charNamed? body = some (body.map Char.toNat) ↔
      '\x00' ∉ body ∧ '\r' ∉ body ∧
        ∀ c, (Escape.announcedBy? c).isSome = true → ¬ ['\\', c] <:+: body := by
  unfold literalValue?
  constructor
  · intro hvalue
    by_cases hzero : '\x00' ∈ body
    · rw [if_pos (by simpa using hzero)] at hvalue
      cases hvalue
    · rw [if_neg (by simpa using hzero)] at hvalue
      -- Neither the line ends nor the escapes can have shortened the text.
      have hle := length_unescape_le hvalue
      have hunified := length_unifyLineEnds_le body
      rw [List.length_map, Nat.sub_zero] at hle
      obtain ⟨hmap, hescapes⟩ := eq_map_of_length_unescape hvalue
        (by rw [List.length_map]; omega)
      have hsame : unifyLineEnds body = body :=
        (List.map_injective_iff.mpr (fun _ _ => Char.toNat_inj.mp) hmap).symm
      rw [hsame] at hescapes
      refine ⟨hzero, ?_, hescapes⟩
      rw [← hsame]
      exact return_notMem_unifyLineEnds body
  · rintro ⟨hzero, hreturn, hescapes⟩
    rw [if_neg (by simpa using hzero), unifyLineEnds_eq_self hreturn]
    exact unescape_eq_map hescapes hlast

/-- A text between three quotes is read as itself, up to the quotes behind it, if
and only if nothing in it is read as anything else. -/
theorem readLiteral?_eq_some_iff {body : Text}
    (hlast : Stops isDelicate body.reverse) (after : Text) :
    readLiteral? charNamed? (quotes ++ (body ++ (quotes ++ after))) =
        some (body.map Char.toNat, after) ↔
      IsVerbatim body := by
  rw [readLiteral?_quotes_append_eq_some_iff]
  constructor
  · rintro ⟨inner, hsplit, hvalue⟩
    have hinner : inner = body :=
      (List.append_cancel_right (splitAtQuotes?_eq_append hsplit)).symm
    rw [hinner] at hsplit hvalue
    obtain ⟨hzero, hreturn, hescapes⟩ :=
      (literalValue?_eq_map_iff hlast).mp hvalue
    have hquotes := not_quotes_infix_of_splitAtQuotes? hsplit
      (hescapes '"' (by decide)) fun h => Bool.noConfusion h
    exact ⟨hzero, hreturn, hquotes, hescapes⟩
  · intro hbody
    refine ⟨body, splitAtQuotes?_append hbody.quotes hlast after
      fun h => Bool.noConfusion h, ?_⟩
    exact (literalValue?_eq_map_iff hlast).mpr
      ⟨hbody.zero, hbody.lineEnds, hbody.escapes⟩

end Reader

end Stubgen.Python
