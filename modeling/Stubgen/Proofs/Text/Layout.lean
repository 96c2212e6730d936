import Stubgen.Proofs.Text.Span
import Mathlib.Data.List.DropRight
import Mathlib.Data.List.Infix

/-!
# Blanks, words and lines

A line is laid out as words with gaps around them.  This module says what
trimming, cutting into words and cutting into lines do to a text that is given
by its parts, so that statements about listings never look at single
characters.
-/

namespace Stubgen
namespace Text

def IsGap (t : Text) : Prop := ∀ c ∈ t, isBlank c = true

def IsWord (t : Text) : Prop := t ≠ [] ∧ ∀ c ∈ t, isBlank c = false

-- The search for an instance would decide "for all characters" over the whole
-- type of characters.
instance : DecidablePred IsGap := fun t =>
  decidable_of_iff (t.all isBlank = true) List.all_eq_true

instance : DecidablePred IsWord := fun t =>
  decidable_of_iff (t ≠ [] ∧ (t.all fun c => !isBlank c) = true)
    (by simp [IsWord])

/-- No blank stands at either end of the text. -/
@[mk_iff]
structure IsTrimmed (t : Text) : Prop where
  start : Stops isBlank t
  finish : Stops isBlank t.reverse

instance : DecidablePred IsTrimmed := fun t =>
  decidable_of_iff _ (isTrimmed_iff t).symm

@[simp] theorem isGap_nil : IsGap [] := by simp [IsGap]

theorem isGap_return : IsGap ['\r'] := by decide

theorem IsGap.append {s t : Text} (hs : IsGap s) (ht : IsGap t) :
    IsGap (s ++ t) := by
  intro c hc
  rcases List.mem_append.mp hc with hmem | hmem
  · exact hs c hmem
  · exact ht c hmem

theorem IsGap.notMem {gap : Text} (hgap : IsGap gap) {c : Char}
    (hc : isBlank c = false) : c ∉ gap := by
  intro hmem
  rw [hgap c hmem] at hc
  contradiction

theorem IsWord.isTrimmed {w : Text} (hw : IsWord w) : IsTrimmed w := by
  constructor
  · intro c hc
    exact hw.2 c (List.mem_of_mem_head? hc)
  · intro c hc
    exact hw.2 c (List.mem_reverse.mp (List.mem_of_mem_head? hc))

/-- Between two texts, only the outer ends decide whether a text is trimmed. -/
theorem IsTrimmed.append {s t : Text} (middle : Text) (hs : s ≠ [])
    (ht : t ≠ []) (hstart : Stops isBlank s)
    (hfinish : Stops isBlank t.reverse) :
    IsTrimmed (s ++ middle ++ t) := by
  constructor
  · cases s with
    | nil => contradiction
    | cons c s => simpa using hstart
  · rw [List.reverse_append]
    cases hreverse : t.reverse with
    | nil => simp_all
    | cons c rest =>
        rw [hreverse] at hfinish
        simpa using hfinish

/-! ## Trimming -/

theorem trimStart_gap_append {gap : Text} (hgap : IsGap gap) (t : Text) :
    trimStart (gap ++ t) = trimStart t :=
  List.dropWhile_append_of_pos hgap

theorem trimStart_of_stops {t : Text} (ht : Stops isBlank t) :
    trimStart t = t :=
  dropWhile_of_stops ht

theorem stops_trimStart (t : Text) : Stops isBlank (trimStart t) :=
  stops_dropWhile isBlank t

theorem dropEndWhile_eq_rdropWhile (p : Char → Bool) (t : Text) :
    dropEndWhile p t = t.rdropWhile p := rfl

theorem dropEndWhile_of_stops {p : Char → Bool} {t : Text}
    (ht : Stops p t.reverse) : dropEndWhile p t = t := by
  unfold dropEndWhile
  rw [dropWhile_of_stops ht, List.reverse_reverse]

theorem dropEndWhile_append_span {p : Char → Bool} {span : Text}
    (hspan : ∀ c ∈ span, p c = true) (t : Text) :
    dropEndWhile p (t ++ span) = dropEndWhile p t := by
  unfold dropEndWhile
  rw [List.reverse_append, List.dropWhile_append_of_pos]
  intro c hc
  exact hspan c (List.mem_reverse.mp hc)

/-- Dropping at the end stays behind a text that does not end with the class. -/
theorem dropEndWhile_append {p : Char → Bool} {s : Text}
    (hs : Stops p s.reverse) (t : Text) :
    dropEndWhile p (s ++ t) = s ++ dropEndWhile p t := by
  unfold dropEndWhile
  rw [List.reverse_append, List.dropWhile_append]
  split
  next hempty =>
    have hnil : t.reverse.dropWhile p = [] := by simpa using hempty
    rw [dropWhile_of_stops hs, hnil]
    simp
  next => simp

theorem trim_surround {a b : Text} (ha : IsGap a) (hb : IsGap b) (t : Text) :
    trim (a ++ t ++ b) = trim t := by
  unfold trim trimEnd
  rw [List.append_assoc, trimStart_gap_append ha]
  unfold trimStart
  rw [List.dropWhile_append]
  split
  next hempty =>
    have hnil : t.dropWhile isBlank = [] := by simpa using hempty
    have hgap : b.dropWhile isBlank = [] := List.dropWhile_eq_nil_iff.mpr hb
    rw [hnil, hgap]
  next => rw [dropEndWhile_append_span hb]

theorem IsTrimmed.trim_eq {t : Text} (ht : IsTrimmed t) : trim t = t := by
  unfold trim trimEnd
  rw [trimStart_of_stops ht.start, dropEndWhile_of_stops ht.finish]

theorem isTrimmed_trim (t : Text) : IsTrimmed (trim t) := by
  constructor
  · have hstart := stops_dropWhile isBlank t
    obtain ⟨rest, hrest⟩ :=
      List.rdropWhile_prefix isBlank (l := t.dropWhile isBlank)
    change Stops isBlank ((t.dropWhile isBlank).rdropWhile isBlank)
    intro c hc
    apply hstart c
    rw [← hrest, List.head?_append, hc]
    rfl
  · unfold trim trimEnd dropEndWhile
    rw [List.reverse_reverse]
    exact stops_dropWhile isBlank _

/-- A text is its trimmed form with gaps around it. -/
theorem exists_surround (t : Text) :
    ∃ a b, IsGap a ∧ IsGap b ∧ t = a ++ trim t ++ b := by
  refine ⟨t.takeWhile isBlank, (trimStart t).rtakeWhile isBlank, ?_, ?_, ?_⟩
  · intro c hc
    exact List.mem_takeWhile_imp hc
  · intro c hc
    exact List.mem_rtakeWhile_imp hc
  · rw [List.append_assoc, trim, trimEnd, dropEndWhile_eq_rdropWhile,
      List.rdropWhile_append_rtakeWhile, trimStart,
      List.takeWhile_append_dropWhile]

/-- The text is `x`, and `u` behind a gap unless `u` is empty.  Where `apart`
holds, that gap is not empty. -/
def Follows (x : Text) (apart : Prop) (u t : Text) : Prop :=
  (u = [] ∧ t = x) ∨
    (u ≠ [] ∧ ∃ gap, IsGap gap ∧ (apart → gap ≠ []) ∧ t = x ++ gap ++ u)

theorem Follows.imp {x u t : Text} {apart apart' : Prop}
    (himp : apart' → apart) (h : Follows x apart u t) :
    Follows x apart' u t := by
  rcases h with ⟨hu, ht⟩ | ⟨hu, gap, hgap, hapart, ht⟩
  · exact Or.inl ⟨hu, ht⟩
  · exact Or.inr ⟨hu, gap, hgap, fun h => hapart (himp h), ht⟩

/-- Trimming reaches a text behind a trimmed one only at its far end. -/
theorem follows_trim {x gap : Text} (hx : IsTrimmed x) (hne : x ≠ [])
    (hgap : IsGap gap) (u : Text) :
    Follows x (gap ≠ []) (trim u) (trim (x ++ gap ++ u)) := by
  obtain ⟨a, b, ha, hb, hu⟩ := exists_surround u
  by_cases hempty : trim u = []
  · refine Or.inl ⟨hempty, ?_⟩
    have hsplit : x ++ gap ++ u = [] ++ x ++ (gap ++ (a ++ b)) := by
      rw [hu, hempty]
      simp
    rw [hsplit, trim_surround isGap_nil (hgap.append (ha.append hb)),
      hx.trim_eq]
  · refine Or.inr ⟨hempty, gap ++ a, hgap.append ha, ?_, ?_⟩
    · intro hapart hnil
      exact hapart (List.append_eq_nil_iff.mp hnil).1
    · have hsplit :
          x ++ gap ++ u = [] ++ (x ++ (gap ++ a) ++ trim u) ++ b := by
        conv_lhs => rw [hu]
        simp
      have hmiddle : IsTrimmed (x ++ (gap ++ a) ++ trim u) :=
        IsTrimmed.append (gap ++ a) hne hempty hx.start
          (isTrimmed_trim u).finish
      rw [hsplit, trim_surround isGap_nil hb, hmiddle.trim_eq]

theorem trim_prefix_trim_append (s t : Text) : trim s <+: trim (s ++ t) := by
  obtain ⟨a, b, ha, hb, hs⟩ := exists_surround s
  by_cases hempty : trim s = []
  · rw [hempty]
    exact List.nil_prefix
  · have htrim := trim_surround ha isGap_nil (trim s ++ b ++ t)
    have hsplit : a ++ (trim s ++ b ++ t) ++ [] = s ++ t := by
      conv_rhs => rw [hs]
      simp
    rw [hsplit] at htrim
    rw [htrim]
    rcases follows_trim (isTrimmed_trim s) hempty hb t with
      ⟨_, heq⟩ | ⟨_, gap, _, _, heq⟩
    · rw [heq]
    · rw [heq, List.append_assoc]
      exact List.prefix_append _ _

/-! ## Words -/

theorem words_gap_append {gap : Text} (hgap : IsGap gap) (t : Text) :
    words (gap ++ t) = words t := by
  induction gap with
  | nil => rfl
  | cons c gap ih =>
      rw [List.cons_append, words, if_pos (hgap c (by simp))]
      exact ih fun d hd => hgap d (by simp [hd])

@[simp] theorem words_trimStart (t : Text) : words (trimStart t) = words t := by
  have hgap : IsGap (t.takeWhile isBlank) := fun c hc =>
    List.mem_takeWhile_imp hc
  have hwords := words_gap_append hgap (t.dropWhile isBlank)
  rw [List.takeWhile_append_dropWhile] at hwords
  exact hwords.symm

theorem words_word_append {w : Text} (hw : IsWord w) {rest : Text}
    (hrest : Stops (fun c => !isBlank c) rest) :
    words (w ++ rest) = w :: words rest := by
  obtain ⟨hne, hblank⟩ := hw
  induction w with
  | nil => contradiction
  | cons c w ih =>
      have hc : isBlank c = false := hblank c (by simp)
      rw [List.cons_append, words, if_neg (by simp [hc])]
      cases w with
      | nil =>
          cases rest with
          | nil => rfl
          | cons d rest =>
              have hd : isBlank d = true := by simpa using hrest
              simp [hd]
      | cons d w =>
          have hd : isBlank d = false := hblank d (by simp)
          rw [ih (by simp) fun e he => hblank e (by simp_all)]
          simp [hd]

theorem words_of_isWord {w : Text} (hw : IsWord w) : words w = [w] := by
  have h := words_word_append hw (stops_nil fun c => !isBlank c)
  rwa [List.append_nil] at h

theorem words_eq_cons {t : Text} (hne : t ≠ []) (ht : Stops isBlank t) :
    words t = t.takeWhile (fun c => !isBlank c) ::
      words (t.dropWhile fun c => !isBlank c) := by
  have hword : IsWord (t.takeWhile fun c => !isBlank c) := by
    constructor
    · cases t with
      | nil => contradiction
      | cons c t =>
          have hc : isBlank c = false := by simpa using ht
          simp [hc]
    · intro c hc
      simpa using List.mem_takeWhile_imp hc
  rw [← words_word_append hword (stops_dropWhile _ t),
    List.takeWhile_append_dropWhile]

/-- Cutting into words goes on independently behind every blank. -/
theorem words_append_blank (s : Text) {b : Char} (hb : isBlank b = true)
    (t : Text) : words (s ++ b :: t) = words s ++ words t := by
  have hgap : IsGap [b] := by simpa [IsGap] using hb
  have hlone : words (b :: t) = words t := words_gap_append hgap t
  induction hlength : s.length using Nat.strong_induction_on
    generalizing s with
  | _ n ih =>
      cases s with
      | nil => simpa [words] using hlone
      | cons c s =>
          cases hc : isBlank c with
          | true =>
              have hstep := ih s.length (by simp [← hlength]) s rfl
              simpa [words, hc] using hstep
          | false =>
              have hsplit := List.takeWhile_append_dropWhile
                (p := fun c => !isBlank c) (l := c :: s)
              have hstops := stops_dropWhile (fun c => !isBlank c) (c :: s)
              have hshort :
                  ((c :: s).dropWhile fun c => !isBlank c).length < n := by
                have hsuffix :=
                  (List.dropWhile_suffix (l := s) fun c => !isBlank c).length_le
                rw [List.dropWhile_cons_of_pos (by simp [hc]), ← hlength]
                simpa [Nat.lt_succ_iff] using hsuffix
              have hfirst : IsWord ((c :: s).takeWhile fun c => !isBlank c) := by
                refine ⟨by simp [hc], ?_⟩
                intro d hd
                simpa using List.mem_takeWhile_imp hd
              have hbehind : Stops (fun c => !isBlank c)
                  ((c :: s).dropWhile (fun c => !isBlank c) ++ b :: t) :=
                hstops.append (by simpa using hb)
              rw [← hsplit, List.append_assoc, words_word_append hfirst hbehind,
                words_word_append hfirst hstops, ih _ hshort _ rfl]
              rfl

theorem getLast?_words_append {gap w : Text} (s : Text) (hne : gap ≠ [])
    (hgap : IsGap gap) (hw : IsWord w) :
    (words (s ++ gap ++ w)).getLast? = some w := by
  cases gap with
  | nil => contradiction
  | cons b gap =>
      have hgap' : IsGap gap := fun c hc => hgap c (by simp [hc])
      rw [List.append_assoc, List.cons_append,
        words_append_blank s (hgap b (by simp)), words_gap_append hgap',
        words_of_isWord hw]
      simp

theorem dropWords_word_append {w : Text} (hw : IsWord w) {rest : Text}
    (hrest : Stops (fun c => !isBlank c) rest) (n : ℕ) :
    dropWords (n + 1) (w ++ rest) = dropWords n (trimStart rest) := by
  have hspan : ∀ c ∈ w, (!isBlank c) = true := by
    intro c hc
    simp [hw.2 c hc]
  rw [dropWords, dropWhile_span hspan hrest]

/-! ## Lines -/

/-- A line without the carriage return that ends it together with a line feed. -/
def chomp (line : Text) : Text :=
  if line.getLast? = some '\r' then line.dropLast else line

theorem chomp_eq_or (line : Text) :
    chomp line = line ∨ line = chomp line ++ ['\r'] := by
  unfold chomp
  split
  next hlast =>
    obtain ⟨start, rfl⟩ := List.getLast?_eq_some_iff.mp hlast
    right
    simp
  next => exact Or.inl rfl

@[simp] theorem trim_chomp (line : Text) : trim (chomp line) = trim line := by
  rcases chomp_eq_or line with heq | heq
  · rw [heq]
  · have h := trim_surround isGap_nil isGap_return (chomp line)
    rw [List.nil_append, ← heq] at h
    exact h.symm

theorem chomp_cons {c : Char} {line : Text} (h : c ≠ '\r' ∨ line ≠ []) :
    chomp (c :: line) = c :: chomp line := by
  cases line with
  | nil =>
      have hc : c ≠ '\r' := by simpa using h
      simp [chomp, hc]
  | cons d line =>
      unfold chomp
      rw [List.getLast?_cons_cons]
      split <;> rfl

theorem lines_append_newline {line : Text} (hline : '\n' ∉ line)
    (rest : Text) :
    lines (line ++ '\n' :: rest) = chomp line :: lines rest := by
  induction line with
  | nil => rfl
  | cons c line ih =>
      have hc : c ≠ '\n' := fun heq => hline (by simp [heq])
      have hrest := ih fun hmem => hline (by simp [hmem])
      by_cases hreturn : c = '\r' ∧ line = []
      · obtain ⟨rfl, rfl⟩ := hreturn
        rfl
      · have hnot : c ≠ '\r' ∨ line ≠ [] := by tauto
        rw [chomp_cons hnot, List.cons_append, lines.eq_4, hrest]
        · exact hc
        · intro tail hreturn' htail
          cases line with
          | nil => simp_all
          | cons d line => simp_all

theorem lines_of_notMem {line : Text} (hline : '\n' ∉ line) :
    lines line = if line = [] then [] else [line] := by
  induction line with
  | nil => rfl
  | cons c line ih =>
      have hc : c ≠ '\n' := fun heq => hline (by simp [heq])
      have hrest := ih fun hmem => hline (by simp [hmem])
      rw [lines.eq_4, hrest]
      · cases line <;> simp
      · exact hc
      · intro tail _ htail
        exact hline (by simp [htail])

/-- Cutting into lines goes on independently behind every line feed.  The
induction takes the first line off. -/
theorem lines_append (a b : Text) :
    lines (a ++ '\n' :: b) = lines (a ++ ['\n']) ++ lines b := by
  induction hlength : a.length using Nat.strong_induction_on
    generalizing a with
  | _ n ih =>
      by_cases hmem : '\n' ∈ a
      · obtain ⟨line, rest, rfl, hline⟩ := List.eq_append_cons_of_mem hmem
        have hshort : rest.length < n := by
          rw [← hlength]
          simp
          omega
        have hrest := ih rest.length hshort rest rfl
        rw [List.append_assoc, List.append_assoc, List.cons_append,
          List.cons_append, lines_append_newline hline,
          lines_append_newline hline, hrest, List.cons_append]
      · rw [lines_append_newline hmem, lines_append_newline hmem]
        rfl

theorem chomp_subset (line : Text) : chomp line ⊆ line := by
  rcases chomp_eq_or line with heq | heq
  · rw [heq]
    exact List.Subset.refl line
  · conv_rhs => rw [heq]
    exact List.subset_append_left _ _

theorem newline_notMem_of_mem_lines {t line : Text} (hline : line ∈ lines t) :
    '\n' ∉ line := by
  induction hlength : t.length using Nat.strong_induction_on
    generalizing t with
  | _ n ih =>
      by_cases hmem : '\n' ∈ t
      · obtain ⟨first, rest, rfl, hfirst⟩ := List.eq_append_cons_of_mem hmem
        rw [lines_append_newline hfirst] at hline
        rcases List.mem_cons.mp hline with rfl | hrest
        · exact fun hnewline => hfirst (chomp_subset first hnewline)
        · have hshort : rest.length < n := by
            rw [← hlength]
            simp
            omega
          exact ih rest.length hshort hrest rfl
      · rw [lines_of_notMem hmem] at hline
        split at hline
        next => cases hline
        next =>
          rw [List.mem_singleton.mp hline]
          exact hmem

/-! ## Pieces -/

theorem occursIn_iff {piece t : Text} :
    occursIn piece t = true ↔ piece <:+: t := by
  induction t with
  | nil => simp [occursIn]
  | cons c t ih =>
      rw [occursIn, Bool.or_eq_true, ih, List.isPrefixOf_iff_prefix,
        List.infix_cons_iff]

/-- A piece lies on one side of a cut if no character of the piece but its last
one may stand ahead of the cut. -/
theorem infix_append_iff {p : Char → Bool} {piece s t : Text}
    (hpiece : ∀ c ∈ piece.dropLast, p c = true) (hs : Stops p s.reverse) :
    piece <:+: s ++ t ↔ piece <:+: s ∨ piece <:+: t := by
  constructor
  · rintro ⟨ahead, behind, heq⟩
    rw [List.append_eq_append_iff] at heq
    rcases heq with ⟨rest, rfl, rfl⟩ | ⟨rest, heq, rfl⟩
    · exact Or.inl ⟨ahead, rest, rfl⟩
    rw [List.append_eq_append_iff] at heq
    rcases heq with ⟨first, rfl, rfl⟩ | ⟨first, rfl, rfl⟩
    · -- The piece starts ahead of the cut, so it ends there.
      by_cases hrest : rest = []
      · subst hrest
        exact Or.inl ⟨ahead, [], by simp⟩
      · rcases List.eq_nil_or_concat' first with rfl | ⟨init, c, rfl⟩
        · exact Or.inr ⟨[], behind, rfl⟩
        · rw [List.dropLast_append_of_ne_nil hrest] at hpiece
          rw [← List.append_assoc, List.reverse_append] at hs
          exact absurd (hpiece c (by simp)) (by simpa using hs)
    · exact Or.inr ⟨first, behind, rfl⟩
  · rintro (hpart | hpart)
    · exact hpart.trans (List.prefix_append s t).isInfix
    · exact hpart.trans (List.suffix_append s t).isInfix

/-- A piece that does not end with a blank is not found with the help of a
blank at the end. -/
theorem infix_concat_blank_iff {piece t : Text} (hne : piece ≠ [])
    (hpiece : Stops isBlank piece.reverse) {b : Char}
    (hb : isBlank b = true) :
    piece <:+: t ++ [b] ↔ piece <:+: t := by
  constructor
  · intro hinfix
    rw [List.infix_concat_iff] at hinfix
    rcases hinfix with hsuffix | hinfix
    · obtain ⟨start, hstart⟩ := hsuffix
      exfalso
      have hlast := congrArg (fun l => l.reverse.head?) hstart
      obtain ⟨c, rest, hreverse⟩ := List.exists_cons_of_ne_nil
        (List.reverse_ne_nil_iff.mpr hne)
      rw [hreverse] at hpiece
      simp [List.reverse_append, hreverse] at hlast
      subst hlast
      simp [hb] at hpiece
    · exact hinfix
  · intro hinfix
    exact hinfix.trans (List.prefix_append t [b]).isInfix

theorem infix_append_gap_iff {piece gap : Text} (hne : piece ≠ [])
    (hpiece : Stops isBlank piece.reverse) (hgap : IsGap gap) (t : Text) :
    piece <:+: t ++ gap ↔ piece <:+: t := by
  induction gap generalizing t with
  | nil => rw [List.append_nil]
  | cons c gap ih =>
      rw [List.append_cons, ih fun d hd => hgap d (by simp [hd]),
        infix_concat_blank_iff hne hpiece (hgap c (by simp))]

/-- Gaps around a text do not help to find a piece that has no blank at its
ends. -/
theorem infix_surround_iff {piece a b : Text} (hne : piece ≠ [])
    (hpiece : IsTrimmed piece) (ha : IsGap a) (hb : IsGap b) (t : Text) :
    piece <:+: a ++ t ++ b ↔ piece <:+: t := by
  have hreversed : IsGap a.reverse := fun c hc =>
    ha c (List.mem_reverse.mp hc)
  have hstart : Stops isBlank piece.reverse.reverse := by
    rw [List.reverse_reverse]
    exact hpiece.start
  rw [infix_append_gap_iff hne hpiece.finish hb, ← List.reverse_infix,
    List.reverse_append,
    infix_append_gap_iff (List.reverse_ne_nil_iff.mpr hne) hstart hreversed,
    List.reverse_infix]

/-- A text is its last line behind the lines that are ended. -/
theorem exists_lastLine (t : Text) :
    ∃ start line, t = start ++ line ∧
      (start = [] ∨ start.getLast? = some '\n') ∧ '\n' ∉ line := by
  induction t with
  | nil => exact ⟨[], [], rfl, Or.inl rfl, by simp⟩
  | cons c t ih =>
      obtain ⟨start, line, rfl, hstart, hline⟩ := ih
      by_cases hc : start = [] ∧ c ≠ '\n'
      · obtain ⟨rfl, hc⟩ := hc
        exact ⟨[], c :: line, rfl, Or.inl rfl, by simp [hline, hc.symm]⟩
      · refine ⟨c :: start, line, rfl, Or.inr ?_, hline⟩
        rcases hstart with rfl | hlast
        · simpa using hc
        · rw [List.getLast?_cons, hlast]
          rfl

end Text
end Stubgen
