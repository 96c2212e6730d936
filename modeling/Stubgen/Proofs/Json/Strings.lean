import Stubgen.Json.Reader
import Stubgen.Proofs.Outcome
import Mathlib.Tactic

/-!
# Strings of JSON are read back

A character of a string is written as it is, or as an escape that starts with a
backslash.  Reading takes one written character at a time, so a string is read up
to the quote that ends it, whatever the characters are.
-/

namespace Stubgen.Json

/-- Control characters are written with four digits. -/
def controlDigits (n : ℕ) : Text :=
  ['0', '0', Text.hexDigit (n / 16), Text.hexDigit (n % 16)]

theorem hexPadded_four : ∀ n < 0x20, Text.hexPadded 4 n = controlDigits n := by
  decide +kernel

theorem readHex_controlDigits {n : ℕ} (hn : n < 0x20) (rest : Text) :
    readHex (controlDigits n ++ rest) = .ok (n, rest) := by
  have hdigits : ∀ k < 0x20, (controlDigits k).all readHex.isHexDigit = true ∧
      (controlDigits k).foldl (fun v x => 16 * v + readHex.hexValue x) 0 = k := by
    decide +kernel
  obtain ⟨hall, hvalue⟩ := hdigits n hn
  have hlength : ¬ Text.utf8Length (controlDigits n ++ rest) < 4 := by
    have hhigh := (Text.hexDigit (n / 16)).utf8Size_pos
    have hlow := (Text.hexDigit (n % 16)).utf8Size_pos
    have hzero : '0'.utf8Size = 1 := rfl
    rw [Text.utf8Length_append]
    simp only [controlDigits, Text.utf8Length_cons, hzero]
    omega
  unfold readHex
  rw [if_neg hlength]
  change (if (controlDigits n).all readHex.isHexDigit = true then _ else _) = _
  rw [if_pos hall]
  change Except.ok ((controlDigits n).foldl _ 0, rest) = _
  rw [hvalue]

theorem readEscape_control {c : Char} (hc : c.toNat < 0x20) (rest : Text) :
    readEscape ('u' :: (Text.hexPadded 4 c.toNat ++ rest)) = .ok (c, rest) := by
  have hlow : ¬ (decide (0xDC00 ≤ c.toNat) && decide (c.toNat ≤ 0xDFFF)) =
      true := by
    simp only [Bool.and_eq_true, decide_eq_true_eq]
    omega
  have hsingle : (decide (c.toNat < 0xD800) || decide (0xDBFF < c.toNat)) =
      true := by
    simp only [Bool.or_eq_true, decide_eq_true_eq]
    omega
  rw [hexPadded_four _ hc]
  change readUnicodeEscape _ = _
  unfold readUnicodeEscape
  rw [readHex_controlDigits hc]
  change (if _ then _ else if _ then _ else _) = _
  rw [if_neg hlow, if_pos hsingle, Char.ofNat_toNat]
  rfl

/-- An escape is read as one character. -/
theorem readString_escape (escape : Text) {rest : Text} {c : Char}
    (hescape : readEscape (escape ++ rest) = .ok (c, rest)) :
    readString ('\\' :: (escape ++ rest)) =
      (readString rest).map fun (s, after) => (c :: s, after) := by
  rw [readString, hescape]
  simp only
  rw [if_pos (by simp)]

theorem readString_plain {c : Char} (hquote : c ≠ '"') (hslash : c ≠ '\\')
    (hcontrol : ¬ c.toNat < 0x20) (rest : Text) :
    readString (c :: rest) =
      (readString rest).map fun (s, after) => (c :: s, after) := by
  rw [readString]
  · rw [if_neg hcontrol]
  · exact hquote
  · exact hslash

/-- A character is read back from what is written for it. -/
theorem readString_escapeChar_append (c : Char) (rest : Text) :
    readString (escapeChar c ++ rest) =
      (readString rest).map fun (s, after) => (c :: s, after) := by
  unfold escapeChar
  split_ifs with hsign hfeed hreturn htab hback hform hcontrol
  · rw [Bool.or_eq_true, decide_eq_true_eq, decide_eq_true_eq] at hsign
    rcases hsign with rfl | rfl
    · exact readString_escape ['"'] rfl
    · exact readString_escape ['\\'] rfl
  · rw [hfeed]
    exact readString_escape ['n'] rfl
  · rw [hreturn]
    exact readString_escape ['r'] rfl
  · rw [htab]
    exact readString_escape ['t'] rfl
  · rw [← Char.ofNat_toNat c, hback]
    exact readString_escape ['b'] rfl
  · rw [← Char.ofNat_toNat c, hform]
    exact readString_escape ['f'] rfl
  · exact readString_escape ('u' :: Text.hexPadded 4 c.toNat)
      (readEscape_control hcontrol rest)
  · simp only [Bool.or_eq_true, decide_eq_true_eq, not_or] at hsign
    exact readString_plain hsign.1 hsign.2 hcontrol rest

/-- A string is read up to its closing quote. -/
theorem readString_flatMap_escapeChar (t rest : Text) :
    readString (t.flatMap escapeChar ++ '"' :: rest) = .ok (t, rest) := by
  induction t with
  | nil =>
      rw [List.flatMap_nil, List.nil_append, readString]
  | cons c t ih =>
      rw [List.flatMap_cons, List.append_assoc, readString_escapeChar_append, ih]
      rfl

/-! ## What stands in front -/

theorem quote_append (t rest : Text) :
    quote t ++ rest = '"' :: (t.flatMap Json.escapeChar ++ '"' :: rest) := by
  simp [quote]

theorem skipBlanks_of_stops {t : Text}
    (ht : ∀ c ∈ t.head?, (c = ' ' || c = '\n' || c = '\t' || c = '\r') = false) :
    skipBlanks t = t := by
  cases t with
  | nil => rfl
  | cons c rest =>
      rw [skipBlanks, List.dropWhile_cons_of_neg]
      simpa using ht c rfl

theorem skipBlanks_quote_append (t rest : Text) :
    skipBlanks (quote t ++ rest) = quote t ++ rest := by
  apply skipBlanks_of_stops
  rw [quote_append]
  rintro c ⟨⟩
  rfl

theorem skipBlanks_newline_append (level : ℕ) (t : Text) :
    skipBlanks (newline level ++ t) = skipBlanks t := by
  have hblanks : ∀ c ∈ newline level,
      (c = ' ' || c = '\n' || c = '\t' || c = '\r') = true := by
    intro c hc
    rcases List.mem_cons.mp hc with rfl | hc
    · rfl
    · rw [List.eq_of_mem_replicate hc]
      rfl
  exact List.dropWhile_append_of_pos hblanks

end Stubgen.Json
