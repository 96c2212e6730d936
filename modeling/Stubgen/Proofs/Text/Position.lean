import Stubgen.Text.Utf8
import Stubgen.Proofs.Text.Span
import Mathlib.Tactic

/-!
# Byte positions

A text that is held as bytes is searched, indexed and cut at byte positions.
An index outside the text has no byte, and a cut outside the text or through a
character has no result.  This module holds the partial operations, and says
when they have a result: at the positions that are the lengths of the texts
ahead of them.
-/

namespace Stubgen
namespace Text

/-- The byte at a position; `none` outside the text. -/
def byteAt? (t : Text) (i : ℕ) : Option UInt8 := t.encode[i]?

/-- The first `n` bytes of a text; `none` if the text is shorter or the cut
would go through a character. -/
def takeBytes? : ℕ → Text → Option Text
  | 0, _ => some []
  | _ + 1, [] => none
  | n + 1, c :: rest =>
    if c.utf8Size ≤ n + 1 then
      (takeBytes? (n + 1 - c.utf8Size) rest).map (c :: ·)
    else none

/-- The text between two positions; `none` if they are out of order, or one of
them is outside the text or inside a character. -/
def slice? (t : Text) (first last : ℕ) : Option Text :=
  if first ≤ last then (t.dropBytes? first).bind (takeBytes? (last - first))
  else none

/-- The position of the first character of a class. -/
def position? (p : Char → Bool) : Text → Option ℕ
  | [] => none
  | c :: rest => if p c then some 0 else (position? p rest).map (c.utf8Size + ·)

/-- The position of the last character of a class. -/
def lastPosition? (p : Char → Bool) : Text → Option ℕ
  | [] => none
  | c :: rest =>
    match lastPosition? p rest with
    | some i => some (c.utf8Size + i)
    | none => if p c then some 0 else none

/-! ## Bytes -/

theorem length_encode (t : Text) : t.encode.length = t.utf8Length := by
  induction t with
  | nil => rfl
  | cons c t ih =>
      rw [utf8Length_cons, ← ih, ← String.length_utf8EncodeChar]
      exact List.length_append

@[simp] theorem utf8Length_eq_zero_iff {t : Text} : t.utf8Length = 0 ↔ t = [] := by
  cases t with
  | nil => simp
  | cons c t =>
      have hpos := c.utf8Size_pos
      simp
      omega

theorem utf8Length_pos {t : Text} (ht : t ≠ []) : 0 < t.utf8Length :=
  Nat.pos_of_ne_zero fun hzero => ht (utf8Length_eq_zero_iff.mp hzero)

theorem length_le_utf8Length (t : Text) : t.length ≤ t.utf8Length := by
  induction t with
  | nil => exact Nat.le_refl 0
  | cons c t ih =>
      have hpos := c.utf8Size_pos
      rw [List.length_cons, utf8Length_cons]
      omega

/-- Bytes are characters as long as all characters are ASCII. -/
theorem utf8Length_eq_length_iff {t : Text} :
    t.utf8Length = t.length ↔ ∀ c ∈ t, c.toNat < 128 := by
  induction t with
  | nil => simp
  | cons c t ih =>
      have hpos := c.utf8Size_pos
      have hlength := length_le_utf8Length t
      have hsize : c.utf8Size = 1 ↔ c.toNat < 128 := by
        rw [Char.utf8Size_eq_one_iff, UInt32.le_iff_toNat_le]
        exact Nat.lt_succ_iff.symm
      rw [List.forall_mem_cons, ← ih, ← hsize, utf8Length_cons, List.length_cons]
      omega

/-- The byte that a character starts with. -/
def leadByte (c : Char) : UInt8 := (String.utf8EncodeChar c).headD 0

theorem byteAt?_append (s : Text) (c : Char) (t : Text) :
    byteAt? (s ++ c :: t) s.utf8Length = some (leadByte c) := by
  have hencode : encode (s ++ c :: t) =
      s.encode ++ (String.utf8EncodeChar c ++ t.encode) := by
    simp [encode]
  have hsize := String.length_utf8EncodeChar c
  have hpos := c.utf8Size_pos
  rw [byteAt?, hencode, ← length_encode,
    List.getElem?_append_right (Nat.le_refl _), Nat.sub_self, leadByte]
  cases hbytes : String.utf8EncodeChar c with
  | nil =>
      rw [hbytes, List.length_nil] at hsize
      omega
  | cons b bytes => rfl

/-- A byte that is an ASCII character starts that character and no other. -/
theorem leadByte_eq_iff {x : Char} (hx : x.toNat < 128) (c : Char) :
    leadByte c = x.toUInt8 ↔ c = x := by
  have hbyte : x.toUInt8.toNat = x.toNat := by
    change x.toNat % 256 = x.toNat
    omega
  have hchar : c = x ↔ c.toNat = x.toNat :=
    ⟨congrArg Char.toNat, Char.toNat_inj.mp⟩
  rw [← UInt8.toNat_inj, hbyte, hchar, leadByte, String.utf8EncodeChar]
  have hv : c.val.toNat = c.toNat := rfl
  simp only [hv]
  -- Only the first form leaves the top bit of its first byte unset.
  split
  next => simp; omega
  next =>
    split
    next => simp; omega
    next =>
      split
      next => simp; omega
      next => simp; omega

/-! ## Cuts -/

theorem dropBytes?_eq_some_iff {n : ℕ} {t u : Text} :
    dropBytes? n t = some u ↔ ∃ s, t = s ++ u ∧ n = s.utf8Length := by
  constructor
  · intro hdrop
    fun_induction dropBytes? n t with
    | case1 t =>
        cases hdrop
        exact ⟨[], rfl, rfl⟩
    | case2 => cases hdrop
    | case3 n c rest hle ih =>
        obtain ⟨s, hs, hn⟩ := ih hdrop
        refine ⟨c :: s, by rw [hs, List.cons_append], ?_⟩
        rw [utf8Length_cons]
        omega
    | case4 => cases hdrop
  · rintro ⟨s, rfl, rfl⟩
    induction s with
    | nil => simp [dropBytes?]
    | cons c s ih =>
        have hpos := c.utf8Size_pos
        obtain ⟨k, hk⟩ : ∃ k, c.utf8Size + utf8Length s = k + 1 :=
          ⟨_, (Nat.succ_pred_eq_of_pos (by omega)).symm⟩
        rw [utf8Length_cons, hk, List.cons_append, dropBytes?,
          if_pos (by omega)]
        have hrest : k + 1 - c.utf8Size = utf8Length s := by omega
        rw [hrest, ih]

theorem takeBytes?_eq_some_iff {n : ℕ} {t u : Text} :
    takeBytes? n t = some u ↔ ∃ s, t = u ++ s ∧ n = u.utf8Length := by
  constructor
  · intro htake
    induction t generalizing n u with
    | nil =>
        cases n with
        | zero =>
            cases htake
            exact ⟨[], rfl, rfl⟩
        | succ n => cases htake
    | cons c rest ih =>
        cases n with
        | zero =>
            cases htake
            exact ⟨c :: rest, rfl, rfl⟩
        | succ n =>
            rw [takeBytes?] at htake
            split at htake
            next hle =>
              obtain ⟨u', hu', rfl⟩ := Option.map_eq_some_iff.mp htake
              obtain ⟨s, hs, hn⟩ := ih hu'
              refine ⟨s, by rw [hs, List.cons_append], ?_⟩
              rw [utf8Length_cons]
              omega
            next => cases htake
  · rintro ⟨s, rfl, rfl⟩
    induction u with
    | nil => simp [takeBytes?]
    | cons c u ih =>
        have hpos := c.utf8Size_pos
        obtain ⟨k, hk⟩ : ∃ k, c.utf8Size + utf8Length u = k + 1 :=
          ⟨_, (Nat.succ_pred_eq_of_pos (by omega)).symm⟩
        rw [utf8Length_cons, hk, List.cons_append, takeBytes?,
          if_pos (by omega)]
        have hrest : k + 1 - c.utf8Size = utf8Length u := by omega
        rw [hrest, ih, Option.map_some]

theorem dropBytes?_append (s u : Text) :
    dropBytes? s.utf8Length (s ++ u) = some u :=
  dropBytes?_eq_some_iff.mpr ⟨s, rfl, rfl⟩

/-- The cuts with a result are those along the characters. -/
theorem slice?_eq_some_iff {t u : Text} {first last : ℕ} :
    slice? t first last = some u ↔
      ∃ before after, t = before ++ u ++ after ∧
        first = before.utf8Length ∧ last = first + u.utf8Length := by
  unfold slice?
  constructor
  · intro hslice
    split at hslice
    next hle =>
      obtain ⟨rest, hdrop, htake⟩ := Option.bind_eq_some_iff.mp hslice
      obtain ⟨before, rfl, hfirst⟩ := dropBytes?_eq_some_iff.mp hdrop
      obtain ⟨after, rfl, hlast⟩ := takeBytes?_eq_some_iff.mp htake
      exact ⟨before, after, (List.append_assoc _ _ _).symm, hfirst, by omega⟩
    next => cases hslice
  · rintro ⟨before, after, rfl, rfl, rfl⟩
    rw [if_pos (Nat.le_add_right _ _), List.append_assoc, dropBytes?_append,
      Option.bind_some, Nat.add_sub_cancel_left]
    exact takeBytes?_eq_some_iff.mpr ⟨after, rfl, rfl⟩

theorem slice?_middle (before u after : Text) :
    slice? (before ++ (u ++ after)) before.utf8Length
      (before.utf8Length + u.utf8Length) = some u :=
  slice?_eq_some_iff.mpr ⟨before, after, (List.append_assoc _ _ _).symm, rfl, rfl⟩

theorem slice?_start (u after : Text) :
    slice? (u ++ after) 0 u.utf8Length = some u :=
  slice?_eq_some_iff.mpr ⟨[], after, rfl, rfl, (Nat.zero_add _).symm⟩

/-! ## Searches -/

theorem position?_span {p : Char → Bool} {span : Text} {c : Char}
    (hspan : ∀ x ∈ span, p x = false) (hc : p c = true) (rest : Text) :
    position? p (span ++ c :: rest) = some span.utf8Length := by
  induction span with
  | nil => simp [position?, hc]
  | cons x span ih =>
      have hx : p x = false := hspan x (by simp)
      have hrest : ∀ y ∈ span, p y = false := fun y hy => hspan y (by simp [hy])
      rw [List.cons_append, position?, hx, ih hrest]
      rfl

theorem position?_eq_none_iff {p : Char → Bool} {t : Text} :
    position? p t = none ↔ ∀ c ∈ t, p c = false := by
  induction t with
  | nil => simp [position?]
  | cons c t ih =>
      cases hc : p c <;> simp [position?, hc, ih]

theorem position?_char {span : Text} {x : Char} (hx : x ∉ span) (rest : Text) :
    position? (· = x) (span ++ x :: rest) = some span.utf8Length :=
  position?_span (decide_eq_of_notMem hx) (by simp) rest

theorem position?_char_eq_none_iff {t : Text} {x : Char} :
    position? (· = x) t = none ↔ x ∉ t := by
  rw [position?_eq_none_iff]
  constructor
  · intro hnone hx
    simpa using hnone x hx
  · exact decide_eq_of_notMem

/-- What is found is a character of the class behind a span of others. -/
theorem exists_span_of_position? {p : Char → Bool} {t : Text} {i : ℕ}
    (hi : position? p t = some i) :
    ∃ (span : Text) (c : Char) (rest : Text), t = span ++ c :: rest ∧
      (∀ x ∈ span, p x = false) ∧ p c = true ∧ i = span.utf8Length := by
  induction t generalizing i with
  | nil => cases hi
  | cons c t ih =>
      cases hc : p c with
      | true =>
          simp only [position?, hc, if_true, Option.some.injEq] at hi
          exact ⟨[], c, t, rfl, by simp, hc, hi.symm⟩
      | false =>
          simp only [position?, hc] at hi
          obtain ⟨k, hk, rfl⟩ := Option.map_eq_some_iff.mp hi
          obtain ⟨span, d, rest, rfl, hspan, hd, rfl⟩ := ih hk
          exact ⟨c :: span, d, rest, rfl, by simpa [hc] using hspan, hd,
            (utf8Length_cons c span).symm⟩

theorem lastPosition?_eq_none {p : Char → Bool} {t : Text}
    (ht : ∀ c ∈ t, p c = false) : lastPosition? p t = none := by
  induction t with
  | nil => rfl
  | cons c t ih =>
      have hc : p c = false := ht c (by simp)
      rw [lastPosition?, ih fun d hd => ht d (by simp [hd])]
      simp [hc]

theorem lastPosition?_span {p : Char → Bool} {c : Char} {rest : Text}
    (hc : p c = true) (hrest : ∀ x ∈ rest, p x = false) (t : Text) :
    lastPosition? p (t ++ c :: rest) = some t.utf8Length := by
  induction t with
  | nil =>
      rw [List.nil_append, lastPosition?, lastPosition?_eq_none hrest]
      simp [hc]
  | cons d t ih =>
      rw [List.cons_append, lastPosition?, ih]
      rfl

end Text
end Stubgen
