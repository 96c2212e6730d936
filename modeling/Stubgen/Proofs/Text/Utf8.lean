import Stubgen.Text.Utf8
import Mathlib.Tactic

/-!
# Encoded text is read back

The first byte of an encoded character gives its leading bits and the bounds of
the bytes that follow.  The bounds are narrower than those of other bytes where
a shorter encoding or a surrogate would come out, and the bytes of a character
keep to them.
-/

namespace Stubgen.Text

/-- The bounds of a byte that is bound no further. -/
def continuation : Continuation := (0x80, 0xBF)

/-- The bounds of the second of three bytes. -/
def secondOfThree (leading : ℕ) : Continuation :=
  if leading = 0 then (0xA0, 0xBF)
  else if leading = 13 then (0x80, 0x9F) else continuation

/-- The bounds of the second of four bytes. -/
def secondOfFour (leading : ℕ) : Continuation :=
  if leading = 0 then (0x90, 0xBF)
  else if leading = 4 then (0x80, 0x8F) else continuation

theorem lead?_one : ∀ n < 128, lead? (UInt8.ofNat n) = some (n, []) := by
  decide +kernel

theorem lead?_two : ∀ n < 32, 2 ≤ n →
    lead? (UInt8.ofNat (n + 192)) = some (n, [continuation]) := by
  have hall : ∀ k < 30, lead? (UInt8.ofNat (k + 2 + 192)) =
      some (k + 2, [continuation]) := by
    decide +kernel
  intro n hn htwo
  have hshift := hall (n - 2) (by omega)
  rwa [Nat.sub_add_cancel htwo] at hshift

theorem lead?_three : ∀ n < 16, lead? (UInt8.ofNat (n + 224)) =
    some (n, [secondOfThree n, continuation]) := by
  decide +kernel

theorem lead?_four : ∀ n < 5, lead? (UInt8.ofNat (n + 240)) =
    some (n, [secondOfFour n, continuation, continuation]) := by
  decide +kernel

/-- A byte within its bounds adds its six bits. -/
theorem readTail_cons {bounds : Continuation} {k : ℕ} (hk : k < 64)
    (hlow : bounds.1.toNat ≤ k + 128) (hhigh : k + 128 ≤ bounds.2.toNat)
    (code : ℕ) (tails : List Continuation) (rest : Bytes) :
    readTail code (bounds :: tails) (UInt8.ofNat (k + 128) :: rest) =
      readTail (code * 64 + k) tails rest := by
  have hsize : UInt8.size = 256 := rfl
  have hbyte : (UInt8.ofNat (k + 128)).toNat = k + 128 :=
    UInt8.toNat_ofNat_of_lt' (by omega)
  have hfits : (bounds.1 ≤ UInt8.ofNat (k + 128) &&
      UInt8.ofNat (k + 128) ≤ bounds.2) = true := by
    rw [Bool.and_eq_true, decide_eq_true_iff, decide_eq_true_iff,
      UInt8.le_iff_toNat_le, UInt8.le_iff_toNat_le, hbyte]
    exact ⟨hlow, hhigh⟩
  change (if (bounds.1 ≤ UInt8.ofNat (k + 128) &&
      UInt8.ofNat (k + 128) ≤ bounds.2) = true then
    readTail (code * 64 + ((UInt8.ofNat (k + 128)).toNat - 128)) tails rest
    else .invalid _) = _
  rw [if_pos hfits, hbyte, Nat.add_sub_cancel]

theorem readTail_continuation {k : ℕ} (hk : k < 64) (code : ℕ)
    (tails : List Continuation) (rest : Bytes) :
    readTail code (continuation :: tails) (UInt8.ofNat (k + 128) :: rest) =
      readTail (code * 64 + k) tails rest := by
  have hlow : continuation.1.toNat = 128 := rfl
  have hhigh : continuation.2.toNat = 191 := rfl
  exact readTail_cons hk (by omega) (by omega) code tails rest

theorem readTail_nil {code : ℕ} {c : Char} (hcode : code = c.toNat)
    (rest : Bytes) : readTail code [] rest = .character c rest := by
  subst hcode
  exact dif_pos (show c.toNat.isValidChar from c.valid)

/-- A character takes the bytes that encode it. -/
theorem decodeFirst_utf8EncodeChar (c : Char) (rest : Bytes) :
    ∃ b tail, String.utf8EncodeChar c = b :: tail ∧
      decodeFirst b (tail ++ rest) = .character c rest := by
  have hvalid : c.toNat < 0xD800 ∨ 0xDFFF < c.toNat ∧ c.toNat < 0x110000 :=
    c.valid
  have hval : c.val.toNat = c.toNat := rfl
  unfold String.utf8EncodeChar
  rw [hval]
  generalize hv : c.toNat = v at hvalid
  simp only
  split_ifs with hone htwo hthree
  · refine ⟨_, _, rfl, ?_⟩
    rw [decodeFirst, lead?_one v (by omega)]
    exact readTail_nil hv.symm rest
  · refine ⟨_, _, rfl, ?_⟩
    rw [decodeFirst, lead?_two (v / 64 % 32) (by omega) (by omega)]
    simp only [List.cons_append, List.nil_append]
    rw [readTail_continuation (by omega)]
    exact readTail_nil (by omega) rest
  · refine ⟨_, _, rfl, ?_⟩
    -- The code is not below 2048 and is no surrogate.
    have hbounds : (secondOfThree (v / 4096 % 16)).1.toNat ≤ v / 64 % 64 + 128 ∧
        v / 64 % 64 + 128 ≤ (secondOfThree (v / 4096 % 16)).2.toNat := by
      unfold secondOfThree continuation
      split_ifs with hfirst hlast
      · exact ⟨show 160 ≤ _ by omega, show _ ≤ 191 by omega⟩
      · exact ⟨show 128 ≤ _ by omega, show _ ≤ 159 by omega⟩
      · exact ⟨show 128 ≤ _ by omega, show _ ≤ 191 by omega⟩
    rw [decodeFirst, lead?_three (v / 4096 % 16) (by omega)]
    simp only [List.cons_append, List.nil_append]
    rw [readTail_cons (by omega) hbounds.1 hbounds.2,
      readTail_continuation (by omega)]
    exact readTail_nil (by omega) rest
  · refine ⟨_, _, rfl, ?_⟩
    -- The code is not below 65536 and is below 1114112.
    have hbounds : (secondOfFour (v / 262144 % 8)).1.toNat ≤ v / 4096 % 64 + 128 ∧
        v / 4096 % 64 + 128 ≤ (secondOfFour (v / 262144 % 8)).2.toNat := by
      unfold secondOfFour continuation
      split_ifs with hfirst hlast
      · exact ⟨show 144 ≤ _ by omega, show _ ≤ 191 by omega⟩
      · exact ⟨show 128 ≤ _ by omega, show _ ≤ 143 by omega⟩
      · exact ⟨show 128 ≤ _ by omega, show _ ≤ 191 by omega⟩
    rw [decodeFirst, lead?_four (v / 262144 % 8) (by omega)]
    simp only [List.cons_append, List.nil_append]
    rw [readTail_cons (by omega) hbounds.1 hbounds.2,
      readTail_continuation (by omega), readTail_continuation (by omega)]
    exact readTail_nil (by omega) rest

theorem decodeAll_utf8EncodeChar_append (c : Char) (rest : Bytes) :
    decodeAll (String.utf8EncodeChar c ++ rest) = some c :: decodeAll rest := by
  obtain ⟨b, tail, hbytes, hfirst⟩ := decodeFirst_utf8EncodeChar c rest
  rw [hbytes, List.cons_append, decodeAll]
  split
  next c' rest' heq =>
    rw [hfirst] at heq
    cases heq
    rfl
  next rest' heq =>
    rw [hfirst] at heq
    cases heq

theorem decodeAll_encode (t : Text) : decodeAll (encode t) = t.map some := by
  induction t with
  | nil =>
      rw [encode, List.flatMap_nil, decodeAll]
      rfl
  | cons c t ih =>
      rw [encode, List.flatMap_cons, decodeAll_utf8EncodeChar_append,
        List.map_cons]
      exact congrArg (some c :: ·) ih

/-- Encoded text is read back. -/
theorem decode?_encode (t : Text) : decode? (encode t) = some t := by
  rw [decode?, decodeAll_encode, List.mapM_map]
  exact List.mapM_pure.trans (congrArg some (List.map_id t))

end Stubgen.Text
