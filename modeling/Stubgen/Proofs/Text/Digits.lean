import Stubgen.Text.Basic
import Mathlib.Tactic

/-!
# Numbers in digits

A number is written in decimal digits without leading zeros, and the digits spell
it.
-/

namespace Stubgen.Text

theorem isDigit_of_mem_ofNat {n : ℕ} {c : Char} (hc : c ∈ ofNat n) :
    c.isDigit = true := by
  rw [ofNat, Nat.toList_repr] at hc
  exact Nat.isDigit_of_mem_toDigits (by decide) le_rfl hc

theorem notMem_ofNat {c : Char} (hdigit : c.isDigit = false) (n : ℕ) :
    c ∉ ofNat n := by
  intro hc
  rw [isDigit_of_mem_ofNat hc] at hdigit
  cases hdigit

@[simp] theorem foldDigits_ofNat (n : ℕ) : foldDigits 0 (ofNat n) = n := by
  rw [ofNat, Nat.toList_repr]
  exact Nat.ofDigitChars_toDigits (by decide) le_rfl

theorem ofNat_inj {m n : ℕ} : ofNat m = ofNat n ↔ m = n := by
  refine ⟨fun h => ?_, congrArg ofNat⟩
  rw [← foldDigits_ofNat m, h, foldDigits_ofNat]

theorem ofNat_ne_nil (n : ℕ) : ofNat n ≠ [] := by
  rw [ofNat, Nat.toList_repr]
  exact Nat.toDigits_ne_nil

/-- No zero leads but in the number zero. -/
theorem eq_zero_of_head?_ofNat {n : ℕ} (hhead : (ofNat n).head? = some '0') :
    n = 0 := by
  induction n using Nat.strongRecOn with
  | ind n ih =>
      rw [ofNat, Nat.toList_repr, Nat.toDigits_eq_if (by decide)] at hhead
      by_cases hsmall : n < 10
      · rw [if_pos hsmall, List.head?_cons, Option.some.injEq] at hhead
        exact Nat.digitChar_eq_zero.mp hhead
      · rw [if_neg hsmall, List.head?_append_of_ne_nil _ Nat.toDigits_ne_nil,
          ← Nat.toList_repr, ← ofNat] at hhead
        have hquotient := ih (n / 10) (by omega) hhead
        omega

end Stubgen.Text
