import Mathlib.Algebra.Group.Nat.Defs
import ScriptDocs.Text.Numeral

namespace ScriptDocs.Text

/-!
A decimal numeral reads back as the number it was written for. It is a run of digits, starts with a
zero only for zero itself, and has at most as many digits as a power of ten says.
-/

theorem digitChar_decimal {digit : Nat} (small : digit < 10) :
    isDigit (digitChar digit) = true ∧ digitValue? 10 (digitChar digit) = some digit ∧
      (digitChar digit = '0' → digit = 0) := by
  have all : ∀ digit < 10, isDigit (digitChar digit) = true ∧
      digitValue? 10 (digitChar digit) = some digit ∧ (digitChar digit = '0' → digit = 0) := by
    decide
  exact all digit small

theorem ofNat_small {n : Nat} (small : n < 10) : ofNat n = [digitChar n] := by
  rw [ofNat, if_pos small]

theorem ofNat_large {n : Nat} (large : ¬ n < 10) : ofNat n = ofNat (n / 10) ++ [digitChar (n % 10)] := by
  rw [ofNat, if_neg large]

theorem ofNat_ne_nil (n : Nat) : ofNat n ≠ [] := by
  rw [ofNat]
  split <;> simp

theorem ofNat_isDigit (n : Nat) : ∀ c ∈ ofNat n, isDigit c = true := by
  fun_induction ofNat n with
  | case1 n small =>
      intro c member
      rw [List.mem_singleton.mp member]
      exact (digitChar_decimal small).1
  | case2 n large ih =>
      intro c member
      rcases List.mem_append.mp member with front | last
      · exact ih c front
      · rw [List.mem_singleton.mp last]
        exact (digitChar_decimal (Nat.mod_lt n (by decide))).1

theorem toNat_ofNat (n : Nat) : toNat (ofNat n) = n := by
  unfold toNat
  fun_induction ofNat n with
  | case1 n small => simp [digitsOnto, (digitChar_decimal small).2.1]
  | case2 n large ih =>
      have lastDigit := (digitChar_decimal (Nat.mod_lt n (by decide : 0 < 10))).2.1
      simp only [digitsOnto, List.foldl_append, List.foldl_cons, List.foldl_nil] at ih ⊢
      rw [ih, lastDigit, Option.getD_some]
      omega

theorem ofNat_head_zero {n : Nat} (zero : (ofNat n).head? = some '0') : n = 0 := by
  fun_induction ofNat n with
  | case1 n small => exact (digitChar_decimal small).2.2 (by simpa using zero)
  | case2 n large ih =>
      obtain ⟨first, rest, quotient⟩ := List.exists_cons_of_ne_nil (ofNat_ne_nil (n / 10))
      rw [quotient] at ih zero
      have small := ih zero
      omega

theorem ofNat_length_le {n digits : Nat} (positive : 0 < digits) (small : n < 10 ^ digits) :
    (ofNat n).length ≤ digits := by
  induction digits generalizing n with
  | zero => omega
  | succ digits ih =>
      by_cases single : n < 10
      · rw [ofNat_small single]
        exact positive
      · have quotient : n / 10 < 10 ^ digits := by
          rw [Nat.pow_succ] at small
          omega
        have more : 0 < digits := by
          rcases Nat.eq_zero_or_pos digits with rfl | more
          · omega
          · exact more
        have shorter := ih more quotient
        rw [ofNat_large single, List.length_append, List.length_singleton]
        omega

/-- Four hexadecimal digits of a number that fits in two read back. -/
theorem toNat?_hexFixed {n : Nat} (small : n < 32) : toNat? 16 (hexFixed 4 n) = some n := by
  have all : ∀ n < 32, toNat? 16 (hexFixed 4 n) = some n := by decide
  exact all n small

end ScriptDocs.Text
