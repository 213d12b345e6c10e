import Fleet.Proofs.Text.Digits
import Fleet.Yaml.Number

/-!
# Written numbers in YAML

A number is written without leading zeros, so it reads in base ten.

* `unsigned?_decimal`: **a written number reads as itself** where sixty-four bits hold it.
-/

namespace Fleet.Yaml

open Text

variable {n : Nat}

/-- The digits of a number do not start with a zero. -/
theorem head?_toDigits (hn : 0 < n) : (Nat.toDigits 10 n).head? ≠ some '0' := by
  induction n using Nat.strongRecOn with
  | ind n ih =>
    by_cases hlt : n < 10
    · rw [Nat.toDigits_of_lt_base hlt]
      have hdigit : ∀ m < 10, 0 < m → Nat.digitChar m ≠ '0' := by decide
      simpa using hdigit n hlt hn
    · have hhead := ih (n / 10) (by omega) (by omega)
      rw [Nat.toDigits_of_base_le (by decide) (by omega), List.head?_append]
      cases hd : (Nat.toDigits 10 (n / 10)).head? with
      | none => exact absurd (List.head?_eq_none_iff.1 hd) Nat.toDigits_ne_nil
      | some c =>
        rw [hd] at hhead
        simpa using hhead

theorem isDigit_decimal {c : Char} (hc : c ∈ (decimal n).toList) : isDigit c = true := by
  rw [toList_decimal] at hc
  exact isDigit_of_mem_toDigits hc

theorem head?_decimal_ne {d : Char} (hd : isDigit d = false) :
    (decimal n).toList.head? ≠ some d := by
  intro h
  have := isDigit_decimal (List.mem_of_mem_head? h)
  rw [hd] at this
  cases this

theorem isZeroPadded_decimal (n : Nat) : isZeroPadded (decimal n).toList = false := by
  have hsigned : startsSigned (decimal n).toList = false := by
    have h₁ := head?_decimal_ne (n := n) (d := '+') (by decide)
    have h₂ := head?_decimal_ne (n := n) (d := '-') (by decide)
    simp [startsSigned, h₁, h₂]
  rw [isZeroPadded, hsigned, if_neg Bool.false_ne_true]
  rcases Nat.eq_zero_or_pos n with rfl | hn
  · rfl
  · have hhead := head?_toDigits hn
    rw [← toList_decimal] at hhead
    simp [hhead]

theorem based?_decimal (n : Nat) : based? (decimal n).toList = none := by
  unfold based?
  split
  · rename_i c s hs
    have hc : isDigit c = true := isDigit_decimal (n := n) (by rw [hs]; simp)
    have hx : c ≠ 'x' := by rintro rfl; cases hc
    have ho : c ≠ 'o' := by rintro rfl; cases hc
    have hb : c ≠ 'b' := by rintro rfl; cases hc
    simp [baseOf?, hx, ho, hb]
  · rfl

/-- **A written number reads as itself** where sixty-four bits hold it. -/
theorem unsigned?_decimal (hn : n < wordLimit) : unsigned? (decimal n).toList = some n := by
  have hplus : dropPlus (decimal n).toList = (decimal n).toList := by
    unfold dropPlus
    split
    · rename_i s hs
      exact absurd (by rw [hs]; rfl) (head?_decimal_ne (n := n) (d := '+') (by decide))
    · rfl
  have hmag : magnitude? (decimal n).toList = some n := by
    rw [magnitude?, based?_decimal, isZeroPadded_decimal]
    exact decimal?_decimal n
  rw [unsigned?, hplus, hmag]
  exact fits64?_of_lt hn

end Fleet.Yaml
