import Fleet.Text.Digits
import Mathlib.Tactic.Common

/-!
# Written numbers

A number in base ten reads as itself.

* `digitsFrom_eq`: the value of digits, by the library's own.
* `decimal?_decimal`, `word64?_decimal`: **a written number reads as itself.**
-/

namespace Fleet.Text

variable {n : Nat}

theorem toList_decimal (n : Nat) : (decimal n).toList = Nat.toDigits 10 n := by
  rw [decimal, String.toList_ofList]

theorem isDigit_of_mem_toDigits {c : Char} (hc : c ∈ Nat.toDigits 10 n) : isDigit c = true := by
  have h := Nat.isDigit_of_mem_toDigits (by decide) (by decide) hc
  simp only [Char.isDigit, Bool.and_eq_true, decide_eq_true_eq] at h
  simp only [isDigit, Bool.and_eq_true, decide_eq_true_eq]
  exact h

/-- The value of a decimal digit. -/
theorem digitValue?_of_isDigit {c : Char} (hc : isDigit c = true) :
    digitValue? 10 c = some (c.toNat - 48) := by
  have h : c.toNat ≤ 57 := by
    simp only [isDigit, Bool.and_eq_true, decide_eq_true_eq] at hc
    exact hc.2
  unfold digitValue?
  rw [if_pos hc]
  exact if_pos (by omega)

theorem digitsFrom_eq {s : List Char} (h : ∀ c ∈ s, isDigit c = true) (acc : Nat) :
    digitsFrom 10 acc s = some (Nat.ofDigitChars 10 s acc) := by
  induction s generalizing acc with
  | nil => simp [digitsFrom]
  | cons c s ih =>
    have hc := digitValue?_of_isDigit (h c List.mem_cons_self)
    have hs := ih (fun d hd => h d (List.mem_cons_of_mem c hd)) (acc * 10 + (c.toNat - 48))
    rw [Nat.ofDigitChars_cons, Nat.mul_comm 10 acc]
    simpa [digitsFrom, hc] using hs

/-- **A written number reads as itself.** -/
theorem decimal?_decimal (n : Nat) : decimal? (decimal n).toList = some n := by
  have hd : ∀ c ∈ Nat.toDigits 10 n, isDigit c = true := fun c hc => isDigit_of_mem_toDigits hc
  have hne : (Nat.toDigits 10 n).isEmpty = false := by
    rw [List.isEmpty_eq_false_iff]
    exact Nat.toDigits_ne_nil
  rw [toList_decimal, decimal?, digits?, hne, digitsFrom_eq hd, Nat.ofDigitChars_ten_toDigits]
  rfl

theorem fits64?_of_lt (h : n < wordLimit) : fits64? n = some n := if_pos h

theorem word64?_lt {s : List Char} (h : word64? s = some n) : n < wordLimit := by
  obtain ⟨m, -, hm⟩ := Option.bind_eq_some_iff.1 h
  unfold fits64? at hm
  split at hm
  · cases hm; assumption
  · cases hm

/-- A written number has no sign. -/
theorem word64?_decimal (n : Nat) : word64? (decimal n).toList = fits64? n := by
  have hd := decimal?_decimal n
  rw [toList_decimal] at hd ⊢
  cases hs : Nat.toDigits 10 n with
  | nil => exact absurd hs Nat.toDigits_ne_nil
  | cons c s =>
    have hc : isDigit c = true := isDigit_of_mem_toDigits (by rw [hs]; exact List.mem_cons_self)
    have hp : c ≠ '+' := by rintro rfl; exact absurd hc (by decide)
    rw [hs] at hd
    unfold word64?
    split
    · rename_i r heq
      exact absurd (List.cons.inj heq).1 hp
    · simp [hd]

end Fleet.Text
