import Fleet.Yaml.Print
import Fleet.Yaml.Token.Scalar
import Mathlib.Tactic.Common

/-!
# Printed characters

What is written outside double quotes holds printable characters only, and each of them reads as
itself.

* `isGap_of_isPrintable`, `breakChar_of_isPrintable`: the only printable gap is the space, and a
  printable break stands for itself.
* `LineStart`: what may follow a scalar that was written: nothing, or a name on a line of its own.
-/

namespace Fleet.Yaml

open Text

variable {c : Char} {s : List Char}

theorem isAllowed_of_isPrintable (h : isPrintable c = true) : isAllowed c = true := by
  simp only [isPrintable, Bool.or_eq_true, beq_iff_eq, Bool.and_eq_true, decide_eq_true_eq,
    bne_iff_ne] at h
  simp only [isAllowed, Bool.or_eq_true, beq_iff_eq, Bool.and_eq_true, decide_eq_true_eq]
  omega

/-- The only printable gap is the space. -/
theorem isGap_of_isPrintable (h : isPrintable c = true) : isGap c = isSpaceChar c := by
  have ht : c ≠ '\t' := by rintro rfl; exact absurd h (by decide)
  simp [isGap, isSpaceChar, ht]

theorem ne_return_of_isPrintable (h : isPrintable c = true) : c ≠ '\r' := by
  rintro rfl
  exact absurd h (by decide)

/-- A printable break stands for itself. -/
theorem breakChar_of_isPrintable (h : isPrintable c = true) (hb : isBreak c = true) :
    breakChar c = c := by
  have hr := ne_return_of_isPrintable h
  have hn : c ≠ '\u0085' := by rintro rfl; exact absurd h (by decide)
  simp only [isBreak, Bool.or_eq_true, beq_iff_eq] at hb
  rcases hb with (((hb | rfl) | hb) | rfl) | rfl
  · exact absurd hb hr
  · rfl
  · exact absurd hb hn
  · rfl
  · rfl

theorem not_isSpaceChar_of_isBreak (h : isBreak c = true) : isSpaceChar c = false := by
  cases hs : isSpaceChar c with
  | false => rfl
  | true =>
    rw [eq_of_beq hs] at h
    exact absurd h (by decide)

/-- What needs no escapes prints. -/
theorem isPrintable_of_needsEscapes (h : needsEscapes s = false) :
    ∀ c ∈ s, isPrintable c = true := by
  intro c hc
  rw [needsEscapes, Bool.or_eq_false_iff] at h
  simpa using List.any_eq_false.1 h.1 c hc

/-- A text before a line break is blank at its front where it is by itself. -/
theorem startsBlank_append_newline (u r : List Char) :
    startsBlank (u ++ '\n' :: r) = startsBlank u := by
  cases u <;> rfl

/-- A letter or a digit, of which the names of fields and numbers are made. -/
def isAlnum (c : Char) : Bool :=
  ('a' ≤ c && c ≤ 'z') || ('A' ≤ c && c ≤ 'Z') || isDigit c

/-- What is no letter or digit is different from each of them. -/
theorem ne_of_isAlnum {d : Char} (h : isAlnum c = true) (hd : isAlnum d = false) : c ≠ d := by
  rintro rfl
  rw [h] at hd
  cases hd

theorem toNat_of_isAlnum (h : isAlnum c = true) : 48 ≤ c.toNat ∧ c.toNat ≤ 122 := by
  simp only [isAlnum, isDigit, Bool.or_eq_true, Bool.and_eq_true, decide_eq_true_eq, Char.le_def,
    UInt32.le_iff_toNat_le] at h
  rcases h with (h | h) | h
  · exact ⟨Nat.le_trans (by decide) h.1, h.2⟩
  · exact ⟨Nat.le_trans (by decide) h.1, Nat.le_trans h.2 (by decide)⟩
  · exact ⟨h.1, Nat.le_trans h.2 (by decide)⟩

theorem isPrintable_of_isAlnum (h : isAlnum c = true) : isPrintable c = true := by
  have hnat := toNat_of_isAlnum h
  simp only [isPrintable, Bool.or_eq_true, beq_iff_eq, Bool.and_eq_true, decide_eq_true_eq,
    bne_iff_ne]
  omega

theorem not_isBreak_of_isAlnum (h : isAlnum c = true) : isBreak c = false := by
  have h₁ := ne_of_isAlnum h (d := '\r') (by decide)
  have h₂ := ne_of_isAlnum h (d := '\n') (by decide)
  have h₃ := ne_of_isAlnum h (d := '\u0085') (by decide)
  have h₄ := ne_of_isAlnum h (d := '\u2028') (by decide)
  have h₅ := ne_of_isAlnum h (d := '\u2029') (by decide)
  simp [isBreak, h₁, h₂, h₃, h₄, h₅]

theorem not_isGap_of_isAlnum (h : isAlnum c = true) : isGap c = false := by
  have h₁ := ne_of_isAlnum h (d := ' ') (by decide)
  have h₂ := ne_of_isAlnum h (d := '\t') (by decide)
  simp [isGap, h₁, h₂]

theorem not_isLeadingIndicator_of_isAlnum (h : isAlnum c = true) :
    isLeadingIndicator c = false := by
  have hnone : ("#,[]&*!|>'\"%@\x60".toList.all fun d => !isAlnum d) = true := by decide
  have hlist : "#,[]&*!|>'\"%@\x60".toList.contains c = false := by
    rw [← Bool.not_eq_true, List.contains_iff_mem]
    intro hc
    have hc := List.all_eq_true.1 hnone c hc
    rw [h] at hc
    cases hc
  have hnat := (toNat_of_isAlnum h).2
  have h₁ : (c.toNat == 0x7B) = false := beq_eq_false_iff_ne.2 (by omega)
  have h₂ : (c.toNat == 0x7D) = false := beq_eq_false_iff_ne.2 (by omega)
  rw [isLeadingIndicator, hlist, h₁, h₂]
  rfl

/-- What may follow a scalar that was written, after the spaces of its line: nothing, or a name. -/
def LineStart : List Char → Prop
  | [] => True
  | c :: _ => isAlnum c = true

end Fleet.Yaml
