import Fleet.Proofs.Text.Digits
import Fleet.Service.Store
import Mathlib.Logic.Function.Iterate

/-!
# Versions

The version of a resource counts its updates, as far as sixty-four bits go; then it starts again.

* `nextVersion_decimal`: the version after a number is the next number.
* `versionNumber_iterate`: the number of the version after any number of updates.
* `nextVersion_iterate_ne`: **a version does not come back** before all others have been there.
* `nextVersion_iterate_ne_iterate`: **versions are pairwise different** up to the last number.
-/

namespace Fleet

open Text

/-- The number of a version; zero stands for a text that is no number of sixty-four bits. -/
def versionNumber (version : String) : Nat := (word64? version.toList).getD 0

theorem versionNumber_lt (version : String) : versionNumber version < wordLimit := by
  unfold versionNumber
  cases h : word64? version.toList with
  | none => exact (by decide : 0 < wordLimit)
  | some n => exact word64?_lt h

theorem nextVersion_eq (version : String) :
    nextVersion version = decimal ((versionNumber version + 1) % wordLimit) := by
  unfold nextVersion versionNumber
  cases word64? version.toList with
  | some n => rfl
  | none => rfl

theorem versionNumber_decimal {n : Nat} (h : n < wordLimit) : versionNumber (decimal n) = n := by
  unfold versionNumber
  rw [word64?_decimal, fits64?_of_lt h]
  rfl

/-- The number of a version goes up by one, and turns around at the limit. -/
theorem versionNumber_nextVersion (version : String) :
    versionNumber (nextVersion version) = (versionNumber version + 1) % wordLimit := by
  rw [nextVersion_eq, versionNumber_decimal (Nat.mod_lt _ (by decide))]

/-- The version after a number is the next number. -/
theorem nextVersion_decimal {n : Nat} (h : n + 1 < wordLimit) :
    nextVersion (decimal n) = decimal (n + 1) := by
  rw [nextVersion_eq, versionNumber_decimal (Nat.lt_of_succ_lt h), Nat.mod_eq_of_lt h]

/-- The number of the version after any number of updates. -/
theorem versionNumber_iterate (version : String) (n : Nat) :
    versionNumber (nextVersion^[n] version) = (versionNumber version + n) % wordLimit := by
  induction n with
  | zero => exact (Nat.mod_eq_of_lt (versionNumber_lt version)).symm
  | succ n ih =>
    rw [Function.iterate_succ_apply', versionNumber_nextVersion, ih, Nat.mod_add_mod, Nat.add_assoc]

/-- **A version does not come back** before all others have been there. -/
theorem nextVersion_iterate_ne (version : String) {n : Nat} (hn : 0 < n) (h : n < wordLimit) :
    nextVersion^[n] version ≠ version := by
  intro he
  have hv := versionNumber_lt version
  have hk : versionNumber version = (versionNumber version + n) % wordLimit := by
    rw [← versionNumber_iterate, he]
  unfold wordLimit at *
  omega

/-- A version that is the last number of sixty-four bits. -/
def IsLastVersion (version : String) : Prop := word64? version.toList = some (wordLimit - 1)

/-- The number of any other version has a successor. -/
theorem versionNumber_succ_lt {version : String} (h : ¬IsLastVersion version) :
    versionNumber version + 1 < wordLimit := by
  unfold IsLastVersion at h
  unfold versionNumber
  cases hn : word64? version.toList with
  | none => exact (by decide : 0 + 1 < wordLimit)
  | some n =>
    have hlt := word64?_lt hn
    have hne : n ≠ wordLimit - 1 := fun he => h (by rw [hn, he])
    show n + 1 < wordLimit
    omega

/-- As long as none is the last, they go up by one. -/
theorem versionNumber_iterate_of_not_last {version : String} {n : Nat}
    (h : ∀ m < n, ¬IsLastVersion (nextVersion^[m] version)) :
    versionNumber (nextVersion^[n] version) = versionNumber version + n := by
  induction n with
  | zero => rfl
  | succ n ih =>
    have hn := ih fun m hm => h m (Nat.lt_succ_of_lt hm)
    have hlt := versionNumber_succ_lt (h n (Nat.lt_succ_self n))
    rw [Function.iterate_succ_apply', versionNumber_nextVersion, Nat.mod_eq_of_lt hlt, hn,
      Nat.add_assoc]

/-- **Versions are pairwise different** up to the last number, whatever the first one is. -/
theorem nextVersion_iterate_ne_iterate {version : String} {i j : Nat} (hij : i < j)
    (h : ∀ m < j, ¬IsLastVersion (nextVersion^[m] version)) :
    nextVersion^[i] version ≠ nextVersion^[j] version := by
  intro he
  have hi := versionNumber_iterate_of_not_last fun m hm => h m (Nat.lt_trans hm hij)
  have hj := versionNumber_iterate_of_not_last h
  rw [he] at hi
  omega

end Fleet
