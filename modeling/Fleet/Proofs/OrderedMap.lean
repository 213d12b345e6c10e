import Fleet.OrderedMap
import Mathlib.Data.List.Basic

/-!
# Ordered maps and their entries

An ordered map is the list of its entries, whether it is asked for a key, compared or built.

* `get?_eq_some_iff`: what is stored under a key is an entry.
* `ext_get?`: **maps that answer alike are the same.**
* `ofList_of_increasing`: a list of entries in order is a map as it stands.
-/

namespace Fleet

variable {κ ν : Type} [Ord κ] [Std.TransOrd κ]

/-- A key is not less than itself. -/
theorem ne_of_compare_eq_lt {a b : κ} (h : compare a b = .lt) : a ≠ b := by
  rintro rfl
  simp at h

namespace Entries

/-- An entry whose key is greater than all others goes last. -/
theorem insert_of_lt {k : κ} {v : ν} {es : List (κ × ν)} (h : ∀ e ∈ es, compare e.1 k = .lt) :
    insert k v es = es ++ [(k, v)] := by
  induction es with
  | nil => rfl
  | cons e es ih =>
    have hgt : compare k e.1 = .gt := Std.OrientedCmp.gt_of_lt (h e List.mem_cons_self)
    have htail := ih fun a ha => h a (List.mem_cons_of_mem _ ha)
    unfold insert
    simp only [hgt, htail, List.cons_append]

/-- What is stored under a key is an entry. -/
theorem get?_eq_some_iff [Std.LawfulEqOrd κ] {k : κ} {v : ν} {es : List (κ × ν)}
    (h : Increasing es) : get? k es = some v ↔ (k, v) ∈ es := by
  induction es with
  | nil => simp [get?]
  | cons e es ih =>
    obtain ⟨hhead, htail⟩ := List.pairwise_cons.1 h
    by_cases hk : compare k e.1 = .eq
    · -- later keys are greater, so no other entry has this key
      have hke : k = e.1 := Std.LawfulEqOrd.eq_of_compare hk
      have hnot : (k, v) ∉ es := by
        intro hmem
        exact ne_of_compare_eq_lt (hhead _ hmem) hke.symm
      have hmem : (k, v) ∈ e :: es ↔ e.2 = v := by
        rw [List.mem_cons, or_iff_left hnot, hke]
        exact ⟨fun he => by rw [← he], fun hv => by rw [← hv]⟩
      rw [get?, if_pos hk, hmem, Option.some_inj]
    · have hne : (k, v) ≠ e := by
        intro he
        simp [← he] at hk
      rw [get?, if_neg hk, ih htail, List.mem_cons, or_iff_right hne]

end Entries

namespace OrderedMap

variable {m m' : OrderedMap κ ν} {k : κ} {v : ν}

/-- What is stored under a key is an entry. -/
theorem get?_eq_some_iff [Std.LawfulEqOrd κ] : m.get? k = some v ↔ (k, v) ∈ m.entries :=
  Entries.get?_eq_some_iff m.increasing

/-- **Maps that answer alike are the same.** -/
theorem ext_get? [Std.LawfulEqOrd κ] (h : ∀ k v, m.get? k = some v ↔ m'.get? k = some v) :
    m = m' := by
  have hmem : ∀ e, e ∈ m.entries ↔ e ∈ m'.entries := fun e => by
    rw [← get?_eq_some_iff (m := m), ← get?_eq_some_iff (m := m')]
    exact h e.1 e.2
  have hne : ∀ a b : κ × ν, compare a.1 b.1 = .lt → a ≠ b := fun a b hlt he =>
    ne_of_compare_eq_lt hlt (congrArg Prod.fst he)
  have hperm : m.entries.Perm m'.entries :=
    (List.perm_ext_iff_of_nodup (m.increasing.imp (hne _ _)) (m'.increasing.imp (hne _ _))).2 hmem
  have hentries : m.entries = m'.entries := by
    refine hperm.eq_of_pairwise (fun a b _ _ hab hba => ?_) m.increasing m'.increasing
    rw [Std.OrientedCmp.gt_of_lt hba] at hab
    cases hab
  cases m
  cases m'
  cases hentries
  rfl

/-- Entries in order are added one after the other. -/
theorem insertAll_entries {es : List (κ × ν)} (h : Increasing (m.entries ++ es)) :
    (m.insertAll es).entries = m.entries ++ es := by
  induction es generalizing m with
  | nil => exact (List.append_nil _).symm
  | cons e es ih =>
    have hlt : ∀ a ∈ m.entries, compare a.1 e.1 = .lt := fun a ha =>
      (List.pairwise_append.1 h).2.2 a ha e List.mem_cons_self
    have hinsert : (m.insert e.1 e.2).entries = m.entries ++ [e] := Entries.insert_of_lt hlt
    have happend : m.entries ++ e :: es = (m.insert e.1 e.2).entries ++ es := by
      rw [hinsert, List.append_assoc]
      rfl
    rw [happend] at h ⊢
    exact ih h

/-- A list of entries in order is a map as it stands. -/
theorem ofList_of_increasing {es : List (κ × ν)} (h : Increasing es) : ofList es = ⟨es, h⟩ := by
  have hentries : (ofList es).entries = es := insertAll_entries (m := empty) h
  cases hm : ofList es with
  | mk entries increasing =>
    rw [hm] at hentries
    cases hentries
    rfl

end OrderedMap

end Fleet
