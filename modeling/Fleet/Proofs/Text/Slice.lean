import Fleet.Text.Slice
import Mathlib.Tactic.Common

/-!
# The bytes of a text

Where a text can be sliced.

* `utf8ByteSize_ofList`: the bytes of a text are those of its UTF-8 form.
* `slice?_eq_some_iff`: what a slice is.
* `isSome_slice?_iff`: **a slice can be taken exactly between valid positions** that are in order.
-/

namespace Fleet.Text

variable {s t u v : List Char} {i j : Nat}

theorem utf8ByteSize_ofList (s : List Char) : (String.ofList s).utf8ByteSize = byteSize s := by
  induction s with
  | nil => rfl
  | cons c s ih =>
    rw [String.ofList_cons, String.utf8ByteSize_append, String.utf8ByteSize_singleton, ih]
    rfl

/-- A cut loses nothing, and the part before it has as many bytes as were asked for. -/
theorem cutAt?_eq_some_iff : cutAt? i s = some (u, v) ↔ s = u ++ v ∧ byteSize u = i := by
  constructor
  · intro h
    induction s generalizing i u with
    | nil =>
      unfold cutAt? at h
      split at h
      · rename_i hi
        cases h
        exact ⟨rfl, hi.symm⟩
      · cases h
    | cons c s ih =>
      unfold cutAt? at h
      split at h
      · rename_i hi
        cases h
        exact ⟨rfl, hi.symm⟩
      · split at h
        · rename_i hle
          obtain ⟨⟨u, v⟩, hcut, hp⟩ := Option.map_eq_some_iff.1 h
          cases hp
          obtain ⟨rfl, hsize⟩ := ih hcut
          refine ⟨rfl, ?_⟩
          rw [byteSize, hsize]
          omega
        · cases h
  · rintro ⟨rfl, rfl⟩
    exact cutAt?_append u v

/-- A slice is a part of the text that begins and ends with the bytes asked for. -/
theorem slice?_eq_some_iff : slice? i j s = some t ↔
    ∃ u v, s = u ++ t ++ v ∧ byteSize u = i ∧ byteSize (u ++ t) = j := by
  constructor
  · intro h
    unfold slice? at h
    split at h
    · rename_i hle
      obtain ⟨⟨u, rest⟩, hfirst, h⟩ := Option.bind_eq_some_iff.1 h
      obtain ⟨⟨part, v⟩, hsecond, h⟩ := Option.bind_eq_some_iff.1 h
      cases h
      obtain ⟨rfl, rfl⟩ := cutAt?_eq_some_iff.1 hfirst
      obtain ⟨rfl, hsize⟩ := cutAt?_eq_some_iff.1 hsecond
      refine ⟨u, v, (List.append_assoc u t v).symm, rfl, ?_⟩
      rw [byteSize_append, hsize]
      omega
    · cases h
  · rintro ⟨u, v, rfl, rfl, rfl⟩
    exact slice?_append u t v

/-- The edges of characters are where a text can be cut in two. -/
theorem isValid_iff (s : String) (i : Nat) :
    String.Pos.Raw.IsValid s ⟨i⟩ ↔ ∃ u v, s.toList = u ++ v ∧ byteSize u = i := by
  rw [String.Pos.Raw.isValid_iff_exists_append]
  constructor
  · rintro ⟨u, v, rfl, hi⟩
    refine ⟨u.toList, v.toList, String.toList_append, ?_⟩
    rw [← utf8ByteSize_ofList, String.ofList_toList]
    exact (congrArg String.Pos.Raw.byteIdx hi).symm
  · rintro ⟨u, v, hs, rfl⟩
    refine ⟨String.ofList u, String.ofList v, ?_, ?_⟩
    · rw [← String.ofList_append, ← hs, String.ofList_toList]
    · rw [← utf8ByteSize_ofList]
      rfl

/-- **A slice can be taken** exactly between valid positions that are in order. -/
theorem isSome_slice?_iff (s : String) (i j : Nat) : (slice? i j s.toList).isSome = true ↔
    i ≤ j ∧ String.Pos.Raw.IsValid s ⟨i⟩ ∧ String.Pos.Raw.IsValid s ⟨j⟩ := by
  rw [Option.isSome_iff_exists, isValid_iff, isValid_iff]
  simp only [slice?_eq_some_iff]
  constructor
  · rintro ⟨t, u, v, hs, rfl, rfl⟩
    refine ⟨?_, ⟨u, t ++ v, by rw [hs, List.append_assoc], rfl⟩, ⟨u ++ t, v, hs, rfl⟩⟩
    rw [byteSize_append]
    omega
  · rintro ⟨hle, ⟨u, v, hu, rfl⟩, ⟨w, x, hw, rfl⟩⟩
    -- both cuts are starts of the text, and the one with fewer bytes is a start of the other
    rcases List.append_eq_append_iff.1 (hu.symm.trans hw) with ⟨t, rfl, rfl⟩ | ⟨t, rfl, rfl⟩
    · exact ⟨t, u, x, hw, rfl, rfl⟩
    · rw [byteSize_append] at hle
      have hnil : t = [] := by
        rcases t with _ | ⟨c, t⟩
        · rfl
        · have hpos := c.utf8Size_pos
          rw [byteSize] at hle
          omega
      subst hnil
      exact ⟨[], w, v, by simpa using hu, by simp, by simp⟩

end Fleet.Text
