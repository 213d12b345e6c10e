import Fleet.Selector
import Fleet.Proofs.OrderedMap
import Mathlib.Data.Fintype.EquivFin

/-!
# Selectors that accept the same labels

* `Term.accepts_congr`: a term looks at the label of its key and at no other.
* `exists_refuting`: **what refutes a term of one of two selectors that agree** refutes a term of
  the other with the same key.
* `exists_mention`: a value that one of them asks for is one that the other asks for.
-/

namespace Fleet

namespace Term

variable {t : Term} {labels labels' : Labels}

/-- The key of the label that a term is about. -/
def key : Term → String
  | equals key _ => key
  | differs key _ => key
  | present key => key
  | absent key => key
  | oneOf key _ => key
  | noneOf key _ => key

/-- The values that a term mentions. -/
def values : Term → List String
  | equals _ value => [value]
  | differs _ value => [value]
  | present _ => []
  | absent _ => []
  | oneOf _ values => values
  | noneOf _ values => values

/-- A term looks at one label. -/
theorem accepts_congr (h : labels.get? t.key = labels'.get? t.key) :
    t.accepts labels = t.accepts labels' := by
  cases t with
  | equals key value => exact congrArg (· == some value) h
  | differs key value => exact congrArg (· != some value) h
  | present key => exact congrArg Option.isSome h
  | absent key => exact congrArg (fun v : Option String => !v.isSome) h
  | oneOf key values => exact congrArg (fun v : Option String => v.any values.contains) h
  | noneOf key values => exact congrArg (fun v : Option String => !v.any values.contains) h

end Term

/-- One label can be given any value, or taken away. -/
theorem exists_labels (labels : Labels) (key : String) (v : Option String) :
    ∃ labels' : Labels, labels'.get? key = v ∧ ∀ j, j ≠ key → labels'.get? j = labels.get? j := by
  have hne : ∀ j, j ≠ key → compare j key ≠ .eq := by
    intro j hj he
    exact hj (Std.LawfulEqOrd.eq_of_compare he)
  cases v with
  | none =>
    exact ⟨labels.erase key, labels.get?_erase_self key,
      fun j hj => labels.get?_erase_of_ne (hne j hj)⟩
  | some v =>
    exact ⟨labels.insert key v, labels.get?_insert_self key v,
      fun j hj => labels.get?_insert_of_ne v (hne j hj)⟩

namespace Selector

variable {s s' : Selector} {t : Term} {labels : Labels} {key value : String} {v : Option String}

theorem accepts_iff : s.accepts labels = true ↔ ∀ t ∈ s.terms, t.accepts labels = true :=
  List.all_eq_true

/-- **What refutes a term** of one of two selectors that agree refutes a term of the other with the
same key. -/
theorem exists_refuting (hagree : ∀ labels, s.accepts labels = s'.accepts labels)
    (haccept : s.accepts labels = true) (ht : t ∈ s.terms)
    (hv : ∀ labels, labels.get? t.key = v → t.accepts labels = false) :
    ∃ t' ∈ s'.terms, t'.key = t.key ∧
      ∀ labels, labels.get? t.key = v → t'.accepts labels = false := by
  obtain ⟨labels', hkey, hother⟩ := exists_labels labels t.key v
  have hreject : ¬s'.accepts labels' = true := by
    rw [← hagree, accepts_iff]
    intro hall
    have hterm := hall t ht
    rw [hv labels' hkey] at hterm
    cases hterm
  rw [accepts_iff] at hreject
  push Not at hreject
  obtain ⟨t', ht', hnot⟩ := hreject
  have hfalse : t'.accepts labels' = false := by simpa using hnot
  have hsame : t'.key = t.key := by
    by_contra hne
    -- another label is as it was, and there the term accepted it
    have htrue : t'.accepts labels = true := by
      rw [hagree] at haccept
      exact accepts_iff.1 haccept t' ht'
    rw [Term.accepts_congr (hother t'.key hne), htrue] at hfalse
    cases hfalse
  refine ⟨t', ht', hsame, fun labels hlabels => ?_⟩
  rw [← hfalse]
  refine Term.accepts_congr ?_
  rw [hsame, hlabels, hkey]

/-- A value that one of two selectors that agree asks for is one that the other asks for. -/
theorem exists_mention (hagree : ∀ labels, s.accepts labels = s'.accepts labels)
    (haccept : s.accepts labels = true) (ht : .equals key value ∈ s.terms) :
    .equals key value ∈ s'.terms ∨ ∃ values, .oneOf key values ∈ s'.terms ∧ value ∈ values := by
  -- a value that is mentioned nowhere
  obtain ⟨x, hx⟩ := Infinite.exists_notMem_finset (value :: s'.terms.flatMap Term.values).toFinset
  simp only [List.mem_toFinset, List.mem_cons, List.mem_flatMap, not_or, not_exists, not_and] at hx
  obtain ⟨hne, hfresh⟩ := hx
  have hother : ∀ labels : Labels, labels.get? key = some x →
      (Term.equals key value).accepts labels = false := by
    intro labels hlabels
    simp [Term.accepts, hlabels, hne]
  obtain ⟨t', ht', hkey, hrefuted⟩ := exists_refuting hagree haccept ht hother
  have hvalue : labels.get? key = some value := eq_of_beq (accepts_iff.1 haccept _ ht)
  have haccepted : t'.accepts labels = true := by
    rw [hagree] at haccept
    exact accepts_iff.1 haccept t' ht'
  obtain ⟨labels', hlabels', -⟩ := exists_labels labels key (some x)
  have hreject := hrefuted labels' hlabels'
  have hunmentioned := hfresh t' ht'
  cases t' with
  | equals key' value' =>
    obtain rfl : key' = key := hkey
    have hequal : labels.get? key' = some value' := eq_of_beq haccepted
    rw [hvalue] at hequal
    cases hequal
    exact .inl ht'
  | oneOf key' values =>
    obtain rfl : key' = key := hkey
    refine .inr ⟨values, ht', ?_⟩
    simpa [Term.accepts, hvalue] using haccepted
  | differs key' value' =>
    obtain rfl : key' = key := hkey
    have hequal : x = value' := by simpa [Term.accepts, hlabels'] using hreject
    exact absurd (by simp [Term.values, hequal]) hunmentioned
  | noneOf key' values =>
    obtain rfl : key' = key := hkey
    have hmem : x ∈ values := by simpa [Term.accepts, hlabels'] using hreject
    exact absurd hmem hunmentioned
  | present key' =>
    obtain rfl : key' = key := hkey
    simp [Term.accepts, OrderedMap.contains, hlabels'] at hreject
  | absent key' =>
    obtain rfl : key' = key := hkey
    simp [Term.accepts, OrderedMap.contains, hvalue] at haccepted

end Selector

end Fleet
