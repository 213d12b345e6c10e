import Fleet.Proofs.Selector.Pieces

/-!
# Keys and values of selectors

* `LabelKey`: the keys of labels that a selector can be about.
* `PlainValue`: the values that stand for themselves outside parentheses.
* `readKey_eq`, `labelKey_of_readKey`: **what is read as a key** are the keys, with blanks around
  them.
-/

namespace Fleet

open Text

/-- The key of a label: one or more ASCII letters, digits and characters of `. _ - /`. -/
structure LabelKey (key : String) : Prop where
  nonempty : key.toList ≠ []
  letters : ∀ c ∈ key.toList, c.isAlphanum = true ∨ c ∈ ['.', '_', '-', '/']

/-- A value that stands for itself: without blanks at its ends, commas and parentheses. -/
structure PlainValue (value : String) : Prop where
  trimmed : Trimmed value.toList
  letters : ∀ c ∈ value.toList, c ≠ ',' ∧ c ≠ '(' ∧ c ≠ ')'

namespace Selector

variable {c d : Char} {key : String}

theorem isKeyChar_iff : isKeyChar c = true ↔ c.isAlphanum = true ∨ c ∈ ['.', '_', '-', '/'] := by
  have halphanum : c.isAlphanum =
      (('A' ≤ c ∧ c ≤ 'Z' || ('a' ≤ c && c ≤ 'z')) || ('0' ≤ c && c ≤ '9')) := rfl
  simp only [halphanum, isKeyChar, isDigit, Bool.or_eq_true, Bool.and_eq_true, decide_eq_true_eq,
    beq_iff_eq, List.mem_cons, List.not_mem_nil, or_false]
  tauto

/-- What is no character of a key is different from each of them. -/
theorem ne_of_isKeyChar (h : isKeyChar c = true) (hd : isKeyChar d = false) : c ≠ d := by
  rintro rfl
  rw [h] at hd
  cases hd

theorem not_isBlank_of_isKeyChar (h : isKeyChar c = true) : isBlank c = false := by
  have hnat : 45 ≤ c.toNat ∧ c.toNat ≤ 122 := by
    simp only [isKeyChar, isDigit, Bool.or_eq_true, Bool.and_eq_true, decide_eq_true_eq,
      Char.le_def, UInt32.le_iff_toNat_le, beq_iff_eq] at h
    rcases h with (((((h | h) | h) | rfl) | rfl) | rfl) | rfl
    · exact ⟨Nat.le_trans (by decide) h.1, Nat.le_trans h.2 (by decide)⟩
    · exact ⟨Nat.le_trans (by decide) h.1, h.2⟩
    · exact ⟨Nat.le_trans (by decide) h.1, Nat.le_trans h.2 (by decide)⟩
    all_goals decide
  simp only [isBlank, Bool.or_eq_false_iff, Bool.and_eq_false_iff, beq_eq_false_iff_ne,
    decide_eq_false_iff_not]
  omega

theorem not_isDelimiter_of_isKeyChar (h : isKeyChar c = true) : isDelimiter c = false :=
  not_isDelimiter_iff.2 ⟨ne_of_isKeyChar h rfl, ne_of_isKeyChar h rfl, ne_of_isKeyChar h rfl⟩

theorem isKey_iff : isKey key.toList = true ↔ LabelKey key := by
  simp only [isKey, Bool.and_eq_true, Bool.not_eq_true', List.isEmpty_eq_false_iff,
    List.all_eq_true, isKeyChar_iff]
  exact ⟨fun h => ⟨h.1, h.2⟩, fun h => ⟨h.nonempty, h.letters⟩⟩

end Selector

namespace LabelKey

variable {c : Char} {key : String}

theorem isKeyChar (h : LabelKey key) : ∀ c ∈ key.toList, Selector.isKeyChar c = true :=
  fun c hc => Selector.isKeyChar_iff.2 (h.letters c hc)

theorem not_mem (h : LabelKey key) (hc : Selector.isKeyChar c = false) : c ∉ key.toList := by
  intro hmem
  exact Selector.ne_of_isKeyChar (h.isKeyChar c hmem) hc rfl

theorem not_isBlank (h : LabelKey key) : ∀ c ∈ key.toList, isBlank c = false :=
  fun c hc => Selector.not_isBlank_of_isKeyChar (h.isKeyChar c hc)

theorem trimmed (h : LabelKey key) : Trimmed key.toList := trimmed_of_not_isBlank h.not_isBlank

theorem plain (h : LabelKey key) : Selector.Plain key.toList :=
  fun c hc => Selector.not_isDelimiter_of_isKeyChar (h.isKeyChar c hc)

end LabelKey

/-- A value stands for itself if it is trimmed and has nothing that splits texts. -/
theorem plainValue_iff {value : String} :
    PlainValue value ↔ Trimmed value.toList ∧ Selector.Plain value.toList := by
  constructor
  · intro h
    exact ⟨h.trimmed, fun c hc => Selector.not_isDelimiter_iff.2 (h.letters c hc)⟩
  · intro h
    exact ⟨h.1, fun c hc => Selector.not_isDelimiter_iff.1 (h.2 c hc)⟩

theorem PlainValue.plain {value : String} (h : PlainValue value) : Selector.Plain value.toList :=
  (plainValue_iff.1 h).2

/-- A trimmed part of a text without commas and parentheses is a plain value. -/
theorem plainValue_ofList {u s : List Char} (hs : Selector.Plain s) (hu : u ⊆ s) :
    PlainValue (String.ofList (trim u)) := by
  rw [plainValue_iff, String.toList_ofList]
  exact ⟨trimmed_trim u, fun c hc => hs c (hu ((trim_isInfix u).subset hc))⟩

namespace Selector

variable {u raw : List Char} {key : String} {t : Term}

/-- A key is read where there are only blanks around it. -/
theorem readKey_of_trim (h : LabelKey key) (htrim : trim u = key.toList) (raw : List Char) :
    readKey u raw = .ok key := by
  rw [readKey, htrim, if_pos (isKey_iff.2 h), String.ofList_toList]

theorem readKey_eq (h : LabelKey key) (raw : List Char) : readKey key.toList raw = .ok key :=
  readKey_of_trim h (trim_eq h.trimmed) raw

theorem labelKey_of_readKey (h : readKey u raw = .ok key) : LabelKey key ∧ key.toList = trim u := by
  unfold readKey at h
  split at h
  · rename_i hkey
    cases h
    rw [← String.toList_ofList (l := trim u), isKey_iff] at hkey
    exact ⟨hkey, String.toList_ofList⟩
  · cases h

/-- A term with a key is read only where the key is one. -/
theorem exists_key {f : String → Term} (h : (do return f (← readKey u raw)) = Except.ok t) :
    ∃ key, LabelKey key ∧ key.toList = trim u ∧ f key = t := by
  cases hkey : readKey u raw with
  | error fault => simp [hkey, bind, Except.bind] at h
  | ok key =>
    obtain ⟨hlabel, htrim⟩ := labelKey_of_readKey hkey
    simp only [hkey, bind, Except.bind] at h
    exact ⟨key, hlabel, htrim, Except.ok.inj h⟩

end Selector

end Fleet
