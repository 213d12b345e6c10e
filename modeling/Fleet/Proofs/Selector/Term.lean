import Fleet.Proofs.Selector.Phrase

/-!
# Terms, written and read

* `Term.WellFormed`: the terms whose written form stands for them.
* `Term.Readable`: the terms that are ever read; an equals value among them may begin with the sign.
* `Term.settled`: what is read from the written form of such a term.
* `exists_phrase_of_readable`: the written form of a readable term is a phrase; so
  `readTerm_chars`: **it reads as the settled term.**
* `readable_of_phrase`: what a phrase stands for is readable; so `readable_of_readTerm`: **whatever
  is read is readable.**
-/

namespace Fleet

open Text

namespace Term

/-- The term is written so that it can be told from all others. -/
def WellFormed : Term → Prop
  | equals key value => LabelKey key ∧ PlainValue value ∧ ¬['!', '='] <:+: value.toList ∧
    value.toList.head? ≠ some '='
  | differs key value => LabelKey key ∧ PlainValue value
  | present key => LabelKey key
  | absent key => LabelKey key
  | oneOf key values => LabelKey key ∧ ValueSet values
  | noneOf key values => LabelKey key ∧ ValueSet values

/-- The term can be what some text is read as. -/
def Readable : Term → Prop
  | equals key value => LabelKey key ∧ PlainValue value ∧ ¬['!', '='] <:+: value.toList
  | t => t.WellFormed

/-- What the written form of the term is read as: the signs in front of an equals value are taken
for its operator. -/
def settled : Term → Term
  | equals key value => equals key (String.ofList (trim (value.toList.dropWhile (· == '='))))
  | t => t

/-- A readable term is well-formed if it is settled. -/
theorem wellFormed_iff {t : Term} : t.WellFormed ↔ t.Readable ∧ t.settled = t := by
  cases t with
  | differs | present | absent | oneOf | noneOf => exact (and_iff_left rfl).symm
  | equals key value =>
    refine ⟨fun ⟨hkey, hvalue, hsign, hhead⟩ => ⟨⟨hkey, hvalue, hsign⟩, ?_⟩,
      fun ⟨⟨hkey, hvalue, hsign⟩, heq⟩ => ⟨hkey, hvalue, hsign, fun hhead => ?_⟩⟩
    · have hdrop : value.toList.dropWhile (· == '=') = value.toList := by
        cases hv : value.toList with
        | nil => rfl
        | cons c v =>
          rw [hv] at hhead
          refine List.dropWhile_cons_of_neg fun hc => hhead ?_
          rw [eq_of_beq hc]
          rfl
      rw [settled, hdrop, trim_eq hvalue.trimmed, String.ofList_toList]
    · -- a sign in front of the value is lost
      have hlist := congrArg String.toList (Term.equals.inj heq).2
      rw [String.toList_ofList] at hlist
      cases hv : value.toList with
      | nil => rw [hv] at hhead; cases hhead
      | cons c v =>
        rw [hv] at hhead hlist
        obtain rfl : c = '=' := Option.some.inj hhead
        rw [List.dropWhile_cons_of_pos (by rfl)] at hlist
        have htrim := (trim_isInfix (v.dropWhile (· == '='))).length_le
        have hdrop := (List.dropWhile_suffix (l := v) (· == '=')).length_le
        rw [hlist, List.length_cons] at htrim
        omega

section

open Selector

variable {key value : String}

theorem plain_equals (hkey : LabelKey key) (hvalue : PlainValue value) :
    Plain (equals key value).chars :=
  plain_append.2 ⟨plain_append.2 ⟨hkey.plain, by decide⟩, hvalue.plain⟩

theorem plain_differs (hkey : LabelKey key) (hvalue : PlainValue value) :
    Plain (differs key value).chars :=
  plain_append.2 ⟨plain_append.2 ⟨hkey.plain, by decide⟩, hvalue.plain⟩

theorem plain_absent (hkey : LabelKey key) : Plain (absent key).chars :=
  plain_cons.2 ⟨rfl, hkey.plain⟩

theorem trimmed_equals (hkey : LabelKey key) (hvalue : Trimmed value.toList) :
    Trimmed (equals key value).chars :=
  (hkey.trimmed.append (trimmed_singleton rfl)).append hvalue

theorem trimmed_absent (hkey : LabelKey key) : Trimmed (absent key).chars :=
  Trimmed.append (trimmed_singleton rfl : Trimmed ['!']) hkey.trimmed

end

end Term

namespace Term.Readable

open Selector

variable {t : Term}

/-- A readable term closes what it opens and has no comma outside parentheses. -/
theorem within (h : t.Readable) : Within 0 t.chars 0 := by
  cases t with
  | equals key value =>
    obtain ⟨hkey, hvalue, -⟩ := h
    exact within_of_plain (plain_equals hkey hvalue) (Int.le_refl 0)
  | differs key value =>
    obtain ⟨hkey, hvalue⟩ := h
    exact within_of_plain (plain_differs hkey hvalue) (Int.le_refl 0)
  | present key => exact within_of_plain (LabelKey.plain h) (Int.le_refl 0)
  | absent key => exact within_of_plain (plain_absent h) (Int.le_refl 0)
  | oneOf key values =>
    rw [chars_oneOf]
    exact within_setChars h.1 labelKey_in h.2
  | noneOf key values =>
    rw [chars_noneOf]
    exact within_setChars h.1 labelKey_notin h.2

theorem chars_ne_nil (h : t.Readable) : t.chars ≠ [] := by
  cases t with
  | present key => exact LabelKey.nonempty h
  | equals | differs | absent | oneOf | noneOf => simp [chars]

/-- A readable term has no blanks at its ends. -/
theorem trimmed (h : t.Readable) : Trimmed t.chars := by
  have hclose : Trimmed [')'] := trimmed_singleton rfl
  cases t with
  | equals key value =>
    obtain ⟨hkey, hvalue, -⟩ := h
    exact trimmed_equals hkey hvalue.trimmed
  | differs key value =>
    obtain ⟨hkey, hvalue⟩ := h
    have hsign : Trimmed ['!', '='] :=
      Trimmed.append (trimmed_singleton rfl : Trimmed ['!']) (trimmed_singleton rfl)
    exact (hkey.trimmed.append hsign).append hvalue.trimmed
  | present key => exact LabelKey.trimmed h
  | absent key => exact trimmed_absent h
  | oneOf key values =>
    rw [chars, List.append_assoc key.toList]
    exact h.1.trimmed.surround h.1.nonempty hclose (List.cons_ne_nil _ _) _
  | noneOf key values =>
    rw [chars, List.append_assoc key.toList]
    exact h.1.trimmed.surround h.1.nonempty hclose (List.cons_ne_nil _ _) _

end Term.Readable

namespace Selector

variable {raw : List Char} {t : Term}

/-- The written form of a readable term is a phrase that stands for the settled term. -/
theorem exists_phrase_of_readable (h : t.Readable) :
    ∃ φ : Phrase, φ.chars = t.chars ∧ φ.term = t.settled := by
  have hnone : Gap [] := nofun
  have hblank : Gap [' '] := by simp [Gap, isBlank]
  cases t with
  | present key => exact ⟨.present key h, rfl, rfl⟩
  | absent key => exact ⟨.absent [] key hnone h, rfl, rfl⟩
  | differs key value =>
    obtain ⟨hkey, hvalue⟩ := h
    refine ⟨.differs key [] value.toList hkey hnone (unenclosed_of_plain hvalue.plain), ?_, ?_⟩
    · rw [Phrase.chars, List.append_nil]
      rfl
    · rw [Phrase.term, trim_eq hvalue.trimmed, String.ofList_toList]
      rfl
  | equals key value =>
    obtain ⟨hkey, hvalue, hsign⟩ := h
    have hfront : '!' ∉ key.toList ++ [] ++ ['='] := by simp [hkey.not_mem (c := '!') rfl]
    refine ⟨.equals key [] value.toList hkey hnone (unenclosed_of_plain hvalue.plain) ?_, ?_, rfl⟩
    · rwa [infix_append_iff hfront]
    · rw [Phrase.chars, List.append_nil]
      rfl
  | oneOf key values =>
    obtain ⟨hkey, hvalues⟩ := h
    refine ⟨.set .among key [' '] [' '] (values.map String.toList) hkey
      ⟨hblank, List.cons_ne_nil _ _⟩ hblank (not_mem_of_valueSet hvalues)
      (exists_trim_of_valueSet hvalues), ?_, ?_⟩
    · simp [Phrase.chars, Term.chars, Term.setText, SetOperator.word]
    · rw [Phrase.term, valuesOf_map_toList hvalues]
      rfl
  | noneOf key values =>
    obtain ⟨hkey, hvalues⟩ := h
    refine ⟨.set .outside key [' '] [' '] (values.map String.toList) hkey
      ⟨hblank, List.cons_ne_nil _ _⟩ hblank (not_mem_of_valueSet hvalues)
      (exists_trim_of_valueSet hvalues), ?_, ?_⟩
    · simp [Phrase.chars, Term.chars, Term.setText, SetOperator.word]
    · rw [Phrase.term, valuesOf_map_toList hvalues]
      rfl

/-- **The written form** of a readable term is read as the settled term. -/
theorem readTerm_chars (h : t.Readable) : readTerm t.chars = .ok t.settled := by
  obtain ⟨φ, hchars, hterm⟩ := exists_phrase_of_readable h
  rw [← hchars, ← hterm]
  exact readTerm_phrase φ

/-- What a phrase stands for is readable, if it closes what it opens and has no comma outside
parentheses. -/
theorem readable_of_phrase (φ : Phrase) (h : Within 0 φ.chars 0) : φ.term.Readable := by
  cases φ with
  | present key hkey => exact hkey
  | absent gap key hgap hkey => exact hkey
  | differs key gap value hkey hgap hvalue =>
    have hopen := unenclosed_signed ['!', '='] hkey hgap (by decide) hvalue
    exact ⟨hkey, plainValue_ofList (plain_of_within h hopen.1 hopen.2)
      (List.subset_append_right _ value)⟩
  | equals key gap value hkey hgap hvalue hsign =>
    have hopen := unenclosed_signed ['='] hkey hgap (by decide) hvalue
    have hpart : value.dropWhile (· == '=') <:+: key.toList ++ gap ++ ['='] ++ value :=
      (List.dropWhile_suffix _).isInfix.trans (List.suffix_append _ value).isInfix
    refine ⟨hkey, plainValue_ofList (plain_of_within h hopen.1 hopen.2) hpart.subset,
      fun hvalue => hsign ?_⟩
    rw [String.toList_ofList] at hvalue
    exact (hvalue.trans (trim_isInfix _)).trans hpart
  | set operator key gap gap' parts hkey hgap hgap' hparts hvalue =>
    have hset := (setParts_of_gaps operator hkey hgap hgap' hparts hvalue).valueSet h
    rw [setValues_joinWith hparts (ne_nil_of_value hvalue)] at hset
    cases operator with
    | among => exact ⟨hkey, hset⟩
    | outside => exact ⟨hkey, hset⟩

/-- **Whatever is read** is readable. -/
theorem readable_of_readTerm (htrim : Trimmed raw) (hraw : Within 0 raw 0)
    (h : readTerm raw = .ok t) : t.Readable := by
  obtain ⟨φ, rfl, rfl⟩ := exists_phrase htrim h
  exact readable_of_phrase φ hraw

end Selector

end Fleet
