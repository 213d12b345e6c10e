import Fleet.Proofs.Selector.Sets

/-!
# Phrases

What the text of one term is made of.

* `Phrase`: how the text of one term is derived; `Phrase.chars` is that text, `Phrase.term` the term
  that it stands for.
* `readTerm_phrase`: **every phrase is read as its term.**
* `Phrase.chars_injective`: **no text has two derivations.**
* `readTerm_eq_ok_iff`: **nothing but phrases is read.**
-/

namespace Fleet.Selector

open Text

variable {c : Char} {s u v g raw : List Char} {key : String} {t : Term} {ps : List (List Char)}

/-- A text without parentheses. -/
def Unenclosed (s : List Char) : Prop := '(' ∉ s ∧ ')' ∉ s

instance : DecidablePred Unenclosed := fun s => inferInstanceAs (Decidable ('(' ∉ s ∧ ')' ∉ s))

/-- How the text of a term is derived: what its parts are, and that they are parts of this kind. -/
inductive Phrase where
  | present (key : String) (hkey : LabelKey key)
  | absent (gap : List Char) (key : String) (hgap : Gap gap) (hkey : LabelKey key)
  | differs (key : String) (gap value : List Char) (hkey : LabelKey key) (hgap : Gap gap)
      (hvalue : Unenclosed value)
  | equals (key : String) (gap value : List Char) (hkey : LabelKey key) (hgap : Gap gap)
      (hvalue : Unenclosed value) (hsign : ¬['!', '='] <:+: key.toList ++ gap ++ ['='] ++ value)
  | set (operator : SetOperator) (key : String) (gap gap' : List Char) (parts : List (List Char))
      (hkey : LabelKey key) (hgap : Gap gap ∧ gap ≠ []) (hgap' : Gap gap')
      (hparts : ∀ p ∈ parts, ',' ∉ p) (hvalue : ∃ p ∈ parts, trim p ≠ [])

namespace Phrase

/-- The text of a phrase. -/
def chars : Phrase → List Char
  | present key _ => key.toList
  | absent gap key _ _ => ['!'] ++ gap ++ key.toList
  | differs key gap value _ _ _ => key.toList ++ gap ++ ['!', '='] ++ value
  | equals key gap value _ _ _ _ => key.toList ++ gap ++ ['='] ++ value
  | set operator key gap gap' parts _ _ _ _ _ =>
    key.toList ++ gap ++ operator.word.toList ++ gap' ++ '(' :: (joinWith [','] parts ++ [')'])

/-- The term that a phrase stands for. -/
def term : Phrase → Term
  | present key _ => .present key
  | absent _ key _ _ => .absent key
  | differs key _ value _ _ _ => .differs key (String.ofList (trim value))
  | equals key _ value _ _ _ _ =>
    .equals key (String.ofList (trim (value.dropWhile (· == '='))))
  | set operator key _ _ parts _ _ _ _ _ => operator.term key (valuesOf parts)

end Phrase

/-- What follows a run of blanks is told from it by its first character. -/
theorem Gap.cancel {g' : List Char} (hg : Gap g) (hg' : Gap g') (hc : isBlank c = false)
    (h : g ++ c :: u = g' ++ c :: v) : g = g' ∧ u = v :=
  eq_of_append_cons (hg.not_mem hc) (hg'.not_mem hc) h

theorem contains_eq_false_iff :
    (raw.contains '(' || raw.contains ')') = false ↔ Unenclosed raw := by
  simp [Unenclosed]

theorem unenclosed_of_plain (h : Plain s) : Unenclosed s :=
  ⟨fun hc => absurd (h _ hc) (by decide), fun hc => absurd (h _ hc) (by decide)⟩

theorem unenclosed_append : Unenclosed (u ++ v) ↔ Unenclosed u ∧ Unenclosed v := by
  simp only [Unenclosed, List.mem_append, not_or]
  tauto

theorem Gap.unenclosed (h : Gap g) : Unenclosed g := ⟨h.not_mem (by decide), h.not_mem (by decide)⟩

/-- A key in front of blanks. -/
theorem unenclosed_front (hkey : LabelKey key) (hg : Gap g) : Unenclosed (key.toList ++ g) :=
  unenclosed_append.2 ⟨unenclosed_of_plain hkey.plain, hg.unenclosed⟩

/-- A sign between a key and a value. -/
theorem unenclosed_signed (sign : List Char) {value : List Char} (hkey : LabelKey key) (hg : Gap g)
    (hsign : Unenclosed sign) (hvalue : Unenclosed value) :
    Unenclosed (key.toList ++ g ++ sign ++ value) :=
  unenclosed_append.2 ⟨unenclosed_append.2 ⟨unenclosed_front hkey hg, hsign⟩, hvalue⟩

theorem readKey_front (hkey : LabelKey key) (hg : Gap g) (raw : List Char) :
    readKey (key.toList ++ g) raw = .ok key :=
  readKey_of_trim hkey (trim_surround (a := []) nofun hkey.trimmed hg) raw

theorem SetOperator.term_inj {operator operator' : SetOperator} {key' : String}
    {values values' : List String} (h : operator.term key values = operator'.term key' values') :
    operator = operator' ∧ key = key' := by
  cases operator <;> cases operator' <;> cases h <;> exact ⟨rfl, rfl⟩

section

variable (hopen : Unenclosed raw)
include hopen

/-- A text with `!=` and without parentheses. -/
theorem readTerm_differs (hsplit : splitOnce? ['!', '='] raw = some (u, v)) :
    readTerm raw = (do return .differs (← readKey u raw) (String.ofList (trim v))) := by
  unfold readTerm
  rw [contains_eq_false_iff.2 hopen, hsplit]
  rfl

variable (hnone : splitOnce? ['!', '='] raw = none)
include hnone

/-- A text with `=` and none of the signs before. -/
theorem readTerm_equals (hsplit : splitOnce? ['='] raw = some (u, v)) : readTerm raw =
    (do return .equals (← readKey u raw) (String.ofList (trim (v.dropWhile (· == '='))))) := by
  unfold readTerm
  rw [contains_eq_false_iff.2 hopen, hnone, hsplit]
  rfl

variable (hequal : splitOnce? ['='] raw = none)
include hequal

/-- A text that begins with `!` and has none of the signs before. -/
theorem readTerm_absent (hraw : raw = '!' :: u) :
    readTerm raw = (do return .absent (← readKey u raw)) := by
  unfold readTerm
  rw [contains_eq_false_iff.2 hopen, hnone, hequal]
  subst hraw
  rfl

/-- Any other text without these signs. -/
theorem readTerm_present (hraw : ∀ u, raw ≠ '!' :: u) :
    readTerm raw = (do return .present (← readKey raw raw)) := by
  unfold readTerm
  rw [contains_eq_false_iff.2 hopen, hnone, hequal, if_neg Bool.false_ne_true]
  dsimp only
  split
  · exact absurd rfl (hraw _)
  · rfl

end

/-- A text with parentheses. -/
theorem readTerm_set (h : ¬Unenclosed raw) : readTerm raw = readSet raw := by
  rw [← contains_eq_false_iff, Bool.not_eq_false] at h
  unfold readTerm
  rw [if_pos h]

/-- **Every phrase** is read as its term. -/
theorem readTerm_phrase (φ : Phrase) : readTerm φ.chars = .ok φ.term := by
  cases φ with
  | present key hkey =>
    have hsign : '=' ∉ key.toList := hkey.not_mem rfl
    have hraw : ∀ u, key.toList ≠ '!' :: u := by
      intro u hu
      refine hkey.not_mem (c := '!') rfl ?_
      rw [hu]
      exact List.mem_cons_self
    rw [Phrase.chars, readTerm_present (unenclosed_of_plain hkey.plain)
      (splitOnce?_eq_none (by simp) hsign) (splitOnce?_eq_none (by simp) hsign) hraw,
      readKey_eq hkey]
    rfl
  | absent gap key hgap hkey =>
    have hopen : Unenclosed (['!'] ++ gap ++ key.toList) :=
      unenclosed_append.2
        ⟨unenclosed_append.2 ⟨by decide, hgap.unenclosed⟩, unenclosed_of_plain hkey.plain⟩
    have hsign : '=' ∉ ['!'] ++ gap ++ key.toList := by
      simp [hgap.not_mem (c := '=') rfl, hkey.not_mem (c := '=') rfl]
    have htrim : trim (gap ++ key.toList) = key.toList := by
      have hblank := trim_surround (b := []) hgap hkey.trimmed nofun
      rwa [List.append_nil] at hblank
    rw [Phrase.chars, readTerm_absent (u := gap ++ key.toList) hopen
      (splitOnce?_eq_none (by simp) hsign) (splitOnce?_eq_none (by simp) hsign) rfl,
      readKey_of_trim hkey htrim]
    rfl
  | differs key gap value hkey hgap hvalue =>
    have hopen := unenclosed_signed ['!', '='] hkey hgap (by decide) hvalue
    have hfront : '!' ∉ key.toList ++ gap := not_mem_front hkey hgap rfl rfl
    have hsplit : splitOnce? ['!', '='] (key.toList ++ gap ++ ['!', '='] ++ value) =
        some (key.toList ++ gap, value) := splitOnce?_append hfront value
    rw [Phrase.chars, readTerm_differs hopen hsplit, readKey_front hkey hgap]
    rfl
  | equals key gap value hkey hgap hvalue hsign =>
    have hopen := unenclosed_signed ['='] hkey hgap (by decide) hvalue
    have hnone := (splitOnce?_eq_none_iff (List.cons_ne_nil '!' ['='])).2 hsign
    have hfront : '=' ∉ key.toList ++ gap := not_mem_front hkey hgap rfl rfl
    have hsplit : splitOnce? ['='] (key.toList ++ gap ++ ['='] ++ value) =
        some (key.toList ++ gap, value) := splitOnce?_append hfront value
    rw [Phrase.chars, readTerm_equals hopen hnone hsplit, readKey_front hkey hgap]
    rfl
  | set operator key gap gap' parts hkey hgap hgap' hparts hvalue =>
    rw [readTerm_set (fun h => h.1 (by simp [Phrase.chars])), Phrase.chars,
      (setParts_of_gaps operator hkey hgap hgap' hparts hvalue).readSet_eq]
    rfl

/-- Parts that make the same text are the same. -/
theorem joinWith_inj {qs : List (List Char)} (hp : ∀ p ∈ ps, ',' ∉ p) (hq : ∀ q ∈ qs, ',' ∉ q)
    (hps : ps ≠ []) (hqs : qs ≠ []) (h : joinWith [','] ps = joinWith [','] qs) : ps = qs := by
  rw [← splitOn_joinWith hp hps, h, splitOn_joinWith hq hqs]

/-- **No text has two derivations.** -/
theorem Phrase.chars_injective : Function.Injective Phrase.chars := by
  intro φ ψ h
  -- both are read as their terms, so they are of one kind and about one key
  have hterm : φ.term = ψ.term :=
    Except.ok.inj ((readTerm_phrase φ).symm.trans (h ▸ readTerm_phrase ψ))
  cases φ with
  | present key hkey =>
    cases ψ with
    | present key' hkey' =>
      cases hterm
      rfl
    | absent | differs | equals => cases hterm
    | set operator => cases operator <;> cases hterm
  | absent gap key hgap hkey =>
    cases ψ with
    | absent gap' key' hgap' hkey' =>
      obtain rfl := Term.absent.inj hterm
      obtain rfl := List.append_cancel_left (List.append_cancel_right h)
      rfl
    | present | differs | equals => cases hterm
    | set operator => cases operator <;> cases hterm
  | differs key gap value hkey hgap hvalue =>
    cases ψ with
    | differs key' gap' value' hkey' hgap' hvalue' =>
      obtain ⟨rfl, -⟩ := Term.differs.inj hterm
      simp only [chars, List.append_assoc, List.append_cancel_left_eq] at h
      obtain ⟨rfl, hrest⟩ := hgap.cancel hgap' (by decide) h
      obtain ⟨-, rfl⟩ := List.cons.inj hrest
      rfl
    | present | absent | equals => cases hterm
    | set operator => cases operator <;> cases hterm
  | equals key gap value hkey hgap hvalue hsign =>
    cases ψ with
    | equals key' gap' value' hkey' hgap' hvalue' hsign' =>
      obtain ⟨rfl, -⟩ := Term.equals.inj hterm
      simp only [chars, List.append_assoc, List.append_cancel_left_eq] at h
      obtain ⟨rfl, rfl⟩ := hgap.cancel hgap' (by decide) h
      rfl
    | present | absent | differs => cases hterm
    | set operator => cases operator <;> cases hterm
  | set operator key gap gap₁ parts hkey hgap hgap₁ hparts hvalue =>
    cases ψ with
    | set operator' key' gap' gap₁' parts' hkey' hgap' hgap₁' hparts' hvalue' =>
      obtain ⟨rfl, rfl⟩ := SetOperator.term_inj hterm
      obtain ⟨c, w, hw⟩ := List.exists_cons_of_ne_nil operator.labelKey.nonempty
      have hc := operator.labelKey.not_isBlank c (by rw [hw]; exact List.mem_cons_self)
      simp only [chars, hw, List.append_assoc, List.cons_append, List.append_cancel_left_eq] at h
      obtain ⟨rfl, hrest⟩ := hgap.1.cancel hgap'.1 hc h
      obtain ⟨rfl, hset⟩ := hgap₁.cancel hgap₁' (by decide) (List.append_cancel_left hrest)
      obtain rfl := joinWith_inj hparts hparts' (ne_nil_of_value hvalue) (ne_nil_of_value hvalue')
        (List.append_cancel_right hset)
      rfl
    | present | absent | differs | equals => cases operator <;> cases hterm

/-- What stands in front of something else in a trimmed text has blanks only at its end. -/
theorem exists_gap (hraw : Trimmed (u ++ v)) (htrim : s = trim u) : ∃ g, Gap g ∧ u = s ++ g := by
  obtain ⟨a, g, hu, ha, hg⟩ := exists_eq_trim u
  rw [← htrim] at hu
  rw [hu, List.append_assoc, List.append_assoc] at hraw
  obtain rfl := hraw.front_eq_nil ha
  exact ⟨g, hg, hu⟩

/-- The text of a set is a phrase. -/
theorem exists_set_phrase (hraw : Trimmed raw) (h : readSet raw = .ok t) :
    ∃ φ : Phrase, φ.chars = raw ∧ φ.term = t := by
  obtain ⟨head, inner, word, key, hset⟩ := readSet_eq_ok_iff.1 h
  obtain ⟨b, rfl, hb⟩ := hset.text
  obtain ⟨k, hwords, htrim⟩ := hset.headWords
  -- nothing stands in front of the key or behind the closing parenthesis
  obtain rfl : b = [] := by
    rw [List.append_cons inner, ← List.cons_append, ← List.append_assoc] at hraw
    exact hraw.back_eq_nil hb
  obtain ⟨a, g, g', rfl, ha, hk, hg, hg'⟩ := exists_of_words_pair hwords
  obtain rfl : a = [] := by
    simp only [List.append_assoc] at hraw
    exact hraw.front_eq_nil ha
  obtain rfl := (trim_eq (trimmed_of_not_isBlank hk)).symm.trans htrim
  obtain ⟨operator, rfl, rfl⟩ : ∃ operator : SetOperator, word = operator.word.toList ∧
      t = operator.term key (setValues inner) := by
    rcases hset.term with ⟨hword, hterm⟩ | ⟨hword, hterm⟩
    · exact ⟨.among, hword, hterm⟩
    · exact ⟨.outside, hword, hterm⟩
  refine ⟨.set operator key g g' (splitOn ',' inner) hset.labelKey ⟨hg.2, hg.1⟩ hg'
    (fun p hp => not_mem_of_mem_splitOn hp) (valuesOf_ne_nil_iff.1 hset.values), ?_, rfl⟩
  simp only [Phrase.chars, joinWith_splitOn, List.nil_append]

/-- **Nothing but phrases is read.** -/
theorem exists_phrase (hraw : Trimmed raw) (h : readTerm raw = .ok t) :
    ∃ φ : Phrase, φ.chars = raw ∧ φ.term = t := by
  by_cases hopen : Unenclosed raw
  · cases hdiffers : splitOnce? ['!', '='] raw with
    | some parts =>
      obtain ⟨u, v⟩ := parts
      rw [readTerm_differs hopen hdiffers] at h
      obtain ⟨key, hkey, htrim, rfl⟩ := exists_key h
      obtain rfl := splitOnce?_eq_some hdiffers
      rw [List.append_assoc] at hraw
      obtain ⟨g, hg, rfl⟩ := exists_gap hraw htrim
      exact ⟨.differs key g v hkey hg (unenclosed_append.1 hopen).2, rfl, rfl⟩
    | none =>
      cases hequal : splitOnce? ['='] raw with
      | some parts =>
        obtain ⟨u, v⟩ := parts
        rw [readTerm_equals hopen hdiffers hequal] at h
        obtain ⟨key, hkey, htrim, rfl⟩ := exists_key h
        rw [splitOnce?_eq_none_iff (List.cons_ne_nil _ _)] at hdiffers
        obtain rfl := splitOnce?_eq_some hequal
        rw [List.append_assoc] at hraw
        obtain ⟨g, hg, rfl⟩ := exists_gap hraw htrim
        exact ⟨.equals key g v hkey hg (unenclosed_append.1 hopen).2 hdiffers, rfl, rfl⟩
      | none =>
        by_cases habsent : ∃ u, raw = '!' :: u
        · obtain ⟨u, rfl⟩ := habsent
          rw [readTerm_absent hopen hdiffers hequal rfl] at h
          obtain ⟨key, hkey, htrim, rfl⟩ := exists_key h
          obtain ⟨g, b, hu, hg, hb⟩ := exists_eq_trim u
          rw [← htrim] at hu
          rw [hu, ← List.cons_append] at hraw
          obtain rfl := hraw.back_eq_nil hb
          rw [List.append_nil] at hu
          exact ⟨.absent g key hg hkey, by rw [hu]; rfl, rfl⟩
        · rw [readTerm_present hopen hdiffers hequal fun u hu => habsent ⟨u, hu⟩] at h
          obtain ⟨key, hkey, htrim, rfl⟩ := exists_key h
          rw [trim_eq hraw] at htrim
          exact ⟨.present key hkey, htrim, rfl⟩
  · rw [readTerm_set hopen] at h
    exact exists_set_phrase hraw h

/-- **A trimmed text is read as a term** exactly if a phrase of it stands for the term. -/
theorem readTerm_eq_ok_iff (hraw : Trimmed raw) :
    readTerm raw = .ok t ↔ ∃ φ : Phrase, φ.chars = raw ∧ φ.term = t := by
  constructor
  · exact exists_phrase hraw
  · rintro ⟨φ, rfl, rfl⟩
    exact readTerm_phrase φ

end Fleet.Selector
