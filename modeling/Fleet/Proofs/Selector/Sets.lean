import Fleet.Proofs.Selector.Key

/-!
# Set terms

A set term is a key, an operator and values in parentheses.

* `ValueSet`: the values that come back from between parentheses.
* `SetParts`, `readSet_eq_ok_iff`: **the parts of any text that is read as a set.**
* `setParts_of_gaps`: a set term, however it is spaced, has these parts.
* `SetParts.valueSet`: **what is read between parentheses** are such values.
* `not_mem_of_readSet`: there is no sign in front of them.
-/

namespace Fleet

open Text

/-- Values of a set: each is there and has no blanks at its ends and no commas, and joined by commas
they stay within the parentheses around them. -/
structure ValueSet (values : List String) : Prop where
  nonempty : values ≠ []
  value : ∀ v ∈ values, v.toList ≠ [] ∧ Trimmed v.toList ∧ ',' ∉ v.toList
  enclosed : Selector.Within 1 (Term.setText values) 1

namespace Selector

/-- The operators on sets of values. -/
inductive SetOperator where
  | among | outside
  deriving DecidableEq, Repr

/-- The word for an operator. -/
def SetOperator.word : SetOperator → String
  | among => "in"
  | outside => "notin"

/-- The term that an operator makes of a key and values. -/
def SetOperator.term : SetOperator → String → List String → Term
  | among => .oneOf
  | outside => .noneOf

/-- A text of nothing but blanks, or of nothing. -/
def Gap (s : List Char) : Prop := ∀ c ∈ s, isBlank c = true

/-- The values among the parts of a set: blanks around them are dropped, and empty ones left out. -/
def valuesOf (parts : List (List Char)) : List String :=
  ((parts.map trim).filter (!·.isEmpty)).map String.ofList

variable {c : Char} {s u v g raw : List Char} {key operator : String} {values : List String}
  {parts : List (List Char)} {t : Term}

theorem Gap.not_mem (h : Gap g) (hc : isBlank c = false) : c ∉ g := by
  intro hmem
  rw [h c hmem] at hc
  cases hc

/-- A set term, its parts written out. -/
def setChars (key operator : String) (values : List String) : List Char :=
  key.toList ++ ' ' :: operator.toList ++ [' ', '('] ++ Term.setText values ++ [')']

theorem chars_oneOf : (Term.oneOf key values).chars = setChars key "in" values := by
  simp [setChars, Term.chars]

theorem chars_noneOf : (Term.noneOf key values).chars = setChars key "notin" values := by
  simp [setChars, Term.chars]

/-- The operators of sets are written like keys. -/
theorem labelKey_in : LabelKey "in" := isKey_iff.1 rfl

theorem labelKey_notin : LabelKey "notin" := isKey_iff.1 rfl

theorem SetOperator.labelKey (operator : SetOperator) : LabelKey operator.word := by
  cases operator with
  | among => exact labelKey_in
  | outside => exact labelKey_notin

/-- What is neither blank nor in a key is not in a key with blanks behind it. -/
theorem not_mem_front (hkey : LabelKey key) (hg : Gap g) (hc : isKeyChar c = false)
    (hblank : isBlank c = false) : c ∉ key.toList ++ g :=
  List.not_mem_append (hkey.not_mem hc) (hg.not_mem hblank)

theorem within_setChars (hkey : LabelKey key) (hoperator : LabelKey operator)
    (hvalues : ValueSet values) : Within 0 (setChars key operator values) 0 := by
  have hplain : Plain (key.toList ++ ' ' :: operator.toList) :=
    plain_append.2 ⟨hkey.plain, plain_cons.2 ⟨rfl, hoperator.plain⟩⟩
  have hopen : Within 0 [' ', '('] 1 := by simp [within_cons, within_nil, rise]
  have hclose : Within 1 [')'] 0 := by simp [within_cons, within_nil, rise]
  have hfront := (within_of_plain hplain (Int.le_refl 0)).append hopen
  exact (hfront.append hvalues.enclosed).append hclose

theorem ne_nil_of_value (h : ∃ p ∈ parts, trim p ≠ []) : parts ≠ [] := by
  obtain ⟨p, hp, -⟩ := h
  exact List.ne_nil_of_mem hp

theorem setValues_joinWith (h : ∀ p ∈ parts, ',' ∉ p) (hne : parts ≠ []) :
    setValues (joinWith [','] parts) = valuesOf parts := by
  rw [setValues, splitOn_joinWith h hne, valuesOf]

theorem valuesOf_ne_nil_iff : valuesOf parts ≠ [] ↔ ∃ p ∈ parts, trim p ≠ [] := by
  simp [valuesOf, List.filter_eq_nil_iff]

/-- The values of a set are those of their texts. -/
theorem valuesOf_map_toList (h : ValueSet values) :
    valuesOf (values.map String.toList) = values := by
  have htrim : (values.map String.toList).map trim = values.map String.toList := by
    rw [List.map_map]
    exact List.map_congr_left fun v hv => trim_eq (h.value v hv).2.1
  have hfilter : (values.map String.toList).filter (!·.isEmpty) = values.map String.toList := by
    refine List.filter_eq_self.2 fun q hq => ?_
    obtain ⟨v, hv, rfl⟩ := List.mem_map.1 hq
    simpa using (h.value v hv).1
  rw [valuesOf, htrim, hfilter, List.map_map]
  simp [Function.comp_def]

theorem not_mem_of_valueSet (h : ValueSet values) : ∀ p ∈ values.map String.toList, ',' ∉ p := by
  intro p hp
  obtain ⟨v, hv, rfl⟩ := List.mem_map.1 hp
  exact (h.value v hv).2.2

theorem exists_trim_of_valueSet (h : ValueSet values) :
    ∃ p ∈ values.map String.toList, trim p ≠ [] :=
  valuesOf_ne_nil_iff.1 (by rw [valuesOf_map_toList h]; exact h.nonempty)

/-- The values read between parentheses. -/
theorem valueSet_setValues {inner : List Char} (h : Within 1 inner 1) (hne : setValues inner ≠ []) :
    ValueSet (setValues inner) where
  nonempty := hne
  value w hw := by
    obtain ⟨q, hq, rfl⟩ := List.mem_map.1 hw
    obtain ⟨hq, hsome⟩ := List.mem_filter.1 hq
    obtain ⟨p, hp, rfl⟩ := List.mem_map.1 hq
    have hcomma := not_mem_of_mem_splitOn hp
    rw [String.toList_ofList]
    exact ⟨by simpa using hsome, trimmed_trim p, fun hc => hcomma ((trim_isInfix p).subset hc)⟩
  enclosed := by
    rw [← joinWith_splitOn ',' inner] at h
    have hclean := h.clean
    rw [Term.setText, setValues, List.map_map]
    simpa [Function.comp_def] using hclean

/-- The parts of a text that is read as a set: what stands before the first parenthesis and between
it and the last, and the key, the operator and the values that come of them. -/
structure SetParts (raw : List Char) (t : Term) (head inner operator : List Char) (key : String) :
    Prop where
  text : ∃ b, raw = head ++ '(' :: (inner ++ ')' :: b) ∧ ∀ c ∈ b, isBlank c = true
  first : '(' ∉ head
  headWords : ∃ k, words head = [k, operator] ∧ trim k = key.toList
  labelKey : LabelKey key
  values : setValues inner ≠ []
  term : operator = "in".toList ∧ t = .oneOf key (setValues inner) ∨
    operator = "notin".toList ∧ t = .noneOf key (setValues inner)

/-- Only a text with these parts is read as a set. -/
theorem exists_of_readSet (h : readSet raw = .ok t) :
    ∃ head inner operator key, SetParts raw t head inner operator key := by
  unfold readSet at h
  cases hsplit : splitOnce? ['('] raw with
  | none => simp [hsplit] at h
  | some parts =>
    obtain ⟨head, rest⟩ := parts
    cases hend : dropEnd? [')'] (trimEnd rest) with
    | none => simp [hsplit, hend] at h
    | some inner =>
      obtain ⟨b, hb, hblank⟩ := exists_eq_trimEnd rest
      rw [dropEnd?_eq_some_iff.1 hend] at hb
      have htext : raw = head ++ '(' :: (inner ++ ')' :: b) := by
        rw [splitOnce?_eq_some hsplit, hb]
        simp
      simp only [hsplit, hend] at h
      split at h
      · rename_i k operator hwords
        cases hkey : readKey k raw with
        | error fault => simp [hkey, bind, Except.bind] at h
        | ok key =>
          obtain ⟨hlabel, htrim⟩ := labelKey_of_readKey hkey
          simp only [hkey, bind, Except.bind] at h
          split at h
          · cases h
          · rename_i hsome
            have hne : setValues inner ≠ [] := by simpa using hsome
            refine ⟨head, inner, operator, key, ⟨b, htext, hblank⟩, not_mem_of_splitOnce? hsplit,
              ⟨k, hwords, htrim.symm⟩, hlabel, hne, ?_⟩
            split at h
            · rename_i hin
              exact .inl ⟨hin, (Except.ok.inj h).symm⟩
            · split at h
              · rename_i hnotin
                exact .inr ⟨hnotin, (Except.ok.inj h).symm⟩
              · cases h
      · cases h

/-- A text with these parts is read as a set. -/
theorem SetParts.readSet_eq {head inner operator : List Char}
    (h : SetParts raw t head inner operator key) : readSet raw = .ok t := by
  obtain ⟨b, htext, hblank⟩ := h.text
  have hsplit : splitOnce? ['('] raw = some (head, inner ++ ')' :: b) := by
    rw [htext, List.append_cons]
    exact splitOnce?_append h.first _
  have hend : trimEnd (inner ++ ')' :: b) = inner ++ [')'] := by
    rw [List.append_cons, trimEnd_append hblank]
    refine trimEnd_eq fun c hc => ?_
    rw [List.getLast?_concat] at hc
    cases hc
    rfl
  obtain ⟨k, hwords, htrim⟩ := h.headWords
  have hsome : (setValues inner).isEmpty = false := List.isEmpty_eq_false_iff.2 h.values
  rw [readSet, hsplit]
  dsimp only
  rw [hend, dropEnd?_eq_some_iff.2 rfl]
  dsimp only
  rw [hwords]
  dsimp only
  rw [readKey_of_trim h.labelKey htrim]
  dsimp only [bind, Except.bind]
  rw [hsome]
  rcases h.term with ⟨rfl, rfl⟩ | ⟨rfl, rfl⟩
  · rfl
  · rfl

/-- **The texts that are read as a set** are those with these parts. -/
theorem readSet_eq_ok_iff : readSet raw = .ok t ↔
    ∃ head inner operator key, SetParts raw t head inner operator key :=
  ⟨exists_of_readSet, fun ⟨_, _, _, _, h⟩ => h.readSet_eq⟩

/-- The parts of a set term, however it is spaced. -/
theorem setParts_of_gaps (operator : SetOperator) {g' : List Char} (hkey : LabelKey key)
    (hg : Gap g ∧ g ≠ []) (hg' : Gap g') (hparts : ∀ p ∈ parts, ',' ∉ p)
    (hvalue : ∃ p ∈ parts, trim p ≠ []) :
    SetParts (key.toList ++ g ++ operator.word.toList ++ g' ++
        '(' :: (joinWith [','] parts ++ [')'])) (operator.term key (valuesOf parts))
      (key.toList ++ g ++ operator.word.toList ++ g') (joinWith [','] parts)
      operator.word.toList key := by
  have hword := operator.labelKey
  have hvalues := setValues_joinWith hparts (ne_nil_of_value hvalue)
  exact {
    text := ⟨[], rfl, nofun⟩
    first := List.not_mem_append (List.not_mem_append (not_mem_front hkey hg.1 rfl rfl)
      (hword.not_mem rfl)) (hg'.not_mem rfl)
    headWords := by
      refine ⟨key.toList, ?_, trim_eq hkey.trimmed⟩
      rw [words_append_blank hg', words_gap hg.1 hg.2,
        words_eq_singleton hkey.not_isBlank hkey.nonempty,
        words_eq_singleton hword.not_isBlank hword.nonempty]
      rfl
    labelKey := hkey
    values := by
      rw [hvalues]
      exact valuesOf_ne_nil_iff.2 hvalue
    term := by
      rw [hvalues]
      cases operator with
      | among => exact .inl ⟨rfl, rfl⟩
      | outside => exact .inr ⟨rfl, rfl⟩ }

/-- What stands between the parentheses of a text that closes what it opens are values of a set. -/
theorem SetParts.valueSet {head inner operator : List Char}
    (h : SetParts raw t head inner operator key) (hraw : Within 0 raw 0) :
    ValueSet (setValues inner) := by
  obtain ⟨b, htext, hblank⟩ := h.text
  rw [htext, within_append] at hraw
  obtain ⟨hfirst, hrest⟩ := hraw
  -- nothing is open before the first parenthesis, and only blanks follow the last
  have hlow := level_nonpos h.first
  have hhigh := hfirst.nonneg head List.prefix_rfl
  have hzero : level head = 0 := by omega
  rw [hzero, within_cons, within_append] at hrest
  obtain ⟨-, -, hinner, hlast⟩ := hrest
  have hopen : (0 : Int) + 0 + rise '(' = 1 := rfl
  have hclose : rise ')' = -1 := rfl
  rw [hopen] at hinner hlast
  have hafter := hlast.after
  rw [level_cons, level_of_blank hblank, hclose] at hafter
  have hlevel : 1 + level inner = 1 := by omega
  rw [hlevel] at hinner
  exact valueSet_setValues hinner h.values

/-- There is no sign in front of the values of a set. -/
theorem not_mem_of_readSet {head rest : List Char} (h : readSet raw = .ok t)
    (htext : raw = head ++ '(' :: rest) (hfirst : '(' ∉ head) : '=' ∉ head := by
  intro hsign
  obtain ⟨head', inner, operator, key, hparts⟩ := exists_of_readSet h
  obtain ⟨b, htext', -⟩ := hparts.text
  obtain ⟨rfl, -⟩ := eq_of_append_cons hfirst hparts.first (htext.symm.trans htext')
  obtain ⟨k, hwords, htrim⟩ := hparts.headWords
  obtain ⟨w, hw, hmem⟩ := exists_mem_words hsign (by decide)
  rw [hwords] at hw
  rcases List.mem_pair.1 hw with rfl | rfl
  · have hkey := mem_trim hmem (by decide)
    rw [htrim] at hkey
    exact hparts.labelKey.not_mem (by decide) hkey
  · rcases hparts.term with ⟨rfl, -⟩ | ⟨rfl, -⟩
    · exact labelKey_in.not_mem (by decide) hmem
    · exact labelKey_notin.not_mem (by decide) hmem

end Selector

end Fleet
