import Fleet.Proofs.Selector.Agreement
import Fleet.Proofs.Selector.RoundTrip

/-!
# Selectors that are built

A selector is built from any strings, and it is sent as text. What the text is read as may be
another selector.

* `Built`: the selectors that are built.
* `Term.Unsplit`: the terms of a built selector whose text keeps them apart.
* `readable_of_unsplit`: if their text is read, then each of them is readable.
* `wellFormed_of_agree`: **a built selector whose text is read as one that accepts the same labels**
  is well-formed, unless it accepts nothing.
-/

namespace Fleet

open Text

namespace Term

/-- The term can be added to a selector that is being built. -/
def Buildable : Term → Prop
  | equals _ _ => True
  | present _ => True
  | absent _ => True
  | _ => False

/-- The key is one, and an equals value has no blanks at its ends and no commas. -/
def Unsplit : Term → Prop
  | equals key value => LabelKey key ∧ Trimmed value.toList ∧ ',' ∉ value.toList
  | present key => LabelKey key
  | absent key => LabelKey key
  | _ => False

end Term

namespace Selector

variable {s s' : Selector} {t : Term} {ts ts' : List Term} {ps : List (List Char)}
  {u v w p raw : List Char} {c : Char} {key value : String} {labels : Labels}

/-- The selectors that are built. -/
inductive Built : Selector → Prop
  | everything : Built .everything
  | equals {s : Selector} (key value : String) (h : Built s) : Built (s.equals key value)
  | present {s : Selector} (key : String) (h : Built s) : Built (s.present key)
  | absent {s : Selector} (key : String) (h : Built s) : Built (s.absent key)

theorem Built.buildable (h : s.Built) : ∀ t ∈ s.terms, t.Buildable := by
  have hadd {s : Selector} {t : Term} (hs : ∀ t ∈ s.terms, t.Buildable) (ht : t.Buildable) :
      ∀ t' ∈ (s.add t).terms, t'.Buildable := by
    intro t' ht'
    rcases List.mem_append.1 ht' with ht' | ht'
    · exact hs t' ht'
    · obtain rfl := List.mem_singleton.1 ht'
      exact ht
  induction h with
  | everything => exact fun t ht => absurd ht List.not_mem_nil
  | equals key value h ih => exact hadd ih trivial
  | present key h ih => exact hadd ih trivial
  | absent key h ih => exact hadd ih trivial

/-- A text with a sign in front of its first parenthesis is no term. -/
theorem readTerm_of_sign (hu : '(' ∉ u) (hsign : '=' ∈ u) (v : List Char) :
    ¬readTerm (trim (u ++ '(' :: v)) = .ok t := by
  intro hread
  obtain ⟨a, b, htext, ha, -⟩ := exists_eq_trim (u ++ '(' :: v)
  have hopen : '(' ∈ trim (u ++ '(' :: v) :=
    mem_trim (List.mem_append_right u List.mem_cons_self) (by decide)
  rw [readTerm_set fun h => h.1 hopen] at hread
  obtain ⟨head, rest, hraw, hfirst⟩ := List.eq_append_cons_of_mem hopen
  have hno := not_mem_of_readSet hread hraw hfirst
  -- only blanks were taken away in front, so both texts have the same first parenthesis
  have hblank : '(' ∉ a ++ head := by
    rw [List.mem_append, not_or]
    exact ⟨fun hmem => absurd (ha _ hmem) (by decide), hfirst⟩
  have hsame : u ++ '(' :: v = (a ++ head) ++ '(' :: (rest ++ b) := by
    rw [hraw] at htext
    simpa using htext
  obtain ⟨rfl, -⟩ := eq_of_append_cons hu hblank hsame
  rcases List.mem_append.1 hsign with hsign | hsign
  · exact absurd (ha _ hsign) (by decide)
  · exact hno hsign

/-- A text whose first parenthesis stands behind a sign is not read. -/
theorem readTerms_of_parenthesis (hu : Plain u) (hsign : '=' ∈ u)
    (hc : c = '(' ∨ c = ')') (hpieces : pieces? 0 (u ++ c :: w) = some ps) :
    ¬readTerms ps = .ok ts := by
  intro hread
  have hwithin : Within 0 u 0 := within_of_plain hu (Int.le_refl 0)
  rw [pieces?_append (d := 0) (e := 0) hwithin] at hpieces
  obtain ⟨qs, hqs, rfl⟩ := Option.map_eq_some_iff.1 hpieces
  rcases hc with rfl | rfl
  · rw [pieces?, if_pos rfl] at hqs
    obtain ⟨qs', hqs', rfl⟩ := Option.map_eq_some_iff.1 hqs
    obtain ⟨q, rest, rfl, -, -⟩ := apart_of_pieces? hqs'
    rw [show consFirst '(' (q :: rest) = ('(' :: q) :: rest from rfl, foldr_consFirst] at hread
    have hopen : '(' ∉ u := fun hmem => absurd (hu _ hmem) (by decide)
    have hne : trim (u ++ '(' :: q) ≠ [] := by
      refine List.ne_nil_of_mem (mem_trim (c := '(') ?_ (by decide))
      exact List.mem_append_right u List.mem_cons_self
    obtain ⟨t, rest', hterm, -, -⟩ := exists_of_readTerms hne hread
    exact readTerm_of_sign hopen hsign q hterm
  · -- nothing is open that could be closed
    cases hqs

/-- An equals term that is read as such does not look like the other sign. -/
theorem not_infix_of_readTerm (hkey : LabelKey key)
    (hplain : Plain (Term.equals key value).chars)
    (h : readTerm (Term.equals key value).chars = .ok t) : ¬['!', '='] <:+: value.toList := by
  intro hsign
  have hhead : '!' ∉ key.toList ++ ['='] := by simp [hkey.not_mem (c := '!') rfl]
  cases hsplit : splitOnce? ['!', '='] (Term.equals key value).chars with
  | none =>
    rw [splitOnce?_eq_none_iff (List.cons_ne_nil _ _), Term.chars, infix_append_iff hhead] at hsplit
    exact hsplit hsign
  | some parts =>
    obtain ⟨a, b⟩ := parts
    rw [readTerm_differs (unenclosed_of_plain hplain) hsplit] at h
    obtain ⟨name, hname, htrim, -⟩ := exists_key h
    -- the first sign belongs to what is taken for the key
    have htext : key.toList ++ ['='] ++ value.toList = a ++ (['!', '='] ++ b) := by
      rw [← List.append_assoc]
      exact splitOnce?_eq_some hsplit
    have hmem : '=' ∈ a := by
      rcases List.append_eq_append_iff.1 htext with ⟨r, rfl, -⟩ | ⟨r, heq, hr⟩
      · simp
      · cases r with
        | nil =>
          rw [List.append_nil] at heq
          rw [← heq]
          simp
        | cons d r =>
          obtain rfl : '!' = d := (List.cons.inj hr).1
          rw [heq] at hhead
          exact absurd (by simp) hhead
    have hletter := mem_trim hmem (by decide)
    rw [← htrim] at hletter
    exact hname.not_mem (by decide) hletter

theorem trimmed_of_unsplit (ht : t.Unsplit) : Trimmed t.chars ∧ t.chars ≠ [] := by
  cases t with
  | equals key value =>
    obtain ⟨hkey, hvalue, -⟩ := ht
    exact ⟨Term.trimmed_equals hkey hvalue, by simp [Term.chars]⟩
  | present key => exact ⟨LabelKey.trimmed ht, LabelKey.nonempty ht⟩
  | absent key => exact ⟨Term.trimmed_absent ht, List.cons_ne_nil _ _⟩
  | differs | oneOf | noneOf => exact ht.elim

/-- An unsplit term without parentheses that is read is readable. -/
theorem readable_of_plain {t' : Term} (ht : t.Unsplit) (hplain : Plain t.chars)
    (h : readTerm t.chars = .ok t') : t.Readable := by
  cases t with
  | equals key value =>
    obtain ⟨hkey, hvalue, -⟩ := ht
    have hplainValue : PlainValue value := plainValue_iff.2 ⟨hvalue, (plain_append.1 hplain).2⟩
    exact ⟨hkey, hplainValue, not_infix_of_readTerm hkey hplain h⟩
  | present key => exact ht
  | absent key => exact ht
  | differs | oneOf | noneOf => exact ht.elim

/-- The first parenthesis of an unsplit term, if there is one, stands behind its sign. -/
theorem plain_or_parenthesis (ht : t.Unsplit) : Plain t.chars ∨
    ∃ u c v, t.chars = u ++ c :: v ∧ Plain u ∧ '=' ∈ u ∧ (c = '(' ∨ c = ')') := by
  cases t with
  | present key => exact .inl (LabelKey.plain ht)
  | absent key => exact .inl (Term.plain_absent ht)
  | differs | oneOf | noneOf => exact ht.elim
  | equals key value =>
    obtain ⟨hkey, -, hcomma⟩ := ht
    have hfront : Plain (key.toList ++ ['=']) := plain_append.2 ⟨hkey.plain, by decide⟩
    rcases plain_or_exists value.toList with hvalue | ⟨u, c, v, hvalue, hu, hc⟩
    · exact .inl (plain_append.2 ⟨hfront, hvalue⟩)
    · have hne : c ≠ ',' := by
        rintro rfl
        rw [hvalue] at hcomma
        exact hcomma (by simp)
      have hparenthesis : c = '(' ∨ c = ')' := by
        simpa [isDelimiter, hne] using hc
      refine .inr ⟨key.toList ++ ['='] ++ u, c, v, ?_, plain_append.2 ⟨hfront, hu⟩, by simp,
        hparenthesis⟩
      rw [Term.chars, hvalue, List.append_assoc _ u]

/-- **What is read of the text of unsplit terms** shows that they are readable. -/
theorem readable_of_unsplit (h : ∀ t ∈ ts, t.Unsplit)
    (hpieces : pieces? 0 (joinWith [','] (ts.map Term.chars)) = some ps)
    (hread : readTerms ps = .ok ts') : ∀ t ∈ ts, t.Readable := by
  -- from the first term on, since the text of a term could reach into the next one
  induction ts generalizing ps ts' with
  | nil => exact fun t ht => absurd ht List.not_mem_nil
  | cons t ts ih =>
    obtain ⟨ht, hts⟩ := List.forall_mem_cons.1 h
    rw [List.map_cons] at hpieces
    rcases plain_or_parenthesis ht with hplain | ⟨u, c, v, hchars, hu, hsign, hc⟩
    · have hwithin : Within 0 t.chars 0 := within_of_plain hplain (Int.le_refl 0)
      obtain ⟨htrimmed, hne⟩ := trimmed_of_unsplit ht
      obtain ⟨qs, rfl, hqs⟩ := exists_of_pieces?_join hwithin hpieces
      obtain ⟨t', rest, hterm, hrest, -⟩ := exists_of_readTerms (by rwa [trim_eq htrimmed]) hread
      rw [trim_eq htrimmed] at hterm
      refine List.forall_mem_cons.2 ⟨readable_of_plain ht hplain hterm, ?_⟩
      rcases eq_or_ne ts [] with rfl | hts'
      · exact fun t ht => absurd ht List.not_mem_nil
      · exact ih hts (hqs (by simpa using hts')) hrest
    · -- the piece goes on behind the parenthesis, however far, and is not read
      obtain ⟨w, hw⟩ := exists_joinWith_cons (c := ',') t.chars (ts.map Term.chars)
      rw [hw, hchars, List.append_assoc, List.cons_append] at hpieces
      exact absurd hread (readTerms_of_parenthesis hu hsign hc hpieces)

theorem labelKey_of_readable (h : t.Readable) : LabelKey t.key := by
  cases t with
  | present key => exact h
  | absent key => exact h
  | equals | differs | oneOf | noneOf => exact h.1

/-- Whatever the label of a term that is built, some value of it refutes the term. -/
theorem exists_refutation (h : t.Buildable) :
    ∃ v, ∀ labels : Labels, labels.get? t.key = v → t.accepts labels = false := by
  cases t with
  | equals key value =>
    refine ⟨none, fun labels hlabels => ?_⟩
    rw [Term.key] at hlabels
    simp [Term.accepts, hlabels]
  | present key =>
    refine ⟨none, fun labels hlabels => ?_⟩
    rw [Term.key] at hlabels
    simp [Term.accepts, OrderedMap.contains, hlabels]
  | absent key =>
    refine ⟨some "", fun labels hlabels => ?_⟩
    rw [Term.key] at hlabels
    simp [Term.accepts, OrderedMap.contains, hlabels]
  | differs | oneOf | noneOf => exact h.elim

/-- A built selector that agrees with readable terms has no other keys, and no values that no term
could ask for. -/
theorem unsplit_of_agree (hbuilt : s.Built) (hreadable : ∀ t ∈ s'.terms, t.Readable)
    (hagree : ∀ labels, s.accepts labels = s'.accepts labels)
    (haccept : s.accepts labels = true) : ∀ t ∈ s.terms, t.Unsplit := by
  intro t ht
  have hkey : LabelKey t.key := by
    obtain ⟨v, hv⟩ := exists_refutation (hbuilt.buildable t ht)
    obtain ⟨t', ht', hsame, -⟩ := exists_refuting hagree haccept ht hv
    rw [← hsame]
    exact labelKey_of_readable (hreadable t' ht')
  cases t with
  | present key => exact hkey
  | absent key => exact hkey
  | differs | oneOf | noneOf => exact hbuilt.buildable _ ht
  | equals key value =>
    rcases exists_mention hagree haccept ht with hterm | ⟨values, hterm, hvalue⟩
    · obtain ⟨-, hplain, -⟩ := hreadable _ hterm
      exact ⟨hkey, hplain.trimmed, fun hc => (hplain.letters _ hc).1 rfl⟩
    · obtain ⟨-, hset⟩ := hreadable _ hterm
      obtain ⟨-, htrimmed, hcomma⟩ := hset.value value hvalue
      exact ⟨hkey, htrimmed, hcomma⟩

/-- **A built selector whose text is read as one that accepts the same labels** is well-formed,
unless it accepts nothing. -/
theorem wellFormed_of_agree (hbuilt : s.Built) (hparse : parse s.text = .ok s')
    (hagree : ∀ labels, s.accepts labels = s'.accepts labels)
    (haccept : s.accepts labels = true) : ∀ t ∈ s.terms, t.WellFormed := by
  have hunsplit := unsplit_of_agree hbuilt (readable_of_parse hparse) hagree haccept
  obtain ⟨ps, hpieces, hread⟩ := exists_of_parse hparse
  rw [text, String.toList_ofList] at hpieces
  have hreadable := readable_of_unsplit hunsplit hpieces hread
  obtain rfl : ⟨s.terms.map Term.settled⟩ = s' :=
    Except.ok.inj ((parse_text_of_readable hreadable).symm.trans hparse)
  intro t ht
  refine Term.wellFormed_iff.2 ⟨hreadable t ht, ?_⟩
  cases t with
  | differs | present | absent | oneOf | noneOf => rfl
  | equals key value =>
    -- the label has both values, the one that is asked for and the one that is read
    have hvalue : labels.get? key = some value := eq_of_beq (accepts_iff.1 haccept _ ht)
    rw [hagree] at haccept
    have hsettled : labels.get? key =
        some (String.ofList (trim (value.toList.dropWhile (· == '=')))) :=
      eq_of_beq (accepts_iff.1 haccept _ (List.mem_map_of_mem ht))
    rw [Term.settled, ← Option.some.inj (hvalue.symm.trans hsettled)]

end Selector

end Fleet
