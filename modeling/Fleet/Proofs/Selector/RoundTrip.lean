import Fleet.Proofs.Selector.Splitting
import Fleet.Proofs.Selector.Term

/-!
# Selectors, written and read

A selector is sent as text and read again on the other side.

* `parse_text_of_readable`: what is read from the text of readable terms.
* `parse_text_iff`: **a selector comes back from its text exactly if every term is well-formed.**
* `parse_text_parse`: a selector that was read is read again as itself, except where an equals value
  begins with the sign.
-/

namespace Fleet.Selector

open Text

variable {x : String} {s : Selector} {t : Term} {ts : List Term} {ps : List (List Char)}

/-- A blank piece is left out. -/
theorem readTerms_blank {p : List Char} (hp : trim p = []) (ps : List (List Char)) :
    readTerms (p :: ps) = readTerms ps := by
  rw [readTerms, if_pos (List.isEmpty_iff.2 hp)]

/-- Any other piece is a term. -/
theorem readTerms_cons {p : List Char} (hp : trim p ≠ []) (ps : List (List Char)) :
    readTerms (p :: ps) = (do return (← readTerm (trim p)) :: (← readTerms ps)) := by
  rw [readTerms, if_neg (by rwa [List.isEmpty_iff])]

/-- Terms are read one after the other. -/
theorem readTerms_chars (h : ∀ t ∈ ts, t.Readable) :
    readTerms (ts.map Term.chars) = .ok (ts.map Term.settled) := by
  induction ts with
  | nil => rfl
  | cons t ts ih =>
    obtain ⟨ht, hts⟩ := List.forall_mem_cons.1 h
    have htrim := trim_eq ht.trimmed
    have hsome : trim t.chars ≠ [] := by
      rw [htrim]
      exact ht.chars_ne_nil
    rw [List.map_cons, readTerms_cons hsome, htrim, readTerm_chars ht, ih hts]
    rfl

/-- A text is read by its pieces. -/
theorem parse_eq (x : String) : parse x =
    (pieces? 0 x.toList).elim (.error (.badTerm .unbalanced x)) fun ps =>
      (readTerms ps).map Selector.mk := by
  unfold parse
  simp only [split?_eq, Option.get_some]
  cases pieces? 0 x.toList with
  | none => rw [Option.elim_none, Option.elim_none, unbalanced, String.ofList_toList]
  | some ps => rfl

/-- The text of readable terms reads as the settled terms. -/
theorem parse_text_of_readable (h : ∀ t ∈ s.terms, t.Readable) :
    parse s.text = .ok ⟨s.terms.map Term.settled⟩ := by
  have hread := readTerms_chars h
  rcases s with ⟨ts⟩
  rcases eq_or_ne ts [] with rfl | hne
  · rfl
  · have hwithin : ∀ p ∈ ts.map Term.chars, Within 0 p 0 := by
      intro p hp
      obtain ⟨t, ht, rfl⟩ := List.mem_map.1 hp
      exact (h t ht).within
    have hpieces := pieces?_join hwithin (by simpa using hne)
    rw [parse_eq, text, String.toList_ofList, hpieces, Option.elim_some, hread]
    rfl

/-- A piece that is not blank is read as a term. -/
theorem exists_of_readTerms {p : List Char} (hp : trim p ≠ []) (h : readTerms (p :: ps) = .ok ts) :
    ∃ t rest, readTerm (trim p) = .ok t ∧ readTerms ps = .ok rest ∧ ts = t :: rest := by
  rw [readTerms_cons hp] at h
  cases hterm : readTerm (trim p) with
  | error fault => simp [hterm, bind, Except.bind] at h
  | ok t =>
    cases hrest : readTerms ps with
    | error fault => simp [hterm, hrest, bind, Except.bind] at h
    | ok rest =>
      simp only [hterm, hrest, bind, Except.bind] at h
      exact ⟨t, rest, rfl, rfl, (Except.ok.inj h).symm⟩

/-- What is read from pieces is readable. -/
theorem readable_of_readTerms (hps : ∀ p ∈ ps, Within 0 p 0) (h : readTerms ps = .ok ts) :
    ∀ t ∈ ts, t.Readable := by
  induction ps generalizing ts with
  | nil =>
    cases h
    simp
  | cons p ps ih =>
    obtain ⟨hp, hps⟩ := List.forall_mem_cons.1 hps
    by_cases hblank : trim p = []
    · rw [readTerms_blank hblank] at h
      exact ih hps h
    · obtain ⟨t, rest, hterm, hrest, rfl⟩ := exists_of_readTerms hblank h
      have hreadable := readable_of_readTerm (trimmed_trim p) hp.trim hterm
      exact List.forall_mem_cons.2 ⟨hreadable, ih hps hrest⟩

/-- What a text is read as comes from its pieces. -/
theorem exists_of_parse (h : parse x = .ok s) :
    ∃ ps, pieces? 0 x.toList = some ps ∧ readTerms ps = .ok s.terms := by
  rw [parse_eq] at h
  cases hpieces : pieces? 0 x.toList with
  | none => simp [hpieces] at h
  | some ps =>
    rw [hpieces, Option.elim_some] at h
    cases hread : readTerms ps with
    | error fault => simp [hread, Except.map] at h
    | ok ts =>
      rw [hread] at h
      cases h
      exact ⟨ps, rfl, hread⟩

/-- **A text is read** as what its pieces are read as. -/
theorem parse_eq_ok_iff : parse x = .ok s ↔
    ∃ ps, pieces? 0 x.toList = some ps ∧ readTerms ps = .ok s.terms := by
  refine ⟨exists_of_parse, ?_⟩
  rintro ⟨ps, hpieces, hread⟩
  rw [parse_eq, hpieces, Option.elim_some, hread]
  rfl

/-- Every term that was read is readable. -/
theorem readable_of_parse (h : parse x = .ok s) : ∀ t ∈ s.terms, t.Readable := by
  obtain ⟨ps, hpieces, hread⟩ := exists_of_parse h
  exact readable_of_readTerms (within_of_pieces? hpieces) hread

/-- A well-formed selector comes back from its text. -/
theorem parse_text_of_wellFormed (h : ∀ t ∈ s.terms, t.WellFormed) : parse s.text = .ok s := by
  have hreadable : ∀ t ∈ s.terms, t.Readable := fun t ht => (Term.wellFormed_iff.1 (h t ht)).1
  have hmap : s.terms.map Term.settled = s.terms :=
    (List.map_congr_left fun t ht => (Term.wellFormed_iff.1 (h t ht)).2).trans (List.map_id _)
  rw [parse_text_of_readable hreadable, hmap]

/-- What comes back from its text is well-formed. -/
theorem wellFormed_of_parse_text (h : parse s.text = .ok s) : ∀ t ∈ s.terms, t.WellFormed := by
  have hreadable := readable_of_parse h
  -- the text also reads as the settled terms, so each of them is settled already
  have hsettled := (parse_text_of_readable hreadable).symm.trans h
  have hmap : s.terms.map Term.settled = s.terms.map id := by
    rw [List.map_id]
    exact congrArg Selector.terms (Except.ok.inj hsettled)
  intro t ht
  exact Term.wellFormed_iff.2 ⟨hreadable t ht, List.map_inj_left.1 hmap t ht⟩

/-- **A selector comes back from its text** exactly if every term is well-formed. -/
theorem parse_text_iff (s : Selector) :
    parse s.text = .ok s ↔ ∀ t ∈ s.terms, t.WellFormed :=
  ⟨wellFormed_of_parse_text, parse_text_of_wellFormed⟩

/-- **A selector that was read** is read again from its text as itself exactly if none of its equals
values begins with the sign. -/
theorem parse_text_parse (h : parse x = .ok s) :
    parse s.text = .ok s ↔
      ∀ key value, .equals key value ∈ s.terms → value.toList.head? ≠ some '=' := by
  have hreadable := readable_of_parse h
  constructor
  · intro hagain key value hterm
    obtain ⟨-, -, -, hhead⟩ := wellFormed_of_parse_text hagain _ hterm
    exact hhead
  · intro hhead
    refine parse_text_of_wellFormed fun t ht => ?_
    cases t with
    | equals key value =>
      obtain ⟨hkey, hvalue, hsign⟩ := hreadable _ ht
      exact ⟨hkey, hvalue, hsign, hhead key value ht⟩
    | differs | present | absent | oneOf | noneOf => exact hreadable _ ht

/-- Blanks, empty pieces and doubled signs are dropped, and what is left is read again. -/
theorem parse_text_parse_sets :
    parse " tier notin ( gold,, a b ),, app/name ==web ,env!= =x,!gone " = .ok
      ⟨[.noneOf "tier" ["gold", "a b"], .equals "app/name" "web", .differs "env" "=x",
        .absent "gone"]⟩ ∧
    parse (text ⟨[.noneOf "tier" ["gold", "a b"], .equals "app/name" "web", .differs "env" "=x",
      .absent "gone"]⟩) = .ok
      ⟨[.noneOf "tier" ["gold", "a b"], .equals "app/name" "web", .differs "env" "=x",
        .absent "gone"]⟩ := by
  have hread : parse " tier notin ( gold,, a b ),, app/name ==web ,env!= =x,!gone " = .ok
      ⟨[.noneOf "tier" ["gold", "a b"], .equals "app/name" "web", .differs "env" "=x",
        .absent "gone"]⟩ := by decide
  refine ⟨hread, (parse_text_parse hread).2 fun key value hterm => ?_⟩
  simp only [List.mem_cons, reduceCtorEq, Term.equals.injEq, List.not_mem_nil, or_false,
    false_or] at hterm
  obtain ⟨-, rfl⟩ := hterm
  decide

/-- A sign after a blank is kept as part of the value, and lost when the text is read again. -/
theorem equals_sign_lost : ¬∀ x s, parse x = .ok s → parse s.text = .ok s := by
  intro h
  have hread : parse "k= =x" = .ok ⟨[.equals "k" "=x"]⟩ := by decide
  have hagain := h _ _ hread
  have hlost : parse (text ⟨[.equals "k" "=x"]⟩) = .ok ⟨[.equals "k" "x"]⟩ := by decide
  rw [hlost] at hagain
  exact absurd hagain (by decide)

end Fleet.Selector
