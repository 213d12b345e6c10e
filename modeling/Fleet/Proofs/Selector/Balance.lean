import Fleet.Proofs.Selector.Pieces

/-!
# Balanced texts

Which texts are split into pieces, and into which.

* `Nested`, `Balanced`: a text closes no parenthesis that it has not opened, and leaves none open.
* `exists_pieces?_iff`: **the balanced texts are those that are split.**
* `Cut`: the pieces between the commas outside parentheses, `pieces?_eq_some_iff` that they are what
  a text is split into.
* `pieces?_joined`: **a comma between two texts** splits them from each other.
-/

namespace Fleet.Selector

open Text

variable {c : Char} {s u v : List Char} {ps qs : List (List Char)} {d : Nat}

/-- No start of the text closes more parentheses than it opens. -/
def Nested (s : List Char) : Prop := ∀ p, p <+: s → 0 ≤ level p

/-- The parentheses are balanced: none is closed that is not open, and none stays open. -/
structure Balanced (s : List Char) : Prop where
  nested : Nested s
  closed : level s = 0

/-- What holds at every start of a text is read one character at a time. -/
theorem forall_prefix_cons {d : Int} : (∀ p, p <+: c :: s → 0 ≤ d + level p) ↔
    0 ≤ d ∧ ∀ p, p <+: s → 0 ≤ d + rise c + level p := by
  constructor
  · intro h
    refine ⟨by simpa using h [] List.nil_prefix, fun p hp => ?_⟩
    have hcons := h (c :: p) (List.cons_prefix_cons.2 ⟨rfl, hp⟩)
    rw [level_cons] at hcons
    omega
  · rintro ⟨hd, h⟩ p hp
    rcases p with _ | ⟨a, p⟩
    · simpa using hd
    · obtain ⟨rfl, hs⟩ := List.cons_prefix_cons.1 hp
      have htail := h p hs
      rw [level_cons]
      omega

/-- A text is split if it closes what is open before it and nothing else. -/
theorem exists_pieces?_from_iff : (∃ ps, pieces? d s = some ps) ↔
    (∀ p, p <+: s → 0 ≤ (d : Int) + level p) ∧ (d : Int) + level s = 0 := by
  induction s generalizing d with
  | nil =>
    constructor
    · rintro ⟨ps, h⟩
      unfold pieces? at h
      split at h
      · rename_i hd
        refine ⟨fun p hp => ?_, by simpa using hd⟩
        rw [List.prefix_nil.1 hp, level_nil]
        omega
      · cases h
    · rintro ⟨-, hclosed⟩
      rw [level_nil] at hclosed
      exact ⟨[[]], if_pos (by omega)⟩
  | cons c s ih =>
    rw [forall_prefix_cons, level_cons]
    rcases read_cases c d with ⟨rfl, rfl⟩ | ⟨rfl, rfl⟩ | ⟨hopen, e, he⟩
    · have hrise : rise ',' = 0 := rfl
      have hmap : (∃ ps, pieces? 0 (',' :: s) = some ps) ↔ ∃ ps, pieces? 0 s = some ps := by
        simp [pieces?_cut]
      rw [hmap, ih, hrise]
      simp
    · have hrise : rise ')' = -1 := rfl
      simp only [pieces?_close, reduceCtorEq, exists_false, false_iff, not_and]
      rintro ⟨-, hnonneg⟩
      have hnil := hnonneg [] List.nil_prefix
      rw [level_nil, hrise] at hnil
      omega
    · have hmap : (∃ ps, pieces? d (c :: s) = some ps) ↔ ∃ ps, pieces? e s = some ps := by
        simp [pieces?_step hopen he]
      rw [hmap, ih, ← Int.add_assoc, he]
      exact ⟨fun h => ⟨⟨Int.natCast_nonneg d, h.1⟩, h.2⟩, fun h => ⟨h.1.2, h.2⟩⟩

/-- **The balanced texts** are those that are split. -/
theorem exists_pieces?_iff : (∃ ps, pieces? 0 s = some ps) ↔ Balanced s := by
  rw [exists_pieces?_from_iff]
  simp only [Int.ofNat_zero, Int.zero_add]
  exact ⟨fun h => ⟨h.1, h.2⟩, fun h => ⟨h.nested, h.closed⟩⟩

/-- The pieces of a text: joined by commas they are the text, and each of them closes what it opens
and has no comma outside parentheses. -/
structure Cut (s : List Char) (ps : List (List Char)) : Prop where
  nonempty : ps ≠ []
  joined : joinWith [','] ps = s
  within : ∀ p ∈ ps, Within 0 p 0

theorem joinWith_consFirst (c : Char) (ps : List (List Char)) :
    joinWith [','] (consFirst c ps) = c :: joinWith [','] ps := by
  rcases ps with _ | ⟨p, _ | ⟨q, qs⟩⟩
  · rfl
  · rfl
  · rw [consFirst, joinWith_cons (List.cons_ne_nil q qs), joinWith_cons (List.cons_ne_nil q qs)]
    rfl

theorem ne_nil_of_pieces? (h : pieces? d s = some ps) : ps ≠ [] := by
  obtain ⟨p, qs, rfl, -, -⟩ := apart_of_pieces? h
  exact List.cons_ne_nil p qs

/-- Nothing is lost in splitting. -/
theorem joinWith_of_pieces? (h : pieces? d s = some ps) : joinWith [','] ps = s := by
  induction s generalizing d ps with
  | nil =>
    unfold pieces? at h
    split at h
    · cases h
      rfl
    · cases h
  | cons c s ih =>
    rcases read_cases c d with ⟨rfl, rfl⟩ | ⟨rfl, rfl⟩ | ⟨hopen, e, he⟩
    · rw [pieces?_cut] at h
      obtain ⟨qs, hqs, rfl⟩ := Option.map_eq_some_iff.1 h
      rw [joinWith_cons (ne_nil_of_pieces? hqs), ih hqs]
      rfl
    · cases h
    · rw [pieces?_step hopen he] at h
      obtain ⟨qs, hqs, rfl⟩ := Option.map_eq_some_iff.1 h
      rw [joinWith_consFirst, ih hqs]

/-- **What a text is split into** are its pieces, and there is only one way to cut it. -/
theorem pieces?_eq_some_iff : pieces? 0 s = some ps ↔ Cut s ps := by
  constructor
  · intro h
    exact ⟨ne_nil_of_pieces? h, joinWith_of_pieces? h, within_of_pieces? h⟩
  · rintro ⟨hne, rfl, hwithin⟩
    exact pieces?_join hwithin hne

/-- Behind a text that is split, a comma begins another one. -/
theorem pieces?_append_comma (h : pieces? d u = some ps) (v : List Char) :
    pieces? d (u ++ ',' :: v) = (pieces? 0 v).map (ps ++ ·) := by
  induction u generalizing d ps with
  | nil =>
    unfold pieces? at h
    split at h
    · rename_i hd
      cases h
      subst hd
      exact pieces?_cut v
    · cases h
  | cons c u ih =>
    rw [List.cons_append]
    rcases read_cases c d with ⟨rfl, rfl⟩ | ⟨rfl, rfl⟩ | ⟨hopen, e, he⟩
    · rw [pieces?_cut] at h
      obtain ⟨qs, hqs, rfl⟩ := Option.map_eq_some_iff.1 h
      rw [pieces?_cut, ih hqs, Option.map_map]
      rfl
    · cases h
    · rw [pieces?_step hopen he] at h
      obtain ⟨qs, hqs, rfl⟩ := Option.map_eq_some_iff.1 h
      obtain ⟨q, qs, rfl, -, -⟩ := apart_of_pieces? hqs
      rw [pieces?_step hopen he, ih hqs, Option.map_map]
      rfl

/-- **A comma between two texts** splits them from each other, unless one of them closes what it has
not opened. -/
theorem pieces?_joined (hu : Nested u) (hv : Nested v) :
    pieces? 0 (u ++ ',' :: v) = (do return (← pieces? 0 u) ++ (← pieces? 0 v)) := by
  cases hpieces : pieces? 0 u with
  | some ps =>
    rw [pieces?_append_comma hpieces]
    cases pieces? 0 v <;> rfl
  | none =>
    -- something stays open in the first text, and the second one closes nothing of it
    have hopen : level u ≠ 0 := fun hzero => by
      obtain ⟨ps, hps⟩ := exists_pieces?_iff.2 ⟨hu, hzero⟩
      rw [hpieces] at hps
      cases hps
    have hnot : ¬∃ ps, pieces? 0 (u ++ ',' :: v) = some ps := by
      rw [exists_pieces?_iff]
      intro hbalanced
      have hclosed := hbalanced.closed
      have hrise : rise ',' = 0 := rfl
      have hfirst := hu u List.prefix_rfl
      have hsecond := hv v List.prefix_rfl
      rw [level_append, level_cons, hrise] at hclosed
      omega
    exact Option.eq_none_iff_forall_ne_some.2 fun ps hps => hnot ⟨ps, hps⟩

end Fleet.Selector
