import Fleet.Proofs.Text.Blank
import Fleet.Selector

/-!
# The pieces of a selector

A text is split at its commas, but not within parentheses.

* `pieces?`: the pieces, one character at a time.
* `Within`: a text between two depths that closes nothing which is not open and has no comma
  outside parentheses.
* `pieces?_append`: **such a text stays in one piece.**
* `pieces?_join`: texts of this kind come back from being joined by commas.
* `within_of_pieces?`: every piece is of this kind.
-/

namespace Fleet.Selector

open Text

variable {c : Char} {s u v : List Char} {d m e : Int}

/-- Split at the commas outside parentheses, by recursion on the characters; `none` if the
parentheses are not balanced. `depth` parentheses are open before the text. -/
def pieces? (depth : Nat) : List Char → Option (List (List Char))
  | [] => if depth = 0 then some [[]] else none
  | c :: s =>
    if c = '(' then (pieces? (depth + 1) s).map (consFirst c)
    else if c = ')' then
      if depth = 0 then none else (pieces? (depth - 1) s).map (consFirst c)
    else if c = ',' ∧ depth = 0 then (pieces? 0 s).map ([] :: ·)
    else (pieces? depth s).map (consFirst c)

/-- How many more parentheses a text opens than it closes. -/
def level (s : List Char) : Int := s.count '(' - s.count ')'

/-- The same of one character. -/
def rise (c : Char) : Int := if c = '(' then 1 else if c = ')' then -1 else 0

@[simp] theorem level_nil : level [] = 0 := rfl

@[simp] theorem level_cons (c : Char) (s : List Char) : level (c :: s) = rise c + level s := by
  by_cases ho : c = '('
  · subst ho
    simp [level, rise]
    omega
  · by_cases hc : c = ')'
    · subst hc
      simp [level, rise]
      omega
    · simp [level, rise, ho, hc]

@[simp] theorem level_append (u v : List Char) : level (u ++ v) = level u + level v := by
  simp only [level, List.count_append, Int.natCast_add]
  omega

/-- A text where `depth` parentheses are open before it and `after` of them after it: there are
never fewer than none open, and at a comma there is at least one. -/
structure Within (depth : Int) (s : List Char) (after : Int) : Prop where
  nonneg : ∀ p, p <+: s → 0 ≤ depth + level p
  comma : ∀ p, p ++ [','] <+: s → 1 ≤ depth + level p
  after : depth + level s = after

theorem within_nil : Within d [] e ↔ 0 ≤ d ∧ d = e := by
  constructor
  · intro h
    exact ⟨by simpa using h.nonneg [] List.nil_prefix, by simpa using h.after⟩
  · rintro ⟨hd, rfl⟩
    refine ⟨fun p hp => ?_, fun p hp => ?_, by simp⟩
    · rw [List.prefix_nil.1 hp]
      simpa using hd
    · simp at hp

/-- A text is read one character at a time. -/
theorem within_cons : Within d (c :: s) e ↔
    0 ≤ d ∧ (c = ',' → 1 ≤ d) ∧ Within (d + rise c) s e := by
  constructor
  · intro h
    refine ⟨by simpa using h.nonneg [] List.nil_prefix, fun hc => ?_,
      fun p hp => ?_, fun p hp => ?_, ?_⟩
    · simpa using h.comma [] (by rw [hc]; exact List.prefix_append _ s)
    · have hcons := h.nonneg (c :: p) (List.cons_prefix_cons.2 ⟨rfl, hp⟩)
      rw [level_cons] at hcons
      omega
    · have hcons := h.comma (c :: p) (List.cons_prefix_cons.2 ⟨rfl, hp⟩)
      rw [level_cons] at hcons
      omega
    · have hafter := h.after
      rw [level_cons] at hafter
      omega
  · rintro ⟨hd, hcomma, h⟩
    refine ⟨fun p hp => ?_, fun p hp => ?_, ?_⟩
    · rcases p with _ | ⟨a, p⟩
      · simpa using hd
      · obtain ⟨rfl, hs⟩ := List.cons_prefix_cons.1 hp
        have htail := h.nonneg p hs
        rw [level_cons]
        omega
    · rcases p with _ | ⟨a, p⟩
      · obtain ⟨hc, -⟩ := List.cons_prefix_cons.1 hp
        simpa using hcomma hc.symm
      · obtain ⟨rfl, hs⟩ := List.cons_prefix_cons.1 hp
        have htail := h.comma p hs
        rw [level_cons]
        omega
    · have hafter := h.after
      rw [level_cons]
      omega

/-- One text after another. -/
theorem within_append :
    Within d (u ++ v) e ↔ Within d u (d + level u) ∧ Within (d + level u) v e := by
  induction u generalizing d with
  | nil =>
    rw [List.nil_append, level_nil, Int.add_zero, within_nil]
    exact ⟨fun h => ⟨⟨by simpa using h.nonneg [] List.nil_prefix, rfl⟩, h⟩, fun h => h.2⟩
  | cons c u ih =>
    rw [List.cons_append, within_cons, within_cons, ih, level_cons, Int.add_assoc]
    simp only [and_assoc]

theorem Within.append (hu : Within d u m) (hv : Within m v e) : Within d (u ++ v) e := by
  obtain rfl : d + level u = m := hu.after
  exact within_append.2 ⟨hu, hv⟩

/-- A character that splits texts or keeps them from being split. -/
def isDelimiter (c : Char) : Bool := c == '(' || c == ')' || c == ','

theorem not_isDelimiter_iff : isDelimiter c = false ↔ c ≠ ',' ∧ c ≠ '(' ∧ c ≠ ')' := by
  simp only [isDelimiter, Bool.or_eq_false_iff, beq_eq_false_iff_ne]
  tauto

theorem rise_of_not_isDelimiter (h : isDelimiter c = false) : rise c = 0 := by
  obtain ⟨-, hopen, hclose⟩ := not_isDelimiter_iff.1 h
  rw [rise, if_neg hopen, if_neg hclose]

/-- A text without commas and parentheses. -/
def Plain (s : List Char) : Prop := ∀ c ∈ s, isDelimiter c = false

instance : DecidablePred Plain := fun s => List.decidableBAll (isDelimiter · = false) s

theorem plain_cons : Plain (c :: s) ↔ isDelimiter c = false ∧ Plain s := List.forall_mem_cons

theorem plain_append : Plain (u ++ v) ↔ Plain u ∧ Plain v := List.forall_mem_append

/-- The first comma or parenthesis of a text. -/
theorem plain_or_exists (s : List Char) :
    Plain s ∨ ∃ u c v, s = u ++ c :: v ∧ Plain u ∧ isDelimiter c = true := by
  induction s with
  | nil => exact .inl nofun
  | cons c s ih =>
    cases hc : isDelimiter c with
    | true => exact .inr ⟨[], c, s, rfl, nofun, hc⟩
    | false =>
      rcases ih with hs | ⟨u, d, v, rfl, hu, hd⟩
      · exact .inl (plain_cons.2 ⟨hc, hs⟩)
      · exact .inr ⟨c :: u, d, v, rfl, plain_cons.2 ⟨hc, hu⟩, hd⟩

/-- A text without delimiters fits anywhere. -/
theorem within_of_plain (h : Plain s) (hd : 0 ≤ d) : Within d s d := by
  induction s with
  | nil => exact within_nil.2 ⟨hd, rfl⟩
  | cons c s ih =>
    obtain ⟨hc, hs⟩ := plain_cons.1 h
    obtain ⟨hne, -, -⟩ := not_isDelimiter_iff.1 hc
    rw [within_cons, rise_of_not_isDelimiter hc, Int.add_zero]
    exact ⟨hd, fun he => absurd he hne, ih hs⟩

theorem level_nonpos (h : '(' ∉ s) : level s ≤ 0 := by
  have hcount : s.count '(' = 0 := List.count_eq_zero.2 h
  rw [level, hcount]
  omega

/-- Without parentheses there is nothing to keep a comma from splitting. -/
theorem plain_of_within (h : Within 0 s 0) (ho : '(' ∉ s) (hc : ')' ∉ s) : Plain s := by
  intro c hmem
  obtain ⟨p, v, rfl⟩ := List.append_of_mem hmem
  refine not_isDelimiter_iff.2 ⟨?_, ?_, ?_⟩
  · rintro rfl
    have hopen := h.comma p ⟨v, by rw [List.append_assoc]; rfl⟩
    have hlevel := level_nonpos fun hp : '(' ∈ p => ho (List.mem_append_left _ hp)
    omega
  · rintro rfl
    exact ho hmem
  · rintro rfl
    exact hc hmem

theorem not_isDelimiter_of_isBlank (h : isBlank c = true) : isDelimiter c = false := by
  refine not_isDelimiter_iff.2 ⟨?_, ?_, ?_⟩ <;>
    · rintro rfl
      exact absurd h (by decide)

theorem level_of_blank (h : ∀ c ∈ s, isBlank c = true) : level s = 0 := by
  have hplain : Plain s := fun c hc => not_isDelimiter_of_isBlank (h c hc)
  simpa using (within_of_plain hplain (Int.le_refl 0)).after

/-- Trimming a text leaves it between the same depths. -/
theorem Within.trim (h : Within d s e) : Within d (Text.trim s) e := by
  obtain ⟨a, b, hs, ha, hb⟩ := exists_eq_trim s
  rw [hs, within_append, within_append, level_append, level_of_blank ha, Int.zero_add,
    Int.add_zero] at h
  obtain ⟨⟨-, htrim⟩, hend⟩ := h
  have hafter := hend.after
  rw [level_of_blank hb, Int.add_zero] at hafter
  rwa [hafter] at htrim

/-- The ways to read a character: a comma that ends a piece, a parenthesis that closes what is not
open, or any other one, which goes to the piece and leaves so many parentheses open. -/
theorem read_cases (c : Char) (d : Nat) : c = ',' ∧ d = 0 ∨ c = ')' ∧ d = 0 ∨
    ¬(c = ',' ∧ d = 0) ∧ ∃ e : Nat, (d : Int) + rise c = e := by
  by_cases hclose : c = ')'
  · subst hclose
    have hrise : rise ')' = -1 := rfl
    rcases Nat.eq_zero_or_pos d with rfl | hd
    · exact .inr (.inl ⟨rfl, rfl⟩)
    · exact .inr (.inr ⟨fun h => absurd h.1 (by decide), d - 1, by omega⟩)
  · by_cases hcomma : c = ',' ∧ d = 0
    · exact .inl hcomma
    · refine .inr (.inr ⟨hcomma, ?_⟩)
      by_cases hopen : c = '('
      · exact ⟨d + 1, by rw [hopen]; rfl⟩
      · exact ⟨d, by rw [rise, if_neg hopen, if_neg hclose, Int.add_zero]⟩

/-- A character that goes to the piece. -/
theorem pieces?_step {d e : Nat} (hcomma : ¬(c = ',' ∧ d = 0)) (he : (d : Int) + rise c = e)
    (s : List Char) : pieces? d (c :: s) = (pieces? e s).map (consFirst c) := by
  rw [pieces?]
  by_cases hopen : c = '('
  · subst hopen
    have hrise : rise '(' = 1 := rfl
    obtain rfl : d + 1 = e := by omega
    rw [if_pos rfl]
  · rw [if_neg hopen]
    by_cases hclose : c = ')'
    · subst hclose
      have hrise : rise ')' = -1 := rfl
      obtain rfl : d - 1 = e := by omega
      rw [if_pos rfl, if_neg (by omega)]
    · rw [rise, if_neg hopen, if_neg hclose, Int.add_zero] at he
      obtain rfl : d = e := Int.ofNat.inj he
      rw [if_neg hclose, if_neg hcomma]

/-- A comma that ends a piece. -/
theorem pieces?_cut (s : List Char) : pieces? 0 (',' :: s) = (pieces? 0 s).map ([] :: ·) := rfl

/-- A parenthesis that closes what is not open. -/
theorem pieces?_close (s : List Char) : pieces? 0 (')' :: s) = none := rfl

/-- A text between two depths stays in one piece. -/
theorem pieces?_append {d e : Nat} (h : Within d u e) (v : List Char) :
    pieces? d (u ++ v) = (pieces? e v).map (u.foldr consFirst) := by
  induction u generalizing d with
  | nil =>
    obtain rfl : d = e := Int.ofNat.inj (within_nil.1 h).2
    exact (Option.map_id' (x := pieces? d v)).symm
  | cons c u ih =>
    obtain ⟨-, hcomma, hu⟩ := within_cons.1 h
    have hpos := hu.nonneg [] List.nil_prefix
    rw [level_nil, Int.add_zero] at hpos
    obtain ⟨m, hm⟩ := Int.eq_ofNat_of_zero_le hpos
    have hopen : ¬(c = ',' ∧ d = 0) := fun hd => by
      have hone := hcomma hd.1
      omega
    rw [hm] at hu
    rw [List.cons_append, pieces?_step hopen hm, ih hu, Option.map_map]
    rfl

theorem foldr_consFirst (u p : List Char) (ps : List (List Char)) :
    u.foldr consFirst (p :: ps) = (u ++ p) :: ps := by
  induction u with
  | nil => rfl
  | cons c u ih =>
    rw [List.foldr_cons, ih]
    rfl

/-- The comma outside parentheses ends a piece. -/
theorem pieces?_comma (h : Within 0 u 0) (v : List Char) :
    pieces? 0 (u ++ ',' :: v) = (pieces? 0 v).map (u :: ·) := by
  rw [pieces?_append (d := 0) (e := 0) h, pieces?_cut, Option.map_map]
  refine congrArg (Option.map · _) (funext fun ps => ?_)
  rw [Function.comp_apply, foldr_consFirst, List.append_nil]

theorem pieces?_last (h : Within 0 u 0) : pieces? 0 u = some [u] := by
  have happend := pieces?_append (d := 0) (e := 0) h []
  rw [List.append_nil] at happend
  rw [happend]
  show some (u.foldr consFirst [[]]) = _
  rw [foldr_consFirst, List.append_nil]

theorem joinWith_cons {ps : List (List Char)} (hne : ps ≠ []) (p : List Char) :
    joinWith [c] (p :: ps) = p ++ c :: joinWith [c] ps := by
  obtain ⟨q, qs, rfl⟩ := List.exists_cons_of_ne_nil hne
  rw [joinWith, List.intercalate_cons_cons, List.append_assoc]
  rfl

theorem joinWith_singleton (p : List Char) : joinWith [c] [p] = p :=
  List.intercalate_singleton

/-- Joined texts begin with the first. -/
theorem exists_joinWith_cons (p : List Char) (ps : List (List Char)) :
    ∃ w, joinWith [c] (p :: ps) = p ++ w := by
  rcases eq_or_ne ps [] with rfl | hne
  · exact ⟨[], by rw [joinWith_singleton, List.append_nil]⟩
  · exact ⟨_, joinWith_cons hne p⟩

/-- Pieces that are trimmed, with the empty ones left out, are joined to a text between the same
depths. -/
theorem Within.clean {ps : List (List Char)} (h : Within d (joinWith [','] ps) e) :
    Within d (joinWith [','] ((ps.map Text.trim).filter (!·.isEmpty))) e := by
  induction ps generalizing d with
  | nil => exact h
  | cons p ps ih =>
    -- the piece ends at depth `m`, and the others go on from there
    obtain ⟨m, hp, hm, hrest⟩ : ∃ m, Within d p m ∧ (ps ≠ [] → 1 ≤ m) ∧
        Within m (joinWith [','] ps) e := by
      rcases eq_or_ne ps [] with rfl | hps
      · have hsingle : Within d p e := by rwa [joinWith_singleton] at h
        have hend := hsingle.nonneg p List.prefix_rfl
        rw [hsingle.after] at hend
        exact ⟨e, hsingle, fun hne => absurd rfl hne, within_nil.2 ⟨hend, rfl⟩⟩
      · rw [joinWith_cons hps, within_append] at h
        obtain ⟨hp, hrest⟩ := h
        obtain ⟨-, hcomma, hrest⟩ := within_cons.1 hrest
        have hrise : rise ',' = 0 := rfl
        rw [hrise, Int.add_zero] at hrest
        exact ⟨_, hp, fun _ => hcomma rfl, hrest⟩
    have htrim := hp.trim
    have hclean := ih hrest
    rw [List.map_cons]
    by_cases hempty : Text.trim p = []
    · rw [hempty] at htrim ⊢
      obtain ⟨-, rfl⟩ := within_nil.1 htrim
      exact hclean
    · rw [List.filter_cons_of_pos (by simpa using hempty)]
      rcases eq_or_ne ((ps.map Text.trim).filter (!·.isEmpty)) [] with hnil | hne
      · rw [hnil] at hclean ⊢
        obtain ⟨-, rfl⟩ := within_nil.1 hclean
        rwa [joinWith_singleton]
      · have hps : ps ≠ [] := by
          rintro rfl
          exact hne rfl
        have hone := hm hps
        have hrise : m + rise ',' = m := Int.add_zero m
        rw [joinWith_cons hne]
        refine htrim.append (within_cons.2 ⟨by omega, fun _ => hone, ?_⟩)
        rwa [hrise]

/-- Texts of this kind come back from being joined by commas. -/
theorem pieces?_join {ps : List (List Char)} (h : ∀ p ∈ ps, Within 0 p 0) (hne : ps ≠ []) :
    pieces? 0 (joinWith [','] ps) = some ps := by
  induction ps with
  | nil => exact absurd rfl hne
  | cons p ps ih =>
    obtain ⟨hp, hps⟩ := List.forall_mem_cons.1 h
    rcases eq_or_ne ps [] with rfl | hps'
    · rw [joinWith_singleton]
      exact pieces?_last hp
    · rw [joinWith_cons hps', pieces?_comma hp, ih hps hps']
      rfl

/-- Whatever comes after it, a text of this kind is a piece of its own. -/
theorem exists_of_pieces?_join {p : List Char} {ps qs : List (List Char)} (hp : Within 0 p 0)
    (h : pieces? 0 (joinWith [','] (p :: qs)) = some ps) :
    ∃ rest, ps = p :: rest ∧ (qs ≠ [] → pieces? 0 (joinWith [','] qs) = some rest) := by
  rcases eq_or_ne qs [] with rfl | hqs
  · rw [joinWith_singleton, pieces?_last hp] at h
    exact ⟨[], (Option.some.inj h).symm, fun hne => absurd rfl hne⟩
  · rw [joinWith_cons hqs, pieces?_comma hp] at h
    obtain ⟨rest, hrest, rfl⟩ := Option.map_eq_some_iff.1 h
    exact ⟨rest, rfl, fun _ => hrest⟩

/-- The pieces of a text before which some parentheses are open: the first closes them, and the
others stand by themselves. -/
def Apart (d : Nat) (ps : List (List Char)) : Prop :=
  ∃ p qs, ps = p :: qs ∧ Within d p 0 ∧ ∀ q ∈ qs, Within 0 q 0

/-- One more character goes to the front of the first piece. -/
theorem Apart.consFirst {d e : Nat} {ps : List (List Char)} (h : Apart e ps)
    (hcomma : c = ',' → 1 ≤ d) (hrise : (d : Int) + rise c = e) : Apart d (consFirst c ps) := by
  obtain ⟨p, qs, rfl, hp, hqs⟩ := h
  refine ⟨c :: p, qs, rfl, within_cons.2 ⟨by omega, fun hc => ?_, hrise ▸ hp⟩, hqs⟩
  have hd := hcomma hc
  omega

/-- What a text is split into stands apart. -/
theorem apart_of_pieces? {d : Nat} {ps : List (List Char)} (h : pieces? d s = some ps) :
    Apart d ps := by
  induction s generalizing d ps with
  | nil =>
    unfold pieces? at h
    split at h
    · rename_i hd
      cases h
      exact ⟨[], [], rfl, within_nil.2 ⟨by omega, by omega⟩, by simp⟩
    · cases h
  | cons c s ih =>
    rcases read_cases c d with ⟨rfl, rfl⟩ | ⟨rfl, rfl⟩ | ⟨hopen, e, he⟩
    · -- the comma outside parentheses closes a piece without characters
      rw [pieces?_cut] at h
      obtain ⟨qs, hqs, rfl⟩ := Option.map_eq_some_iff.1 h
      obtain ⟨p, qs, rfl, hp, hqs⟩ := ih hqs
      exact ⟨[], p :: qs, rfl, within_nil.2 ⟨by omega, by omega⟩,
        List.forall_mem_cons.2 ⟨hp, hqs⟩⟩
    · cases h
    · rw [pieces?_step hopen he] at h
      obtain ⟨qs, hqs, rfl⟩ := Option.map_eq_some_iff.1 h
      refine (ih hqs).consFirst (fun hcomma => ?_) he
      have hne : d ≠ 0 := fun hd => hopen ⟨hcomma, hd⟩
      omega

/-- **Every piece** closes what it opens and has no comma outside parentheses. -/
theorem within_of_pieces? {ps : List (List Char)} (h : pieces? 0 s = some ps) :
    ∀ p ∈ ps, Within 0 p 0 := by
  obtain ⟨p, qs, rfl, hp, hqs⟩ := apart_of_pieces? h
  exact List.forall_mem_cons.2 ⟨hp, hqs⟩

end Fleet.Selector
