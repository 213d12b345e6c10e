import Fleet.Proofs.Yaml.Plain
import Mathlib.Algebra.Group.Nat.Defs

/-!
# Quoted scalars

* `quotedFrom_break`, `quotedFrom_space`, `quotedFrom_char`: the steps of a reader inside quotes.
* `quotedFrom_singleQuoted`: **a text that is written in single quotes reads as itself.**
* `quotedFrom_doubleQuoted`: **so does every text in double quotes.**
-/

namespace Fleet.Yaml

variable {single : Bool} {gap : Gap} {p : Place} {c : Char} {s : List Char}

theorem marksDocument_of_ne (h₁ : c ≠ '-') (h₂ : c ≠ '.') : marksDocument (c :: s) = false := by
  have h₁' : ('-' == c) = false := beq_eq_false_iff_ne.2 (Ne.symm h₁)
  have h₂' : ('.' == c) = false := beq_eq_false_iff_ne.2 (Ne.symm h₂)
  simp [marksDocument, List.isPrefixOf, h₁', h₂']

/-- No line of a scalar is taken for the mark of a document, for none starts at the margin. -/
theorem not_marksDocument (hp : 0 < p.column) :
    (p.column == 0 && marksDocument (c :: s)) = false := by
  rw [beq_eq_false_iff_ne.2 (by omega), Bool.false_and]

theorem quotedFrom_break (hc : isPrintable c = true) (hb : isBreak c = true) :
    quotedFrom single (.text gap) p (c :: s) =
      quotedFrom single (.text (gap.addBreak c)) (p.newline 1) s := by
  have hm : marksDocument (c :: s) = false :=
    marksDocument_of_ne (by rintro rfl; exact absurd hb (by decide))
      (by rintro rfl; exact absurd hb (by decide))
  have hr : (c == '\r') = false := beq_eq_false_iff_ne.2 (ne_return_of_isPrintable hc)
  rw [quotedFrom.eq_2, hm, hr, hb, breakChar_of_isPrintable hc hb, Bool.and_false, Bool.false_and,
    if_neg Bool.false_ne_true, if_neg Bool.false_ne_true, if_pos rfl]

theorem quotedFrom_space :
    quotedFrom single (.text gap) p (' ' :: s) =
      quotedFrom single (.text (gap.addSpace ' ')) (p.skip 1) s := by
  have hm : marksDocument (' ' :: s) = false := marksDocument_of_ne (by decide) (by decide)
  rw [quotedFrom.eq_2, hm, Bool.and_false, if_neg Bool.false_ne_true, if_neg (by simp),
    if_neg (by decide), if_pos (by decide)]

/-- A character of a line that is neither a break nor a gap. -/
theorem quotedFrom_text (hp : 0 < p.column) (hb : isBreak c = false) (hg : isGap c = false) :
    quotedFrom single (.text gap) p (c :: s) =
      if single && c == '\'' && s.head? == some '\'' then quotedFrom single (.pair gap) (p.skip 1) s
      else if c == (if single then '\'' else '"') then some ⟨gap.folded, p.skip 1, s, false⟩
      else if !single && c == '\\' then quotedFrom single (.escape gap) (p.skip 1) s
      else (quotedFrom single (.text .none) (p.skip 1) s).map
        (·.prepend (gap.folded ++ [c])) := by
  have hr : (c == '\r') = false := by
    rw [beq_eq_false_iff_ne]
    rintro rfl
    exact absurd hb (by decide)
  rw [quotedFrom.eq_2, not_marksDocument hp, hr, hb, hg, Bool.false_and, if_neg Bool.false_ne_true,
    if_neg Bool.false_ne_true, if_neg Bool.false_ne_true, if_neg Bool.false_ne_true]

/-- A character that stands for itself. -/
theorem quotedFrom_char (hp : 0 < p.column) (hb : isBreak c = false) (hg : isGap c = false)
    (hq : c ≠ (if single then '\'' else '"')) (he : single = false → c ≠ '\\') :
    quotedFrom single (.text gap) p (c :: s) =
      (quotedFrom single (.text .none) (p.skip 1) s).map (·.prepend (gap.folded ++ [c])) := by
  rw [quotedFrom_text hp hb hg, beq_eq_false_iff_ne.2 hq]
  cases single with
  | true =>
    have hq' : (c == '\'') = false := beq_eq_false_iff_ne.2 hq
    simp [hq']
  | false => simp [he rfl]

/-- A single quote is written twice. -/
theorem quotedFrom_quote (hp : 0 < p.column) :
    quotedFrom true (.text gap) p ('\'' :: '\'' :: s) =
      (quotedFrom true (.text .none) (p.skip 2) s).map (·.prepend (gap.folded ++ ['\''])) := by
  rw [quotedFrom_text hp (by decide) (by decide)]
  simp [quotedFrom.eq_3, Place.skip_skip]

theorem quotedFrom_singleEnd (hp : 0 < p.column) :
    quotedFrom true (.text gap) p ('\'' :: '\n' :: s) =
      some ⟨gap.folded, p.skip 1, '\n' :: s, false⟩ := by
  rw [quotedFrom_text hp (by decide) (by decide)]
  simp

/-- Indentation does not count after a line break. -/
theorem quotedFrom_spaces (first : Option Char) (more : List Char) (n : Nat) :
    quotedFrom single (.text (.lines first more)) p (spaces n ++ s) =
      quotedFrom single (.text (.lines first more)) (p.skip n) s := by
  induction n generalizing p with
  | zero => rfl
  | succ n ih =>
    have h : spaces (n + 1) ++ s = ' ' :: (spaces n ++ s) := by
      simp [spaces, List.replicate_succ]
    rw [h, quotedFrom_space]
    show quotedFrom single (.text (.lines first more)) (p.skip 1) (spaces n ++ s) = _
    rw [ih, Place.skip_skip, Nat.add_comm]

/-- White space that folds to what was written. -/
def Gap.Exact : Gap → Prop
  | .lines (some c) _ => c ≠ '\n'
  | .lines .none _ => False
  | _ => True

theorem Gap.folded_lines {d : Char} (h : d ≠ '\n') (more : List Char) :
    (Gap.lines (some d) more).folded = d :: more.reverse := by
  unfold Gap.folded
  split
  all_goals rename_i heq
  all_goals cases heq
  all_goals first | rfl | exact absurd rfl h

/-- A line break that is no line feed is kept. -/
theorem Gap.folded_addBreak (hgap : gap.Exact) (hs : gap.hasBreak = true ∨ gap.isSome = false)
    (hc : c ≠ '\n') : (gap.addBreak c).folded = gap.folded ++ [c] ∧ (gap.addBreak c).Exact := by
  cases gap with
  | none => exact ⟨Gap.folded_lines hc [], hc⟩
  | spaces cs => rcases hs with h | h <;> cases h
  | lines first more =>
    cases first with
    | none => exact absurd hgap id
    | some d =>
      have hd : d ≠ '\n' := hgap
      refine ⟨?_, hd⟩
      show (Gap.lines (some d) (c :: more)).folded = _
      rw [Gap.folded_lines hd, Gap.folded_lines hd, List.reverse_cons, List.cons_append]

/-- A text that goes on in single quotes after white space. -/
structure GoesOnQuoted (gap : Gap) (u : List Char) : Prop where
  printable : ∀ c ∈ u, isPrintable c = true
  noFeed : ∀ c ∈ u, c ≠ '\n'
  noSpaceBreak : hasNeighbors isSpaceChar isBreak u = false
  noBreakSpace : hasNeighbors isBreak isSpaceChar u = false
  afterSpace : gap.isSome = true → gap.hasBreak = false →
    ∀ c, u.head? = some c → isBreak c = false
  afterBreak : gap.hasBreak = true → ∀ c, u.head? = some c → isSpaceChar c = false

theorem hasNeighbors_tail {q₁ q₂ : Char → Bool} {u : List Char}
    (h : hasNeighbors q₁ q₂ (c :: u) = false) :
    hasNeighbors q₁ q₂ u = false ∧ (q₁ c = true → ∀ d, u.head? = some d → q₂ d = false) := by
  cases u with
  | nil => exact ⟨rfl, fun _ d hd => by cases hd⟩
  | cons e u =>
    rw [hasNeighbors, Bool.or_eq_false_iff] at h
    refine ⟨h.2, fun hc d hd => ?_⟩
    cases hd
    rw [hc, Bool.true_and] at h
    exact h.1

theorem GoesOnQuoted.tail {u : List Char} (h : GoesOnQuoted gap (c :: u)) (gap' : Gap)
    (hs : gap'.isSome = true → gap'.hasBreak = false → isSpaceChar c = true)
    (hb : gap'.hasBreak = true → isBreak c = true) : GoesOnQuoted gap' u where
  printable d hd := h.printable d (List.mem_cons_of_mem c hd)
  noFeed d hd := h.noFeed d (List.mem_cons_of_mem c hd)
  noSpaceBreak := (hasNeighbors_tail h.noSpaceBreak).1
  noBreakSpace := (hasNeighbors_tail h.noBreakSpace).1
  afterSpace h₁ h₂ := (hasNeighbors_tail h.noSpaceBreak).2 (hs h₁ h₂)
  afterBreak h₁ := (hasNeighbors_tail h.noBreakSpace).2 (hb h₁)

/-- One character between single quotes. -/
def singleQuoted (c : Char) : List Char := if c == '\'' then ['\'', '\''] else [c]

theorem quotedFrom_singleQuotedChar (hp : 0 < p.column) (hb : isBreak c = false)
    (hg : isGap c = false) : ∃ n, quotedFrom true (.text gap) p (singleQuoted c ++ s) =
      (quotedFrom true (.text .none) (p.skip (n + 1)) s).map
        (·.prepend (gap.folded ++ [c])) := by
  unfold singleQuoted
  by_cases hq : c = '\''
  · subst hq
    exact ⟨1, quotedFrom_quote hp⟩
  · rw [if_neg (by simpa using hq)]
    exact ⟨0, quotedFrom_char hp hb hg hq nofun⟩

/-- What follows in single quotes is indented after a line break. -/
theorem singleQuotedFrom_eq (indent : Nat) (b : Bool) (hc : isBreak c = false) :
    singleQuotedFrom indent b (c :: s) =
      (if b then spaces indent else []) ++
        (singleQuoted c ++ singleQuotedFrom indent false s) := by
  rw [singleQuotedFrom, hc, if_neg Bool.false_ne_true, List.append_assoc]
  rfl

/-- The rest of a text in single quotes reads as itself after white space, up to the end of its
line. -/
def SingleQuotedReads (indent : Nat) (r : List Char) (gap : Gap) (u : List Char) : Prop :=
  ∀ p : Place, (gap.hasBreak = false → 0 < p.column) → ∃ p', quotedFrom true (.text gap) p
      (singleQuotedFrom indent gap.hasBreak u ++ '\'' :: '\n' :: r) =
    some ⟨gap.folded ++ u, p', '\n' :: r, false⟩

section SingleQuotedReads

variable {indent : Nat} {r u : List Char}

theorem singleQuotedReads_nil (hi : 0 < indent) (gap : Gap) :
    SingleQuotedReads indent r gap [] := by
  intro p hp
  rw [List.append_nil]
  cases gap with
  | none => exact ⟨_, quotedFrom_singleEnd (hp rfl)⟩
  | spaces cs => exact ⟨_, quotedFrom_singleEnd (hp rfl)⟩
  | lines first more =>
    refine ⟨(p.skip indent).skip 1, ?_⟩
    show quotedFrom true (.text (.lines first more)) p (spaces indent ++ _) = _
    rw [quotedFrom_spaces, quotedFrom_singleEnd (by rw [Place.skip_column]; omega)]

/-- A break waits for the next character, with all breaks since the last one. -/
theorem singleQuotedReads_break (hgap : gap.Exact) (h : GoesOnQuoted gap (c :: u))
    (hb : isBreak c = true)
    (ih : ∀ gap : Gap, gap.Exact → GoesOnQuoted gap u → SingleQuotedReads indent r gap u) :
    SingleQuotedReads indent r gap (c :: u) := by
  intro p _
  have hkeep : gap.hasBreak = true ∨ gap.isSome = false := by
    by_contra hne
    rw [not_or] at hne
    have hs := h.afterSpace (by simpa using hne.2) (by simpa using hne.1) c rfl
    rw [hs] at hb
    cases hb
  obtain ⟨hfold, hexact⟩ := Gap.folded_addBreak hgap hkeep (h.noFeed c List.mem_cons_self)
  have hbreak : (gap.addBreak c).hasBreak = true := by cases gap <;> rfl
  have hgo := h.tail (gap.addBreak c) (fun _ hf => by rw [hbreak] at hf; cases hf) fun _ => hb
  obtain ⟨p', hp'⟩ := ih _ hexact hgo (p.newline 1) fun hf => by rw [hbreak] at hf; cases hf
  refine ⟨p', ?_⟩
  rw [singleQuotedFrom, hb, if_pos rfl, List.cons_append,
    quotedFrom_break (h.printable c List.mem_cons_self) hb]
  rw [hbreak, hfold, List.append_assoc] at hp'
  exact hp'

/-- A space waits as well; it is not at the start of a line. -/
theorem singleQuotedReads_space (h : GoesOnQuoted gap (' ' :: u))
    (ih : ∀ gap : Gap, gap.Exact → GoesOnQuoted gap u → SingleQuotedReads indent r gap u) :
    SingleQuotedReads indent r gap (' ' :: u) := by
  intro p _
  have hnb : gap.hasBreak = false := by
    cases hf : gap.hasBreak with
    | false => rfl
    | true => exact absurd (h.afterBreak hf ' ' rfl) (by decide)
  obtain ⟨hbreak, hexact, hfold⟩ : (gap.addSpace ' ').hasBreak = false ∧
      (gap.addSpace ' ').Exact ∧ (gap.addSpace ' ').folded = gap.folded ++ [' '] := by
    cases gap with
    | none => exact ⟨rfl, trivial, rfl⟩
    | spaces cs => exact ⟨rfl, trivial, by simp [Gap.addSpace, Gap.folded]⟩
    | lines first more => cases hnb
  have hgo := h.tail (gap.addSpace ' ') (fun _ _ => rfl) fun hf => by rw [hbreak] at hf; cases hf
  obtain ⟨p', hp'⟩ := ih _ hexact hgo (p.skip 1) fun _ => by rw [Place.skip_column]; omega
  refine ⟨p', ?_⟩
  rw [hbreak, hfold, List.append_assoc] at hp'
  rw [hnb, singleQuotedFrom_eq _ _ rfl]
  show quotedFrom true (.text gap) p (' ' :: (singleQuotedFrom indent false u ++ _)) = _
  rw [quotedFrom_space]
  exact hp'

/-- Any other character ends the white space before it; after a break it is indented. -/
theorem singleQuotedReads_char (hi : 0 < indent) (h : GoesOnQuoted gap (c :: u))
    (hb : isBreak c = false) (hg : isGap c = false)
    (ih : ∀ gap : Gap, gap.Exact → GoesOnQuoted gap u → SingleQuotedReads indent r gap u) :
    SingleQuotedReads indent r gap (c :: u) := by
  intro p hp
  have hchar (q : Place) (hq : 0 < q.column) : ∃ p', quotedFrom true (.text gap) q
      (singleQuoted c ++ (singleQuotedFrom indent false u ++ '\'' :: '\n' :: r)) =
      some ⟨gap.folded ++ c :: u, p', '\n' :: r, false⟩ := by
    obtain ⟨n, hc⟩ := quotedFrom_singleQuotedChar
      (s := singleQuotedFrom indent false u ++ '\'' :: '\n' :: r) hq hb hg
    have hgo := h.tail .none (fun hf => by cases hf) fun hf => by cases hf
    obtain ⟨p', hp'⟩ := ih .none trivial hgo (q.skip (n + 1)) fun _ => by
      rw [Place.skip_column]; omega
    refine ⟨p', ?_⟩
    have hrest : quotedFrom true (.text .none) (q.skip (n + 1))
        (singleQuotedFrom indent false u ++ '\'' :: '\n' :: r) =
        some ⟨u, p', '\n' :: r, false⟩ := hp'
    rw [hc, hrest]
    simp [Ending.prepend]
  cases hbr : gap.hasBreak with
  | false =>
    obtain ⟨p', hp'⟩ := hchar p (hp hbr)
    refine ⟨p', ?_⟩
    rw [singleQuotedFrom_eq _ _ hb, if_neg Bool.false_ne_true, List.nil_append,
      List.append_assoc]
    exact hp'
  | true =>
    obtain ⟨first, more, rfl⟩ : ∃ first more, gap = .lines first more := by
      cases gap with
      | lines first more => exact ⟨first, more, rfl⟩
      | none | spaces => cases hbr
    obtain ⟨p', hp'⟩ := hchar (p.skip indent) (by rw [Place.skip_column]; omega)
    refine ⟨p', ?_⟩
    rw [singleQuotedFrom_eq _ _ hb, if_pos rfl, List.append_assoc, quotedFrom_spaces,
      List.append_assoc]
    exact hp'

theorem singleQuotedReads (hi : 0 < indent) (hgap : gap.Exact) (h : GoesOnQuoted gap u) :
    SingleQuotedReads indent r gap u := by
  -- the white space before the rest changes with every character, and what waits in it is exact
  induction u generalizing gap with
  | nil => exact singleQuotedReads_nil hi gap
  | cons c u ih =>
    cases hb : isBreak c with
    | true => exact singleQuotedReads_break hgap h hb fun _ => ih
    | false =>
      cases hg : isGap c with
      | true =>
        have hsp : isSpaceChar c = true := by
          rw [← isGap_of_isPrintable (h.printable c List.mem_cons_self)]
          exact hg
        cases eq_of_beq hsp
        exact singleQuotedReads_space h fun _ => ih
      | false => exact singleQuotedReads_char hi h hb hg fun _ => ih

end SingleQuotedReads

theorem goesOnQuoted_of_fits {t : List Char} (h : fitsSingleQuoted t = true)
    (hn : t.contains '\n' = false) : GoesOnQuoted .none t := by
  rw [fitsSingleQuoted, Bool.not_eq_true', Bool.or_eq_false_iff, needsEscapes,
    Bool.or_eq_false_iff] at h
  refine ⟨fun c hc => ?_, fun c hc => ?_, h.1.2, h.2, fun hs => absurd hs Bool.false_ne_true,
    fun hs => absurd hs Bool.false_ne_true⟩
  · simpa using List.any_eq_false.1 h.1.1 c hc
  · rintro rfl
    rw [List.contains_iff_mem.2 hc] at hn
    cases hn

/-- **A text that is written in single quotes reads as itself**, up to the end of its line. -/
theorem quotedFrom_singleQuoted {t : List Char} (h : fitsSingleQuoted t = true)
    (hn : t.contains '\n' = false) {indent : Nat} (hi : 0 < indent) (hp : 0 < p.column)
    (r : List Char) : ∃ p', quotedFrom true (.text .none) p
        (singleQuotedFrom indent false t ++ '\'' :: '\n' :: r) =
      some ⟨t, p', '\n' :: r, false⟩ :=
  singleQuotedReads hi (show Gap.none.Exact from trivial) (goesOnQuoted_of_fits h hn) p
    fun _ => hp

/-- The ways to write a character between double quotes. -/
inductive Escaped (c : Char) : List Char → Prop where
  | plain (hb : isBreak c = false) (ht : c ≠ '\t') (hq : c ≠ '"') (he : c ≠ '\\') :
    Escaped c [c]
  | letter {e : Char} (h : escape? e = some (.char c)) (hb : isBreak e = false) :
    Escaped c ['\\', e]
  | code {e : Char} {width : Nat} (h : escape? e = some (.code (width + 1)))
    (hb : isBreak e = false) (hn : c.toNat < 16 ^ (width + 1)) :
    Escaped c ('\\' :: e :: upperHex (width + 1) c.toNat)

theorem isValidChar_toNat (c : Char) : c.toNat.isValidChar := c.valid

/-- Every character is written in one of these ways. -/
theorem escaped_spec (c : Char) : Escaped c (escaped c) := by
  unfold escaped
  split
  case h_15 =>
    rename_i h0 h1 h2 ht hn h5 h6 hr h8 hq he hN hL hP
    by_cases hp : isPrintable c = true
    · rw [if_pos hp]
      refine .plain ?_ ht hq he
      simp only [isBreak, Bool.or_eq_false_iff, beq_eq_false_iff_ne]
      exact ⟨⟨⟨⟨hr, hn⟩, hN⟩, hL⟩, hP⟩
    · rw [if_neg hp]
      have hc := isValidChar_toNat c
      unfold Nat.isValidChar at hc
      split
      · exact .code rfl (by decide) (by omega)
      · split
        · exact .code rfl (by decide) (by omega)
        · exact .code rfl (by decide) (by omega)
  all_goals exact .letter rfl (by decide)

theorem digitValue?_upperHex : ∀ d < 16,
    Text.digitValue? 16 (Nat.digitChar d).toUpper = some d := by decide

/-- A code of hexadecimal digits is read off from its first digit on. -/
theorem quotedFrom_upperHex (width : Nat) {n left : Nat} (value : Nat) (hn : n < 16 ^ width) :
    quotedFrom single (.code (width + (left + 1)) value) p (upperHex width n ++ s) =
      quotedFrom single (.code (left + 1) (value * 16 ^ width + n)) (p.skip width) s := by
  induction width generalizing n left s with
  | zero =>
    have hz : n = 0 := by omega
    subst hz
    simp [upperHex]
  | succ width ih =>
    have hd : n / 16 < 16 ^ width := by rw [Nat.pow_succ] at hn; omega
    have hv : (value * 16 ^ width + n / 16) * 16 + n % 16 = value * 16 ^ (width + 1) + n := by
      rw [Nat.pow_succ, ← Nat.mul_assoc]
      omega
    rw [upperHex, List.append_assoc, List.singleton_append,
      show width + 1 + (left + 1) = width + (left + 1 + 1) by omega, ih hd, quotedFrom.eq_5,
      digitValue?_upperHex _ (Nat.mod_lt n (by decide))]
    simp [hv, Place.skip_skip]

theorem quotedFrom_code {width : Nat} (hn : c.toNat < 16 ^ (width + 1)) :
    quotedFrom single (.code (width + 1) 0) p (upperHex (width + 1) c.toNat ++ s) =
      (quotedFrom single (.text .none) (p.skip (width + 1)) s).map (·.prepend [c]) := by
  have hd : c.toNat / 16 < 16 ^ width := by rw [Nat.pow_succ] at hn; omega
  have hv : c.toNat / 16 * 16 + c.toNat % 16 = c.toNat := by omega
  have hc : charOfCode? c.toNat = some c := by
    rw [charOfCode?, if_pos (isValidChar_toNat c), Char.ofNat_toNat]
  rw [upperHex, List.append_assoc, List.singleton_append, quotedFrom_upperHex width 0 hd,
    quotedFrom.eq_5, digitValue?_upperHex _ (Nat.mod_lt _ (by decide))]
  simp [hv, hc, Place.skip_skip]

theorem quotedFrom_backslash (hp : 0 < p.column) :
    quotedFrom false (.text gap) p ('\\' :: s) = quotedFrom false (.escape gap) (p.skip 1) s := by
  rw [quotedFrom_text hp (by decide) (by decide)]
  simp

/-- What stands for a character is passed over by an escape of its own length. -/
theorem quotedFrom_escape {e : Char} (hb : isBreak e = false) :
    quotedFrom false (.escape gap) p (e :: s) = (escape? e).bind fun x => match x with
      | .char d => (quotedFrom false (.text .none) (p.skip 1) s).map
          (·.prepend (gap.folded ++ [d]))
      | .code n => (quotedFrom false (.code n 0) (p.skip 1) s).map (·.prepend gap.folded) := by
  have hr : (e == '\r') = false := by
    rw [beq_eq_false_iff_ne]
    rintro rfl
    exact absurd hb (by decide)
  rw [quotedFrom.eq_4, hr, hb, Bool.false_and, if_neg Bool.false_ne_true,
    if_neg Bool.false_ne_true]
  rfl

/-- **Every character reads as itself** from what is written for it between double quotes; a space
waits for the next one. -/
theorem quotedFrom_escaped (hp : 0 < p.column) (hc : c ≠ ' ') :
    ∃ n, quotedFrom false (.text gap) p (escaped c ++ s) =
      (quotedFrom false (.text .none) (p.skip n) s).map (·.prepend (gap.folded ++ [c])) := by
  have h := escaped_spec c
  generalize escaped c = w at h
  cases h with
  | plain hb ht hq he =>
    have hg : isGap c = false := by simp [isGap, hc, ht]
    exact ⟨1, quotedFrom_char hp hb hg hq fun _ => he⟩
  | letter h hb =>
    refine ⟨2, ?_⟩
    rw [List.cons_append, List.singleton_append, quotedFrom_backslash hp, quotedFrom_escape hb, h,
      Option.bind_some]
    dsimp only
    rw [Place.skip_skip]
  | @code e width h hb hn =>
    refine ⟨1 + (1 + (width + 1)), ?_⟩
    rw [List.cons_append, List.cons_append, quotedFrom_backslash hp, quotedFrom_escape hb, h,
      Option.bind_some]
    dsimp only
    rw [quotedFrom_code hn, Option.map_map, Place.skip_skip, Place.skip_skip]
    congr 1
    funext x
    simp [Ending.prepend]

theorem quotedFrom_doubleEnd (hp : 0 < p.column) :
    quotedFrom false (.text gap) p ('"' :: s) = some ⟨gap.folded, p.skip 1, s, false⟩ := by
  rw [quotedFrom_text hp (by decide) (by decide)]
  simp

theorem quotedFrom_doubleQuoted_inner (t : List Char) {gap : Gap} (p : Place) (r : List Char)
    (hgap : gap.inLine = true) (hp : 0 < p.column) :
    ∃ p', quotedFrom false (.text gap) p (t.flatMap escaped ++ '"' :: r) =
      some ⟨gap.folded ++ t, p', r, false⟩ := by
  induction t generalizing gap p with
  | nil => exact ⟨_, by rw [List.append_nil]; exact quotedFrom_doubleEnd hp⟩
  | cons c t ih =>
    rw [List.flatMap_cons, List.append_assoc]
    by_cases hc : c = ' '
    · subst hc
      have hin : (gap.addSpace ' ').inLine = true := by cases gap <;> first | rfl | cases hgap
      have hfold : (gap.addSpace ' ').folded = gap.folded ++ [' '] := by
        cases gap with
        | none => rfl
        | spaces cs => simp [Gap.addSpace, Gap.folded]
        | lines first more => cases hgap
      obtain ⟨p', hp'⟩ := ih (p.skip 1) hin (by rw [Place.skip_column]; omega)
      rw [hfold, List.append_assoc] at hp'
      refine ⟨p', ?_⟩
      show quotedFrom false (.text gap) p (' ' :: (t.flatMap escaped ++ '"' :: r)) = _
      rw [quotedFrom_space]
      exact hp'
    · obtain ⟨n, hn⟩ := quotedFrom_escaped  (s := t.flatMap escaped ++ '"' :: r) hp hc
      obtain ⟨p', hp'⟩ := ih (p.skip n) (show Gap.none.inLine = true from rfl)
        (by rw [Place.skip_column]; omega)
      refine ⟨p', ?_⟩
      have hrest : quotedFrom false (.text .none) (p.skip n) (t.flatMap escaped ++ '"' :: r) =
          some ⟨t, p', r, false⟩ := hp'
      rw [hn, hrest]
      simp [Ending.prepend]

/-- **Every text in double quotes reads as itself.** -/
theorem quotedFrom_doubleQuoted (t r : List Char) (hp : 0 < p.column) :
    ∃ p', quotedFrom false (.text .none) p (t.flatMap escaped ++ '"' :: r) =
      some ⟨t, p', r, false⟩ :=
  quotedFrom_doubleQuoted_inner t p r rfl hp

end Fleet.Yaml
