import Fleet.Proofs.Yaml.Chars

/-!
# Plain scalars

* `plainFrom_inner`: a text that may stand plain is read on, character by character.
* `plainFrom_newline`: a line break and a shallower line end it.
* `fits_of_isAlnum`: names and numbers may stand plain.
* `Fits.plainFrom`: **a text that is written plain reads as itself.**
* `plainFrom_name`: so does the name of a field, up to its colon.
-/

namespace Fleet.Yaml

namespace Place

@[simp] theorem skip_zero (p : Place) : p.skip 0 = p := rfl

theorem skip_skip (p : Place) (m n : Nat) : (p.skip m).skip n = p.skip (m + n) := by
  simp [skip, Nat.add_assoc]

@[simp] theorem skip_column (p : Place) (n : Nat) : (p.skip n).column = p.column + n := rfl
@[simp] theorem skip_line (p : Place) (n : Nat) : (p.skip n).line = p.line := rfl
@[simp] theorem skip_index (p : Place) (n : Nat) : (p.skip n).index = p.index + n := rfl
@[simp] theorem newline_column (p : Place) (n : Nat) : (p.newline n).column = 0 := rfl

end Place

/-- The white space inside a line. -/
def Gap.inLine : Gap → Bool
  | .lines _ _ => false
  | _ => true

/-- A text that goes on inside a plain scalar, after a space if `afterBlank` holds. -/
structure GoesOn (afterBlank : Bool) (u : List Char) : Prop where
  printable : ∀ c ∈ u, isPrintable c = true
  noBreak : ∀ c ∈ u, isBreak c = false
  noIndicator : hasInnerIndicator afterBlank u = false
  last : ∀ c, u.getLast? = some c → c ≠ ' '
  /-- A space is not the last character. -/
  nonempty : u = [] → afterBlank = false

theorem GoesOn.tail {b : Bool} {c : Char} {u : List Char} (h : GoesOn b (c :: u))
    (hu : u = [] → isGap c = false) : GoesOn (isGap c) u where
  printable d hd := h.printable d (List.mem_cons_of_mem c hd)
  noBreak d hd := h.noBreak d (List.mem_cons_of_mem c hd)
  noIndicator := by
    have hc := h.noIndicator
    rw [hasInnerIndicator, Bool.or_eq_false_iff] at hc
    rw [h.noBreak c List.mem_cons_self, Bool.or_false] at hc
    exact hc.2
  last d hd := by
    refine h.last d ?_
    cases u with
    | nil => cases hd
    | cons e u => exact hd
  nonempty := hu

variable {indent : Int} {gap : Gap} {p : Place} {c : Char} {s : List Char}

/-- White space inside a line waits for the next character. -/
theorem plainFrom_gap (hr : c ≠ '\r') (hb : isBreak c = false) (hg : isGap c = true)
    (htab : (gap.hasBreak && c == '\t') = false) :
    plainFrom false indent gap p (c :: s) =
      plainFrom false indent (gap.addSpace c) (p.skip 1) s := by
  rw [plainFrom.eq_3 _ _ _ _ _ _ (fun s hc => absurd hc hr), hb, if_neg Bool.false_ne_true,
    if_pos hg, htab, Bool.false_and, if_neg Bool.false_ne_true]

/-- A character that does not end the scalar. -/
theorem plainFrom_char (hr : c ≠ '\r') (hb : isBreak c = false) (hg : isGap c = false)
    (hstop : (gap.isSome && ((!false && decide ((p.column : Int) < indent)) ||
      (p.column == 0 && marksDocument (c :: s)) || c == '#')) = false)
    (hcolon : (c == ':' && startsBlank s) = false) :
    plainFrom false indent gap p (c :: s) =
      (plainFrom false indent .none (p.skip 1) s).map (·.prepend (gap.folded ++ [c])) := by
  rw [plainFrom.eq_3 _ _ _ _ _ _ (fun s hc => absurd hc hr), hb, if_neg Bool.false_ne_true,
    hg, if_neg Bool.false_ne_true]
  dsimp only
  rw [hstop, if_neg Bool.false_ne_true, Bool.false_and, Bool.false_and,
    if_neg Bool.false_ne_true, hcolon, Bool.false_and, Bool.false_or, if_neg Bool.false_ne_true]

/-- What is kept of white space inside a line. -/
theorem Gap.inLine.addSpace {gap : Gap} (h : gap.inLine = true) (c : Char) :
    (gap.addSpace c).inLine = true ∧ (gap.addSpace c).isSome = true ∧
      (gap.addSpace c).folded = gap.folded ++ [c] := by
  cases gap with
  | none => exact ⟨rfl, rfl, rfl⟩
  | spaces cs => exact ⟨rfl, rfl, by simp [Gap.addSpace, Gap.folded]⟩
  | lines first more => cases h

/-- **A text that may stand plain is read on**, character by character. -/
theorem plainFrom_inner {u : List Char} (r : List Char) (hgap : gap.inLine = true)
    (h : GoesOn gap.isSome u) (hp : indent ≤ p.column) (hp₀ : 0 < p.column) :
    plainFrom false indent gap p (u ++ '\n' :: r) =
      (plainFrom false indent .none (p.skip u.length) ('\n' :: r)).map
        (·.prepend (gap.folded ++ u)) := by
  induction u generalizing gap p with
  | nil =>
    obtain rfl : gap = .none := by
      cases gap with
      | none => rfl
      | spaces cs => cases h.nonempty rfl
      | lines first more => cases hgap
    simp [Gap.folded, Ending.prepend]
  | cons c u ih =>
    have hpc := h.printable c List.mem_cons_self
    have hbc := h.noBreak c List.mem_cons_self
    have hreturn := ne_return_of_isPrintable hpc
    have hcol : indent ≤ (p.skip 1).column := by
      rw [Place.skip_column]
      omega
    have hcol₀ : 0 < (p.skip 1).column := by
      rw [Place.skip_column]
      omega
    have hplace : (p.skip 1).skip u.length = p.skip (c :: u).length := by
      rw [Place.skip_skip, List.length_cons, Nat.add_comm]
    rw [List.cons_append]
    cases hg : isGap c with
    | true =>
      -- a space is kept until the next character shows that it is inside
      have hu : u ≠ [] := by
        rintro rfl
        have hsp := hg
        rw [isGap_of_isPrintable hpc] at hsp
        exact h.last c rfl (eq_of_beq hsp)
      have hgo := h.tail fun hn => absurd hn hu
      obtain ⟨hinner, hsome, hfold⟩ := Gap.inLine.addSpace hgap c
      have htab : (gap.hasBreak && c == '\t') = false := by cases gap <;> first | rfl | cases hgap
      rw [hg, ← hsome] at hgo
      rw [plainFrom_gap hreturn hbc hg htab, ih hinner hgo hcol hcol₀, hplace, hfold,
        List.append_assoc]
      rfl
    | false =>
      have hgo := h.tail fun _ => hg
      rw [hg] at hgo
      have hind := h.noIndicator
      rw [hasInnerIndicator, Bool.or_eq_false_iff, Bool.or_eq_false_iff] at hind
      have hstop : (gap.isSome && ((!false && decide ((p.column : Int) < indent)) ||
          (p.column == 0 && marksDocument (c :: (u ++ '\n' :: r))) || c == '#')) = false := by
        have h₁ : decide ((p.column : Int) < indent) = false := decide_eq_false (by omega)
        have h₂ : (p.column == 0) = false := beq_eq_false_iff_ne.2 (by omega)
        rw [h₁, h₂, Bool.and_false, Bool.false_and, Bool.false_or, Bool.false_or, Bool.and_comm]
        exact hind.1.2
      have hcolon : (c == ':' && startsBlank (u ++ '\n' :: r)) = false := by
        rw [startsBlank_append_newline]
        exact hind.1.1
      rw [plainFrom_char hreturn hbc hg hstop hcolon,
        ih (show Gap.none.inLine = true from rfl) hgo hcol hcol₀, hplace, Option.map_map]
      congr 1
      funext e
      simp [Ending.prepend, Gap.folded]

/-- Indentation does not count after a line break. -/
theorem plainFrom_spaces (first : Option Char) (more : List Char) (n : Nat) :
    plainFrom false indent (.lines first more) p (spaces n ++ s) =
      plainFrom false indent (.lines first more) (p.skip n) s := by
  induction n generalizing p with
  | zero => rfl
  | succ n ih =>
    have hspace : plainFrom false indent (.lines first more) p (' ' :: (spaces n ++ s)) =
        plainFrom false indent (.lines first more) (p.skip 1) (spaces n ++ s) :=
      plainFrom_gap (by decide) (by decide) (by decide) rfl
    rw [spaces, List.replicate_succ, List.cons_append]
    rw [spaces] at hspace ih
    rw [hspace, ih, Place.skip_skip, Nat.add_comm]

/-- **A line break and a shallower line end a plain scalar.** -/
theorem plainFrom_newline {n : Nat} (hs : LineStart s) (hn : (n : Int) < indent) :
    plainFrom false indent .none p ('\n' :: (spaces n ++ s)) =
      some ⟨[], (p.newline 1).skip n, s, true⟩ := by
  rw [plainFrom.eq_3 _ _ _ _ _ _ (fun s hc => absurd hc (by decide)), if_pos (by decide)]
  show plainFrom false indent (.lines (some '\n') []) (p.newline 1) (spaces n ++ s) = _
  rw [plainFrom_spaces]
  cases s with
  | nil => rfl
  | cons c s =>
    have hc : isAlnum c = true := hs
    have hdeep : decide ((((p.newline 1).skip n).column : Int) < indent) = true := by
      rw [decide_eq_true_iff, Place.skip_column, Place.newline_column, Nat.zero_add]
      exact hn
    rw [plainFrom.eq_3 _ _ _ _ _ _
        (fun s h => absurd h (ne_of_isAlnum hc (by decide))),
      if_neg (by rw [not_isBreak_of_isAlnum hc]; exact Bool.false_ne_true),
      if_neg (by rw [not_isGap_of_isAlnum hc]; exact Bool.false_ne_true)]
    dsimp only
    rw [hdeep]
    rfl

theorem hasInnerIndicator_mono {u : List Char} (h : hasInnerIndicator true u = false) :
    hasInnerIndicator false u = false := by
  cases u with
  | nil => rfl
  | cons c u =>
    rw [hasInnerIndicator, Bool.or_eq_false_iff, Bool.or_eq_false_iff] at h ⊢
    exact ⟨⟨h.1.1, Bool.and_false _⟩, h.2⟩

/-- What it takes to be written plain. -/
structure Fits (t : List Char) : Prop where
  printable : ∀ c ∈ t, isPrintable c = true
  noBreak : ∀ c ∈ t, isBreak c = false
  noIndicator : hasIndicator t = false
  first : ∀ c, t.head? = some c → c ≠ ' '
  last : ∀ c, t.getLast? = some c → c ≠ ' '

theorem fits_of_fitsPlain {t : List Char} (h : fitsPlain t = true) : Fits t := by
  rw [fitsPlain, Bool.not_eq_true', Bool.or_eq_false_iff, Bool.or_eq_false_iff,
    Bool.or_eq_false_iff, Bool.or_eq_false_iff] at h
  obtain ⟨⟨⟨⟨he, hb⟩, hi⟩, hf⟩, hl⟩ := h
  refine ⟨isPrintable_of_needsEscapes he, fun c hc => ?_, hi, fun c hc => ?_, fun c hc => ?_⟩
  · simpa using List.any_eq_false.1 hb c hc
  · rw [hc] at hf
    simpa [isSpaceChar] using hf
  · rw [hc] at hl
    simpa [isSpaceChar] using hl

theorem not_hasInnerIndicator {u : List Char} (h : ∀ c ∈ u, isAlnum c = true) (b : Bool) :
    hasInnerIndicator b u = false := by
  induction u generalizing b with
  | nil => rfl
  | cons c u ih =>
    have hc := h c List.mem_cons_self
    have hcolon : (c == ':') = false := beq_eq_false_iff_ne.2 (ne_of_isAlnum hc (by decide))
    have hhash : (c == '#') = false := beq_eq_false_iff_ne.2 (ne_of_isAlnum hc (by decide))
    rw [hasInnerIndicator, hcolon, hhash, ih fun d hd => h d (List.mem_cons_of_mem c hd)]
    rfl

/-- Names and numbers may stand plain. -/
theorem fits_of_isAlnum {t : List Char} (h : ∀ c ∈ t, isAlnum c = true) : Fits t where
  printable c hc := isPrintable_of_isAlnum (h c hc)
  noBreak c hc := not_isBreak_of_isAlnum (h c hc)
  noIndicator := by
    cases t with
    | nil => rfl
    | cons c u =>
      have hc := h c List.mem_cons_self
      have hdash : c ≠ '-' := ne_of_isAlnum hc (by decide)
      have hdot : c ≠ '.' := ne_of_isAlnum hc (by decide)
      have hmark : c ≠ '?' := ne_of_isAlnum hc (by decide)
      unfold hasIndicator
      simp [not_hasInnerIndicator h, not_isLeadingIndicator_of_isAlnum hc, hdash, hmark,
        List.isPrefixOf, hdash.symm, hdot.symm]
  first c hc := ne_of_isAlnum (h c (List.mem_of_mem_head? hc)) (by decide)
  last c hc := ne_of_isAlnum (h c (List.mem_of_mem_getLast? hc)) (by decide)

theorem Fits.goesOn {t : List Char} (h : Fits t) : GoesOn false t where
  printable := h.printable
  noBreak := h.noBreak
  noIndicator := by
    have hi := h.noIndicator
    unfold hasIndicator at hi
    rw [Bool.or_eq_false_iff, Bool.or_eq_false_iff] at hi
    exact hasInnerIndicator_mono hi.1.2
  last := h.last
  nonempty _ := rfl

/-- **A text that is written plain reads as itself**, up to the line after it. -/
theorem Fits.plainFrom {t : List Char} (h : Fits t) {n : Nat} (hs : LineStart s)
    (hn : (n : Int) < indent) (hp : indent ≤ p.column) (hp₀ : 0 < p.column) :
    plainFrom false indent .none p (t ++ '\n' :: (spaces n ++ s)) =
      some ⟨t, ((p.skip t.length).newline 1).skip n, s, true⟩ := by
  rw [plainFrom_inner (spaces n ++ s) (show Gap.none.inLine = true from rfl) h.goesOn hp hp₀,
    plainFrom_newline hs hn]
  simp [Ending.prepend, Gap.folded]

/-- The name of a field reads as itself, up to the colon after it. -/
theorem plainFrom_name (indent : Int) {u : List Char} (p : Place) {r : List Char}
    (hu : ∀ c ∈ u, isAlnum c = true) (hr : startsBlank r = true) :
    plainFrom false indent .none p (u ++ ':' :: r) =
      some ⟨u, p.skip u.length, ':' :: r, false⟩ := by
  induction u generalizing p with
  | nil =>
    rw [List.nil_append, plainFrom.eq_3 _ _ _ _ _ _ (fun s hc => absurd hc (by decide)),
      if_neg (by decide), if_neg (by decide)]
    simp [Gap.isSome, hr, Gap.hasBreak]
  | cons c u ih =>
    have hc := hu c List.mem_cons_self
    have hcolon : (c == ':') = false := beq_eq_false_iff_ne.2 (ne_of_isAlnum hc (by decide))
    have hrest := ih (p.skip 1) fun d hd => hu d (List.mem_cons_of_mem c hd)
    rw [List.cons_append, plainFrom_char (ne_of_isAlnum hc (by decide))
      (not_isBreak_of_isAlnum hc) (not_isGap_of_isAlnum hc) rfl (by rw [hcolon, Bool.false_and]),
      hrest, Place.skip_skip, List.length_cons, Nat.add_comm]
    rfl

end Fleet.Yaml
