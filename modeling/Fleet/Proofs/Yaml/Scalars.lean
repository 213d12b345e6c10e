import Fleet.Proofs.Yaml.Reading

/-!
# Scalars behind a name

* `ReadsAs`: what is written behind a name reads as a scalar, whatever line follows.
* `readsAs_plain`, `readsAs_singleQuoted`, `readsAs_doubleQuoted`, `readsAs_literal`: so do the
  four ways to write a text.
* `readsAs_print`: **every text reads as itself**, however it is written.
-/

namespace Fleet.Yaml

open TokenReader

variable {rd : TokenReader} {j k : Nat} {c : Char} {s t u : List Char} {outer : List Int}
  {ts : List Token} {style : Style}

/-- Behind a name at indentation `k`, `w` reads as a scalar, whatever line follows. -/
def ReadsAs (k : Nat) (w t : List Char) (style : Style) : Prop :=
  ∀ ⦃rd : TokenReader⦄ ⦃outer ts j s⦄, LineStart s → j ≤ k →
    AtValue rd (' ' :: w ++ (spaces j ++ s)) k outer ts →
    ∃ rd', LeadsTo rd rd' ∧ AtLine rd' j s k outer (ts ++ [.scalar (String.ofList t) style])

/-- Where the scalar starts. -/
theorem AtValue.read? (h : AtValue rd (' ' :: c :: u) k outer ts) (hg : isGap c = false)
    (hb : isBreak c = false) (hh : c ≠ '#') : ∃ p : Place, k < p.column ∧
      rd.toToken.rest = c :: u ∧ rd.read? = (plainly p (c :: u) false k outer ts).readHere? := by
  obtain ⟨p, hp, rfl⟩ := h
  have hto : (plainly p (' ' :: c :: u) false k outer ts).toToken =
      plainly (p.skip 1) (c :: u) false k outer ts := by
    refine toToken_eq _ ((blanksFrom_spaces 1).trans (blanksFrom_stop hg hb hh fun h₀ => ?_))
    rw [Place.skip_column] at h₀
    omega
  refine ⟨p.skip 1, by rw [Place.skip_column]; omega, by rw [hto]; rfl, ?_⟩
  rw [read?_of_keys hto rfl]
  show ((plainly (p.skip 1) (c :: u) false k outer ts).closeDeeper (p.skip 1).column).readHere? = _
  rw [closeDeeper_plainly_of_le (by rw [Place.skip_column]; omega)]

/-- The scalar is read, and after it only blanks stand before the next line. -/
theorem readsAs_of_readHere? (hg : isGap c = false) (hb : isBreak c = false) (hh : c ≠ '#')
    (h : ∀ (p : Place) (outer ts j s), LineStart s → j ≤ k → k < p.column →
      ∃ rd', (plainly p (c :: (u ++ (spaces j ++ s))) false k outer ts).readHere? = some rd' ∧
        ∃ q : Place, q.column = j ∧
          rd'.toToken = plainly q s true k outer (ts ++ [.scalar (String.ofList t) style])) :
    ReadsAs k (c :: u) t style := by
  intro rd outer ts j s hs hj hrd
  obtain ⟨p, hp, hrest, hread⟩ := AtValue.read? (u := u ++ (spaces j ++ s)) hrd hg hb hh
  obtain ⟨rd', hhere, q, hq, hto⟩ := h p outer ts j s hs hj hp
  have hts : rd'.tokens = ts ++ [.scalar (String.ofList t) style] := congrArg tokens hto
  refine ⟨rd', .of_read? (hread.trans hhere) ?_ ?_, .of_toToken hq hto⟩
  · simp [hts]
  · rw [hrest, hto]
    simp only [plainly, List.length_cons, List.length_append]
    omega

/-- After a scalar in quotes the line ends. -/
theorem toToken_lineEnd {p : Place} (hs : LineStart s) :
    (plainly p ('\n' :: (spaces j ++ s)) false k outer ts).toToken =
      plainly ((p.newline 1).skip j) s true k outer ts :=
  toToken_eq (plainly p ('\n' :: (spaces j ++ s)) false k outer ts)
    (blanksFrom_newline.trans ((blanksFrom_spaces j).trans (blanksFrom_lineStart hs)))

theorem toToken_lineStart {p : Place} (hs : LineStart s) :
    (plainly p s true k outer ts).toToken = plainly p s true k outer ts :=
  toToken_eq (plainly p s true k outer ts) (blanksFrom_lineStart hs)

theorem Fits.startsPlain (h : Fits (c :: u)) (r : List Char) :
    StartsPlain c (u ++ '\n' :: r) where
  noIndicator := by
    have hi := h.noIndicator
    unfold hasIndicator at hi
    simp only [Bool.or_eq_false_iff] at hi
    exact hi.2.1
  noGap := by
    rw [isGap_of_isPrintable (h.printable c List.mem_cons_self)]
    exact beq_eq_false_iff_ne.2 (h.first c rfl)
  noBreak := h.noBreak c List.mem_cons_self
  followed hc := by
    have hi := h.noIndicator
    unfold hasIndicator at hi
    rw [hasInnerIndicator] at hi
    simp only [Bool.or_eq_false_iff, Bool.and_eq_false_iff, beq_eq_false_iff_ne] at hi
    rw [startsBlank_append_newline]
    rcases hc with rfl | rfl | rfl
    · exact hi.2.2.resolve_left (by simp)
    · exact hi.2.2.resolve_left (by simp)
    · exact hi.1.2.1.1.resolve_left (by simp)

variable (k outer ts) in
/-- What reading a plain scalar does to a reader behind a name. -/
theorem readPlain?_eq {p : Place} {e : Ending}
    (h : plainFrom false ((k : Int) + 1) .none p s = some e) :
    (plainly p s false k outer ts).readPlain? = some (plainly e.place e.rest e.afterBreak k outer
      (ts ++ [.scalar (String.ofList e.text) .plain])) := by
  show (plainFrom false ((k : Int) + 1) .none p s).bind _ = _
  rw [h]
  rfl

variable (k outer ts) in
/-- What reading a scalar in quotes does to a reader behind a name. -/
theorem readQuoted?_eq {p : Place} {e : Ending} {single : Bool}
    (h : quotedFrom single (.text .none) (p.skip 1) s = some e) :
    (plainly p (c :: s) false k outer ts).readQuoted? single = some (plainly e.place e.rest false k
      outer (ts ++ [.scalar (String.ofList e.text)
        (if single then .singleQuoted else .doubleQuoted)])) := by
  show (quotedFrom single (.text .none) (p.skip 1) s).bind _ = _
  rw [h]
  rfl

theorem readHere?_singleQuote {p : Place} :
    (plainly p ('\'' :: s) false k outer ts).readHere? =
      (plainly p ('\'' :: s) false k outer ts).readQuoted? true := by
  simp [readHere?, plainly, marksDocument]

theorem readHere?_doubleQuote {p : Place} :
    (plainly p ('"' :: s) false k outer ts).readHere? =
      (plainly p ('"' :: s) false k outer ts).readQuoted? false := by
  simp [readHere?, plainly, marksDocument]

theorem readHere?_bar {p : Place} :
    (plainly p ('|' :: s) false k outer ts).readHere? =
      (plainly p ('|' :: s) false k outer ts).readBlockScalar? true := by
  simp [readHere?, plainly, marksDocument]

/-- A text that may stand plain. -/
theorem readsAs_plain (ht : Fits t) (hne : t ≠ []) : ReadsAs k (t ++ ['\n']) t .plain := by
  obtain ⟨c, u, rfl⟩ := List.exists_cons_of_ne_nil hne
  have hc := ht.startsPlain []
  have hhash : c ≠ '#' := by
    rintro rfl
    exact absurd hc.noIndicator (by decide)
  show ReadsAs k (c :: (u ++ ['\n'])) (c :: u) .plain
  refine readsAs_of_readHere? hc.noGap hc.noBreak hhash fun p outer ts j s hs hj hp => ?_
  have hread := ht.plainFrom hs (show (j : Int) < (k : Int) + 1 by omega)
    (show (k : Int) + 1 ≤ p.column by omega) (by omega)
  have hhere := (readHere?_plain (ht.startsPlain (spaces j ++ s))
    (not_marksDocument (by omega))).trans (readPlain?_eq k outer ts hread)
  rw [List.append_assoc]
  refine ⟨_, hhere, _, ?_, toToken_lineStart hs⟩
  rw [Place.skip_column, Place.newline_column, Nat.zero_add]

/-- A text between single quotes. -/
theorem readsAs_singleQuoted (ht : fitsSingleQuoted t = true) (hn : t.contains '\n' = false) :
    ReadsAs k ('\'' :: (singleQuotedFrom (k + 2) false t ++ ['\'', '\n'])) t .singleQuoted := by
  refine readsAs_of_readHere? (by decide) (by decide) (by decide) fun p outer ts j s hs hj hp => ?_
  obtain ⟨p', hread⟩ := quotedFrom_singleQuoted ht hn (Nat.succ_pos (k + 1))
    (p := p.skip 1) (Nat.succ_pos _) (spaces j ++ s)
  have hhere := readHere?_singleQuote.trans (readQuoted?_eq k outer ts hread)
  rw [List.append_assoc]
  refine ⟨_, hhere, _, ?_, toToken_lineEnd hs⟩
  rw [Place.skip_column, Place.newline_column, Nat.zero_add]

/-- A text between double quotes. -/
theorem readsAs_doubleQuoted : ReadsAs k ('"' :: (t.flatMap escaped ++ ['"', '\n'])) t
    .doubleQuoted := by
  refine readsAs_of_readHere? (by decide) (by decide) (by decide) fun p outer ts j s hs hj hp => ?_
  obtain ⟨p', hread⟩ := quotedFrom_doubleQuoted t ('\n' :: (spaces j ++ s)) (p := p.skip 1)
    (Nat.succ_pos _)
  have hhere := readHere?_doubleQuote.trans (readQuoted?_eq k outer ts hread)
  rw [List.append_assoc]
  refine ⟨_, hhere, _, ?_, toToken_lineEnd hs⟩
  rw [Place.skip_column, Place.newline_column, Nat.zero_add]

/-- The indentation that the header of a literal scalar gives. -/
def literalHint (t : List Char) : Option Nat :=
  if (t.head?).any fun c => isSpaceChar c || isBreak c then some 2 else none

/-- The indentation of a literal scalar, as far as its header gives it. -/
def literalIndent (k : Nat) (t : List Char) : Indent :=
  match literalHint t with
  | some n => .known (k + n)
  | none => .deepest 0

theorem blockHeader?_literalHeader (t u : List Char) :
    blockHeader? (literalHeader t ++ '\n' :: u) =
      some (literalChomp t, literalHint t, '\n' :: u) := by
  rw [literalHeader_eq, literalHint]
  cases (t.head?).any fun c => isSpaceChar c || isBreak c <;> cases literalChomp t <;> rfl

theorem endLine?_newline (p : Place) (u : List Char) :
    endLine? p ('\n' :: u) = some (p.newline 1, u) := rfl

variable (k outer ts) in
/-- What reading a literal scalar does to a reader behind a name. -/
theorem readBlockScalar?_eq {p : Place} {e : Ending}
    (h : blockFrom true (literalChomp t) k (.between (literalIndent k t) false none [])
      (((p.skip 1).skip (literalHeader t).length).newline 1) s = some e) :
    (plainly p ('|' :: (literalHeader t ++ '\n' :: s)) false k outer ts).readBlockScalar? true =
      some (plainly e.place e.rest true k outer
        (ts ++ [.scalar (String.ofList e.text) .literal])) := by
  have hkey : (plainly p ('|' :: (literalHeader t ++ '\n' :: s)) false k outer ts).dropKey? =
      some (plainly p ('|' :: (literalHeader t ++ '\n' :: s)) false k outer ts) := rfl
  have hbar : ((plainly p ('|' :: (literalHeader t ++ '\n' :: s)) false k outer ts).allowKey
      true).skip 1 = plainly (p.skip 1) (literalHeader t ++ '\n' :: s) true k outer ts := rfl
  have hskip : (plainly (p.skip 1) (literalHeader t ++ '\n' :: s) true k outer ts).skip
      ((literalHeader t ++ '\n' :: s).length - ('\n' :: s).length) =
      plainly ((p.skip 1).skip (literalHeader t).length) ('\n' :: s) true k outer ts := by
    simp [TokenReader.skip, goTo, plainly]
  have hindent : (match literalHint t with
      | some n => Indent.known ((max (k : Int) 0).toNat + n)
      | none => .deepest 0) = literalIndent k t := by
    rw [literalIndent]
    cases literalHint t with
    | none => rfl
    | some n => exact congrArg (fun m => Indent.known (m + n)) (by omega)
  simp only [readBlockScalar?, hkey, Option.bind_eq_bind, Option.bind_some, hbar]
  rw [show (plainly (p.skip 1) (literalHeader t ++ '\n' :: s) true k outer ts).rest =
    literalHeader t ++ '\n' :: s from rfl, blockHeader?_literalHeader]
  simp only [Option.bind_some, hskip]
  rw [show (plainly ((p.skip 1).skip (literalHeader t).length) ('\n' :: s) true k outer ts).rest =
    '\n' :: s from rfl, endLine?_newline]
  rw [← hindent] at h
  exact (congrArg (Option.bind · _) h).trans rfl

/-- The indentation that a literal scalar shows is the one that it was written with. -/
theorem blockFrom_literalIndent {chomp : Chomp} {p : Place} (hne : t ≠ [])
    (hpr : ∀ c ∈ t, isPrintable c = true) (hp : p.column = 0) :
    blockFrom true chomp k (.between (.known (k + 2)) false none []) p
        (literalFrom (k + 2) true t ++ literalEnd t ++ s) =
      blockFrom true chomp k (.between (literalIndent k t) false none []) p
        (literalFrom (k + 2) true t ++ literalEnd t ++ s) := by
  obtain ⟨c, u, rfl⟩ := List.exists_cons_of_ne_nil hne
  cases hc : isSpaceChar c || isBreak c with
  | true =>
    have hind : literalIndent k (c :: u) = .known (k + 2) := by
      simp [literalIndent, literalHint, hc]
    rw [hind]
  | false =>
    have hind : literalIndent k (c :: u) = .deepest 0 := by
      simp [literalIndent, literalHint, hc]
    rw [Bool.or_eq_false_iff] at hc
    rw [hind, literalFrom, hc.2, if_neg Bool.false_ne_true, if_pos rfl, List.append_assoc,
      List.append_assoc, List.cons_append,
      blockFrom_deepest (hpr c List.mem_cons_self) hc.1 hc.2 hp (by omega) (by omega)]

/-- A text on several lines. -/
theorem readsAs_literal (ht : fitsLiteral t = true) (hne : t ≠ []) :
    ReadsAs k ('|' :: (literalHeader t ++ '\n' :: (literalFrom (k + 2) true t ++ literalEnd t))) t
      .literal := by
  refine readsAs_of_readHere? (by decide) (by decide) (by decide) fun p outer ts j s hs hj hp => ?_
  rw [fitsLiteral, Bool.not_eq_true', Bool.or_eq_false_iff] at ht
  have hpr := isPrintable_of_needsEscapes ht.1
  obtain ⟨q, hq, hread⟩ := blockFrom_literal k (n := k + 2) (j := j)
    (p := ((p.skip 1).skip (literalHeader t).length).newline 1) hne hpr hs (by omega) rfl
  rw [blockFrom_literalIndent hne hpr rfl] at hread
  have hhere := readHere?_bar.trans (readBlockScalar?_eq k outer ts hread)
  rw [List.append_assoc, List.cons_append]
  exact ⟨_, hhere, q, hq, toToken_lineStart hs⟩

/-- The text can be written in the style. -/
inductive Suits (t : List Char) : Style → Prop where
  | plain (h : Fits t) (hne : t ≠ []) : Suits t .plain
  | singleQuoted (h : fitsSingleQuoted t = true) (hn : t.contains '\n' = false) :
    Suits t .singleQuoted
  | doubleQuoted : Suits t .doubleQuoted
  | literal (h : fitsLiteral t = true) (hne : t ≠ []) : Suits t .literal

/-- The style that is chosen can hold the text. -/
theorem suits_styleOf (t : List Char) : Suits t (styleOf t) := by
  unfold styleOf
  split
  · rename_i hn
    have hne : t ≠ [] := by
      rintro rfl
      cases hn
    split
    · exact .literal ‹_› hne
    · exact .doubleQuoted
  · rename_i hn
    split
    · rename_i hp
      rw [Bool.and_eq_true] at hp
      have hne : t ≠ [] := by
        rintro rfl
        exact absurd hp.1 (by decide)
      exact .plain (fits_of_fitsPlain hp.2) hne
    · split
      · exact .singleQuoted ‹_› (Bool.not_eq_true _ ▸ hn)
      · exact .doubleQuoted

theorem print_literal (n : Nat) (t : List Char) :
    (if (t.getLast?).any isBreak then '|' :: literalHeader t ++ '\n' :: literalFrom n true t
      else '|' :: literalHeader t ++ '\n' :: literalFrom n true t ++ ['\n']) =
      '|' :: (literalHeader t ++ '\n' :: (literalFrom n true t ++ literalEnd t)) := by
  rw [literalEnd]
  split <;> simp

/-- **Every text reads as itself**, however it is written. -/
theorem readsAs_print (k : Nat) (t : List Char) : ReadsAs k (print (k + 2) t) t (styleOf t) := by
  have h := suits_styleOf t
  unfold print
  revert h
  generalize styleOf t = style
  intro h
  cases h with
  | plain h hne => exact readsAs_plain h hne
  | singleQuoted h hn => exact readsAs_singleQuoted h hn
  | doubleQuoted => exact readsAs_doubleQuoted
  | literal h hne =>
    dsimp only
    rw [print_literal]
    exact readsAs_literal h hne

/-- The text holds nothing but characters that may stand in a stream. -/
def Allowed (w : List Char) : Prop := ∀ c ∈ w, isAllowed c = true

theorem Allowed.append {w w' : List Char} (h : Allowed w) (h' : Allowed w') :
    Allowed (w ++ w') := by
  intro c hc
  rcases List.mem_append.1 hc with hc | hc
  · exact h c hc
  · exact h' c hc

theorem Allowed.cons (hc : isAllowed c = true) (h : Allowed s) : Allowed (c :: s) := by
  intro d hd
  rcases List.mem_cons.1 hd with rfl | hd
  · exact hc
  · exact h d hd

theorem allowed_nil : Allowed [] := nofun

instance (w : List Char) : Decidable (Allowed w) :=
  decidable_of_iff (w.all isAllowed = true) List.all_eq_true

theorem allowed_spaces (n : Nat) : Allowed (spaces n) := by
  intro c hc
  rw [List.eq_of_mem_replicate hc]
  decide

theorem allowed_of_isPrintable (h : ∀ c ∈ t, isPrintable c = true) : Allowed t :=
  fun c hc => isAllowed_of_isPrintable (h c hc)

theorem allowed_singleQuotedFrom (n : Nat) (b : Bool) (h : ∀ c ∈ t, isPrintable c = true) :
    Allowed (singleQuotedFrom n b t) := by
  have hindent : ∀ b : Bool, Allowed (if b then spaces n else []) := by
    intro b
    cases b
    · exact allowed_nil
    · exact allowed_spaces n
  induction t generalizing b with
  | nil => exact hindent b
  | cons c t ih =>
    have hc := isAllowed_of_isPrintable (h c List.mem_cons_self)
    have ht : ∀ d ∈ t, isPrintable d = true := fun d hd => h d (List.mem_cons_of_mem c hd)
    rw [singleQuotedFrom]
    split
    · exact .cons hc (ih true ht)
    · refine ((hindent b).append ?_).append (ih false ht)
      split
      · exact .cons (by decide) (.cons (by decide) allowed_nil)
      · exact .cons hc allowed_nil

theorem allowed_literalFrom (n : Nat) (b : Bool) (h : ∀ c ∈ t, isPrintable c = true) :
    Allowed (literalFrom n b t) := by
  induction t generalizing b with
  | nil => exact allowed_nil
  | cons c t ih =>
    have hc := isAllowed_of_isPrintable (h c List.mem_cons_self)
    have ht : ∀ d ∈ t, isPrintable d = true := fun d hd => h d (List.mem_cons_of_mem c hd)
    rw [literalFrom]
    split
    · exact .cons hc (ih true ht)
    · refine Allowed.append ?_ (.cons hc (ih false ht))
      cases b
      · exact allowed_nil
      · exact allowed_spaces n

theorem allowed_upperHex (width n : Nat) : Allowed (upperHex width n) := by
  have hdigit : ∀ d < 16, isAllowed (Nat.digitChar d).toUpper = true := by decide
  induction width generalizing n with
  | zero => exact allowed_nil
  | succ width ih =>
    exact (ih (n / 16)).append (.cons (hdigit _ (Nat.mod_lt n (by decide))) allowed_nil)

theorem allowed_escaped (c : Char) : Allowed (escaped c) := by
  unfold escaped
  split
  all_goals try exact of_decide_eq_true rfl
  split
  · rename_i hc
    exact .cons (isAllowed_of_isPrintable hc) allowed_nil
  · split
    · exact .cons (by decide) (.cons (by decide) (allowed_upperHex _ _))
    · split <;> exact .cons (by decide) (.cons (by decide) (allowed_upperHex _ _))

theorem allowed_literalHeader (t : List Char) : Allowed (literalHeader t) := by
  rw [literalHeader_eq]
  cases (t.head?).any fun c => isSpaceChar c || isBreak c <;> cases literalChomp t <;>
    exact of_decide_eq_true rfl

theorem allowed_literalEnd (t : List Char) : Allowed (literalEnd t) := by
  rw [literalEnd]
  split <;> exact of_decide_eq_true rfl

/-- What is written of a text may stand in a stream. -/
theorem allowed_print (n : Nat) (t : List Char) : Allowed (print n t) := by
  have h := suits_styleOf t
  unfold print
  revert h
  generalize styleOf t = style
  intro h
  cases h with
  | plain h hne => exact (allowed_of_isPrintable h.printable).append (of_decide_eq_true rfl)
  | singleQuoted h hn =>
    rw [fitsSingleQuoted, Bool.not_eq_true', Bool.or_eq_false_iff] at h
    exact .cons (by decide) ((allowed_singleQuotedFrom n false
      (isPrintable_of_needsEscapes h.1)).append (of_decide_eq_true rfl))
  | doubleQuoted =>
    refine .cons (by decide) (Allowed.append (fun c hc => ?_) (of_decide_eq_true rfl))
    obtain ⟨d, -, hd⟩ := List.mem_flatMap.1 hc
    exact allowed_escaped d c hd
  | literal h hne =>
    rw [fitsLiteral, Bool.not_eq_true', Bool.or_eq_false_iff] at h
    dsimp only
    rw [print_literal]
    exact .cons (by decide) ((allowed_literalHeader t).append (.cons (by decide)
      ((allowed_literalFrom n true (isPrintable_of_needsEscapes h.1)).append
        (allowed_literalEnd t))))

end Fleet.Yaml
