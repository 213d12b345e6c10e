import Fleet.Proofs.Yaml.Plain
import Fleet.Yaml.Token.Reader

/-!
# Literal scalars

* `blockFrom_text`: the lines of a literal scalar are read on, line by line.
* `literalChomp`: what the header says of the breaks at the end.
* `blockFrom_literal`: **a text that is written as a literal scalar reads as itself.**
-/

namespace Fleet.Yaml

variable {chomp : Chomp} {parent : Int} {part : BlockPart} {p : Place} {c : Char} {s : List Char}
  {n : Nat} {afterBlank : Bool} {lead : Option Char} {trail : List Char}

theorem blockFrom_within_char (hc : isPrintable c = true) (hb : isBreak c = false) :
    blockFrom true chomp parent (.within n afterBlank) p (c :: s) =
      (blockFrom true chomp parent (.within n afterBlank) (p.skip 1) s).map (·.prepend [c]) := by
  rw [blockFrom.eq_6 _ _ _ _ _ _ _ _ (fun s hr => absurd hr (ne_return_of_isPrintable hc)), hb,
    if_neg Bool.false_ne_true]

theorem blockFrom_within_break (hc : isPrintable c = true) (hb : isBreak c = true) :
    blockFrom true chomp parent (.within n afterBlank) p (c :: s) =
      blockFrom true chomp parent (.between (.known n) afterBlank (some c) []) (p.newline 1) s := by
  rw [blockFrom.eq_6 _ _ _ _ _ _ _ _ (fun s hr => absurd hr (ne_return_of_isPrintable hc)), hb,
    if_pos rfl, breakChar_of_isPrintable hc hb]

theorem blockFrom_between_break (hc : isPrintable c = true) (hb : isBreak c = true) :
    blockFrom true chomp parent (.between (.known n) afterBlank lead trail) p (c :: s) =
      blockFrom true chomp parent (.between (.known n) afterBlank lead (c :: trail))
        (p.newline 1) s := by
  have hs : (c == ' ') = false := not_isSpaceChar_of_isBreak hb
  have ht : (c == '\t') = false := by
    rw [beq_eq_false_iff_ne]
    rintro rfl
    exact absurd hb (by decide)
  rw [blockFrom.eq_7 _ _ _ _ _ _ _ _ _ _
    (fun s hr => absurd hr (ne_return_of_isPrintable hc)), hs, ht, hb, Bool.and_false,
    if_neg Bool.false_ne_true, if_neg Bool.false_ne_true, if_pos rfl,
    breakChar_of_isPrintable hc hb]

/-- The first character of a line of text. -/
theorem blockFrom_between_char (hc : isPrintable c = true) (hb : isBreak c = false)
    (hp : p.column = n) :
    blockFrom true chomp parent (.between (.known n) afterBlank lead trail) p (c :: s) =
      (blockFrom true chomp parent (.within n (isGap c)) (p.skip 1) s).map
        (·.prepend (lead.toList ++ trail.reverse ++ [c])) := by
  have hn : decide (p.column < n) = false := decide_eq_false (by omega)
  have hcol : (p.column == n) = true := beq_iff_eq.2 hp
  rw [blockFrom.eq_7 _ _ _ _ _ _ _ _ _ _
    (fun s hr => absurd hr (ne_return_of_isPrintable hc)), hn, hb, Bool.false_and, Bool.false_and,
    if_neg Bool.false_ne_true, if_neg Bool.false_ne_true, if_neg Bool.false_ne_true]
  dsimp only
  rw [hcol, if_pos rfl]
  rfl

/-- The indentation of a line. -/
theorem blockFrom_between_spaces (m : Nat) (hp : p.column + m ≤ n) :
    blockFrom true chomp parent (.between (.known n) afterBlank lead trail) p (spaces m ++ s) =
      blockFrom true chomp parent (.between (.known n) afterBlank lead trail) (p.skip m) s := by
  induction m generalizing p with
  | zero => rfl
  | succ m ih =>
    have hn : decide (p.column < n) = true := decide_eq_true (by omega)
    have h : spaces (m + 1) ++ s = ' ' :: (spaces m ++ s) := by
      simp [spaces, List.replicate_succ]
    rw [h, blockFrom.eq_7 _ _ _ _ _ _ _ _ _ _ (fun s hr => absurd hr (by decide)), hn,
      if_pos (by decide), ih (by rw [Place.skip_column]; omega), Place.skip_skip, Nat.add_comm]

/-- A shallower line ends a literal scalar. -/
theorem blockFrom_between_end {j : Nat} (hs : LineStart s) (hp : p.column = 0) (hj : j < n) :
    blockFrom true chomp parent (.between (.known n) afterBlank lead trail) p (spaces j ++ s) =
      some ⟨chomp.ending lead trail, p.skip j, s, true⟩ := by
  rw [blockFrom_between_spaces j (by omega)]
  cases s with
  | nil => rw [blockFrom.eq_1]
  | cons c s =>
    have hc : isAlnum c = true := hs
    have hcol : ((p.skip j).column == n) = false := by
      rw [beq_eq_false_iff_ne, Place.skip_column]
      omega
    have hsp : (c == ' ') = false := beq_eq_false_iff_ne.2 (ne_of_isAlnum hc (by decide))
    have ht : (c == '\t') = false := beq_eq_false_iff_ne.2 (ne_of_isAlnum hc (by decide))
    rw [blockFrom.eq_7 _ _ _ _ _ _ _ _ _ _
      (fun s hr => absurd hr (ne_of_isAlnum hc (by decide))), hsp, ht, Bool.and_false,
      if_neg Bool.false_ne_true, if_neg Bool.false_ne_true,
      if_neg (by rw [not_isBreak_of_isAlnum hc]; exact Bool.false_ne_true)]
    dsimp only
    rw [hcol, if_neg Bool.false_ne_true]

/-- A literal scalar of a known indentation is being read. -/
inductive InLiteral (n : Nat) : BlockPart → Prop where
  | within (afterBlank : Bool) : InLiteral n (.within n afterBlank)
  | between (afterBlank : Bool) (lead : Option Char) (trail : List Char) :
    InLiteral n (.between (.known n) afterBlank lead trail)

namespace BlockPart

/-- The reader is before the text of a line. -/
def isBetween : BlockPart → Bool
  | between .. => true
  | within .. => false

/-- The breaks that wait for the next line of text. -/
def pending : BlockPart → List Char
  | between _ _ lead trail => lead.toList ++ trail.reverse
  | within .. => []

end BlockPart

/-- A break inside a literal scalar waits for the next line. -/
theorem blockFrom_break (h : InLiteral n part) (hc : isPrintable c = true)
    (hb : isBreak c = true) : ∃ part', InLiteral n part' ∧ part'.isBetween = true ∧
      part'.pending = part.pending ++ [c] ∧ ∀ r, blockFrom true chomp parent part p (c :: r) =
        blockFrom true chomp parent part' (p.newline 1) r := by
  cases h with
  | within ab =>
    exact ⟨_, .between ab (some c) [], rfl, rfl, fun r => blockFrom_within_break hc hb⟩
  | between ab lead trail =>
    refine ⟨_, .between ab lead (c :: trail), rfl, ?_, fun r => blockFrom_between_break hc hb⟩
    simp [BlockPart.pending]

/-- A character of a line comes with the indentation and the breaks before it. -/
theorem blockFrom_char (h : InLiteral n part) (hp : part.isBetween = true → p.column = 0)
    (hc : isPrintable c = true) (hb : isBreak c = false) : ∃ afterBlank p', ∀ r,
      blockFrom true chomp parent part p
        ((if part.isBetween then spaces n else []) ++ c :: r) =
      (blockFrom true chomp parent (.within n afterBlank) p' r).map
        (·.prepend (part.pending ++ [c])) := by
  cases h with
  | within ab => exact ⟨ab, _, fun r => blockFrom_within_char hc hb⟩
  | between ab lead trail =>
    have hp₀ := hp rfl
    refine ⟨isGap c, (p.skip n).skip 1, fun r => ?_⟩
    rw [BlockPart.isBetween, if_pos rfl, blockFrom_between_spaces n (by omega),
      blockFrom_between_char hc hb (by rw [Place.skip_column, hp₀, Nat.zero_add])]
    rfl

variable (chomp parent) in
/-- **The lines of a text are read on**; the breaks at its end wait for what comes next. -/
theorem blockFrom_text {u : List Char} (h : InLiteral n part)
    (hp : part.isBetween = true → p.column = 0) (hpr : ∀ c ∈ u, isPrintable c = true) :
    ∃ part' p' read, InLiteral n part' ∧ (part'.isBetween = true → p'.column = 0) ∧
      part'.isBetween = (u.getLast?.map isBreak).getD part.isBetween ∧
      read ++ part'.pending = part.pending ++ u ∧
      ∀ r, blockFrom true chomp parent part p (literalFrom n part.isBetween u ++ r) =
        (blockFrom true chomp parent part' p' r).map (·.prepend read) := by
  induction u generalizing part p with
  | nil =>
    refine ⟨part, p, [], h, hp, rfl, by rw [List.append_nil]; rfl, fun r => ?_⟩
    simp [literalFrom, Ending.prepend]
  | cons c u ih =>
    have hc := hpr c List.mem_cons_self
    have hpr' : ∀ d ∈ u, isPrintable d = true := fun d hd => hpr d (List.mem_cons_of_mem c hd)
    have hlast : ∀ b b' : Bool, b = isBreak c →
        (u.getLast?.map isBreak).getD b = ((c :: u).getLast?.map isBreak).getD b' := by
      intro b b' he
      rw [List.getLast?_cons]
      cases u.getLast? with
      | none => exact he
      | some d => rfl
    -- a break waits and the line after it is indented; any other character is read at once
    cases hb : isBreak c with
    | true =>
      obtain ⟨part₁, h₁, hbt, hpend, hstep⟩ := blockFrom_break h hc hb
      obtain ⟨part', p', read, h', hcol, hbt', hread, hrest⟩ :=
        ih (p := p.newline 1) h₁ (fun _ => rfl) hpr'
      rw [hpend, List.append_assoc] at hread
      refine ⟨part', p', read, h', hcol, ?_, hread, fun r => ?_⟩
      · exact hbt'.trans (hlast _ _ (hbt.trans hb.symm))
      · rw [literalFrom, hb, if_pos rfl, List.cons_append, hstep, ← hrest r, hbt]
    | false =>
      obtain ⟨ab, q, hstep⟩ := blockFrom_char h hp hc hb
      obtain ⟨part', p', read, h', hcol, hbt', hread, hrest⟩ :=
        ih (p := q) (.within ab) (fun hf => absurd hf Bool.false_ne_true) hpr'
      refine ⟨part', p', part.pending ++ c :: read, h', hcol, ?_, ?_, fun r => ?_⟩
      · exact hbt'.trans (hlast _ _ hb.symm)
      · rw [List.append_assoc, List.cons_append, hread]
        rfl
      · have hr : blockFrom true chomp parent (.within n ab) q (literalFrom n false u ++ r) = _ :=
          hrest r
        rw [literalFrom, hb, if_neg Bool.false_ne_true, List.append_assoc, List.cons_append, hstep,
          hr, Option.map_map]
        congr 1
        funext e
        simp [Ending.prepend]

variable (parent) in
/-- A literal scalar that keeps its breaks, and a shallower line. -/
theorem blockFrom_keep {u : List Char} {j : Nat} (hpr : ∀ c ∈ u, isPrintable c = true)
    (hlast : u.getLast?.all isBreak = true) (hs : LineStart s) (hj : j < n) (hp : p.column = 0) :
    ∃ p', p'.column = j ∧
      blockFrom true .keep parent (.between (.known n) false none []) p
          (literalFrom n true u ++ (spaces j ++ s)) =
        some ⟨u, p', s, true⟩ := by
  obtain ⟨part', q, read, h', hcol, hbt, hread, htext⟩ := blockFrom_text .keep parent
    (InLiteral.between (n := n) false none []) (fun _ => hp) hpr
  cases h' with
  | within =>
    cases hu : u.getLast? with
    | none => rw [hu] at hbt; cases hbt
    | some c =>
      rw [hu] at hbt hlast
      exact absurd (hbt.trans hlast) Bool.false_ne_true
  | between ab lead trail =>
    have hq : q.column = 0 := hcol rfl
    refine ⟨q.skip j, by rw [Place.skip_column, hq, Nat.zero_add], ?_⟩
    have hall : read ++ (lead.toList ++ trail.reverse) = u := hread
    have hr := htext (spaces j ++ s)
    rw [blockFrom_between_end hs hq hj, BlockPart.isBetween] at hr
    rw [hr, ← hall]
    rfl

variable (chomp parent) in
/-- A text that ends inside a line, one break and a shallower line. -/
theorem blockFrom_line {u : List Char} {b : Char} {j : Nat} (hu : u ≠ [])
    (hpr : ∀ c ∈ u, isPrintable c = true) (hlast : ∀ c, u.getLast? = some c → isBreak c = false)
    (hb : isPrintable b = true) (hbb : isBreak b = true) (hs : LineStart s) (hj : j < n)
    (hp : p.column = 0) :
    ∃ p', p'.column = j ∧
      blockFrom true chomp parent (.between (.known n) false none []) p
          (literalFrom n true u ++ b :: (spaces j ++ s)) =
        some ⟨u ++ chomp.ending (some b) [], p', s, true⟩ := by
  obtain ⟨part', q, read, h', -, hbt, hread, htext⟩ := blockFrom_text chomp parent
    (InLiteral.between (n := n) false none []) (fun _ => hp) hpr
  have hlast' := hlast _ (List.getLast?_eq_some_getLast hu)
  rw [List.getLast?_eq_some_getLast hu, Option.map_some, Option.getD_some, hlast'] at hbt
  cases h' with
  | between => cases hbt
  | within ab =>
    refine ⟨(q.newline 1).skip j, by simp, ?_⟩
    have hr := htext (b :: (spaces j ++ s))
    rw [blockFrom_within_break hb hbb, blockFrom_between_end hs rfl hj] at hr
    simp only [BlockPart.pending, List.append_nil, Option.toList_none, List.reverse_nil,
      List.nil_append] at hread
    simpa [Ending.prepend, BlockPart.isBetween, hread] using hr

/-- What the header of a literal scalar says of the breaks at its end. -/
def literalChomp (t : List Char) : Chomp :=
  match t.reverse with
  | [] => .strip
  | [c] => if isBreak c then .keep else .strip
  | c :: d :: _ => if !isBreak c then .strip else if isBreak d then .keep else .clip

/-- The mark of a way to end a block scalar. -/
def Chomp.mark : Chomp → List Char
  | .strip => ['-']
  | .clip => []
  | .keep => ['+']

theorem literalHeader_eq (t : List Char) :
    literalHeader t =
      (if (t.head?).any fun c => isSpaceChar c || isBreak c then ['2'] else []) ++
        (literalChomp t).mark := by
  unfold literalHeader literalChomp
  congr 1
  rcases t.reverse with _ | ⟨c, _ | ⟨d, w⟩⟩
  · rfl
  · cases hc : isBreak c <;> simp [hc, Chomp.mark]
  · cases hc : isBreak c <;> cases hd : isBreak d <;> simp [hc, hd, Chomp.mark]

theorem literalFrom_concat {b : Bool} {u : List Char} (hc : isBreak c = true) :
    literalFrom n b (u ++ [c]) = literalFrom n b u ++ [c] := by
  induction u generalizing b with
  | nil => simp [literalFrom, hc]
  | cons d u ih =>
    rw [List.cons_append, literalFrom, literalFrom]
    split
    · rw [ih, List.cons_append]
    · rw [ih, List.append_assoc, List.cons_append]

/-- What closes the last line of a literal scalar. -/
def literalEnd (t : List Char) : List Char :=
  if (t.getLast?).any isBreak then [] else ['\n']

variable (parent) in
/-- **A text that is written as a literal scalar reads as itself**, where its indentation is
known. -/
theorem blockFrom_literal {t : List Char} {j : Nat} (ht : t ≠ [])
    (hpr : ∀ c ∈ t, isPrintable c = true) (hs : LineStart s) (hj : j < n) (hp : p.column = 0) :
    ∃ p', p'.column = j ∧
      blockFrom true (literalChomp t) parent (.between (.known n) false none []) p
          (literalFrom n true t ++ literalEnd t ++ (spaces j ++ s)) =
        some ⟨t, p', s, true⟩ := by
  obtain ⟨u, c, rfl⟩ : ∃ u c, t = u ++ [c] := ⟨_, _, (List.dropLast_concat_getLast ht).symm⟩
  have hc : isPrintable c = true := hpr c (by simp)
  have hlast : (u ++ [c]).getLast? = some c := List.getLast?_concat
  cases hb : isBreak c with
  | false =>
    have hchomp : literalChomp (u ++ [c]) = .strip := by
      rw [literalChomp, List.reverse_concat]
      cases u.reverse <;> simp [hb]
    have hend : literalEnd (u ++ [c]) = ['\n'] := by simp [literalEnd, hlast, hb]
    obtain ⟨p', hcol, hrun⟩ := blockFrom_line .strip parent ht hpr
      (fun d hd => by rw [hlast] at hd; cases hd; exact hb)
      (show isPrintable '\n' = true from by decide) (by decide) hs hj hp
    refine ⟨p', hcol, ?_⟩
    rw [hchomp, hend, List.append_assoc]
    simpa [Chomp.ending] using hrun
  | true =>
    have hend : literalEnd (u ++ [c]) = [] := by simp [literalEnd, hlast, hb]
    rw [hend, List.append_nil]
    cases hu : u.getLast?.any fun d => !isBreak d with
    | true =>
      -- one break ends the text, and it is the one that every line has
      obtain ⟨d, hd, hdb⟩ := (Option.any_eq_true _ _).1 hu
      obtain ⟨w, rfl⟩ := List.getLast?_eq_some_iff.1 hd
      have hchomp : literalChomp (w ++ [d] ++ [c]) = .clip := by
        have hdf : isBreak d = false := by simpa using hdb
        simp [literalChomp, hb, hdf]
      obtain ⟨p', hcol, hrun⟩ := blockFrom_line .clip parent (u := w ++ [d])
        (by simp) (fun e he => hpr e (List.mem_append_left _ he))
        (fun e he => by rw [hd] at he; cases he; simpa using hdb) hc hb hs hj hp
      refine ⟨p', hcol, ?_⟩
      rw [hchomp, literalFrom_concat hb, List.append_assoc]
      exact hrun
    | false =>
      have hchomp : literalChomp (u ++ [c]) = .keep := by
        rw [literalChomp, List.reverse_concat]
        rw [← List.head?_reverse] at hu
        cases hr : u.reverse with
        | nil => simp [hb]
        | cons d w =>
          rw [hr] at hu
          have hd : isBreak d = true := by simpa using hu
          simp [hb, hd]
      rw [hchomp]
      exact blockFrom_keep parent hpr (by rw [hlast]; exact hb) hs hj hp

/-- The first line of text shows the indentation. -/
theorem blockFrom_deepest {r : List Char} (hc : isPrintable c = true)
    (hsp : isSpaceChar c = false) (hb : isBreak c = false) (hp : p.column = 0) (hn : 1 ≤ n)
    (hparent : parent + 1 ≤ n) :
    blockFrom true chomp parent (.between (.deepest 0) false none []) p (spaces n ++ c :: r) =
      blockFrom true chomp parent (.between (.known n) false none []) p (spaces n ++ c :: r) := by
  have hspaces : ∀ (m : Nat) (p : Place), blockFrom true chomp parent
      (.between (.deepest 0) false none []) p (spaces m ++ c :: r) =
      blockFrom true chomp parent (.between (.deepest 0) false none []) (p.skip m) (c :: r) := by
    intro m
    induction m with
    | zero => exact fun p => rfl
    | succ m ih =>
      intro p
      have h : spaces (m + 1) ++ c :: r = ' ' :: (spaces m ++ c :: r) := by
        simp [spaces, List.replicate_succ]
      rw [h, blockFrom.eq_8 _ _ _ _ _ _ _ _ _ _ (fun s hr => absurd hr (by decide)),
        if_pos (by decide), ih, Place.skip_skip, Nat.add_comm]
  have ht : (c == '\t') = false := by
    rw [beq_eq_false_iff_ne]
    rintro rfl
    exact absurd hc (by decide)
  have hcol : (p.skip n).column = n := by rw [Place.skip_column, hp, Nat.zero_add]
  have hdeep : ((p.skip n).column ==
      max (max 0 (p.skip n).column) (max (parent + 1) 1).toNat) = true := by
    rw [beq_iff_eq, hcol]
    omega
  rw [hspaces, blockFrom_between_spaces n (by omega), blockFrom_between_char hc hb hcol,
    blockFrom.eq_8 _ _ _ _ _ _ _ _ _ _ (fun s hr => absurd hr (ne_return_of_isPrintable hc)),
    show (c == ' ') = false from hsp, ht, hb, Bool.and_false,
    if_neg Bool.false_ne_true, if_neg Bool.false_ne_true, if_neg Bool.false_ne_true]
  dsimp only
  rw [hdeep, if_pos rfl, hcol, show max (max 0 n) (max (parent + 1) 1).toNat = n by omega]
  rfl

end Fleet.Yaml
