import Fleet.Proofs.Yaml.Literal
import Fleet.Proofs.Yaml.Quoted

/-!
# Reading on

A reader that goes through a text passes through two kinds of places: the front of a line, and the
end of a name with its colon.

* `TokenReader.LeadsTo`: the reading of one reader goes on as that of another.
* `AtLine.close`: the blocks deeper than a line are closed before it is read.
* `AtLine.name`: **a name and its colon are read** and give the tokens of a key.
* `AtLine.finish`: at the end of the text everything is closed.
-/

namespace Fleet.Yaml

namespace TokenReader

/-- The reading of `rd` goes on as that of `rd'`, no more tokens later than characters are
passed. -/
def LeadsTo (rd rd' : TokenReader) : Prop :=
  ∃ n, n + rd'.toToken.rest.length ≤ rd.toToken.rest.length ∧
    ∀ fuel, run (n + fuel + 1) rd = run (fuel + 1) rd'

theorem LeadsTo.trans {a b c : TokenReader} (h : LeadsTo a b) (h' : LeadsTo b c) :
    LeadsTo a c := by
  obtain ⟨m, hm, hrun⟩ := h
  obtain ⟨n, hn, hrun'⟩ := h'
  refine ⟨m + n, by omega, fun fuel => ?_⟩
  rw [Nat.add_assoc m, hrun, hrun']

theorem blanksFrom_length (inFlow keyAllowed inComment : Bool) (p : Place) (s : List Char) :
    (blanksFrom inFlow keyAllowed inComment p s).2.1.length ≤ s.length := by
  fun_induction blanksFrom inFlow keyAllowed inComment p s with
  | case1 => exact Nat.le_refl _
  | case2 _ _ _ _ ih => exact Nat.le_trans ih (by simp only [List.length_cons]; omega)
  | case3 _ _ _ _ _ _ _ ih => exact Nat.le_trans ih (by simp)
  | case4 _ _ _ _ _ _ _ _ ih => exact Nat.le_trans ih (by simp)
  | case5 _ _ _ _ _ _ _ _ _ ih => exact Nat.le_trans ih (by simp)
  | case6 => exact Nat.le_refl _

theorem toToken_length (rd : TokenReader) : rd.toToken.rest.length ≤ rd.rest.length :=
  blanksFrom_length ..

/-- One token is read. -/
theorem LeadsTo.of_read? {rd rd' : TokenReader} (h : rd.read? = some rd')
    (hlast : rd'.tokens.getLast? ≠ some .streamEnd)
    (hlen : rd'.toToken.rest.length < rd.toToken.rest.length) : LeadsTo rd rd' := by
  refine ⟨1, by omega, fun fuel => ?_⟩
  rw [show 1 + fuel + 1 = (fuel + 1) + 1 by omega, run, h]
  show (if (rd'.tokens.getLast? == some Token.streamEnd) = true then rd'.tokens
    else run (fuel + 1) rd') = _
  rw [if_neg (by rw [beq_iff_eq]; exact hlast)]

/-- A reader outside flow collections, with no possible key. -/
def plainly (p : Place) (s : List Char) (keyAllowed : Bool) (indent : Int) (outer : List Int)
    (ts : List Token) : TokenReader :=
  { rest := s, place := p, indent, outer, keyAllowed, tokens := ts }

theorem closeDeeper_plainly {p : Place} {s : List Char} {keyAllowed : Bool} {indent column : Int}
    {outer : List Int} {ts : List Token} :
    (plainly p s keyAllowed indent outer ts).closeDeeper column =
      plainly p s keyAllowed (closeTo column indent outer ts).1
        (closeTo column indent outer ts).2.1 (closeTo column indent outer ts).2.2 := rfl

theorem closeTo_of_le {column indent : Int} {outer : List Int} {ts : List Token}
    (h : indent ≤ column) : closeTo column indent outer ts = (indent, outer, ts) := by
  cases outer with
  | nil => rfl
  | cons o os => rw [closeTo, if_neg (by omega)]

theorem closeTo_of_lt {column indent o : Int} {os : List Int} {ts : List Token}
    (h : column < indent) : closeTo column indent (o :: os) ts =
      closeTo column o os (ts ++ [.blockEnd]) := by
  rw [closeTo, if_pos h]

/-- Nothing is deeper than the innermost block. -/
theorem closeDeeper_plainly_of_le {p : Place} {s : List Char} {keyAllowed : Bool}
    {indent column : Int} {outer : List Int} {ts : List Token} (h : indent ≤ column) :
    (plainly p s keyAllowed indent outer ts).closeDeeper column =
      plainly p s keyAllowed indent outer ts := by
  rw [closeDeeper_plainly, closeTo_of_le h]

/-- A reader without a possible key reads at its next token. -/
theorem read?_of_keys {rd t : TokenReader} (ht : rd.toToken = t) (hk : t.keys = [none]) :
    rd.read? = (t.closeDeeper t.place.column).readHere? := by
  have hstale : t.dropStaleKeys? = some t := by
    cases t
    subst hk
    rfl
  rw [read?, ht, hstale]
  rfl

variable {p : Place} {c : Char} {s : List Char} {keyAllowed : Bool} {indent : Int}
  {outer : List Int} {ts : List Token}

theorem blanksFrom_spaces (n : Nat) :
    blanksFrom false keyAllowed false p (spaces n ++ s) =
      blanksFrom false keyAllowed false (p.skip n) s := by
  induction n generalizing p with
  | zero => rfl
  | succ n ih =>
    rw [spaces, List.replicate_succ, List.cons_append,
      blanksFrom.eq_3 _ _ _ _ _ _ (fun s hc => absurd hc (by decide)), if_neg (by decide),
      if_pos (by simp)]
    rw [Nat.add_comm, ← Place.skip_skip]
    exact ih

theorem blanksFrom_newline :
    blanksFrom false keyAllowed false p ('\n' :: s) =
      blanksFrom false true false (p.newline 1) s := by
  rw [blanksFrom.eq_3 _ _ _ _ _ _ (fun s hc => absurd hc (by decide)), if_pos (by decide),
    Bool.not_false, Bool.or_true]

/-- A token starts here. -/
theorem blanksFrom_stop (hg : isGap c = false) (hb : isBreak c = false) (hh : c ≠ '#')
    (hm : p.column = 0 → c ≠ byteOrderMark) :
    blanksFrom false keyAllowed false p (c :: s) = (p, c :: s, keyAllowed) := by
  have hr : c ≠ '\r' := by
    rintro rfl
    cases hb
  have hm' : (p.column == 0 && c == byteOrderMark) = false := by
    rw [Bool.and_eq_false_iff, beq_eq_false_iff_ne, beq_eq_false_iff_ne]
    by_cases hp : p.column = 0
    · exact .inr (hm hp)
    · exact .inl hp
  simp only [isGap, Bool.or_eq_false_iff] at hg
  rw [blanksFrom.eq_3 _ _ _ _ _ _ (fun s hc => absurd hc hr), hb, hm', hg.1, hg.2,
    if_neg Bool.false_ne_true, if_neg (by simp), if_neg (by rw [beq_iff_eq]; exact hh)]

theorem blanksFrom_lineStart (hs : LineStart s) :
    blanksFrom false keyAllowed false p s = (p, s, keyAllowed) := by
  cases s with
  | nil => rfl
  | cons c s =>
    have hc : isAlnum c = true := hs
    exact blanksFrom_stop (not_isGap_of_isAlnum hc) (not_isBreak_of_isAlnum hc)
      (ne_of_isAlnum hc (by decide)) fun _ => ne_of_isAlnum hc (by decide)

theorem toToken_eq (rd : TokenReader)
    (h : blanksFrom (rd.flow != 0) rd.keyAllowed false rd.place rd.rest = (p, s, keyAllowed)) :
    rd.toToken = (rd.goTo p s).allowKey keyAllowed := by
  rw [toToken, h]

/-- What starts a plain scalar. -/
structure StartsPlain (c : Char) (s : List Char) : Prop where
  noIndicator : isLeadingIndicator c = false
  noGap : isGap c = false
  noBreak : isBreak c = false
  followed : c = '-' ∨ c = '?' ∨ c = ':' → startsBlank s = false

theorem StartsPlain.startsPlain (h : StartsPlain c s) : startsPlain false c s = true := by
  have hi := h.noIndicator
  simp only [isLeadingIndicator, Bool.or_eq_false_iff, beq_eq_false_iff_ne, String.reduceToList,
    List.contains_cons, List.contains_nil] at hi
  by_cases hc : c = '-' ∨ c = '?' ∨ c = ':'
  · have hs := h.followed hc
    have hgap : (s.head?).any isGap = false := by
      cases s with
      | nil => rfl
      | cons d s => exact (Bool.or_eq_false_iff.1 hs).1
    rcases hc with rfl | rfl | rfl <;> simp [TokenReader.startsPlain, hs, hgap]
  · simp only [not_or] at hc
    simp [TokenReader.startsPlain, isIndicator, hi, h.noGap, h.noBreak, hc]

theorem StartsPlain.not_mark (h : StartsPlain c s) {d : Char} (hd : d = '-' ∨ d = '?' ∨ d = ':') :
    (c == d && startsBlank s) = false := by
  rw [Bool.and_eq_false_iff, beq_eq_false_iff_ne]
  by_cases hc : c = d
  · exact .inr (h.followed (hc ▸ hd))
  · exact .inl hc

theorem startsPlain_of_isAlnum (h : isAlnum c = true) : StartsPlain c s where
  noIndicator := not_isLeadingIndicator_of_isAlnum h
  noGap := not_isGap_of_isAlnum h
  noBreak := not_isBreak_of_isAlnum h
  followed hc := by
    rcases hc with rfl | rfl | rfl <;> exact absurd h (by decide)

/-- What starts a plain scalar is read as one. -/
theorem readHere?_plain (h : StartsPlain c s)
    (hmark : (p.column == 0 && marksDocument (c :: s)) = false) :
    (plainly p (c :: s) keyAllowed indent outer ts).readHere? =
      (plainly p (c :: s) keyAllowed indent outer ts).readPlain? := by
  have hi := h.noIndicator
  simp only [isLeadingIndicator, Bool.or_eq_false_iff, beq_eq_false_iff_ne, String.reduceToList,
    List.contains_cons, List.contains_nil] at hi
  have h₁ := h.not_mark (d := '-') (by decide)
  have h₂ := h.not_mark (d := '?') (by decide)
  have h₃ := h.not_mark (d := ':') (by decide)
  unfold readHere?
  simp [plainly, hi, hmark, h₁, h₂, h₃, h.startsPlain]

theorem insertIdx_length {α : Type} (as bs : List α) (a : α) :
    (as ++ bs).insertIdx as.length a = as ++ a :: bs := by
  induction as with
  | nil => simp
  | cons x xs ih => rw [List.cons_append, List.length_cons, List.insertIdx_succ_cons, ih,
      List.cons_append]

end TokenReader

open TokenReader

variable {rd : TokenReader} {j k : Nat} {s r : List Char} {indent : Int} {outer : List Int}
  {ts : List Token}

/-- The reader comes to a line `s` behind `j` spaces, in the blocks of `indent` and `outer`. -/
def AtLine (rd : TokenReader) (j : Nat) (s : List Char) (indent : Int) (outer : List Int)
    (ts : List Token) : Prop :=
  ∃ p : Place, p.column = j ∧ ∃ i o us, rd.toToken = plainly p s true i o us ∧
    closeTo j i o us = closeTo j indent outer ts

/-- The reader is behind a name and its colon, in the block of `k`. -/
def AtValue (rd : TokenReader) (s : List Char) (k : Nat) (outer : List Int) (ts : List Token) :
    Prop :=
  ∃ p : Place, k < p.column ∧ rd = plainly p s false k outer ts

theorem AtLine.of_toToken {p : Place} (hp : p.column = j)
    (h : rd.toToken = plainly p s true indent outer ts) : AtLine rd j s indent outer ts :=
  ⟨p, hp, _, _, _, h, rfl⟩

/-- A block that is deeper than the line is closed. -/
theorem AtLine.close (h : AtLine rd j s k (indent :: outer) ts) (hj : j < k) :
    AtLine rd j s indent outer (ts ++ [.blockEnd]) := by
  obtain ⟨p, hp, i, o, us, hrd, hclose⟩ := h
  exact ⟨p, hp, i, o, us, hrd, hclose.trans (closeTo_of_lt (by omega))⟩

/-- What is read at the line. -/
theorem AtLine.read? (h : AtLine rd j s indent outer ts) (hj : indent ≤ j) :
    ∃ p : Place, p.column = j ∧ rd.toToken.rest = s ∧
      rd.read? = (plainly p s true indent outer ts).readHere? := by
  obtain ⟨p, hp, i, o, us, hrd, hclose⟩ := h
  refine ⟨p, hp, by rw [hrd]; rfl, ?_⟩
  rw [read?_of_keys hrd rfl]
  show ((plainly p s true i o us).closeDeeper p.column).readHere? = _
  rw [closeDeeper_plainly, hp, hclose, closeTo_of_le hj]

/-- The tokens of a name and its colon; the first name of a block opens it. -/
def nameTokens (isFirst : Bool) (name : List Char) : List Token :=
  (if isFirst then [.blockMapping] else []) ++
    [.key, .scalar (String.ofList name) .plain, .value]

/-- The reader behind a name, which may be a key. -/
def named (p : Place) (name r : List Char) (indent : Int) (outer : List Int) (ts : List Token) :
    TokenReader :=
  { plainly (p.skip name.length) (':' :: r) false indent outer
      (ts ++ [.scalar (String.ofList name) .plain]) with
    keys := [some ⟨indent == p.column, ts.length, p⟩] }

theorem readHere?_name {p : Place} {name : List Char} (hname : ∀ c ∈ name, isAlnum c = true)
    (hne : name ≠ []) (hr : startsBlank r = true) :
    (plainly p (name ++ ':' :: r) true indent outer ts).readHere? =
      some (named p name r indent outer ts) := by
  obtain ⟨c, u, rfl⟩ := List.exists_cons_of_ne_nil hne
  have hc := hname c List.mem_cons_self
  have hplain : (plainly p (c :: u ++ ':' :: r) true indent outer ts).readPlain? =
      (plainFrom false (indent + 1) .none p (c :: u ++ ':' :: r)).bind fun e =>
        some (({ plainly p (c :: u ++ ':' :: r) true indent outer ts with
            keys := [some ⟨indent == p.column, ts.length, p⟩] }.goTo e.place e.rest).allowKey
          e.afterBreak |>.push (.scalar (String.ofList e.text) .plain)) := rfl
  rw [List.cons_append, readHere?_plain, ← List.cons_append, hplain,
    plainFrom_name _ _ hname hr]
  · rfl
  · exact startsPlain_of_isAlnum hc
  · rw [marksDocument_of_ne (ne_of_isAlnum hc (by decide)) (ne_of_isAlnum hc (by decide)),
      Bool.and_false]

@[simp] theorem named_toToken {p : Place} {name : List Char} :
    (named p name r indent outer ts).toToken = named p name r indent outer ts :=
  toToken_eq (named p name r indent outer ts)
    (blanksFrom_stop (by decide) (by decide) (by decide) fun _ => by decide)

variable (outer ts) in
/-- A name is a key when its colon is read. -/
theorem named_read? {p : Place} {name : List Char} (hi : indent ≤ p.column)
    (hlen : name.length ≤ 1024) (hr : startsBlank r = true) :
    (named p name r indent outer ts).read? =
      some (plainly ((p.skip name.length).skip 1) r false p.column
        (if indent < p.column then indent :: outer else outer)
        (ts ++ nameTokens (indent < p.column) name)) := by
  have hfresh : (named p name r indent outer ts).dropStaleKeys? =
      some (named p name r indent outer ts) := by
    have hstale : isStale (p.skip name.length) ⟨indent == p.column, ts.length, p⟩ = false := by
      rw [isStale, Place.skip_line, Place.skip_index, Bool.or_eq_false_iff]
      exact ⟨decide_eq_false (Nat.lt_irrefl _), decide_eq_false (by dsimp only; omega)⟩
    simp [dropStaleKeys?, named, plainly, hstale]
  have hclose : (named p name r indent outer ts).closeDeeper (p.skip name.length).column =
      named p name r indent outer ts := by
    simp [closeDeeper, named, plainly, closeTo_of_le (show indent ≤ (p.column + name.length : Int)
      by omega)]
  have hhere : (named p name r indent outer ts).readHere? =
      (named p name r indent outer ts).readValue? := by
    simp [readHere?, named, plainly, hr, marksDocument]
  rw [TokenReader.read?, named_toToken, hfresh]
  show ((named p name r indent outer ts).closeDeeper (p.skip name.length).column).readHere? = _
  rw [hclose, hhere]
  by_cases hlt : indent < p.column
  · simp [readValue?, named, plainly, key?, insertIdx_length, openAt, hlt, nameTokens, setKey,
      allowKey, TokenReader.skip, goTo, push]
  · have heq : indent = p.column := by omega
    simp [readValue?, named, plainly, key?, insertIdx_length, openAt, nameTokens, setKey,
      allowKey, TokenReader.skip, goTo, push, heq]

/-- **A name and its colon are read** and give the tokens of a key. -/
theorem AtLine.name {name : List Char} (h : AtLine rd j (name ++ ':' :: r) indent outer ts)
    (hj : indent ≤ j) (hname : ∀ c ∈ name, isAlnum c = true) (hne : name ≠ [])
    (hlen : name.length ≤ 1024) (hr : startsBlank r = true) :
    ∃ rd', LeadsTo rd rd' ∧ AtValue rd' r j (if indent < j then indent :: outer else outer)
      (ts ++ nameTokens (indent < j) name) := by
  obtain ⟨p, hp, hrest, hread⟩ := h.read? hj
  have hpos : 0 < name.length := List.length_pos_iff.2 hne
  rw [readHere?_name hname hne hr] at hread
  have hfirst : LeadsTo rd (named p name r indent outer ts) := by
    refine .of_read? hread ?_ ?_
    · simp [named, plainly]
    · rw [hrest, named_toToken]
      simp only [named, plainly, List.length_cons, List.length_append]
      omega
  subst hp
  have hsecond := named_read? outer ts hj hlen hr
  refine ⟨_, hfirst.trans (.of_read? hsecond ?_ ?_), _, ?_, rfl⟩
  · simp [plainly, nameTokens]
  · rw [named_toToken]
    exact Nat.lt_succ_of_le (toToken_length _)
  · simp only [Place.skip_column]
    omega

/-- At the end of the text the last block is closed. -/
theorem AtLine.finish (h : AtLine rd 0 [] 0 [-1] ts) :
    ∃ rd', rd.read? = some rd' ∧ rd'.tokens = ts ++ [.blockEnd, .streamEnd] := by
  obtain ⟨p, -, -, hread⟩ := h.read? (Int.le_refl 0)
  have hend : (plainly p [] true 0 [-1] ts).readHere? =
      some (plainly p [] false (-1) [] (ts ++ [.blockEnd] ++ [.streamEnd])) := rfl
  exact ⟨_, hread.trans hend, by simp [plainly]⟩

/-- **The tokens of a text** that is read to its end. -/
theorem scan_eq {text : String} (hall : text.toList.all isAllowed = true)
    (hto : LeadsTo { rest := text.toList } rd) (hend : AtLine rd 0 [] 0 [-1] ts) :
    scan text = ts ++ [.blockEnd, .streamEnd] := by
  obtain ⟨n, hn, hrun⟩ := hto
  obtain ⟨rd', hread, hts⟩ := hend.finish
  have hlen := toToken_length { rest := text.toList }
  have hfuel : text.toList.length + 2 = n + (text.toList.length + 1 - n) + 1 := by
    have : n ≤ text.toList.length := by
      exact Nat.le_trans (Nat.le_trans (Nat.le_add_right _ _) hn) hlen
    omega
  have hlast : rd'.tokens.getLast? = some .streamEnd := by simp [hts]
  rw [scan, if_pos hall, hfuel, hrun, run, hread]
  show (if (rd'.tokens.getLast? == some Token.streamEnd) = true then rd'.tokens else _) = _
  rw [if_pos (by rw [hlast]; rfl), hts]

end Fleet.Yaml
