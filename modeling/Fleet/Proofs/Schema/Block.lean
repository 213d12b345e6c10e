import Fleet.Proofs.Yaml.Number
import Fleet.Proofs.Yaml.Scalars
import Fleet.Schema.Print

/-!
# Records in block style

* `Schema.isBlock`: the shapes that are written with nothing but scalars and block mappings.
* `Schema.tokens`: the tokens of a value.
* `Schema.leadsTo`: **a value reads as its tokens** behind its name.
* `scan_lines`: so does a record that is a document of its own.
-/

namespace Fleet

open Text Yaml TokenReader

/-- A name that stands plain in front of its colon. -/
def isName (name : String) : Bool :=
  !name.toList.isEmpty && name.toList.all isAlnum && decide (name.toList.length ≤ 1024)

namespace Fields

/-- The names of the fields. -/
def names : Fields → List String
  | .nil => []
  | .cons name _ _ _ rest => name :: rest.names

end Fields

mutual
/-- The shapes that are written with nothing but scalars and block mappings: fields answer to one
name only, and to different ones. -/
def Schema.isBlock : Schema → Bool
  | .text _ => true
  | .flag => true
  | .byte => true
  | .word => true
  | .choice names _ => decide names.Nodup
  | .record .nil => false
  | .record (.cons name aliases required value rest) =>
    (Fields.cons name aliases required value rest).isBlock
  | _ => false

/-- The fields of such a shape. -/
def Fields.isBlock : Fields → Bool
  | .nil => true
  | .cons name aliases _ value rest =>
    isName name && aliases.isEmpty && !rest.names.contains name && value.isBlock && rest.isBlock
end

mutual
/-- The tokens of a value. -/
def Schema.tokens : (s : Schema) → s.Carrier → List Token
  | .text _, (t : String) => [.scalar t (styleOf t.toList)]
  | .flag, (b : Bool) => [.scalar (if b then "true" else "false") .plain]
  | .byte, (n : UInt8) => [.scalar (decimal n.toNat) .plain]
  | .word, (n : UInt32) => [.scalar (decimal n.toNat) .plain]
  | .choice names _, (i : Fin names.length) => [.scalar names[i] (styleOf names[i].toList)]
  | .record fields, v => .blockMapping :: fields.tokens v ++ [.blockEnd]
  | _, _ => []

/-- The tokens of the fields of a record. -/
def Fields.tokens : (fs : Fields) → fs.Carrier → List Token
  | .nil, _ => []
  | .cons name _ _ value rest, v =>
    [.key, .scalar name .plain, .value] ++ value.tokens v.1 ++ rest.tokens v.2
end

/-- The lines of fields without the indentation of the first. -/
def Fields.firstLine (indent : Nat) : (fs : Fields) → fs.Carrier → List Char
  | .nil, _ => []
  | .cons name _ _ value rest, v =>
    name.toList ++ ':' :: value.afterName indent v.1 ++ rest.lines indent v.2

/-- What makes a field part of a block shape. -/
structure BlockField (name : String) (aliases : List String) (value : Schema) (rest : Fields) :
    Prop where
  letters : ∀ c ∈ name.toList, isAlnum c = true
  nonempty : name.toList ≠ []
  short : name.toList.length ≤ 1024
  single : aliases = []
  fresh : name ∉ rest.names
  value : value.isBlock = true
  rest : rest.isBlock = true

theorem blockField {name : String} {aliases : List String} {required : Bool} {value : Schema}
    {rest : Fields} (h : (Fields.cons name aliases required value rest).isBlock = true) :
    BlockField name aliases value rest := by
  simp only [Fields.isBlock, isName, Bool.and_eq_true, Bool.not_eq_true', List.isEmpty_eq_false_iff,
    List.all_eq_true, decide_eq_true_eq, List.isEmpty_iff, List.contains_eq_mem,
    decide_eq_false_iff_not] at h
  obtain ⟨⟨⟨⟨⟨⟨hne, hletters⟩, hshort⟩, hsingle⟩, hfresh⟩, hvalue⟩, hrest⟩ := h
  exact ⟨hletters, hne, hshort, hsingle, hfresh, hvalue, hrest⟩

variable {rd : TokenReader} {j k : Nat} {u : List Char} {indent : Int} {outer : List Int}
  {ts : List Token}

/-- A value of one token. -/
theorem ReadsAs.leadsTo {t : String} {w : List Char} {style : Style}
    (h : ReadsAs k w t.toList style) (hu : LineStart u) (hj : j ≤ k)
    (hrd : AtValue rd (' ' :: w ++ (spaces j ++ u)) k outer ts) :
    ∃ rd', LeadsTo rd rd' ∧ AtLine rd' j u k outer (ts ++ [.scalar t style]) := by
  obtain ⟨rd', hto, hend⟩ := h hu hj hrd
  rw [String.ofList_toList] at hend
  exact ⟨rd', hto, hend⟩

/-- A word on a line of its own. -/
theorem readsAs_lineOf {t : String} (h : ∀ c ∈ t.toList, isAlnum c = true) (hne : t.toList ≠ []) :
    ReadsAs k (lineOf t) t.toList .plain :=
  readsAs_plain (fits_of_isAlnum h) hne

theorem readsAs_decimal (n : Nat) : ReadsAs k (lineOf (decimal n)) (decimal n).toList .plain := by
  refine readsAs_lineOf (fun c hc => ?_) ?_
  · rw [isAlnum, isDigit_decimal hc, Bool.or_true]
  · rw [toList_decimal]
    exact Nat.toDigits_ne_nil

theorem allowed_decimal (n : Nat) : Allowed (lineOf (decimal n)) := by
  refine Allowed.append (fun c hc => ?_) (of_decide_eq_true rfl)
  have hc : isAlnum c = true := by rw [isAlnum, isDigit_decimal hc, Bool.or_true]
  exact isAllowed_of_isPrintable (isPrintable_of_isAlnum hc)

theorem readsAs_flag (b : Bool) : ReadsAs k (lineOf (if b then "true" else "false"))
    (if b then "true" else "false").toList .plain := by
  cases b <;> exact readsAs_lineOf (List.all_eq_true.1 rfl) (by decide)

theorem BlockField.lineStart {name : String} {aliases : List String} {value : Schema}
    {rest : Fields} (h : BlockField name aliases value rest) (w : List Char) :
    LineStart (name.toList ++ w) := by
  obtain ⟨c, s, hc⟩ := List.exists_cons_of_ne_nil h.nonempty
  rw [hc]
  exact h.letters c (by rw [hc]; exact List.mem_cons_self)

theorem startsBlank_afterName {s : Schema} (hs : s.isBlock = true) (v : s.Carrier)
    (w : List Char) : startsBlank (s.afterName k v ++ w) = true := by
  match s, hs, v with
  | .text _, _, _ => rfl
  | .flag, _, _ => rfl
  | .byte, _, _ => rfl
  | .word, _, _ => rfl
  | .choice .., _, _ => rfl
  | .record (.cons ..), _, _ => rfl

/-- The name of a field is read. -/
theorem BlockField.leadsTo {name : String} {aliases : List String} {required : Bool}
    {value : Schema} {rest : Fields} (h : BlockField name aliases value rest)
    {v : (Fields.cons name aliases required value rest).Carrier} {w : List Char}
    (hi : indent ≤ k)
    (hrd : AtLine rd k ((Fields.cons name aliases required value rest).firstLine k v ++ w)
      indent outer ts) :
    ∃ rd', LeadsTo rd rd' ∧ AtValue rd' (value.afterName k v.1 ++ (rest.lines k v.2 ++ w)) k
      (if indent < k then indent :: outer else outer)
      (ts ++ nameTokens (indent < k) name.toList) := by
  rw [Fields.firstLine, List.append_assoc, List.append_assoc] at hrd
  exact hrd.name hi h.letters h.nonempty h.short (startsBlank_afterName h.value v.1 _)

/-- The lines of fields. -/
theorem Fields.lines_cons {name : String} {aliases : List String} {required : Bool}
    {value : Schema} {rest : Fields}
    (v : (Fields.cons name aliases required value rest).Carrier) :
    (Fields.cons name aliases required value rest).lines k v =
      spaces k ++ (Fields.cons name aliases required value rest).firstLine k v := by
  rw [Fields.lines, Fields.firstLine]
  simp

theorem Schema.afterName_record {name : String} {aliases : List String} {required : Bool}
    {value : Schema} {rest : Fields}
    (v : (Fields.cons name aliases required value rest).Carrier) :
    Schema.afterName k (.record (.cons name aliases required value rest)) v =
      '\n' :: (spaces (k + 2) ++
        (Fields.cons name aliases required value rest).firstLine (k + 2) v) := by
  rw [← Fields.lines_cons]
  rfl

mutual
/-- **A value reads as its tokens** behind its name. -/
theorem Schema.leadsTo : (s : Schema) → s.isBlock = true → (v : s.Carrier) →
    ∀ {rd : TokenReader} {j k : Nat} {u : List Char} {outer : List Int} {ts : List Token},
    LineStart u → j ≤ k → AtValue rd (s.afterName k v ++ (spaces j ++ u)) k outer ts →
    ∃ rd', LeadsTo rd rd' ∧ AtLine rd' j u k outer (ts ++ s.tokens v)
  | .text _, _, (t : String), rd, j, k, u, outer, ts => by
    intro hu hj hrd
    exact ReadsAs.leadsTo (readsAs_print k t.toList) hu hj hrd
  | .flag, _, (b : Bool), rd, j, k, u, outer, ts => by
    intro hu hj hrd
    exact ReadsAs.leadsTo (readsAs_flag b) hu hj hrd
  | .byte, _, (n : UInt8), rd, j, k, u, outer, ts => by
    intro hu hj hrd
    exact ReadsAs.leadsTo (readsAs_decimal n.toNat) hu hj hrd
  | .word, _, (n : UInt32), rd, j, k, u, outer, ts => by
    intro hu hj hrd
    exact ReadsAs.leadsTo (readsAs_decimal n.toNat) hu hj hrd
  | .choice names _, _, (i : Fin names.length), rd, j, k, u, outer, ts => by
    intro hu hj hrd
    exact ReadsAs.leadsTo (readsAs_print k names[i].toList) hu hj hrd
  | .record (.cons name aliases required value rest), hs,
      (v : (Fields.cons name aliases required value rest).Carrier), rd, j, k, u, outer, ts => by
    intro hu hj hrd
    have hfs : (Fields.cons name aliases required value rest).isBlock = true := hs
    have hfield := blockField hfs
    have hstart : LineStart ((Fields.cons name aliases required value rest).firstLine (k + 2) v ++
        (spaces j ++ u)) := by
      rw [Fields.firstLine, List.append_assoc, List.append_assoc]
      exact hfield.lineStart _
    -- the fields stand two deeper than the name, so the block ends with the line after them
    have hline : AtLine rd (k + 2) ((Fields.cons name aliases required value rest).firstLine
        (k + 2) v ++ (spaces j ++ u)) k outer ts := by
      obtain ⟨p, hp, rfl⟩ := hrd
      refine .of_toToken (p := (p.newline 1).skip (k + 2)) (by simp) ?_
      rw [Schema.afterName_record, List.cons_append, List.append_assoc]
      exact toToken_lineEnd hstart
    obtain ⟨rd', hto, hend⟩ := Fields.leadsTo (.cons name aliases required value rest) hs nofun v
      hu (by omega) (by omega) hline
    rw [if_pos (by omega), if_pos (by omega)] at hend
    refine ⟨rd', hto, ?_⟩
    have hclosed := hend.close (by omega)
    rw [List.append_assoc, List.append_assoc] at hclosed
    exact hclosed

/-- The lines of a record read as the tokens of its fields; the first opens the block. -/
theorem Fields.leadsTo : (fs : Fields) → fs.isBlock = true → fs ≠ .nil → (v : fs.Carrier) →
    ∀ {rd : TokenReader} {j k : Nat} {u : List Char} {indent : Int} {outer : List Int}
      {ts : List Token},
    LineStart u → j ≤ k → indent ≤ k →
    AtLine rd k (fs.firstLine k v ++ (spaces j ++ u)) indent outer ts →
    ∃ rd', LeadsTo rd rd' ∧ AtLine rd' j u k (if indent < k then indent :: outer else outer)
      (ts ++ (if indent < k then [.blockMapping] else []) ++ fs.tokens v)
  | .cons name aliases required value .nil, hfs, _, v, rd, j, k, u, indent, outer, ts => by
    intro hu hj hi hrd
    have hfield := blockField hfs
    obtain ⟨rd₁, hto₁, hrd₁⟩ := hfield.leadsTo hi hrd
    obtain ⟨rd₂, hto₂, hrd₂⟩ := Schema.leadsTo value hfield.value v.1 hu hj hrd₁
    refine ⟨rd₂, hto₁.trans hto₂, ?_⟩
    rw [Fields.tokens, Fields.tokens]
    simpa [nameTokens] using hrd₂
  | .cons name aliases required value (.cons name' aliases' required' value' rest'), hfs, _, v, rd,
      j, k, u, indent, outer, ts => by
    intro hu hj hi hrd
    have hfield := blockField hfs
    obtain ⟨rd₁, hto₁, hrd₁⟩ := hfield.leadsTo hi hrd
    rw [Fields.lines_cons, List.append_assoc] at hrd₁
    have hstart : LineStart ((Fields.cons name' aliases' required' value' rest').firstLine k v.2 ++
        (spaces j ++ u)) := by
      rw [Fields.firstLine, List.append_assoc, List.append_assoc]
      exact (blockField hfield.rest).lineStart _
    obtain ⟨rd₂, hto₂, hrd₂⟩ := Schema.leadsTo value hfield.value v.1 hstart (Nat.le_refl k) hrd₁
    obtain ⟨rd₃, hto₃, hrd₃⟩ := Fields.leadsTo (.cons name' aliases' required' value' rest')
      hfield.rest nofun v.2 hu hj (Int.le_refl k) hrd₂
    refine ⟨rd₃, (hto₁.trans hto₂).trans hto₃, ?_⟩
    rw [if_neg (Int.lt_irrefl _), if_neg (Int.lt_irrefl _)] at hrd₃
    rw [Fields.tokens]
    simpa [nameTokens] using hrd₃
end

mutual
/-- What is written of a value may stand in a stream. -/
theorem Schema.allowed (k : Nat) : (s : Schema) → s.isBlock = true → (v : s.Carrier) →
    Allowed (s.afterName k v)
  | .text _, _, (t : String) => .cons (by decide) (allowed_print _ _)
  | .flag, _, (b : Bool) => by cases b <;> exact of_decide_eq_true rfl
  | .byte, _, (n : UInt8) => .cons (by decide) (allowed_decimal n.toNat)
  | .word, _, (n : UInt32) => .cons (by decide) (allowed_decimal n.toNat)
  | .choice names _, _, (i : Fin names.length) => .cons (by decide) (allowed_print _ _)
  | .record (.cons name aliases required value rest), hs, v =>
    .cons (by decide) (Fields.allowed (k + 2) (.cons name aliases required value rest) hs v)

/-- What is written of fields may stand in a stream. -/
theorem Fields.allowed (k : Nat) : (fs : Fields) → fs.isBlock = true → (v : fs.Carrier) →
    Allowed (fs.lines k v)
  | .nil, _, _ => allowed_nil
  | .cons name aliases required value rest, hfs, v => by
    have h := blockField hfs
    have hname : Allowed name.toList :=
      allowed_of_isPrintable fun c hc => isPrintable_of_isAlnum (h.letters c hc)
    exact ((((allowed_spaces k).append hname).append
      (.cons (by decide) (Schema.allowed k value h.value v.1)))).append
        (Fields.allowed k rest h.rest v.2)
end

/-- **A record reads as its tokens** where it is a document of its own. -/
theorem scan_lines {fs : Fields} (hfs : fs.isBlock = true) (hne : fs ≠ .nil) (v : fs.Carrier) :
    scan (String.ofList (fs.lines 0 v)) =
      .blockMapping :: fs.tokens v ++ [.blockEnd, .streamEnd] := by
  cases fs with
  | nil => exact absurd rfl hne
  | cons name aliases required value rest =>
    have hfield := blockField hfs
    have hlines : (Fields.cons name aliases required value rest).lines 0 v =
        (Fields.cons name aliases required value rest).firstLine 0 v := Fields.lines_cons v
    have hall := Fields.allowed 0 _ hfs v
    rw [hlines] at hall ⊢
    have hstart : LineStart ((Fields.cons name aliases required value rest).firstLine 0 v) := by
      rw [Fields.firstLine, List.append_assoc]
      exact hfield.lineStart _
    have hline : AtLine { rest := (Fields.cons name aliases required value rest).firstLine 0 v } 0
        ((Fields.cons name aliases required value rest).firstLine 0 v ++ (spaces 0 ++ [])) (-1) []
        [] := by
      refine .of_toToken (p := Place.start) rfl ?_
      rw [show spaces 0 ++ [] = [] from rfl, List.append_nil]
      exact toToken_eq _ (blanksFrom_lineStart hstart)
    obtain ⟨rd', hto, hend⟩ := Fields.leadsTo _ hfs hne v (u := []) trivial (Nat.le_refl 0)
      (by decide) hline
    refine (scan_eq ?_ ?_ hend).trans rfl
    · rw [String.toList_ofList, List.all_eq_true]
      exact hall
    · rw [String.toList_ofList]
      exact hto

end Fleet
