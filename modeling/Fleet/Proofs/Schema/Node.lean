import Fleet.Proofs.Schema.Block
import Fleet.Schema.Yaml

/-!
# Nodes of records

* `Schema.node`: the node of a value.
* `Schema.node?_tokens`: **the tokens of a value give its node.**
* `single?_lines`: a record that is a document of its own reads as its node.
-/

namespace Fleet

open Text Yaml NodeReader

mutual
/-- The node of a value. -/
def Schema.node : (s : Schema) → s.Carrier → Node
  | .text _, (t : String) => .scalar none (styleOf t.toList) t
  | .flag, (b : Bool) => .scalar none .plain (if b then "true" else "false")
  | .byte, (n : UInt8) => .scalar none .plain (decimal n.toNat)
  | .word, (n : UInt32) => .scalar none .plain (decimal n.toNat)
  | .choice names _, (i : Fin names.length) => .scalar none (styleOf names[i].toList) names[i]
  | .record fields, v => .mapping (fields.pairs v)
  | _, _ => .void

/-- The pairs of the fields of a record. -/
def Fields.pairs : (fs : Fields) → fs.Carrier → List (Node × Node)
  | .nil, _ => []
  | .cons name _ _ value rest, v => (.scalar none .plain name, value.node v.1) :: rest.pairs v.2
end

variable {fuel : Nat} {c c₁ c₂ c₃ : NodeReader} {r r₁ ts : List Token} {block flat : Bool}

/-- The same reader before other tokens. -/
def before (c : NodeReader) (ts : List Token) : NodeReader := { c with tokens := ts }

theorem node?_scalar {t : String} {style : Style} (hfuel : 1 ≤ fuel) :
    node? fuel block flat (before c (.scalar t style :: ts)) =
      some (.scalar none style t, before c ts) := by
  obtain ⟨fuel, rfl⟩ : ∃ n, fuel = n + 1 := ⟨fuel - 1, by omega⟩
  cases flat <;> rfl

theorem node?_blockMapping {ps : List (Node × Node)}
    (h : blockPairs? fuel (before c r) = some (ps, before c ts)) :
    node? (fuel + 1) true flat (before c (.blockMapping :: r)) =
      some (.mapping ps, before c ts) := by
  have hnode : node? (fuel + 1) true flat (before c (.blockMapping :: r)) =
      (blockPairs? fuel (before c r)).bind fun x => some (.mapping x.1, x.2) := by
    cases flat <;> rfl
  rw [hnode, h]
  rfl

theorem nodeUnless?_eq {ends : List Token} {t : Token} (ht : ends.contains t = false) :
    nodeUnless? (fuel + 1) block flat ends (before c (t :: r)) =
      node? fuel block flat (before c (t :: r)) := by
  have hat : (before c (t :: r)).at? ends = some false := congrArg some ht
  rw [nodeUnless?, hat]
  rfl

/-- One pair of a block mapping. -/
theorem blockPairs?_cons {k v : Node} {ps : List (Node × Node)}
    (hk : nodeUnless? fuel true true endsPair (before c r) = some (k, before c (.value :: r₁)))
    (hv : nodeUnless? fuel true true endsPair (before c r₁) = some (v, c₂))
    (hps : blockPairs? fuel c₂ = some (ps, c₃)) :
    blockPairs? (fuel + 1) (before c (.key :: r)) = some ((k, v) :: ps, c₃) := by
  have hkey : (before c (.key :: r)).peek? = some .key := rfl
  have hvalue : (before c (.value :: r₁)).peek? = some .value := rfl
  rw [blockPairs?, hkey]
  simp only [Option.bind_eq_bind, Option.bind_some]
  rw [show (before c (.key :: r)).advance = before c r from rfl, hk]
  simp only [Option.bind_some, hvalue]
  rw [show (before c (.value :: r₁)).advance = before c r₁ from rfl, hv]
  simp only [Option.bind_some, hps]
  rfl

/-- The tokens of a value start with one that may start a value. -/
theorem Schema.tokens_head {s : Schema} (hs : s.isBlock = true) (v : s.Carrier) :
    ∃ t r, s.tokens v = t :: r ∧ endsPair.contains t = false := by
  match s, hs, v with
  | .text _, _, _ => exact ⟨_, _, rfl, rfl⟩
  | .flag, _, _ => exact ⟨_, _, rfl, rfl⟩
  | .byte, _, _ => exact ⟨_, _, rfl, rfl⟩
  | .word, _, _ => exact ⟨_, _, rfl, rfl⟩
  | .choice .., _, _ => exact ⟨_, _, rfl, rfl⟩
  | .record (.cons ..), _, _ => exact ⟨_, _, rfl, rfl⟩

mutual
/-- **The tokens of a value give its node.** -/
theorem Schema.node?_tokens : (s : Schema) → s.isBlock = true → (v : s.Carrier) →
    ∀ (fuel : Nat) (flat : Bool) (c : NodeReader) (ts : List Token),
    (s.tokens v).length ≤ fuel →
    node? fuel true flat (before c (s.tokens v ++ ts)) = some (s.node v, before c ts)
  | .text _, _, (t : String), _, _, _, _ => node?_scalar
  | .flag, _, (b : Bool), _, _, _, _ => node?_scalar
  | .byte, _, (n : UInt8), _, _, _, _ => node?_scalar
  | .word, _, (n : UInt32), _, _, _, _ => node?_scalar
  | .choice names _, _, (i : Fin names.length), _, _, _, _ => node?_scalar
  | .record (.cons name aliases required value rest), hs,
      (v : (Fields.cons name aliases required value rest).Carrier), fuel, flat, c, ts => by
    intro hfuel
    have hlen : (Schema.tokens (.record (.cons name aliases required value rest)) v).length =
        ((Fields.cons name aliases required value rest).tokens v).length + 2 := by
      show (Token.blockMapping :: (Fields.cons name aliases required value rest).tokens v ++
        [Token.blockEnd]).length = _
      simp
    -- one step opens the mapping, and what is left of the bound covers its pairs
    obtain ⟨fuel, rfl⟩ : ∃ n, fuel = n + 1 := ⟨fuel - 1, by omega⟩
    have hpairs := Fields.blockPairs?_tokens (.cons name aliases required value rest) hs v
      fuel c ts (by omega)
    have htokens : Schema.tokens (.record (.cons name aliases required value rest)) v ++ ts =
        .blockMapping :: ((Fields.cons name aliases required value rest).tokens v ++
          .blockEnd :: ts) := by
      show Token.blockMapping :: (Fields.cons name aliases required value rest).tokens v ++
        [Token.blockEnd] ++ ts = _
      simp
    rw [htokens]
    exact node?_blockMapping hpairs

/-- The tokens of fields give their pairs. -/
theorem Fields.blockPairs?_tokens : (fs : Fields) → fs.isBlock = true → (v : fs.Carrier) →
    ∀ (fuel : Nat) (c : NodeReader) (ts : List Token), (fs.tokens v).length + 1 ≤ fuel →
    blockPairs? fuel (before c (fs.tokens v ++ .blockEnd :: ts)) = some (fs.pairs v, before c ts)
  | .nil, _, _, fuel, c, ts => by
    intro hfuel
    obtain ⟨fuel, rfl⟩ : ∃ n, fuel = n + 1 := ⟨fuel - 1, by omega⟩
    rfl
  | .cons name aliases required value rest, hfs, v, fuel, c, ts => by
    intro hfuel
    have h := blockField hfs
    have hlen : ((Fields.cons name aliases required value rest).tokens v).length =
        3 + (value.tokens v.1).length + (rest.tokens v.2).length := by
      rw [Fields.tokens]
      simp only [List.length_append, List.length_cons, List.length_nil]
    obtain ⟨fuel, rfl⟩ : ∃ n, fuel = n + 3 := ⟨fuel - 3, by omega⟩
    obtain ⟨t, r, ht, hends⟩ := Schema.tokens_head h.value v.1
    have htokens : (Fields.cons name aliases required value rest).tokens v ++ .blockEnd :: ts =
        .key :: .scalar name .plain :: .value ::
          (value.tokens v.1 ++ (rest.tokens v.2 ++ .blockEnd :: ts)) := by
      rw [Fields.tokens]
      simp
    rw [htokens]
    refine blockPairs?_cons ((nodeUnless?_eq rfl).trans (node?_scalar (by omega))) ?_
      (Fields.blockPairs?_tokens rest h.rest v.2 (fuel + 2) c ts (by omega))
    have hvalue := Schema.node?_tokens value h.value v.1 (fuel + 1) true c
      (rest.tokens v.2 ++ .blockEnd :: ts) (by omega)
    rw [← hvalue, ht, List.cons_append]
    exact nodeUnless?_eq hends
end

/-- A reader at the start of a document. -/
def docReader : NodeReader := { tokens := [], handles := [] ++ standardHandles }

/-- A block mapping and the end of the stream are one document. -/
theorem documents_eq {text : String} {n : Node} (hscan : scan text = .blockMapping :: r)
    (hnode : node? (4 * (Token.blockMapping :: r).length + 8) true false
      (before docReader (.blockMapping :: r)) = some (n, before docReader [.streamEnd])) :
    documents text = [some ⟨n, []⟩] := by
  have hdoc : document? true [] (.blockMapping :: r) = some (⟨n, []⟩, [.streamEnd]) := by
    have hread : document? true [] (.blockMapping :: r) =
        (node? (4 * (Token.blockMapping :: r).length + 8) true false
          (before docReader (.blockMapping :: r))).bind fun x =>
          x.2.peek?.bind fun t =>
            some (⟨x.1, (if t == .documentEnd then x.2.advance else x.2).targets⟩,
              (if t == .documentEnd then x.2.advance else x.2).tokens) := rfl
    rw [hread, hnode]
    rfl
  have hnext : nextDocument? true (.blockMapping :: r) = some (⟨n, []⟩, [.streamEnd]) := hdoc
  rw [documents, hscan]
  show (if (Token.blockMapping :: r == [.streamEnd]) = true then _
    else documentsFrom (r.length + 1 + 1) true (.blockMapping :: r)) = _
  rw [if_neg (by rw [beq_iff_eq]; simp), documentsFrom,
    if_neg (show ¬atEnd true (Token.blockMapping :: r) = true from Bool.false_ne_true), hnext]
  rfl

/-- A record that is a document of its own reads as its node. -/
theorem single?_lines {fs : Fields} (hfs : fs.isBlock = true) (hne : fs ≠ .nil) (v : fs.Carrier) :
    single? (String.ofList (fs.lines 0 v)) = some ⟨.mapping (fs.pairs v), []⟩ := by
  have hpairs := Fields.blockPairs?_tokens fs hfs v
    (4 * (Token.blockMapping :: fs.tokens v ++ [Token.blockEnd, .streamEnd]).length + 7)
    docReader [.streamEnd] (by simp; omega)
  rw [single?, documents_eq (scan_lines hfs hne v) (node?_blockMapping hpairs)]

end Fleet
