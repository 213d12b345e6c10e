import Fleet.Proofs.Schema.Node
import Fleet.Registry
import Fleet.Wire.Payload
import Mathlib.Data.List.Nodup

/-!
# Round trips

* `Schema.ofNode?_node`: the node of a value reads as the value.
* `Model.ofYaml?_toYaml`: **what is written of a record reads as the record.**
* `Payload.decode_encode`: so does the payload of one.
-/

namespace Fleet

open Text Yaml

variable {d : Document}

/-- The fields of a record by name. -/
def Fields.members : (fs : Fields) → fs.Carrier → List (String × Node)
  | .nil, _ => []
  | .cons name _ _ value rest, v => (name, value.node v.1) :: rest.members v.2

theorem Fields.members?_pairs (fs : Fields) (v : fs.Carrier) :
    members? d (fs.pairs v) = some (fs.members v) := by
  match fs, v with
  | .nil, _ => rfl
  | .cons name aliases required value rest, v =>
    have hrest := Fields.members?_pairs rest v.2
    rw [Fields.pairs, Fields.members, members?, hrest]
    rfl

theorem Fields.mem_names_of_mem_members {fs : Fields} {v : fs.Carrier} {m : String × Node}
    (h : m ∈ fs.members v) : m.1 ∈ fs.names := by
  match fs, v, h with
  | .cons name aliases required value rest, v, h =>
    rw [Fields.members] at h
    rcases List.mem_cons.1 h with rfl | h
    · exact List.mem_cons_self
    · exact List.mem_cons_of_mem _ (Fields.mem_names_of_mem_members h)

/-- A name that is given once. -/
theorem given_eq_singleton {α : Type} {name : String} {before after : List (String × α)} {a : α}
    (hbefore : ∀ m ∈ before, m.1 ≠ name) (hafter : ∀ m ∈ after, m.1 ≠ name) :
    given name [] (before ++ (name, a) :: after) = [a] := by
  have hnone : ∀ ms : List (String × α), (∀ m ∈ ms, m.1 ≠ name) →
      ms.filter (fun m => answersTo name [] m.1) = [] := by
    intro ms hms
    rw [List.filter_eq_nil_iff]
    intro m hm
    simp [answersTo, hms m hm]
  have hself : ((name, a) :: after).filter (fun m => answersTo name [] m.1) = [(name, a)] := by
    rw [List.filter_cons_of_pos (by simp [answersTo]), hnone after hafter]
  rw [given, List.filter_append, hnone before hbefore, hself]
  rfl

theorem below?_decimal {limit n : Nat} (hn : n < limit) (hlimit : limit ≤ wordLimit) :
    (Node.scalar none .plain (decimal n)).below? limit = some n := by
  have hunsigned := unsigned?_decimal (Nat.lt_of_lt_of_le hn hlimit)
  rw [Node.below?]
  show (unsigned? (decimal n).toList).bind _ = _
  rw [hunsigned]
  exact if_pos hn

theorem choice?_name {names : List String} (hnames : names.Nodup) (i : Fin names.length)
    (style : Style) : (Node.scalar none style (names.get i)).choice? names = some i := by
  show names.finIdxOf? (names.get i) = some i
  rw [List.finIdxOf?_eq_some_iff]
  refine ⟨rfl, fun j hj hij => ?_⟩
  have hval : j.val = i.val := hnames.getElem_inj_iff.1 hij
  exact absurd hval (Nat.ne_of_lt hj)

mutual
/-- **The node of a value reads as the value.** -/
theorem Schema.ofNode?_node : (s : Schema) → s.isBlock = true → (v : s.Carrier) →
    s.ofNode? d (s.node v) = some v
  | .text _, _, (t : String) => rfl
  | .flag, _, (b : Bool) => by cases b <;> rfl
  | .byte, _, (n : UInt8) => by
    show ((Node.scalar none .plain (decimal n.toNat)).below? 256).bind _ = _
    rw [below?_decimal n.toNat_lt (by decide)]
    exact congrArg some (UInt8.ofNat_toNat)
  | .word, _, (n : UInt32) => by
    show ((Node.scalar none .plain (decimal n.toNat)).below? 4294967296).bind _ = _
    rw [below?_decimal n.toNat_lt (by decide)]
    exact congrArg some (UInt32.ofNat_toNat)
  | .choice names _, hs, (i : Fin names.length) => choice?_name (of_decide_eq_true hs) i
    (styleOf names[i].toList)
  | .record (.cons name aliases required value rest), hs,
      (v : (Fields.cons name aliases required value rest).Carrier) => by
    have hfs : (Fields.cons name aliases required value rest).isBlock = true := hs
    have hpairs := Fields.ofPairs?_members (.cons name aliases required value rest) hfs v []
      (fun m hm => nomatch hm)
    show (members? d ((Fields.cons name aliases required value rest).pairs v)).bind _ = _
    rw [Fields.members?_pairs]
    exact hpairs

/-- The fields of a record read as themselves, whatever is given under other names. -/
theorem Fields.ofPairs?_members : (fs : Fields) → fs.isBlock = true → (v : fs.Carrier) →
    (others : List (String × Node)) → (∀ m ∈ others, m.1 ∉ fs.names) →
    fs.ofPairs? d (others ++ fs.members v) = some v
  | .nil, _, _, _, _ => rfl
  | .cons name aliases required value rest, hfs, v, others, hothers => by
    have h := blockField hfs
    have hvalue := Schema.ofNode?_node value h.value v.1
    have hgiven : given name aliases (others ++ (name, value.node v.1) :: rest.members v.2) =
        [value.node v.1] := by
      rw [h.single]
      refine given_eq_singleton (fun m hm => ?_) fun m hm => ?_
      · exact fun he => hothers m hm (he ▸ List.mem_cons_self)
      · exact fun he => h.fresh (he ▸ Fields.mem_names_of_mem_members hm)
    have hrest := Fields.ofPairs?_members rest h.rest v.2 (others ++ [(name, value.node v.1)])
      fun m hm => by
        rcases List.mem_append.1 hm with hm | hm
        · exact fun hr => hothers m hm (List.mem_cons_of_mem _ hr)
        · rw [List.mem_singleton.1 hm]
          exact h.fresh
    rw [List.append_assoc] at hrest
    rw [Fields.ofPairs?, Fields.members, hgiven]
    show (value.ofNode? d (value.node v.1)).bind _ = _
    rw [hvalue]
    show (rest.ofPairs? d (others ++ ([(name, value.node v.1)] ++ rest.members v.2))).bind _ = _
    rw [hrest]
    rfl
end

/-- The shapes that are read back from a document of their own: records in block style, and
nothing. -/
def Schema.isDocument : Schema → Bool
  | .unit => true
  | .record fields => (Schema.record fields).isBlock
  | _ => false

theorem single?_null : single? "null\n" = some ⟨.scalar none .plain "null", []⟩ := rfl

/-- What is written of a value is a document that holds it. -/
theorem Schema.ofNode?_toYaml {s : Schema} (hs : s.isDocument = true) (v : s.Carrier) :
    (single? (s.toYaml v)).bind (fun d => s.ofNode? d d.root) = some v := by
  match s, hs, v with
  | .unit, _, (v : Unit) =>
    show (single? "null\n").bind _ = _
    rw [single?_null]
    rfl
  | .record (.cons name aliases required value rest), hs, v =>
    have hfs : (Fields.cons name aliases required value rest).isBlock = true := hs
    have hsingle := single?_lines hfs (fun he => Fields.noConfusion he) v
    show (single? (String.ofList ((Fields.cons name aliases required value rest).lines 0 v))).bind
      _ = _
    rw [hsingle]
    exact Schema.ofNode?_node (.record (.cons name aliases required value rest)) hs v

/-- What is written of a value is not blank. -/
theorem Schema.toYaml_not_blank {s : Schema} (hs : s.isDocument = true) (v : s.Carrier) :
    isBlankText (s.toYaml v) = false := by
  match s, hs, v with
  | .unit, _, _ => exact (rfl : isBlankText "null\n" = false)
  | .record (.cons name aliases required value rest), hs,
      (v : (Fields.cons name aliases required value rest).Carrier) =>
    have h := blockField
      (show (Fields.cons name aliases required value rest).isBlock = true from hs)
    obtain ⟨c, u, hc⟩ := List.exists_cons_of_ne_nil h.nonempty
    have hblank : isBlank c = false := by
      have hnat := toNat_of_isAlnum (h.letters c (by rw [hc]; exact List.mem_cons_self))
      simp only [isBlank, Bool.or_eq_false_iff, Bool.and_eq_false_iff, beq_eq_false_iff_ne,
        decide_eq_false_iff_not]
      omega
    show isBlankText (String.ofList ((Fields.cons name aliases required value rest).lines 0 v)) = _
    rw [isBlankText, String.toList_ofList, Fields.lines_cons, Fields.firstLine, hc]
    simp [spaces, hblank]

namespace Model

variable {α : Type} {m : Model α}

/-- **What is written of a value reads as the value.** -/
theorem ofYaml?_toYaml (hm : m.schema.isDocument = true) (a : α) :
    m.ofYaml? (m.toYaml a) = some a := by
  have h := Schema.ofNode?_toYaml hm (m.pack a)
  obtain ⟨d, hd, hnode⟩ := Option.bind_eq_some_iff.1 h
  rw [ofYaml?, toYaml, hd]
  show (m.schema.ofNode? d d.root).map m.unpack = _
  rw [hnode]
  exact congrArg some (m.unpack_pack a)

end Model

/-- The payload of a value reads as the value. -/
theorem Payload.decode_encode {α : Type} {m : Model α} (hm : m.schema.isDocument = true) (a : α) :
    (Payload.encode m a).decode m = .value a := by
  have hblank : isBlankText (m.toYaml a) = false := Schema.toYaml_not_blank hm _
  show decodeText m.ofYaml? (m.toYaml a) = _
  rw [decodeText, hblank, if_neg Bool.false_ne_true, Model.ofYaml?_toYaml hm]

/-- Both states of a kind are read back from the documents that are written of them. -/
def Kind.isDocument (K : Kind) : Bool :=
  K.spec.schema.isDocument && K.status.schema.isDocument

theorem isDocument_of_mem_builtinKinds {K : Kind} (hK : K ∈ Registry.builtinKinds) :
    K.isDocument = true := by
  simp only [Registry.builtinKinds, List.mem_cons, List.not_mem_nil, or_false] at hK
  rcases hK with rfl | rfl | rfl | rfl <;> rfl

end Fleet
