import Fleet.Proofs.OrderedMap
import Fleet.Proofs.Schema.Reader
import Fleet.Registry
import Fleet.Wire.Payload

/-!
# Bytes there and back

* `Schema.Sized`, `Schema.isPacked`: the values and the shapes that are read back from their bytes.
* `Schema.ofBytes?_steady`: **no reader is disturbed by what follows.**
* `Schema.gives_toBytes`: **the bytes of a value give the value.**
* `Model.ofBytes?_of_proper`: bytes of a value that are cut off do not read as any value.
* `binary_exact`: the binary payloads of the built-in kinds.
-/

namespace Fleet

open Text

variable {α : Type}

mutual
/-- Every text and every list of a value has a length that is written in eight bytes. -/
def Schema.Sized : (s : Schema) → s.Carrier → Prop
  | .text _, (t : String) => Measured t
  | .optional value, (v : Option value.Carrier) => ∀ a ∈ v, value.Sized a
  | .texts, (ts : List String) => ts.length < 256 ^ 8 ∧ ∀ t ∈ ts, Measured t
  | .textMap, (m : OrderedMap String String) =>
    m.size < 256 ^ 8 ∧ ∀ e ∈ m.toList, Measured e.1 ∧ Measured e.2
  | .record fields, v => fields.Sized v
  | _, _ => True

/-- So it is in every field. -/
def Fields.Sized : (fs : Fields) → fs.Carrier → Prop
  | .nil, _ => True
  | .cons _ _ _ value rest, v => value.Sized v.1 ∧ rest.Sized v.2
end

mutual
/-- The shapes without times whose choices are numbered in four bytes. -/
def Schema.isPacked : Schema → Bool
  | .choice names _ => decide (names.length ≤ 256 ^ 4)
  | .instant => false
  | .span _ => false
  | .optional value => value.isPacked
  | .record fields => fields.isPacked
  | _ => true

/-- The fields of such a shape. -/
def Fields.isPacked : Fields → Bool
  | .nil => true
  | .cons _ _ _ value rest => value.isPacked && rest.isPacked
end

theorem Fields.ofBytes?_cons (name : String) (aliases : List String) (required : Bool)
    (value : Schema) (rest : Fields) :
    (Fields.cons name aliases required value rest).ofBytes? =
      readThen value.ofBytes? fun v => readThen rest.ofBytes? fun vs bs => some ((v, vs), bs) := by
  funext bs
  rw [Fields.ofBytes?]
  rfl

/-- The value behind a flag that says whether there is one. -/
def present (read : Bytes → Option (α × Bytes)) : Bool → Bytes → Option (Option α × Bytes)
  | true => readThen read fun a bs => some (some a, bs)
  | false => fun bs => some (none, bs)

theorem Schema.ofBytes?_optional (value : Schema) :
    (Schema.optional value).ofBytes? = readThen flagOfBytes? (present value.ofBytes?) := by
  funext bs
  rw [Schema.ofBytes?, readThen]
  refine congrArg _ (funext fun r => ?_)
  obtain ⟨flag, bs⟩ := r
  cases flag <;> rfl

mutual
/-- **No reader is disturbed by what follows.** -/
theorem Schema.ofBytes?_steady : (s : Schema) → Steady s.ofBytes?
  | .text _ => steady_text
  | .flag => steady_flag
  | .byte => by
    intro bs n rest h more
    cases bs with
    | nil => cases h
    | cons b bs => cases h; rfl
  | .word => (steady_littleEndian 4).map UInt32.ofNat
  | .choice names _ => steady_choice names.length
  | .unit => .done ()
  | .instant => steady_parsed Timestamp.parse?
  | .span _ => steady_parsed Span.parse?
  | .optional value => by
    have hvalue := Schema.ofBytes?_steady value
    rw [Schema.ofBytes?_optional]
    refine steady_flag.readThen fun flag => ?_
    cases flag with
    | false => exact .done none
    | true => exact hvalue.thenDone some
  | .texts => steady_text.counted
  | .textMap => steady_entry.counted.map OrderedMap.ofList
  | .record fields => Fields.ofBytes?_steady fields

/-- No reader of fields is. -/
theorem Fields.ofBytes?_steady : (fs : Fields) → Steady fs.ofBytes?
  | .nil => .done ()
  | .cons name aliases required value rest => by
    have hvalue := Schema.ofBytes?_steady value
    have hrest := Fields.ofBytes?_steady rest
    rw [Fields.ofBytes?_cons]
    exact hvalue.readThen fun v => hrest.thenDone (v, ·)
end

mutual
/-- **The bytes of a value give the value.** -/
theorem Schema.gives_toBytes : (s : Schema) → s.isPacked = true → (v : s.Carrier) → s.Sized v →
    Gives s.ofBytes? (s.toBytes v) v
  | .text _, _, (t : String), hv => gives_text hv
  | .flag, _, (b : Bool), _ => gives_flag b
  | .byte, _, (n : UInt8), _ => fun rest => rfl
  | .word, _, (n : UInt32), _ => by
    have hbytes : Gives (ofLittleEndian? 4) (littleEndian 4 n.toNat) n.toNat :=
      gives_littleEndian n.toNat_lt
    have h := hbytes.map UInt32.ofNat
    rwa [UInt32.ofNat_toNat] at h
  | .choice names _, hs, (i : Fin names.length), _ => gives_choice (of_decide_eq_true hs) i
  | .unit, _, (_ : Unit), _ => .done ()
  | .optional value, hs, (none : Option value.Carrier), _ => by
    rw [Schema.ofBytes?_optional]
    exact fun rest => rfl
  | .optional value, hs, (some a : Option value.Carrier), hv => by
    have ha := Schema.gives_toBytes value hs a (hv a rfl)
    rw [Schema.ofBytes?_optional]
    exact (gives_flag true).readThen (ha.thenDone some)
  | .texts, _, (ts : List String), hv =>
    .counted hv.1 (fun t ht => gives_text (hv.2 t ht)) fun t => by
      have := le_length_textBytes t
      omega
  | .textMap, _, (m : OrderedMap String String), hv => by
    have hpositive : ∀ e : String × String, 0 < (textBytes e.1 ++ textBytes e.2).length := by
      intro e
      have := le_length_textBytes e.1
      rw [List.length_append]
      omega
    have h := Gives.counted hv.1 (fun e he => gives_entry (hv.2 e he).1 (hv.2 e he).2) hpositive
    have hm := h.map OrderedMap.ofList
    rw [OrderedMap.ofList_of_increasing m.increasing] at hm
    exact hm
  | .record fields, hs, v, hv => Fields.gives_toBytes fields hs v hv

/-- The bytes of all fields give the fields. -/
theorem Fields.gives_toBytes : (fs : Fields) → fs.isPacked = true → (v : fs.Carrier) → fs.Sized v →
    Gives fs.ofBytes? (fs.toBytes v) v
  | .nil, _, _, _ => .done ()
  | .cons name aliases required value rest, hfs, v, hv => by
    rw [Fields.isPacked, Bool.and_eq_true] at hfs
    have hvalue := Schema.gives_toBytes value hfs.1 v.1 hv.1
    have hrest := Fields.gives_toBytes rest hfs.2 v.2 hv.2
    rw [Fields.ofBytes?_cons]
    exact hvalue.readThen (hrest.thenDone (v.1, ·))
end

namespace Model

variable {m : Model α} {a : α}

/-- Every text and every list of a value has a length that is written in eight bytes. -/
def Sized (m : Model α) (a : α) : Prop := m.schema.Sized (m.pack a)

theorem gives_toBytes (hm : m.schema.isPacked = true) (ha : m.Sized a) :
    Gives m.schema.ofBytes? (m.toBytes a) (m.pack a) :=
  Schema.gives_toBytes m.schema hm (m.pack a) ha

/-- **The bytes of a value read as the value**, whatever follows them. -/
theorem ofBytes?_toBytes (hm : m.schema.isPacked = true) (ha : m.Sized a) (more : Bytes) :
    m.ofBytes? (m.toBytes a ++ more) = some a := by
  rw [ofBytes?, gives_toBytes hm ha more]
  exact congrArg some (m.unpack_pack a)

/-- **Bytes of a value that are cut off do not read as any value.** -/
theorem ofBytes?_of_proper (hm : m.schema.isPacked = true) (ha : m.Sized a) {p : Bytes}
    (hp : p <+: m.toBytes a) (hne : p ≠ m.toBytes a) : m.ofBytes? p = none := by
  rw [ofBytes?, (Schema.ofBytes?_steady m.schema).eq_none_of_proper (gives_toBytes hm ha) hp hne]
  rfl

end Model

namespace Payload

/-- The bytes of a binary payload, which read as the value that they were written of and, if they
are cut off, as nothing. -/
structure Exact (m : Model α) (a : α) (bs : Bytes) : Prop where
  encoded : encodeBinary m a = .binary bs
  /-- What follows is passed over. -/
  followed : ∀ more, (Payload.binary (bs ++ more)).decode m = .value a
  /-- The bytes stand in for a text that is blank or cannot be read. -/
  fallback : ∀ text, isBlankText text = true ∨ m.ofYaml? text = none →
    (Payload.both text bs).decode m = .value a
  truncated : ∀ p, p <+: bs → p ≠ bs → (Payload.binary p).decode m = .failed .binary

theorem exact_of_isPacked {m : Model α} {a : α} (hm : m.schema.isPacked = true) (ha : m.Sized a) :
    Exact m a (m.toBytes a) := by
  have hread : ∀ more, decodeBytes m.ofBytes? (m.toBytes a ++ more) = .value a := fun more => by
    rw [decodeBytes, Model.ofBytes?_toBytes hm ha]
  refine ⟨rfl, hread, fun text htext => ?_, fun p hp hne => ?_⟩
  · have hbytes := hread []
    rw [List.append_nil] at hbytes
    rcases htext with hblank | hunreadable
    · simp only [decode, decodeWith, decodeText, hblank, if_true, hbytes]
    · cases hblank : isBlankText text with
      | true => simp only [decode, decodeWith, decodeText, hblank, if_true, hbytes]
      | false =>
        simp only [decode, decodeWith, decodeText, hblank, hunreadable, Bool.false_eq_true,
          if_false, hbytes]
  · show decodeBytes m.ofBytes? p = _
    rw [decodeBytes, Model.ofBytes?_of_proper hm ha hp hne]

end Payload

/-- Both states of a kind are read back from their bytes. -/
def Kind.isPacked (K : Kind) : Bool := K.spec.schema.isPacked && K.status.schema.isPacked

theorem isPacked_of_mem_builtinKinds {K : Kind} (hK : K ∈ Registry.builtinKinds) :
    K.isPacked = true := by
  simp only [Registry.builtinKinds, List.mem_cons, List.not_mem_nil, or_false] at hK
  rcases hK with rfl | rfl | rfl | rfl <;> rfl

/-- **The binary payloads of the built-in kinds are exact**, those of desired and those of reported
states: whatever follows the bytes of a value, and whatever stands beside them as a text that is
blank or cannot be read, they read as the value, and where they are cut off they do not read as
anything. -/
theorem binary_exact {K : Kind} (hK : K ∈ Registry.builtinKinds) :
    (∀ spec, K.spec.Sized spec → ∃ bs, Payload.Exact K.spec spec bs) ∧
      ∀ status, K.status.Sized status → ∃ bs, Payload.Exact K.status status bs := by
  have hpacked := isPacked_of_mem_builtinKinds hK
  rw [Kind.isPacked, Bool.and_eq_true] at hpacked
  exact ⟨fun spec h => ⟨_, Payload.exact_of_isPacked hpacked.1 h⟩,
    fun status h => ⟨_, Payload.exact_of_isPacked hpacked.2 h⟩⟩

/-- A reported state of a machine. -/
def workerStatus : MachineStatus := ⟨"é", .worker, true⟩

/-- Its last byte is needed. -/
theorem binary_exact_worker :
    Kind.machine ∈ Registry.builtinKinds ∧ Kind.machine.status.Sized workerStatus ∧
      ∃ bs, Payload.encodeBinary Kind.machine.status workerStatus = .binary bs ∧
        bs = [2, 0, 0, 0, 0, 0, 0, 0, 195, 169, 2, 0, 0, 0, 1] ∧
        (Payload.binary (bs ++ [7])).decode Kind.machine.status = .value workerStatus ∧
        (Payload.binary bs.dropLast).decode Kind.machine.status = .failed .binary := by
  have hmem : Kind.machine ∈ Registry.builtinKinds := .tail _ (.head _)
  have hsized : Kind.machine.status.Sized workerStatus :=
    ⟨show (Text.toBytes "é").length < 256 ^ 8 by decide, trivial, trivial, trivial⟩
  obtain ⟨bs, h⟩ := (binary_exact hmem).2 workerStatus hsized
  have hbs : bs = [2, 0, 0, 0, 0, 0, 0, 0, 195, 169, 2, 0, 0, 0, 1] :=
    (Payload.binary.inj h.encoded).symm
  refine ⟨hmem, hsized, bs, h.encoded, hbs, h.followed [7],
    h.truncated _ (List.dropLast_prefix bs) ?_⟩
  rw [hbs]
  decide

end Fleet
