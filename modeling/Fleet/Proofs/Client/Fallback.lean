import Fleet.Proofs.Client.Decoding

/-!
# What stands in for a state that cannot be read

A state is read from its text, or else from its bytes. What can be read from neither is replaced and
counted. Nothing here depends on how texts and bytes are read.

* `Readers`: any way to read a state.
* `Readers.read_ofParts`: **the first form that can be read is taken**, and a failure says what was
  tried.
* `Resource.readBy_salvaged`: **what comes of a resource**, and how many states of it are lost.
* `first_readable_taken`: both, and that a client counts the losses and nothing else.
-/

namespace Fleet

open Text

/-! ### Reading by any readers -/

/-- A way to read a state from a text and from bytes. -/
structure Readers (α : Type) where
  ofText : String → Option α
  ofBytes : Bytes → Option α

/-- The way in which the states of a model are read. -/
def Model.readers {α : Type} (m : Model α) : Readers α := ⟨m.ofYaml?, m.ofBytes?⟩

/-- The outcome of reading a payload. -/
def Readers.read {α : Type} (R : Readers α) (p : Payload) : Decoded α :=
  p.decodeWith R.ofText R.ofBytes

/-- The names of the forms that were tried. -/
def Forms.names : Forms → List String
  | yaml => ["yaml"]
  | binary => ["binary"]
  | yamlAndBinary => ["yaml", "binary"]

theorem Forms.text_eq (f : Forms) : f.text = "+".intercalate f.names := by
  cases f <;> rfl

/-- A text was received that is not blank. -/
def HasText (text : Option String) (s : String) : Prop :=
  text = some s ∧ ∃ c ∈ s.toList, isBlank c = false

/-- Bytes were received, at least one. -/
def HasBytes (binary : Option Bytes) (bs : Bytes) : Prop :=
  binary = some bs ∧ bs ≠ []

section

variable {α : Type} {R : Readers α} {text : Option String} {binary : Option Bytes} {d : Decoded α}
  {s : String} {bs : Bytes}

theorem isBlankText_eq_false_iff :
    isBlankText s = false ↔ ∃ c ∈ s.toList, isBlank c = false := by
  simp [isBlankText]

theorem hasText_iff : HasText text s ↔ text.filter (!isBlankText ·) = some s := by
  rw [Option.filter_eq_some_iff, Bool.not_eq_true', isBlankText_eq_false_iff]
  rfl

theorem hasBytes_iff : HasBytes binary bs ↔ binary.filter (!·.isEmpty) = some bs := by
  rw [Option.filter_eq_some_iff, Bool.not_eq_true', List.isEmpty_eq_false_iff]
  rfl

/-- The outcome of reading a state of which a text and bytes may have been received. The text comes
first, then the bytes; absent is what has neither, and a failure names the forms that there were. -/
structure TakesFirst (R : Readers α) (text : Option String) (binary : Option Bytes)
    (d : Decoded α) : Prop where
  ofText : ∀ s a, HasText text s → R.ofText s = some a → d = .value a
  ofBytes : (∀ s, HasText text s → R.ofText s = none) →
    ∀ bs a, HasBytes binary bs → R.ofBytes bs = some a → d = .value a
  absent : d = .absent ↔ (∀ s, ¬HasText text s) ∧ ∀ bs, ¬HasBytes binary bs
  failed : ∀ f, d = .failed f ↔
    (∀ s, HasText text s → R.ofText s = none) ∧
    (∀ bs, HasBytes binary bs → R.ofBytes bs = none) ∧
    ("yaml" ∈ f.names ↔ ∃ s, HasText text s) ∧ ("binary" ∈ f.names ↔ ∃ bs, HasBytes binary bs)

/-- The outcome by what the text and the bytes are read as, where there are any. -/
def Decoded.ofForms : Option (Option α) → Option (Option α) → Decoded α
  | some (some a), _ => .value a
  | none, some (some a) => .value a
  | some none, some (some a) => .value a
  | none, none => .absent
  | some none, none => .failed .yaml
  | none, some none => .failed .binary
  | some none, some none => .failed .yamlAndBinary

theorem Decoded.ofForms_eq_absent_iff {x y : Option (Option α)} :
    ofForms x y = .absent ↔ x = none ∧ y = none := by
  rcases x with _ | _ | a <;> rcases y with _ | _ | b <;> simp [ofForms]

theorem Decoded.ofForms_eq_failed_iff {x y : Option (Option α)} {f : Forms} :
    ofForms x y = .failed f ↔ (∀ v ∈ x, v = none) ∧ (∀ v ∈ y, v = none) ∧
      ("yaml" ∈ f.names ↔ x.isSome) ∧ ("binary" ∈ f.names ↔ y.isSome) := by
  rcases x with _ | _ | a <;> rcases y with _ | _ | b <;> cases f <;>
    simp [ofForms, Forms.names]

theorem Readers.read_ofParts_eq (R : Readers α) (text : Option String) (binary : Option Bytes) :
    R.read (.ofParts text binary) = .ofForms ((text.filter (!isBlankText ·)).map R.ofText)
      ((binary.filter (!·.isEmpty)).map R.ofBytes) := by
  have hbytes : ∀ bs, Payload.decodeBytes R.ofBytes bs = .ofForms none (some (R.ofBytes bs)) := by
    intro bs
    unfold Payload.decodeBytes
    cases R.ofBytes bs <;> rfl
  unfold read Payload.ofParts
  cases htext : text.filter (!isBlankText ·) with
  | none =>
    cases binary.filter (!·.isEmpty) with
    | none => rfl
    | some bs => exact hbytes bs
  | some s =>
    have hspoken : isBlankText s = false := isBlankText_eq_false_iff.2 (hasText_iff.2 htext).2
    have hdecode : Payload.decodeText R.ofText s = .ofForms (some (R.ofText s)) none := by
      unfold Payload.decodeText
      rw [hspoken, if_neg Bool.false_ne_true]
      cases R.ofText s <;> rfl
    cases binary.filter (!·.isEmpty) with
    | none => exact hdecode
    | some bs =>
      simp only [Payload.decodeWith, hdecode, hbytes, Option.map_some]
      cases R.ofText s <;> cases R.ofBytes bs <;> rfl

/-- **The first form that can be read** is taken. -/
theorem Readers.read_ofParts (R : Readers α) (text : Option String) (binary : Option Bytes) :
    TakesFirst R text binary (R.read (.ofParts text binary)) := by
  rw [read_ofParts_eq]
  constructor <;> simp only [hasText_iff, hasBytes_iff]
  · intro s a hs ha
    rw [hs, Option.map_some, ha]
    rfl
  · intro hnone bs a hbs ha
    rw [hbs, Option.map_some, ha]
    cases htext : text.filter (!isBlankText ·) with
    | none => rfl
    | some s =>
      rw [Option.map_some, hnone s htext]
      rfl
  · rw [Decoded.ofForms_eq_absent_iff, Option.map_eq_none_iff, Option.map_eq_none_iff,
      Option.eq_none_iff_forall_ne_some, Option.eq_none_iff_forall_ne_some]
  · intro f
    simp only [Decoded.ofForms_eq_failed_iff, Option.mem_def, Option.map_eq_some_iff,
      forall_exists_index, and_imp, forall_apply_eq_imp_iff₂, Option.isSome_map,
      Option.isSome_iff_exists]

end

/-! ### Resources -/

section

variable {K : Kind}

/-- What comes of a resource that was received, by the outcomes of reading its two states: its
metadata, the desired state or else the standard one, the reported state if there is one, and how
many of the two were lost. -/
structure Salvaged (w : WireResource) (spec : Decoded K.Spec) (status : Decoded K.Status)
    (r : Resource K) (lost : Nat) : Prop where
  metadata : r.metadata = w.metadata.toMetadata
  desired : ∀ a, spec = .value a → r.spec = a
  standard : (∀ a, spec ≠ .value a) → r.spec = K.defaultSpec
  reported : ∀ a, r.status = some a ↔ status = .value a
  lost : lost = [spec.isFailed, status.isFailed].count true

/-- Read a resource that was received by any readers of its two states, and tell how many of these
were lost. -/
def Resource.readBy (spec : Readers K.Spec) (status : Readers K.Status) (w : WireResource) :
    Resource K × Nat :=
  let spec := spec.read w.spec
  let status := status.read w.status
  (⟨w.metadata.toMetadata, spec.getD K.defaultSpec, status.value?⟩, spec.losses + status.losses)

theorem Decoded.value?_eq_some_iff {α : Type} {d : Decoded α} {a : α} :
    d.value? = some a ↔ d = .value a := by
  cases d <;> simp [value?]

/-- **What comes of a resource**, whatever its two states are read by. -/
theorem Resource.readBy_salvaged (spec : Readers K.Spec) (status : Readers K.Status)
    (w : WireResource) :
    Salvaged w (spec.read w.spec) (status.read w.status) (readBy spec status w).1
      (readBy spec status w).2 where
  metadata := rfl
  desired a ha := by
    show (spec.read w.spec).getD K.defaultSpec = a
    rw [ha]
    rfl
  standard hnone := by
    show (spec.read w.spec).getD K.defaultSpec = K.defaultSpec
    cases hspec : spec.read w.spec with
    | value a => exact absurd hspec (hnone a)
    | absent => rfl
    | failed f => rfl
  reported a := Decoded.value?_eq_some_iff
  lost := by
    show (spec.read w.spec).losses + (status.read w.status).losses = _
    unfold Decoded.losses
    cases (spec.read w.spec).isFailed <;> cases (status.read w.status).isFailed <;> rfl

/-- A client reads a resource by any readers and counts what was lost. -/
def Client.decodeBy (spec : Readers K.Spec) (status : Readers K.Status) (w : WireResource) :
    Plan (Resource K) :=
  let r := Resource.readBy spec status w
  .note (.lostStates r.2) (.done (.ok r.1))

/-- A client reads a resource by the readers of its kind. -/
theorem Client.decode_eq_decodeBy (K : Kind) (w : WireResource) :
    decode K w = decodeBy K.spec.readers K.status.readers w := rfl

end

namespace Session

/-- The session after a client has counted so many more states as lost, and done nothing else. -/
def losing (s : Session) (i lost : Nat) : Session :=
  s.modifyMember i fun m =>
    { m with metrics := { m.metrics with decodeFallbacks := m.metrics.decodeFallbacks + lost } }

theorem run_decodeBy {K : Kind} (spec : Readers K.Spec) (status : Readers K.Status)
    (w : WireResource) (i : Nat) (s : Session) :
    run i (Client.decodeBy spec status w) s =
      (.ok (Resource.readBy spec status w).1, s.losing i (Resource.readBy spec status w).2) := rfl

/-- **The first readable form is taken, and exactly the losses are counted.** Whatever a state is
read by, of a text and bytes that were received the text is taken if it can be read, and the bytes
otherwise; what has neither is absent, and all else fails under the names of the forms that there
were. Of a resource, however its states were put together, the metadata are kept, with the desired
state or the standard one and the reported state if there is one; and as many states as failed are
counted as lost, with no other effect. So it is for every kind, whose states a client reads by the
readers of their models. -/
theorem first_readable_taken {α : Type} (R : Readers α) (text : Option String)
    (binary : Option Bytes) {K : Kind} (spec : Readers K.Spec) (status : Readers K.Status)
    (w : WireResource) (i : Nat) (s : Session) :
    TakesFirst R text binary ((Payload.ofParts text binary).decodeWith R.ofText R.ofBytes) ∧
    (∀ f : Forms, f.text = "+".intercalate f.names) ∧
    (∃ r lost, run i (Client.decodeBy spec status w) s = (.ok r, s.losing i lost) ∧
      Salvaged w (w.spec.decodeWith spec.ofText spec.ofBytes)
        (w.status.decodeWith status.ofText status.ofBytes) r lost) ∧
    ∃ r lost, run i (Client.decode K w) s = (.ok r, s.losing i lost) ∧
      Salvaged w (w.spec.decode K.spec) (w.status.decode K.status) r lost := by
  refine ⟨R.read_ofParts text binary, Forms.text_eq, ?_, ?_⟩
  · exact ⟨_, _, run_decodeBy spec status w i s, Resource.readBy_salvaged spec status w⟩
  · rw [Client.decode_eq_decodeBy]
    exact ⟨_, _, run_decodeBy _ _ w i s,
      Resource.readBy_salvaged K.spec.readers K.status.readers w⟩

/-- Bytes that cannot be read either are named beside the text. -/
example : (Payload.ofParts (some "[") (some [255])).decode Kind.machine.spec =
    .failed .yamlAndBinary := by
  decide +kernel

end Session

end Fleet
