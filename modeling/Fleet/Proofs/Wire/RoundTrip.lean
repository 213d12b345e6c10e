import Fleet.Proofs.Schema.RoundTrip
import Fleet.Resource

/-!
# Resources there and back

* `WireMetadata.toMetadata_ofMetadata`: metadata that are sent are received as they were.
* `Resource.ofWire_toWire`: **a resource that is sent is received as it was**, with nothing lost.
* `Resource.ofWire_encode`: the same under any metadata.
-/

namespace Fleet

theorem Timestamp.ofWire?_toWire (t : Timestamp) : Timestamp.ofWire? t.toWire = some t := by
  have hnanos : ¬(t.nanos : Int) < 0 := by omega
  show (if (t.nanos : Int) < 0 then none else Timestamp.of? t.seconds (t.nanos : Int).toNat) = _
  rw [if_neg hnanos, Int.toNat_natCast]
  exact dif_pos t.valid

theorem Phase.ofWire_toWire (p : Phase) : Phase.ofWire p.toWire = p := by
  cases p <;> rfl

theorem ofWire?_map_toWire (t : Option Timestamp) :
    (t.map Timestamp.toWire).bind Timestamp.ofWire? = t := by
  cases t with
  | none => rfl
  | some t => exact t.ofWire?_toWire

/-- Metadata that are sent are received as they were. -/
theorem WireMetadata.toMetadata_ofMetadata (m : Metadata) :
    (WireMetadata.ofMetadata m).toMetadata = m := by
  simp only [WireMetadata.ofMetadata, WireMetadata.toMetadata, Phase.ofWire_toWire,
    ofWire?_map_toWire]

namespace Resource

variable {K : Kind}

/-- What is received of a resource whose two states were written by a client. -/
theorem ofWire_encode (hK : K.isDocument = true) (m : WireMetadata) (spec : K.Spec)
    (status : Option K.Status) :
    ofWire K ⟨m, .encode K.spec spec, (status.map (Payload.encode K.status)).getD .absent⟩ =
      (⟨m.toMetadata, spec, status⟩, 0) := by
  rw [Kind.isDocument, Bool.and_eq_true] at hK
  have hspec := Payload.decode_encode hK.1 spec
  cases status with
  | none => simp only [ofWire, hspec]; rfl
  | some status =>
    have hstatus := Payload.decode_encode hK.2 status
    simp only [ofWire, hspec, Option.map_some, Option.getD_some, hstatus]
    rfl

/-- **A resource that is sent is received as it was**, with nothing lost. -/
theorem ofWire_toWire (hK : K.isDocument = true) (r : Resource K) : ofWire K r.toWire = (r, 0) := by
  have h := ofWire_encode hK (.ofMetadata r.metadata) r.spec r.status
  rw [WireMetadata.toMetadata_ofMetadata] at h
  rw [← h, toWire]
  cases r.status <;> rfl

end Resource

end Fleet
