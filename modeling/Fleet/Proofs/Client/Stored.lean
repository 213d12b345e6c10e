import Fleet.Proofs.Client.TypedStore
import Fleet.Proofs.Session.Exchange
import Fleet.Proofs.Wire.RoundTrip

/-!
# A typed store in the service

* `Represents`: **what a service holds is a typed store** where every stored resource reads as its
  entry, with nothing lost.
* `Resource.ofWire_asCreated`, `Resource.ofWire_asUpdated`: what is read of a resource that the
  service has rewritten.
* `Represents.perform_get`, `Represents.perform_create`, `Represents.perform_update`,
  `Represents.perform_destroy`: **the service answers as the typed store does**, and goes on to hold
  what that goes on to be.
-/

namespace Fleet

/-- What a service holds is a typed store: there is nothing of another kind, and every stored
resource reads as its entry, with nothing lost. -/
structure Represents {K : Kind} (type : String) (held : Held) (m : TypedStore K) : Prop where
  typed : ∀ k w, held.get? k = some w → k.type = type
  decoded : ∀ ns id, (held.get? ⟨ns, type, id⟩).map (Resource.ofWire K) =
    (m ns id).map fun r => (r, 0)

namespace Represents

variable {K : Kind} {type : String} {held : Held} {m : TypedStore K} {ns id : String}

theorem empty : Represents type (∅ : Held) (TypedStore.empty : TypedStore K) := by
  refine ⟨fun k w hk => ?_, fun _ _ => rfl⟩
  exact absurd ((OrderedMap.get?_empty k).symm.trans hk) (Option.some_ne_none w).symm

theorem none_iff (h : Represents type held m) :
    held.get? ⟨ns, type, id⟩ = none ↔ m ns id = none := by
  have hd := h.decoded ns id
  constructor
  · intro hn
    rw [hn] at hd
    exact Option.map_eq_none_iff.1 hd.symm
  · intro hn
    rw [hn] at hd
    exact Option.map_eq_none_iff.1 hd

/-- What reads as an entry. -/
theorem of_some (h : Represents type held m) {r : Resource K} (hr : m ns id = some r) :
    ∃ w, held.get? ⟨ns, type, id⟩ = some w ∧ Resource.ofWire K w = (r, 0) := by
  have hd := h.decoded ns id
  rw [hr] at hd
  exact Option.map_eq_some_iff.1 hd

/-- A commit changes one entry. -/
theorem commit (h : Represents type held m) (c : Commit) (hkey : c.key = ⟨ns, type, id⟩)
    {r : Option (Resource K)} (hr : c.result?.map (Resource.ofWire K) = r.map fun r => (r, 0)) :
    Represents type (c.edit held) (m.set ns id r) := by
  refine ⟨fun k w hk => ?_, fun ns' id' => ?_⟩
  · by_cases he : k = c.key
    · rw [he, hkey]
    · rw [c.get?_edit_of_ne held he] at hk
      exact h.typed k w hk
  · unfold TypedStore.set
    by_cases he : ns' = ns ∧ id' = id
    · obtain ⟨rfl, rfl⟩ := he
      rw [if_pos ⟨rfl, rfl⟩, ← hkey, c.get?_edit_key held, hr]
    · have hne : (⟨ns', type, id'⟩ : Key) ≠ c.key := by
        rw [hkey]
        intro hk
        cases hk
        exact he ⟨rfl, rfl⟩
      rw [if_neg he, c.get?_edit_of_ne held hne]
      exact h.decoded ns' id'

end Represents

/-- The form in which a resource is sent to be written. -/
def Scope.sent {K : Kind} (x : Scope) (r : Resource K) (withStatus : Bool) : WireResource where
  metadata := { WireMetadata.ofMetadata r.metadata with
    type := x.type
    ns := x.resolve (some r.metadata.ns) }
  spec := .encode K.spec r.spec
  status := if withStatus then (r.status.map (Payload.encode K.status)).getD .absent else .absent

namespace Resource

variable {K : Kind} (x : Scope) (now : Timestamp) (r : Resource K)

/-- What is read of a new resource. -/
theorem ofWire_asCreated (hK : K.isDocument = true) :
    ofWire K (Store.asCreated now.toWire (x.sent r false)) =
      (TypedStore.asCreated x now r, 0) := by
  have hread := ofWire_encode hK (Store.asCreated now.toWire (x.sent r false)).metadata r.spec none
  have hnow : (some now.toWire).bind Timestamp.ofWire? = some now := now.ofWire?_toWire
  have hmetadata : (Store.asCreated now.toWire (x.sent r false)).metadata.toMetadata =
      (TypedStore.asCreated x now r).metadata := by
    simp only [Store.asCreated, Scope.sent, WireMetadata.ofMetadata, WireMetadata.toMetadata, hnow,
      TypedStore.asCreated]
    rfl
  rw [hmetadata] at hread
  exact hread

/-- What is read of a resource that replaces another. -/
theorem ofWire_asUpdated (hK : K.isDocument = true) {old : Resource K} {w : WireResource}
    (hw : ofWire K w = (old, 0)) :
    ofWire K (Store.asUpdated now.toWire w (x.sent r true)) =
      (TypedStore.asUpdated x now old r, 0) := by
  have hread := ofWire_encode hK (Store.asUpdated now.toWire w (x.sent r true)).metadata r.spec
    r.status
  have hold : w.metadata.toMetadata = old.metadata := congrArg (fun y => y.1.metadata) hw
  have hversion : nextVersion w.metadata.version =
      Text.decimal ((versionNumber old.version + 1) % Text.wordLimit) := by
    rw [nextVersion_eq, version, ← hold]
    rfl
  have hcreated : w.metadata.created.bind Timestamp.ofWire? = old.metadata.created := by
    rw [← hold]
    rfl
  have hnow : (some now.toWire).bind Timestamp.ofWire? = some now := now.ofWire?_toWire
  have hmetadata : (Store.asUpdated now.toWire w (x.sent r true)).metadata.toMetadata =
      (TypedStore.asUpdated x now old r).metadata := by
    simp only [Store.asUpdated, Scope.sent, WireMetadata.ofMetadata, WireMetadata.toMetadata, hnow,
      TypedStore.asUpdated, hversion, hcreated, Phase.ofWire_toWire]
  rw [hmetadata] at hread
  exact hread

end Resource

namespace Represents

variable {K : Kind} (x : Scope) (now : Timestamp) {s : Store} {m : TypedStore K}

/-- **A get** finds the entry. -/
theorem perform_get (h : Represents x.type s.resources m) {id : String}
    (hid : id.isEmpty = false) (ns : Option String) :
    ((s.perform now.toWire (.get ⟨x.resolve ns, x.type, id⟩)).1.mapError Error.remote).map
        (fun w => (Resource.ofWire K w).1) = TypedStore.get x m id ns := by
  rw [TypedStore.get, hid]
  show ((s.find _).mapError Error.remote).map _ = _
  cases hr : m (x.resolve ns) id with
  | none => rw [Store.find, h.none_iff.2 hr]; rfl
  | some r =>
    obtain ⟨w, hw, hread⟩ := h.of_some hr
    rw [Store.find, hw]
    exact congrArg Except.ok (congrArg Prod.fst hread)

/-- **A create** adds the entry. -/
theorem perform_create (hK : K.isDocument = true) (h : Represents x.type s.resources m)
    {r : Resource K} (hid : r.id.isEmpty = false) :
    ((s.perform now.toWire (.create (x.sent r false))).1.mapError Error.remote).map
        (fun w => (Resource.ofWire K w).1) = (TypedStore.create x now m r).1 ∧
      Represents x.type (s.perform now.toWire (.create (x.sent r false))).2.resources
        (TypedStore.create x now m r).2 := by
  have hread := Resource.ofWire_asCreated x now r hK
  unfold TypedStore.create
  rw [hid]
  simp only [Bool.false_eq_true, if_false, Store.perform, Store.create]
  cases hr : m (x.resolve (some r.metadata.ns)) r.id with
  | some old =>
    obtain ⟨w, hw, -⟩ := h.of_some hr
    have hheld : s.resources.contains (.of (x.sent r false).metadata) = true :=
      Option.isSome_iff_exists.2 ⟨w, hw⟩
    rw [if_pos hheld]
    exact ⟨rfl, h⟩
  | none =>
    have hheld : s.resources.contains (.of (x.sent r false).metadata) = false :=
      Option.isSome_eq_false_iff.2 (Option.isNone_iff_eq_none.2 (h.none_iff.2 hr))
    rw [hheld, if_neg Bool.false_ne_true]
    refine ⟨congrArg Except.ok (congrArg Prod.fst hread), ?_⟩
    exact h.commit (.created (Store.asCreated now.toWire (x.sent r false))) rfl
      (congrArg some hread)

/-- **An update** replaces the entry of the version that is asked for. -/
theorem perform_update (hK : K.isDocument = true) (h : Represents x.type s.resources m)
    {r : Resource K} (hid : r.id.isEmpty = false) (version : Option String) :
    ((s.perform now.toWire (.update (x.sent r true) (version.getD r.version))).1.mapError
        Error.remote).map (fun w => (Resource.ofWire K w).1) =
        (TypedStore.update x now m r version).1 ∧
      Represents x.type
        (s.perform now.toWire (.update (x.sent r true) (version.getD r.version))).2.resources
        (TypedStore.update x now m r version).2 := by
  unfold TypedStore.update
  rw [hid]
  simp only [Bool.false_eq_true, if_false, Store.perform, Store.update, Store.find]
  cases hr : m (x.resolve (some r.metadata.ns)) r.id with
  | none =>
    have hheld : s.resources.get? (.of (x.sent r true).metadata) = none := h.none_iff.2 hr
    rw [hheld]
    exact ⟨rfl, h⟩
  | some old =>
    obtain ⟨w, hw, hold⟩ := h.of_some hr
    have hheld : s.resources.get? (.of (x.sent r true).metadata) = some w := hw
    have hversion : w.metadata.version = old.version := congrArg (fun y => y.1.version) hold
    rw [hheld]
    dsimp only
    rw [hversion]
    by_cases hv : old.version = version.getD r.version
    · have hread := Resource.ofWire_asUpdated x now r hK hold
      rw [if_pos hv, hv, bne_self_eq_false, if_neg Bool.false_ne_true]
      refine ⟨congrArg Except.ok (congrArg Prod.fst hread), ?_⟩
      exact h.commit (.updated w (Store.asUpdated now.toWire w (x.sent r true))) rfl
        (congrArg some hread)
    · rw [if_neg hv, if_pos (bne_iff_ne.2 hv)]
      exact ⟨rfl, h⟩

/-- **A destroy** removes the entry that no finalizer keeps. -/
theorem perform_destroy (h : Represents x.type s.resources m) {id : String}
    (hid : id.isEmpty = false) (ns : Option String) :
    (s.perform now.toWire (.destroy ⟨x.resolve ns, x.type, id⟩)).1.mapError Error.remote =
        (TypedStore.delete x m id ns).1 ∧
      Represents x.type (s.perform now.toWire (.destroy ⟨x.resolve ns, x.type, id⟩)).2.resources
        (TypedStore.delete x m id ns).2 := by
  unfold TypedStore.delete
  rw [hid]
  simp only [Bool.false_eq_true, if_false, Store.perform, Store.destroy, Store.find]
  cases hr : m (x.resolve ns) id with
  | none =>
    rw [h.none_iff.2 hr]
    exact ⟨rfl, h⟩
  | some r =>
    obtain ⟨w, hw, hread⟩ := h.of_some hr
    have hfinalizers : w.metadata.finalizers = r.metadata.finalizers :=
      congrArg (fun y => y.1.metadata.finalizers) hread
    rw [hw]
    dsimp only
    rw [hfinalizers]
    by_cases hf : r.metadata.finalizers = []
    · rw [if_pos hf, if_pos (List.isEmpty_iff.2 hf)]
      refine ⟨rfl, ?_⟩
      exact h.commit (.destroyed ⟨x.resolve ns, x.type, id⟩ w) rfl rfl
    · rw [if_neg hf, if_neg (mt List.isEmpty_iff.1 hf)]
      exact ⟨rfl, h⟩

end Represents

end Fleet
