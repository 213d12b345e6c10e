import Fleet.Kind.Basic
import Fleet.Wire.Basic

/-!
# Resources

A resource of a kind with its metadata, its desired state and, if it is known, its reported state.

* `Resource.toWire`: the form in which it is sent.
* `Resource.ofWire`: reading what was received. Metadata always survive; a desired state that cannot
  be read becomes the standard one, a reported state that cannot be read is dropped.
* `Event.ofWire`: reading an event.
-/

namespace Fleet

/-- A resource of a kind. -/
structure Resource (K : Kind) where
  metadata : Metadata
  spec : K.Spec
  status : Option K.Status
  deriving DecidableEq

namespace Resource

variable {K : Kind}

/-- A resource that says nothing. -/
def blank : Resource K := ⟨.blank, K.defaultSpec, none⟩

instance : Inhabited (Resource K) := ⟨blank⟩

/-- A resource with an id and a desired state. -/
def named (id : String) (spec : K.Spec) : Resource K := ⟨.named "" id, spec, none⟩

/-- The resource in another namespace. -/
def inNamespace (r : Resource K) (ns : String) : Resource K :=
  { r with metadata := { r.metadata with ns } }

/-- Add a label. -/
def withLabel (r : Resource K) (key value : String) : Resource K :=
  { r with metadata := r.metadata.withLabel key value }

/-- The id. -/
def id (r : Resource K) : String := r.metadata.id

/-- The version. -/
def version (r : Resource K) : String := r.metadata.version

/-- The form in which a resource is sent. -/
def toWire (r : Resource K) : WireResource where
  metadata := .ofMetadata r.metadata
  spec := .encode K.spec r.spec
  status := match r.status with
    | some s => .encode K.status s
    | none => .absent

/-- Read a resource that was received, and how many of its two states were lost. -/
def ofWire (K : Kind) (w : WireResource) : Resource K × Nat :=
  let spec := w.spec.decode K.spec
  let status := w.status.decode K.status
  (⟨w.metadata.toMetadata, spec.getD K.defaultSpec, status.value?⟩, spec.losses + status.losses)

end Resource

/-- A change of a resource of a kind. -/
structure Event (K : Kind) where
  kind : EventKind
  resource : Resource K
  /-- What the resource was before an update. -/
  previous : Option (Resource K)
  total : Nat
  deriving DecidableEq

namespace Event

variable {K : Kind}

/-- The id of the resource. -/
def id (e : Event K) : String := e.resource.id

/-- The event only says that all that was there has been told. -/
def isBootstrapped (e : Event K) : Bool := e.kind == .bootstrapped

/-- Read an event that was received, and how many states were lost. Only an update has a resource
that was there before. -/
def ofWire (K : Kind) (w : WireEvent) : Event K × Nat :=
  let previous := match w.kind with
    | .updated => w.old.map (Resource.ofWire K)
    | _ => none
  let resource := Resource.ofWire K w.resource
  (⟨w.kind, resource.1, previous.map (·.1), w.total.toNat⟩,
    resource.2 + (previous.map (·.2)).getD 0)

end Event

end Fleet
