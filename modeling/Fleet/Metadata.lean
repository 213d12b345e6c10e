import Fleet.Selector
import Fleet.Schema.Basic

/-!
# Metadata of resources

What every resource carries whatever its kind. Namespace, type and id name it, and its version says
which of its states this is.

* `Metadata.model`: metadata in every format; the id also answers to `name`.
-/

namespace Fleet

/-- Where a resource is in its life. -/
inductive Phase where
  | running | tearingDown
  deriving DecidableEq, Repr

namespace Phase

/-- The names of the phases, in order. -/
def names : List String := ["running", "tearingDown"]

/-- The place of a phase in that order. -/
def index : Phase → Fin names.length
  | running => ⟨0, by decide⟩
  | tearingDown => ⟨1, by decide⟩

/-- The phase at a place. -/
def ofIndex (i : Fin names.length) : Phase :=
  if i.val = 0 then running else tearingDown

theorem ofIndex_index (p : Phase) : ofIndex p.index = p := by
  cases p <;> rfl

theorem index_ofIndex : ∀ i, index (ofIndex i) = i := by decide

/-- The name of a phase. -/
def text (p : Phase) : String := names[p.index]

end Phase

/-- What every resource carries whatever its kind. -/
structure Metadata where
  /-- The namespace it lies in. -/
  ns : String
  type : String
  id : String
  version : String
  owner : String
  phase : Phase
  created : Option Timestamp
  updated : Option Timestamp
  finalizers : List String
  labels : Labels
  annotations : Labels
  deriving DecidableEq, Repr

namespace Metadata

/-- Metadata in every format. -/
def model : Model Metadata where
  schema := .record (.field "namespace" (.text "") (.field "type" (.text "")
    (.cons "id" ["name"] false (.text "") (.field "version" (.text "") (.field "owner" (.text "")
    (.field "phase" (.choice Phase.names ⟨0, by decide⟩) (.field "created" (.optional .instant)
    (.field "updated" (.optional .instant) (.field "finalizers" .texts (.field "labels" .textMap
    (.field "annotations" .textMap .nil)))))))))))
  pack m := (m.ns, m.type, m.id, m.version, m.owner, m.phase.index, m.created, m.updated,
    m.finalizers, m.labels, m.annotations, ())
  unpack c := ⟨c.1, c.2.1, c.2.2.1, c.2.2.2.1, c.2.2.2.2.1, Phase.ofIndex c.2.2.2.2.2.1,
    c.2.2.2.2.2.2.1, c.2.2.2.2.2.2.2.1, c.2.2.2.2.2.2.2.2.1, c.2.2.2.2.2.2.2.2.2.1,
    c.2.2.2.2.2.2.2.2.2.2.1⟩
  unpack_pack m :=
    congrArg (fun p => Metadata.mk m.ns m.type m.id m.version m.owner p m.created m.updated
      m.finalizers m.labels m.annotations) (Phase.ofIndex_index m.phase)
  pack_unpack c :=
    congrArg (fun p => (c.1, c.2.1, c.2.2.1, c.2.2.2.1, c.2.2.2.2.1, p, c.2.2.2.2.2.2))
      (Phase.index_ofIndex c.2.2.2.2.2.1)

/-- Metadata that say nothing. -/
def blank : Metadata := ⟨"", "", "", "", "", .running, none, none, [], ∅, ∅⟩

instance : Inhabited Metadata := ⟨blank⟩

/-- Metadata that only name a resource. -/
def named (ns id : String) : Metadata := { blank with ns, id }

/-- Add a label. -/
def withLabel (m : Metadata) (key value : String) : Metadata :=
  { m with labels := m.labels.insert key value }

/-- Add an annotation. -/
def withAnnotation (m : Metadata) (key value : String) : Metadata :=
  { m with annotations := m.annotations.insert key value }

/-- The value of a label. -/
def label? (m : Metadata) (key : String) : Option String := m.labels.get? key

/-- The value of an annotation. -/
def annotation? (m : Metadata) (key : String) : Option String := m.annotations.get? key

/-- The resource waits for this finalizer. -/
def hasFinalizer (m : Metadata) (name : String) : Bool := m.finalizers.contains name

end Metadata

end Fleet
