import Fleet.Schema.Basic

/-!
# Kinds

A kind of resource: its names, and the models of its desired and its reported state.

* `Kind`: what the client needs to know of a kind.
-/

namespace Fleet

/-- A kind of resource. -/
structure Kind where
  /-- Its name among kinds. -/
  label : String
  /-- The name that the service knows it by, unless it is registered under another one. -/
  wireType : String
  /-- The desired state. -/
  Spec : Type
  /-- The reported state; `Unit` if there is none. -/
  Status : Type
  spec : Model Spec
  status : Model Status
  specEq : DecidableEq Spec
  statusEq : DecidableEq Status

namespace Kind

variable (K : Kind)

instance : DecidableEq K.Spec := K.specEq
instance : DecidableEq K.Status := K.statusEq

/-- The desired state of a resource that gives none. -/
def defaultSpec : K.Spec := K.spec.standard

/-- The reported state of a resource of which none is known. -/
def defaultStatus : K.Status := K.status.standard

end Kind

/-- A kind with nothing but a desired state. -/
def Kind.plain {α : Type} (label wireType : String) (spec : Model α) [DecidableEq α] : Kind where
  label := label
  wireType := wireType
  Spec := α
  Status := Unit
  spec := spec
  status := Model.unit
  specEq := inferInstance
  statusEq := inferInstance

end Fleet
