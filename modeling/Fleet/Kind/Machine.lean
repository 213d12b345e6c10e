import Fleet.Kind.Basic

/-!
# Machines

A machine, the cluster it belongs to, and whether it is locked against changes.
-/

namespace Fleet

/-- The part a machine plays in its cluster. -/
inductive MachineRole where
  | unassigned | controlPlane | worker
  deriving DecidableEq, Repr

/-- What a machine is meant to be. -/
structure MachineSpec where
  managementAddress : String
  connected : Bool
  deriving DecidableEq, Repr

/-- What is known of a machine. A locked one is left out of upgrades. -/
structure MachineStatus where
  cluster : String
  role : MachineRole
  locked : Bool
  deriving DecidableEq, Repr

namespace MachineRole

/-- The names of the roles, in order. -/
def names : List String := ["unassigned", "controlPlane", "worker"]

/-- The place of a role in that order. -/
def index : MachineRole → Fin names.length
  | unassigned => ⟨0, by decide⟩
  | controlPlane => ⟨1, by decide⟩
  | worker => ⟨2, by decide⟩

/-- The role at a place. -/
def ofIndex (i : Fin names.length) : MachineRole :=
  if i.val = 0 then unassigned else if i.val = 1 then controlPlane else worker

theorem ofIndex_index (r : MachineRole) : ofIndex r.index = r := by
  cases r <;> rfl

theorem index_ofIndex : ∀ i, index (ofIndex i) = i := by decide

end MachineRole

/-- The desired state in every format. -/
def MachineSpec.model : Model MachineSpec where
  schema := .record (.field "managementAddress" (.text "") (.field "connected" .flag .nil))
  pack s := (s.managementAddress, s.connected, ())
  unpack c := ⟨c.1, c.2.1⟩
  unpack_pack _ := rfl
  pack_unpack _ := rfl

/-- The reported state in every format. -/
def MachineStatus.model : Model MachineStatus where
  schema := .record (.field "cluster" (.text "")
    (.field "role" (.choice MachineRole.names ⟨0, by decide⟩) (.field "locked" .flag .nil)))
  pack s := (s.cluster, s.role.index, s.locked, ())
  unpack c := ⟨c.1, MachineRole.ofIndex c.2.1, c.2.2.1⟩
  unpack_pack s :=
    congrArg (MachineStatus.mk s.cluster · s.locked) (MachineRole.ofIndex_index s.role)
  pack_unpack c :=
    congrArg (fun r => (c.1, r, c.2.2.1, ())) (MachineRole.index_ofIndex c.2.1)

/-- The kind of machines. -/
def Kind.machine : Kind where
  label := "Machine"
  wireType := "Machines.fleet.dev"
  Spec := MachineSpec
  Status := MachineStatus
  spec := MachineSpec.model
  status := MachineStatus.model
  specEq := inferInstance
  statusEq := inferInstance

end Fleet
