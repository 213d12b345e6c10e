import Fleet.Kind.Basic

/-!
# Machine sets

A number of like machines in a cluster.
-/

namespace Fleet

/-- How the machines of a set are brought up to date. -/
inductive UpdateStrategy where
  | rolling | unset
  deriving DecidableEq, Repr

/-- What a machine set is meant to be. -/
structure MachineSetSpec where
  cluster : String
  machineCount : UInt32
  updateStrategy : UpdateStrategy
  deriving DecidableEq, Repr

/-- What is known of a machine set. -/
structure MachineSetStatus where
  ready : Bool
  machinesReady : UInt32
  deriving DecidableEq, Repr

namespace UpdateStrategy

/-- The names of the strategies, in order. -/
def names : List String := ["rolling", "unset"]

/-- The place of a strategy in that order. -/
def index : UpdateStrategy → Fin names.length
  | rolling => ⟨0, by decide⟩
  | unset => ⟨1, by decide⟩

/-- The strategy at a place. -/
def ofIndex (i : Fin names.length) : UpdateStrategy :=
  if i.val = 0 then rolling else unset

theorem ofIndex_index (s : UpdateStrategy) : ofIndex s.index = s := by
  cases s <;> rfl

theorem index_ofIndex : ∀ i, index (ofIndex i) = i := by decide

end UpdateStrategy

/-- The desired state in every format. -/
def MachineSetSpec.model : Model MachineSetSpec where
  schema := .record (.field "cluster" (.text "") (.field "machineCount" .word
    (.field "updateStrategy" (.choice UpdateStrategy.names ⟨0, by decide⟩) .nil)))
  pack s := (s.cluster, s.machineCount, s.updateStrategy.index, ())
  unpack c := ⟨c.1, c.2.1, UpdateStrategy.ofIndex c.2.2.1⟩
  unpack_pack s :=
    congrArg (MachineSetSpec.mk s.cluster s.machineCount) (UpdateStrategy.ofIndex_index _)
  pack_unpack c :=
    congrArg (fun i => (c.1, c.2.1, i, ())) (UpdateStrategy.index_ofIndex c.2.2.1)

/-- The reported state in every format. -/
def MachineSetStatus.model : Model MachineSetStatus where
  schema := .record (.field "ready" .flag (.field "machinesReady" .word .nil))
  pack s := (s.ready, s.machinesReady, ())
  unpack c := ⟨c.1, c.2.1⟩
  unpack_pack _ := rfl
  pack_unpack _ := rfl

/-- The kind of machine sets. -/
def Kind.machineSet : Kind where
  label := "MachineSet"
  wireType := "MachineSets.fleet.dev"
  Spec := MachineSetSpec
  Status := MachineSetStatus
  spec := MachineSetSpec.model
  status := MachineSetStatus.model
  specEq := inferInstance
  statusEq := inferInstance

end Fleet
