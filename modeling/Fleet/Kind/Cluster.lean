import Fleet.Kind.Basic

/-!
# Clusters

A cluster of machines with its versions and features.
-/

namespace Fleet

/-- The optional parts of a cluster. -/
structure ClusterFeatures where
  enableWorkloadProxy : Bool
  diskEncryption : Bool
  deriving DecidableEq, Repr

/-- What a cluster is meant to be. -/
structure ClusterSpec where
  kubernetesVersion : String
  talosVersion : String
  features : ClusterFeatures
  deriving DecidableEq, Repr

/-- What is known of a cluster. -/
structure ClusterStatus where
  ready : Bool
  machinesTotal : UInt32
  machinesHealthy : UInt32
  deriving DecidableEq, Repr

/-- The shape of the features. -/
def ClusterFeatures.schema : Schema :=
  .record (.field "enableWorkloadProxy" .flag (.field "diskEncryption" .flag .nil))

/-- The desired state in every format. -/
def ClusterSpec.model : Model ClusterSpec where
  schema := .record (.field "kubernetesVersion" (.text "") (.field "talosVersion" (.text "")
    (.field "features" ClusterFeatures.schema .nil)))
  pack s := (s.kubernetesVersion, s.talosVersion,
    (s.features.enableWorkloadProxy, s.features.diskEncryption, ()), ())
  unpack c := ⟨c.1, c.2.1, ⟨c.2.2.1.1, c.2.2.1.2.1⟩⟩
  unpack_pack _ := rfl
  pack_unpack _ := rfl

/-- The reported state in every format. -/
def ClusterStatus.model : Model ClusterStatus where
  schema := .record (.field "ready" .flag (.field "machinesTotal" .word
    (.field "machinesHealthy" .word .nil)))
  pack s := (s.ready, s.machinesTotal, s.machinesHealthy, ())
  unpack c := ⟨c.1, c.2.1, c.2.2.1⟩
  unpack_pack _ := rfl
  pack_unpack _ := rfl

/-- The kind of clusters. -/
def Kind.cluster : Kind where
  label := "Cluster"
  wireType := "Clusters.fleet.dev"
  Spec := ClusterSpec
  Status := ClusterStatus
  spec := ClusterSpec.model
  status := ClusterStatus.model
  specEq := inferInstance
  statusEq := inferInstance

end Fleet
