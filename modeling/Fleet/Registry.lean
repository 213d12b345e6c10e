import Fleet.Error
import Fleet.Kind.Cluster
import Fleet.Kind.ConfigPatch
import Fleet.Kind.Machine
import Fleet.Kind.MachineSet
import Fleet.Text.Blank

/-!
# The registry of kinds

The name by which the service knows each kind that a client may use.

* `Registry.register`: set the name of a kind; a blank one is refused.
* `Registry.wireName`: the name of a kind that is registered.
* `Registry.builtin`: the registry that knows the four built-in kinds.
-/

namespace Fleet

/-- Names of kinds at the service, by label. -/
structure Registry where
  names : OrderedMap String String
  deriving DecidableEq, Repr

namespace Registry

/-- The registry without kinds. -/
def empty : Registry := ⟨∅⟩

instance : Inhabited Registry := ⟨empty⟩

/-- Register a kind under its own name. -/
def registerKind (r : Registry) (K : Kind) : Registry :=
  ⟨r.names.insert K.label K.wireType⟩

/-- Register a kind under a name. -/
def register (r : Registry) (K : Kind) (name : String) : Except Error Registry :=
  if Text.isBlankText name then .error (.invalidArgument (.emptyWireName K.label))
  else .ok ⟨r.names.insert K.label name⟩

/-- The name of a kind at the service. -/
def wireName (r : Registry) (K : Kind) : Except Error String :=
  match r.names.get? K.label with
  | some name => .ok name
  | none => .error (.notRegistered K.label)

/-- The kind is registered. -/
def isRegistered (r : Registry) (K : Kind) : Bool := r.names.contains K.label

/-- The labels and names of all kinds, by label. -/
def registered (r : Registry) : List (String × String) := r.names.toList

/-- The number of kinds. -/
def size (r : Registry) : Nat := r.names.size

/-- The built-in kinds. -/
def builtinKinds : List Kind := [.cluster, .machine, .machineSet, .configPatch]

/-- The registry that knows the built-in kinds. -/
def builtin : Registry := builtinKinds.foldl registerKind empty

end Registry

end Fleet
