import Fleet.Kind.Basic

/-!
# Configuration patches

A piece of configuration text laid over that of a machine.
-/

namespace Fleet

/-- What a configuration patch holds. -/
structure ConfigPatchSpec where
  data : String
  deriving DecidableEq, Repr

/-- The desired state in every format. -/
def ConfigPatchSpec.model : Model ConfigPatchSpec where
  schema := .record (.field "data" (.text "") .nil)
  pack s := (s.data, ())
  unpack c := ⟨c.1⟩
  unpack_pack _ := rfl
  pack_unpack _ := rfl

/-- The kind of configuration patches. -/
def Kind.configPatch : Kind :=
  .plain "ConfigPatch" "ConfigPatches.fleet.dev" ConfigPatchSpec.model

end Fleet
