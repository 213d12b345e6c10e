import Fleet.Kind.Basic

/-!
# Example kinds

Two small kinds that no registry holds from the start.
-/

namespace Fleet

/-- A widget: every field may be left out. -/
structure Widget where
  color : String
  size : UInt32
  deriving DecidableEq, Repr

/-- A gizmo: its one field must be given. -/
structure Gizmo where
  teeth : UInt8
  deriving DecidableEq, Repr

/-- Widgets in every format. -/
def Widget.model : Model Widget where
  schema := .record (.field "color" (.text "") (.field "size" .word .nil))
  pack w := (w.color, w.size, ())
  unpack c := ⟨c.1, c.2.1⟩
  unpack_pack _ := rfl
  pack_unpack _ := rfl

/-- Gizmos in every format. -/
def Gizmo.model : Model Gizmo where
  schema := .record (.cons "teeth" [] true .byte .nil)
  pack g := (g.teeth, ())
  unpack c := ⟨c.1⟩
  unpack_pack _ := rfl
  pack_unpack _ := rfl

/-- The kind of widgets. -/
def Kind.widget : Kind := .plain "Widget" "Widgets.example.dev" Widget.model

/-- The kind of gizmos. -/
def Kind.gizmo : Kind := .plain "Gizmo" "Gizmos.example.dev" Gizmo.model

end Fleet
