import Fleet.Error
import Fleet.Schema.Basic

/-!
# The write gate

A client in read-only mode refuses every write before anything else happens.

* `Mode.check`: the refusal of an operation on a type.
* `WriteAction`: a declared write with its operation and its description.
-/

namespace Fleet

/-- Whether a client may write. -/
inductive Mode where
  | readOnly | readWrite
  deriving DecidableEq, Repr

namespace Mode

/-- The names of the modes in documents, in order. -/
def names : List String := ["readOnly", "readWrite"]

/-- The place of a mode in that order. -/
def index : Mode → Fin names.length
  | readOnly => ⟨0, by decide⟩
  | readWrite => ⟨1, by decide⟩

/-- The mode at a place. -/
def ofIndex (i : Fin names.length) : Mode :=
  if i.val = 0 then readOnly else readWrite

theorem ofIndex_index (m : Mode) : ofIndex m.index = m := by
  cases m <;> rfl

theorem index_ofIndex : ∀ i, index (ofIndex i) = i := by decide

/-- The shape of a mode in documents; a client may write unless it says otherwise. -/
def schema : Schema := .choice names ⟨1, by decide⟩

/-- Modes in every format. -/
def model : Model Mode where
  schema := schema
  pack := index
  unpack := ofIndex
  unpack_pack := ofIndex_index
  pack_unpack := index_ofIndex

/-- The name of a mode in documents. -/
def name (m : Mode) : String := names[m.index]

/-- The name of a mode in messages. -/
def text : Mode → String
  | readOnly => "read-only"
  | readWrite => "read-write"

/-- The client may not write. -/
def isReadOnly (m : Mode) : Bool := m == readOnly

/-- Refuse an operation on a type if the client may not write. -/
def check (m : Mode) (operation type : String) : Except Error Unit :=
  if m.isReadOnly then .error (.readOnly operation type) else .ok ()

end Mode

/-- What a write does. -/
inductive WriteKind where
  | create | update | delete | stop
  deriving DecidableEq, Repr

namespace WriteKind

/-- All kinds of writes. -/
def all : List WriteKind := [create, update, delete, stop]

/-- The name of a kind of write. -/
def text : WriteKind → String
  | create => "Create"
  | update => "Update"
  | delete => "Delete"
  | stop => "Stop"

/-- The kind of write of a name. -/
def ofName? (s : String) : Option WriteKind := all.find? (·.text == s)

end WriteKind

/-- A declared write. -/
structure WriteAction where
  kind : WriteKind
  description : String
  deriving DecidableEq, Repr

namespace WriteAction

/-- The operation that a refusal names. -/
def operation (a : WriteAction) : String := a.kind.text

/-- Creating. -/
def create : WriteAction := ⟨.create, "create a resource"⟩

/-- Replacing. -/
def update : WriteAction := ⟨.update, "update a resource"⟩

/-- Creating or replacing. -/
def apply : WriteAction := ⟨.update, "create or update a resource"⟩

/-- Deleting. -/
def delete : WriteAction := ⟨.delete, "delete a resource"⟩

/-- Deleting all that match. -/
def deleteMany : WriteAction := ⟨.delete, "delete every matching resource"⟩

/-- Locking. -/
def lock : WriteAction := ⟨.update, "lock a machine"⟩

/-- Unlocking. -/
def unlock : WriteAction := ⟨.update, "unlock a machine"⟩

/-- The declared writes by name. -/
def named : List (String × WriteAction) :=
  [("CREATE", create), ("UPDATE", update), ("APPLY", apply), ("DELETE", delete),
    ("DELETE_MANY", deleteMany), ("LOCK", lock), ("UNLOCK", unlock)]

end WriteAction

/-- Refuse a declared write on a type if the client may not write. -/
def Mode.enforce (m : Mode) (a : WriteAction) (type : String) : Except Error Unit :=
  m.check a.operation type

end Fleet
