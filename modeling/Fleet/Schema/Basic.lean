import Fleet.OrderedMap
import Fleet.Time.Span
import Fleet.Time.Timestamp

/-!
# Schemas

A schema describes the shape of a value once, for every format it is read from and written to.

* `Schema.Carrier`: the values of a shape.
* `Schema.standard`: the value a missing field takes.
* `Model`: a type whose values correspond to those of a schema one to one.
-/

namespace Fleet

mutual
/-- The shape of a value. -/
inductive Schema where
  /-- Any text. -/
  | text (standard : String)
  /-- A truth value. -/
  | flag
  /-- A number of eight bits. -/
  | byte
  /-- A number of thirty-two bits. -/
  | word
  /-- One of several names. -/
  | choice (names : List String) (standard : Fin names.length)
  /-- Nothing. -/
  | unit
  /-- A timestamp. -/
  | instant
  /-- A span of time. -/
  | span (standard : Span)
  /-- A value or none. -/
  | optional (value : Schema)
  /-- A list of texts. -/
  | texts
  /-- Texts by name. -/
  | textMap
  /-- Named fields in order. -/
  | record (fields : Fields)

/-- The fields of a record. -/
inductive Fields where
  /-- No fields. -/
  | nil
  /-- A field with its name and further names it answers to. A required field must be given. -/
  | cons (name : String) (aliases : List String) (required : Bool) (value : Schema) (rest : Fields)
end

mutual
/-- The values of a shape. -/
def Schema.Carrier : Schema → Type
  | .text _ => String
  | .flag => Bool
  | .byte => UInt8
  | .word => UInt32
  | .choice names _ => Fin names.length
  | .unit => Unit
  | .instant => Timestamp
  | .span _ => Span
  | .optional value => Option value.Carrier
  | .texts => List String
  | .textMap => OrderedMap String String
  | .record fields => fields.Carrier

/-- The values of all fields of a record. -/
def Fields.Carrier : Fields → Type
  | .nil => Unit
  | .cons _ _ _ value rest => value.Carrier × rest.Carrier
end

mutual
/-- The value that stands for a missing one. -/
def Schema.standard : (s : Schema) → s.Carrier
  | .text standard => standard
  | .flag => false
  | .byte => (0 : UInt8)
  | .word => (0 : UInt32)
  | .choice _ standard => standard
  | .unit => ()
  | .instant => Timestamp.epoch
  | .span standard => standard
  | .optional value => (none : Option value.Carrier)
  | .texts => ([] : List String)
  | .textMap => (OrderedMap.empty : OrderedMap String String)
  | .record fields => fields.standard

/-- The values that stand for missing fields. -/
def Fields.standard : (fs : Fields) → fs.Carrier
  | .nil => ()
  | .cons _ _ _ value rest => (value.standard, rest.standard)
end

/-- The field answers to a name. -/
def answersTo (name : String) (aliases : List String) (key : String) : Bool :=
  key == name || aliases.contains key

/-- The values given for a field, in order. -/
def given {α : Type} (name : String) (aliases : List String) (members : List (String × α)) :
    List α :=
  (members.filter fun m => answersTo name aliases m.1).map (·.2)

namespace Fields

/-- A field that may be left out. -/
def field (name : String) (value : Schema) (rest : Fields) : Fields :=
  .cons name [] false value rest

end Fields

/-- A type whose values correspond to those of a schema one to one. -/
structure Model (α : Type) where
  schema : Schema
  pack : α → schema.Carrier
  unpack : schema.Carrier → α
  unpack_pack : ∀ a, unpack (pack a) = a
  pack_unpack : ∀ c, pack (unpack c) = c

namespace Model

/-- The value that stands for a missing one. -/
def standard {α : Type} (m : Model α) : α :=
  m.unpack m.schema.standard

/-- The type without content. -/
def unit : Model Unit where
  schema := .unit
  pack := id
  unpack := id
  unpack_pack _ := rfl
  pack_unpack _ := rfl

end Model

end Fleet
