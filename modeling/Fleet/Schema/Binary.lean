import Fleet.Schema.Basic
import Fleet.Text.Bytes

/-!
# Values as bytes

Numbers are little-endian, a text is its length in eight bytes and its UTF-8 form, a choice is its
index in four bytes, and a record is its fields one after the other.

* `Schema.toBytes`: the bytes of a value.
* `Schema.ofBytes?`: reading a value off the front, with the bytes that follow it.
-/

namespace Fleet

open Text

/-- The lowest `width` bytes of a number, lowest first. -/
def littleEndian : Nat → Nat → Bytes
  | 0, _ => []
  | width + 1, n => UInt8.ofNat n :: littleEndian width (n / 256)

/-- Read a number of `width` bytes, lowest first. -/
def ofLittleEndian? : Nat → Bytes → Option (Nat × Bytes)
  | 0, bs => some (0, bs)
  | _ + 1, [] => none
  | width + 1, b :: bs => (ofLittleEndian? width bs).map fun r => (b.toNat + 256 * r.1, r.2)

/-- A text with its length in front. -/
def textBytes (s : String) : Bytes :=
  littleEndian 8 (Text.toBytes s).length ++ Text.toBytes s

/-- Read a text with its length in front. -/
def textOfBytes? (bs : Bytes) : Option (String × Bytes) := do
  let (n, bs) ← ofLittleEndian? 8 bs
  if bs.length < n then none
  else return (← Text.ofBytes? (bs.take n), bs.drop n)

/-- Read so many items with one reader. -/
def repeated? {α : Type} (read : Bytes → Option (α × Bytes)) : Nat → Bytes → Option (List α × Bytes)
  | 0, bs => some ([], bs)
  | n + 1, bs => do
    let (a, bs) ← read bs
    let (as, bs) ← repeated? read n bs
    return (a :: as, bs)

/-- Read a count and so many items, at least one byte each. -/
def counted? {α : Type} (read : Bytes → Option (α × Bytes)) (bs : Bytes) :
    Option (List α × Bytes) := do
  let (n, bs) ← ofLittleEndian? 8 bs
  if bs.length < n then none else repeated? read n bs

/-- Read a text with its length in front, then turn it into a value. -/
def parsedOfBytes? {α : Type} (parse? : String → Option α) (bs : Bytes) : Option (α × Bytes) := do
  let (s, bs) ← textOfBytes? bs
  return (← parse? s, bs)

/-- Read a name and its value. -/
def entryOfBytes? (bs : Bytes) : Option ((String × String) × Bytes) := do
  let (k, bs) ← textOfBytes? bs
  let (v, bs) ← textOfBytes? bs
  return ((k, v), bs)

/-- Read a truth value: a zero or a one. -/
def flagOfBytes? : Bytes → Option (Bool × Bytes)
  | 0 :: bs => some (false, bs)
  | 1 :: bs => some (true, bs)
  | _ => none

/-- Read the index of one of so many choices. -/
def choiceOfBytes? (n : Nat) (bs : Bytes) : Option (Fin n × Bytes) := do
  let (i, bs) ← ofLittleEndian? 4 bs
  if h : i < n then return (⟨i, h⟩, bs) else none

mutual
/-- The bytes of a value. -/
def Schema.toBytes : (s : Schema) → s.Carrier → Bytes
  | .text _, (t : String) => textBytes t
  | .flag, (b : Bool) => [if b then 1 else 0]
  | .byte, (n : UInt8) => [n]
  | .word, (n : UInt32) => littleEndian 4 n.toNat
  | .choice _ _, (i : Fin _) => littleEndian 4 i.val
  | .unit, _ => []
  | .instant, (t : Timestamp) => textBytes t.text
  | .span _, (t : Span) => textBytes t.text
  | .optional value, (v : Option value.Carrier) =>
    match v with
    | none => [0]
    | some a => 1 :: value.toBytes a
  | .texts, (ts : List String) => littleEndian 8 ts.length ++ ts.flatMap textBytes
  | .textMap, (m : OrderedMap String String) =>
    littleEndian 8 m.size ++ m.toList.flatMap fun e => textBytes e.1 ++ textBytes e.2
  | .record fields, v => fields.toBytes v

/-- The bytes of all fields. -/
def Fields.toBytes : (fs : Fields) → fs.Carrier → Bytes
  | .nil, _ => []
  | .cons _ _ _ value rest, v => value.toBytes v.1 ++ rest.toBytes v.2
end

mutual
/-- Read a value off the front. -/
def Schema.ofBytes? : (s : Schema) → Bytes → Option (s.Carrier × Bytes)
  | .text _, bs => textOfBytes? bs
  | .flag, bs => flagOfBytes? bs
  | .byte, bs => match bs with | b :: bs => some (b, bs) | [] => none
  | .word, bs => (ofLittleEndian? 4 bs).map fun r => (UInt32.ofNat r.1, r.2)
  | .choice names _, bs => choiceOfBytes? names.length bs
  | .unit, bs => some ((), bs)
  | .instant, bs => parsedOfBytes? Timestamp.parse? bs
  | .span _, bs => parsedOfBytes? Span.parse? bs
  | .optional value, bs => do
    let (present, bs) ← flagOfBytes? bs
    if present then
      let (a, bs) ← value.ofBytes? bs
      return ((some a : Option value.Carrier), bs)
    else return ((none : Option value.Carrier), bs)
  | .texts, bs => counted? textOfBytes? bs
  | .textMap, bs => (counted? entryOfBytes? bs).map fun r => (OrderedMap.ofList r.1, r.2)
  | .record fields, bs => fields.ofBytes? bs

/-- Read every field off the front. -/
def Fields.ofBytes? : (fs : Fields) → Bytes → Option (fs.Carrier × Bytes)
  | .nil, bs => some ((), bs)
  | .cons _ _ _ value rest, bs => do
    let (v, bs) ← value.ofBytes? bs
    let (vs, bs) ← rest.ofBytes? bs
    return ((v, vs), bs)
end

namespace Model

variable {α : Type} (m : Model α)

/-- The bytes of a value. -/
def toBytes (a : α) : Bytes :=
  m.schema.toBytes (m.pack a)

/-- Read a value; bytes after it are passed over. -/
def ofBytes? (bs : Bytes) : Option α :=
  (m.schema.ofBytes? bs).map fun r => m.unpack r.1

end Model

end Fleet
