import Fleet.Schema.Basic
import Fleet.Json.Basic

/-!
# Values as JSON

* `Schema.toJson`: the JSON form of a value; records are objects with every field.
* `Schema.ofJson?`: reading it back. Names that no field answers to are passed over, a field given
  twice is refused, and a record may also be the array of its first fields.
-/

namespace Fleet

/-- The members of an object, if every name is readable. -/
def readableMembers? : List (Option String × Json) → Option (List (String × Json))
  | [] => some []
  | (k, v) :: ms => do return (← k, v) :: (← readableMembers? ms)

/-- Every item is a readable text. -/
def readableTexts? : List Json → Option (List String)
  | [] => some []
  | v :: vs => do return (← v.str?) :: (← readableTexts? vs)

/-- Every member is a readable text under a readable name. -/
def readableEntries? : List (Option String × Json) → Option (List (String × String))
  | [] => some []
  | (k, v) :: ms => do return (← k, ← v.str?) :: (← readableEntries? ms)

/-- The index of a name: the name itself, or an object with nothing under it. -/
def choiceOfJson? (names : List String) (j : Json) : Option (Fin names.length) :=
  let pick (name : String) := names.finIdxOf? name
  match j with
  | .text (some name) => pick name
  | .object [(some name, .null)] => pick name
  | _ => none

mutual
/-- Read a value. -/
def Schema.ofJson? : (s : Schema) → Json → Option s.Carrier
  | .text _, j => j.str?
  | .flag, j => j.flag?
  | .byte, j => j.nat?.bind fun n => if n < 256 then some (UInt8.ofNat n) else none
  | .word, j => j.nat?.bind fun n => if n < 4294967296 then some (UInt32.ofNat n) else none
  | .choice names _, j => choiceOfJson? names j
  | .unit, j => match j with | .null => some () | _ => none
  | .instant, j => j.str?.bind Timestamp.parse?
  | .span _, j => j.str?.bind Span.parse?
  | .optional value, j =>
    match j with
    | .null => some (none : Option value.Carrier)
    | j => (value.ofJson? j).map some
  | .texts, j => match j with | .array vs => readableTexts? vs | _ => none
  | .textMap, j =>
    match j with
    | .object ms => (readableEntries? ms).map OrderedMap.ofList
    | _ => none
  | .record fields, j =>
    match j with
    | .object ms => (readableMembers? ms).bind fields.ofMembers?
    | .array vs => fields.ofItems? vs
    | _ => none

/-- Read the fields of a record from named members. -/
def Fields.ofMembers? : (fs : Fields) → List (String × Json) → Option fs.Carrier
  | .nil, _ => some ()
  | .cons name aliases required value rest, ms => do
    let v ← match given name aliases ms with
      | [] => if required then none else some value.standard
      | [j] => value.ofJson? j
      | _ => none
    return (v, ← rest.ofMembers? ms)

/-- Read the fields of a record from the items of an array, missing ones at the end left out. -/
def Fields.ofItems? : (fs : Fields) → List Json → Option fs.Carrier
  | .nil, js => if js.isEmpty then some () else none
  | .cons _ _ required value rest, js => do
    let v ← match js with
      | [] => if required then none else some value.standard
      | j :: _ => value.ofJson? j
    return (v, ← rest.ofItems? js.tail)
end

mutual
/-- The JSON form of a value. -/
def Schema.toJson : (s : Schema) → s.Carrier → Json
  | .text _, (t : String) => .str t
  | .flag, (b : Bool) => .flag b
  | .byte, (n : UInt8) => .nat n.toNat
  | .word, (n : UInt32) => .nat n.toNat
  | .choice names _, (i : Fin names.length) => .str names[i]
  | .unit, _ => .null
  | .instant, (t : Timestamp) => .str t.text
  | .span _, (t : Span) => .str t.text
  | .optional value, (v : Option value.Carrier) =>
    match v with
    | none => .null
    | some a => value.toJson a
  | .texts, (ts : List String) => .list .str ts
  | .textMap, (m : OrderedMap String String) => .obj (m.toList.map fun e => (e.1, .str e.2))
  | .record fields, v => .obj (fields.toMembers v)

/-- The members of a record. -/
def Fields.toMembers : (fs : Fields) → fs.Carrier → List (String × Json)
  | .nil, _ => []
  | .cons name _ _ value rest, v => (name, value.toJson v.1) :: rest.toMembers v.2
end

namespace Model

variable {α : Type} (m : Model α)

/-- Read a value from JSON. -/
def ofJson? (j : Json) : Option α :=
  (m.schema.ofJson? j).map m.unpack

/-- The JSON form of a value. -/
def toJson (a : α) : Json :=
  m.schema.toJson (m.pack a)

end Model

end Fleet
