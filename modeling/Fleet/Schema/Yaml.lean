import Fleet.Schema.Basic
import Fleet.Yaml.Node
import Fleet.Yaml.Number

/-!
# Values from YAML

A node is read by the shape that is expected of it, not by a type of its own: any scalar is a text,
whatever it looks like.

* `Schema.ofNode?`: read the value of a node.
* `Model.ofYaml?`: read the value of a text that holds one document.
-/

namespace Fleet

open Yaml

namespace Yaml

/-- The lead that tags of the core types share. -/
def coreLead : String := "tag:yaml.org,2002:"

/-- The spellings of null. -/
def isNullWord (s : String) : Bool :=
  s == "null" || s == "Null" || s == "NULL" || s == "~"

/-- An empty text or a spelling of null. -/
def isNullText (s : String) : Bool :=
  s.isEmpty || isNullWord s

/-- The truth value a text spells. -/
def flagOfText? (s : String) : Option Bool :=
  if s == "true" || s == "True" || s == "TRUE" then some true
  else if s == "false" || s == "False" || s == "FALSE" then some false
  else none

namespace Node

/-- A node that holds nothing: the void document or a plain scalar without content. -/
def isEmpty : Node → Bool
  | void => true
  | scalar _ .plain "" => true
  | _ => false

/-- The text of a scalar. -/
def text? : Node → Option String
  | scalar _ _ s => some s
  | _ => none

/-- The value of a scalar that counts as a value of the core type `type`: a plain one, or one of
another style with the tag of that type. -/
def plainText? (type : String) : Node → Option String
  | scalar tag style s =>
    if style == .plain || (style == .literal && tag == some (coreLead ++ type)) then some s
    else none
  | _ => none

/-- A truth value. -/
def flag? (n : Node) : Option Bool :=
  (n.plainText? "bool").bind flagOfText?

/-- A number that fits so many values. -/
def below? (limit : Nat) (n : Node) : Option Nat := do
  let v ← unsigned? (← n.plainText? "int").toList
  if v < limit then some v else none

/-- Nothing: null or an empty document. -/
def unit? : Node → Option Unit
  | void => some ()
  | scalar none .plain s => if isNullText s then some () else none
  | scalar (some tag) .plain s =>
    if tag == coreLead ++ "null" && isNullWord s then some () else none
  | _ => none

/-- Whether a node stands for a value or for none; unreadable if it claims to be null and is not. -/
def isPresent? : Node → Option Bool
  | void => some false
  | scalar (some tag) .plain s =>
    if tag == coreLead ++ "null" then (if isNullWord s then some false else none) else some true
  | scalar none .plain s => some (!isNullText s)
  | _ => some true

/-- The index of a name: a scalar with the name, or a tag with it and nothing after. -/
def choice? (names : List String) : Node → Option (Fin names.length)
  | scalar tag style s =>
    match (tag.getD "").toList with
    | '!' :: name =>
      if style == .plain && isNullText s then
        names.finIdxOf? (if name.isEmpty then "!" else String.ofList name)
      else none
    | _ => names.finIdxOf? s
  | _ => none

end Node

/-- The texts of nodes. -/
def texts? (d : Document) : List Node → Option (List String)
  | [] => some []
  | n :: ns => do return (← (← d.resolve? n).text?) :: (← texts? d ns)

/-- The pairs of a mapping whose keys are scalars. -/
def members? (d : Document) : List (Node × Node) → Option (List (String × Node))
  | [] => some []
  | (k, v) :: ps => do return (← (← d.resolve? k).text?, v) :: (← members? d ps)

/-- The pairs of a mapping of texts. -/
def entries? (d : Document) : List (Node × Node) → Option (List (String × String))
  | [] => some []
  | (k, v) :: ps => do
    return (← (← d.resolve? k).text?, ← (← d.resolve? v).text?) :: (← entries? d ps)

/-- The pairs of a mapping; a node that holds nothing has none. -/
def pairs? (n : Node) : Option (List (Node × Node)) :=
  match n with
  | .mapping ps => some ps
  | n => if n.isEmpty then some [] else none

/-- The items of a sequence; a node that holds nothing has none. -/
def items? (n : Node) : Option (List Node) :=
  match n with
  | .sequence ns => some ns
  | n => if n.isEmpty then some [] else none

end Yaml

mutual
/-- Read the value of a node. -/
def Schema.ofNode? (d : Document) : (s : Schema) → Node → Option s.Carrier
  | .text _, n => do (← d.resolve? n).text?
  | .flag, n => do (← d.resolve? n).flag?
  | .byte, n => do return UInt8.ofNat (← (← d.resolve? n).below? 256)
  | .word, n => do return UInt32.ofNat (← (← d.resolve? n).below? 4294967296)
  | .choice names _, n => do (← d.resolve? n).choice? names
  | .unit, n => do (← d.resolve? n).unit?
  | .instant, n => do Timestamp.parse? (← (← d.resolve? n).text?)
  | .span _, n => do Span.parse? (← (← d.resolve? n).text?)
  | .optional value, n => do
    if ← (← d.resolve? n).isPresent? then return some (← value.ofNode? d n)
    else return (none : Option value.Carrier)
  | .texts, n => do texts? d (← items? (← d.resolve? n))
  | .textMap, n => do return OrderedMap.ofList (← entries? d (← pairs? (← d.resolve? n)))
  | .record fields, n => do fields.ofPairs? d (← members? d (← pairs? (← d.resolve? n)))

/-- Read the fields of a record. Names that no field answers to are passed over, and a field given
twice is refused. -/
def Fields.ofPairs? (d : Document) : (fs : Fields) → List (String × Node) → Option fs.Carrier
  | .nil, _ => some ()
  | .cons name aliases required value rest, ms => do
    let v ← match given name aliases ms with
      | [] => if required then none else some value.standard
      | [n] => value.ofNode? d n
      | _ => none
    return (v, ← rest.ofPairs? d ms)
end

namespace Model

variable {α : Type} (m : Model α)

/-- Read the root of a document. -/
def ofDocument? (d : Document) : Option α :=
  (m.schema.ofNode? d d.root).map m.unpack

/-- Read a text that holds one document. -/
def ofYaml? (s : String) : Option α :=
  (single? s).bind m.ofDocument?

end Model

end Fleet
