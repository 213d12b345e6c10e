import Fleet.Schema.Basic
import Fleet.Yaml.Print

/-!
# Values as YAML

Records are written in block style, two spaces for each level, their fields in order.

* `Schema.toYaml`: the written form of a value.
-/

namespace Fleet

open Yaml

/-- A text with a line break after it. -/
def lineOf (s : String) : List Char := s.toList ++ ['\n']

/-- A scalar on one line, which may be the key of a mapping. -/
def printKey (s : String) : List Char :=
  match styleOf s.toList with
  | .plain => s.toList
  | .singleQuoted => '\'' :: singleQuotedFrom 0 false s.toList ++ ['\'']
  | _ => '"' :: s.toList.flatMap escaped ++ ['"']

mutual
/-- What follows the colon after the name of a value. `indent` is the indentation of that name. -/
def Schema.afterName (indent : Nat) : (s : Schema) → s.Carrier → List Char
  | .text _, (t : String) => ' ' :: print (indent + 2) t.toList
  | .flag, (b : Bool) => ' ' :: lineOf (if b then "true" else "false")
  | .byte, (n : UInt8) => ' ' :: lineOf (Text.decimal n.toNat)
  | .word, (n : UInt32) => ' ' :: lineOf (Text.decimal n.toNat)
  | .choice names _, (i : Fin names.length) => ' ' :: print (indent + 2) names[i].toList
  | .unit, _ => ' ' :: lineOf "null"
  | .instant, (t : Timestamp) => ' ' :: print (indent + 2) t.text.toList
  | .span _, (t : Span) => ' ' :: print (indent + 2) t.text.toList
  | .optional value, (v : Option value.Carrier) =>
    match v with
    | none => ' ' :: lineOf "null"
    | some a => value.afterName indent a
  | .texts, (ts : List String) =>
    if ts.isEmpty then ' ' :: lineOf "[]"
    else '\n' :: ts.flatMap fun t => spaces indent ++ ['-', ' '] ++ print (indent + 2) t.toList
  | .textMap, (m : OrderedMap String String) =>
    if m.toList.isEmpty then ' ' :: lineOf "\x7b\x7d"
    else '\n' :: m.toList.flatMap fun e =>
      spaces (indent + 2) ++ printKey e.1 ++ [':', ' '] ++ print (indent + 4) e.2.toList
  | .record .nil, _ => ' ' :: lineOf "\x7b\x7d"
  | .record (.cons name aliases required value rest), v =>
    '\n' :: (Fields.cons name aliases required value rest).lines (indent + 2) v

/-- The lines of the fields of a record. -/
def Fields.lines (indent : Nat) : (fs : Fields) → fs.Carrier → List Char
  | .nil, _ => []
  | .cons name _ _ value rest, v =>
    spaces indent ++ name.toList ++ ':' :: value.afterName indent v.1 ++ rest.lines indent v.2
end

/-- The written form of a value as a document of its own. -/
def Schema.toYaml : (s : Schema) → s.Carrier → String
  | .record (.cons name aliases required value rest), v =>
    String.ofList ((Fields.cons name aliases required value rest).lines 0 v)
  | s, v => String.ofList (s.afterName 0 v).tail

/-- The written form of a value as a document of its own. -/
def Model.toYaml {α : Type} (m : Model α) (a : α) : String :=
  m.schema.toYaml (m.pack a)

end Fleet
