import Fleet.Client.Write
import Fleet.Json.Parser
import Fleet.Schema.Json

/-!
# Applying documents

A document holds the metadata and the desired state of a resource, as YAML or JSON. It is read
completely before anything is sent.

* `Document.ofYaml`, `Document.ofJson`, `Document.ofYamlStream`: the resources of documents.
* `Client.applyYaml`, `Client.applyYamlDocuments`, `Client.applyFile`: apply them.
-/

namespace Fleet

namespace Document

variable (K : Kind)

/-- The shape of a document. -/
def model : Model (Metadata × K.Spec) where
  schema := .record (.field "metadata" Metadata.model.schema
    (.field "spec" K.spec.schema .nil))
  pack d := (Metadata.model.pack d.1, K.spec.pack d.2, ())
  unpack c := (Metadata.model.unpack c.1, K.spec.unpack c.2.1)
  unpack_pack d := by
    show (Metadata.model.unpack (Metadata.model.pack d.1), K.spec.unpack (K.spec.pack d.2)) = d
    rw [Metadata.model.unpack_pack, K.spec.unpack_pack]
  pack_unpack c := by
    show (Metadata.model.pack (Metadata.model.unpack c.1), K.spec.pack (K.spec.unpack c.2.1), ()) =
      c
    rw [Metadata.model.pack_unpack, K.spec.pack_unpack]
    rfl

/-- The resource of a document, which must not declare another type and must have an id. -/
def resource (source wireName : String) (d : Metadata × K.Spec) : Except Error (Resource K) :=
  let declared := d.1.type
  if !declared.isEmpty && declared != wireName then
    .error (.document source (.wrongKind declared K.label wireName))
  else if d.1.id.isEmpty then .error (.document source .noId)
  else .ok ⟨d.1, d.2, none⟩

/-- The resource of a document that could or could not be read. -/
def ofContent (source wireName : String) (d : Option (Metadata × K.Spec)) :
    Except Error (Resource K) :=
  match d with
  | some d => resource K source wireName d
  | none => .error (.document source .unreadable)

/-- The resource of a YAML document. -/
def ofYaml (source wireName text : String) : Except Error (Resource K) :=
  ofContent K source wireName ((model K).ofYaml? text)

/-- The resource of a JSON document. -/
def ofJson (source wireName text : String) : Except Error (Resource K) :=
  ofContent K source wireName ((Json.parse? text).bind (model K).ofJson?)

/-- The resources of the documents of a stream, the first of which has the number `n`. -/
def ofDocuments (source wireName : String) (n : Nat) :
    List (Option Yaml.Document) → Except Error (List (Resource K))
  | [] => .ok []
  | d :: ds => do
    let name := source ++ " (document " ++ Text.decimal n ++ ")"
    let r ← ofContent K name wireName (d.bind (model K).ofDocument?)
    return r :: (← ofDocuments source wireName (n + 1) ds)

/-- The resources of all documents of a YAML text. -/
def ofYamlStream (source wireName text : String) : Except Error (List (Resource K)) := do
  let rs ← ofDocuments K source wireName 1 (Yaml.documents text)
  if rs.isEmpty then .error (.document source .noDocuments) else return rs

/-- The file name ends in `.json`, in any case, after something else. -/
def isJsonName (name : String) : Bool :=
  let last := ((Text.splitOn '/' name.toList).getLast?).getD []
  let extension := (last.reverse.takeWhile (· != '.')).reverse
  let stem := last.length - extension.length
  1 < stem && extension.map Char.toLower == "json".toList

end Document

namespace Client

variable (c : Client) (K : Kind)

/-- Apply the resource of a YAML document. -/
def applyYaml (text : String) (dryRun : Bool) : Plan (Resource K) := do
  let type ← c.wireName K
  let r ← Plan.ofExcept (Document.ofYaml K "yaml document" type text)
  c.apply r dryRun

/-- Apply resources one after the other up to the first failure. -/
def applyEach (dryRun : Bool) : List (Resource K) → Plan (List (Resource K))
  | [] => .done (.ok [])
  | r :: rs => do
    let applied ← c.apply r dryRun
    let others ← applyEach dryRun rs
    return applied :: others

/-- Apply the resources of all documents of a YAML text, in order. -/
def applyYamlDocuments (text : String) (dryRun : Bool) : Plan (List (Resource K)) := do
  let type ← c.wireName K
  let rs ← Plan.ofExcept (Document.ofYamlStream K "yaml stream" type text)
  c.applyEach K dryRun rs

/-- Apply the resource of a file: a JSON document if its name says so, else a YAML document. -/
def applyFile (name : String) (content : Except FileFault String) (dryRun : Bool) :
    Plan (Resource K) := do
  let type ← c.wireName K
  let text ← Plan.ofExcept (content.mapError Error.file)
  let read := if Document.isJsonName name then Document.ofJson K else Document.ofYaml K
  let r ← Plan.ofExcept (read name type text)
  c.apply r dryRun

end Client

end Fleet
