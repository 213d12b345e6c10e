import Fleet.Json.Basic
import Fleet.Wire.Basic

/-!
# Wire resources as JSON

The members of metadata, `spec` and `status` stand side by side in one object. A member that is left
out is empty.

* `WireResource.toJson`, `WireResource.ofJson`.
* `WireEvent.ofJson`.
-/

namespace Fleet

open Text

namespace Json

/-- The text of a member; empty if there is none. -/
def textOf (j : Json) (name : String) : String := ((j.get name).str?).getD ""

/-- The natural number of a member; zero if there is none. -/
def natOf (j : Json) (name : String) : Nat := ((j.get name).nat?).getD 0

/-- The integer of a member; zero if there is none. -/
def intOf (j : Json) (name : String) : Int := ((j.get name).int?).getD 0

/-- The truth value of a member; false if there is none. -/
def flagOf (j : Json) (name : String) : Bool := ((j.get name).flag?).getD false

/-- The texts of a member. -/
def textsOf (j : Json) (name : String) : List String := (j.get name).items.filterMap str?

/-- The texts by name of a member. -/
def textMapOf (j : Json) (name : String) : OrderedMap String String :=
  match j.get name with
  | object ms => .ofList (ms.filterMap fun m => do return (← m.1, ← m.2.str?))
  | _ => ∅

/-- Texts by name. -/
def ofTextMap (m : OrderedMap String String) : Json :=
  obj (m.toList.map fun e => (e.1, str e.2))

end Json

namespace Payload

/-- A payload with a member for each of its forms. -/
def toJson : Payload → Json
  | absent => .null
  | text s => .obj [("text", .str s)]
  | binary bs => .obj [("binary", .str (hexOfBytes bs))]
  | both s bs => .obj [("binary", .str (hexOfBytes bs)), ("text", .str s)]

/-- The payload of a text and of bytes as they are. -/
def ofForms : Option String → Option Bytes → Payload
  | some s, some bs => both s bs
  | some s, none => .text s
  | none, some bs => .binary bs
  | none, none => absent

/-- Read a payload. -/
def ofJson (j : Json) : Payload :=
  ofForms (j.get "text").str? ((j.get "binary").str?.bind bytesOfHex?)

end Payload

/-- A time as its seconds and nanoseconds. -/
def WireTime.toJson (t : WireTime) : Json := .array [.int t.seconds, .int t.nanos]

/-- Read a time. -/
def WireTime.ofJson? (j : Json) : Option WireTime :=
  match j with
  | .array [s, n] => do return ⟨← s.int?, ← n.int?⟩
  | _ => none

namespace WireMetadata

/-- The members of metadata; `time` writes the times. -/
def members (time : WireTime → Json) (m : WireMetadata) : List (String × Json) :=
  [("namespace", .str m.ns), ("type", .str m.type), ("id", .str m.id), ("version", .str m.version),
    ("owner", .str m.owner), ("phase", .int m.phase), ("created", .opt time m.created),
    ("updated", .opt time m.updated), ("finalizers", .list .str m.finalizers),
    ("labels", .ofTextMap m.labels), ("annotations", .ofTextMap m.annotations)]

/-- Read metadata. -/
def ofJson (j : Json) : WireMetadata where
  ns := j.textOf "namespace"
  type := j.textOf "type"
  id := j.textOf "id"
  version := j.textOf "version"
  owner := j.textOf "owner"
  phase := j.intOf "phase"
  created := WireTime.ofJson? (j.get "created")
  updated := WireTime.ofJson? (j.get "updated")
  finalizers := j.textsOf "finalizers"
  labels := j.textMapOf "labels"
  annotations := j.textMapOf "annotations"

end WireMetadata

namespace WireResource

/-- A resource as one object; `time` writes the times. -/
def toJson (time : WireTime → Json) (r : WireResource) : Json :=
  .obj (r.metadata.members time ++ [("spec", r.spec.toJson), ("status", r.status.toJson)])

/-- Read a resource. -/
def ofJson (j : Json) : WireResource :=
  ⟨.ofJson j, .ofJson (j.get "spec"), .ofJson (j.get "status")⟩

end WireResource

namespace WireEvent

/-- Read an event. -/
def ofJson (j : Json) : WireEvent where
  kind := (EventKind.ofName? (j.textOf "kind")).getD .unknown
  resource := .ofJson (j.get "resource")
  old := match j.get "old" with
    | .null => none
    | o => some (.ofJson o)
  total := j.intOf "total"

end WireEvent

end Fleet
