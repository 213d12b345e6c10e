import Fleet.Metadata
import Fleet.Wire.Payload

/-!
# Resources on the wire

The form in which the service stores and sends resources. Times and phases are plain numbers there,
so some have no counterpart in `Metadata`.

* `Timestamp.ofWire?`, `Phase.ofWire`: reading them.
* `WireMetadata.ofMetadata`, `WireMetadata.toMetadata`: from metadata and to it.
-/

namespace Fleet

/-- A time in seconds and nanoseconds since 1970. -/
structure WireTime where
  seconds : Int
  nanos : Int
  deriving DecidableEq, Repr, Inhabited

/-- One time is before another, by seconds and then by nanoseconds. -/
def WireTime.before (a b : WireTime) : Bool :=
  a.seconds < b.seconds || (a.seconds == b.seconds && a.nanos < b.nanos)

/-- Metadata on the wire. -/
structure WireMetadata where
  ns : String
  type : String
  id : String
  version : String
  owner : String
  phase : Int
  created : Option WireTime
  updated : Option WireTime
  finalizers : List String
  labels : Labels
  annotations : Labels
  deriving DecidableEq, Repr

/-- A resource on the wire. -/
structure WireResource where
  metadata : WireMetadata
  spec : Payload
  status : Payload
  deriving DecidableEq, Repr

/-- The timestamp of a time on the wire, where there is one. -/
def Timestamp.ofWire? (t : WireTime) : Option Timestamp :=
  if t.nanos < 0 then none else Timestamp.of? t.seconds t.nanos.toNat

/-- The form of a timestamp on the wire. -/
def Timestamp.toWire (t : Timestamp) : WireTime := ⟨t.seconds, t.nanos⟩

/-- The phase of a number: one stands for tearing down, every other number for running. -/
def Phase.ofWire (n : Int) : Phase := if n = 1 then tearingDown else running

/-- The number of a phase. -/
def Phase.toWire : Phase → Int
  | running => 0
  | tearingDown => 1

namespace WireMetadata

/-- Metadata as sent. -/
def ofMetadata (m : Metadata) : WireMetadata where
  ns := m.ns
  type := m.type
  id := m.id
  version := m.version
  owner := m.owner
  phase := m.phase.toWire
  created := m.created.map Timestamp.toWire
  updated := m.updated.map Timestamp.toWire
  finalizers := m.finalizers
  labels := m.labels
  annotations := m.annotations

/-- Metadata as received. -/
def toMetadata (w : WireMetadata) : Metadata where
  ns := w.ns
  type := w.type
  id := w.id
  version := w.version
  owner := w.owner
  phase := Phase.ofWire w.phase
  created := w.created.bind Timestamp.ofWire?
  updated := w.updated.bind Timestamp.ofWire?
  finalizers := w.finalizers
  labels := w.labels
  annotations := w.annotations

end WireMetadata

/-- What happened to a resource. -/
inductive EventKind where
  | created | updated | destroyed | bootstrapped | unknown
  deriving DecidableEq, Repr

namespace EventKind

/-- All kinds of events. -/
def all : List EventKind := [created, updated, destroyed, bootstrapped, unknown]

/-- The name of a kind of event. -/
def text : EventKind → String
  | created => "created"
  | updated => "updated"
  | destroyed => "destroyed"
  | bootstrapped => "bootstrapped"
  | unknown => "unknown"

/-- The name of a kind of event in documents. -/
def name : EventKind → String
  | created => "Created"
  | updated => "Updated"
  | destroyed => "Destroyed"
  | bootstrapped => "Bootstrapped"
  | unknown => "Unknown"

/-- The kind of event of a name. -/
def ofName? (s : String) : Option EventKind := all.find? (·.name == s)

end EventKind

/-- An event on the wire. -/
structure WireEvent where
  kind : EventKind
  resource : WireResource
  /-- What the resource was before an update. -/
  old : Option WireResource
  /-- How many resources of its namespace and type there are after the event. -/
  total : Int
  deriving DecidableEq, Repr

end Fleet
