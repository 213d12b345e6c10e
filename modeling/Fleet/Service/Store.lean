import Fleet.Error
import Fleet.Verb
import Fleet.Wire.Basic

/-!
# The store of the service

The service holds resources by key, a bounded history of events, the whole sequence of events it has
published, and the counts of the calls it received.

* `Key`: namespace, type and id, which name a resource.
* `Store.publish`: record an event; the history keeps the last ones.
* `nextVersion`: the version after a version.
-/

namespace Fleet

open Text

/-- What names a resource. -/
structure Key where
  ns : String
  type : String
  id : String
  deriving DecidableEq, Repr

namespace Key

/-- Keys are ordered by namespace, then type, then id. -/
def order : Key → Key → Ordering :=
  compareLex (compareOn Key.ns) (compareLex (compareOn Key.type) (compareOn Key.id))

instance : Ord Key := ⟨order⟩

instance : Std.TransOrd Key :=
  inferInstanceAs (Std.TransCmp
    (compareLex (compareOn Key.ns) (compareLex (compareOn Key.type) (compareOn Key.id))))

/-- Two keys that compare as equal are the same. -/
theorem eq_of_compare {a b : Key} (h : compare a b = .eq) : a = b := by
  have h : order a b = .eq := h
  simp only [order, compareLex_eq_eq, compareOn, Std.LawfulEqOrd.compare_eq_iff_eq] at h
  cases a; cases b; simp_all

instance : Std.LawfulEqOrd Key := ⟨eq_of_compare⟩

/-- The key of a resource. -/
def of (m : WireMetadata) : Key := ⟨m.ns, m.type, m.id⟩

/-- The written form of a key. -/
def text (k : Key) : String := k.ns ++ "/" ++ k.type ++ "/" ++ k.id

end Key

/-- A call that an injected fault makes fail: its verb and the id it is addressed to. -/
structure Fault where
  verb : Verb
  id : String
  status : Status
  deriving DecidableEq, Repr

/-- What the service holds. -/
structure Store where
  resources : OrderedMap Key WireResource
  /-- The last events, oldest first. -/
  history : List WireEvent
  /-- Every event, oldest first. -/
  published : List WireEvent
  calls : PerVerb Nat
  /-- Injected faults, the latest first. -/
  faults : List Fault
  /-- How many events the history keeps. -/
  historyLimit : Nat
  deriving DecidableEq, Repr

namespace Store

/-- A store that holds nothing. -/
def empty (historyLimit : Nat) : Store :=
  ⟨∅, [], [], .const 0, [], historyLimit⟩

/-- How many events a store keeps that sets no limit. -/
def defaultHistoryLimit : Nat := 1024

instance : Inhabited Store := ⟨empty defaultHistoryLimit⟩

/-- Count a call. -/
def count (s : Store) (v : Verb) : Store :=
  { s with calls := s.calls.modify v (· + 1) }

/-- The status that a call is made to fail with. -/
def fault? (s : Store) (v : Verb) (id : String) : Option Status :=
  (s.faults.find? fun f => f.verb == v && f.id == id).map (·.status)

/-- Make calls of a verb that are addressed to an id fail. -/
def injectFault (s : Store) (f : Fault) : Store :=
  { s with faults := f :: s.faults }

/-- Take back every injected fault. -/
def clearFaults (s : Store) : Store := { s with faults := [] }

/-- Store a resource as it is, without version or event. -/
def insertRaw (s : Store) (r : WireResource) : Store :=
  { s with resources := s.resources.insert (.of r.metadata) r }

/-- How many resources of a namespace and type there are. -/
def countOf (s : Store) (ns type : String) : Nat :=
  (s.resources.keys.filter fun k => k.ns == ns && k.type == type).length

/-- The same as events tell it: in a word of thirty-two bits with a sign. -/
def total (s : Store) (ns type : String) : Int :=
  (s.countOf ns type : Int).bmod 4294967296

/-- Record an event. A history that is full gives up its oldest one. -/
def publish (s : Store) (e : WireEvent) : Store :=
  let kept := if s.history.length == s.historyLimit then s.history.tail else s.history
  { s with
    history := if s.historyLimit == 0 then s.history else kept ++ [e]
    published := s.published ++ [e] }

end Store

/-- The version after a version: the next number of sixty-four bits, which is zero after the last
one, or one after a text that is no such number. -/
def nextVersion (version : String) : String :=
  match word64? version.toList with
  | some n => decimal ((n + 1) % wordLimit)
  | none => "1"

end Fleet
