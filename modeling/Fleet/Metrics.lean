import Fleet.Error
import Fleet.Text.Ratio
import Fleet.Verb

/-!
# Metrics

What a client counts: requests and failures for each verb, and a few events of its own.

* `Metrics.request`, `Metrics.failure`: count a request and how it failed.
* `Metrics.note`: count an event.
-/

namespace Fleet

/-- The counts of one verb. -/
structure Tally where
  requests : Nat
  failures : Nat
  /-- Failures by a deadline that passed. -/
  deadlines : Nat
  /-- Failures by a conflict over the present state. -/
  conflicts : Nat
  deriving DecidableEq, Repr

namespace Tally

/-- Nothing counted. -/
def zero : Tally := ⟨0, 0, 0, 0⟩

/-- Count a request. -/
def request (t : Tally) : Tally := { t with requests := t.requests + 1 }

/-- Count a failure. -/
def failure (t : Tally) (e : Error) : Tally where
  requests := t.requests
  failures := t.failures + 1
  deadlines := t.deadlines + if e.isDeadlineExceeded then 1 else 0
  conflicts := t.conflicts + if e.isConflict then 1 else 0

/-- The share of failures with six decimals. -/
def failureRatio (t : Tally) : String := Text.ratioText t.failures t.requests

end Tally

/-- An event that a client counts. -/
inductive Notice where
  /-- A write was refused in read-only mode. -/
  | rejectedWrite
  /-- So many states could not be read and were replaced. -/
  | lostStates (n : Nat)
  /-- One resource of many could not be deleted. -/
  | bulkDeleteFailure
  /-- A stream was ended by its caller. -/
  | cancelledStream
  deriving DecidableEq, Repr

/-- All that a client counts. -/
structure Metrics where
  verbs : PerVerb Tally
  rejectedWrites : Nat
  decodeFallbacks : Nat
  bulkDeleteFailures : Nat
  cancelledStreams : Nat
  deriving DecidableEq, Repr

namespace Metrics

/-- Nothing counted. -/
def zero : Metrics := ⟨.const .zero, 0, 0, 0, 0⟩

instance : Inhabited Metrics := ⟨zero⟩

/-- Count a request. -/
def request (m : Metrics) (v : Verb) : Metrics :=
  { m with verbs := m.verbs.modify v Tally.request }

/-- Count a failure. -/
def failure (m : Metrics) (v : Verb) (e : Error) : Metrics :=
  { m with verbs := m.verbs.modify v (·.failure e) }

/-- Count an event. -/
def note (m : Metrics) : Notice → Metrics
  | .rejectedWrite => { m with rejectedWrites := m.rejectedWrites + 1 }
  | .lostStates n => { m with decodeFallbacks := m.decodeFallbacks + n }
  | .bulkDeleteFailure => { m with bulkDeleteFailures := m.bulkDeleteFailures + 1 }
  | .cancelledStream => { m with cancelledStreams := m.cancelledStreams + 1 }

/-- All requests. -/
def totalRequests (m : Metrics) : Nat := (m.verbs.map Tally.requests).total

/-- All failures. -/
def totalFailures (m : Metrics) : Nat := (m.verbs.map Tally.failures).total

end Metrics

end Fleet
