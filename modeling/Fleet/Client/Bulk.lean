import Fleet.Client.Write

/-!
# Deleting many

All matches are read before the first is deleted, and one that cannot be deleted does not keep the
others.

* `DeleteReport`: what became of each match.
* `Client.deleteManyDetailed`, `Client.deleteMany`, `Client.deleteAll`.
-/

namespace Fleet

/-- What became of the matches of a deletion. -/
structure DeleteReport where
  /-- The ids of the deleted ones, in order. -/
  deleted : List String
  /-- Why each of the others was not deleted. -/
  failed : OrderedMap String Error
  deriving DecidableEq, Repr

namespace DeleteReport

/-- Nothing was tried. -/
def empty : DeleteReport := ⟨[], ∅⟩

/-- How many were deleted. -/
def deletedCount (r : DeleteReport) : Nat := r.deleted.length

/-- How many were tried. -/
def attempted (r : DeleteReport) : Nat := r.deleted.length + r.failed.size

/-- None failed. -/
def isComplete (r : DeleteReport) : Bool := r.failed.toList.isEmpty

end DeleteReport

namespace Client

variable (c : Client) (K : Kind)

/-- Delete resources one after the other. -/
def deleteEach (report : DeleteReport) : List (Resource K) → Plan DeleteReport
  | [] => .done (.ok report)
  | r :: rs => do
    match ← (c.delete K r.id (some r.metadata.ns)).attempt with
    | .ok () => deleteEach { report with deleted := report.deleted ++ [r.id] } rs
    | .error e =>
      Plan.tell .bulkDeleteFailure
      deleteEach { report with failed := report.failed.insert r.id e } rs

/-- Delete all that a selector accepts, and report on each. -/
def deleteManyDetailed (selector : String) (ns : Option String) : Plan DeleteReport := do
  let type ← c.wireName K
  c.refuseWrite WriteAction.deleteMany.operation type
  let rs ← c.listAll K { ns, selector }
  c.deleteEach K .empty rs

/-- Delete all that a selector accepts, and say how many. -/
def deleteMany (selector : String) (ns : Option String) : Plan Nat := do
  let report ← c.deleteManyDetailed K selector ns
  return report.deletedCount

/-- Delete everything of a kind in a namespace, and say how many. -/
def deleteAll (ns : Option String) : Plan Nat := c.deleteMany K "" ns

end Client

end Fleet
