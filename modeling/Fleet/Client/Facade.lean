import Fleet.Client.Bulk
import Fleet.Client.Document

/-!
# Facades

A facade is a client bound to one kind. Its writes are guarded by the action they declare before the
client's own guard. Machines can also be locked and unlocked.

* `Facade.guarded`: refuse a declared write in read-only mode.
* `Facade.lock`, `Facade.unlock`: set one flag of a machine; a flag already set is not written
  again.
-/

namespace Fleet

/-- A client bound to one kind. -/
structure Facade (K : Kind) where
  client : Client

namespace Facade

variable {K : Kind} (f : Facade K)

/-- Refuse a declared write in read-only mode, and count the refusal. -/
def refuse (a : WriteAction) : Plan Unit := do
  let type ← f.client.wireName K
  f.client.refuseWrite a.operation type

/-- A write that is refused in read-only mode. -/
def guarded {α : Type} (a : WriteAction) (p : Plan α) : Plan α := do
  f.refuse a
  p

/-- Fetch one resource. -/
def get (id : String) (ns : Option String) : Plan (Resource K) := f.client.get K id ns

/-- Open a list. -/
def list (o : ListOptions) : Plan ListStream := f.client.list K o

/-- Fetch everything a list yields. -/
def listAll (o : ListOptions) : Plan (List (Resource K)) := f.client.listAll K o

/-- Open a watch. -/
def watch (o : WatchOptions) : Plan WatchStream := f.client.watch K o

/-- Create a resource. -/
def create (r : Resource K) : Plan (Resource K) := f.guarded .create (f.client.create r)

/-- Replace a resource. -/
def update (r : Resource K) (version : Option String) : Plan (Resource K) :=
  f.guarded .update (f.client.update r version)

/-- Delete a resource. -/
def delete (id : String) (ns : Option String) : Plan Unit :=
  f.guarded .delete (f.client.delete K id ns)

/-- Create or replace a resource. -/
def apply (r : Resource K) (dryRun : Bool) : Plan (Resource K) :=
  f.guarded .apply (f.client.apply r dryRun)

/-- Apply the resource of a YAML document. -/
def applyYaml (text : String) (dryRun : Bool) : Plan (Resource K) :=
  f.guarded .apply (f.client.applyYaml K text dryRun)

/-- Apply the resource of a file. -/
def applyFile (name : String) (content : Except FileFault String) (dryRun : Bool) :
    Plan (Resource K) :=
  f.guarded .apply (f.client.applyFile K name content dryRun)

/-- Delete all that a selector accepts, and report on each. -/
def deleteMany (selector : String) (ns : Option String) : Plan DeleteReport :=
  f.guarded .deleteMany (f.client.deleteManyDetailed K selector ns)

/-- Delete everything in a namespace, and say how many. -/
def deleteAll (ns : Option String) : Plan Nat :=
  f.guarded .deleteMany (f.client.deleteAll K ns)

/-- The description of a facade: its kind. -/
def description (_f : Facade K) : String :=
  "KindClient \x7b kind: " ++ Text.quote K.label ++ " \x7d"

/-- Set the lock of a machine. One that is already set is not written again. -/
def setLocked (f : Facade .machine) (a : WriteAction) (id : String) (ns : Option String)
    (locked : Bool) : Plan (Resource .machine) :=
  f.guarded a do
    let m ← f.client.get .machine id ns
    let status : MachineStatus := Option.getD m.status Kind.machine.defaultStatus
    if status.locked == locked then return { m with status := some status }
    else f.client.update { m with status := some { status with locked } } none

/-- Lock a machine. -/
def lock (f : Facade .machine) (id : String) (ns : Option String) : Plan (Resource .machine) :=
  f.setLocked .lock id ns true

/-- Unlock a machine. -/
def unlock (f : Facade .machine) (id : String) (ns : Option String) : Plan (Resource .machine) :=
  f.setLocked .unlock id ns false

end Facade

end Fleet
