import Fleet.Client.Read

/-!
# Writing

Every write is refused in read-only mode before anything else is looked at.

* `Client.create`, `Client.update`, `Client.delete`: the writes of the service.
* `Client.apply`: create, or replace the version that was just read.
-/

namespace Fleet.Client

variable (c : Client) {K : Kind}

/-- A resource as it is sent: it needs an id, its type is that of the kind and its namespace is
resolved. Its status goes along only where `withStatus` holds. -/
def prepare (r : Resource K) (type : String) (withStatus : Bool) : Except Error WireResource :=
  if r.id.isEmpty then .error (emptyId K)
  else
    let w := r.toWire
    .ok { w with
      metadata := { w.metadata with type, ns := c.resolve (some r.metadata.ns) }
      status := if withStatus then w.status else .absent }

variable {c} in
/-- What a resource is sent as: under its key, with the states that it has. -/
theorem prepare_eq_ok {r : Resource K} {type : String} {withStatus : Bool} {w : WireResource}
    (h : c.prepare r type withStatus = .ok w) :
    Key.of w.metadata = ⟨c.resolve (some r.metadata.ns), type, r.id⟩ ∧
      w.spec = .encode K.spec r.spec ∧
      w.status = if withStatus then r.toWire.status else .absent := by
  unfold prepare at h
  split at h
  · cases h
  · cases h
    exact ⟨rfl, rfl, rfl⟩

/-- Create a resource. -/
def create (r : Resource K) : Plan (Resource K) := do
  let type ← c.wireName K
  c.refuseWrite WriteAction.create.operation type
  let w ← Plan.ofExcept (c.prepare r type false)
  let stored ← Plan.request (.create w)
  decode K stored

/-- Replace a resource that still has a version, its own if none is given. -/
def update (r : Resource K) (version : Option String) : Plan (Resource K) := do
  let type ← c.wireName K
  c.refuseWrite WriteAction.update.operation type
  let w ← Plan.ofExcept (c.prepare r type true)
  let stored ← Plan.request (.update w (version.getD r.version))
  decode K stored

/-- Delete a resource. -/
def delete (K : Kind) (id : String) (ns : Option String) : Plan Unit := do
  let type ← c.wireName K
  c.refuseWrite WriteAction.delete.operation type
  if id.isEmpty then Plan.fail (emptyId K)
  else Plan.request (.destroy ⟨c.resolve ns, type, id⟩)

/-- Create a resource, or replace the version that was just read; a resource without status takes
the one it replaces. A dry run ends after reading. -/
def apply (r : Resource K) (dryRun : Bool) : Plan (Resource K) := do
  let type ← c.wireName K
  c.refuseWrite WriteAction.apply.operation type
  match ← (c.get K r.id (some r.metadata.ns)).attempt with
  | .ok existing =>
    if dryRun then return r
    else
      let desired := { r with status := r.status.orElse fun _ => existing.status }
      c.update desired (some existing.version)
  | .error e =>
    if !e.isNotFound then Plan.fail e
    else if dryRun then return r
    else c.create r

end Fleet.Client
