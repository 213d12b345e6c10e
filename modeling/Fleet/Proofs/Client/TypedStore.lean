import Fleet.Client.Write
import Fleet.Proofs.Service.Version

/-!
# A typed store

What the client and the service come to together, without payloads, plans or sessions: a map from
namespace and id to resources of one kind.

* `Command`: the calls that are made of it.
* `TypedStore.step`: the answer to a call and the store after it, at a time.
* `TypedStore.run`: the answers to any number of calls.
-/

namespace Fleet

/-- Resources of one kind by namespace and id. -/
def TypedStore (K : Kind) : Type := String → String → Option (Resource K)

/-- What every call of a client brings along: the namespace of calls that give none, and the name of
the kind at the service. -/
structure Scope where
  defaultNamespace : String
  type : String

/-- The namespace of a call. -/
def Scope.resolve (x : Scope) (ns : Option String) : String :=
  match ns with
  | some ns => if ns.isEmpty then x.defaultNamespace else ns
  | none => x.defaultNamespace

/-- A call on a typed store. -/
inductive Command (K : Kind) where
  | get (id : String) (ns : Option String)
  | create (r : Resource K)
  | update (r : Resource K) (version : Option String)
  | delete (id : String) (ns : Option String)
  | apply (r : Resource K) (dryRun : Bool)

/-- The plan of a call. Only a delete has no resource to return. -/
def Command.plan {K : Kind} (c : Client) : Command K → Plan (Option (Resource K))
  | get id ns => some <$> c.get K id ns
  | create r => some <$> c.create r
  | update r version => some <$> c.update r version
  | delete id ns => (fun _ => none) <$> c.delete K id ns
  | apply r dryRun => some <$> c.apply r dryRun

namespace TypedStore

variable {K : Kind} (x : Scope) (now : Timestamp) (m : TypedStore K)

/-- Nothing is stored. -/
def empty : TypedStore K := fun _ _ => none

/-- Another content under one name. -/
def set (ns id : String) (r : Option (Resource K)) : TypedStore K := fun ns' id' =>
  if ns' = ns ∧ id' = id then r else m ns' id'

/-- Fetch a resource. -/
def get (id : String) (ns : Option String) : Except Error (Resource K) :=
  if id.isEmpty then .error (Client.emptyId K)
  else
    match m (x.resolve ns) id with
    | some r => .ok r
    | none => .error (.remote (missing ⟨x.resolve ns, x.type, id⟩))

/-- A new resource as it is stored: version one, running, created now, without status. -/
def asCreated (r : Resource K) : Resource K where
  metadata := { r.metadata with
    ns := x.resolve (some r.metadata.ns)
    type := x.type
    version := "1"
    phase := .running
    created := some now
    updated := some now }
  spec := r.spec
  status := none

/-- A replaced resource as it is stored: the next version, created when the old one was; its phase,
its desired and its reported state are the new ones. -/
def asUpdated (old r : Resource K) : Resource K where
  metadata := { r.metadata with
    ns := x.resolve (some r.metadata.ns)
    type := x.type
    version := Text.decimal ((versionNumber old.version + 1) % Text.wordLimit)
    created := old.metadata.created
    updated := some now }
  spec := r.spec
  status := r.status

/-- Create a resource that is not there yet. -/
def create (r : Resource K) : Except Error (Resource K) × TypedStore K :=
  let ns := x.resolve (some r.metadata.ns)
  if r.id.isEmpty then (.error (Client.emptyId K), m)
  else
    match m ns r.id with
    | some _ => (.error (.remote (occupied ⟨ns, x.type, r.id⟩)), m)
    | none => (.ok (asCreated x now r), m.set ns r.id (some (asCreated x now r)))

/-- Replace a resource that still has a version, its own if none is given. -/
def update (r : Resource K) (version : Option String) :
    Except Error (Resource K) × TypedStore K :=
  let ns := x.resolve (some r.metadata.ns)
  let version := version.getD r.version
  if r.id.isEmpty then (.error (Client.emptyId K), m)
  else
    match m ns r.id with
    | none => (.error (.remote (missing ⟨ns, x.type, r.id⟩)), m)
    | some old =>
      if old.version = version then
        (.ok (asUpdated x now old r), m.set ns r.id (some (asUpdated x now old r)))
      else (.error (.remote (outdated ⟨ns, x.type, r.id⟩ version old.version)), m)

/-- Delete a resource that no finalizer keeps. -/
def delete (id : String) (ns : Option String) : Except Error Unit × TypedStore K :=
  let ns := x.resolve ns
  if id.isEmpty then (.error (Client.emptyId K), m)
  else
    match m ns id with
    | none => (.error (.remote (missing ⟨ns, x.type, id⟩)), m)
    | some r =>
      if r.metadata.finalizers = [] then (.ok (), m.set ns id none)
      else (.error (.remote (pinned ⟨ns, x.type, id⟩ r.metadata.finalizers)), m)

/-- Create a resource, or replace the version that is there; a resource without status takes the one
it replaces. A dry run changes nothing and returns the resource as it was given. -/
def apply (r : Resource K) (dryRun : Bool) : Except Error (Resource K) × TypedStore K :=
  if r.id.isEmpty then (.error (Client.emptyId K), m)
  else if dryRun then (.ok r, m)
  else
    match m (x.resolve (some r.metadata.ns)) r.id with
    | none => create x now m r
    | some old =>
      update x now m { r with status := r.status.orElse fun _ => old.status } (some old.version)

/-- The answer to a call, and the store after it. -/
def step : Command K → Except Error (Option (Resource K)) × TypedStore K
  | .get id ns => ((get x m id ns).map some, m)
  | .create r => ((create x now m r).1.map some, (create x now m r).2)
  | .update r version => ((update x now m r version).1.map some, (update x now m r version).2)
  | .delete id ns => ((delete x m id ns).1.map fun _ => none, (delete x m id ns).2)
  | .apply r dryRun => ((apply x now m r dryRun).1.map some, (apply x now m r dryRun).2)

/-- The answers to calls with their times, in order, and the store after them. -/
def run (m : TypedStore K) :
    List (Command K × Timestamp) → List (Except Error (Option (Resource K))) × TypedStore K
  | [] => ([], m)
  | (a, now) :: as =>
    let (x₁, m) := step x now m a
    let (xs, m) := run m as
    (x₁ :: xs, m)

end TypedStore

end Fleet
