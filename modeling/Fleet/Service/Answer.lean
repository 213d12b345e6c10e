import Fleet.Service.Feed

/-!
# Answering calls

The six calls on a store. A call is counted first; an injected fault comes before all else; a call
that fails changes nothing but its count.

* `Request`: a call with the type of its answer.
* `Store.answer`: the answer to a call, and the store after it.
* `Store.handle`: the same with the call counted.
-/

namespace Fleet

open Text

/-- A call on the service, by the type of its answer. -/
inductive Request : Type → Type where
  | get (key : Key) : Request WireResource
  | list (q : ListQuery) : Request (List WireResource)
  | watch (q : WatchQuery) : Request Subscription
  | create (r : WireResource) : Request WireResource
  /-- Replace a resource that still has the given version. -/
  | update (r : WireResource) (version : String) : Request WireResource
  | destroy (key : Key) : Request Unit

namespace Request

variable {α : Type}

/-- The verb of a call. -/
def verb : Request α → Verb
  | get _ => .get
  | list _ => .list
  | watch _ => .watch
  | create _ => .create
  | update _ _ => .update
  | destroy _ => .destroy

/-- The id that a call is addressed to, by which faults are injected. -/
def address : Request α → String
  | get key | destroy key => key.id
  | list _ => ""
  | watch q => q.id.getD ""
  | create r | update r _ => r.metadata.id

end Request

/-- There is no such resource. -/
def missing (k : Key) : Status := ⟨.notFound, "resource " ++ k.text ++ " doesn't exist"⟩

/-- The resource exists already. -/
def occupied (k : Key) : Status := ⟨.alreadyExists, "resource " ++ k.text ++ " already exists"⟩

/-- The stored version is not the expected one. -/
def outdated (k : Key) (expected actual : String) : Status :=
  ⟨.aborted, "resource " ++ k.text ++ " update conflict: expected version " ++ quote expected ++
    ", actual version " ++ quote actual⟩

/-- Finalizers keep the resource from being destroyed. -/
def pinned (k : Key) (finalizers : List String) : Status :=
  ⟨.failedPrecondition, "resource " ++ k.text ++ " has pending finalizers " ++
    quoteList finalizers⟩

namespace Store

/-- The stored resource of a key. -/
def find (s : Store) (k : Key) : Except Status WireResource :=
  match s.resources.get? k with
  | some r => .ok r
  | none => .error (missing k)

/-- Put a resource under its key and publish what happened. -/
def put (s : Store) (kind : EventKind) (old : Option WireResource) (r : WireResource) : Store :=
  let k := Key.of r.metadata
  let s := { s with resources := s.resources.insert k r }
  s.publish ⟨kind, r, old, s.total k.ns k.type⟩

/-- Remove a resource and publish that it is gone. -/
def remove (s : Store) (k : Key) (r : WireResource) : Store :=
  let s := { s with resources := s.resources.erase k }
  s.publish ⟨.destroyed, r, none, s.total k.ns k.type⟩

/-- A new resource as it is stored: version one, running, created now. -/
def asCreated (now : WireTime) (r : WireResource) : WireResource :=
  { r with metadata :=
    { r.metadata with version := "1", created := some now, updated := some now, phase := 0 } }

/-- A replaced resource as it is stored: the next version, created when the old one was. -/
def asUpdated (now : WireTime) (old r : WireResource) : WireResource :=
  { r with metadata :=
    { r.metadata with
      version := nextVersion old.metadata.version
      created := old.metadata.created
      updated := some now } }

/-- Create a resource that is not there yet. -/
def create (s : Store) (now : WireTime) (r : WireResource) : Except Status WireResource × Store :=
  let k := Key.of r.metadata
  if s.resources.contains k then (.error (occupied k), s)
  else
    let stored := asCreated now r
    (.ok stored, s.put .created none stored)

/-- Replace a resource if it still has the expected version. -/
def update (s : Store) (now : WireTime) (r : WireResource) (version : String) :
    Except Status WireResource × Store :=
  let k := Key.of r.metadata
  match s.find k with
  | .error e => (.error e, s)
  | .ok old =>
    if old.metadata.version != version then
      (.error (outdated k version old.metadata.version), s)
    else
      let stored := asUpdated now old r
      (.ok stored, s.put .updated (some old) stored)

/-- Destroy a resource that no finalizer keeps. -/
def destroy (s : Store) (k : Key) : Except Status Unit × Store :=
  match s.find k with
  | .error e => (.error e, s)
  | .ok r =>
    if r.metadata.finalizers.isEmpty then (.ok (), s.remove k r)
    else (.error (pinned k r.metadata.finalizers), s)

/-- List what a query asks for. -/
def list (s : Store) (q : ListQuery) : Except Status (List WireResource) := do
  return q.select (← q.check) s.resources

/-- Subscribe to what a query asks for. -/
def watch (s : Store) (q : WatchQuery) : Except Status Subscription := do
  return .start s q (← selectorOf q.selector)

/-- The answer to a call that no fault meets. -/
def perform {α : Type} (s : Store) (now : WireTime) : Request α → Except Status α × Store
  | .get k => (s.find k, s)
  | .list q => (s.list q, s)
  | .watch q => (s.watch q, s)
  | .create r => s.create now r
  | .update r version => s.update now r version
  | .destroy k => s.destroy k

/-- The answer to a call that has been counted. -/
def answer {α : Type} (s : Store) (now : WireTime) (r : Request α) : Except Status α × Store :=
  match s.fault? r.verb r.address with
  | some status => (.error status, s)
  | none => s.perform now r

/-- Count a call and answer it. -/
def handle {α : Type} (s : Store) (now : WireTime) (r : Request α) : Except Status α × Store :=
  (s.count r.verb).answer now r

end Store

end Fleet
