import Fleet.Client.Basic

/-!
# Reading

* `Client.get`: one resource.
* `Client.list`, `Client.listAll`: a stream of all that match, or all of them at once.
* `Client.watch`: a stream of changes.
-/

namespace Fleet.Client

variable (c : Client) (K : Kind)

/-- Fetch one resource. -/
def get (id : String) (ns : Option String) : Plan (Resource K) :=
  if id.isEmpty then .fail (emptyId K)
  else do
    let type ← c.wireName K
    let w ← Plan.request (.get ⟨c.resolve ns, type, id⟩)
    decode K w

/-- Open a list. Its deadline is that of the call. -/
def list (o : ListOptions) : Plan ListStream := do
  let type ← c.wireName K
  Plan.ofExcept (checkFilters o.selector o.idPattern)
  let q : ListQuery := ⟨c.resolve o.ns, type, o.selector, o.idPattern, o.offset, o.limit, o.sortBy,
    o.descending, o.search⟩
  let (source, deadline) ← Plan.openList q o.token .done
  return ⟨source, ⟨Verb.list.text, o.token, some deadline, c.config.timeout⟩⟩

/-- Open a watch. It has no deadline. -/
def watch (o : WatchOptions) : Plan WatchStream := do
  let type ← c.wireName K
  Plan.ofExcept (checkFilters o.selector none)
  if o.id == some "" then Plan.fail (emptyId K)
  else
    let source ← Plan.openWatch ⟨c.resolve o.ns, type, o.selector, o.id, o.tail⟩ o.token .done
    return ⟨source, ⟨Verb.watch.text, o.token, none, c.config.timeout⟩⟩

/-- Read resources that were received. -/
def decodeAll (K : Kind) : List WireResource → Plan (List (Resource K))
  | [] => .done (.ok [])
  | w :: ws => do
    let r ← decode K w
    let rs ← decodeAll K ws
    return r :: rs

/-- End with the error of a stream, if it has one. -/
def conclude {α : Type} (g : Guard) (e : Ending) (a : α) : Plan α :=
  match e, g.errorOf? e with
  | .cancelled, some error => .note .cancelledStream (.fail error)
  | _, some error => .fail error
  | _, none => .done (.ok a)

/-- Fetch everything a list yields; an error of the stream is the result. -/
def listAll (o : ListOptions) : Plan (List (Resource K)) := do
  let s ← c.list K o
  let (ws, ending) ← Plan.collect s fun r => .done (.ok r)
  let rs ← decodeAll K ws
  conclude s.guard ending rs

end Fleet.Client
