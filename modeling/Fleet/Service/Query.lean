import Fleet.Pattern.Parser
import Fleet.Service.Store
import Fleet.Text.Case

/-!
# Queries

What a list asks for and how the answer is put together: resources of a namespace and type that
satisfy a selector, a pattern on the id and search terms, sorted and cut to a page.

* `IdPattern`: a pattern on ids, with what it matches.
* `ListQuery.check`: the filters of a query, if they can be read.
* `ListQuery.select`: the answer.
-/

namespace Fleet

open Text

/-- What a list is sorted by. -/
inductive SortField where
  | id | created | updated
  deriving DecidableEq, Repr

namespace SortField

/-- The name of a field. -/
def text : SortField → String
  | id => "Id"
  | created => "Created"
  | updated => "Updated"

/-- The field of a name in lower case. -/
def ofName? (s : String) : Option SortField :=
  [id, created, updated].find? fun f => lower f.text == s

end SortField

/-- A pattern on ids: its text, and what it matches if it is a pattern. How patterns are read is up
to a library of regular expressions. -/
structure IdPattern where
  text : String
  accepts? : Option (String → Bool)

namespace IdPattern

/-- A text, read as `Pattern` reads it. -/
def ofText (text : String) : IdPattern := ⟨text, (Pattern.parse? text).map Pattern.accepts⟩

instance : Coe String IdPattern := ⟨ofText⟩
instance : Coe IdPattern String := ⟨text⟩

end IdPattern

/-- What a list asks for. -/
structure ListQuery where
  ns : String
  type : String
  selector : String
  idPattern : Option IdPattern
  offset : Nat
  /-- At most so many; zero for no limit. -/
  limit : Nat
  sortBy : Option SortField
  /-- Turn the sorted list around. -/
  descending : Bool
  search : List String

/-- A call with an argument that the service refuses. -/
def refused (reason : String) : Status := ⟨.invalidArgument, reason⟩

/-- The selector of a call. -/
def selectorOf (s : String) : Except Status Selector :=
  match Selector.parse s with
  | .ok sel => .ok sel
  | .error fault => .error (refused (Error.invalidArgument fault).message)

/-- What the pattern of a call matches; an empty one matches everything. -/
def patternOf (p : Option IdPattern) : Except Status (Option (String → Bool)) :=
  match p.filter (!·.text.isEmpty) with
  | none => .ok none
  | some p =>
    match p.accepts? with
    | some accepts => .ok (some accepts)
    | none => .error (refused ("invalid id pattern: " ++ patternReason))

/-- A search term occurs, whatever the case, in the id or in the value of a label. -/
def WireResource.satisfies (r : WireResource) (term : String) : Bool :=
  let term := (lower term).toList
  occursIn term (lower r.metadata.id).toList ||
    r.metadata.labels.values.any fun v => occursIn term (lower v).toList

/-- A resource without a time comes before those with one. -/
def compareTimes : Option WireTime → Option WireTime → Ordering
  | none, none => .eq
  | none, some _ => .lt
  | some _, none => .gt
  | some a, some b => (compare a.seconds b.seconds).then (compare a.nanos b.nanos)

/-- The order of a list: by a field, then by id. -/
def SortField.order (f : SortField) (a b : WireResource) : Ordering :=
  let main := match f with
    | .id => compare a.metadata.id b.metadata.id
    | .created => compareTimes a.metadata.created b.metadata.created
    | .updated => compareTimes a.metadata.updated b.metadata.updated
  main.then (compare a.metadata.id b.metadata.id)

namespace ListQuery

/-- The filters of a query. -/
structure Filters where
  selector : Selector
  pattern : Option (String → Bool)

/-- The filters of a query, if they can be read. -/
def check (q : ListQuery) : Except Status Filters := do
  return ⟨← selectorOf q.selector, ← patternOf q.idPattern⟩

/-- A stored resource is asked for. -/
def admits (q : ListQuery) (f : Filters) (k : Key) (r : WireResource) : Bool :=
  k.ns == q.ns && k.type == q.type && f.selector.accepts r.metadata.labels &&
    f.pattern.all (· r.metadata.id) && q.search.all r.satisfies

/-- Sort a list as the query says; without a field it stays in the order of keys. -/
def sort (q : ListQuery) (rs : List WireResource) : List WireResource :=
  match q.sortBy with
  | none => rs
  | some f =>
    let sorted := rs.mergeSort fun a b => (f.order a b).isLE
    if q.descending then sorted.reverse else sorted

/-- Cut a list to the page the query asks for. -/
def page (q : ListQuery) (rs : List WireResource) : List WireResource :=
  let rest := rs.drop q.offset
  if q.limit == 0 then rest else rest.take q.limit

/-- All that is asked for, in order. -/
def matching (q : ListQuery) (f : Filters) (m : OrderedMap Key WireResource) :
    List WireResource :=
  (m.toList.filter fun e => q.admits f e.1 e.2).map (·.2)

/-- The answer to a query. -/
def select (q : ListQuery) (f : Filters) (m : OrderedMap Key WireResource) : List WireResource :=
  q.page (q.sort (q.matching f m))

end ListQuery

end Fleet
