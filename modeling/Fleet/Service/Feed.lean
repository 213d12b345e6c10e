import Fleet.Service.Query

/-!
# Feeds of events

A watch first tells the last events of the history that concern it, then every later one. A reader
that falls too far behind loses the oldest events.

* `Subscription.start`: subscribe at the present end of the published events.
* `Subscription.next?`: the next event that concerns the subscriber.
-/

namespace Fleet

/-- What a watch asks for. -/
structure WatchQuery where
  ns : String
  type : String
  selector : String
  id : Option String
  /-- How many events of the history are told first, at most. -/
  tail : Nat
  deriving DecidableEq, Repr

/-- An event concerns a watch. -/
def WatchQuery.admits (q : WatchQuery) (sel : Selector) (e : WireEvent) : Bool :=
  let m := e.resource.metadata
  m.ns == q.ns && m.type == q.type && q.id.all (m.id == ·) && sel.accepts m.labels

/-- A subscriber to the events of the service. -/
structure Subscription where
  query : WatchQuery
  selector : Selector
  /-- The events of the history that are still to be told. -/
  replay : List WireEvent
  /-- How many published events have been passed. -/
  cursor : Nat
  deriving DecidableEq, Repr

namespace Subscription

/-- How many unread events are kept for a subscriber. -/
def capacity : Nat := 256

/-- The last `n` elements. -/
def lastOf {α : Type} (n : Nat) (as : List α) : List α :=
  as.drop (as.length - n)

/-- Subscribe to what a store publishes from now on. -/
def start (s : Store) (q : WatchQuery) (sel : Selector) : Subscription :=
  ⟨q, sel, lastOf q.tail (s.history.filter (q.admits sel)), s.published.length⟩

/-- Where a reader of a sequence of events goes on: not further back than the capacity. -/
def resume (published : List WireEvent) (cursor : Nat) : Nat :=
  max cursor (published.length - capacity)

/-- The first event that concerns the subscriber, and how many were passed with it. -/
def firstOf (q : WatchQuery) (sel : Selector) : List WireEvent → Option WireEvent × Nat
  | [] => (none, 0)
  | e :: es =>
    if q.admits sel e then (some e, 1)
    else
      let r := firstOf q sel es
      (r.1, r.2 + 1)

/-- The next event that concerns the subscriber, if there is one yet. -/
def next? (published : List WireEvent) (s : Subscription) : Option WireEvent × Subscription :=
  match s.replay with
  | e :: es => (some e, { s with replay := es })
  | [] =>
    let cursor := resume published s.cursor
    let r := firstOf s.query s.selector (published.drop cursor)
    (r.1, { s with cursor := cursor + r.2 })

end Subscription

end Fleet
