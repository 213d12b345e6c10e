import Fleet.Metrics
import Fleet.Service.Answer
import Fleet.Stream.Guard

/-!
# Plans

What an operation of a client does, as data: the calls it makes, in order and each depending on the
answers before, the events it counts, and its result. A plan that ends without a call never leaves
the client.

* `Plan.bind`: one plan after another; the first failure ends both.
* `Plan.attempt`: a plan that hands its failure on as a value.
* `Plan.isLocal`: no call comes before the end.
-/

namespace Fleet

/-- What an operation of a client does. -/
inductive Plan (α : Type) : Type 1 where
  /-- The result. -/
  | done (r : Except Error α)
  /-- Count an event. -/
  | note (n : Notice) (rest : Plan α)
  /-- Make a call. -/
  | call {β : Type} (r : Request β) (rest : Except Error β → Plan α)
  /-- Open a list; the answer has the deadline of the call. -/
  | openList (q : ListQuery) (token : Option Token)
      (rest : Except Error (ListSource × Time) → Plan α)
  /-- Open a watch. -/
  | openWatch (q : WatchQuery) (token : Option Token) (rest : Except Error WatchSource → Plan α)
  /-- Read a list to its end. -/
  | collect (s : ListStream) (rest : List WireResource × Ending → Plan α)

namespace Plan

variable {α β : Type}

/-- One plan after another; the first failure ends both. -/
def bind : Plan α → (α → Plan β) → Plan β
  | done (.ok a), f => f a
  | done (.error e), _ => done (.error e)
  | note n p, f => note n (p.bind f)
  | call r rest, f => call r fun x => (rest x).bind f
  | openList q t rest, f => openList q t fun x => (rest x).bind f
  | openWatch q t rest, f => openWatch q t fun x => (rest x).bind f
  | collect s rest, f => collect s fun x => (rest x).bind f

instance : Monad Plan where
  pure a := done (.ok a)
  bind := bind

/-- A plan that hands its failure on as a value. -/
def attempt : Plan α → Plan (Except Error α)
  | done r => done (.ok r)
  | note n p => note n p.attempt
  | call r rest => call r fun x => (rest x).attempt
  | openList q t rest => openList q t fun x => (rest x).attempt
  | openWatch q t rest => openWatch q t fun x => (rest x).attempt
  | collect s rest => collect s fun x => (rest x).attempt

/-- Fail. -/
def fail (e : Error) : Plan α := done (.error e)

/-- A result that needs no call. -/
def ofExcept (r : Except Error α) : Plan α := done r

/-- Count an event. -/
def tell (n : Notice) : Plan Unit := note n (done (.ok ()))

/-- Make a call and go on with its answer. -/
def request (r : Request α) : Plan α := call r done

/-- No call comes before the end. -/
def isLocal : Plan α → Bool
  | done _ => true
  | note _ p => p.isLocal
  | _ => false

end Plan

end Fleet
