import Fleet.Stream.Source

/-!
# Guarded streams

A stream ends early when its caller cancels it or its deadline passes. At each item the token is
looked at first, then the deadline, then the source; a token that is cancelled while the source
answers still wins over the item.

* `Guard.step`: what a guarded stream yields.
* `Guard.errorOf?`: the error that a stream ends with.
-/

namespace Fleet

/-- What watches over a stream. -/
structure Guard where
  /-- The operation that errors name. -/
  operation : String
  token : Option Token
  deadline : Option Time
  timeout : Span
  deriving DecidableEq, Repr

/-- How a guarded stream ends. -/
inductive Ending where
  | finished
  /-- The source failed. -/
  | failed (e : Error)
  | cancelled
  | expired
  deriving DecidableEq, Repr

/-- What a guarded stream yields when it is asked for an item. -/
inductive Guarded (α : Type) where
  | item (a : α)
  | pending (wake : Option Time)
  | ended (e : Ending)
  deriving Repr

namespace Guard

variable {α : Type}

/-- The token is among the cancelled ones. -/
def isCancelled (g : Guard) (cancelled : List Token) : Bool :=
  g.token.any cancelled.contains

/-- The deadline has passed. -/
def isExpired (g : Guard) (now : Time) : Bool :=
  g.deadline.any (· ≤ now)

/-- What a guarded stream yields, by whether it was cancelled before, whether it has expired, what
the source answers and whether it is cancelled by then. -/
def step (before expired : Bool) (pull : Pull α) (after : Bool) : Guarded α :=
  if before then .ended .cancelled
  else if expired then .ended .expired
  else
    match pull with
    | .item a => if after then .ended .cancelled else .item a
    | .failed e => .ended (.failed e)
    | .pending wake => .pending wake
    | .finished => .ended .finished

/-- The error that a stream ends with. -/
def errorOf? (g : Guard) : Ending → Option Error
  | .finished => none
  | .failed e => some e
  | .cancelled => some (.cancelled g.operation)
  | .expired => some (.deadlineExceeded g.operation g.timeout)

end Guard

/-- An opened list. -/
structure ListStream where
  source : ListSource
  guard : Guard
  deriving DecidableEq, Repr

/-- An opened watch. -/
structure WatchStream where
  source : WatchSource
  guard : Guard
  deriving DecidableEq, Repr

end Fleet
