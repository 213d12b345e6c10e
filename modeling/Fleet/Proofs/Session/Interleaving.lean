import Fleet.Proofs.Client.Operation

/-!
# Operations that run at the same time

Any number of clients with any number of operations under way. What is indivisible is one step of a
plan, in which at most one call is made; which operation goes next is up to the moves.

* `Session.step`, `run_step`: one step of a plan, and that a plan which is run alone takes its steps
  in turn.
* `Crowd.play`: the run of any moves, with every call that was made.
-/

namespace Fleet

/-- A call and its answer, with what the service held before and after it. -/
structure Exchange : Type 1 where
  α : Type
  request : Request α
  answer : Except Error α
  before : OrderedMap Key WireResource
  after : OrderedMap Key WireResource

namespace Session

variable {α : Type}

/-- The next step of a plan: the plan that is left, the session after it and the call that was made,
if it was one that is answered at once. -/
def step (i : Nat) : Plan α → Session → Plan α × Session × Option Exchange
  | .done r, s => (.done r, s, none)
  | .note n rest, s => (rest, s.note i n, none)
  | .call r rest, s =>
    let (x, s') := s.invoke i r none id fun _ => none
    let x := x.map (·.1)
    (rest x, s', some ⟨_, r, x, s.store.resources, s'.store.resources⟩)
  | .openList q token rest, s =>
    let (x, s) := s.invoke i (.list q) token ListSource.page fun
      | .scripted lists _ => some (.script ⟨lists, none⟩)
      | .shared => none
    (rest x, s, none)
  | .openWatch q token rest, s =>
    let (x, s) := s.invoke i (.watch q) token WatchSource.live fun
      | .scripted _ watches => some (.script ⟨watches, none⟩)
      | .shared => none
    (rest (x.map (·.1)), s, none)
  | .collect st rest, s =>
    let (x, s) := s.collect st
    (rest x, s, none)

/-- A plan that is run alone takes its steps in turn. -/
theorem run_step (i : Nat) (p : Plan α) (s : Session) :
    run i (step i p s).1 (step i p s).2.1 = run i p s := by
  cases p <;> rfl

end Session

/-- An operation that is under way, for the client of a member. -/
structure Task : Type 1 where
  member : Nat
  use : Use
  α : Type
  plan : Plan α

/-- A call that was made for an operation. -/
structure Call : Type 1 extends Exchange where
  task : Nat
  use : Use

/-- A session with operations under way and the calls that were made, in order. -/
structure Crowd : Type 1 where
  session : Session
  tasks : List Task
  calls : List Call

/-- What happens next. -/
inductive Move : Type 1 where
  /-- The client of a member is asked for something. -/
  | start (i : Nat) (u : Use)
  /-- The operation that was started in this place takes a step. -/
  | go (t : Nat)

/-- The operation that a use of a client starts. Kinds are registered before anything is under way,
so this starts nothing. -/
def Use.task? (i : Nat) (c : Client) : Use → Option Task
  | client op => some ⟨i, client op, _, op.plan c⟩
  | facade op => some ⟨i, facade op, _, op.plan c⟩
  | register _ _ => none

namespace Crowd

/-- Nothing is under way yet. -/
def of (s : Session) : Crowd := ⟨s, [], []⟩

/-- The client of a member is asked for something. -/
def start (c : Crowd) (i : Nat) (u : Use) : Crowd :=
  { c with tasks := c.tasks ++ ((c.session.members[i]?).bind fun m => u.task? i m.client).toList }

/-- An operation takes a step. -/
def go (c : Crowd) (t : Nat) : Crowd :=
  match c.tasks[t]? with
  | none => c
  | some task =>
    let (plan, session, e) := Session.step task.member task.plan c.session
    ⟨session, c.tasks.set t { task with plan },
      c.calls ++ (e.map fun e => ⟨e, t, task.use⟩).toList⟩

/-- One move. -/
def move (c : Crowd) : Move → Crowd
  | .start i u => c.start i u
  | .go t => c.go t

/-- Any moves, one after the other. -/
def play (c : Crowd) (ms : List Move) : Crowd := ms.foldl move c

end Crowd

end Fleet
