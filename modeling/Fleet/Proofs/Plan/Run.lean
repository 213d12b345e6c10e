import Fleet.Session.Run
import Mathlib.Tactic.Common

/-!
# Running composed plans

* `run_bind`: **a plan that is composed of two runs as the one after the other**, and a failure of
  the first is the end of both.
* `run_attempt`: a plan that is attempted changes what the plan itself changes, and cannot fail.
-/

namespace Fleet

namespace Plan

variable {α β : Type}

@[simp] theorem bind_eq (p : Plan α) (f : α → Plan β) : p >>= f = p.bind f := rfl
@[simp] theorem done_ok_bind (a : α) (f : α → Plan β) : (done (.ok a)).bind f = f a := rfl
@[simp] theorem fail_bind (e : Error) (f : α → Plan β) : (fail e).bind f = fail e := rfl
@[simp] theorem ofExcept_ok_bind (a : α) (f : α → Plan β) : (ofExcept (.ok a)).bind f = f a := rfl
@[simp] theorem ofExcept_error_bind (e : Error) (f : α → Plan β) :
    (ofExcept (.error e)).bind f = fail e := rfl

end Plan

namespace Session

variable {α β : Type} {i : Nat}

@[simp] theorem run_done (r : Except Error α) (s : Session) : run i (.done r) s = (r, s) := rfl
@[simp] theorem run_fail (e : Error) (s : Session) :
    run i (.fail e : Plan α) s = (.error e, s) := rfl
theorem run_call {γ : Type} (r : Request γ) (rest : Except Error γ → Plan α) (s : Session) :
    run i (.call r rest) s = run i (rest ((s.invoke i r none id fun _ => none).1.map (·.1)))
      (s.invoke i r none id fun _ => none).2 := rfl

theorem run_collect (st : ListStream) (rest : List WireResource × Ending → Plan α) (s : Session) :
    run i (.collect st rest) s = run i (rest (s.collect st).1) (s.collect st).2 := rfl

/-- What comes after a plan that has run. -/
def andThen (r : Except Error α × Session) (f : α → Session → Except Error β × Session) :
    Except Error β × Session :=
  match r with
  | (.ok a, s) => f a s
  | (.error e, s) => (.error e, s)

@[simp] theorem andThen_ok (a : α) (s : Session) (f : α → Session → Except Error β × Session) :
    andThen (.ok a, s) f = f a s := rfl
/-- **One plan after another** runs as the two in turn. -/
theorem run_bind (p : Plan α) (f : α → Plan β) (s : Session) :
    run i (p.bind f) s = andThen (run i p s) fun a => run i (f a) := by
  induction p generalizing s with
  | done r => cases r <;> rfl
  | note n p ih => exact ih _
  | call r rest ih => exact ih _ _
  | openList q t rest ih => exact ih _ _
  | openWatch q t rest ih => exact ih _ _
  | collect st rest ih => exact ih _ _

/-- An attempt changes what the plan itself changes. -/
theorem run_attempt (p : Plan α) (s : Session) :
    run i p.attempt s = (.ok (run i p s).1, (run i p s).2) := by
  induction p generalizing s with
  | done r => rfl
  | note n p ih => exact ih _
  | call r rest ih => exact ih _ _
  | openList q t rest ih => exact ih _ _
  | openWatch q t rest ih => exact ih _ _
  | collect st rest ih => exact ih _ _

end Session

end Fleet
