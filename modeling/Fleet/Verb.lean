/-!
# Verbs

The six calls that the service answers.

* `PerVerb`: one value for every verb.
-/

namespace Fleet

/-- A call that the service answers. -/
inductive Verb where
  | get | list | watch | create | update | destroy
  deriving DecidableEq, Repr

namespace Verb

/-- All verbs in order. -/
def all : List Verb := [get, list, watch, create, update, destroy]

/-- The name of a verb. -/
def text : Verb → String
  | get => "Get"
  | list => "List"
  | watch => "Watch"
  | create => "Create"
  | update => "Update"
  | destroy => "Destroy"

/-- The path of the method that a verb calls. -/
def method (v : Verb) : String :=
  "/fleet.resources.v1.ResourceService/" ++ v.text

/-- The verb changes what the service holds. -/
def isMutation : Verb → Bool
  | create | update | destroy => true
  | _ => false

/-- The verb of a name. -/
def ofName? (s : String) : Option Verb := all.find? (·.text == s)

end Verb

/-- One value for every verb. -/
structure PerVerb (α : Type) where
  get : α
  list : α
  watch : α
  create : α
  update : α
  destroy : α
  deriving DecidableEq, Repr

namespace PerVerb

variable {α : Type}

/-- The same value for every verb. -/
def const (a : α) : PerVerb α := ⟨a, a, a, a, a, a⟩

/-- The value of a verb. -/
def of (p : PerVerb α) : Verb → α
  | .get => p.get
  | .list => p.list
  | .watch => p.watch
  | .create => p.create
  | .update => p.update
  | .destroy => p.destroy

/-- A function of every value. -/
def map {β : Type} (f : α → β) (p : PerVerb α) : PerVerb β :=
  ⟨f p.get, f p.list, f p.watch, f p.create, f p.update, f p.destroy⟩

/-- Change the value of one verb. -/
def modify (p : PerVerb α) (v : Verb) (f : α → α) : PerVerb α :=
  match v with
  | .get => { p with get := f p.get }
  | .list => { p with list := f p.list }
  | .watch => { p with watch := f p.watch }
  | .create => { p with create := f p.create }
  | .update => { p with update := f p.update }
  | .destroy => { p with destroy := f p.destroy }

theorem of_modify_self (p : PerVerb α) (v : Verb) (f : α → α) :
    (p.modify v f).of v = f (p.of v) := by
  cases v <;> rfl

theorem of_modify_of_ne (p : PerVerb α) {v w : Verb} (f : α → α) (h : w ≠ v) :
    (p.modify v f).of w = p.of w := by
  cases v <;> cases w <;> first | rfl | exact absurd rfl h

/-- The sum over all verbs. -/
def total (p : PerVerb Nat) : Nat :=
  p.get + p.list + p.watch + p.create + p.update + p.destroy

/-- The sum over the verbs that change something. -/
def mutations (p : PerVerb Nat) : Nat := p.create + p.update + p.destroy

end PerVerb

end Fleet
