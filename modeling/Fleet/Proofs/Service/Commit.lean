import Fleet.Service.Answer
import Mathlib.Tactic.Common

/-!
# Commits

What a call changes, as data. A call either leaves the resources and the events as they were or
makes one commit: it puts a resource under its key or removes the one under a key, and publishes one
event.

* `Commit.edit`, `Commit.event`: what a commit does to the resources, and the event that tells of
  it.
* `Commit.edit_keyed`: commits put resources under their own keys.
* `Store.commit?`: the commit of a call that no fault meets, if it makes one.
* `Request.Makes`: the three ways in which a call makes a commit.
* `answer_snd`: the store after a call is the one its commit leaves.
* `answer_ok_iff`: **a mutation succeeds exactly when it makes a commit.**
-/

namespace Fleet

/-- What a service holds. -/
abbrev Held := OrderedMap Key WireResource

/-- Every resource is held under its own key. -/
def OrderedMap.Keyed (m : Held) : Prop := ∀ k w, m.get? k = some w → Key.of w.metadata = k

/-- The key of the resource that a mutation is addressed to. -/
def Request.key? {α : Type} : Request α → Option Key
  | .create r | .update r _ => some (.of r.metadata)
  | .destroy k => some k
  | _ => none

/-- A change of one resource. -/
inductive Commit where
  /-- A new resource, as it is stored. -/
  | created (r : WireResource)
  /-- The resource that was replaced, and the one that is stored instead. -/
  | updated (old r : WireResource)
  /-- The key that was removed, and the resource under it. -/
  | destroyed (k : Key) (r : WireResource)
  deriving DecidableEq, Repr

namespace Commit

/-- The key that a commit changes. -/
def key : Commit → Key
  | created r | updated _ r => .of r.metadata
  | destroyed k _ => k

/-- What the key holds after a commit. -/
def result? : Commit → Option WireResource
  | created r | updated _ r => some r
  | destroyed _ _ => none

/-- What the key held before a commit. -/
def replaced? : Commit → Option WireResource
  | created _ => none
  | updated r _ | destroyed _ r => some r

/-- The kind of the event that tells of a commit. -/
def kind : Commit → EventKind
  | created _ => .created
  | updated _ _ => .updated
  | destroyed _ _ => .destroyed

/-- The resource of that event. -/
def subject : Commit → WireResource
  | created r | updated _ r | destroyed _ r => r

/-- What was there before an update. -/
def previous? : Commit → Option WireResource
  | updated old _ => some old
  | _ => none

/-- Only what is told of is stored. -/
theorem eq_subject_of_result? {c : Commit} {r : WireResource} (h : c.result? = some r) :
    c.subject = r := by
  cases c with
  | created | updated => exact Option.some.inj h
  | destroyed => cases h

/-- What was there before an update is what its key held. -/
theorem replaced?_of_previous? {c : Commit} {r : WireResource} (h : c.previous? = some r) :
    c.replaced? = some r := by
  cases c with
  | updated => exact h
  | created | destroyed => cases h

/-- What a key held is told of, by an update or by a destruction. -/
theorem previous?_of_replaced? {c : Commit} {r : WireResource} (h : c.replaced? = some r) :
    c.previous? = some r ∨ c.subject = r := by
  cases c with
  | created => cases h
  | updated => exact .inl h
  | destroyed => exact .inr (Option.some.inj h)

/-- The resources after a commit. -/
def edit (m : OrderedMap Key WireResource) (c : Commit) : OrderedMap Key WireResource :=
  match c.result? with
  | some r => m.insert c.key r
  | none => m.erase c.key

/-- The event that tells of a commit, with the count of what is there after it. -/
def event (s : Store) (c : Commit) : WireEvent :=
  ⟨c.kind, c.subject, c.previous?,
    { s with resources := c.edit s.resources }.total c.key.ns c.key.type⟩

theorem event_total (s : Store) (c : Commit) : (c.event s).total =
    { s with resources := c.edit s.resources }.total c.key.ns c.key.type := by
  simp only [event]

/-- The store after a commit. -/
def applyTo (s : Store) (c : Commit) : Store :=
  { s with resources := c.edit s.resources }.publish (c.event s)

variable (s : Store) (c : Commit)

@[simp] theorem applyTo_resources : (c.applyTo s).resources = c.edit s.resources := rfl
@[simp] theorem applyTo_published : (c.applyTo s).published = s.published ++ [c.event s] := rfl

/-- A commit leaves its result under its key. -/
theorem get?_edit_key (m : OrderedMap Key WireResource) : (c.edit m).get? c.key = c.result? := by
  unfold edit
  cases c.result? with
  | some r => exact OrderedMap.get?_insert_self m _ r
  | none => exact OrderedMap.get?_erase_self m _

/-- A commit leaves every other key alone. -/
theorem get?_edit_of_ne (m : OrderedMap Key WireResource) {j : Key} (h : j ≠ c.key) :
    (c.edit m).get? j = m.get? j := by
  have hj : compare j c.key ≠ .eq := fun he => h (Key.eq_of_compare he)
  unfold edit
  cases c.result? with
  | some r => exact OrderedMap.get?_insert_of_ne m r hj
  | none => exact OrderedMap.get?_erase_of_ne m hj

/-- A commit puts a resource under its own key. -/
theorem edit_keyed {m : Held} (hm : m.Keyed) : (c.edit m).Keyed := by
  intro k w hw
  by_cases hk : k = c.key
  · rw [hk, get?_edit_key] at hw
    cases c with
    | created r => cases hw; exact hk.symm
    | updated old r => cases hw; exact hk.symm
    | destroyed k r => cases hw
  · rw [get?_edit_of_ne c m hk] at hw
    exact hm k w hw

end Commit

/-- The three ways in which a call makes a commit, by what the service holds. -/
inductive Request.Makes (m : Held) (now : WireTime) : {α : Type} → Request α → Commit → Prop where
  | created {r : WireResource} (h : m.get? (.of r.metadata) = none) :
    Makes m now (.create r) (.created (Store.asCreated now r))
  | updated {r old : WireResource} (h : m.get? (.of r.metadata) = some old) :
    Makes m now (.update r old.metadata.version) (.updated old (Store.asUpdated now old r))
  | destroyed {k : Key} {r : WireResource} (h : m.get? k = some r)
    (hf : r.metadata.finalizers = []) : Makes m now (.destroy k) (.destroyed k r)

/-- A commit replaces what its key held. -/
theorem Request.Makes.get?_key {α : Type} {m : Held} {now : WireTime} {r : Request α} {c : Commit}
    (h : r.Makes m now c) : m.get? c.key = c.replaced? := by
  cases h with
  | created h | updated h | destroyed h _ => exact h

namespace Store

variable {α : Type} {s : Store} {now : WireTime}

@[simp] theorem count_resources (v : Verb) : (s.count v).resources = s.resources := rfl
@[simp] theorem count_calls (v : Verb) : (s.count v).calls = s.calls.modify v (· + 1) := rfl
@[simp] theorem count_faults (v : Verb) : (s.count v).faults = s.faults := rfl

/-- The commit of a call that no fault meets, if it makes one. -/
def commit? (s : Store) (now : WireTime) : Request α → Option Commit
  | .create r =>
    if s.resources.contains (.of r.metadata) then none else some (.created (asCreated now r))
  | .update r version =>
    (s.resources.get? (.of r.metadata)).bind fun old =>
      if old.metadata.version = version then some (.updated old (asUpdated now old r)) else none
  | .destroy k =>
    (s.resources.get? k).bind fun r =>
      if r.metadata.finalizers.isEmpty then some (.destroyed k r) else none
  | _ => none

theorem put_updated (old r : WireResource) :
    s.put .updated (some old) r = (Commit.updated old r).applyTo s := rfl

theorem remove_eq (k : Key) (r : WireResource) : s.remove k r = (Commit.destroyed k r).applyTo s :=
  rfl

/-- A call makes a commit in one of three ways. -/
theorem makes_of_commit? {r : Request α} {c : Commit} (h : s.commit? now r = some c) :
    r.Makes s.resources now c := by
  cases r with
  | get | list | watch => simp [commit?] at h
  | create r =>
    simp only [commit?] at h
    split at h
    · cases h
    · rename_i hn
      cases h
      exact .created (Option.not_isSome_iff_eq_none.1 hn)
  | update r v =>
    obtain ⟨old, hold, h⟩ := Option.bind_eq_some_iff.1 h
    split at h
    · rename_i hv
      cases h
      exact hv ▸ .updated hold
    · cases h
  | destroy k =>
    obtain ⟨old, hold, h⟩ := Option.bind_eq_some_iff.1 h
    split at h
    · rename_i hf
      cases h
      exact .destroyed hold (List.isEmpty_iff.1 hf)
    · cases h

/-- A commit changes the key that its call is addressed to. -/
theorem commit?_key {r : Request α} {c : Commit} (h : s.commit? now r = some c) :
    r.key? = some c.key := by
  cases makes_of_commit? h with
  | created => rfl
  | updated => rfl
  | destroyed => rfl

/-- The store after a call that no fault meets. -/
theorem perform_snd (s : Store) (now : WireTime) (r : Request α) :
    (s.perform now r).2 = ((s.commit? now r).map (Commit.applyTo s)).getD s := by
  cases r with
  | get | list | watch => rfl
  | create r =>
    simp only [perform, create, commit?]
    split <;> rfl
  | update r v =>
    simp only [perform, update, commit?, find]
    cases s.resources.get? (.of r.metadata) with
    | none => rfl
    | some old =>
      by_cases hv : old.metadata.version = v
      · simp [hv, put_updated]
      · simp [hv]
  | destroy k =>
    simp only [perform, destroy, commit?, find]
    cases s.resources.get? k with
    | none => rfl
    | some old =>
      by_cases hf : old.metadata.finalizers = []
      · simp [hf, remove_eq]
      · simp [hf]

theorem perform_faults (s : Store) (now : WireTime) (r : Request α) :
    (s.perform now r).2.faults = s.faults := by
  rw [perform_snd]
  cases s.commit? now r <;> rfl

/-- No call changes the faults. -/
theorem handle_faults (s : Store) (now : WireTime) (r : Request α) :
    (s.handle now r).2.faults = s.faults := by
  unfold handle answer
  cases (s.count r.verb).fault? r.verb r.address with
  | some status => rfl
  | none => exact perform_faults (s.count r.verb) now r

/-- A mutation that no fault meets succeeds exactly when it makes a commit. -/
theorem perform_ok_iff {r : Request α} (hr : r.verb.isMutation) :
    (∃ a, (s.perform now r).1 = .ok a) ↔ ∃ c, s.commit? now r = some c := by
  cases r with
  | get | list | watch => cases hr
  | create r =>
    simp only [perform, create, commit?]
    split <;> simp
  | update r v =>
    simp only [perform, update, commit?, find]
    cases s.resources.get? (.of r.metadata) with
    | none => simp
    | some old => by_cases hv : old.metadata.version = v <;> simp [hv]
  | destroy k =>
    simp only [perform, destroy, commit?, find]
    cases s.resources.get? k with
    | none => simp
    | some old => by_cases hf : old.metadata.finalizers = [] <;> simp [hf]

/-- **The store after a call** is the one its commit leaves; a fault lets no call make one. -/
theorem answer_snd (s : Store) (now : WireTime) (r : Request α) :
    (s.answer now r).2 =
      if (s.fault? r.verb r.address).isSome then s
      else ((s.commit? now r).map (Commit.applyTo s)).getD s := by
  unfold answer
  cases s.fault? r.verb r.address with
  | some status => rfl
  | none => simpa using perform_snd s now r

/-- **A mutation succeeds exactly when it makes a commit.** -/
theorem answer_ok_iff {r : Request α} (hr : r.verb.isMutation) :
    (∃ a, (s.answer now r).1 = .ok a) ↔
      s.fault? r.verb r.address = none ∧ ∃ c, s.commit? now r = some c := by
  unfold answer
  cases s.fault? r.verb r.address with
  | some status => simp
  | none => simpa using perform_ok_iff hr

end Store

end Fleet
