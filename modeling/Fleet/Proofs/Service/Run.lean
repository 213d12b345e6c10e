import Fleet.Proofs.Service.Atomicity
import Mathlib.Data.List.Induction

/-!
# Runs of a service

What happens to a service over its life: calls at readings of its clock, changes of its faults, and
resources that are stored as they are.

* `Store.run`, `Store.trace`: the store after a run, and the calls of the run, each with the store
  that it found.
* `Served.outcome`: **a call makes one commit or leaves the content as it was.**
* `run_induction`: what one call preserves holds after every run of calls.
* `trace_split`: what comes before a call of a trace is the trace of a run of its own.
-/

namespace Fleet

/-- Something that happens to a service. -/
inductive Act : Type 1 where
  /-- A call, with what the clock reads. -/
  | call {α : Type} (now : WireTime) (r : Request α)
  | injectFault (f : Fault)
  | clearFaults
  /-- A resource is stored as it is. -/
  | insertRaw (r : WireResource)

/-- A resource is stored as it is, without a call. -/
def Act.isRaw : Act → Bool
  | insertRaw _ => true
  | _ => false

/-- A call and the store that it found. -/
structure Served : Type 1 where
  {α : Type}
  before : Store
  now : WireTime
  request : Request α

namespace Served

variable (x : Served)

/-- The answer to the call. -/
def answer : Except Status x.α := (x.before.handle x.now x.request).1

/-- The store that the call left. -/
def after : Store := (x.before.handle x.now x.request).2

/-- The key of a mutation that succeeded. -/
def changed? : Option Key := if x.answer.isOk then x.request.key? else none

/-- A call made a commit. -/
structure Commits (c : Commit) : Prop where
  makes : x.request.Makes x.before.resources x.now c
  changed : x.changed? = some c.key
  resources : x.after.resources = c.edit x.before.resources
  published : x.after.published = x.before.published ++ [c.event x.before]
  history : x.after.history = (x.before.publish (c.event x.before)).history

/-- **A call makes one commit or leaves the content as it was.** -/
theorem outcome : (x.changed? = none ∧ Store.SameContent x.before x.after) ∨ ∃ c, x.Commits c := by
  obtain ⟨s, now, r⟩ := x
  cases ha : (s.handle now r).1 with
  | error e =>
    refine .inl ⟨?_, Store.handle_sameContent (.inl ⟨e, ha⟩)⟩
    simp [changed?, answer, ha, Except.toBool]
  | ok a =>
    cases hv : r.verb.isMutation with
    | false =>
      refine .inl ⟨?_, Store.handle_sameContent (.inr hv)⟩
      cases r with
      | get | list | watch => simp [changed?, Request.key?]
      | create | update | destroy => cases hv
    | true =>
      -- the commit is that of the counted store, which holds the same
      obtain ⟨c, hc, hs⟩ := Store.answer_snd_of_ok (s := s.count r.verb) hv ha
      have hafter : (s.handle now r).2 = c.applyTo (s.count r.verb) := hs
      refine .inr ⟨c, Store.makes_of_commit? hc, ?_, ?_, ?_, ?_⟩
      · simp [changed?, answer, ha, Except.toBool, Store.commit?_key hc]
      · rw [after, hafter]; rfl
      · rw [after, hafter]; rfl
      · rw [after, hafter]; rfl

variable {x} {k : Key} {c : Commit}

/-- What the key of a commit held before it. -/
theorem Commits.get?_before (h : x.Commits c) :
    x.before.resources.get? c.key = c.replaced? := h.makes.get?_key

/-- What the key of a commit holds after it. -/
theorem Commits.get?_after (h : x.Commits c) : x.after.resources.get? c.key = c.result? := by
  rw [h.resources, Commit.get?_edit_key]

/-- A call that changed a key made a commit of that key. -/
theorem commits_of_changed? (h : x.changed? = some k) : ∃ c, x.Commits c ∧ c.key = k := by
  rcases x.outcome with ⟨hn, -⟩ | ⟨c, hc⟩
  · rw [hn] at h
    cases h
  · exact ⟨c, hc, Option.some.inj (hc.changed.symm.trans h)⟩

/-- A call that leaves a key alone leaves what is stored under it. -/
theorem get?_after (h : x.changed? ≠ some k) :
    x.after.resources.get? k = x.before.resources.get? k := by
  rcases x.outcome with ⟨-, hsame⟩ | ⟨c, hc⟩
  · rw [hsame.resources]
  · have hk : k ≠ c.key := by
      intro he
      exact h (he ▸ hc.changed)
    rw [hc.resources, Commit.get?_edit_of_ne c _ hk]

end Served

namespace Store

variable {s s' : Store} {a : Act} {as bs : List Act}

/-- What happens. -/
def act (s : Store) : Act → Store
  | .call now r => (s.handle now r).2
  | .injectFault f => s.injectFault f
  | .clearFaults => s.clearFaults
  | .insertRaw r => s.insertRaw r

/-- The call that is answered, if what happens is one. -/
def served? (s : Store) : Act → Option Served
  | .call now r => some ⟨s, now, r⟩
  | _ => none

/-- The store after a run. -/
def run (s : Store) (as : List Act) : Store := as.foldl act s

/-- The calls of a run, in order. -/
def trace (s : Store) : List Act → List Served
  | [] => []
  | a :: as => (s.served? a).toList ++ (s.act a).trace as

theorem run_append (s : Store) (as bs : List Act) : s.run (as ++ bs) = (s.run as).run bs :=
  List.foldl_append

theorem run_concat (s : Store) (as : List Act) (a : Act) : s.run (as ++ [a]) = (s.run as).act a :=
  List.foldl_append

theorem trace_append (s : Store) (as bs : List Act) :
    s.trace (as ++ bs) = s.trace as ++ (s.run as).trace bs := by
  induction as generalizing s with
  | nil => rfl
  | cons a as ih =>
    have h := ih (s.act a)
    simp only [List.cons_append, trace, h, List.append_assoc]
    rfl

theorem trace_concat (s : Store) (as : List Act) (a : Act) :
    s.trace (as ++ [a]) = s.trace as ++ ((s.run as).served? a).toList := by
  rw [trace_append]
  simp [trace]

/-- A call of a run found what the run so far had left. -/
theorem before_of_served? {x : Served} (h : s.served? a = some x) :
    x.before = s ∧ x.after = s.act a := by
  cases a with
  | call now r => cases h; exact ⟨rfl, rfl⟩
  | injectFault f => cases h
  | clearFaults => cases h
  | insertRaw r => cases h

/-- A call that succeeds met no fault. -/
theorem perform_of_handle {α : Type} {now : WireTime} {r : Request α} {x : α}
    (h : s.handle now r = (.ok x, s')) : (s.count r.verb).perform now r = (.ok x, s') := by
  unfold handle answer at h
  split at h
  · cases h
  · exact h

/-- Nothing that happens changes how much the history keeps. -/
theorem act_historyLimit (s : Store) (a : Act) : (s.act a).historyLimit = s.historyLimit := by
  cases a with
  | call now r =>
    show ((s.count r.verb).answer now r).2.historyLimit = s.historyLimit
    rw [answer_snd]
    split
    · rfl
    · cases (s.count r.verb).commit? now r <;> rfl
  | injectFault f => rfl
  | clearFaults => rfl
  | insertRaw r => rfl

/-- What is no call and stores nothing leaves the content as it was. -/
theorem act_sameContent (hs : s.served? a = none) (hr : a.isRaw = false) :
    SameContent s (s.act a) := by
  cases a with
  | call now r => cases hs
  | injectFault f => exact ⟨rfl, rfl, rfl⟩
  | clearFaults => exact ⟨rfl, rfl, rfl⟩
  | insertRaw r => cases hr

/-- **What comes before a call of a trace** is the trace of a run of its own, which left the store
that the call found. -/
theorem trace_split {pre post : List Served} {x : Served} (h : s.trace as = pre ++ x :: post) :
    ∃ as₁ a as₂, as = as₁ ++ a :: as₂ ∧ s.trace as₁ = pre ∧ s.run as₁ = x.before := by
  induction as generalizing s pre with
  | nil => simp [trace] at h
  | cons a as ih =>
    cases ha : s.served? a with
    | none =>
      rw [trace, ha, Option.toList_none, List.nil_append] at h
      obtain ⟨as₁, b, as₂, rfl, htrace, hrun⟩ := ih h
      exact ⟨a :: as₁, b, as₂, rfl, by rw [trace, ha, htrace]; rfl, hrun⟩
    | some y =>
      rw [trace, ha, Option.toList_some, List.singleton_append] at h
      cases pre with
      | nil =>
        obtain ⟨rfl, -⟩ := List.cons.inj h
        exact ⟨[], a, as, rfl, rfl, (before_of_served? ha).1.symm⟩
      | cons p pre =>
        obtain ⟨rfl, htail⟩ := List.cons.inj h
        obtain ⟨as₁, b, as₂, rfl, htrace, hrun⟩ := ih htail
        exact ⟨a :: as₁, b, as₂, rfl, by rw [trace, ha, htrace]; rfl, hrun⟩

/-- **What one call preserves holds after every run of calls.** A property of the calls so far and
the content of the store is kept by a call without a commit and by one with a commit. -/
theorem run_induction {P : List Served → Store → Prop}
    (same : ∀ xs s s', SameContent s s' → P xs s → P xs s')
    (idle : ∀ xs x, x.changed? = none → P xs x.after → P (xs ++ [x]) x.after)
    (commit : ∀ xs x c, x.Commits c → P xs x.before → P (xs ++ [x]) x.after)
    (start : P [] s) (as : List Act) (hraw : ∀ a ∈ as, a.isRaw = false) :
    P (s.trace as) (s.run as) := by
  induction as using List.reverseRecOn with
  | nil => exact start
  | append_singleton as a ih =>
    have h := ih fun b hb => hraw b (List.mem_append_left _ hb)
    have ha : a.isRaw = false := hraw a (by simp)
    rw [trace_concat, run_concat]
    cases hx : (s.run as).served? a with
    | none =>
      rw [Option.toList_none, List.append_nil]
      exact same _ _ _ (act_sameContent hx ha) h
    | some x =>
      obtain ⟨hb, hafter⟩ := before_of_served? hx
      rw [Option.toList_some, ← hafter]
      rw [← hb] at h
      rcases x.outcome with ⟨hn, hsame⟩ | ⟨c, hc⟩
      · exact idle _ _ hn (same _ _ _ hsame h)
      · exact commit _ _ _ hc h

/-- **Every resource stays under its own key**, whatever happens. -/
theorem run_keyed (h : s.resources.Keyed) (as : List Act) : (s.run as).resources.Keyed := by
  induction as using List.reverseRecOn with
  | nil => exact h
  | append_singleton as a ih =>
    rw [run_concat]
    cases a with
    | call now r =>
      rcases Served.outcome ⟨s.run as, now, r⟩ with ⟨-, hsame⟩ | ⟨c, hc⟩
      · exact hsame.resources ▸ ih
      · have hres : ((s.run as).act (.call now r)).resources = c.edit (s.run as).resources :=
          hc.resources
        rw [hres]
        exact c.edit_keyed ih
    | injectFault f => exact ih
    | clearFaults => exact ih
    | insertRaw r =>
      -- what is stored as it is goes where a creation would put it
      exact Commit.edit_keyed (.created r) ih

theorem empty_keyed (limit : Nat) : (empty limit).resources.Keyed := by
  intro k w hw
  cases hw

end Store

end Fleet
