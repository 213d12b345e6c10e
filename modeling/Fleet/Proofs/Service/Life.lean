import Fleet.Proofs.Service.Run
import Fleet.Proofs.Service.Version
import Mathlib.Computability.Language

/-!
# The lives of a key

What the calls of a run do to one key, from a service that holds nothing.

* `life`, `lives`: the lives of a key as languages of verbs.
* `Alive`: a stored resource is in a life that began with its creation; its version counts the
  updates since then.
* `KeyLife.commit`: what one commit does to the life of a key.
* `key_lives`: **the life of a key**, in any run of calls.
-/

namespace Fleet

open Computability

/-- The life of a key: a creation, any number of updates and a destruction. -/
def life : Language Verb := {[.create]} * {[.update]}∗ * {[.destroy]}

/-- The lives of a key, one after the other. -/
def lives : Language Verb := life∗

/-- The mutations of a key that succeeded, in order. -/
def mutationsOf (k : Key) (xs : List Served) : List Verb :=
  (xs.filter (·.changed? = some k)).map (·.request.verb)

/-- The resource that a call writes. -/
def Request.given? {α : Type} : Request α → Option WireResource
  | create r | update r _ => some r
  | _ => none

/-- The resource that the last successful creation or update of a key wrote. -/
def lastWritten? (k : Key) (xs : List Served) : Option WireResource :=
  ((xs.filter (·.changed? = some k)).filterMap (·.request.given?)).getLast?

/-- A stored resource is in a life that began with its creation. Since then there were as many
mutations as updates; the version counts these, up to sixty-four bits, and the time of creation is
what the clock read then. -/
def Alive (k : Key) (xs : List Served) (r : WireResource) : Prop :=
  ∃ pre c post updates, xs = pre ++ c :: post ∧ mutationsOf k pre ∈ lives ∧
    c.changed? = some k ∧ c.request.verb = .create ∧
    mutationsOf k post = List.replicate updates .update ∧
    r.metadata.created = some c.now ∧
    (updates + 1 < Text.wordLimit → r.metadata.version = Text.decimal (updates + 1))

section

variable {k : Key} {xs ys : List Served} {x : Served} {r : WireResource}

/-- Lives may be followed by one more. -/
theorem append_life_mem_lives {w : List Verb} (h : w ∈ lives) (n : Nat) :
    w ++ .create :: (List.replicate n .update ++ [.destroy]) ∈ lives := by
  have hupdates : List.replicate n Verb.update ∈ ({[.update]} : Language Verb)∗ := by
    refine Language.mem_kstar.2 ⟨List.replicate n [.update], ?_, ?_⟩
    · simp
    · intro u hu
      exact (List.mem_replicate.1 hu).2
  have hlife : ([.create] ++ List.replicate n .update) ++ [.destroy] ∈ life :=
    Language.append_mem_mul (Language.append_mem_mul rfl hupdates) rfl
  have hmem : w ++ (([.create] ++ List.replicate n .update) ++ [.destroy]) ∈ lives :=
    Set.mem_of_mem_of_subset (Language.append_mem_mul h hlife) (kstar_mul_le_kstar (a := life))
  simpa using hmem

theorem mutationsOf_append : mutationsOf k (xs ++ ys) = mutationsOf k xs ++ mutationsOf k ys := by
  simp [mutationsOf]

theorem mutationsOf_cons (h : x.changed? = some k) :
    mutationsOf k (x :: xs) = x.request.verb :: mutationsOf k xs := by
  simp [mutationsOf, h]

theorem mutationsOf_idle (h : x.changed? ≠ some k) : mutationsOf k [x] = [] := by
  simp [mutationsOf, h]

theorem lastWritten?_idle (h : x.changed? ≠ some k) :
    lastWritten? k (xs ++ [x]) = lastWritten? k xs := by
  simp [lastWritten?, h]

theorem lastWritten?_concat (h : x.changed? = some k) (hr : x.request.given? = some r) :
    lastWritten? k (xs ++ [x]) = some r := by
  simp [lastWritten?, h, hr]

namespace Alive

/-- What was done to a key whose resource is stored. -/
theorem mutations (h : Alive k xs r) : ∃ w ∈ lives, ∃ n,
    mutationsOf k xs = w ++ .create :: List.replicate n .update := by
  obtain ⟨pre, c, post, n, rfl, hpre, hc, hv, hpost, -, -⟩ := h
  refine ⟨_, hpre, n, ?_⟩
  rw [mutationsOf_append, mutationsOf_cons hc, hv, hpost]

/-- Calls that leave the key alone do not end a life. -/
theorem idle (h : Alive k xs r) (hx : x.changed? ≠ some k) : Alive k (xs ++ [x]) r := by
  obtain ⟨pre, c, post, n, rfl, hpre, hc, hv, hpost, hcreated, hversion⟩ := h
  refine ⟨pre, c, post ++ [x], n, by simp, hpre, hc, hv, ?_, hcreated, hversion⟩
  rw [mutationsOf_append, mutationsOf_idle hx, List.append_nil, hpost]

/-- An update goes on with the life of what it replaces. -/
theorem update {old : WireResource} (h : Alive k xs old) (hx : x.changed? = some k)
    (hverb : x.request.verb = .update) (hcreated : r.metadata.created = old.metadata.created)
    (hversion : r.metadata.version = nextVersion old.metadata.version) :
    Alive k (xs ++ [x]) r := by
  obtain ⟨pre, c, post, n, rfl, hpre, hc, hv, hpost, hc', hold⟩ := h
  refine ⟨pre, c, post ++ [x], n + 1, by simp, hpre, hc, hv, ?_, hcreated.trans hc', ?_⟩
  · rw [mutationsOf_append, mutationsOf_cons hx, hpost, hverb, List.replicate_succ']
    rfl
  · intro hn
    have hlt : n + 1 < Text.wordLimit := by omega
    rw [hversion, hold hlt, nextVersion_decimal hn]

end Alive

/-- What is known of the life of a key after some calls. -/
structure KeyLife (k : Key) (xs : List Served) (m : Held) : Prop where
  /-- A key that is not stored has lived whole lives. -/
  absent : m.get? k = none → mutationsOf k xs ∈ lives
  alive : ∀ r, m.get? k = some r → Alive k xs r
  /-- The finalizers that are stored are those that were written last. -/
  written : ∀ r, m.get? k = some r →
    ∃ w, lastWritten? k xs = some w ∧ r.metadata.finalizers = w.metadata.finalizers

namespace KeyLife

variable {m m' : Held}

/-- What was done to a key is the beginning of a sequence of lives. -/
theorem mutations_prefix (h : KeyLife k xs m) : ∃ w ∈ lives, mutationsOf k xs <+: w := by
  cases hm : m.get? k with
  | none => exact ⟨_, h.absent hm, List.prefix_refl _⟩
  | some r =>
    obtain ⟨w, hw, n, heq⟩ := (h.alive r hm).mutations
    refine ⟨_, append_life_mem_lives hw n, ?_⟩
    exact ⟨[.destroy], by rw [heq]; simp⟩

/-- A call that leaves the key alone leaves its life as it was. -/
theorem idle (h : KeyLife k xs m) (hx : x.changed? ≠ some k) (hm : m'.get? k = m.get? k) :
    KeyLife k (xs ++ [x]) m' where
  absent hn := by
    rw [mutationsOf_append, mutationsOf_idle hx, List.append_nil]
    exact h.absent (hm.symm.trans hn)
  alive r hr := (h.alive r (hm.symm.trans hr)).idle hx
  written r hr := by
    rw [lastWritten?_idle hx]
    exact h.written r (hm.symm.trans hr)

/-- **What one commit does to the life of a key.** -/
theorem commit {c : Commit} (h : KeyLife k xs x.before.resources) (hc : x.Commits c) :
    KeyLife k (xs ++ [x]) x.after.resources := by
  by_cases hk : c.key = k
  · subst hk
    have hbefore := hc.get?_before
    have hafter := hc.get?_after
    have hchanged := hc.changed
    have hmakes := hc.makes
    obtain ⟨s, now, q⟩ := x
    cases hmakes with
    | @created r _ =>
      -- the key was not stored, so a new life begins after whole lives
      refine ⟨fun hn => ?_, fun r' hr => ?_, fun r' hr => ?_⟩
      · cases hafter.symm.trans hn
      · cases hafter.symm.trans hr
        exact ⟨xs, _, [], 0, rfl, h.absent hbefore, hchanged, rfl, rfl, rfl, fun _ => rfl⟩
      · cases hafter.symm.trans hr
        exact ⟨r, lastWritten?_concat hchanged rfl, rfl⟩
    | @updated r old _ =>
      have hlife := h.alive old hbefore
      refine ⟨fun hn => ?_, fun r' hr => ?_, fun r' hr => ?_⟩
      · cases hafter.symm.trans hn
      · cases hafter.symm.trans hr
        exact hlife.update hchanged rfl rfl rfl
      · cases hafter.symm.trans hr
        exact ⟨r, lastWritten?_concat hchanged rfl, rfl⟩
    | @destroyed k r _ _ =>
      -- the life that the key was in is over
      obtain ⟨w, hw, n, heq⟩ := (h.alive r hbefore).mutations
      refine ⟨fun _ => ?_, fun r' hr => ?_, fun r' hr => ?_⟩
      · rw [mutationsOf_append, heq, mutationsOf_cons hchanged]
        simpa [mutationsOf, Request.verb] using append_life_mem_lives hw n
      · cases hafter.symm.trans hr
      · cases hafter.symm.trans hr
  · have hchanged : x.changed? ≠ some k := by
      rw [hc.changed]
      exact fun he => hk (Option.some.inj he)
    exact h.idle hchanged (Served.get?_after hchanged)

/-- The life of a key after any run of calls on a service that held nothing. -/
theorem run (limit : Nat) (as : List Act) (hraw : ∀ a ∈ as, a.isRaw = false) (k : Key) :
    KeyLife k ((Store.empty limit).trace as) ((Store.empty limit).run as).resources := by
  refine Store.run_induction (P := fun xs s => KeyLife k xs s.resources) ?_ ?_ ?_ ?_ as hraw
  · intro xs s s' hsame h
    rw [hsame.resources]
    exact h
  · intro xs x hn h
    exact h.idle (by rw [hn]; simp) rfl
  · intro xs x c hc h
    exact h.commit hc
  · -- nothing was done to the key, which is not stored
    refine ⟨fun _ => Language.nil_mem_kstar _, fun r hr => ?_, fun r hr => ?_⟩
    · cases hr
    · cases hr

end KeyLife

/-- Only a resource without finalizers is destroyed. -/
theorem Served.finalizers_of_destroy (hx : x.changed? = some k) (hv : x.request.verb = .destroy) :
    ∃ r, x.before.resources.get? k = some r ∧ r.metadata.finalizers = [] := by
  obtain ⟨c, hc, rfl⟩ := commits_of_changed? hx
  have hbefore := hc.get?_before
  have hmakes := hc.makes
  obtain ⟨s, now, q⟩ := x
  cases hmakes with
  | created | updated => cases hv
  | destroyed _ hf => exact ⟨_, hbefore, hf⟩

/-- A resource with finalizers is still stored after any call, maybe replaced. -/
theorem Served.stored_of_finalizers (hr : x.before.resources.get? k = some r)
    (hf : r.metadata.finalizers ≠ []) : ∃ r', x.after.resources.get? k = some r' := by
  by_cases hx : x.changed? = some k
  · obtain ⟨c, hc, rfl⟩ := commits_of_changed? hx
    have hbefore := hc.get?_before
    have hafter := hc.get?_after
    have hmakes := hc.makes
    obtain ⟨s, now, q⟩ := x
    cases hmakes with
    | created | updated => exact ⟨_, hafter⟩
    | destroyed _ hnone =>
      -- what was stored would have had no finalizers
      cases hr.symm.trans hbefore
      exact absurd hnone hf
  · exact ⟨r, (Served.get?_after hx).trans hr⟩

end

/-- **The life of a key**, in any run of calls with any faults on a service that held nothing. What
succeeded in changing the key is the beginning of a sequence of lives, each a creation, updates and
a destruction. What is stored under the key has the key's namespace, type and id; it still has the
time of its creation, and its version counts the updates since then. A destruction succeeds only
when the resource that was written last has no finalizers, and no call takes a resource with
finalizers out of the store. -/
theorem key_lives (limit : Nat) (as : List Act) (hraw : ∀ a ∈ as, a.isRaw = false) (k : Key) :
    let xs := (Store.empty limit).trace as
    (∃ w ∈ lives, mutationsOf k xs <+: w) ∧
    (∀ r, ((Store.empty limit).run as).resources.get? k = some r →
      Key.of r.metadata = k ∧ Alive k xs r) ∧
    (∀ pre x post, xs = pre ++ x :: post → x.changed? = some k → x.request.verb = .destroy →
      ∃ w, lastWritten? k pre = some w ∧ w.metadata.finalizers = []) ∧
    (∀ x ∈ xs, ∀ r, x.before.resources.get? k = some r → r.metadata.finalizers ≠ [] →
      ∃ r', x.after.resources.get? k = some r') := by
  intro xs
  have hlife := KeyLife.run limit as hraw k
  have hkeyed := Store.run_keyed (Store.empty_keyed limit) as
  refine ⟨hlife.mutations_prefix, fun r hr => ⟨hkeyed k r hr, hlife.alive r hr⟩, ?_, ?_⟩
  · intro pre x post hxs hx hv
    -- before the destruction, the key had the life of a shorter run
    obtain ⟨as₁, a, as₂, rfl, rfl, hrun⟩ := Store.trace_split hxs
    obtain ⟨r, hr, hf⟩ := Served.finalizers_of_destroy hx hv
    have hbefore := KeyLife.run limit as₁ (fun b hb => hraw b (List.mem_append_left _ hb)) k
    rw [hrun] at hbefore
    obtain ⟨w, hw, he⟩ := hbefore.written r hr
    exact ⟨w, hw, he ▸ hf⟩
  · intro x _ r hr hf
    exact Served.stored_of_finalizers hr hf

/-- A machine that is destroyed and created anew with a finalizer is in its second life and cannot
be destroyed. -/
theorem key_lives_twice :
    let k : Key := ⟨"a", "Machines", "m1"⟩
    let r := Store.bare "a" "Machines" "m1"
    let kept := { r with metadata := { r.metadata with finalizers := ["drain"] } }
    let as : List Act := [.call ⟨6, 0⟩ (.create r), .call ⟨7, 0⟩ (.destroy k),
      .call ⟨8, 0⟩ (.create kept), .call ⟨9, 0⟩ (.destroy k)]
    let xs := (Store.empty 1).trace as
    (∀ a ∈ as, a.isRaw = false) ∧ (∃ w ∈ lives, mutationsOf k xs <+: w) ∧
      (∃ r, ((Store.empty 1).run as).resources.get? k = some r ∧ Alive k xs r) ∧
      (∃ pre x post, xs = pre ++ x :: post ∧ x.changed? = some k ∧ x.request.verb = .destroy ∧
        ∃ w, lastWritten? k pre = some w ∧ w.metadata.finalizers = []) ∧
      ∃ x ∈ xs, ∃ r, x.before.resources.get? k = some r ∧ r.metadata.finalizers ≠ [] ∧
        ∃ r', x.after.resources.get? k = some r' := by
  intro k r kept as xs
  have hraw : ∀ a ∈ as, a.isRaw = false := by simp [as, Act.isRaw]
  obtain ⟨hlives, hstored, hdestroyed, hfinalizers⟩ := key_lives 1 as hraw k
  let stored := Store.asCreated ⟨8, 0⟩ kept
  have hget : ((Store.empty 1).run as).resources.get? k = some stored := by decide
  refine ⟨hraw, hlives, ⟨stored, hget, (hstored stored hget).2⟩, ?_, ?_⟩
  · exact ⟨[_], _, [_, _], rfl, by decide, rfl, hdestroyed [_] _ [_, _] rfl (by decide) rfl⟩
  · let last : Served := ⟨(Store.empty 1).run (as.take 3), ⟨9, 0⟩, .destroy k⟩
    have hlast : last ∈ xs := List.mem_of_getElem? (i := 3) rfl
    have hbefore : last.before.resources.get? k = some stored := by decide
    have hstays := hfinalizers last hlast stored hbefore (by decide)
    exact ⟨last, hlast, stored, hbefore, by decide, hstays⟩

end Fleet
