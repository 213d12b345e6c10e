import Fleet.Proofs.Service.Commit

/-!
# Atomic calls

A call that fails leaves no trace but its count, and one that succeeds changes nothing but the
resource that it is addressed to.

* `Store.SameContent`: two stores hold the same resources and have told the same events.
* `handle_atomic`: **failed calls are atomic and successful ones are framed**, in every store and
  with any injected faults.
-/

namespace Fleet.Store

variable {α : Type} {s : Store} {now : WireTime} {r : Request α}

/-- A resource that holds nothing but its key. -/
def bare (ns type id : String) : WireResource :=
  ⟨⟨ns, type, id, "", "", 0, none, none, [], ∅, ∅⟩, .absent, .absent⟩

/-- Two stores hold the same resources and have told the same events. -/
structure SameContent (s s' : Store) : Prop where
  resources : s'.resources = s.resources
  history : s'.history = s.history
  published : s'.published = s.published

theorem SameContent.refl (s : Store) : SameContent s s := ⟨rfl, rfl, rfl⟩

theorem SameContent.trans {s s' s'' : Store} (h : SameContent s s') (h' : SameContent s' s'') :
    SameContent s s'' :=
  ⟨h'.resources.trans h.resources, h'.history.trans h.history, h'.published.trans h.published⟩

/-- Counting a call changes no content. -/
theorem sameContent_count (s : Store) (v : Verb) : SameContent s (s.count v) := ⟨rfl, rfl, rfl⟩

/-- A call that makes no commit changes nothing. -/
theorem answer_snd_of_commit?_eq_none (h : s.commit? now r = none) : (s.answer now r).2 = s := by
  rw [answer_snd, h]
  simp

/-- Only mutations make commits. -/
theorem commit?_eq_none_of_not_isMutation (h : r.verb.isMutation = false) :
    s.commit? now r = none := by
  cases r with
  | get | list | watch => rfl
  | create | update | destroy => cases h

/-- A call that fails changes nothing. -/
theorem answer_snd_of_error {e : Status} (h : (s.answer now r).1 = .error e) :
    (s.answer now r).2 = s := by
  by_cases hr : r.verb.isMutation
  · -- a commit without a fault would have let the call succeed
    have hfail : ¬(s.fault? r.verb r.address = none ∧ ∃ c, s.commit? now r = some c) :=
      fun hok => by obtain ⟨a, ha⟩ := (answer_ok_iff hr).2 hok; rw [h] at ha; cases ha
    rw [answer_snd]
    cases hf : s.fault? r.verb r.address with
    | some status => rfl
    | none =>
      have hc : s.commit? now r = none := by
        by_contra hne
        exact hfail ⟨hf, Option.ne_none_iff_exists'.1 hne⟩
      simp [hc]
  · exact answer_snd_of_commit?_eq_none (commit?_eq_none_of_not_isMutation (by simpa using hr))

/-- A mutation that succeeds leaves the store that its commit leaves. -/
theorem answer_snd_of_ok {a : α} (hr : r.verb.isMutation) (h : (s.answer now r).1 = .ok a) :
    ∃ c, s.commit? now r = some c ∧ (s.answer now r).2 = c.applyTo s := by
  obtain ⟨hf, c, hc⟩ := (answer_ok_iff hr).1 ⟨a, h⟩
  exact ⟨c, hc, by rw [answer_snd, hf, hc]; simp⟩

/-- No call but a mutation that succeeds changes the content of a store. -/
theorem handle_sameContent
    (h : (∃ e, (s.handle now r).1 = .error e) ∨ r.verb.isMutation = false) :
    SameContent s (s.handle now r).2 := by
  have hsame : (s.handle now r).2 = s.count r.verb := by
    rcases h with ⟨e, h⟩ | h
    · exact answer_snd_of_error h
    · exact answer_snd_of_commit?_eq_none (commit?_eq_none_of_not_isMutation h)
  rw [hsame]
  exact sameContent_count s r.verb

/-- Answering a call counts none. -/
theorem answer_calls (s : Store) (now : WireTime) (r : Request α) :
    (s.answer now r).2.calls = s.calls := by
  rw [answer_snd]
  split
  · rfl
  · cases s.commit? now r <;> rfl

/-- **Failed calls are atomic and successful ones are framed.** A call counts itself and no other
verb. If it fails, or only reads, the resources, the history and the published events stay. If a
mutation succeeds, one event is published and the resources differ only under the key that the call
is addressed to. -/
theorem handle_atomic (s : Store) (now : WireTime) (r : Request α) :
    ((s.handle now r).2.calls.of r.verb = s.calls.of r.verb + 1 ∧
      ∀ v, v ≠ r.verb → (s.handle now r).2.calls.of v = s.calls.of v) ∧
    ((∃ e, (s.handle now r).1 = .error e) ∨ r.verb.isMutation = false →
      SameContent s (s.handle now r).2) ∧
    ((∃ a, (s.handle now r).1 = .ok a) → r.verb.isMutation = true →
      ∃ k e, r.key? = some k ∧
        (s.handle now r).2.published = s.published ++ [e] ∧
        (s.handle now r).2.history = (s.publish e).history ∧
        ∀ j, j ≠ k → (s.handle now r).2.resources.get? j = s.resources.get? j) := by
  refine ⟨⟨?_, ?_⟩, handle_sameContent, ?_⟩
  · rw [handle, answer_calls, count_calls, PerVerb.of_modify_self]
  · intro v hv
    rw [handle, answer_calls, count_calls, PerVerb.of_modify_of_ne _ _ hv]
  · rintro ⟨a, ha⟩ hr
    obtain ⟨c, hc, hs⟩ := answer_snd_of_ok hr ha
    refine ⟨c.key, c.event (s.count r.verb), commit?_key hc, ?_, ?_, ?_⟩
    · rw [handle, hs]; rfl
    · rw [handle, hs]; rfl
    · intro j hj
      rw [handle, hs, Commit.applyTo_resources, Commit.get?_edit_of_ne _ _ hj]; rfl

/-- Beside a machine, another one can be created, and the same one cannot. -/
theorem handle_atomic_occupied :
    let s := ((empty 1).handle ⟨7, 0⟩ (.create (bare "a" "Machines" "m1"))).2
    let again : Request WireResource := .create (bare "a" "Machines" "m1")
    let other : Request WireResource := .create (bare "a" "Machines" "m2")
    ((∃ e, (s.handle ⟨8, 0⟩ again).1 = .error e) ∧ SameContent s (s.handle ⟨8, 0⟩ again).2) ∧
      (∃ a, (s.handle ⟨8, 0⟩ other).1 = .ok a) ∧
      ∃ k e, other.key? = some k ∧ (s.handle ⟨8, 0⟩ other).2.published = s.published ++ [e] ∧
        (s.handle ⟨8, 0⟩ other).2.history = (s.publish e).history ∧
        ∀ j, j ≠ k → (s.handle ⟨8, 0⟩ other).2.resources.get? j = s.resources.get? j := by
  intro s again other
  have hagain : (s.handle ⟨8, 0⟩ again).1 = .error (occupied ⟨"a", "Machines", "m1"⟩) := rfl
  have hother : (s.handle ⟨8, 0⟩ other).1 =
      .ok (asCreated ⟨8, 0⟩ (bare "a" "Machines" "m2")) := rfl
  exact ⟨⟨⟨_, hagain⟩, (handle_atomic s _ again).2.1 (.inl ⟨_, hagain⟩)⟩, ⟨_, hother⟩,
    (handle_atomic s _ other).2.2 ⟨_, hother⟩ rfl⟩

end Fleet.Store
