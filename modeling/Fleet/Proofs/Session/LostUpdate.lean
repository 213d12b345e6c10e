import Fleet.Proofs.Client.Careful
import Fleet.Proofs.Session.Linked
import Fleet.Proofs.Session.Serving

/-!
# No lost updates

Clients that work on the same resources at the same time lose no update, as long as a resource that
was read is not destroyed and created anew before it is replaced.

* `Crowd.Sound`: what holds at every moment of a crowd, and `Crowd.play_sound`, that it does.
* `no_lost_update`: **what an update replaces is what its version was read from**, in any run.
* `lost_update`: a resource that was destroyed and created anew has its first version again, and an
  update of what was there before goes through.
-/

namespace Fleet

variable {α : Type} {p : Plan α} {s : Session}

/-- A task has read this version of a key. -/
def HasRead (calls : List Call) (t : Nat) (q : Key × String) : Prop :=
  ∃ e ∈ calls, e.task = t ∧ ∃ w, e.read? = some (q.1, w) ∧ w.metadata.version = q.2

theorem HasRead.append {calls : List Call} {t : Nat} {q : Key × String} (h : HasRead calls t q)
    (es : List Call) : HasRead (calls ++ es) t q := by
  obtain ⟨e, he, h⟩ := h
  exact ⟨e, List.mem_append_left es he, h⟩

namespace Exchange

variable {e : Exchange}

/-- A service that holds resources under their keys answers with what was asked for. -/
theorem Sound.fits (h : e.Sound) (hm : e.before.Keyed) : e.request.Fits e.answer := by
  cases h with
  | got h => exact hm _ _ h
  | failed r => cases r <;> trivial
  | listed | watched | created | updated | destroyed => trivial

theorem returned?_of_read? {k : Key} {w : WireResource} (h : e.read? = some (k, w)) :
    e.returned? = some (k, w) := by
  obtain ⟨α, r, x, m, m'⟩ := e
  cases r with
  | get k => cases x <;> cases h; rfl
  | list | watch | create | update | destroy => cases x <;> cases h

/-- The version that an update replaces is the one that was known. -/
theorem mem_of_replaced? {q : Key × String} (hr : e.request.Known seen)
    (h : e.replaced? = some q) : q ∈ seen := by
  obtain ⟨α, r, x, m, m'⟩ := e
  cases r with
  | update r v =>
    cases x with
    | ok w => cases h; exact hr
    | error e => cases h
  | get | list | watch | create | destroy => cases x <;> cases h

theorem read?_of_mem_learn {q : Key × String} (h : q ∈ e.request.learn e.answer) :
    ∃ w, e.read? = some (q.1, w) ∧ w.metadata.version = q.2 := by
  obtain ⟨α, r, x, m, m'⟩ := e
  cases r with
  | get k =>
    cases x with
    | ok w => cases List.mem_singleton.1 h; exact ⟨w, rfl, rfl⟩
    | error e => cases h
  | list | watch | create | update | destroy => cases x <;> cases h

end Exchange

/-- A step without a call leaves a careful plan careful. -/
theorem Session.step_careful_none (i : Nat) (s : Session) (seen : Seen)
    (h : p.Careful (fun _ _ => True) seen) (hn : (step i p s).2.2 = none) :
    (step i p s).1.Careful (fun _ _ => True) seen := by
  cases p with
  | done r => exact h
  | note n p => exact h
  | call r rest => cases hn
  | openList q t rest => exact h _
  | openWatch q t rest => exact h _
  | collect st rest => exact h _

/-- A call of a careful plan replaces what the plan has read, and what it gets is read then. -/
theorem Session.step_careful_some (i : Nat) (s : Session) (seen : Seen) (e : Exchange)
    (h : p.Careful (fun _ _ => True) seen) (he : (step i p s).2.2 = some e) :
    (∀ q, e.replaced? = some q → q ∈ seen) ∧ (e.request.Fits e.answer →
      (step i p s).1.Careful (fun _ _ => True) (e.request.learn e.answer ++ seen)) := by
  cases p with
  | done | note | openList | openWatch | collect => cases he
  | call r rest =>
    cases he
    exact ⟨fun q hq => Exchange.mem_of_replaced? h.1 hq, h.2 _⟩

namespace Crowd

/-- What holds at every moment of a crowd around a service that held nothing. -/
structure Sound (c : Crowd) : Prop where
  /-- The calls account for what the service holds. -/
  linked : Linked ∅ c.calls c.session.store.resources
  keyed : c.session.store.resources.Keyed
  /-- Whoever puts back what they have read is careful. -/
  careful : ∀ t task, c.tasks[t]? = some task → task.use.readsFirst = true →
    ∃ seen, task.plan.Careful (fun _ _ => True) seen ∧ ∀ q ∈ seen, HasRead c.calls t q
  /-- Each of their updates replaces a version that was read for the same operation before. -/
  read : ∀ pre b, pre ++ [b] <+: c.calls → b.use.readsFirst = true →
    ∀ q, b.replaced? = some q → HasRead pre b.task q

variable {c : Crowd}

theorem of_sound (hs : s.store.resources = ∅) : (of s).Sound where
  linked := hs.symm
  keyed k w h := by
    have hn : (of s).session.store.resources.get? k = none := by
      show s.store.resources.get? k = none
      rw [hs]
      rfl
    rw [hn] at h
    cases h
  careful t task h := by simp [of] at h
  read pre b h := by simp [of] at h

/-- Starting an operation changes nothing that is held. -/
theorem start_sound (h : c.Sound) (i : Nat) (u : Use) : (c.start i u).Sound := by
  refine ⟨h.linked, h.keyed, fun t task ht hr => ?_, h.read⟩
  have ht' := List.getElem?_append.symm.trans ht
  split at ht'
  · exact h.careful t task ht' hr
  · -- the new operation has read nothing yet
    obtain ⟨m, -, hm⟩ := Option.bind_eq_some_iff.1 (Option.mem_toList.1 (List.mem_of_getElem? ht'))
    exact ⟨[], Use.careful hm hr, fun q hq => absurd hq List.not_mem_nil⟩

/-- The tasks after one of them has taken a step. -/
theorem tasks_careful {t : Nat} {task : Task} {plan : Plan task.α} {calls : List Call}
    (h : c.Sound) (es : List Call) (hcalls : calls = c.calls ++ es)
    (hplan : task.use.readsFirst = true → ∃ seen, plan.Careful (fun _ _ => True) seen ∧
      ∀ q ∈ seen, HasRead calls t q) :
    ∀ t' task', (c.tasks.set t { task with plan })[t']? = some task' →
      task'.use.readsFirst = true → ∃ seen, task'.plan.Careful (fun _ _ => True) seen ∧
        ∀ q ∈ seen, HasRead calls t' q := by
  intro t' task' ht' hr
  rw [List.getElem?_set] at ht'
  split at ht'
  · rename_i heq
    subst heq
    split at ht'
    · cases ht'; exact hplan hr
    · cases ht'
  · obtain ⟨seen, hc, hq⟩ := h.careful t' task' ht' hr
    exact ⟨seen, hc, fun q hmem => hcalls ▸ (hq q hmem).append es⟩

/-- A step of an operation. -/
theorem go_sound (h : c.Sound) (t : Nat) : (c.go t).Sound := by
  unfold go
  cases ht : c.tasks[t]? with
  | none => exact h
  | some task =>
    dsimp only
    have hstep := Session.step_sound task.member task.plan c.session
    have hnone := Session.step_careful_none (p := task.plan) task.member c.session
    have hsome := Session.step_careful_some (p := task.plan) task.member c.session
    generalize Session.step task.member task.plan c.session = y at hstep hnone hsome ⊢
    obtain ⟨plan, session, e⟩ := y
    dsimp only at hstep hnone hsome ⊢
    rcases hstep with ⟨e, rfl, hs, hb, ha⟩ | ⟨rfl, hres⟩
    · have hkeyed : e.before.Keyed := hb ▸ h.keyed
      refine ⟨?_, ha ▸ hs.keyed hkeyed, tasks_careful h _ rfl fun hr => ?_, ?_⟩
      · exact Linked.append_iff.2 ⟨_, h.linked, hs, hb, ha⟩
      · -- what this call has got is read from now on
        obtain ⟨seen, hc, hq⟩ := h.careful t task ht hr
        refine ⟨_, (hsome seen e hc rfl).2 (hs.fits hkeyed), fun q hmem => ?_⟩
        rcases List.mem_append.1 hmem with hmem | hmem
        · exact ⟨⟨e, t, task.use⟩, by simp, rfl, Exchange.read?_of_mem_learn hmem⟩
        · exact (hq q hmem).append _
      · -- the call that replaced is this one, whose plan had read before, or an earlier one
        intro pre b hpre hr q hb'
        rcases List.prefix_concat_iff.1 hpre with heq | hpre
        · obtain ⟨rfl, hlast⟩ := List.append_inj' heq rfl
          cases List.singleton_inj.1 hlast
          obtain ⟨seen, hc, hq⟩ := h.careful t task ht hr
          exact hq q ((hsome seen e hc rfl).1 q hb')
        · exact h.read pre b hpre hr q hb'
    · simp only [Option.map_none, Option.toList_none, List.append_nil]
      refine ⟨by rw [hres]; exact h.linked, by rw [hres]; exact h.keyed,
        tasks_careful h [] (List.append_nil _).symm fun hr => ?_, h.read⟩
      obtain ⟨seen, hc, hq⟩ := h.careful t task ht hr
      exact ⟨seen, hnone seen hc rfl, hq⟩

/-- **Every crowd around a service that held nothing is sound**, whatever the order of its steps. -/
theorem play_sound (h : c.Sound) (ms : List Move) : (c.play ms).Sound := by
  unfold play
  induction ms generalizing c with
  | nil => exact h
  | cons m ms ih =>
    refine ih ?_
    cases m with
    | start i u => exact start_sound h i u
    | go t => exact go_sound h t

/-- What an update found is what was returned before, unless the key was destroyed in between or
every version has been there. -/
def StillThere (k : Key) (w : WireResource) (mid : List Call) (b : Call) : Prop :=
  (b.before.get? k = some w ∧ ∀ e ∈ mid, e.changed? ≠ some k) ∨
    (∃ e ∈ mid, e.destroys k = true) ∨ Text.wordLimit ≤ updateCount k mid

/-- What an update of a returned version replaces. -/
theorem Sound.stillThere (h : c.Sound) {pre mid post : List Call} {a b : Call} {k : Key}
    {w : WireResource} (hcalls : c.calls = pre ++ a :: (mid ++ b :: post))
    (ha : a.returned? = some (k, w)) (hb : b.replaced? = some (k, w.metadata.version)) :
    StillThere k w mid b := by
  have hl := h.linked
  rw [hcalls] at hl
  obtain ⟨m, -, hsa, -, hl⟩ := Linked.append_iff.1 hl
  obtain ⟨m', hmid, hsb, rfl, -⟩ := Linked.append_iff.1 hl
  obtain ⟨old, hold, hv⟩ := hsb.get?_replaced hb
  rcases hmid.unchanged (hsa.get?_returned ha) hold hv with ⟨rfl, hc⟩ | hd | hn
  · exact .inl ⟨hold, hc⟩
  · exact .inr (.inl hd)
  · exact .inr (.inr hn)

/-- **No update is lost**, in any run of any operations of any clients around a service that held
nothing: an update whose version was returned for the key by a get, a create or an update replaces
exactly what was returned, and nothing changed the key in between, unless the key was destroyed in
between or every version has been there. Applying, locking and unlocking replace only versions that
they have read themselves, so the same holds of what they have read. -/
theorem no_lost_update (hs : s.store.resources = ∅) (ms : List Move) :
    (∀ pre a mid b post k w, ((of s).play ms).calls = pre ++ a :: (mid ++ b :: post) →
      a.returned? = some (k, w) → b.replaced? = some (k, w.metadata.version) →
      StillThere k w mid b) ∧
    ∀ pre b post k v, ((of s).play ms).calls = pre ++ b :: post → b.use.readsFirst = true →
      b.replaced? = some (k, v) → ∃ pre' a mid w, pre = pre' ++ a :: mid ∧ a.task = b.task ∧
        a.read? = some (k, w) ∧ w.metadata.version = v ∧ StillThere k w mid b := by
  have h := play_sound (of_sound hs) ms
  refine ⟨fun pre a mid b post k w hcalls ha hb => h.stillThere hcalls ha hb, ?_⟩
  intro pre b post k v hcalls hr hb
  have hpre : pre ++ [b] <+: ((of s).play ms).calls := ⟨post, by rw [hcalls]; simp⟩
  obtain ⟨a, hmem, htask, w, ha, hv⟩ := h.read pre b hpre hr (k, v) hb
  obtain ⟨pre', mid, rfl⟩ := List.append_of_mem hmem
  refine ⟨pre', a, mid, w, rfl, htask, ha, hv, ?_⟩
  have hcalls' : ((of s).play ms).calls = pre' ++ a :: (mid ++ b :: post) := by
    rw [hcalls]; simp
  exact h.stillThere hcalls' (Exchange.returned?_of_read? ha) (by rw [hv]; exact hb)

/-- Two clients that may write, around a service that holds nothing. -/
def writers : Session := .start 4 [Session.writer, Session.writer]

/-- A machine of an owner. -/
def machineOf (owner : String) : Resource .machine :=
  { Resource.named "m1" Kind.machine.defaultSpec with
    metadata := { Metadata.named "" "m1" with owner } }

/-- A machine that is created and locked has not changed when its lock is set. -/
theorem no_lost_update_lock :
    let ms : List Move := [.start 0 (.client (.create (machineOf "a"))), .go 0,
      .start 1 (.facade (.lock "m1" none)), .go 1, .go 1, .go 1]
    ∃ pre b k v, ((of writers).play ms).calls = pre ++ [b] ∧ b.replaced? = some (k, v) ∧
      ∃ (a : Call) (mid : List Call) (w : WireResource), a.read? = some (k, w) ∧
        w.metadata.version = v ∧ StillThere k w mid b := by
  intro ms
  refine ⟨[_, _], _, _, _, rfl, rfl, ?_⟩
  obtain ⟨-, a, mid, w, -, -, ha, hv, h⟩ :=
    (no_lost_update (s := writers) rfl ms).2 [_, _] _ [] _ _ rfl rfl rfl
  exact ⟨a, mid, w, ha, hv, h⟩

/-- The first client applies a machine; the second destroys it and creates another one between the
two calls of the first. -/
def recreation : List Move :=
  [.start 0 (.client (.create (machineOf "a"))), .go 0,
    .start 0 (.client (.apply (machineOf "b") false)), .go 1, .go 1,
    .start 1 (.client (.delete (K := .machine) "m1" none)), .go 2,
    .start 1 (.client (.create (machineOf "c"))), .go 3, .go 1]

/-- **An update is lost** where a machine was destroyed and created anew: it has its first version
again, so what was applied to the old one replaces the new one. -/
theorem lost_update :
    ¬∀ s ms, s.store.resources = ∅ → ∀ pre a mid b post k w,
      ((of s).play ms).calls = pre ++ a :: (mid ++ b :: post) → a.returned? = some (k, w) →
      b.replaced? = some (k, w.metadata.version) →
      b.before.get? k = some w ∧ ∀ e ∈ mid, e.changed? ≠ some k := by
  intro h
  have hlost := (h writers recreation rfl [_] _ [_, _] _ [] _ _ rfl rfl rfl).1
  have howner := congrArg (Option.map (·.metadata.owner)) hlost
  have hne : some "c" ≠ some "a" := by decide
  exact hne howner

end Crowd

end Fleet
