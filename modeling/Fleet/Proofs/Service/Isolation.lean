import Fleet.Proofs.OrderedMap
import Fleet.Proofs.Service.EventLog

/-!
# Compartments

The resources of one namespace and type make up a compartment. Calls that are addressed to different
compartments do not meet, whatever is stored and whichever calls are made to fail.

* `Compartment.part`, `Compartment.events`: what of a service belongs to a compartment.
* `Store.Alike`: two services that cannot be told apart from within a compartment.
* `Alike.handle_fst`: **alike services give the same answers** to calls of the compartment.
* `Alike.act`, `Alike.act_other`: they stay alike, whether one thing happens to both of them or
  something that does not concern the compartment happens to one.
* `compartments_isolated`: **what happens elsewhere can be left out of a run.** Watches are not
  spoken of: all compartments share one history, and what is replayed depends on how full it is.
-/

namespace Fleet

/-- A namespace and a type. -/
@[ext]
structure Compartment where
  ns : String
  type : String
  deriving DecidableEq, Repr

/-- The compartment of a key. -/
def Key.compartment (k : Key) : Compartment := ⟨k.ns, k.type⟩

/-- The compartment that a call is addressed to. -/
def Request.compartment {α : Type} : Request α → Compartment
  | .get k | .destroy k => k.compartment
  | .list q => ⟨q.ns, q.type⟩
  | .watch q => ⟨q.ns, q.type⟩
  | .create r | .update r _ => (Key.of r.metadata).compartment

/-- What happens concerns a compartment: a call that is addressed to it or a resource that is stored
in it. Faults are injected for all of them. -/
def Act.concerns (p : Compartment) : Act → Bool
  | .call _ r => r.compartment = p
  | .insertRaw r => (Key.of r.metadata).compartment = p
  | .injectFault _ | .clearFaults => true

/-- A call and its answer. -/
structure Reply : Type 1 where
  {α : Type}
  now : WireTime
  request : Request α
  answer : Except Status α

/-- What a call was answered. -/
def Served.reply (x : Served) : Reply := ⟨x.now, x.request, x.answer⟩

namespace Compartment

variable (p : Compartment)

/-- The resources of a compartment. -/
def part (m : Held) : Held :=
  ⟨m.entries.filter (·.1.compartment = p), Entries.filter_increasing _ m.increasing⟩

/-- The events of a compartment, in order. -/
def events (es : List WireEvent) : List WireEvent :=
  es.filter fun e => (Key.of e.resource.metadata).compartment = p

/-- What the calls that are addressed to a compartment were answered, but for watches. -/
def replies (xs : List Served) : List Reply :=
  (xs.filter fun x => x.request.compartment = p ∧ x.request.verb ≠ .watch).map Served.reply

variable {p} {m m' : Held} {k : Key} {w : WireResource} {c : Commit}

theorem get?_part : (p.part m).get? k = some w ↔ m.get? k = some w ∧ k.compartment = p := by
  rw [OrderedMap.get?_eq_some_iff, OrderedMap.get?_eq_some_iff]
  simp [part]

/-- What a key of a compartment holds is in the part of the compartment. -/
theorem get?_congr (h : p.part m = p.part m') (hk : k.compartment = p) : m.get? k = m'.get? k := by
  have hpart : ∀ w, m.get? k = some w ↔ m'.get? k = some w := fun w => by
    rw [← and_iff_left (a := m.get? k = some w) hk, ← get?_part, h, get?_part, and_iff_left hk]
  exact Option.ext hpart

/-- A commit of a key of a compartment is one of its part. -/
theorem part_edit (m : Held) (hk : c.key.compartment = p) :
    p.part (c.edit m) = c.edit (p.part m) := by
  refine OrderedMap.ext_get? fun k w => ?_
  rw [get?_part]
  by_cases he : k = c.key
  · rw [he, Commit.get?_edit_key, Commit.get?_edit_key, and_iff_left hk]
  · rw [Commit.get?_edit_of_ne c m he, Commit.get?_edit_of_ne c _ he, get?_part]

/-- A commit of any other key leaves the part as it was. -/
theorem part_edit_of_ne (m : Held) (hk : c.key.compartment ≠ p) :
    p.part (c.edit m) = p.part m := by
  refine OrderedMap.ext_get? fun k w => ?_
  rw [get?_part, get?_part]
  refine and_congr_left fun hp => ?_
  have he : k ≠ c.key := fun he => hk (he ▸ hp)
  rw [Commit.get?_edit_of_ne c m he]

theorem compartment_eq_iff : k.compartment = p ↔ k.ns = p.ns ∧ k.type = p.type :=
  Compartment.ext_iff

/-- The resources of a compartment are counted in its part. -/
theorem countOf_eq (s : Store) :
    s.countOf p.ns p.type = (p.part s.resources).entries.length := by
  unfold Store.countOf OrderedMap.keys part
  rw [List.filter_map, List.length_map]
  refine congrArg List.length (List.filter_congr fun e _ => ?_)
  simp [compartment_eq_iff, Bool.beq_eq_decide_eq]

/-- A list finds what it asks for in the part of its compartment. -/
theorem matching_part (q : ListQuery) (f : ListQuery.Filters) (m : Held) :
    q.matching f ((⟨q.ns, q.type⟩ : Compartment).part m) = q.matching f m := by
  unfold ListQuery.matching
  refine congrArg (List.map _) ?_
  show (m.entries.filter _).filter _ = m.entries.filter _
  rw [List.filter_filter]
  refine List.filter_congr fun e _ => ?_
  by_cases h : e.1.compartment = ⟨q.ns, q.type⟩
  · simp [h]
  · have hne : ¬(e.1.ns = q.ns ∧ e.1.type = q.type) := fun hk => h (compartment_eq_iff.2 hk)
    have hadmits : q.admits f e.1 e.2 = false := by
      simp only [ListQuery.admits, Bool.beq_eq_decide_eq, ← Bool.decide_and, hne, decide_false,
        Bool.false_and]
    simp [hadmits]

/-- Another event belongs to the compartment or does not. -/
theorem events_concat (es : List WireEvent) (e : WireEvent) :
    p.events (es ++ [e]) =
      p.events es ++ if (Key.of e.resource.metadata).compartment = p then [e] else [] := by
  unfold events
  rw [List.filter_append]
  by_cases h : (Key.of e.resource.metadata).compartment = p <;> simp [h]

theorem replies_append (xs ys : List Served) :
    p.replies (xs ++ ys) = p.replies xs ++ p.replies ys := by
  unfold replies
  rw [List.filter_append, List.map_append]

end Compartment

namespace Store

variable {p : Compartment} {s s' t u : Store} {α : Type}

/-- Two services that cannot be told apart from within a compartment: they hold the same resources
of it, have told the same events of it and make the same calls fail. -/
structure Alike (p : Compartment) (s t : Store) : Prop where
  held : p.part s.resources = p.part t.resources
  told : p.events s.published = p.events t.published
  faults : s.faults = t.faults

namespace Alike

theorem refl (s : Store) : Alike p s s := ⟨rfl, rfl, rfl⟩

theorem trans (h : Alike p s t) (h' : Alike p t u) : Alike p s u :=
  ⟨h.held.trans h'.held, h.told.trans h'.told, h.faults.trans h'.faults⟩

/-- Alike services make the same calls fail. -/
theorem fault? (h : Alike p s t) (v : Verb) (id : String) : s.fault? v id = t.fault? v id := by
  unfold Store.fault?
  rw [h.faults]

/-- Alike services tell the same number of resources. -/
theorem total (h : Alike p s t) : s.total p.ns p.type = t.total p.ns p.type := by
  unfold Store.total
  rw [Compartment.countOf_eq, Compartment.countOf_eq, h.held]

/-- Alike services find the same resource under a key of the compartment. -/
theorem get? (h : Alike p s t) {k : Key} (hk : k.compartment = p) :
    s.resources.get? k = t.resources.get? k :=
  Compartment.get?_congr h.held hk

theorem contains (h : Alike p s t) {k : Key} (hk : k.compartment = p) :
    s.resources.contains k = t.resources.contains k :=
  congrArg Option.isSome (h.get? hk)

/-- Alike services list the same resources of the compartment. -/
theorem list {q : ListQuery} (h : Alike ⟨q.ns, q.type⟩ s t) : s.list q = t.list q := by
  unfold Store.list
  cases q.check with
  | error e => rfl
  | ok f =>
    show Except.ok (q.select f s.resources) = Except.ok (q.select f t.resources)
    unfold ListQuery.select
    rw [← Compartment.matching_part, h.held, Compartment.matching_part]

/-- A call of the compartment makes the same commit in alike services. -/
theorem commit? (h : Alike p s t) (now : WireTime) {r : Request α} (hr : r.compartment = p) :
    s.commit? now r = t.commit? now r := by
  cases r with
  | get | list | watch => rfl
  | create r =>
    simp only [Store.commit?]
    rw [h.contains hr]
  | update r v => simp only [Store.commit?, h.get? hr]
  | destroy k => simp only [Store.commit?, h.get? hr]

/-- **Alike services give the same answers** to calls of the compartment, but for watches. -/
theorem handle_fst (h : Alike p s t) (now : WireTime) {r : Request α} (hr : r.compartment = p)
    (hw : r.verb ≠ .watch) : (s.handle now r).1 = (t.handle now r).1 := by
  unfold handle answer
  -- whether a call is made to fail is settled before anything is looked up
  have hfault : (s.count r.verb).fault? r.verb r.address =
      (t.count r.verb).fault? r.verb r.address := h.fault? _ _
  rw [hfault]
  cases (t.count r.verb).fault? r.verb r.address with
  | some status => rfl
  | none =>
    cases r with
    | watch q => exact absurd rfl hw
    | list q =>
      cases hr
      exact h.list
    | get k => simp only [perform, find, count_resources, h.get? hr]
    | create r =>
      show (if s.resources.contains (Key.of r.metadata) then _ else _ : _ × Store).1 =
        (if t.resources.contains (Key.of r.metadata) then _ else _ : _ × Store).1
      rw [h.contains hr]
      split <;> rfl
    | update r v =>
      simp only [perform, update, find, count_resources, h.get? hr]
      cases t.resources.get? (Key.of r.metadata) with
      | none => rfl
      | some old => dsimp only; split <;> rfl
    | destroy k =>
      simp only [perform, destroy, find, count_resources, h.get? hr]
      cases t.resources.get? k with
      | none => rfl
      | some old => dsimp only; split <;> rfl

/-- A commit of the compartment in alike services. -/
theorem commit (h : Alike p s t) {c : Commit} (hc : c.key.compartment = p) :
    Alike p (c.applyTo s) (c.applyTo t) := by
  have hheld : p.part (c.edit s.resources) = p.part (c.edit t.resources) := by
    rw [Compartment.part_edit _ hc, Compartment.part_edit _ hc, h.held]
  have hevent : c.event s = c.event t := by
    -- the event counts the resources of the compartment
    have htotal := total (s := { s with resources := c.edit s.resources })
      (t := { t with resources := c.edit t.resources }) ⟨hheld, h.told, h.faults⟩
    subst hc
    unfold Commit.event
    exact congrArg (WireEvent.mk _ _ _) htotal
  refine ⟨hheld, ?_, h.faults⟩
  rw [Commit.applyTo_published, Commit.applyTo_published, Compartment.events_concat,
    Compartment.events_concat, h.told, hevent]

/-- **What concerns the compartment** and happens to alike services leaves them alike. -/
theorem act (h : Alike p s t) {a : Act} (ha : a.concerns p = true) :
    Alike p (s.act a) (t.act a) := by
  cases a with
  | call now r =>
    have hr : r.compartment = p := of_decide_eq_true ha
    have hcounted : Alike p (s.count r.verb) (t.count r.verb) := ⟨h.held, h.told, h.faults⟩
    show Alike p ((s.count r.verb).answer now r).2 ((t.count r.verb).answer now r).2
    rw [answer_snd, answer_snd, hcounted.fault?, hcounted.commit? now hr]
    split
    · exact hcounted
    · cases hc : (t.count r.verb).commit? now r with
      | none => exact hcounted
      | some c =>
        refine hcounted.commit ?_
        rw [← hr]
        cases makes_of_commit? hc <;> rfl
  | injectFault f => exact ⟨h.held, h.told, congrArg (f :: ·) h.faults⟩
  | clearFaults => exact ⟨h.held, h.told, rfl⟩
  | insertRaw r =>
    -- what is stored as it is goes where a creation would put it
    have hr : (Commit.created r).key.compartment = p := of_decide_eq_true ha
    refine ⟨?_, h.told, h.faults⟩
    show p.part ((Commit.created r).edit s.resources) = p.part ((Commit.created r).edit t.resources)
    rw [Compartment.part_edit _ hr, Compartment.part_edit _ hr, h.held]

/-- **What does not concern the compartment** leaves a service alike. -/
theorem act_other (hm : s.resources.Keyed) {a : Act} (ha : a.concerns p = false) :
    Alike p (s.act a) s := by
  cases a with
  | call now r =>
    have hr : r.compartment ≠ p := of_decide_eq_false ha
    have hfaults : (s.handle now r).2.faults = s.faults := by
      rw [handle, answer_snd]
      split
      · rfl
      · cases (s.count r.verb).commit? now r <;> rfl
    -- a call leaves all as it was, or commits the key that it is addressed to
    rcases Served.outcome ⟨s, now, r⟩ with ⟨-, hsame⟩ | ⟨c, hc⟩
    · exact ⟨congrArg p.part hsame.resources, congrArg p.events hsame.published, hfaults⟩
    · have hkey : c.key.compartment ≠ p := by
        intro he
        refine hr (he ▸ ?_)
        cases hc.makes <;> rfl
      have hsubject : (Key.of (c.event s).resource.metadata).compartment ≠ p := by
        rw [show Key.of (c.event s).resource.metadata = c.key from hc.key_subject hm]
        exact hkey
      refine ⟨?_, ?_, hfaults⟩
      · exact (congrArg p.part hc.resources).trans (Compartment.part_edit_of_ne _ hkey)
      · refine (congrArg p.events hc.published).trans ?_
        rw [Compartment.events_concat, if_neg hsubject, List.append_nil]
  | injectFault | clearFaults => cases ha
  | insertRaw r =>
    have hr : (Commit.created r).key.compartment ≠ p := of_decide_eq_false ha
    exact ⟨Compartment.part_edit_of_ne _ hr, rfl, rfl⟩

/-- What does not concern the compartment is not answered to it. -/
theorem replies_served?_other (s : Store) {a : Act} (ha : a.concerns p = false) :
    p.replies (s.served? a).toList = [] := by
  cases a with
  | call now r =>
    have hr : r.compartment ≠ p := of_decide_eq_false ha
    simp [Compartment.replies, served?, hr]
  | injectFault | clearFaults | insertRaw => rfl

/-- What concerns the compartment is answered alike. -/
theorem replies_served? (h : Alike p s t) {a : Act} (ha : a.concerns p = true) :
    p.replies (s.served? a).toList = p.replies (t.served? a).toList := by
  cases a with
  | call now r =>
    have hr : r.compartment = p := of_decide_eq_true ha
    by_cases hw : r.verb = .watch
    · simp [Compartment.replies, served?, hw]
    · have hreply : (⟨now, r, (s.handle now r).1⟩ : Reply) = ⟨now, r, (t.handle now r).1⟩ :=
        congrArg (Reply.mk now r) (h.handle_fst now hr hw)
      simpa [Compartment.replies, served?, hr, hw, Served.reply, Served.answer] using hreply
  | injectFault | clearFaults | insertRaw => rfl

/-- **Alike services stay alike** when one of them is spared what does not concern the compartment,
and they answer its calls alike. -/
theorem run (h : Alike p s t) (hm : s.resources.Keyed) (as : List Act) :
    Alike p (s.run as) (t.run (as.filter (·.concerns p))) ∧
      p.replies (s.trace as) = p.replies (t.trace (as.filter (·.concerns p))) := by
  -- what concerns the compartment happens to both, anything else to the first of them alone
  induction as generalizing s t with
  | nil => exact ⟨h, rfl⟩
  | cons a as ih =>
    have hkeyed : (s.act a).resources.Keyed := run_keyed hm [a]
    rw [trace, Compartment.replies_append]
    cases ha : a.concerns p with
    | false =>
      obtain ⟨hrun, hreplies⟩ := ih ((act_other hm ha).trans h) hkeyed
      rw [List.filter_cons_of_neg (by simp [ha]), replies_served?_other s ha]
      exact ⟨hrun, hreplies⟩
    | true =>
      obtain ⟨hrun, hreplies⟩ := ih (h.act ha) hkeyed
      rw [List.filter_cons_of_pos ha, trace, Compartment.replies_append, h.replies_served? ha]
      exact ⟨hrun, congrArg _ hreplies⟩

end Alike

end Store

/-- **Compartments are isolated.** In any state that a service comes to, and for any run of calls,
raw insertions and changes of faults: if all is left out that is addressed to other namespaces or
types, every other call but a watch is answered as before, and the same events of the compartment
are published, with the same counts. -/
theorem compartments_isolated (limit : Nat) (before as : List Act) (p : Compartment) :
    let s := (Store.empty limit).run before
    let kept := as.filter (·.concerns p)
    p.replies (s.trace kept) = p.replies (s.trace as) ∧
      p.events (s.run kept).published = p.events (s.run as).published := by
  intro s kept
  have hm : s.resources.Keyed := Store.run_keyed (Store.empty_keyed limit) before
  obtain ⟨hrun, hreplies⟩ := (Store.Alike.refl (p := p) s).run hm as
  exact ⟨hreplies.symm, hrun.told.symm⟩

end Fleet
