import Fleet.Proofs.Service.Run
import Fleet.Proofs.Session.Accounting
import Fleet.Proofs.Session.Exchange

/-!
# What is counted as a conflict

A conflict is counted by the code that the service answers. Two things are answered with such a
code: an update of a version that is no longer there, and a destruction that finalizers prevent.

* `Request.isStale`, `Request.isPinned`: the two, by what the service holds.
* `Store.codeOf_answer`: **a service without faults reports a conflict for these two alone.**
* `Crowd.heed`, `Crowd.heedAll`: what happens around a service, with every call that it answers.
* `Tallied`: the conflicts that clients have counted are those of their calls; `Tallied.invoke`,
  `Tallied.step`, `Crowd.heedAll_tallied`: **one call, one step and everything that happens leave it
  so.**
* `conflicts_counted`: what the counts of conflicts come to.
* `pinned_counted`: a destruction that finalizers prevent is counted, though no version is stale.
-/

namespace Fleet

/-! ### What the service reports -/

/-- A report of the service is a conflict by its code. -/
theorem Error.isConflict_remote (e : Status) : (Error.remote e).isConflict = true ↔
    e.code = .aborted ∨ e.code = .failedPrecondition := by
  simp [isConflict, code?]

namespace Request

variable {α : Type}

/-- An update expects another version than the one that is stored. -/
def isStale (m : Held) : Request α → Bool
  | .update r version => (m.get? (.of r.metadata)).any (·.metadata.version != version)
  | _ => false

/-- Finalizers keep what a destruction is addressed to. -/
def isPinned (m : Held) : Request α → Bool
  | .destroy k => (m.get? k).any (!·.metadata.finalizers.isEmpty)
  | _ => false

end Request

namespace Store

variable {α : Type} {s : Store} {now : WireTime} {r : Request α}

/-- What a service without faults answers is what it performs. -/
theorem answer_of_faultless (h : s.faults = []) : s.answer now r = s.perform now r := by
  unfold answer fault?
  rw [h]
  rfl

theorem answer_faults (s : Store) (now : WireTime) (r : Request α) :
    (s.answer now r).2.faults = s.faults := by
  rw [answer_snd]
  split
  · rfl
  · cases s.commit? now r <;> rfl

theorem selectorOf_code {x : String} {e : Status} (h : selectorOf x = .error e) :
    e.code = .invalidArgument := by
  unfold selectorOf at h
  split at h
  · cases h
  · cases h
    rfl

theorem patternOf_code {x : Option IdPattern} {e : Status} (h : patternOf x = .error e) :
    e.code = .invalidArgument := by
  unfold patternOf at h
  split at h
  · cases h
  · split at h
    · cases h
    · cases h
      rfl

/-- Filters that cannot be read are refused as arguments. -/
theorem check_code {q : ListQuery} {e : Status} (h : q.check = .error e) :
    e.code = .invalidArgument := by
  unfold ListQuery.check at h
  cases hselector : selectorOf q.selector with
  | error e' =>
    rw [hselector] at h
    cases h
    exact selectorOf_code hselector
  | ok sel =>
    rw [hselector] at h
    cases hpattern : patternOf q.idPattern with
    | error e' =>
      rw [hpattern] at h
      cases h
      exact patternOf_code hpattern
    | ok pattern =>
      rw [hpattern] at h
      cases h

/-- The code that a call is answered with, if it fails. -/
def codeOf (x : Except Status α) : Option Code :=
  match x with
  | .ok _ => none
  | .error e => some e.code

/-- **A service without faults reports a conflict for two reasons alone**, each with a code of its
own. -/
theorem codeOf_answer (h : s.faults = []) (now : WireTime) (r : Request α) :
    (codeOf (s.answer now r).1 = some .aborted ↔ r.isStale s.resources = true) ∧
      (codeOf (s.answer now r).1 = some .failedPrecondition ↔ r.isPinned s.resources = true) := by
  rw [answer_of_faultless h]
  cases r with
  | get k =>
    simp only [perform, find, Request.isStale, Request.isPinned]
    cases s.resources.get? k <;> simp [codeOf, missing]
  | list q =>
    simp only [perform, list, Request.isStale, Request.isPinned]
    cases hcheck : q.check with
    | error e => simp [codeOf, bind, Except.bind, check_code hcheck]
    | ok f => simp [codeOf, bind, Except.bind, pure, Except.pure]
  | watch q =>
    simp only [perform, watch, Request.isStale, Request.isPinned]
    cases hselector : selectorOf q.selector with
    | error e => simp [codeOf, bind, Except.bind, selectorOf_code hselector]
    | ok f => simp [codeOf, bind, Except.bind, pure, Except.pure]
  | create r =>
    simp only [perform, create, Request.isStale, Request.isPinned]
    split <;> simp [codeOf, occupied]
  | update r version =>
    simp only [perform, update, find, Request.isStale, Request.isPinned]
    cases s.resources.get? (.of r.metadata) with
    | none => simp [codeOf, missing]
    | some old => by_cases h : old.metadata.version = version <;> simp [codeOf, outdated, h]
  | destroy k =>
    simp only [perform, destroy, find, Request.isStale, Request.isPinned]
    cases s.resources.get? k with
    | none => simp [codeOf, missing]
    | some old => by_cases h : old.metadata.finalizers = [] <;> simp [codeOf, pinned, h]

end Store

/-! ### What happens around a service -/

/-- A call that the service has answered, and the member whose client made it. -/
structure Handled : Type 1 extends Served where
  member : Nat

namespace Handled

variable (x : Handled) (i : Nat)

/-- An update was rejected because the stored version was another one. -/
def isStale : Bool := x.request.isStale x.before.resources

/-- A destruction was refused because of finalizers. -/
def isPinned : Bool := x.request.isPinned x.before.resources

/-- It is answered as a conflict for these reasons alone. -/
theorem codeOf_answer (h : x.before.faults = []) :
    (Store.codeOf x.answer = some .aborted ↔ x.isStale = true) ∧
      (Store.codeOf x.answer = some .failedPrecondition ↔ x.isPinned = true) :=
  Store.codeOf_answer (s := x.before.count x.request.verb) h x.now x.request

/-- A call of a member's client, by a verb, was rejected for one of these reasons. -/
def isConflict (v : Verb) : Bool :=
  x.member = i && x.request.verb = v && (x.isStale || x.isPinned)

/-- Only updates can be stale. -/
theorem isConflict_update : x.isConflict i .update = (x.member = i && x.isStale) := by
  obtain ⟨⟨s, now, r⟩, j⟩ := x
  cases r <;> simp [isConflict, isStale, isPinned, Request.isStale, Request.isPinned, Request.verb]

/-- Only destructions can be prevented. -/
theorem isConflict_destroy : x.isConflict i .destroy = (x.member = i && x.isPinned) := by
  obtain ⟨⟨s, now, r⟩, j⟩ := x
  cases r <;> simp [isConflict, isStale, isPinned, Request.isStale, Request.isPinned, Request.verb]

/-- No other call is a conflict. -/
theorem isConflict_of_ne {v : Verb} (hu : v ≠ .update) (hd : v ≠ .destroy) :
    x.isConflict i v = false := by
  obtain ⟨⟨s, now, r⟩, j⟩ := x
  cases r with
  | update r version => simp [isConflict, Request.verb, Ne.symm hu]
  | destroy k => simp [isConflict, Request.verb, Ne.symm hd]
  | get | list | watch | create =>
    simp [isConflict, isStale, isPinned, Request.isStale, Request.isPinned]

end Handled

/-- What happens next around a service with clients. -/
inductive Incident : Type 1 where
  /-- An operation is started or takes a step. -/
  | move (m : Move)
  /-- A kind is registered at the client of a member. -/
  | register (i : Nat) (K : Kind) (name : String)
  | between (a : Interlude)

namespace Session

variable {α β : Type} {i : Nat} {s s' : Session} {xs : List Handled} {v : Verb}

/-- The call between two sessions, if the service has answered it. -/
def handled (i : Nat) (r : Request α) (s s' : Session) : List Handled :=
  if s'.readings = s.readings then [] else [⟨⟨s.store, s.reading, r⟩, i⟩]

/-- The call that the service answers in the next step of a plan. -/
def handledIn (i : Nat) (p : Plan α) (s : Session) : List Handled :=
  match p with
  | .call r _ => handled i r s (step i p s).2.1
  | .openList q _ _ => handled i (.list q) s (step i p s).2.1
  | .openWatch q _ _ => handled i (.watch q) s (step i p s).2.1
  | _ => []

/-- The conflicts that clients have counted are those of their calls, at a service without
faults. -/
structure Tallied (xs : List Handled) (s : Session) : Prop where
  faultless : s.store.faults = []
  calls : ∀ x ∈ xs, x.before.faults = []
  member : ∀ i m, s.members[i]? = some m → m.backend = .shared ∧
    ∀ v, (m.metrics.verbs.of v).conflicts = xs.countP (·.isConflict i v)

namespace Tallied

/-- A change that brings no fault and concerns no conflict. -/
theorem of_quiet (h : Tallied xs s) (hfaults : s'.store.faults = [])
    (hmember : ∀ (j : Nat) (m' : Member), s'.members[j]? = some m' → ∃ m : Member,
      s.members[j]? = some m ∧ m'.backend = m.backend ∧
        ∀ v, (m'.metrics.verbs.of v).conflicts = (m.metrics.verbs.of v).conflicts) :
    Tallied xs s' := by
  refine ⟨hfaults, h.calls, fun j m' hm' => ?_⟩
  obtain ⟨m, hm, hbackend, hconflicts⟩ := hmember j m' hm'
  obtain ⟨hshared, hcount⟩ := h.member j m hm
  exact ⟨hbackend.trans hshared, fun v => (hconflicts v).trans (hcount v)⟩

/-- No call was answered. -/
theorem idle (h : Tallied xs s) : Tallied (xs ++ []) s := by
  rw [List.append_nil]
  exact h

theorem later (h : Tallied xs s) (hl : Later s s') : Tallied xs s' :=
  ⟨by rw [hl.store]; exact h.faultless, h.calls, by rw [hl.members]; exact h.member⟩

/-- A change of the store that brings no fault. -/
theorem withStore (h : Tallied xs s) {store : Store} (hfaults : store.faults = []) :
    Tallied xs { s with store } := ⟨hfaults, h.calls, h.member⟩

/-- A change of a member that concerns no conflict. -/
theorem modifyMember (h : Tallied xs s) (j : Nat) {f : Member → Member}
    (hf : ∀ m, (f m).backend = m.backend ∧
      ∀ v, ((f m).metrics.verbs.of v).conflicts = (m.metrics.verbs.of v).conflicts) :
    Tallied xs (s.modifyMember j f) := by
  refine h.of_quiet h.faultless fun k m' hm' => ?_
  by_cases hk : j = k
  · subst hk
    rw [getElem?_modifyMember_self] at hm'
    obtain ⟨m, hm, rfl⟩ := Option.map_eq_some_iff.1 hm'
    exact ⟨m, hm, hf m⟩
  · rw [getElem?_modifyMember_of_ne f hk] at hm'
    exact ⟨m', hm', rfl, fun _ => rfl⟩

theorem note (h : Tallied xs s) (j : Nat) (n : Notice) : Tallied xs (s.note j n) :=
  h.modifyMember j fun _ => ⟨rfl, fun _ => by cases n <;> rfl⟩

theorem countRequest (h : Tallied xs s) (j : Nat) (v : Verb) : Tallied xs (s.countRequest j v) := by
  refine h.modifyMember j fun m => ⟨rfl, fun w => ?_⟩
  show ((m.metrics.verbs.modify v Tally.request).of w).conflicts = _
  by_cases hw : w = v
  · subst hw
    rw [PerVerb.of_modify_self]
    rfl
  · rw [PerVerb.of_modify_of_ne _ _ hw]

/-- A failure that is no conflict. -/
theorem countFailure (h : Tallied xs s) (j : Nat) (v : Verb) {x : Except Error α}
    (hx : ∀ e, x = .error e → e.isConflict = false) : Tallied xs (s.countFailure j v x) := by
  cases x with
  | ok a => exact h
  | error e =>
    refine h.modifyMember j fun m => ⟨rfl, fun w => ?_⟩
    show ((m.metrics.verbs.modify v (·.failure e)).of w).conflicts = _
    by_cases hw : w = v
    · subst hw
      rw [PerVerb.of_modify_self]
      show _ + (if e.isConflict = true then 1 else 0) = _
      rw [hx e rfl]
      rfl
    · rw [PerVerb.of_modify_of_ne _ _ hw]

/-- Starting a call counts no conflict. -/
theorem startCall (h : Tallied xs s) (i : Nat) (m : Member) (v : Verb) (token : Option Token) :
    Tallied xs (s.startCall i m v token).2 := by
  have hsigned : Tallied xs (s.modifyMember i fun m => { m with signed := m.signed ++ [v] }) :=
    h.modifyMember i fun _ => ⟨rfl, fun _ => rfl⟩
  have hstart := startCall_started s i m v token
  generalize s.startCall i m v token = y at hstart ⊢
  cases hstart with
  | cancelled => exact h
  | unsigned | overflow => exact hsigned
  | started => exact hsigned.countRequest i v

end Tallied

/-- Starting a call does not ask the service what time it is. -/
theorem startCall_readings (s : Session) (i : Nat) (m : Member) (v : Verb) (token : Option Token) :
    (s.startCall i m v token).2.readings = s.readings ∧
      (s.startCall i m v token).2.clock = s.clock := by
  have hstart := startCall_started s i m v token
  generalize s.startCall i m v token = y at hstart ⊢
  cases hstart with
  | cancelled | unsigned | overflow | started => exact ⟨rfl, rfl⟩

/-- The service answers with a conflict exactly if the call is stale or pinned. -/
theorem isConflict_answer (h : s.store.faults = []) (r : Request α) :
    (errorOf (s.answer r).1).any (·.isConflict) =
      (r.isStale s.store.resources || r.isPinned s.store.resources) := by
  obtain ⟨haborted, hprevented⟩ := Store.codeOf_answer h s.reading r
  rw [Bool.eq_iff_iff, Bool.or_eq_true, ← haborted, ← hprevented]
  show (errorOf ((s.store.answer s.reading r).1.mapError Error.remote)).any _ = true ↔ _
  cases (s.store.answer s.reading r).1 with
  | ok a => simp [Except.mapError, errorOf, Store.codeOf]
  | error status =>
    simp only [Except.mapError, errorOf, Store.codeOf, Option.any_some, Option.some.injEq,
      Error.isConflict_remote]

namespace Tallied

/-- **A call that is answered** is counted as a conflict exactly if it is one. -/
theorem answer (h : Tallied xs s) (i : Nat) (r : Request α) {store : Store} (now : WireTime)
    (hfaults : store.faults = []) (hheld : store.resources = s.store.resources) :
    Tallied (xs ++ [⟨⟨store, now, r⟩, i⟩])
      ((s.answer r).2.countFailure i r.verb (s.answer r).1) := by
  have hconflict := isConflict_answer h.faultless r
  have hnew : ∀ j v, (xs ++ [(⟨⟨store, now, r⟩, i⟩ : Handled)]).countP (·.isConflict j v) =
      xs.countP (·.isConflict j v) +
        if (i = j ∧ r.verb = v) ∧ (errorOf (s.answer r).1).any (·.isConflict) = true then 1
        else 0 := by
    intro j v
    rw [List.countP_append, List.countP_singleton, hconflict, ← hheld]
    simp [Handled.isConflict, Handled.isStale, Handled.isPinned]
  refine ⟨?_, ?_, fun j m' hm' => ?_⟩
  · rw [countFailure_store]
    exact (Store.answer_faults _ _ _).trans h.faultless
  · intro x hx
    rcases List.mem_append.1 hx with hx | hx
    · exact h.calls x hx
    · rw [List.mem_singleton.1 hx]
      exact hfaults
  · cases hx : (s.answer r).1 with
    | ok a =>
      rw [hx] at hm' hnew
      obtain ⟨hshared, hcount⟩ := h.member j m' hm'
      refine ⟨hshared, fun v => ?_⟩
      rw [hnew, hcount]
      simp [errorOf]
    | error e =>
      rw [hx] at hm' hnew
      by_cases hj : i = j
      · subst hj
        have hmap : s.members[i]?.map _ = some m' :=
          (getElem?_modifyMember_self (s := (s.answer r).2) i _).symm.trans hm'
        obtain ⟨m, hm, rfl⟩ := Option.map_eq_some_iff.1 hmap
        obtain ⟨hshared, hcount⟩ := h.member i m hm
        refine ⟨hshared, fun v => ?_⟩
        rw [hnew, ← hcount]
        show ((m.metrics.verbs.modify r.verb (·.failure e)).of v).conflicts = _
        by_cases hv : v = r.verb
        · subst hv
          rw [PerVerb.of_modify_self]
          simp [Tally.failure, errorOf]
        · rw [PerVerb.of_modify_of_ne _ _ hv]
          simp [Ne.symm hv]
      · have hother : s.members[j]? = some m' :=
          (getElem?_modifyMember_of_ne (s := (s.answer r).2) _ hj).symm.trans hm'
        obtain ⟨hshared, hcount⟩ := h.member j m' hother
        refine ⟨hshared, fun v => ?_⟩
        rw [hnew, hcount]
        simp [hj]

/-- A call that has reached the service is counted as a conflict exactly if it is answered with
one. -/
theorem finishCall (h : Tallied xs s) (i : Nat) (m : Member) (r : Request α)
    (token : Option Token) (headers : Headers) :
    Tallied (xs ++ handled i r s (s.finishCall i m r token headers).2)
      (s.finishCall i m r token headers).2 := by
  have hreceived : Tallied xs (s.receive r.verb headers) := ⟨h.faultless, h.calls, h.member⟩
  obtain ⟨s₁, hlater, hends⟩ := finishCall_cases s i m r token headers
  have h₁ := hreceived.later hlater
  have hreadings : s₁.readings = s.readings := by
    obtain ⟨_, _, _, rfl⟩ := hlater
    rfl
  rcases hends with hgiven | ⟨x, hx, hlate⟩ | hanswered
  -- the caller gave the call up, or its deadline passed: the service has not answered it
  · rw [hgiven, handled, if_pos hreadings, List.append_nil]
    exact h₁
  · have hsame : (s₁.countFailure i r.verb x).readings = s.readings := by
      rw [hx]
      exact hreadings
    rw [hlate, handled, if_pos hsame, List.append_nil]
    refine h₁.countFailure i r.verb fun e he => ?_
    rw [hx] at he
    cases he
    rfl
  · have hnext : ((s₁.answer r).2.countFailure i r.verb (s₁.answer r).1).readings ≠
        s.readings := by
      have hone : ((s₁.answer r).2.countFailure i r.verb (s₁.answer r).1).readings =
          s₁.readings + 1 := by
        cases (s₁.answer r).1 <;> rfl
      omega
    rw [hanswered, handled, if_neg hnext]
    refine h₁.answer i r _ h.faultless ?_
    rw [hlater.store]
    rfl

/-- **One call leaves the counts of conflicts right.** -/
theorem invoke (h : Tallied xs s) (i : Nat) (r : Request α) (token : Option Token) (f : α → β)
    (scripted : Backend → Option β) :
    Tallied (xs ++ handled i r s (s.invoke i r token f scripted).2)
      (s.invoke i r token f scripted).2 := by
  have hcall := invoke_cases s i r token f scripted
  generalize s.invoke i r token f scripted = y at hcall ⊢
  cases hcall with
  | missing =>
    rw [handled, if_pos rfl, List.append_nil]
    exact h
  | @refused m =>
    rw [handled, if_pos (startCall_readings s i m r.verb token).1, List.append_nil]
    exact h.startCall i m r.verb token
  | @served m c =>
    have hstore := startCall_store s i m r.verb token
    obtain ⟨hreadings, hclock⟩ := startCall_readings s i m r.verb token
    have hreading : (s.startCall i m r.verb token).2.reading = s.reading := by
      unfold reading
      rw [hreadings, hclock]
    have hfinish := (h.startCall i m r.verb token).finishCall i m r token c.1
    rw [handled, hreadings, hstore, hreading] at hfinish
    exact hfinish
  | scripted hm _ hother => exact absurd (h.member i _ hm).1 hother
  | unscripted hm _ hother => exact absurd (h.member i _ hm).1 hother

/-- **One step of a plan leaves the counts of conflicts right.** -/
theorem step (h : Tallied xs s) (i : Nat) (p : Plan α) :
    Tallied (xs ++ handledIn i p s) (Session.step i p s).2.1 := by
  cases p with
  | done r => exact h.idle
  | note n p => exact (h.note i n).idle
  | call r rest => exact h.invoke i r none id fun _ => none
  | openList q token rest => exact h.invoke i (.list q) token ListSource.page scriptedList
  | openWatch q token rest => exact h.invoke i (.watch q) token WatchSource.live scriptedWatch
  | collect st rest => exact (h.later (collect_later s st)).idle

theorem register (h : Tallied xs s) (j : Nat) (K : Kind) (name : String) :
    Tallied xs (s.register j K name).2 := by
  unfold Session.register
  split
  · exact h
  · split
    · exact h
    · exact h.modifyMember j fun _ => ⟨rfl, fun _ => rfl⟩

/-- What happens between the calls brings no conflict, unless it brings a fault. -/
theorem interlude (h : Tallied xs s) {a : Interlude} (ha : ∀ f, a ≠ .injectFault f) :
    Tallied xs (s.interlude a) := by
  cases a with
  | injectFault f => exact absurd rfl (ha f)
  | clearFaults => exact h.withStore rfl
  | insertRaw r => exact h.withStore h.faultless
  | setLatency latency => exact ⟨h.faultless, h.calls, h.member⟩
  | cancel t => exact h.later (cancel_later s t)
  | cancelAfter t span => exact ⟨h.faultless, h.calls, h.member⟩
  | pass span => exact h.later (advanceTo_later s _)
  | poll k =>
    obtain ⟨s₁, hlater, hsame | ⟨j, n, hnoted⟩⟩ := poll_cases s k
    · show Tallied xs (s.poll k).2.2
      rw [hsame]
      exact h.later hlater
    · show Tallied xs (s.poll k).2.2
      rw [hnoted]
      exact (h.later hlater).note j n

end Tallied

end Session

namespace Crowd

/-- What happens next around a crowd: the call that the service answers, if there is one, and the
crowd after it. -/
def heed (c : Crowd) : Incident → List Handled × Crowd
  | .move (.start i u) => ([], c.start i u)
  | .move (.go t) =>
    match c.tasks[t]? with
    | none => ([], c)
    | some task => (Session.handledIn task.member task.plan c.session, c.go t)
  | .register i K name => ([], { c with session := (c.session.register i K name).2 })
  | .between a => ([], { c with session := c.session.interlude a })

/-- Everything that happens around a crowd, with all calls that the service answers. -/
def heedAll (c : Crowd) : List Incident → List Handled × Crowd
  | [] => ([], c)
  | a :: as =>
    let (xs, c) := c.heed a
    let (ys, c) := c.heedAll as
    (xs ++ ys, c)

variable {c : Crowd} {xs : List Handled} {s : Session}

/-- **Whatever happens, unless it brings a fault, leaves the counts of conflicts right.** -/
theorem heed_tallied (h : c.session.Tallied xs) {a : Incident}
    (ha : ∀ f, a ≠ .between (.injectFault f)) :
    (c.heed a).2.session.Tallied (xs ++ (c.heed a).1) := by
  cases a with
  | move m =>
    cases m with
    | start i u => exact h.idle
    | go t =>
      cases ht : c.tasks[t]? with
      | none => simpa [heed, ht] using h
      | some task =>
        have hstep := h.step task.member task.plan
        simpa [heed, go, ht] using hstep
  | register i K name => exact (h.register i K name).idle
  | between a =>
    have hquiet : ∀ f, a ≠ .injectFault f := fun f hf => ha f (by rw [hf])
    exact (h.interlude hquiet).idle

/-- **So does everything that happens**, by induction on it. -/
theorem heedAll_tallied (h : c.session.Tallied xs) {as : List Incident}
    (has : ∀ f, .between (.injectFault f) ∉ as) :
    (c.heedAll as).2.session.Tallied (xs ++ (c.heedAll as).1) := by
  induction as generalizing c xs with
  | nil => exact h.idle
  | cons a as ih =>
    have hfirst := heed_tallied h fun f (hf : a = _) => has f (by rw [hf]; exact .head _)
    have hrest := ih hfirst fun f hf => has f (.tail _ hf)
    rw [List.append_assoc] at hrest
    exact hrest

/-- Clients that have counted nothing yet, at a service without faults. -/
structure Unused (s : Session) : Prop where
  faults : s.store.faults = []
  member : ∀ m ∈ s.members, m.backend = .shared ∧ m.metrics = .zero

/-- Nothing was called and nothing counted. -/
theorem Unused.tallied (h : Unused s) : s.Tallied [] := by
  refine ⟨h.faults, List.forall_mem_nil _, fun i m hm => ?_⟩
  obtain ⟨hshared, hzero⟩ := h.member m (List.mem_of_getElem? hm)
  refine ⟨hshared, fun v => ?_⟩
  rw [hzero]
  cases v <;> rfl

/-- **What counts as a conflict**, whatever any clients of a service without faults do at the same
time, and whatever is stored behind their backs: the service reports one exactly for an update of
another version than the stored one, as `aborted`, and for a destruction that finalizers prevent, as
`failedPrecondition`. Each client counts its own, the first with its updates and the second with its
destructions, and nothing else. -/
theorem conflicts_counted (h : Unused s) {as : List Incident}
    (has : ∀ f, .between (.injectFault f) ∉ as) :
    let xs := ((of s).heedAll as).1
    (∀ x ∈ xs, (Store.codeOf x.answer = some .aborted ↔ x.isStale = true) ∧
      (Store.codeOf x.answer = some .failedPrecondition ↔ x.isPinned = true) ∧
      ∀ e, x.answer = .error e →
        ((Error.remote e).isConflict = true ↔ x.isStale = true ∨ x.isPinned = true)) ∧
    ∀ i m, ((of s).heedAll as).2.session.members[i]? = some m →
      let stale := xs.countP fun x => x.member = i && x.isStale
      let pinned := xs.countP fun x => x.member = i && x.isPinned
      (m.metrics.verbs.of .update).conflicts = stale ∧
      (m.metrics.verbs.of .destroy).conflicts = pinned ∧
      (∀ v, v ≠ .update → v ≠ .destroy → (m.metrics.verbs.of v).conflicts = 0) ∧
      (m.metrics.verbs.map Tally.conflicts).total = stale + pinned := by
  intro xs
  have htallied := heedAll_tallied (c := of s) h.tallied has
  rw [List.nil_append] at htallied
  refine ⟨?_, ?_⟩
  · intro x hx
    obtain ⟨hstale, hpinned⟩ := x.codeOf_answer (htallied.calls x hx)
    refine ⟨hstale, hpinned, fun e he => ?_⟩
    rw [Error.isConflict_remote, ← hstale, ← hpinned, he]
    simp only [Store.codeOf, Option.some.injEq]
  intro i m hm stale pinned
  have hcount := (htallied.member i m hm).2
  have hupdate : (m.metrics.verbs.of .update).conflicts = stale := by
    rw [hcount]
    exact List.countP_congr fun x _ => by rw [x.isConflict_update]
  have hdestroy : (m.metrics.verbs.of .destroy).conflicts = pinned := by
    rw [hcount]
    exact List.countP_congr fun x _ => by rw [x.isConflict_destroy]
  have hother : ∀ v, v ≠ .update → v ≠ .destroy → (m.metrics.verbs.of v).conflicts = 0 := by
    intro v hu hd
    rw [hcount, List.countP_eq_zero]
    intro x _
    rw [x.isConflict_of_ne i hu hd]
    exact Bool.false_ne_true
  refine ⟨hupdate, hdestroy, hother, ?_⟩
  rw [Session.total_map]
  simp [Verb.all, hupdate, hdestroy, hother]

/-- A machine with a finalizer is stored, and a client tries to delete it. -/
def preventedDeletion : List Incident :=
  let m := Store.bare "default" Kind.machine.wireType "m1"
  [.between (.insertRaw { m with metadata := { m.metadata with finalizers := ["drain"] } }),
    .move (.start 0 (.client (.delete (K := .machine) "m1" none))), .move (.go 0)]

/-- Then it tries to replace a version that the machine does not have. -/
def staleUpdate : List Incident :=
  [.move (.start 0 (.client
      (.update (Resource.named "m1" Kind.machine.defaultSpec) (some "7")))), .move (.go 1)]

theorem unused_start : Unused (.start 4 [Session.writer]) :=
  ⟨rfl, fun m hm => by rw [List.mem_singleton.1 hm]; exact ⟨rfl, rfl⟩⟩

/-- A deletion that is prevented and an update that is stale are two conflicts. -/
theorem conflicts_counted_twice :
    let as := preventedDeletion ++ staleUpdate
    let c := (of (.start 4 [Session.writer])).heedAll as
    Unused (.start 4 [Session.writer]) ∧ (∀ f, .between (.injectFault f) ∉ as) ∧
      ∃ m, c.2.session.members[0]? = some m ∧ (m.metrics.verbs.of .update).conflicts = 1 ∧
        (m.metrics.verbs.of .destroy).conflicts = 1 ∧
        (m.metrics.verbs.map Tally.conflicts).total = 2 := by
  intro as c
  have hfaults : ∀ f, Incident.between (.injectFault f) ∉ as := by
    intro f hf
    simp [as, preventedDeletion, staleUpdate] at hf
  refine ⟨unused_start, hfaults, _, rfl, ?_⟩
  obtain ⟨-, hcounts⟩ := conflicts_counted unused_start hfaults
  obtain ⟨hupdate, hdestroy, -, htotal⟩ := hcounts 0 _ rfl
  refine ⟨hupdate.trans ?_, hdestroy.trans ?_, htotal.trans ?_⟩ <;> rfl

/-- **A deletion that finalizers prevent is counted as a conflict**, though no version is stale. -/
theorem pinned_counted :
    ¬∀ (s : Session) (as : List Incident), Unused s → (∀ f, .between (.injectFault f) ∉ as) →
      ∀ i m, ((of s).heedAll as).2.session.members[i]? = some m →
        (m.metrics.verbs.map Tally.conflicts).total =
          ((of s).heedAll as).1.countP fun x => x.member = i && x.isStale := by
  intro h
  have hfaults : ∀ f, Incident.between (.injectFault f) ∉ preventedDeletion := by
    intro f hf
    simp [preventedDeletion] at hf
  have hcount := h (.start 4 [Session.writer]) preventedDeletion unused_start hfaults 0 _ rfl
  have hone : 1 = 0 := hcount
  exact Nat.one_ne_zero hone

end Crowd

end Fleet
