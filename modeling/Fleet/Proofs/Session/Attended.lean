import Fleet.Proofs.Plan.Run
import Fleet.Proofs.Service.Commit
import Fleet.Proofs.Session.Frame

/-!
# Calls that are answered in time

A service may refuse calls by injected faults, and a caller may hold a token. Where neither the
deadline nor the caller ends a call, its answer is the one that the store gives.

* `Undisturbed`: a token that is not cancelled before the service has taken its time.
* `Attended`: a client whose calls reach the service and do not expire there.
* `Heard`: the session after a call that the store has answered.
* `Attended.invoke`: **a call of such a client is answered by the store**, faults included.
-/

namespace Fleet

namespace Session

variable {α β : Type} {i : Nat} {c : Client} {s s' : Session} {token : Option Token}

/-! ### Tokens that stay -/

/-- A token that is not cancelled, and that no timer cancels before the service has taken its
time. -/
structure Undisturbed (s : Session) (token : Option Token) : Prop where
  live : token.any s.cancelled.contains = false
  timers : ∀ t ∈ s.timers, token = some t.token → s.now + s.latency.getD 0 < t.due

/-- A call without a token cannot be cancelled. -/
theorem undisturbed_none (s : Session) : Undisturbed s none := ⟨rfl, nofun⟩

theorem mem_cancelAll {t : Token} {ts : List Token} :
    t ∈ (s.cancelAll ts).cancelled ↔ t ∈ s.cancelled ∨ t ∈ ts := by
  have hcancel : ∀ (s : Session) (a : Token), t ∈ (s.cancel a).cancelled ↔
      t ∈ s.cancelled ∨ t = a := by
    intro s a
    unfold cancel
    split
    · rename_i ha
      have hmem : a ∈ s.cancelled := List.contains_iff_mem.1 ha
      constructor
      · exact .inl
      · rintro (h | rfl)
        · exact h
        · exact hmem
    · rw [List.mem_cons, or_comm]
  unfold cancelAll
  induction ts generalizing s with
  | nil => simp
  | cons a ts ih =>
    have hrest : t ∈ ((s.cancel a).cancelAll ts).cancelled ↔
      t ∈ (s.cancel a).cancelled ∨ t ∈ ts := ih
    rw [List.mem_cons, ← or_assoc, ← hcancel]
    exact hrest

theorem mem_cancelled_advanceTo {t : Token} {now : Time} :
    t ∈ (s.advanceTo now).cancelled ↔
      t ∈ s.cancelled ∨ ∃ timer ∈ s.timers, timer.due ≤ max s.now now ∧ timer.token = t := by
  unfold advanceTo
  rw [mem_cancelAll]
  simp [and_assoc]

/-- A token is live if it is not among the cancelled ones. -/
theorem any_contains_eq_false_iff {cancelled : List Token} :
    token.any cancelled.contains = false ↔ ∀ t, token = some t → t ∉ cancelled := by
  cases token with
  | none => simp
  | some t => simp

/-- The session when the service has taken its time. -/
def answerTime (s : Session) : Session :=
  match s.latency with
  | none => s
  | some latency => s.advanceTo (s.now + latency)

theorem answerTime_later (s : Session) : Later s s.answerTime := by
  unfold answerTime
  cases s.latency with
  | none => exact .refl s
  | some latency => exact advanceTo_later s _

theorem answerTime_now (s : Session) : s.answerTime.now = s.now + s.latency.getD 0 := by
  unfold answerTime
  cases s.latency with
  | none => rfl
  | some latency =>
    rw [advanceTo_now]
    exact Nat.max_eq_right (Nat.le_add_right _ _)

/-- A token that is not disturbed is live when the answer comes. -/
theorem Undisturbed.answerTime (h : Undisturbed s token) :
    token.any s.answerTime.cancelled.contains = false := by
  have hlive := any_contains_eq_false_iff.1 h.live
  rw [any_contains_eq_false_iff]
  intro t ht
  unfold Session.answerTime
  cases hl : s.latency with
  | none => exact hlive t ht
  | some latency =>
    intro hmem
    rcases mem_cancelled_advanceTo.1 hmem with hmem | ⟨timer, htimer, hdue, rfl⟩
    · exact hlive t ht hmem
    · -- a timer that is due by then would have disturbed the token
      have hlater := h.timers timer htimer ht
      rw [hl, Option.getD_some] at hlater
      rw [Nat.max_eq_right (Nat.le_add_right _ _)] at hdue
      exact absurd hlater (Nat.not_lt.2 hdue)

/-- A wait that neither the deadline nor the caller ends is over when the service has taken its
time. -/
theorem awaitAnswer_ready {timeout : Span} (hprompt : ∀ l, s.latency = some l → l ≤ timeout.nanos)
    (htoken : Undisturbed s token) :
    s.awaitAnswer timeout token = (.ready, s.answerTime) := by
  unfold awaitAnswer answerTime
  cases hl : s.latency with
  | none => rfl
  | some latency =>
    have hle : latency ≤ timeout.nanos := hprompt latency hl
    dsimp only
    rw [Nat.min_eq_left hle, if_pos hle]
    cases ht : s.cancelTime? token with
    | none => rfl
    | some due =>
      obtain ⟨timer, htimer, hdue⟩ := List.mem_filterMap.1 (List.min?_mem ht)
      have hown : token = some timer.token ∧ timer.due = due := by
        split at hdue
        · rename_i he
          exact ⟨eq_of_beq he, Option.some.inj hdue⟩
        · cases hdue
      have hlater := htoken.timers timer htimer hown.1
      rw [hl, Option.getD_some, hown.2] at hlater
      exact if_neg (Nat.not_lt.2 (Nat.le_of_lt hlater))

/-! ### Calls that are heard -/

/-- How many resources of a bulk deletion a member's client has not been able to delete. -/
def bulkDeleteFailures (s : Session) (i : Nat) : Option Nat :=
  s.members[i]?.map (·.metrics.bulkDeleteFailures)

theorem bulkDeleteFailures_modifyMember {f : Member → Member}
    (hf : ∀ m, (f m).metrics.bulkDeleteFailures = m.metrics.bulkDeleteFailures) :
    (s.modifyMember i f).bulkDeleteFailures i = s.bulkDeleteFailures i := by
  rw [bulkDeleteFailures, getElem?_modifyMember_self, Option.map_map, bulkDeleteFailures]
  exact congrFun (congrArg Option.map (funext hf)) _

/-- A client whose calls reach the service and do not expire there. -/
structure Attended (i : Nat) (c : Client) (s : Session) : Prop where
  member : ∃ m, s.members[i]? = some m ∧ m.client = c ∧ m.backend = .shared ∧ m.signer.Signs
  timeout : c.config.timeout.seconds < 9223372036854775808
  prompt : ∀ l, s.latency = some l → l ≤ c.config.timeout.nanos

/-- Counting leaves a client that is attended to. -/
theorem Attended.modifyMember (h : Attended i c s) {f : Member → Member}
    (hf : ∀ m, (f m).client = m.client ∧ (f m).backend = m.backend ∧ (f m).signer = m.signer) :
    Attended i c (s.modifyMember i f) := by
  obtain ⟨m, hm, hclient, hbackend, hsigner⟩ := h.member
  obtain ⟨h₁, h₂, h₃⟩ := hf m
  exact ⟨⟨f m, getElem?_modifyMember f hm, h₁.trans hclient, h₂.trans hbackend, h₃ ▸ hsigner⟩,
    h.timeout, h.prompt⟩

/-- A call has been heard: the clock was read once, and this is the store after it. -/
structure Heard (i : Nat) (c : Client) (s : Session) (token : Option Token) (store : Store)
    (s' : Session) : Prop where
  attended : Attended i c s'
  store : s'.store = store
  clock : s'.clock = s.clock
  readings : s'.readings = s.readings + 1
  latency : s'.latency = s.latency
  live : token.any s'.cancelled.contains = false
  now : s'.now ≤ s.now + s.latency.getD 0
  bulk : s'.bulkDeleteFailures i = s.bulkDeleteFailures i

theorem Heard.countFailure {store : Store} (h : Heard i c s token store s') (v : Verb)
    (r : Except Error α) : Heard i c s token store (s'.countFailure i v r) := by
  cases r with
  | ok a => exact h
  | error e =>
    have hbulk : (s'.countFailure i v (.error e : Except Error α)).bulkDeleteFailures i =
        s'.bulkDeleteFailures i := bulkDeleteFailures_modifyMember fun _ => rfl
    exact ⟨h.attended.modifyMember fun _ => ⟨rfl, rfl, rfl⟩, h.store, h.clock, h.readings,
      h.latency, h.live, h.now, hbulk.trans h.bulk⟩

/-- A call that reaches the service is answered by the store, as soon as it has taken its time. -/
theorem Attended.finishCall (h : Attended i c s) {m : Member} (hm : m.client = c) (r : Request α)
    (htoken : Undisturbed s token) (headers : Headers) : ∃ s',
      s.finishCall i m r token headers =
        ((s.store.handle s.reading r).1.mapError .remote, s') ∧
      Heard i c s token (s.store.handle s.reading r).2 s' := by
  have hreceive : Undisturbed (s.receive r.verb headers) token := ⟨htoken.live, htoken.timers⟩
  obtain ⟨s₁, hwait, hlater, hlive, hnow⟩ : ∃ s₁, (if r.verb == Verb.watch then
      (Wait.ready, s.receive r.verb headers)
      else (s.receive r.verb headers).awaitAnswer m.client.config.timeout token) = (.ready, s₁) ∧
      Later (s.receive r.verb headers) s₁ ∧ token.any s₁.cancelled.contains = false ∧
      s₁.now ≤ s.now + s.latency.getD 0 := by
    split
    · exact ⟨_, rfl, .refl _, htoken.live, Nat.le_add_right _ _⟩
    · refine ⟨_, awaitAnswer_ready ?_ hreceive, answerTime_later _, hreceive.answerTime, ?_⟩
      · rw [hm]
        exact h.prompt
      · exact Nat.le_of_eq (answerTime_now _)
  have hfinish : s.finishCall i m r token headers =
      ((s₁.answer r).1, (s₁.answer r).2.countFailure i r.verb (s₁.answer r).1) := by
    unfold Session.finishCall
    dsimp only
    rw [hwait]
  -- neither receiving the call nor waiting touches what is stored or reads the clock
  have hanswer : (s₁.answer r).1 = (s.store.handle s.reading r).1.mapError .remote := by
    obtain ⟨_, _, _, rfl⟩ := hlater
    rfl
  have hheard : Heard i c s token (s.store.handle s.reading r).2 (s₁.answer r).2 := by
    obtain ⟨_, _, _, rfl⟩ := hlater
    exact ⟨⟨h.member, h.timeout, h.prompt⟩, rfl, rfl, rfl, rfl, hlive, hnow, rfl⟩
  rw [hanswer] at hfinish
  exact ⟨_, hfinish, hheard.countFailure _ _⟩

/-- What a script answers to a list. -/
def scriptedList : Backend → Option ListSource
  | .scripted lists _ => some (.script ⟨lists, none⟩)
  | .shared => none

/-- What a script answers to a watch. -/
def scriptedWatch : Backend → Option WatchSource
  | .scripted _ watches => some (.script ⟨watches, none⟩)
  | .shared => none

/-- **A call of a client that the service attends to** is answered by the store, whatever is made of
its answer. -/
theorem Attended.invoke (h : Attended i c s) (r : Request α) (htoken : Undisturbed s token)
    (f : α → β) (scripted : Backend → Option β) : ∃ s',
    s.invoke i r token f scripted =
      (((s.store.handle s.reading r).1.mapError .remote).map fun a =>
        (f a, s.now + c.config.timeout.nanos), s') ∧
    Heard i c s token (s.store.handle s.reading r).2 s' := by
  obtain ⟨m, hm, hclient, hbackend, hsigner⟩ := h.member
  have htimeout : m.client.config.timeout.seconds < 9223372036854775808 := hclient ▸ h.timeout
  rcases startCall_cases hsigner htimeout s i r.verb token with ⟨hc, -⟩ | ⟨-, headers, hstart⟩
  · rw [htoken.live] at hc
    cases hc
  · have hsigned : Attended i c (s.modifyMember i fun m =>
        { m with signed := m.signed ++ [r.verb] }) := h.modifyMember fun _ => ⟨rfl, rfl, rfl⟩
    have hstarted : Attended i c ((s.modifyMember i fun m =>
        { m with signed := m.signed ++ [r.verb] }).countRequest i r.verb) :=
      hsigned.modifyMember (f := fun m => { m with metrics := m.metrics.request r.verb })
        fun _ => ⟨rfl, rfl, rfl⟩
    have hundisturbed : Undisturbed ((s.modifyMember i fun m =>
        { m with signed := m.signed ++ [r.verb] }).countRequest i r.verb) token :=
      ⟨htoken.live, htoken.timers⟩
    obtain ⟨s', hfinish, hs'⟩ := hstarted.finishCall hclient r hundisturbed headers
    have hbulk : s'.bulkDeleteFailures i = s.bulkDeleteFailures i :=
      (hs'.bulk.trans (bulkDeleteFailures_modifyMember fun _ => rfl)).trans
        (bulkDeleteFailures_modifyMember fun _ => rfl)
    refine ⟨s', ?_, ⟨hs'.attended, hs'.store, hs'.clock, hs'.readings, hs'.latency, hs'.live,
      hs'.now, hbulk⟩⟩
    rw [invoke_served hm hstart hbackend, hfinish, hclient]
    rfl

end Session

end Fleet
