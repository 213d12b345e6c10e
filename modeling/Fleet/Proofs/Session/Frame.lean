import Fleet.Session.Run
import Mathlib.Tactic.Common

/-!
# What the parts of a session leave alone

Time passes, tokens are cancelled and events are counted without the store noticing, and the store
answers without the clients noticing.

* `Later`: only time has passed, with what that brings about.
* `awaitAnswer_later`, `collect_later`: waiting and reading only let time pass.
* `Started`, `finishCall_cases`: the ways in which a call starts, and those in which one ends that
  has reached the service.
* `Invoked`, `invoke_cases`: **the ways in which a call goes**, from its start to its end.
* `getElem?_modifyMember_self`, `getElem?_modifyMember_of_ne`: the members after one has changed.
-/

namespace Fleet.Session

variable {s s' s'' : Session}

/-- Only time has passed: the clock of the session, its timers and its tokens may differ. -/
def Later (s s' : Session) : Prop :=
  ∃ now timers cancelled, s' = { s with now, timers, cancelled }

theorem Later.refl (s : Session) : Later s s := ⟨_, _, _, rfl⟩

theorem Later.trans (h : Later s s') (h' : Later s' s'') : Later s s'' := by
  obtain ⟨_, _, _, rfl⟩ := h
  obtain ⟨_, _, _, rfl⟩ := h'
  exact ⟨_, _, _, rfl⟩

theorem Later.store (h : Later s s') : s'.store = s.store := by
  obtain ⟨_, _, _, rfl⟩ := h
  rfl

theorem Later.members (h : Later s s') : s'.members = s.members := by
  obtain ⟨_, _, _, rfl⟩ := h
  rfl

theorem cancel_later (s : Session) (t : Token) : Later s (s.cancel t) := by
  unfold cancel
  split
  · exact .refl s
  · exact ⟨_, _, _, rfl⟩

theorem cancelAll_later (s : Session) (ts : List Token) : Later s (s.cancelAll ts) := by
  unfold cancelAll
  induction ts generalizing s with
  | nil => exact .refl s
  | cons t ts ih => exact (cancel_later s t).trans (ih _)

theorem advanceTo_later (s : Session) (t : Time) : Later s (s.advanceTo t) :=
  Later.trans ⟨_, _, _, rfl⟩ (cancelAll_later _ _)

theorem cancelAll_now (s : Session) (ts : List Token) : (s.cancelAll ts).now = s.now := by
  unfold cancelAll
  induction ts generalizing s with
  | nil => rfl
  | cons t ts ih =>
    rw [List.foldl_cons, ih]
    unfold cancel
    split <;> rfl

@[simp] theorem advanceTo_now (s : Session) (t : Time) : (s.advanceTo t).now = max s.now t :=
  cancelAll_now _ _

/-- Waiting for an answer only lets time pass. -/
theorem awaitAnswer_later (s : Session) (timeout : Span) (token : Option Token) :
    Later s (s.awaitAnswer timeout token).2 := by
  unfold awaitAnswer
  cases s.latency with
  | none => exact .refl s
  | some latency =>
    dsimp only
    cases s.cancelTime? token with
    | none => exact advanceTo_later s _
    | some t => dsimp only; split <;> exact advanceTo_later s _

/-- The ways in which a call starts: its token is cancelled already, its signer refuses it, its
deadline is beyond the clock, or it is signed and counted. -/
inductive Started (s : Session) (i : Nat) (m : Member) (v : Verb) (token : Option Token) :
    Except Error (Headers × Time) × Session → Prop
  | cancelled (hc : token.any s.cancelled.contains = true) :
    Started s i m v token (.error (.cancelled v.text), s)
  | unsigned {e : Error} (hlive : token.any s.cancelled.contains = false)
    (hsigner : m.signer.signAfter (m.signed.map Verb.method) v.method clientHeaders = .error e) :
    Started s i m v token
      (.error e, s.modifyMember i fun m => { m with signed := m.signed ++ [v] })
  | overflow (hlive : token.any s.cancelled.contains = false)
    (hdeadline : deadline? s.now m.client.config.timeout = none) :
    Started s i m v token (.error (.configuration (.clockOverflow m.client.config.timeout)),
      s.modifyMember i fun m => { m with signed := m.signed ++ [v] })
  | started {headers : Headers} {deadline : Time} (hlive : token.any s.cancelled.contains = false)
    (hsigner : m.signer.signAfter (m.signed.map Verb.method) v.method clientHeaders = .ok headers)
    (hdeadline : deadline? s.now m.client.config.timeout = some deadline) :
    Started s i m v token (.ok (headers, deadline),
      (s.modifyMember i fun m => { m with signed := m.signed ++ [v] }).countRequest i v)

/-- **The ways in which a call starts.** -/
theorem startCall_started (s : Session) (i : Nat) (m : Member) (v : Verb) (token : Option Token) :
    Started s i m v token (s.startCall i m v token) := by
  unfold startCall
  cases hc : token.any s.cancelled.contains with
  | true => exact .cancelled hc
  | false =>
    rw [if_neg Bool.false_ne_true]
    dsimp only
    cases hsigner : m.signer.signAfter (m.signed.map Verb.method) v.method clientHeaders with
    | error e => exact .unsigned hc hsigner
    | ok headers =>
      -- signing takes no time, so the deadline is what it would have been before
      dsimp only
      cases hdeadline : deadline? s.now m.client.config.timeout with
      | none =>
        rw [show deadline? (s.modifyMember i _).now m.client.config.timeout = none from hdeadline]
        exact .overflow hc hdeadline
      | some deadline =>
        rw [show deadline? (s.modifyMember i _).now m.client.config.timeout = some deadline
          from hdeadline]
        exact .started hc hsigner hdeadline

/-- The ways in which a call starts whose signer never fails and whose deadline is within the clock:
its token is cancelled already, or it is signed and counted. -/
theorem startCall_cases {m : Member} (hsigner : m.signer.Signs)
    (htimeout : m.client.config.timeout.seconds < 9223372036854775808) (s : Session) (i : Nat)
    (v : Verb) (token : Option Token) :
    (token.any s.cancelled.contains = true ∧
      s.startCall i m v token = (.error (.cancelled v.text), s)) ∨
    (token.any s.cancelled.contains = false ∧ ∃ headers, s.startCall i m v token =
      (.ok (headers, s.now + m.client.config.timeout.nanos),
        (s.modifyMember i fun m => { m with signed := m.signed ++ [v] }).countRequest i v)) := by
  have hwithin : deadline? s.now m.client.config.timeout =
      some (s.now + m.client.config.timeout.nanos) := if_pos htimeout
  have hstart := startCall_started s i m v token
  generalize s.startCall i m v token = y at hstart ⊢
  cases hstart with
  | cancelled hc => exact .inl ⟨hc, rfl⟩
  | unsigned _ hfails =>
    obtain ⟨headers, hsigned⟩ := hsigner (m.signed.map Verb.method) v.method clientHeaders
    rw [hsigned] at hfails
    cases hfails
  | overflow _ hdeadline =>
    rw [hwithin] at hdeadline
    cases hdeadline
  | @started headers _ hlive _ hdeadline =>
    rw [hwithin] at hdeadline
    cases hdeadline
    exact .inr ⟨hlive, headers, rfl⟩

/-- The ways in which a call ends that has reached the service: the caller gives up, the deadline
passes, or the service answers. -/
theorem finishCall_cases {α : Type} (s : Session) (i : Nat) (m : Member) (r : Request α)
    (token : Option Token) (headers : Headers) :
    ∃ s₁, Later (s.receive r.verb headers) s₁ ∧
      (s.finishCall i m r token headers = (.error (.cancelled r.verb.text), s₁) ∨
      (∃ x : Except Error α, x = .error (.deadlineExceeded r.verb.text m.client.config.timeout) ∧
        s.finishCall i m r token headers = (x, s₁.countFailure i r.verb x)) ∨
      s.finishCall i m r token headers =
        ((s₁.answer r).1, (s₁.answer r).2.countFailure i r.verb (s₁.answer r).1)) := by
  unfold finishCall
  simp only
  generalize hw : (if (r.verb == Verb.watch) = true then (Wait.ready, s.receive r.verb headers)
    else (s.receive r.verb headers).awaitAnswer m.client.config.timeout token) = w
  have hlater : Later (s.receive r.verb headers) w.2 := by
    rw [← hw]
    split
    · exact .refl _
    · exact awaitAnswer_later _ _ _
  obtain ⟨w, s₁⟩ := w
  refine ⟨s₁, hlater, ?_⟩
  cases w with
  | cancelled => exact .inl rfl
  | late => exact .inr (.inl ⟨_, rfl, rfl⟩)
  | ready => exact .inr (.inr rfl)

/-- The ways in which a call goes: there is nobody to make it, it does not start, or it has started
and is answered by the service, by a script, or not at all. -/
inductive Invoked {α β : Type} (s : Session) (i : Nat) (r : Request α) (token : Option Token)
    (f : α → β) (scripted : Backend → Option β) : Except Error (β × Time) × Session → Prop
  | missing (hm : s.members[i]? = none) :
    Invoked s i r token f scripted (.error (.internal "no such client"), s)
  | refused {m : Member} {e : Error} (hm : s.members[i]? = some m)
    (hstart : (s.startCall i m r.verb token).1 = .error e) :
    Invoked s i r token f scripted (.error e, (s.startCall i m r.verb token).2)
  | served {m : Member} {c : Headers × Time} (hm : s.members[i]? = some m)
    (hstart : (s.startCall i m r.verb token).1 = .ok c) (hbackend : m.backend = .shared) :
    Invoked s i r token f scripted
      ((((s.startCall i m r.verb token).2.finishCall i m r token c.1).1.map fun a => (f a, c.2)),
        ((s.startCall i m r.verb token).2.finishCall i m r token c.1).2)
  | scripted {m : Member} {c : Headers × Time} {b : β} (hm : s.members[i]? = some m)
    (hstart : (s.startCall i m r.verb token).1 = .ok c) (hbackend : m.backend ≠ .shared)
    (hscript : scripted m.backend = some b) :
    Invoked s i r token f scripted (.ok (b, c.2), (s.startCall i m r.verb token).2)
  | unscripted {m : Member} {c : Headers × Time} (hm : s.members[i]? = some m)
    (hstart : (s.startCall i m r.verb token).1 = .ok c) (hbackend : m.backend ≠ .shared)
    (hscript : scripted m.backend = none) :
    Invoked s i r token f scripted (.error unscripted,
      (s.startCall i m r.verb token).2.countFailure i r.verb
        (.error unscripted : Except Error (β × Time)))

/-- **The ways in which a call goes.** -/
theorem invoke_cases {α β : Type} (s : Session) (i : Nat) (r : Request α) (token : Option Token)
    (f : α → β) (scripted : Backend → Option β) :
    Invoked s i r token f scripted (s.invoke i r token f scripted) := by
  unfold invoke
  cases hm : s.members[i]? with
  | none => exact .missing hm
  | some m =>
    dsimp only
    have hpair {x : Except Error (Headers × Time)} (h : (s.startCall i m r.verb token).1 = x) :
        s.startCall i m r.verb token = (x, (s.startCall i m r.verb token).2) := Prod.ext h rfl
    cases hstart : (s.startCall i m r.verb token).1 with
    | error e =>
      rw [hpair hstart]
      exact .refused hm hstart
    | ok c =>
      rw [hpair hstart]
      cases hbackend : m.backend with
      | shared => exact .served hm hstart hbackend
      | scripted lists watches =>
        have hother : m.backend ≠ .shared := by
          rw [hbackend]
          exact nofun
        dsimp only
        cases hscript : scripted (.scripted lists watches) with
        | some b => exact .scripted hm hstart hother (hbackend ▸ hscript)
        | none => exact .unscripted hm hstart hother (hbackend ▸ hscript)

/-- A call that has started and is made to the service. -/
theorem invoke_served {α β : Type} {i : Nat} {m : Member} {r : Request α} {token : Option Token}
    {c : Headers × Time} (hm : s.members[i]? = some m)
    (hstart : s.startCall i m r.verb token = (.ok c, s')) (hbackend : m.backend = .shared)
    (f : α → β) (scripted : Backend → Option β) :
    s.invoke i r token f scripted = ((s'.finishCall i m r token c.1).1.map fun a => (f a, c.2),
      (s'.finishCall i m r token c.1).2) := by
  unfold invoke
  rw [hm]
  dsimp only
  rw [hstart]
  dsimp only
  rw [hbackend]

/-- The member that has changed. -/
theorem getElem?_modifyMember_self (i : Nat) (f : Member → Member) :
    (s.modifyMember i f).members[i]? = s.members[i]?.map f := by
  simp [modifyMember]

theorem getElem?_modifyMember {i : Nat} {m : Member} (f : Member → Member)
    (hm : s.members[i]? = some m) : (s.modifyMember i f).members[i]? = some (f m) := by
  rw [getElem?_modifyMember_self, hm]
  rfl

/-- Every other member stays. -/
theorem getElem?_modifyMember_of_ne {i j : Nat} (f : Member → Member) (h : i ≠ j) :
    (s.modifyMember i f).members[j]? = s.members[j]? := by
  simp [modifyMember, h]

@[simp] theorem countFailure_store {α : Type} (i : Nat) (v : Verb) (r : Except Error α) :
    (s.countFailure i v r).store = s.store := by
  cases r <;> rfl

/-- Asking a list for a resource only cancels tokens. -/
theorem pollList_later (s : Session) (st : ListStream) : Later s (s.pollList st).2.2 := by
  unfold pollList
  dsimp only
  split
  · exact .refl s
  · exact cancelAll_later s _

theorem waitFor_later (s : Session) (g : Guard) (wake : Option Time) :
    Later s (s.waitFor g wake) := by
  unfold waitFor
  split
  · exact .refl s
  · split
    · exact advanceTo_later s _
    · exact .refl s

theorem collectFrom_later (fuel : Nat) (acc : List WireResource) (st : ListStream) (s : Session) :
    Later s (collectFrom fuel acc st s).2 := by
  induction fuel generalizing acc st s with
  | zero => exact .refl s
  | succ fuel ih =>
    have hpoll := pollList_later s st
    rcases hp : s.pollList st with ⟨g, st', s'⟩
    rw [hp] at hpoll
    simp only [collectFrom, hp]
    cases g with
    | item r => exact hpoll.trans (ih _ _ _)
    | ended e => exact hpoll
    | pending wake => exact (hpoll.trans (waitFor_later _ _ _)).trans (ih _ _ _)

/-- Reading a list to its end only lets time pass. -/
theorem collect_later (s : Session) (st : ListStream) : Later s (s.collect st).2 :=
  collectFrom_later _ _ _ _

end Fleet.Session
