import Fleet.Proofs.Client.Operation
import Fleet.Proofs.Service.Atomicity
import Fleet.Proofs.Session.Serving
import Fleet.Proofs.Session.StreamReader
import Mathlib.Algebra.GroupWithZero.Nat

/-!
# What a client counts and what the service hears

A client counts its calls before they are sent and their failures when they have ended; the service
counts what reaches it. The two never meet, and agree.

* `Opening`: a call that reached the service, with the error that it ended in.
* `Session.openings`, `Session.live`: the calls of a plan, and of a whole life of a client.
* `poll_cases`: asking a stream for an item only lets time pass and counts one event at most.
* `Accounted`: the calls that were made are those that were signed, received and counted.
* `Accounted.invoke`, `Accounted.run`, `Accounted.live`: **one call, one plan and a whole life leave
  the accounts right.**
* `accounts_agree`: what the counts of the client and of the service have in common.
-/

namespace Fleet

/-- The caller gave up. -/
def Error.isCancelled : Error → Bool
  | .cancelled _ => true
  | _ => false

/-- A call that reached the service: its verb, and the error that it ended in, if it failed. -/
structure Opening where
  verb : Verb
  error : Option Error

namespace Opening

/-- The call failed, and not because its caller gave it up. -/
def failed (o : Opening) : Bool := o.error.any (!·.isCancelled)

/-- The calls of a verb. -/
def ofVerb (v : Verb) (os : List Opening) : List Opening := os.filter (·.verb = v)

theorem ofVerb_concat_self (os : List Opening) (v : Verb) (e : Option Error) :
    ofVerb v (os ++ [⟨v, e⟩]) = ofVerb v os ++ [⟨v, e⟩] := by
  simp [ofVerb]

theorem ofVerb_concat_of_ne (os : List Opening) {v w : Verb} (h : w ≠ v) (e : Option Error) :
    ofVerb w (os ++ [⟨v, e⟩]) = ofVerb w os := by
  have hne : v ≠ w := fun he => h he.symm
  simp [ofVerb, hne]

end Opening

namespace Tally

/-- What there is to count of some calls. -/
def ofOpenings (os : List Opening) : Tally where
  requests := os.length
  failures := os.countP (·.failed)
  deadlines := os.countP fun o => o.error.any (·.isDeadlineExceeded)
  conflicts := os.countP fun o => o.error.any (·.isConflict)

variable (os : List Opening) (v : Verb)

/-- A call that did not fail. -/
theorem ofOpenings_ok : ofOpenings (os ++ [⟨v, none⟩]) = (ofOpenings os).request := by
  simp [ofOpenings, request, Opening.failed]

/-- A call that its caller gave up is only requested. -/
theorem ofOpenings_cancelled (operation : String) :
    ofOpenings (os ++ [⟨v, some (.cancelled operation)⟩]) = (ofOpenings os).request := by
  simp [ofOpenings, request, Opening.failed, Error.isCancelled, Error.isDeadlineExceeded,
    Error.isConflict, Error.code?]

/-- A call that failed. -/
theorem ofOpenings_failed {e : Error} (he : e.isCancelled = false) :
    ofOpenings (os ++ [⟨v, some e⟩]) = (ofOpenings os).request.failure e := by
  simp [ofOpenings, request, failure, Opening.failed, he]

/-- No error is a deadline that passed and a conflict at once, and each of them is a failure. -/
theorem ofOpenings_le :
    (ofOpenings os).deadlines + (ofOpenings os).conflicts ≤ (ofOpenings os).failures := by
  have hone : ∀ e : Error, (if e.isDeadlineExceeded = true then 1 else 0) +
      (if e.isConflict = true then 1 else 0) ≤ if (!e.isCancelled) = true then 1 else 0 := by
    intro e
    cases e with
    | deadlineExceeded | cancelled => exact Nat.le_refl _
    | remote status =>
      show 0 + _ ≤ 1
      split <;> omega
    | _ => exact Nat.zero_le _
  induction os with
  | nil => exact Nat.le_refl _
  | cons o os ih =>
    obtain ⟨v, e⟩ := o
    simp only [ofOpenings, Opening.failed, List.countP_cons] at ih ⊢
    cases e with
    | none => simpa using ih
    | some e =>
      have := hone e
      simp only [Option.any_some]
      omega

end Tally

/-- Something that happens between the uses of a client. -/
inductive Interlude : Type 1 where
  | injectFault (f : Fault)
  | clearFaults
  /-- A resource is stored as it is. -/
  | insertRaw (r : WireResource)
  | setLatency (latency : Option Time)
  | cancel (t : Token)
  | cancelAfter (t : Token) (span : Time)
  | pass (span : Time)
  /-- A stream is asked for an item. -/
  | poll (k : KeptStream)

/-- Something that happens in the life of a client. -/
inductive Happening : Type 1 where
  | use (u : Use)
  | between (a : Interlude)

namespace Session

variable {α β : Type} {i : Nat} {s s' : Session} {os : List Opening} {v : Verb}

/-! ### The calls that reach the service -/

/-- The call between two sessions, if the service received one. -/
def opened (v : Verb) (x : Except Error α) (s s' : Session) : List Opening :=
  if s'.received.length = s.received.length then [] else [⟨v, errorOf x⟩]

/-- The calls that reach the service while a plan is run. -/
def openings (i : Nat) : Plan α → Session → List Opening
  | .done _, _ => []
  | .note n rest, s => openings i rest (s.note i n)
  | .call r rest, s =>
    let (x, s') := s.invoke i r none id fun _ => none
    opened r.verb x s s' ++ openings i (rest (x.map (·.1))) s'
  | .openList q token rest, s =>
    let (x, s') := s.invoke i (.list q) token ListSource.page scriptedList
    opened .list x s s' ++ openings i (rest x) s'
  | .openWatch q token rest, s =>
    let (x, s') := s.invoke i (.watch q) token WatchSource.live scriptedWatch
    opened .watch x s s' ++ openings i (rest (x.map (·.1))) s'
  | .collect st rest, s => openings i (rest (s.collect st).1) (s.collect st).2

/-- The calls of a member's client for a plan. -/
def openingsFor (s : Session) (i : Nat) (p : Client → Plan α) : List Opening :=
  match s.members[i]? with
  | some m => openings i (p m.client) s
  | none => []

/-- The calls of a member's client for one use. -/
def openingsOf (s : Session) (i : Nat) : Use → List Opening
  | .client op => s.openingsFor i op.plan
  | .facade op => s.openingsFor i op.plan
  | .register _ _ => []

/-- The session after something happened between the uses of a client. -/
def interlude (s : Session) : Interlude → Session
  | .injectFault f => { s with store := s.store.injectFault f }
  | .clearFaults => { s with store := s.store.clearFaults }
  | .insertRaw r => { s with store := s.store.insertRaw r }
  | .setLatency latency => { s with latency }
  | .cancel t => s.cancel t
  | .cancelAfter t span => s.cancelAfter t span
  | .pass span => s.advanceTo (s.now + span)
  | .poll k => (s.poll k).2.2

/-- What happens in the life of a member's client: the calls that reach the service, and the session
after it. -/
def happen (s : Session) (i : Nat) : Happening → List Opening × Session
  | .use u => (s.openingsOf i u, (s.use i u).2)
  | .between a => ([], s.interlude a)

/-- The life of a member's client: all its calls that reach the service, and the session after
them. -/
def live (s : Session) (i : Nat) : List Happening → List Opening × Session
  | [] => ([], s)
  | a :: as =>
    let (os, s) := s.happen i a
    let (os', s) := s.live i as
    (os ++ os', s)

/-! ### Streams -/

/-- **Asking a stream for an item** only lets time pass and counts one event at most. -/
theorem poll_cases (s : Session) (k : KeptStream) : ∃ s₁, Later s s₁ ∧
    ((s.poll k).2.2 = s₁ ∨ ∃ j n, (s.poll k).2.2 = s₁.note j n) := by
  obtain ⟨stream, state, brief⟩ := k
  cases stream with
  | list K j st =>
    obtain ⟨source, g⟩ := st
    rw [poll_list]
    exact (StreamReader.ofList K j g).poll_later state source s
  | watch K j st =>
    obtain ⟨source, g⟩ := st
    rw [poll_watch]
    exact (StreamReader.ofWatch K j g).poll_later state source s
  | raw sub =>
    refine ⟨s, .refl s, .inl ?_⟩
    cases state with
    | failed | ended => rfl
    | live =>
      rcases hn : sub.next? s.store.published with ⟨e, sub'⟩
      unfold poll
      simp only [pollLive, hn]
      cases e <;> rfl

/-! ### Accounts -/

/-- The accounts of a client that has made some calls: it has signed them all and counted them by
verb. Its signer never fails, and its deadlines are within the clock. -/
structure Accounts (os : List Opening) (m : Member) : Prop where
  shared : m.backend = .shared
  signer : m.signer.Signs
  timeout : m.client.config.timeout.seconds < 9223372036854775808
  signed : m.signed = os.map (·.verb)
  verbs : ∀ v, m.metrics.verbs.of v = .ofOpenings (Opening.ofVerb v os)

/-- The client of a member has made some calls, and the service has received and counted them. -/
structure Accounted (i : Nat) (os : List Opening) (s : Session) : Prop where
  member : ∃ m, s.members[i]? = some m ∧ Accounts os m
  received : s.received.map (·.method) = (os.map (·.verb)).map Verb.method
  calls : ∀ v, s.store.calls.of v = (os.map (·.verb)).count v

namespace Accounts

variable {m : Member}

/-- A call was signed and counted; it has not failed yet. -/
theorem request (h : Accounts os m) (v : Verb) : Accounts (os ++ [⟨v, none⟩])
    { m with signed := m.signed ++ [v], metrics := m.metrics.request v } := by
  refine ⟨h.shared, h.signer, h.timeout, ?_, fun w => ?_⟩
  · rw [List.map_append, ← h.signed]
    rfl
  · show (m.metrics.verbs.modify v Tally.request).of w = _
    by_cases hw : w = v
    · subst hw
      rw [PerVerb.of_modify_self, h.verbs, Opening.ofVerb_concat_self, Tally.ofOpenings_ok]
    · rw [PerVerb.of_modify_of_ne _ _ hw, h.verbs, Opening.ofVerb_concat_of_ne _ hw]

/-- The last call has failed. -/
theorem failure (h : Accounts (os ++ [⟨v, none⟩]) m) {e : Error} (he : e.isCancelled = false) :
    Accounts (os ++ [⟨v, some e⟩]) { m with metrics := m.metrics.failure v e } := by
  refine ⟨h.shared, h.signer, h.timeout, ?_, fun w => ?_⟩
  · rw [h.signed, List.map_append, List.map_append]
    rfl
  · have hverbs := h.verbs w
    show (m.metrics.verbs.modify v (·.failure e)).of w = _
    by_cases hw : w = v
    · subst hw
      rw [Opening.ofVerb_concat_self, Tally.ofOpenings_ok] at hverbs
      rw [PerVerb.of_modify_self, hverbs, Opening.ofVerb_concat_self,
        Tally.ofOpenings_failed _ _ he]
    · rw [Opening.ofVerb_concat_of_ne _ hw] at hverbs
      rw [PerVerb.of_modify_of_ne _ _ hw, hverbs, Opening.ofVerb_concat_of_ne _ hw]

/-- The last call was given up. -/
theorem giveUp (h : Accounts (os ++ [⟨v, none⟩]) m) (operation : String) :
    Accounts (os ++ [⟨v, some (.cancelled operation)⟩]) m := by
  refine ⟨h.shared, h.signer, h.timeout, ?_, fun w => ?_⟩
  · rw [h.signed, List.map_append, List.map_append]
    rfl
  · rw [h.verbs]
    by_cases hw : w = v
    · subst hw
      rw [Opening.ofVerb_concat_self, Opening.ofVerb_concat_self, Tally.ofOpenings_ok,
        Tally.ofOpenings_cancelled]
    · rw [Opening.ofVerb_concat_of_ne _ hw, Opening.ofVerb_concat_of_ne _ hw]

end Accounts

namespace Accounted

/-- A change of the session that the service does not hear of. -/
theorem of_unheard {os' : List Opening} (h : Accounted i os s)
    (hverbs : os'.map (·.verb) = os.map (·.verb)) (hreceived : s'.received = s.received)
    (hcalls : s'.store.calls = s.store.calls)
    (hmember : ∀ m, s.members[i]? = some m → Accounts os m →
      ∃ m', s'.members[i]? = some m' ∧ Accounts os' m') : Accounted i os' s' := by
  obtain ⟨m, hm, ha⟩ := h.member
  refine ⟨hmember m hm ha, ?_, ?_⟩
  · rw [hreceived, hverbs, h.received]
  · rw [hcalls, hverbs]
    exact h.calls

theorem later (h : Accounted i os s) (hl : Later s s') : Accounted i os s' := by
  obtain ⟨_, _, _, rfl⟩ := hl
  exact ⟨h.member, h.received, h.calls⟩

/-- A change of what is stored, or of the faults. -/
theorem withStore (h : Accounted i os s) {store : Store} (hcalls : store.calls = s.store.calls) :
    Accounted i os { s with store } :=
  h.of_unheard rfl rfl hcalls fun m hm ha => ⟨m, hm, ha⟩

/-- A change of any member that concerns no call. -/
theorem modifyMember (h : Accounted i os s) (j : Nat) {f : Member → Member}
    (hf : ∀ m, Accounts os m → Accounts os (f m)) : Accounted i os (s.modifyMember j f) := by
  refine h.of_unheard rfl rfl rfl fun m hm ha => ?_
  by_cases hj : j = i
  · subst hj
    exact ⟨f m, getElem?_modifyMember f hm, hf m ha⟩
  · exact ⟨m, by rw [getElem?_modifyMember_of_ne f hj]; exact hm, ha⟩

theorem note (h : Accounted i os s) (j : Nat) (n : Notice) : Accounted i os (s.note j n) := by
  refine h.modifyMember j fun m ha => ?_
  have hverbs : (m.metrics.note n).verbs = m.metrics.verbs := by cases n <;> rfl
  exact ⟨ha.shared, ha.signer, ha.timeout, ha.signed, by rw [hverbs]; exact ha.verbs⟩

/-- A call was signed, counted and received; it has not failed yet. -/
theorem receive (h : Accounted i os s) (v : Verb) (headers : Headers) :
    Accounted i (os ++ [⟨v, none⟩]) (((s.modifyMember i fun m =>
      { m with signed := m.signed ++ [v] }).countRequest i v).receive v headers) := by
  obtain ⟨m, hm, ha⟩ := h.member
  refine ⟨⟨_, getElem?_modifyMember _ (getElem?_modifyMember _ hm), ha.request v⟩, ?_, fun w => ?_⟩
  · show (s.received ++ [(⟨v.method, headers⟩ : Received)]).map _ = _
    rw [List.map_append, h.received, List.map_append, List.map_append]
    rfl
  · show (s.store.calls.modify v (· + 1)).of w = _
    rw [List.map_append, List.count_append]
    by_cases hw : w = v
    · subst hw
      rw [PerVerb.of_modify_self, h.calls]
      simp
    · have hne : v ≠ w := fun he => hw he.symm
      rw [PerVerb.of_modify_of_ne _ _ hw, h.calls]
      simp [hne]

/-- The last call has ended, by no choice of its caller. -/
theorem countFailure (h : Accounted i (os ++ [⟨v, none⟩]) s) {x : Except Error α}
    (hx : ∀ e, x = .error e → e.isCancelled = false) :
    Accounted i (os ++ [⟨v, errorOf x⟩]) (s.countFailure i v x) := by
  cases x with
  | ok a => exact h
  | error e =>
    refine h.of_unheard ?_ rfl rfl fun m hm ha => ?_
    · rw [List.map_append, List.map_append]
      rfl
    · exact ⟨_, getElem?_modifyMember _ hm, ha.failure (hx e rfl)⟩

/-- The last call was given up. -/
theorem giveUp (h : Accounted i (os ++ [⟨v, none⟩]) s) (operation : String) :
    Accounted i (os ++ [⟨v, some (.cancelled operation)⟩]) s := by
  refine h.of_unheard ?_ rfl rfl fun m hm ha => ⟨m, hm, ha.giveUp operation⟩
  rw [List.map_append, List.map_append]
  rfl

/-- A call that was started is signed, counted and received, and its failure is counted unless its
caller gave it up. -/
theorem finishCall (h : Accounted i os s) (m : Member) (r : Request α) (token : Option Token)
    (headers : Headers) {x : Except Error α} (hfinish : ((s.modifyMember i fun m =>
      { m with signed := m.signed ++ [r.verb] }).countRequest i r.verb).finishCall i m r token
        headers = (x, s')) :
    Accounted i (os ++ [⟨r.verb, errorOf x⟩]) s' ∧
      s'.received.length = s.received.length + 1 := by
  have hreceive := h.receive r.verb headers
  obtain ⟨s₁, hlater, hends⟩ := finishCall_cases ((s.modifyMember i fun m =>
    { m with signed := m.signed ++ [r.verb] }).countRequest i r.verb) i m r token headers
  have h₁ : Accounted i (os ++ [⟨r.verb, none⟩]) s₁ := hreceive.later hlater
  have hlength : s₁.received.length = s.received.length + 1 := by
    obtain ⟨_, _, _, rfl⟩ := hlater
    exact List.length_append
  rcases hends with hgiven | ⟨y, hy, hlate⟩ | hanswered
  · rw [hgiven] at hfinish
    cases hfinish
    exact ⟨h₁.giveUp _, hlength⟩
  · rw [hlate] at hfinish
    cases hfinish
    refine ⟨h₁.countFailure fun e he => ?_, ?_⟩
    · rw [hy] at he
      cases he
      rfl
    · rw [hy]
      exact hlength
  · rw [hanswered] at hfinish
    cases hfinish
    have h₂ : Accounted i (os ++ [⟨r.verb, none⟩]) (s₁.answer r).2 :=
      h₁.of_unheard rfl rfl (Store.answer_calls _ _ _) fun m hm ha => ⟨m, hm, ha⟩
    refine ⟨h₂.countFailure fun e he => ?_, ?_⟩
    · -- whatever the store answers comes from the service
      have he : (s₁.store.answer s₁.reading r).1.mapError Error.remote = .error e := he
      cases hx : (s₁.store.answer s₁.reading r).1 with
      | ok a => rw [hx] at he; cases he
      | error status => rw [hx] at he; cases he; rfl
    · rw [← hlength]
      cases (s₁.answer r).1 <;> rfl

/-- **One call leaves the accounts right.** -/
theorem invoke (h : Accounted i os s) (r : Request α) (token : Option Token) (f : α → β)
    (scripted : Backend → Option β) :
    Accounted i (os ++ opened r.verb (s.invoke i r token f scripted).1 s
      (s.invoke i r token f scripted).2) (s.invoke i r token f scripted).2 := by
  obtain ⟨m, hm, ha⟩ := h.member
  rcases startCall_cases ha.signer ha.timeout s i r.verb token with
    ⟨-, hstart⟩ | ⟨-, headers, hstart⟩
  · have hinvoke : s.invoke i r token f scripted = (.error (.cancelled r.verb.text), s) := by
      unfold Session.invoke
      rw [hm]
      dsimp only
      rw [hstart]
    rw [hinvoke, opened, if_pos rfl, List.append_nil]
    exact h
  · rcases hfinish : ((s.modifyMember i fun m =>
        { m with signed := m.signed ++ [r.verb] }).countRequest i r.verb).finishCall i m r token
          headers with ⟨x, s'⟩
    obtain ⟨h', hlength⟩ := h.finishCall m r token headers hfinish
    have hinvoke : s.invoke i r token f scripted =
        (x.map fun a => (f a, s.now + m.client.config.timeout.nanos), s') := by
      rw [invoke_served hm hstart ha.shared, hfinish]
    have hlength' : s'.received.length ≠ s.received.length := by omega
    rw [hinvoke, opened, if_neg hlength']
    cases x <;> exact h'

/-- **One plan leaves the accounts right.** -/
theorem run (h : Accounted i os s) (p : Plan α) :
    Accounted i (os ++ openings i p s) (Session.run i p s).2 := by
  induction p generalizing os s with
  | done r =>
    rw [openings, List.append_nil]
    exact h
  | note n p ih => exact ih (h.note i n)
  | call r rest ih =>
    have hcall := ih ((s.invoke i r none id fun _ => none).1.map (·.1))
      (h.invoke r none id fun _ => none)
    rw [List.append_assoc] at hcall
    exact hcall
  | openList q token rest ih =>
    have hcall := ih (s.invoke i (.list q) token ListSource.page scriptedList).1
      (h.invoke (.list q) token ListSource.page scriptedList)
    rw [List.append_assoc] at hcall
    exact hcall
  | openWatch q token rest ih =>
    have hcall := ih ((s.invoke i (.watch q) token WatchSource.live scriptedWatch).1.map (·.1))
      (h.invoke (.watch q) token WatchSource.live scriptedWatch)
    rw [List.append_assoc] at hcall
    exact hcall
  | collect st rest ih => exact ih _ (h.later (collect_later s st))

theorem runFor (h : Accounted i os s) (p : Client → Plan α) :
    Accounted i (os ++ s.openingsFor i p) (s.runFor i p).2 := by
  obtain ⟨m, hm, -⟩ := h.member
  unfold openingsFor Session.runFor
  rw [hm]
  exact h.run (p m.client)

theorem register (h : Accounted i os s) (j : Nat) (K : Kind) (name : String) :
    Accounted i os (s.register j K name).2 := by
  unfold Session.register
  split
  · exact h
  · split
    · exact h
    · exact h.modifyMember j fun m ha =>
        ⟨ha.shared, ha.signer, ha.timeout, ha.signed, ha.verbs⟩

/-- Asking a stream for an item only lets time pass and counts events. -/
theorem poll (h : Accounted i os s) (k : KeptStream) : Accounted i os (s.poll k).2.2 := by
  obtain ⟨s₁, hlater, hsame | ⟨j, n, hnoted⟩⟩ := poll_cases s k
  · rw [hsame]
    exact h.later hlater
  · rw [hnoted]
    exact (h.later hlater).note j n

/-- What happens between the uses of a client leaves the accounts as they are. -/
theorem interlude (h : Accounted i os s) (a : Interlude) : Accounted i os (s.interlude a) := by
  cases a with
  | injectFault f | clearFaults | insertRaw r => exact h.withStore rfl
  | setLatency latency => exact ⟨h.member, h.received, h.calls⟩
  | cancel t => exact h.later (cancel_later s t)
  | cancelAfter t span => exact ⟨h.member, h.received, h.calls⟩
  | pass span => exact h.later (advanceTo_later s _)
  | poll k => exact h.poll k

/-- Whatever happens leaves the accounts right. -/
theorem happen (h : Accounted i os s) (a : Happening) :
    Accounted i (os ++ (s.happen i a).1) (s.happen i a).2 := by
  cases a with
  | use u =>
    cases u with
    | client op => exact h.runFor op.plan
    | facade op => exact h.runFor op.plan
    | register K name =>
      show Accounted i (os ++ []) (s.register i K name).2
      rw [List.append_nil]
      exact h.register i K name
  | between a =>
    show Accounted i (os ++ []) (s.interlude a)
    rw [List.append_nil]
    exact h.interlude a

/-- **A whole life leaves the accounts right.** -/
theorem live (h : Accounted i os s) (as : List Happening) :
    Accounted i (os ++ (s.live i as).1) (s.live i as).2 := by
  induction as generalizing os s with
  | nil =>
    show Accounted i (os ++ []) s
    rw [List.append_nil]
    exact h
  | cons a as ih =>
    have hrest := ih (h.happen a)
    rw [List.append_assoc] at hrest
    exact hrest

end Accounted

/-- A client that has not been used yet, at a service that has not been called yet. -/
structure Fresh (i : Nat) (m : Member) (s : Session) : Prop where
  member : s.members[i]? = some m
  shared : m.backend = .shared
  signer : m.signer.Signs
  timeout : m.client.config.timeout.seconds < 9223372036854775808
  metrics : m.metrics = .zero
  signed : m.signed = []
  received : s.received = []
  calls : s.store.calls = .const 0

/-- Nothing was called and nothing counted. -/
theorem Fresh.accounted {m : Member} (h : Fresh i m s) : Accounted i [] s := by
  refine ⟨⟨m, h.member, h.shared, h.signer, h.timeout, h.signed, fun v => ?_⟩, ?_, fun v => ?_⟩
  · rw [h.metrics]
    cases v <;> rfl
  · rw [h.received]
    rfl
  · rw [h.calls]
    cases v <;> rfl

/-- A sum over all verbs. -/
theorem total_map {γ : Type} (p : PerVerb γ) (f : γ → Nat) :
    (p.map f).total = (Verb.all.map fun v => f (p.of v)).sum := by
  simp only [PerVerb.total, PerVerb.map, PerVerb.of, Verb.all, List.map_cons, List.map_nil,
    List.sum_cons, List.sum_nil]
  omega

/-- **What a client counts agrees with what the service hears**, whatever the client is asked for,
whatever is stored and whichever calls are made to fail or to wait: the calls that were signed are
those that were received, in order; requests are counted alike on both sides; and of the calls of
each verb the failures are those that ended in an error, as long as no call was given up by its
caller while it was under way. -/
theorem accounts_agree {m : Member} (h : Fresh i m s) (as : List Happening)
    (hkept : ∀ o ∈ (s.live i as).1, ∀ operation, o.error ≠ some (.cancelled operation)) :
    let os := (s.live i as).1
    let s' := (s.live i as).2
    ∃ m', s'.members[i]? = some m' ∧ m'.signed = os.map (·.verb) ∧
      m'.signed.map Verb.method = s'.received.map (·.method) ∧
      (∀ v, (m'.metrics.verbs.of v).requests = s'.store.calls.of v ∧
        (m'.metrics.verbs.of v).failures = os.countP (fun o => o.verb = v && o.error.isSome) ∧
        (m'.metrics.verbs.of v).deadlines + (m'.metrics.verbs.of v).conflicts ≤
          (m'.metrics.verbs.of v).failures ∧
        (m'.metrics.verbs.of v).failures ≤ (m'.metrics.verbs.of v).requests) ∧
      m'.metrics.totalRequests = (Verb.all.map fun v => (m'.metrics.verbs.of v).requests).sum ∧
      m'.metrics.totalFailures = (Verb.all.map fun v => (m'.metrics.verbs.of v).failures).sum := by
  intro os s'
  obtain ⟨⟨m', hm', ha⟩, hreceived, hcalls⟩ := h.accounted.live as
  rw [List.nil_append] at ha hreceived hcalls
  refine ⟨m', hm', ha.signed, ?_, fun v => ⟨?_, ?_, ?_, ?_⟩, total_map _ _, total_map _ _⟩
  · rw [hreceived, ha.signed]
  · rw [hcalls, ha.verbs]
    show (os.filter _).length = _
    rw [← List.countP_eq_length_filter, List.count_eq_countP, List.countP_map]
    exact List.countP_congr fun o _ => by simp
  · rw [ha.verbs]
    show (os.filter _).countP _ = _
    rw [List.countP_filter]
    refine List.countP_congr fun o ho => ?_
    have hfailed : o.failed = o.error.isSome := by
      have hkept := hkept o ho
      obtain ⟨v, e⟩ := o
      cases e with
      | none => rfl
      | some e =>
        cases e with
        | cancelled operation => exact absurd rfl (hkept operation)
        | _ => rfl
    rw [hfailed, Bool.and_comm]
  · rw [ha.verbs]
    exact Tally.ofOpenings_le _
  · rw [ha.verbs]
    exact List.countP_le_length

/-- A life in which calls fail by a fault, by a finalizer and by a deadline that passes. -/
def troubledLife : List Happening :=
  let m := Store.bare "default" Kind.machine.wireType "m1"
  [.between (.insertRaw { m with metadata := { m.metadata with finalizers := ["f"] } }),
    .between (.injectFault ⟨.get, "m2", ⟨.unavailable, "down"⟩⟩),
    .use (.client (.get (K := .machine) "m1" none)),
    .use (.client (.get (K := .machine) "m2" none)),
    .use (.client (.deleteAll (K := .machine) none)),
    .between (.setLatency (some 3600000000000)),
    .use (.facade (.lock "m1" none))]

/-- Three machines are asked for, and one of them is got. -/
theorem accounts_agree_troubled :
    Fresh 0 writer (start 4 [writer]) ∧
      ∃ m', ((start 4 [writer]).live 0 troubledLife).2.members[0]? = some m' ∧
        m'.signed = [.get, .get, .list, .destroy, .get] ∧
        (m'.metrics.verbs.of .get).failures = 2 ∧ m'.metrics.totalRequests = 5 := by
  have hfresh : Fresh 0 writer (start 4 [writer]) :=
    ⟨rfl, rfl, Signer.headers_signs ∅, by decide, rfl, rfl, rfl, rfl⟩
  have hopenings : ((start 4 [writer]).live 0 troubledLife).1 =
    [⟨.get, none⟩, ⟨.get, some (.remote ⟨.unavailable, "down"⟩)⟩, ⟨.list, none⟩,
      ⟨.destroy, some (.remote (pinned ⟨"default", Kind.machine.wireType, "m1"⟩ ["f"]))⟩,
      ⟨.get, some (.deadlineExceeded "Get" writer.client.config.timeout)⟩] := by rfl
  obtain ⟨m', hm', hsigned, -, hverbs, htotal, -⟩ := accounts_agree hfresh troubledLife (by
    rw [hopenings]
    simp)
  rw [hopenings] at hsigned hverbs
  have hcalls : ((start 4 [writer]).live 0 troubledLife).2.store.calls = ⟨3, 1, 0, 0, 0, 1⟩ := by
    rfl
  have hrequests : ∀ v, (m'.metrics.verbs.of v).requests =
      (⟨3, 1, 0, 0, 0, 1⟩ : PerVerb Nat).of v := by
    intro v
    rw [(hverbs v).1, hcalls]
  refine ⟨hfresh, m', hm', hsigned, (hverbs .get).2.1, ?_⟩
  rw [htotal]
  simp only [Verb.all, List.map_cons, hrequests]
  rfl

end Session

end Fleet
