import Fleet.Proofs.Plan.Run
import Fleet.Proofs.Service.Atomicity
import Fleet.Proofs.Session.Signing

/-!
# What reading keeps

A plan that only reads can be run at any session without a trace in what is stored.

* `FailsBy`: what the error of a result is known for.
* `Plan.Reads`: a plan that makes no call that changes anything.
* `Session.Kept`: what is kept while a client only reads.
* `Outside.failsBy`: what a call fails by, for what its signer is known for.
* `invoke_kept`, `run_reads`: **reading keeps it**, call by call and plan by plan, and fails by
  nothing but what its calls fail by.
-/

namespace Fleet

/-- What the error of a result is known for, if it is one. -/
def FailsBy {α : Type} (known : Error → Prop) (r : Except Error α) : Prop :=
  ∀ e, r = .error e → known e

/-- A result that is no refusal of a write. -/
abbrev NoRefusal {α : Type} : Except Error α → Prop := FailsBy fun e => e.isReadOnly = false

/-- A result that is no error of the client's own. -/
abbrev NotLocal {α : Type} : Except Error α → Prop := FailsBy fun e => e.isLocal = false

namespace FailsBy

variable {α β : Type} {known known' : Error → Prop}

theorem ok (a : α) : FailsBy known (.ok a) := nofun

theorem error {e : Error} (h : known e) : FailsBy known (.error e : Except Error α) := by
  intro e' he; cases he; exact h

theorem mono {r : Except Error α} (h : FailsBy known r) (hle : ∀ e, known e → known' e) :
    FailsBy known' r :=
  fun e he => hle e (h e he)

theorem bind {r : Except Error α} {f : α → Except Error β} (h : FailsBy known r)
    (hf : ∀ a, FailsBy known (f a)) : FailsBy known (r >>= f) := by
  cases r with
  | ok a => exact hf a
  | error e => exact error (h e rfl)

end FailsBy

/-- The refusal of a write is an error of the client's own. -/
theorem isReadOnly_of_not_isLocal {e : Error} (h : e.isLocal = false) : e.isReadOnly = false := by
  cases e with
  | readOnly operation type => cases h
  | _ => rfl

namespace Plan

variable {α β : Type} {known : Error → Prop}

/-- A plan that only reads: it makes no call that changes anything and counts no refusal. If its
calls fail by errors that are known for something, so does the plan. -/
def Reads (known : Error → Prop) : Plan α → Prop
  | done r => FailsBy known r
  | note n p => n ≠ .rejectedWrite ∧ p.Reads known
  | call r rest => r.verb.isMutation = false ∧ ∀ x, FailsBy known x → (rest x).Reads known
  | openList _ _ rest => ∀ x, FailsBy known x → (rest x).Reads known
  | openWatch _ _ rest => ∀ x, FailsBy known x → (rest x).Reads known
  | collect _ rest => ∀ x, (∀ e, x.2 = .failed e → known e) → (rest x).Reads known

theorem Reads.fail {e : Error} (h : known e) : (fail e : Plan α).Reads known :=
  FailsBy.error h

theorem Reads.bind {p : Plan α} {f : α → Plan β} (hp : p.Reads known)
    (hf : ∀ a, (f a).Reads known) : (p.bind f).Reads known := by
  induction p with
  | done r =>
    cases r with
    | ok a => exact hf a
    | error e => exact FailsBy.error (hp e rfl)
  | note n p ih => exact ⟨hp.1, ih hp.2⟩
  | call r rest ih => exact ⟨hp.1, fun x hx => ih x (hp.2 x hx)⟩
  | openList q t rest ih => exact fun x hx => ih x (hp x hx)
  | openWatch q t rest ih => exact fun x hx => ih x (hp x hx)
  | collect st rest ih => exact fun x hx => ih x (hp x hx)

end Plan

namespace Session

variable {α β : Type} {i : Nat} {s s' s'' : Session}

/-- What is kept while a member's client only reads: the content of the store, the counts of the
calls that change something, and of the member itself its configuration and its refusals. -/
structure Kept (i : Nat) (s s' : Session) : Prop where
  content : s.store.SameContent s'.store
  counts : ∀ v, v.isMutation = true → s'.store.calls.of v = s.store.calls.of v
  member : ∀ m, s.members[i]? = some m → ∃ m', s'.members[i]? = some m' ∧
    m'.client.config = m.client.config ∧ m'.metrics.rejectedWrites = m.metrics.rejectedWrites

theorem Kept.refl (s : Session) : Kept i s s :=
  ⟨.refl _, fun _ _ => rfl, fun m hm => ⟨m, hm, rfl, rfl⟩⟩

theorem Kept.trans (h : Kept i s s') (h' : Kept i s' s'') : Kept i s s'' where
  content := h.content.trans h'.content
  counts v hv := (h'.counts v hv).trans (h.counts v hv)
  member m hm := by
    obtain ⟨m', hm', hc, hr⟩ := h.member m hm
    obtain ⟨m'', hm'', hc', hr'⟩ := h'.member m' hm'
    exact ⟨m'', hm'', hc'.trans hc, hr'.trans hr⟩

/-- A step that leaves the store and the members alone. -/
theorem Kept.of_eq (hs : s'.store = s.store) (hm : s'.members = s.members) : Kept i s s' := by
  refine ⟨by rw [hs]; exact .refl _, fun v _ => by rw [hs], fun m h => ⟨m, by rw [hm]; exact h, ?_⟩⟩
  exact ⟨rfl, rfl⟩

theorem Kept.of_later (h : Later s s') : Kept i s s' := .of_eq h.store h.members

/-- A change of a member that keeps its configuration and its refusals. -/
theorem Kept.modifyMember {j : Nat} {f : Member → Member}
    (hc : ∀ m, (f m).client.config = m.client.config)
    (hr : ∀ m, (f m).metrics.rejectedWrites = m.metrics.rejectedWrites) :
    Kept i s (s.modifyMember j f) := by
  refine ⟨.refl _, fun _ _ => rfl, fun m hm => ?_⟩
  by_cases h : j = i
  · subst h
    exact ⟨f m, getElem?_modifyMember f hm, hc m, hr m⟩
  · exact ⟨m, by rw [getElem?_modifyMember_of_ne f h]; exact hm, rfl, rfl⟩

theorem kept_note {j : Nat} {n : Notice} (h : n ≠ .rejectedWrite) : Kept i s (s.note j n) := by
  refine Kept.modifyMember (fun _ => rfl) fun m => ?_
  cases n with
  | rejectedWrite => exact absurd rfl h
  | lostStates | bulkDeleteFailure | cancelledStream => rfl

theorem kept_countFailure {j : Nat} {v : Verb} {r : Except Error α} :
    Kept i s (s.countFailure j v r) := by
  cases r with
  | ok a => exact .refl s
  | error e => exact Kept.modifyMember (fun _ => rfl) fun _ => rfl

theorem sameContent_receive {v : Verb} {headers : Headers} :
    s.store.SameContent (s.receive v headers).store := ⟨rfl, rfl, rfl⟩

theorem kept_receive {v : Verb} {headers : Headers} (h : v.isMutation = false) :
    Kept i s (s.receive v headers) := by
  refine ⟨sameContent_receive, fun w hw => ?_, fun m hm => ⟨m, hm, rfl, rfl⟩⟩
  have hne : w ≠ v := fun he => by rw [he, h] at hw; cases hw
  exact PerVerb.of_modify_of_ne _ _ hne

theorem kept_answer {r : Request α} (h : r.verb.isMutation = false) : Kept i s (s.answer r).2 :=
  .of_eq (Store.answer_snd_of_commit?_eq_none (Store.commit?_eq_none_of_not_isMutation h)) rfl

theorem startCall_kept (i : Nat) (s : Session) (m : Member) (v : Verb) (token : Option Token) :
    Kept i s (s.startCall i m v token).2 := by
  have hsign : Kept i s (s.modifyMember i fun m => { m with signed := m.signed ++ [v] }) :=
    .modifyMember (fun _ => rfl) fun _ => rfl
  have hstart := startCall_started s i m v token
  generalize s.startCall i m v token = y at hstart ⊢
  cases hstart with
  | cancelled => exact .refl s
  | unsigned | overflow => exact hsign
  | started => exact hsign.trans (.modifyMember (fun _ => rfl) fun _ => rfl)

theorem finishCall_kept (i : Nat) (s : Session) (m : Member) {r : Request α} (token : Option Token)
    (headers : Headers) (h : r.verb.isMutation = false) :
    Kept i s (s.finishCall i m r token headers).2 := by
  have hr : Kept i s (s.receive r.verb headers) := kept_receive h
  obtain ⟨s₁, hlater, h'⟩ := finishCall_cases s i m r token headers
  have hk : Kept i s s₁ := hr.trans (.of_later hlater)
  rcases h' with h' | ⟨x, rfl, h'⟩ | h'
  · rw [h']
    exact hk
  · rw [h']
    dsimp only
    exact hk.trans kept_countFailure
  · rw [h']
    exact (hk.trans (kept_answer h)).trans kept_countFailure

/-- A call that changes nothing keeps everything. -/
theorem invoke_kept (i : Nat) (s : Session) {r : Request α} (token : Option Token) (f : α → β)
    (scripted : Backend → Option β) (h : r.verb.isMutation = false) :
    Kept i s (s.invoke i r token f scripted).2 := by
  have hstart : ∀ m, Kept i s (s.startCall i m r.verb token).2 := fun m =>
    startCall_kept i s m r.verb token
  have hcall := invoke_cases s i r token f scripted
  generalize s.invoke i r token f scripted = y at hcall ⊢
  cases hcall with
  | missing => exact .refl s
  | refused | scripted => exact hstart _
  | served => exact (hstart _).trans (finishCall_kept i _ _ token _ h)
  | unscripted =>
    dsimp only
    exact (hstart _).trans kept_countFailure

/-- What the errors of the service and those of a signer are known for, those of a call are. -/
theorem Outside.failsBy {x : Except Error α} {known : Error → Prop} (h : Outside i s x)
    (hservice : ∀ e, e.isLocal = false → known e)
    (hsigner : SignerIs i (Signer.FailsBy known) s) : FailsBy known x := by
  intro e he
  rcases h e he with hl | ⟨m, hm, earlier, method, given, hsign⟩
  · exact hservice e hl
  · exact hsigner m hm earlier method given e hsign

/-- A signer whose errors are not the client's own brings none of them up. -/
theorem Outside.notLocal {x : Except Error α} (h : Outside i s x)
    (hsigner : SignerIs i Signer.Foreign s) : NotLocal x :=
  h.failsBy (fun _ hl => hl) hsigner

/-- Opening a list keeps everything and goes on with what was answered. -/
theorem run_openList (i : Nat) (q : ListQuery) (token : Option Token)
    (rest : Except Error (ListSource × Time) → Plan α) (s : Session) :
    ∃ x s', run i (.openList q token rest) s = run i (rest x) s' ∧ Kept i s s' ∧
      SameSigners s s' ∧ Outside i s x :=
  ⟨_, _, rfl, invoke_kept i s token ListSource.page _ rfl,
    invoke_sameSigners s i (.list q) token ListSource.page _,
    invoke_outside i s (.list q) token ListSource.page _⟩

/-- Opening a watch keeps everything and goes on with what was answered. -/
theorem run_openWatch (i : Nat) (q : WatchQuery) (token : Option Token)
    (rest : Except Error WatchSource → Plan α) (s : Session) :
    ∃ x s', run i (.openWatch q token rest) s = run i (rest x) s' ∧ Kept i s s' ∧
      SameSigners s s' ∧ Outside i s x :=
  ⟨_, _, rfl, invoke_kept i s token WatchSource.live _ rfl,
    invoke_sameSigners s i (.watch q) token WatchSource.live _,
    (invoke_outside i s (.watch q) token WatchSource.live _).map _⟩

/-- A guarded stream fails only where its source does. -/
theorem guard_step_failed {before expired after : Bool} {p : Pull α} {e : Error}
    (h : Guard.step before expired p after = .ended (.failed e)) : p = .failed e := by
  cases before <;> cases expired <;> cases p <;> simp [Guard.step] at h
  · split at h <;> cases h
  · rw [h]

theorem script_pull_failed {now : Time} {w : Option Time} {cs : List (Cue α)} {e : Error}
    (h : (Script.pullFrom now w cs).1 = .failed e) : e.isLocal = false := by
  induction cs generalizing w with
  | nil => cases h
  | cons c cs ih =>
    cases c with
    | item a => cases h
    | failure s => cases h; rfl
    | cancel t => exact ih h
    | wait span =>
      simp only [Script.pullFrom] at h
      split at h
      · exact ih h
      · cases h

theorem pull_failed {now : Time} {src : ListSource} {e : Error}
    (h : (src.pull now).1 = .failed e) : e.isLocal = false := by
  cases src with
  | page rs => cases rs <;> cases h
  | script sc => exact script_pull_failed h

theorem pollList_failed {st : ListStream} {e : Error}
    (h : (s.pollList st).1 = .ended (.failed e)) : e.isLocal = false := by
  unfold pollList at h
  by_cases hb : (st.guard.isCancelled s.cancelled || st.guard.isExpired s.now) = true
  · simp only [hb, if_true] at h
    cases guard_step_failed h
  · rw [if_neg hb] at h
    rcases hp : st.source.pull s.now with ⟨p, source, ts⟩
    rw [hp] at h
    dsimp only at h
    exact pull_failed (by rw [hp]; exact guard_step_failed h)

/-- No list ends in an error of the client's own. -/
theorem collectFrom_failed {fuel : Nat} {acc : List WireResource} {st : ListStream} {s : Session}
    {e : Error} (h : (collectFrom fuel acc st s).1.2 = .failed e) : e.isLocal = false := by
  induction fuel generalizing acc st s with
  | zero => cases h
  | succ fuel ih =>
    rcases hp : s.pollList st with ⟨g, st', s'⟩
    simp only [collectFrom, hp] at h
    cases g with
    | item r => exact ih h
    | pending wake => exact ih h
    | ended x =>
      cases h
      exact pollList_failed (by rw [hp])

/-- **What a run of reads keeps**, and what it fails by. -/
theorem run_reads {known : Error → Prop} {p : Plan α} (hp : p.Reads known)
    (hservice : ∀ e, e.isLocal = false → known e)
    (hsigner : SignerIs i (Signer.FailsBy known) s) :
    Kept i s (run i p s).2 ∧ SameSigners s (run i p s).2 ∧ FailsBy known (run i p s).1 := by
  induction p generalizing s with
  | done r => exact ⟨.refl s, .refl s, hp⟩
  | note n p ih =>
    have hn : SameSigners s (s.note i n) := .note i n
    obtain ⟨hk, hsame, hr⟩ := ih hp.2 (hsigner.of_same hn)
    exact ⟨(kept_note hp.1).trans hk, hn.trans hsame, hr⟩
  | call r rest ih =>
    have hk := invoke_kept i s none id (fun _ => none) hp.1
    have hsame := invoke_sameSigners s i r none id fun _ => none
    have hx := ((invoke_outside i s r none id fun _ => none).map (·.1)).failsBy hservice hsigner
    rw [run_call]
    obtain ⟨hk', hsame', hr⟩ := ih _ (hp.2 _ hx) (hsigner.of_same hsame)
    exact ⟨hk.trans hk', hsame.trans hsame', hr⟩
  | openList q t rest ih =>
    obtain ⟨x, s', hrun, hk, hsame, hx⟩ := run_openList i q t rest s
    rw [hrun]
    obtain ⟨hk', hsame', hr⟩ := ih x (hp x (hx.failsBy hservice hsigner)) (hsigner.of_same hsame)
    exact ⟨hk.trans hk', hsame.trans hsame', hr⟩
  | openWatch q t rest ih =>
    obtain ⟨x, s', hrun, hk, hsame, hx⟩ := run_openWatch i q t rest s
    rw [hrun]
    obtain ⟨hk', hsame', hr⟩ := ih x (hp x (hx.failsBy hservice hsigner)) (hsigner.of_same hsame)
    exact ⟨hk.trans hk', hsame.trans hsame', hr⟩
  | collect st rest ih =>
    have hlater := collect_later s st
    have hsame : SameSigners s (s.collect st).2 := .of_later hlater
    rw [run_collect]
    obtain ⟨hk', hsame', hr⟩ := ih _ (hp _ fun e he => hservice e (collectFrom_failed he))
      (hsigner.of_same hsame)
    exact ⟨(Kept.of_later hlater).trans hk', hsame.trans hsame', hr⟩

/-- Reading keeps everything whatever its signer answers. -/
theorem run_kept {p : Plan α} (hp : p.Reads fun _ => True) :
    Kept i s (run i p s).2 ∧ SameSigners s (run i p s).2 := by
  have hsigner : SignerIs i (Signer.FailsBy fun _ => True) s := fun _ _ _ _ _ _ _ => trivial
  obtain ⟨hk, hsame, -⟩ := run_reads hp (fun _ _ => trivial) hsigner
  exact ⟨hk, hsame⟩

end Session

end Fleet
