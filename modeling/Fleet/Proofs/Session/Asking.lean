import Fleet.Proofs.Service.Atomicity
import Fleet.Proofs.Session.Serving

/-!
# Calls that only ask

A call that changes nothing leaves no more than its traces: its client has signed it, and the
service has counted it if it came that far.

* `Asked`: what a client has signed and the service has counted, where nothing else has changed.
* `invoke_asked`: **a call that only asks is signed at most once**, and counted only if it was
  signed.
* `Asked.serving`: a client that is answered afterwards was answered before.
* `run_request_unserved`: a client that is not answered is never told that something is missing.
-/

namespace Fleet

/-- Counting calls changes nothing else of a store. -/
theorem Store.foldl_count (vs : List Verb) (s : Store) :
    ∃ calls, vs.foldl Store.count s = { s with calls } := by
  induction vs generalizing s with
  | nil => exact ⟨_, rfl⟩
  | cons v vs ih => exact ih (s.count v)

namespace Session

variable {α β : Type} {i : Nat} {s s' s'' : Session} {signed heard signed' heard' : List Verb}

/-- Since a session a member's client has signed some calls and the service has counted some, and
nothing has come of them. -/
structure Asked (i : Nat) (signed heard : List Verb) (s s' : Session) : Prop where
  store : s'.store = heard.foldl Store.count s.store
  member : ∀ m, s.members[i]? = some m → ∃ m', s'.members[i]? = some m' ∧ m'.client = m.client ∧
    m'.signer = m.signer ∧ m'.backend = m.backend ∧ m'.signed = m.signed ++ signed
  others : ∀ j, j ≠ i → s'.members[j]? = s.members[j]?
  received : s'.received.map (·.method) = s.received.map (·.method) ++ heard.map Verb.method
  latency : s'.latency = s.latency

namespace Asked

theorem refl (s : Session) : Asked i [] [] s s where
  store := rfl
  member m hm := ⟨m, hm, rfl, rfl, rfl, (List.append_nil _).symm⟩
  others _ _ := rfl
  received := (List.append_nil _).symm
  latency := rfl

theorem trans (h : Asked i signed heard s s') (h' : Asked i signed' heard' s' s'') :
    Asked i (signed ++ signed') (heard ++ heard') s s'' where
  store := by rw [h'.store, h.store, List.foldl_append]
  member m hm := by
    obtain ⟨m', hm', hclient, hsigner, hbackend, hsigned⟩ := h.member m hm
    obtain ⟨m'', hm'', hclient', hsigner', hbackend', hsigned'⟩ := h'.member m' hm'
    refine ⟨m'', hm'', hclient'.trans hclient, hsigner'.trans hsigner, hbackend'.trans hbackend, ?_⟩
    rw [hsigned', hsigned, List.append_assoc]
  others j hj := (h'.others j hj).trans (h.others j hj)
  received := by rw [h'.received, h.received, List.map_append, List.append_assoc]
  latency := h'.latency.trans h.latency

/-- What comes after it without a call. -/
theorem silently (h : Asked i signed heard s s') (h' : Asked i [] [] s' s'') :
    Asked i signed heard s s'' := by
  have hall := h.trans h'
  rwa [List.append_nil, List.append_nil] at hall

theorem of_later (h : Later s s') : Asked i [] [] s s' := by
  obtain ⟨_, _, _, rfl⟩ := h
  have hsame : Asked i [] [] s s := refl s
  exact ⟨rfl, hsame.member, fun _ _ => rfl, hsame.received, rfl⟩

/-- A change of the member that at most adds to what it has signed. -/
theorem modifyMember {f : Member → Member} (hf : ∀ m, (f m).client = m.client ∧
    (f m).signer = m.signer ∧ (f m).backend = m.backend ∧ (f m).signed = m.signed ++ signed) :
    Asked i signed [] s (s.modifyMember i f) where
  store := rfl
  member m hm := ⟨f m, getElem?_modifyMember f hm, hf m⟩
  others _ hj := getElem?_modifyMember_of_ne f (Ne.symm hj)
  received := (List.append_nil _).symm
  latency := rfl

theorem note (n : Notice) : Asked i [] [] s (s.note i n) :=
  modifyMember fun _ => ⟨rfl, rfl, rfl, (List.append_nil _).symm⟩

theorem countFailure (v : Verb) (x : Except Error α) :
    Asked i [] [] s (s.countFailure i v x) := by
  cases x with
  | ok a => exact refl s
  | error e => exact modifyMember fun _ => ⟨rfl, rfl, rfl, (List.append_nil _).symm⟩

theorem receive (v : Verb) (headers : Headers) : Asked i [] [v] s (s.receive v headers) where
  store := rfl
  member m hm := ⟨m, hm, rfl, rfl, rfl, (List.append_nil _).symm⟩
  others _ _ := rfl
  received := List.map_append
  latency := rfl

theorem answer {r : Request α} (hr : r.verb.isMutation = false) :
    Asked i [] [] s (s.answer r).2 where
  store := Store.answer_snd_of_commit?_eq_none (Store.commit?_eq_none_of_not_isMutation hr)
  member m hm := ⟨m, hm, rfl, rfl, rfl, (List.append_nil _).symm⟩
  others _ _ := rfl
  received := (List.append_nil _).symm
  latency := rfl

/-- Nothing has come of it: the content of the store is as it was. -/
theorem content (h : Asked i signed heard s s') : s.store.SameContent s'.store := by
  obtain ⟨calls, hcalls⟩ := Store.foldl_count heard s.store
  rw [h.store, hcalls]
  exact ⟨rfl, rfl, rfl⟩

theorem faults (h : Asked i signed heard s s') : s'.store.faults = s.store.faults := by
  obtain ⟨calls, hcalls⟩ := Store.foldl_count heard s.store
  rw [h.store, hcalls]

/-- **A client is answered afterwards** only if it was before. -/
theorem serving (h : Asked i signed heard s s') {m : Member} (hm : s.members[i]? = some m)
    (hserving : Serving i m.client s') : Serving i m.client s := by
  obtain ⟨m', hm', hclient, hsigner, hbackend, -⟩ := h.member m hm
  obtain ⟨m₂, hm₂, -, hshared, hsigns⟩ := hserving.member
  have hsame : m₂ = m' := Option.some.inj (hm₂.symm.trans hm')
  subst hsame
  refine ⟨⟨m, hm, rfl, hbackend ▸ hshared, hsigner ▸ hsigns⟩, hserving.timeout, ?_, ?_⟩
  · rw [← h.latency]
    exact hserving.prompt
  · rw [← h.faults]
    exact hserving.faultless

end Asked

/-- Starting a call signs it at most once, and once if it starts. -/
theorem startCall_asked (s : Session) (i : Nat) (m : Member) (v : Verb) (token : Option Token) :
    ∃ signed, Asked i signed [] s (s.startCall i m v token).2 ∧ signed <+: [v] ∧
      ∀ c, (s.startCall i m v token).1 = .ok c → signed = [v] := by
  have hsign : Asked i [v] [] s (s.modifyMember i fun m => { m with signed := m.signed ++ [v] }) :=
    .modifyMember fun _ => ⟨rfl, rfl, rfl, rfl⟩
  have hcount : ∀ s : Session, Asked i [] [] s (s.countRequest i v) :=
    fun _ => .modifyMember fun _ => ⟨rfl, rfl, rfl, (List.append_nil _).symm⟩
  have hstart := startCall_started s i m v token
  generalize s.startCall i m v token = y at hstart ⊢
  cases hstart with
  | cancelled => exact ⟨[], .refl s, List.nil_prefix, nofun⟩
  | unsigned | overflow => exact ⟨[v], hsign, List.prefix_rfl, fun _ _ => rfl⟩
  | started => exact ⟨[v], hsign.silently (hcount _), List.prefix_rfl, fun _ _ => rfl⟩

/-- A call that only asks and has reached the service is counted there. -/
theorem finishCall_asked (s : Session) (i : Nat) (m : Member) {r : Request α}
    (token : Option Token) (headers : Headers) (hr : r.verb.isMutation = false) :
    Asked i [] [r.verb] s (s.finishCall i m r token headers).2 := by
  obtain ⟨s₁, hlater, h⟩ := finishCall_cases s i m r token headers
  have hreceived : Asked i [] [r.verb] s s₁ :=
    (Asked.receive r.verb headers).silently (.of_later hlater)
  rcases h with h | ⟨x, -, h⟩ | h
  · rw [h]
    exact hreceived
  · rw [h]
    exact hreceived.silently (.countFailure _ _)
  · rw [h]
    exact (hreceived.silently (.answer hr)).silently (.countFailure _ _)

/-- **A call that only asks** is signed at most once, is counted only if it was signed, and changes
nothing. -/
theorem invoke_asked (s : Session) (i : Nat) {r : Request α} (token : Option Token) (f : α → β)
    (scripted : Backend → Option β) (hr : r.verb.isMutation = false) :
    ∃ signed heard, Asked i signed heard s (s.invoke i r token f scripted).2 ∧
      signed <+: [r.verb] ∧ heard <+: signed := by
  have hcall := invoke_cases s i r token f scripted
  generalize s.invoke i r token f scripted = y at hcall ⊢
  -- it was signed when it started, and only the service itself can count it after that
  have hstarted : ∀ m c, (s.startCall i m r.verb token).1 = .ok c →
      Asked i [r.verb] [] s (s.startCall i m r.verb token).2 := by
    intro m c hc
    obtain ⟨signed, hstart, -, hone⟩ := startCall_asked s i m r.verb token
    rwa [hone c hc] at hstart
  cases hcall with
  | missing => exact ⟨[], [], .refl s, List.nil_prefix, List.prefix_rfl⟩
  | @refused m =>
    obtain ⟨signed, hstart, hsigned, -⟩ := startCall_asked s i m r.verb token
    exact ⟨signed, [], hstart, hsigned, List.nil_prefix⟩
  | served _ hc =>
    exact ⟨[r.verb], [r.verb], (hstarted _ _ hc).trans (finishCall_asked _ i _ token _ hr),
      List.prefix_rfl, List.prefix_rfl⟩
  | scripted _ hc => exact ⟨[r.verb], [], hstarted _ _ hc, List.prefix_rfl, List.nil_prefix⟩
  | unscripted _ hc =>
    dsimp only
    exact ⟨[r.verb], [], (hstarted _ _ hc).silently (.countFailure _ _), List.prefix_rfl,
      List.nil_prefix⟩

/-- The same of a plan that is one call. -/
theorem run_request_asked (s : Session) (i : Nat) {r : Request α} (hr : r.verb.isMutation = false) :
    ∃ signed heard, Asked i signed heard s (run i (Plan.request r) s).2 ∧
      signed <+: [r.verb] ∧ heard <+: signed :=
  invoke_asked s i none id (fun _ => none) hr

/-- A wait that takes longer than the deadline allows, where no caller can give up. -/
theorem awaitAnswer_late {timeout : Span} {l : Time} (hl : s.latency = some l)
    (hlate : timeout.nanos < l) :
    s.awaitAnswer timeout none = (.late, s.advanceTo (s.now + timeout.nanos)) := by
  have htoken : s.cancelTime? none = none := by
    unfold cancelTime?
    rw [List.min?_eq_none_iff, List.filterMap_eq_nil_iff]
    intro t _
    exact if_neg (Bool.false_ne_true)
  unfold awaitAnswer
  rw [hl]
  dsimp only
  rw [htoken, if_neg (Nat.not_le.2 hlate), Nat.min_eq_right (Nat.le_of_lt hlate)]

/-- A call that the service takes too long for. -/
theorem finishCall_late {m : Member} {r : Request α} {headers : Headers} {l : Time}
    (hl : s.latency = some l) (hlate : m.client.config.timeout.nanos < l) (hr : r.verb ≠ .watch) :
    (s.finishCall i m r none headers).1 =
      .error (.deadlineExceeded r.verb.text m.client.config.timeout) := by
  have hreceived : (s.receive r.verb headers).latency = some l := hl
  unfold finishCall
  dsimp only
  rw [if_neg (mt eq_of_beq hr), awaitAnswer_late hreceived hlate]

/-- A client whose call has started and goes to a service without faults is served, unless the
service takes too long. -/
theorem latency_of_not_serving {m : Member} (hm : s.members[i]? = some m)
    (hbackend : m.backend = .shared) (hsigns : m.signer.Signs)
    (htimeout : m.client.config.timeout.seconds < 9223372036854775808) (hf : s.store.faults = [])
    (h : ¬Serving i m.client s) :
    ∃ l, s.latency = some l ∧ m.client.config.timeout.nanos < l := by
  by_contra hprompt
  refine h ⟨⟨m, hm, rfl, hbackend, hsigns⟩, htimeout, fun l hl => ?_, hf⟩
  exact Nat.not_lt.1 fun hlate => hprompt ⟨l, hl, hlate⟩

/-- **A client that is not answered is never told that something is missing**: where no faults are
injected and its signer signs every call or none, its call fails before the store is asked. -/
theorem run_request_unserved {m : Member} (hm : s.members[i]? = some m)
    (hsigner : m.signer.Steady) (hf : s.store.faults = []) (h : ¬Serving i m.client s)
    {r : Request α} (hr : r.verb ≠ .watch) :
    ∃ e, (run i (Plan.request r) s).1 = .error e ∧ e.isNotFound = false := by
  rw [Plan.request, run_call, run_done]
  unfold invoke
  rw [hm]
  dsimp only
  have hstart := startCall_started s i m r.verb none
  generalize s.startCall i m r.verb none = y at hstart ⊢
  cases hstart with
  | cancelled | overflow => exact ⟨_, rfl, rfl⟩
  | @unsigned e _ hfails =>
    rcases hsigner with hsigns | hrefuses
    · obtain ⟨headers, hsigned⟩ := hsigns (m.signed.map Verb.method) r.verb.method clientHeaders
      rw [hsigned] at hfails
      cases hfails
    · obtain ⟨e', hrefused, hfound⟩ :=
        hrefuses (m.signed.map Verb.method) r.verb.method clientHeaders
      rw [hrefused] at hfails
      cases hfails
      exact ⟨e, rfl, hfound⟩
  | @started headers deadline _ hsigned hdeadline =>
    have hsigns : m.signer.Signs := by
      refine hsigner.resolve_right fun hrefuses => ?_
      obtain ⟨e, hrefused, -⟩ := hrefuses (m.signed.map Verb.method) r.verb.method clientHeaders
      rw [hrefused] at hsigned
      cases hsigned
    have htimeout : m.client.config.timeout.seconds < 9223372036854775808 := by
      by_contra hbeyond
      rw [deadline?, if_neg hbeyond] at hdeadline
      cases hdeadline
    dsimp only
    cases hbackend : m.backend with
    | scripted lists watches => exact ⟨_, rfl, rfl⟩
    | shared =>
      -- nothing but its latency can keep the service from answering now
      obtain ⟨l, hl, hlate⟩ := latency_of_not_serving hm hbackend hsigns htimeout hf h
      dsimp only
      rw [finishCall_late (l := l) ?_ hlate hr]
      · exact ⟨_, rfl, rfl⟩
      · exact hl

end Session

end Fleet
