import Fleet.Proofs.Session.Attended

/-!
# Clients that the service answers

* `Serving`: a client that the service answers: nothing refuses its calls and nothing keeps them
  waiting too long.
* `Answered`: the session after a call that the store has answered.
* `Serving.invoke`, `Serving.run_request`: **a call of such a client is answered by the store**, and
  the service goes on to answer it.
-/

namespace Fleet

namespace Session

variable {α β : Type} {i : Nat} {c : Client} {s s' : Session}

/-- What the clock of the service read last. -/
def lastReading (s : Session) : Timestamp := s.clock (s.readings - 1)

/-- A client that the service answers. -/
structure Serving (i : Nat) (c : Client) (s : Session) : Prop where
  member : ∃ m, s.members[i]? = some m ∧ m.client = c ∧ m.backend = .shared ∧ m.signer.Signs
  timeout : c.config.timeout.seconds < 9223372036854775808
  prompt : ∀ l, s.latency = some l → l ≤ c.config.timeout.nanos
  faultless : s.store.faults = []

/-- It is attended to. -/
theorem Serving.attended (h : Serving i c s) : Attended i c s := ⟨h.member, h.timeout, h.prompt⟩

/-- Counting leaves a client that is answered. -/
theorem Serving.modifyMember (h : Serving i c s) {f : Member → Member}
    (hf : ∀ m, (f m).client = m.client ∧ (f m).backend = m.backend ∧ (f m).signer = m.signer) :
    Serving i c (s.modifyMember i f) := by
  obtain ⟨hmember, -, -⟩ := h.attended.modifyMember hf
  exact ⟨hmember, h.timeout, h.prompt, h.faultless⟩

/-- What the store answers to a call that it counts, and the store after it. -/
def served (s : Session) (r : Request α) : Except Status α × Store :=
  (s.store.count r.verb).perform (s.clock s.readings).toWire r

/-- A call has been answered: the clock was read once, and this is the store after it. -/
structure Answered (i : Nat) (c : Client) (s : Session) (store : Store) (s' : Session) : Prop where
  serving : Serving i c s'
  store : s'.store = store
  clock : s'.clock = s.clock
  readings : s'.readings = s.readings + 1

theorem Answered.lastReading {store : Store} (h : Answered i c s store s') :
    s'.lastReading = s.clock s.readings := by
  rw [Session.lastReading, h.clock, h.readings, Nat.add_sub_cancel]

/-- A call that no fault meets is answered by the store. -/
theorem Serving.handle (h : Serving i c s) (r : Request α) :
    s.store.handle s.reading r = s.served r := by
  have hfault : (s.store.count r.verb).fault? r.verb r.address = none := by
    rw [Store.fault?, Store.count_faults, h.faultless]
    rfl
  rw [Store.handle, Store.answer, hfault]
  rfl

/-- A call that was heard has been answered. -/
theorem Serving.answered (h : Serving i c s) {r : Request α}
    (hs' : Heard i c s none (s.served r).2 s') : Answered i c s (s.served r).2 s' := by
  have hfaults : s'.store.faults = [] := by
    rw [hs'.store, ← h.handle, Store.handle_faults, h.faultless]
  have hattended := hs'.attended
  exact ⟨⟨hattended.member, hattended.timeout, hattended.prompt, hfaults⟩, hs'.store, hs'.clock,
    hs'.readings⟩

/-- **A call of a client that the service answers** is answered by the store, whatever is made of
its answer. -/
theorem Serving.invoke (h : Serving i c s) (r : Request α) (f : α → β)
    (scripted : Backend → Option β) : ∃ s',
    s.invoke i r none f scripted = (((s.served r).1.mapError .remote).map fun a =>
      (f a, s.now + c.config.timeout.nanos), s') ∧
    Answered i c s (s.served r).2 s' ∧ s'.now ≤ s.now + s.latency.getD 0 := by
  obtain ⟨s', hinvoke, hs'⟩ := h.attended.invoke r (undisturbed_none s) f scripted
  rw [h.handle] at hinvoke hs'
  exact ⟨s', hinvoke, h.answered hs', hs'.now⟩

/-- A call by itself. -/
theorem Serving.run_request (h : Serving i c s) (r : Request α) : ∃ s',
    run i (Plan.request r) s = ((s.served r).1.mapError .remote, s') ∧
    Answered i c s (s.served r).2 s' := by
  obtain ⟨s', hinvoke, hs', -⟩ := h.invoke r id fun _ => none
  refine ⟨s', ?_, hs'⟩
  rw [Plan.request, run_call, hinvoke, run_done]
  cases (s.served r).1 <;> rfl

/-- A client that may write. -/
def writer : Member :=
  ⟨⟨Config.ofEndpoint "memory://", Registry.builtin⟩, .silent, .shared, .zero, []⟩

/-- It is answered by a service of its own. -/
theorem serving_start (historyLimit : Nat) :
    Serving 0 writer.client (start historyLimit [writer]) :=
  ⟨⟨writer, rfl, rfl, rfl, Signer.headers_signs ∅⟩, by decide, nofun, rfl⟩

end Session

end Fleet
