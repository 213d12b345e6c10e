import Fleet.Proofs.Client.Refinement
import Fleet.Proofs.Session.Asking

/-!
# What single calls come to

Whatever a service holds, the answer to a get, a create or an update is known beforehand, and so is
what it leaves behind.

* `run_get_asked`: a get is signed at most once and changes nothing.
* `run_get_outcome`: **a get tells what is stored, or it fails and does not tell.**
* `run_get_ok`: what is known when it has told.
* `Serving.run_create`, `Serving.run_update`: **a create of what is not there succeeds**, and so
  does an update of the version that is there.
-/

namespace Fleet

namespace Session

variable {K : Kind} {i : Nat} {c : Client} {type id : String} {ns : Option String}
  {s s' : Session}

/-! ### Getting -/

/-- **A get is signed at most once** and changes nothing. -/
theorem run_get_asked (i : Nat) (c : Client) (K : Kind) (id : String) (ns : Option String)
    (s : Session) : ∃ signed heard, Asked i signed heard s (run i (c.get K id ns) s).2 ∧
      signed <+: [.get] ∧ heard <+: signed := by
  have hnothing : ∃ signed heard, Asked i signed heard s s ∧ signed <+: [Verb.get] ∧
      heard <+: signed := ⟨[], [], .refl s, List.nil_prefix, List.prefix_rfl⟩
  unfold Client.get
  split
  · exact hnothing
  · cases hname : c.registry.wireName K with
    | error e =>
      rw [Client.wireName_bind_error hname]
      exact hnothing
    | ok type =>
      rw [Client.wireName_bind_ok hname, Plan.bind_eq, run_bind]
      obtain ⟨signed, heard, hasked, hsigned, hheard⟩ :=
        run_request_asked s i (r := .get ⟨c.resolve ns, type, id⟩) rfl
      refine ⟨signed, heard, ?_, hsigned, hheard⟩
      generalize run i (Plan.request (.get ⟨c.resolve ns, type, id⟩)) s = x at hasked ⊢
      obtain ⟨answer, s₁⟩ := x
      cases answer with
      | error e => exact hasked
      | ok w => exact hasked.silently (.note _)

/-- A get of a client that is answered tells what is stored. -/
theorem Serving.run_get (h : Serving i c s) (hname : c.registry.wireName K = .ok type)
    (hid : id.isEmpty = false) (ns : Option String) : ∃ s',
    run i (c.get K id ns) s = (((s.store.find ⟨c.resolve ns, type, id⟩).mapError Error.remote).map
      (fun w => (Resource.ofWire K w).1), s') ∧ Answered i c s (s.store.count .get) s' := by
  unfold Client.get
  rw [hid, if_neg Bool.false_ne_true, Client.wireName_bind_ok hname]
  exact h.run_decoded K (.get ⟨c.resolve ns, type, id⟩)

/-- **A get tells what is stored**, where a service without faults answers its client; otherwise it
fails, and not because there is nothing. The client's signer signs every call or none. -/
theorem run_get_outcome {m : Member} (hm : s.members[i]? = some m)
    (hsigner : m.signer.Steady) (hf : s.store.faults = [])
    (hname : m.client.registry.wireName K = .ok type) (id : String) (ns : Option String) :
    (¬(Serving i m.client s ∧ id.isEmpty = false) ∧
      ∃ e s', run i (m.client.get K id ns) s = (.error e, s') ∧ e.isNotFound = false) ∨
    (Serving i m.client s ∧ id.isEmpty = false ∧ ∃ s',
      run i (m.client.get K id ns) s =
        (((s.store.find ⟨m.client.resolve ns, type, id⟩).mapError Error.remote).map
          (fun w => (Resource.ofWire K w).1), s') ∧
      Answered i m.client s (s.store.count .get) s') := by
  cases hid : id.isEmpty with
  | true =>
    -- the refusal of an empty id is not that of a missing resource
    unfold Client.get
    rw [hid, if_pos rfl]
    exact .inl ⟨fun h => Bool.noConfusion h.2, _, s, rfl, rfl⟩
  | false =>
    by_cases hserving : Serving i m.client s
    · exact .inr ⟨hserving, rfl, hserving.run_get hname hid ns⟩
    · refine .inl ⟨fun h => hserving h.1, ?_⟩
      obtain ⟨e, he, hfound⟩ := run_request_unserved hm hsigner hf hserving
        (r := .get ⟨m.client.resolve ns, type, id⟩) nofun
      unfold Client.get
      rw [hid, if_neg Bool.false_ne_true, Client.wireName_bind_ok hname, Plan.bind_eq, run_bind]
      generalize run i (Plan.request (.get ⟨m.client.resolve ns, type, id⟩)) s = x at he ⊢
      obtain ⟨answer, s₁⟩ := x
      cases he
      exact ⟨e, s₁, rfl, hfound⟩

/-- A get that succeeds was answered by what is stored. -/
theorem run_get_ok {m : Member} (hm : s.members[i]? = some m)
    (hsigner : m.signer.Steady) (hf : s.store.faults = []) {r : Resource K}
    (hget : run i (m.client.get K id ns) s = (.ok r, s')) :
    ∃ type w, m.client.registry.wireName K = .ok type ∧ Serving i m.client s ∧
      id.isEmpty = false ∧
      s.store.resources.get? ⟨m.client.resolve ns, type, id⟩ = some w ∧
      (Resource.ofWire K w).1 = r := by
  cases hname : m.client.registry.wireName K with
  | error e =>
    unfold Client.get at hget
    rw [Client.wireName_bind_error hname] at hget
    split at hget <;> cases hget
  | ok type =>
    rcases run_get_outcome hm hsigner hf hname id ns with
      ⟨-, e, s₁, hfails, -⟩ | ⟨hserving, hid, s₁, hanswer, -⟩
    · rw [hfails] at hget
      cases hget
    · rw [hanswer, Store.find] at hget
      cases hheld : s.store.resources.get? ⟨m.client.resolve ns, type, id⟩ with
      | none =>
        rw [hheld] at hget
        cases hget
      | some w =>
        rw [hheld] at hget
        cases hget
        exact ⟨type, w, rfl, hserving, hid, hheld, rfl⟩

/-! ### Writing -/

/-- **A create of what is not there succeeds.** -/
theorem Serving.run_create (h : Serving i c s) (hname : c.registry.wireName K = .ok type)
    (hmode : c.config.mode = .readWrite) {r : Resource K} (hid : r.id.isEmpty = false)
    (hnone : s.store.resources.get? ⟨c.resolve (some r.metadata.ns), type, r.id⟩ = none) :
    ∃ s' w, w = Store.asCreated (s.clock s.readings).toWire ((c.scope type).sent r false) ∧
      run i (c.create r) s = (.ok (Resource.ofWire K w).1, s') ∧
      Answered i c s ((Commit.created w).applyTo (s.store.count .create)) s' := by
  have hfree : s.store.resources.contains (.of ((c.scope type).sent r false).metadata) = false :=
    Option.isSome_eq_false_iff.2 (Option.isNone_iff_eq_none.2 hnone)
  obtain ⟨s', hrun, hs'⟩ := h.run_decoded K (.create ((c.scope type).sent r false))
  have hserved : s.served (.create ((c.scope type).sent r false)) =
      (.ok (Store.asCreated (s.clock s.readings).toWire ((c.scope type).sent r false)),
        (Commit.created (Store.asCreated (s.clock s.readings).toWire
          ((c.scope type).sent r false))).applyTo (s.store.count .create)) :=
    if_neg (ne_true_of_eq_false hfree)
  rw [hserved] at hrun hs'
  refine ⟨s', _, rfl, ?_, hs'⟩
  unfold Client.create
  rw [Client.wireName_bind_ok hname, Client.refuseWrite_readWrite hmode, Client.prepare_eq, hid,
    if_neg Bool.false_ne_true]
  exact hrun

/-- **An update of the version that is there succeeds.** -/
theorem Serving.run_update (h : Serving i c s) (hname : c.registry.wireName K = .ok type)
    (hmode : c.config.mode = .readWrite) {r : Resource K} (hid : r.id.isEmpty = false)
    {old : WireResource}
    (hold : s.store.resources.get? ⟨c.resolve (some r.metadata.ns), type, r.id⟩ = some old)
    (version : Option String) (hversion : old.metadata.version = version.getD r.version) :
    ∃ s' w, w = Store.asUpdated (s.clock s.readings).toWire old ((c.scope type).sent r true) ∧
      run i (c.update r version) s = (.ok (Resource.ofWire K w).1, s') ∧
      Answered i c s ((Commit.updated old w).applyTo (s.store.count .update)) s' := by
  have hfind : (s.store.count .update).find (.of ((c.scope type).sent r true).metadata) =
      .ok old := by
    have hheld : (s.store.count .update).resources.get?
        (.of ((c.scope type).sent r true).metadata) = some old := hold
    rw [Store.find, hheld]
  obtain ⟨s', hrun, hs'⟩ := h.run_decoded K
    (.update ((c.scope type).sent r true) (version.getD r.version))
  have hserved : s.served (.update ((c.scope type).sent r true) (version.getD r.version)) =
      (.ok (Store.asUpdated (s.clock s.readings).toWire old ((c.scope type).sent r true)),
        (Commit.updated old (Store.asUpdated (s.clock s.readings).toWire old
          ((c.scope type).sent r true))).applyTo (s.store.count .update)) := by
    unfold served Store.perform Store.update
    dsimp only [Request.verb]
    rw [hfind]
    dsimp only
    rw [hversion, bne_self_eq_false, if_neg Bool.false_ne_true, Store.put_updated]
  rw [hserved] at hrun hs'
  refine ⟨s', _, rfl, ?_, hs'⟩
  unfold Client.update
  rw [Client.wireName_bind_ok hname, Client.refuseWrite_readWrite hmode, Client.prepare_eq, hid,
    if_neg Bool.false_ne_true]
  exact hrun

end Session

end Fleet
