import Fleet.Proofs.Service.Atomicity
import Fleet.Proofs.Session.Interleaving
import Fleet.Proofs.Session.Reading

/-!
# Calls and what they change

What a service holds moves only by the calls that it answers.

* `Exchange.Sound`: everything that one call can do, by what was asked.
* `step_sound`: **every step of a plan is a sound exchange** or leaves what the service holds.
-/

namespace Fleet

namespace Exchange

/-- The key that was asked for and the resource that a get, a create or an update returned. -/
def returned? : Exchange → Option (Key × WireResource)
  | ⟨_, .get k, .ok w, _, _⟩ => some (k, w)
  | ⟨_, .create r, .ok w, _, _⟩ | ⟨_, .update r _, .ok w, _, _⟩ => some (.of r.metadata, w)
  | _ => none

/-- The key that was asked for and the resource that a get returned. -/
def read? : Exchange → Option (Key × WireResource)
  | ⟨_, .get k, .ok w, _, _⟩ => some (k, w)
  | _ => none

/-- The key of an update that succeeded, and the version that it was to replace. -/
def replaced? : Exchange → Option (Key × String)
  | ⟨_, .update r v, .ok _, _, _⟩ => some (.of r.metadata, v)
  | _ => none

/-- The key of a create, an update or a destroy that succeeded. -/
def changed? : Exchange → Option Key
  | ⟨_, .create r, .ok _, _, _⟩ | ⟨_, .update r _, .ok _, _, _⟩ => some (.of r.metadata)
  | ⟨_, .destroy k, .ok _, _, _⟩ => some k
  | _ => none

/-- A key was updated. -/
def updates (k : Key) (e : Exchange) : Bool := e.replaced?.any (·.1 = k)

/-- A key was destroyed. -/
def destroys (k : Key) : Exchange → Bool
  | ⟨_, .destroy j, .ok _, _, _⟩ => j = k
  | _ => false

/-- Everything that one call can do. -/
inductive Sound : Exchange → Prop where
  | failed {α : Type} (r : Request α) (e : Error) (m : Held) : Sound ⟨α, r, .error e, m, m⟩
  | got {k : Key} {w : WireResource} {m : Held} (h : m.get? k = some w) :
    Sound ⟨_, .get k, .ok w, m, m⟩
  | listed (q : ListQuery) (ws : List WireResource) (m : Held) : Sound ⟨_, .list q, .ok ws, m, m⟩
  | watched (q : WatchQuery) (sub : Subscription) (m : Held) :
    Sound ⟨_, .watch q, .ok sub, m, m⟩
  | created (now : WireTime) {r : WireResource} {m : Held} (h : m.get? (.of r.metadata) = none) :
    Sound ⟨_, .create r, .ok (Store.asCreated now r), m,
      (Commit.created (Store.asCreated now r)).edit m⟩
  | updated (now : WireTime) {old r : WireResource} {m : Held}
    (h : m.get? (.of r.metadata) = some old) :
    Sound ⟨_, .update r old.metadata.version, .ok (Store.asUpdated now old r), m,
      (Commit.updated old (Store.asUpdated now old r)).edit m⟩
  | destroyed {k : Key} {w : WireResource} {m : Held} (h : m.get? k = some w)
    (hf : w.metadata.finalizers = []) :
    Sound ⟨_, .destroy k, .ok (), m, (Commit.destroyed k w).edit m⟩

end Exchange

namespace Store

variable {α : Type} {s : Store} {now : WireTime}

/-- **A call that is answered is a sound exchange.** -/
theorem answer_sound (s : Store) (now : WireTime) (r : Request α) :
    Exchange.Sound ⟨α, r, (s.answer now r).1.mapError Error.remote, s.resources,
      (s.answer now r).2.resources⟩ := by
  unfold answer
  cases s.fault? r.verb r.address with
  | some status => exact .failed r _ _
  | none =>
    cases r with
    | get k =>
      simp only [perform, find]
      cases h : s.resources.get? k with
      | none => exact .failed _ _ _
      | some w => exact .got h
    | list q =>
      simp only [perform]
      cases s.list q with
      | error e => exact .failed _ _ _
      | ok ws => exact .listed q ws _
    | watch q =>
      simp only [perform]
      cases s.watch q with
      | error e => exact .failed _ _ _
      | ok sub => exact .watched q sub _
    | create r =>
      simp only [perform, create, OrderedMap.contains]
      by_cases h : (s.resources.get? (.of r.metadata)).isSome = true
      · simp only [h, if_true]
        exact .failed _ _ _
      · simp only [h]
        exact .created now (Option.not_isSome_iff_eq_none.1 h)
    | update r v =>
      simp only [perform, update, find]
      cases h : s.resources.get? (.of r.metadata) with
      | none => exact .failed _ _ _
      | some old =>
        by_cases hv : old.metadata.version = v
        · subst hv
          simp only [bne_self_eq_false, Bool.false_eq_true, if_false]
          exact .updated now h
        · simp only [bne_iff_ne, ne_eq, hv, not_false_eq_true, if_true]
          exact .failed _ _ _
    | destroy k =>
      simp only [perform, destroy, find]
      cases h : s.resources.get? k with
      | none => exact .failed _ _ _
      | some w =>
        by_cases hf : w.metadata.finalizers = []
        · simp only [hf, List.isEmpty_nil, if_true]
          exact .destroyed h hf
        · simp only [List.isEmpty_iff, hf, if_false]
          exact .failed _ _ _

end Store

namespace Session

variable {α : Type}

/-- Starting a call does not reach the service. -/
theorem startCall_store (s : Session) (i : Nat) (m : Member) (v : Verb) (token : Option Token) :
    (s.startCall i m v token).2.store = s.store := by
  have hstart := startCall_started s i m v token
  generalize s.startCall i m v token = y at hstart ⊢
  cases hstart with
  | cancelled | unsigned | overflow | started => rfl

theorem finishCall_sound (s : Session) (i : Nat) (m : Member) (r : Request α)
    (token : Option Token) (headers : Headers) :
    Exchange.Sound ⟨α, r, (s.finishCall i m r token headers).1, s.store.resources,
      (s.finishCall i m r token headers).2.store.resources⟩ := by
  obtain ⟨s₁, hlater, h⟩ := finishCall_cases s i m r token headers
  have hs : s₁.store.resources = s.store.resources := by
    rw [hlater.store]
    rfl
  rw [← hs]
  rcases h with h | ⟨x, rfl, h⟩ | h
  · rw [h]
    exact .failed r _ _
  · rw [h, countFailure_store]
    exact .failed r _ _
  · rw [h, countFailure_store]
    exact Store.answer_sound s₁.store s₁.reading r

/-- **A call that a client makes is a sound exchange.** -/
theorem invoke_sound (s : Session) (i : Nat) (r : Request α) :
    Exchange.Sound ⟨α, r, (s.invoke i r none id fun _ => none).1.map (·.1), s.store.resources,
      (s.invoke i r none id fun _ => none).2.store.resources⟩ := by
  have hcall := invoke_cases s i r none id fun _ => none
  generalize s.invoke i r none id (fun _ => none) = y at hcall ⊢
  cases hcall with
  | missing => exact .failed r _ _
  | refused =>
    rw [startCall_store]
    exact .failed r _ _
  | @served m c =>
    have h := finishCall_sound (s.startCall i m r.verb none).2 i m r none c.1
    rw [startCall_store] at h
    generalize (s.startCall i m r.verb none).2.finishCall i m r none c.1 = x at h ⊢
    obtain ⟨x, s'⟩ := x
    cases x with
    | error e => exact h
    | ok a => exact h
  | scripted _ _ _ hscript => cases hscript
  | unscripted =>
    rw [countFailure_store, startCall_store]
    exact .failed r _ _

/-- **Every step of a plan is a sound exchange**, or leaves what the service holds. -/
theorem step_sound (i : Nat) (p : Plan α) (s : Session) :
    (∃ e, (step i p s).2.2 = some e ∧ e.Sound ∧ e.before = s.store.resources ∧
      e.after = (step i p s).2.1.store.resources) ∨
    ((step i p s).2.2 = none ∧ (step i p s).2.1.store.resources = s.store.resources) := by
  cases p with
  | done r => exact .inr ⟨rfl, rfl⟩
  | note n p => exact .inr ⟨rfl, rfl⟩
  | call r rest => exact .inl ⟨_, rfl, invoke_sound s i r, rfl, rfl⟩
  | openList q t rest =>
    exact .inr ⟨rfl, (invoke_kept i s (r := .list q) t ListSource.page _ rfl).content.resources⟩
  | openWatch q t rest =>
    exact .inr ⟨rfl, (invoke_kept i s (r := .watch q) t WatchSource.live _ rfl).content.resources⟩
  | collect st rest => exact .inr ⟨rfl, congrArg Store.resources ((collect_later s st).store)⟩

end Session

end Fleet
