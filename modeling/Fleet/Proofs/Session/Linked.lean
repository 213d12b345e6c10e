import Fleet.Proofs.Service.Version
import Fleet.Proofs.Session.Exchange

/-!
# The life of a key

Calls each of which finds what the one before it left tell what became of every key.

* `Sound.life`: what one call does to a key that is there.
* `Linked.version`: **between two destructions, the version of a key counts its updates.**
* `Linked.unchanged`: **a version that is still there names what it named before**, as long as it
  could not come back.
-/

namespace Fleet

namespace Exchange

variable {e : Exchange} {k : Key} {w : WireResource}

/-- A call leaves every key but the one it changes. -/
theorem Sound.get?_after (h : e.Sound) (hk : e.changed? ≠ some k) :
    e.after.get? k = e.before.get? k := by
  cases h with
  | failed | got | listed | watched => rfl
  | created now h => exact Commit.get?_edit_of_ne _ _ fun he => hk (he ▸ rfl)
  | updated now h => exact Commit.get?_edit_of_ne _ _ fun he => hk (he ▸ rfl)
  | destroyed h hf => exact Commit.get?_edit_of_ne _ _ fun he => hk (he ▸ rfl)

/-- What a call returned is what is there after it. -/
theorem Sound.get?_returned (h : e.Sound) (hr : e.returned? = some (k, w)) :
    e.after.get? k = some w := by
  cases h with
  | got h => cases hr; exact h
  | created now h => cases hr; exact Commit.get?_edit_key (.created _) _
  | updated now h => cases hr; exact Commit.get?_edit_key (.updated _ _) _
  | failed r => cases r <;> cases hr
  | listed | watched | destroyed => cases hr

/-- An update replaces a resource of the version that was given. -/
theorem Sound.get?_replaced {v : String} (h : e.Sound) (hr : e.replaced? = some (k, v)) :
    ∃ old, e.before.get? k = some old ∧ old.metadata.version = v := by
  cases h with
  | updated now h => cases hr; exact ⟨_, h, rfl⟩
  | failed r => cases r <;> cases hr
  | got | created | listed | watched | destroyed => cases hr

/-- A call leaves every resource under its own key. -/
theorem Sound.keyed (h : e.Sound) (hm : e.before.Keyed) : e.after.Keyed := by
  cases h with
  | failed | got | listed | watched => exact hm
  | created | updated | destroyed => exact Commit.edit_keyed _ hm

/-- **What one call does to a key that is there**, unless it destroys it. -/
theorem Sound.life (h : e.Sound) (hw : e.before.get? k = some w) (hd : e.destroys k = false) :
    (e.updates k = false ∧ e.changed? ≠ some k ∧ e.after.get? k = some w) ∨
      (e.updates k = true ∧ ∃ w', e.after.get? k = some w' ∧
        w'.metadata.version = nextVersion w.metadata.version) := by
  by_cases hk : e.changed? = some k
  · cases h with
    | created now h => cases hk; rw [h] at hw; cases hw
    | updated now h =>
      cases hk
      rw [h] at hw
      cases hw
      refine .inr ⟨by simp [updates, replaced?], _, Commit.get?_edit_key (.updated _ _) _, rfl⟩
    | destroyed h hf => cases hk; simp [destroys] at hd
    | failed r => cases r <;> cases hk
    | got | listed | watched => cases hk
  · refine .inl ⟨?_, hk, by rw [h.get?_after hk, hw]⟩
    cases h with
    | updated now h =>
      have hne : Key.of _ ≠ k := fun he => hk (congrArg some he)
      simp [updates, replaced?, hne]
    | failed r => cases r <;> rfl
    | got | listed | watched | created | destroyed => rfl

end Exchange

/-- Calls each of which finds what the one before it left. -/
def Linked : Held → List Call → Held → Prop
  | m, [], m' => m = m'
  | m, e :: es, m' => e.Sound ∧ e.before = m ∧ Linked e.after es m'

/-- How often a key was updated. -/
def updateCount (k : Key) (es : List Call) : Nat := es.countP fun e => e.updates k

theorem updateCount_cons (k : Key) (e : Call) (es : List Call) :
    updateCount k (e :: es) = updateCount k es + if e.updates k then 1 else 0 :=
  List.countP_cons

namespace Linked

variable {m m' m'' : Held} {es fs : List Call} {k : Key} {w : WireResource}

theorem append_iff : Linked m (es ++ fs) m'' ↔ ∃ m', Linked m es m' ∧ Linked m' fs m'' := by
  induction es generalizing m with
  | nil => exact ⟨fun h => ⟨m, rfl, h⟩, by rintro ⟨m', rfl, h⟩; exact h⟩
  | cons e es ih =>
    constructor
    · rintro ⟨he, hm, h⟩
      obtain ⟨m', h₁, h₂⟩ := ih.1 h
      exact ⟨m', ⟨he, hm, h₁⟩, h₂⟩
    · rintro ⟨m', ⟨he, hm, h₁⟩, h₂⟩
      exact ⟨he, hm, ih.2 ⟨m', h₁, h₂⟩⟩

/-- **Between two destructions, the version of a key counts its updates**, and a key that was not
updated was not changed. -/
theorem version (h : Linked m es m') (hw : m.get? k = some w)
    (hd : ∀ e ∈ es, e.destroys k = false) :
    ∃ w', m'.get? k = some w' ∧
      w'.metadata.version = nextVersion^[updateCount k es] w.metadata.version ∧
      (updateCount k es = 0 → w' = w ∧ ∀ e ∈ es, e.changed? ≠ some k) := by
  induction es generalizing m w with
  | nil =>
    cases h
    exact ⟨w, hw, by simp [updateCount], fun _ => ⟨rfl, fun e he => absurd he List.not_mem_nil⟩⟩
  | cons e es ih =>
    obtain ⟨he, rfl, h⟩ := h
    have hds : ∀ e ∈ es, e.destroys k = false := fun e he => hd e (List.mem_cons_of_mem _ he)
    rcases he.life hw (hd e List.mem_cons_self) with ⟨hu, hc, ha⟩ | ⟨hu, w₁, ha, hv⟩
    · obtain ⟨w', hw', hv', h0⟩ := ih h ha hds
      rw [updateCount_cons, hu]
      refine ⟨w', hw', hv', fun hz => ⟨(h0 hz).1, ?_⟩⟩
      intro f hf
      rcases List.mem_cons.1 hf with rfl | hf
      · exact hc
      · exact (h0 hz).2 f hf
    · obtain ⟨w', hw', hv', -⟩ := ih h ha hds
      rw [updateCount_cons, hu]
      refine ⟨w', hw', ?_, fun hz => absurd hz (Nat.succ_ne_zero _)⟩
      rw [if_pos rfl, Function.iterate_succ_apply, ← hv]
      exact hv'

/-- **A version that is still there names what it named before**, unless the key was destroyed or
every version has been there meanwhile. -/
theorem unchanged (h : Linked m es m') (hw : m.get? k = some w) {old : WireResource}
    (hold : m'.get? k = some old) (hv : old.metadata.version = w.metadata.version) :
    (old = w ∧ ∀ e ∈ es, e.changed? ≠ some k) ∨ (∃ e ∈ es, e.destroys k = true) ∨
      Text.wordLimit ≤ updateCount k es := by
  by_cases hd : ∃ e ∈ es, e.destroys k = true
  · exact .inr (.inl hd)
  · have hds : ∀ e ∈ es, e.destroys k = false := by
      intro e he
      cases hb : e.destroys k with
      | false => rfl
      | true => exact absurd ⟨e, he, hb⟩ hd
    obtain ⟨w', hw', hv', h0⟩ := h.version hw hds
    rw [hw'] at hold
    cases hold
    by_cases hz : updateCount k es = 0
    · exact .inl (h0 hz)
    · refine .inr (.inr (Nat.not_lt.1 fun hlt => ?_))
      exact nextVersion_iterate_ne _ (Nat.pos_of_ne_zero hz) hlt (hv'.symm.trans hv)

end Linked

end Fleet
