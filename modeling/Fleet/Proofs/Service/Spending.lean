import Fleet.Proofs.Service.Run
import Fleet.Proofs.Service.Version

/-!
# Versions that were spent

An update names the version that it replaces, and by succeeding spends it. Until something else than
an update puts another resource under the key, or takes it away, no version is spent twice.

* `Store.spent`: the versions of a key that the updates of a run have spent, in order.
* `Store.Undisturbed`: nothing but updates replaces the key.
* `spent_eq`: **the versions that are spent follow each other**, from the one that was there.
* `version_spent_once`: of two updates that name the same version at most one succeeds.
-/

namespace Fleet

/-- The version that a call expects its key to have. -/
def Request.expected? {α : Type} : Request α → Option String
  | .update _ version => some version
  | _ => none

/-- The version of a key that a call has spent: it is an update of the key and has succeeded. -/
def Served.spent? (k : Key) (x : Served) : Option String :=
  if x.changed? = some k then x.request.expected? else none

namespace Store

variable {s : Store} {k : Key} {w : WireResource} {a : Act} {as : List Act}

/-- The versions of a key that the updates of a run have spent, in order. -/
def spent (s : Store) (k : Key) (as : List Act) : List String :=
  (s.trace as).filterMap (Served.spent? k)

/-- What happens puts another resource under a key, or takes it away, other than by an update: a
creation or a destruction that succeeds, or a resource that is stored as it is. -/
def Replaces (s : Store) (k : Key) : Act → Prop
  | .call now r => r.verb ≠ .update ∧ Served.changed? ⟨s, now, r⟩ = some k
  | .insertRaw r => Key.of r.metadata = k
  | .injectFault _ | .clearFaults => False

/-- Nothing of a run replaces a key, but for updates. -/
def Undisturbed (k : Key) : Store → List Act → Prop
  | _, [] => True
  | s, a :: as => ¬s.Replaces k a ∧ Undisturbed k (s.act a) as

theorem spent_cons (s : Store) (k : Key) (a : Act) (as : List Act) :
    s.spent k (a :: as) = s.spent k [a] ++ (s.act a).spent k as := by
  simp only [spent, trace, List.filterMap_append, List.append_nil]

/-- **One step spends the version that is there**, and the next one takes its place, or it leaves
what is there. -/
theorem act_spent (h : ¬s.Replaces k a) :
    (s.spent k [a] = [] ∧ (s.act a).resources.get? k = s.resources.get? k) ∨
      ∃ w w', s.resources.get? k = some w ∧ s.spent k [a] = [w.metadata.version] ∧
        (s.act a).resources.get? k = some w' ∧
        w'.metadata.version = nextVersion w.metadata.version := by
  cases a with
  | injectFault f => exact .inl ⟨rfl, rfl⟩
  | clearFaults => exact .inl ⟨rfl, rfl⟩
  | insertRaw r =>
    have hk : k ≠ (Commit.created r).key := Ne.symm h
    exact .inl ⟨rfl, Commit.get?_edit_of_ne (.created r) s.resources hk⟩
  | call now r =>
    have hspent : s.spent k [.call now r] = (Served.spent? k ⟨s, now, r⟩).toList := by
      cases hs : Served.spent? k ⟨s, now, r⟩ <;> simp [spent, trace, served?, hs]
    rw [hspent]
    by_cases hk : Served.changed? ⟨s, now, r⟩ = some k
    · obtain ⟨c, hc, rfl⟩ := Served.commits_of_changed? hk
      have hverb : r.verb = .update := by
        by_contra hne
        exact h ⟨hne, hk⟩
      have hafter := hc.get?_after
      cases hc.makes with
      | created | destroyed => cases hverb
      | @updated r old hold =>
        refine .inr ⟨old, Store.asUpdated now old r, hold, ?_, hafter, rfl⟩
        rw [Served.spent?, if_pos hk]
        rfl
    · refine .inl ⟨?_, Served.get?_after hk⟩
      rw [Served.spent?, if_neg hk]
      rfl

/-- A key under which there is nothing spends nothing. -/
theorem spent_eq_nil (hw : s.resources.get? k = none) (h : Undisturbed k s as) :
    s.spent k as = [] := by
  induction as generalizing s with
  | nil => rfl
  | cons a as ih =>
    rw [spent_cons]
    rcases act_spent h.1 with ⟨hnone, hsame⟩ | ⟨w, -, hold, -⟩
    · rw [hnone, ih (hsame.trans hw) h.2]
      rfl
    · rw [hw] at hold
      cases hold

/-- **The versions that are spent follow each other**, from the one that was there. -/
theorem spent_eq (hw : s.resources.get? k = some w) (h : Undisturbed k s as) :
    s.spent k as = (List.range (s.spent k as).length).map (nextVersion^[·] w.metadata.version) := by
  induction as generalizing s w with
  | nil => rfl
  | cons a as ih =>
    rw [spent_cons]
    rcases act_spent h.1 with ⟨hnone, hsame⟩ | ⟨old, w', hold, hone, hafter, hnext⟩
    · rw [hnone, List.nil_append]
      exact ih (hsame.trans hw) h.2
    · cases hw.symm.trans hold
      -- what comes after starts from the next version
      have hrest := ih hafter h.2
      rw [hnext] at hrest
      rw [hone, List.singleton_append, List.length_cons, List.range_succ_eq_map, List.map_cons,
        List.map_map]
      exact congrArg (w.metadata.version :: ·) hrest

end Store

/-- **No version is spent twice.** Versions do not come back along a chain of updates, whatever text
the first one is, as long as none is the last number of sixty-four bits. So of two updates that name
the same version of a key at most one succeeds, in any state of a service and any run of calls,
faults and insertions, until a creation, a destruction or an insertion replaces the key. -/
theorem version_spent_once :
    (∀ version i j, i < j → (∀ m < j, ¬IsLastVersion (nextVersion^[m] version)) →
      nextVersion^[i] version ≠ nextVersion^[j] version) ∧
    ∀ s k as, Store.Undisturbed k s as →
      (∀ version ∈ s.spent k as, ¬IsLastVersion version) → (s.spent k as).Nodup := by
  refine ⟨fun _ _ _ hij h => nextVersion_iterate_ne_iterate hij h, fun s k as h hlast => ?_⟩
  cases hw : s.resources.get? k with
  | none =>
    rw [Store.spent_eq_nil hw h]
    exact List.nodup_nil
  | some w =>
    have hspent := Store.spent_eq hw h
    have hchain : ∀ m < (s.spent k as).length,
        ¬IsLastVersion (nextVersion^[m] w.metadata.version) := by
      intro m hm
      refine hlast _ ?_
      rw [hspent]
      exact List.mem_map_of_mem (List.mem_range.2 hm)
    rw [hspent]
    refine List.pairwise_map.2 (List.pairwise_lt_range.imp_of_mem fun {i j} _ hj hij => ?_)
    have hj := List.mem_range.1 hj
    exact nextVersion_iterate_ne_iterate hij fun m hm => hchain m (Nat.lt_trans hm hj)

/-- A machine that was stored with a signed version is updated from it once, and then from the next
one. -/
theorem version_spent_once_signed :
    let k : Key := ⟨"a", "Machines", "m1"⟩
    let r := Store.bare "a" "Machines" "m1"
    let s := (Store.empty 1).insertRaw { r with metadata := { r.metadata with version := "+07" } }
    let as : List Act := [.call ⟨6, 0⟩ (.update r "+07"), .call ⟨7, 0⟩ (.update r "+07"),
      .call ⟨8, 0⟩ (.update r "8")]
    (¬IsLastVersion "+07" ∧ nextVersion^[0] "+07" ≠ nextVersion^[1] "+07") ∧
      Store.Undisturbed k s as ∧ s.spent k as = ["+07", "8"] ∧ (s.spent k as).Nodup := by
  intro k r s as
  have hfirst : ¬IsLastVersion "+07" := by
    unfold IsLastVersion
    decide
  have hsecond : ¬IsLastVersion "8" := by
    unfold IsLastVersion
    decide
  have hspent : s.spent k as = ["+07", "8"] := by decide
  have hcalm : Store.Undisturbed k s as := by
    refine ⟨?_, ?_, ?_, trivial⟩ <;> exact fun h => h.1 rfl
  refine ⟨⟨hfirst, version_spent_once.1 _ 0 1 Nat.zero_lt_one fun m hm => ?_⟩, hcalm, hspent,
    version_spent_once.2 s k as hcalm ?_⟩
  · cases Nat.lt_one_iff.1 hm
    exact hfirst
  · rw [hspent]
    simp [hfirst, hsecond]

end Fleet
