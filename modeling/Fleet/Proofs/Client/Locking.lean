import Fleet.Proofs.Client.Served
import Fleet.Proofs.Client.WriteBack

/-!
# Locking

Locking a machine reads it, sets one flag and writes it back; a flag that is already as it is asked
for is not written.

* `Resource.isLocked`, `Resource.withLock`: the flag of a machine, and the machine with the flag
  set.
* `run_setLocked`: a lock by what its get comes to.
* `Serving.run_setLocked`: **what locking returns is what is stored**, with one flag set.
* `lock_reports`: the same in every state of the service, with the get and the lock that follow.
* `unlock_differs`: a machine without a status is returned with one, though nothing is written.
-/

namespace Fleet

namespace Resource

/-- The status of a machine, or the standard one. -/
def lockStatus (r : Resource .machine) : MachineStatus :=
  Option.getD r.status Kind.machine.defaultStatus

/-- The machine is locked. -/
def isLocked (r : Resource .machine) : Bool := r.lockStatus.locked

/-- The machine with its lock set. -/
def withLock (r : Resource .machine) (locked : Bool) : Resource .machine :=
  { r with status := some { r.lockStatus with locked } }

/-- A machine without a status is not locked. -/
theorem isLocked_of_status_eq_none {r : Resource .machine} (h : r.status = none) :
    r.isLocked = false := by
  rw [isLocked, lockStatus, h]
  rfl

/-- A machine that has a status stays as it is. -/
theorem withLock_eq_self {r : Resource .machine} (h : r.status.isSome) :
    r.withLock r.isLocked = r := by
  obtain ⟨metadata, spec, status⟩ := r
  cases status with
  | none => cases h
  | some status => rfl

/-- **What is read of a resource that was read, changed and written back**: the changed one, in its
next version and updated now. -/
theorem ofWire_writtenBack {K : Kind} (hK : K.isDocument = true) {x : Scope} {w : WireResource}
    (htype : w.metadata.type = x.type) (hns : x.resolve (some w.metadata.ns) = w.metadata.ns)
    {r : Resource K} (hr : r.metadata = w.metadata.toMetadata) (now : Timestamp) :
    (ofWire K (Store.asUpdated now.toWire w (x.sent r true))).1 =
      { r with metadata := { r.metadata with
          version := nextVersion r.version
          updated := some now } } := by
  have hread := ofWire_encode hK (Store.asUpdated now.toWire w (x.sent r true)).metadata r.spec
    r.status
  have hnow : (some now.toWire).bind Timestamp.ofWire? = some now := now.ofWire?_toWire
  have hmetadata : (Store.asUpdated now.toWire w (x.sent r true)).metadata.toMetadata =
      { r.metadata with version := nextVersion r.version, updated := some now } := by
    obtain ⟨metadata, spec, status⟩ := r
    dsimp only at hr
    subst hr
    simp only [Store.asUpdated, Scope.sent, WireMetadata.ofMetadata, WireMetadata.toMetadata, hnow,
      Phase.ofWire_toWire]
    rw [hns, htype]
    rfl
  rw [hmetadata] at hread
  exact congrArg Prod.fst hread

end Resource

namespace Session

variable {i : Nat} {c : Client} {type id : String} {ns : Option String} {s s₁ : Session}
  {m : Resource .machine} {a : WriteAction} {locked : Bool}

/-- **A resource that was read and changed is written back** under the key that it was got from: it
still has the version that was read. -/
theorem Serving.run_writeBack {K : Kind} (h : Serving i c s) (hK : K.isDocument = true)
    (hname : c.registry.wireName K = .ok type) (hmode : c.config.mode = .readWrite)
    (hid : id.isEmpty = false) {w : WireResource}
    (hkey : Key.of w.metadata = ⟨c.resolve ns, type, id⟩)
    (hheld : s.store.resources.get? ⟨c.resolve ns, type, id⟩ = some w) {r : Resource K}
    (hr : r.metadata = w.metadata.toMetadata) :
    ∃ s' w', run i (c.update r none) s = (.ok (Resource.ofWire K w').1, s') ∧ Serving i c s' ∧
      s'.store.resources.get? ⟨c.resolve ns, type, id⟩ = some w' ∧
      ∃ now : Timestamp, (Resource.ofWire K w').1 = { r with metadata := { r.metadata with
        version := nextVersion r.version
        updated := some now } } := by
  obtain ⟨hns, htype, rfl⟩ : w.metadata.ns = c.resolve ns ∧ w.metadata.type = type ∧
    w.metadata.id = id := ⟨congrArg Key.ns hkey, congrArg Key.type hkey, congrArg Key.id hkey⟩
  have hresolve : c.resolve (some w.metadata.ns) = w.metadata.ns := by
    rw [hns, Client.resolve_resolve]
  have hreads : r.id = w.metadata.id ∧ c.resolve (some r.metadata.ns) = c.resolve ns ∧
      w.metadata.version = r.version := by
    rw [Resource.id, Resource.version, hr]
    exact ⟨rfl, hresolve.trans hns, rfl⟩
  obtain ⟨hrid, hrns, hversion⟩ := hreads
  rw [← hrid] at hid hheld ⊢
  rw [← hrns] at hheld ⊢
  obtain ⟨s', w', hw', hrun, hs'⟩ := h.run_update hname hmode hid hheld none hversion
  have hread := Resource.ofWire_writtenBack hK (x := c.scope type) htype hresolve hr
    (s.clock s.readings)
  rw [← hw'] at hread
  refine ⟨s', w', hrun, hs'.serving, ?_, _, hread⟩
  rw [hs'.store, Commit.applyTo_resources, hw']
  exact Commit.get?_edit_key (.updated _ _) _

/-- A lock by what its get comes to. -/
theorem run_setLocked (hname : c.registry.wireName .machine = .ok type)
    (hmode : c.config.mode = .readWrite) (hget : run i (c.get .machine id ns) s = (.ok m, s₁))
    (a : WriteAction) (locked : Bool) :
    run i (Facade.setLocked ⟨c⟩ a id ns locked) s =
      if m.isLocked = locked then (.ok (m.withLock locked), s₁)
      else run i (c.update (m.withLock locked) none) s₁ := by
  unfold Facade.setLocked
  rw [Client.guarded_readWrite hmode hname, Plan.bind_eq, run_bind, hget, andThen_ok]
  by_cases h : m.isLocked = locked
  · rw [if_pos h, ← h]
    exact congrFun (congrArg (run i) (if_pos (beq_self_eq_true m.isLocked))) s₁
  · rw [if_neg h]
    exact congrFun (congrArg (run i) (if_neg (mt eq_of_beq h))) s₁

/-- What locking a machine returns: the machine as it was read with the lock set, and in its next
version where the lock was another. -/
def Relocked (m : Resource .machine) (locked : Bool) (y : Resource .machine) : Prop :=
  if m.isLocked = locked then y = m.withLock locked
  else ∃ now : Timestamp, y = { m.withLock locked with
    metadata := { m.metadata with version := nextVersion m.version, updated := some now } }

/-- What is stored then is locked as it was asked for, and is returned by the same call again. -/
theorem Relocked.again {y : Resource .machine} (h : Relocked m locked y) :
    (if m.status = none ∧ locked = false then m else y).isLocked = locked ∧
      (if m.status = none ∧ locked = false then m else y).withLock locked = y := by
  unfold Relocked at h
  by_cases hnone : m.status = none ∧ locked = false
  · have hopen : m.isLocked = locked := by
      rw [Resource.isLocked_of_status_eq_none hnone.1, hnone.2]
    rw [if_pos hopen] at h
    rw [if_pos hnone]
    exact ⟨hopen, h.symm⟩
  · rw [if_neg hnone]
    by_cases hl : m.isLocked = locked
    · rw [if_pos hl] at h
      subst h
      exact ⟨rfl, rfl⟩
    · rw [if_neg hl] at h
      obtain ⟨now, rfl⟩ := h
      exact ⟨rfl, rfl⟩

/-- **What locking returns is what is stored**, with one flag set: for a client that is answered,
and whatever there is under the key. A machine without a status that is unlocked still has none in
the store. -/
theorem Serving.run_setLocked (h : Serving i c s) (hk : s.store.resources.Keyed)
    (hname : c.registry.wireName .machine = .ok type) (hmode : c.config.mode = .readWrite)
    (hid : id.isEmpty = false) {w : WireResource}
    (hheld : s.store.resources.get? ⟨c.resolve ns, type, id⟩ = some w)
    (hm : (Resource.ofWire .machine w).1 = m) (a : WriteAction) (locked : Bool) :
    ∃ y s' w', run i (Facade.setLocked ⟨c⟩ a id ns locked) s = (.ok y, s') ∧ Serving i c s' ∧
      Relocked m locked y ∧ (m.isLocked = locked → s'.store = s.store.count .get) ∧
      s'.store.resources.get? ⟨c.resolve ns, type, id⟩ = some w' ∧
      (Resource.ofWire .machine w').1 = if m.status = none ∧ locked = false then m else y := by
  obtain ⟨s₁, hget, hs₁⟩ := h.run_get hname hid ns
  have hsame : s₁.store.resources = s.store.resources := by rw [hs₁.store]; rfl
  have hfind : s.store.find ⟨c.resolve ns, type, id⟩ = .ok w := by rw [Store.find, hheld]
  rw [hfind] at hget
  have hget : run i (c.get .machine id ns) s = (.ok m, s₁) := by rw [← hm]; exact hget
  rw [Session.run_setLocked hname hmode hget]
  by_cases hl : m.isLocked = locked
  · -- nothing is written: what is returned is stored but for the status of one that has none
    rw [if_pos hl]
    refine ⟨_, s₁, w, rfl, hs₁.serving, ?_, fun _ => hs₁.store, hsame ▸ hheld, ?_⟩
    · exact (if_pos hl).mpr rfl
    · rw [hm]
      subst hl
      cases hstatus : m.status with
      | none => rw [if_pos ⟨rfl, Resource.isLocked_of_status_eq_none hstatus⟩]
      | some status =>
        have hself : m.withLock m.isLocked = m := Resource.withLock_eq_self (by rw [hstatus]; rfl)
        rw [hself, ite_self]
  · rw [if_neg hl]
    have hmetadata : (m.withLock locked).metadata = w.metadata.toMetadata := by
      rw [← hm]
      rfl
    obtain ⟨s', w', hrun, hserving, hheld', now, hread⟩ := hs₁.serving.run_writeBack
      (K := .machine) rfl hname hmode hid (hk _ _ hheld) (hsame ▸ hheld) hmetadata
    have hstatus : ¬(m.status = none ∧ locked = false) := by
      rintro ⟨hnone, rfl⟩
      exact hl (Resource.isLocked_of_status_eq_none hnone)
    refine ⟨_, s', w', hrun, hserving, ?_, fun he => absurd he hl, hheld', ?_⟩
    · exact (if_neg hl).mpr ⟨now, hread⟩
    · rw [if_neg hstatus]

/-- **Locking and unlocking report what is stored.** In every state of a service without faults in
which a get returns a machine, a client that may write locks or unlocks it; its signer signs every
call or none, and where the lock changes there is a next version. What it returns is that machine
with its lock set, over the standard status if it has none; if the lock was as it is asked for, only
a get is counted and nothing is written, otherwise the machine is one version on and updated now. A
get that follows returns the same, unless a machine without a status was unlocked: then nothing was
written, and it still has none. The same call again returns the same and does not write. -/
theorem lock_reports {limit : Nat} {as : List Act}
    (hs : s.store.resources = ((Store.empty limit).run as).resources) (hf : s.store.faults = [])
    {member : Member} (hi : s.members[i]? = some member) (hsigner : member.signer.Steady)
    (hmode : member.client.config.mode = .readWrite)
    (hget : run i (member.client.get .machine id ns) s = (.ok m, s₁)) (locked : Bool)
    (hversion : m.isLocked ≠ locked → ¬IsLastVersion m.version) :
    let p := FacadeOperation.plan member.client (if locked then .lock id ns else .unlock id ns)
    ∃ y s', run i p s = (.ok y, s') ∧
      (if m.isLocked = locked then y = m.withLock locked ∧ s'.store = s.store.count .get
        else versionNumber y.version = versionNumber m.version + 1 ∧
          ∃ now : Timestamp, y = { m.withLock locked with metadata := { m.metadata with
            version := nextVersion m.version
            updated := some now } }) ∧
      (run i (member.client.get .machine id ns) s').1 =
        .ok (if m.status = none ∧ locked = false then m else y) ∧
      (run i p s').1 = .ok y ∧ (run i p s').2.store = s'.store.count .get := by
  intro p
  have hk : s.store.resources.Keyed := hs ▸ Store.run_keyed (Store.empty_keyed limit) as
  obtain ⟨type, w, hname, hserving, hid, hheld, hm⟩ := run_get_ok hi hsigner hf hget
  obtain ⟨a, hp⟩ : ∃ a, p = Facade.setLocked ⟨member.client⟩ a id ns locked := by
    cases locked with
    | true => exact ⟨.lock, rfl⟩
    | false => exact ⟨.unlock, rfl⟩
  obtain ⟨y, s', w', hrun, hserving', hrelocked, hstore, hheld', hread⟩ :=
    hserving.run_setLocked hk hname hmode hid hheld hm a locked
  -- what is stored now is read by the get that follows and by the second lock alike
  obtain ⟨s₂, hget', hs₂⟩ := hserving'.run_get hname hid ns
  have hget' : run i (member.client.get .machine id ns) s' =
      (.ok (if m.status = none ∧ locked = false then m else y), s₂) := by
    rw [hget', Store.find, hheld', ← hread]
    rfl
  have hagain : run i p s' = (.ok y, s₂) := by
    obtain ⟨hlocked, hsame⟩ := hrelocked.again
    rw [hp, run_setLocked hname hmode hget', if_pos hlocked, hsame]
  refine ⟨y, s', hp ▸ hrun, ?_, ?_, ?_, ?_⟩
  · unfold Relocked at hrelocked
    by_cases hl : m.isLocked = locked
    · rw [if_pos hl] at hrelocked ⊢
      exact ⟨hrelocked, hstore hl⟩
    · rw [if_neg hl] at hrelocked ⊢
      obtain ⟨now, rfl⟩ := hrelocked
      have hnext : versionNumber (nextVersion m.version) = versionNumber m.version + 1 := by
        rw [versionNumber_nextVersion, Nat.mod_eq_of_lt (versionNumber_succ_lt (hversion hl))]
      exact ⟨hnext, now, rfl⟩
  · rw [hget']
  · rw [hagain]
  · rw [hagain]
    exact hs₂.store

/-- Get the machine that is held. -/
def look (s : Session) : Except Error (Resource .machine) × Session :=
  run 0 (writer.client.get .machine "m1" none) s

/-- Unlock that machine. -/
def unlock (s : Session) : Except Error (Resource .machine) × Session :=
  run 0 (FacadeOperation.plan writer.client (.unlock "m1" none)) s

/-- A machine without a status that is locked has one afterwards. -/
theorem lock_reports_machine :
    ∃ y s', relock (holding .absent .absent) = (.ok y, s') ∧ (look s').1 = .ok y ∧
      (relock s').2.store = s'.store.count .get := by
  obtain ⟨m, hm, hversion⟩ : ∃ m, (look (holding .absent .absent)).1 = .ok m ∧
      ¬IsLastVersion m.version := by
    refine ⟨_, rfl, ?_⟩
    unfold IsLastVersion
    decide
  obtain ⟨y, s', hrun, -, hlook, -, hagain⟩ := lock_reports (s := holding .absent .absent) (i := 0)
    rfl rfl rfl (.inl (Signer.headers_signs ∅)) rfl (Prod.ext hm rfl) true fun _ => hversion
  have hlock : ¬(m.status = none ∧ true = false) := fun h => Bool.noConfusion h.2
  rw [if_neg hlock] at hlook
  exact ⟨y, s', hrun, hlook, hagain⟩

/-- **Unlocking a machine can return what is not stored**: one without a status is returned with the
standard one, though nothing is written, and a get goes on to find none. -/
theorem unlock_differs :
    ∃ m y, (look (holding .absent .absent)).1 = .ok m ∧
      (unlock (holding .absent .absent)).1 = .ok y ∧
      (look (unlock (holding .absent .absent)).2).1 = .ok m ∧
      y.status = some Kind.machine.defaultStatus ∧ m.status = none :=
  ⟨_, _, rfl, rfl, rfl, rfl, rfl⟩

end Session

end Fleet
