import Fleet.Proofs.Client.Careful
import Fleet.Proofs.Client.Forwarding
import Fleet.Proofs.Schema.RoundTrip
import Fleet.Proofs.Service.Run
import Fleet.Proofs.Session.Exchange
import Fleet.Proofs.Session.Serving

/-!
# States that are written back

Locking a machine writes its desired state back as it was read, and applying a resource without a
status writes back the status that was read. What was read is not always what was stored: a desired
state that cannot be read is read as the standard one, a status that cannot be read as none.

* `Exchange.Tells`: what a successful call tells about what is stored before and after it.
* `run_get_cases`, `run_write_ok`: the runs of a get, and of a create or an update that succeeds.
* `states_written_back`: **what becomes of the states that an operation was not asked to change.**
* `unreadable_states_lost`: a state that cannot be read does not survive.
-/

namespace Fleet

namespace Decoded

variable {α : Type}

/-- With the standard value in place of one that was not read. -/
def orStandard (d : Decoded α) (standard : α) : Decoded α := .value (d.getD standard)

/-- With nothing in place of what could not be read. -/
def orAbsent : Decoded α → Decoded α
  | failed _ => absent
  | d => d

end Decoded

/-- The status of a machine as it is read to be locked. -/
def WireResource.machineStatus (w : WireResource) : MachineStatus :=
  (w.status.decode Kind.machine.status).getD Kind.machine.defaultStatus

namespace Exchange

/-- What a call tells about what is stored before and after it: one that fails leaves it, a get
returns what is there, and a create or an update stores the two states as they were sent. -/
def Tells : Exchange → Prop
  | ⟨_, _, .error _, m, m'⟩ => m' = m
  | ⟨_, .get k, .ok w, m, m'⟩ => m.get? k = some w ∧ m' = m
  | ⟨_, .create r, .ok w, m, m'⟩ => m.get? (.of r.metadata) = none ∧
    m'.get? (.of r.metadata) = some w ∧ w.spec = r.spec ∧ w.status = r.status
  | ⟨_, .update r _, .ok w, _, m'⟩ =>
    m'.get? (.of r.metadata) = some w ∧ w.spec = r.spec ∧ w.status = r.status
  | _ => True

theorem Sound.tells {e : Exchange} (h : e.Sound) : e.Tells := by
  cases h with
  | failed r e m => cases r <;> rfl
  | got h => exact ⟨h, rfl⟩
  | listed | watched | destroyed => trivial
  | created now h => exact ⟨h, Commit.get?_edit_key (.created _) _, rfl, rfl⟩
  | updated now h => exact ⟨Commit.get?_edit_key (.updated _ _) _, rfl, rfl⟩

end Exchange

namespace Session

variable {α β : Type} {c : Client} {K : Kind} {i : Nat} {s s' : Session}

/-- The run of a call and of what comes after it. -/
theorem run_request_bind (r : Request β) (f : β → Plan α) (s : Session) :
    ∃ x s₁, Exchange.Sound ⟨β, r, x, s.store.resources, s₁.store.resources⟩ ∧
      run i (Plan.request r >>= f) s = run i (Plan.after f x) s₁ := by
  refine ⟨_, _, invoke_sound s i r, ?_⟩
  rw [Plan.bind_eq, Plan.request, Plan.bind, run_call]
  cases (s.invoke i r none id fun _ => none).1.map (·.1) <;> rfl

/-- **The run of a get** changes nothing that is stored and ends with what is, if it does not
fail. -/
theorem run_get_cases (c : Client) (K : Kind) (id : String) (ns : Option String) (s : Session) :
    ∃ s', s'.store.resources = s.store.resources ∧
      ((∃ e, run i (c.get K id ns) s = (.error e, s')) ∨
        ∃ type w, c.registry.wireName K = .ok type ∧
          s.store.resources.get? ⟨c.resolve ns, type, id⟩ = some w ∧
          run i (c.get K id ns) s = (.ok (Resource.ofWire K w).1, s')) := by
  unfold Client.get
  split
  · exact ⟨s, rfl, .inl ⟨_, rfl⟩⟩
  · cases htype : c.registry.wireName K with
    | error e =>
      rw [Client.wireName_bind_error htype]
      exact ⟨s, rfl, .inl ⟨e, rfl⟩⟩
    | ok type =>
      rw [Client.wireName_bind_ok htype]
      obtain ⟨x, s₁, hsound, hrun⟩ := run_request_bind (i := i)
        (.get ⟨c.resolve ns, type, id⟩) (Client.decode K) s
      rw [hrun]
      cases x with
      | error e => exact ⟨s₁, hsound.tells, .inl ⟨e, rfl⟩⟩
      | ok w =>
        obtain ⟨hw, hsame⟩ := hsound.tells
        exact ⟨s₁.note i _, hsame, .inr ⟨type, w, rfl, hw, rfl⟩⟩

/-- The gate of a write that succeeds was open. -/
theorem run_gate_ok {operation : String} {f : String → Unit → Plan α} {a : α}
    (h : run i (c.wireName K >>= fun type => c.refuseWrite operation type >>= f type) s =
      (.ok a, s')) :
    ∃ type, c.registry.wireName K = .ok type ∧ c.config.mode = .readWrite ∧
      run i (f type ()) s = (.ok a, s') := by
  cases htype : c.registry.wireName K with
  | error e =>
    rw [Client.wireName_bind_error htype] at h
    cases h
  | ok type =>
    rw [Client.wireName_bind_ok htype] at h
    cases hc : c.config.mode with
    | readOnly =>
      rw [Client.refuseWrite_readOnly hc] at h
      cases h
    | readWrite =>
      rw [Client.refuseWrite_readWrite hc] at h
      exact ⟨type, rfl, rfl, h⟩

/-- **The run of a create or an update that succeeds** is one sound exchange for what was sent. -/
theorem run_write_ok {r r' : Resource K} {operation : String} {withStatus : Bool}
    {request : WireResource → Request WireResource}
    (h : run i (c.wireName K >>= fun type => c.refuseWrite operation type >>= fun _ =>
      Plan.ofExcept (c.prepare r type withStatus) >>= fun w =>
      Plan.request (request w) >>= Client.decode K) s = (.ok r', s')) :
    ∃ type w x, c.registry.wireName K = .ok type ∧ c.prepare r type withStatus = .ok w ∧
      Exchange.Sound ⟨_, request w, .ok x, s.store.resources, s'.store.resources⟩ := by
  obtain ⟨type, htype, -, h⟩ := run_gate_ok h
  cases hw : c.prepare r type withStatus with
  | error e =>
    rw [hw] at h
    cases h
  | ok w =>
    rw [hw] at h
    obtain ⟨x, s₁, hsound, hrun⟩ := run_request_bind (i := i) (request w) (Client.decode K) s
    obtain h := hrun.symm.trans h
    cases x with
    | error e => cases h
    | ok x =>
      cases h
      exact ⟨type, w, x, htype, hw, hsound⟩

/-- **The run of an update that succeeds** leaves the two states of the resource. -/
theorem run_update_ok {r r' : Resource K} {version : Option String}
    (h : run i (c.update r version) s = (.ok r', s')) :
    ∃ type w, c.registry.wireName K = .ok type ∧
      s'.store.resources.get? ⟨c.resolve (some r.metadata.ns), type, r.id⟩ = some w ∧
      w.spec = .encode K.spec r.spec ∧ w.status = r.toWire.status := by
  obtain ⟨type, w, x, htype, hw, hsound⟩ := run_write_ok h
  obtain ⟨hkey, hspec, hstatus⟩ := Client.prepare_eq_ok hw
  obtain ⟨hx, hxspec, hxstatus⟩ := hsound.tells
  exact ⟨type, x, htype, hkey ▸ hx, hxspec.trans hspec, hxstatus.trans hstatus⟩

/-- **The run of a create that succeeds** finds nothing under its key. -/
theorem run_create_ok {r r' : Resource K} (h : run i (c.create r) s = (.ok r', s')) :
    ∃ type, c.registry.wireName K = .ok type ∧
      s.store.resources.get? ⟨c.resolve (some r.metadata.ns), type, r.id⟩ = none := by
  obtain ⟨type, w, x, htype, hw, hsound⟩ := run_write_ok h
  exact ⟨type, htype, (Client.prepare_eq_ok hw).1 ▸ hsound.tells.1⟩

/-- A guarded plan that succeeds is the plan itself. -/
theorem run_guarded_ok {a : WriteAction} {p : Plan α} {x : α}
    (h : run i (Facade.guarded (⟨c⟩ : Facade K) a p) s = (.ok x, s')) :
    run i p s = (.ok x, s') := by
  cases hw : c.registry.wireName K with
  | error e =>
    rw [Client.guarded_unregistered hw] at h
    cases h
  | ok type =>
    cases hc : c.config.mode with
    | readOnly =>
      rw [Client.guarded_readOnly hc hw] at h
      cases h
    | readWrite =>
      rwa [Client.guarded_readWrite hc hw] at h

/-- **What locking a machine leaves of it**: what is stored, if the lock was as it is asked for;
otherwise the states that were read, with the lock set. -/
theorem run_setLocked_ok (hk : s.store.resources.Keyed) {a : WriteAction} {id : String}
    {ns : Option String} {locked : Bool} {m : Resource .machine}
    (h : run i (Facade.setLocked ⟨c⟩ a id ns locked) s = (.ok m, s')) :
    ∃ type w w', c.registry.wireName .machine = .ok type ∧
      s.store.resources.get? ⟨c.resolve ns, type, id⟩ = some w ∧
      s'.store.resources.get? ⟨c.resolve ns, type, id⟩ = some w' ∧
      if w.machineStatus.locked = locked then s'.store.resources = s.store.resources
      else w'.spec.decode Kind.machine.spec =
          (w.spec.decode Kind.machine.spec).orStandard Kind.machine.defaultSpec ∧
        w'.status.decode Kind.machine.status = .value { w.machineStatus with locked } := by
  have h := run_guarded_ok h
  rw [Plan.bind_eq, run_bind] at h
  obtain ⟨s₁, hsame, ⟨e, hget⟩ | ⟨type, w, htype, hw, hget⟩⟩ :=
    run_get_cases (i := i) c .machine id ns s
  · rw [hget] at h
    cases h
  · rw [hget] at h
    by_cases hl : w.machineStatus.locked = locked
    · change run i (if w.machineStatus.locked == locked then _ else _) s₁ = _ at h
      rw [if_pos (beq_iff_eq.2 hl)] at h
      cases h
      exact ⟨type, w, w, htype, hw, hsame ▸ hw, by rw [if_pos hl]; exact hsame⟩
    · change run i (if w.machineStatus.locked == locked then _ else _) s₁ = _ at h
      rw [if_neg (mt beq_iff_eq.1 hl)] at h
      obtain ⟨type', w', htype', hw', hspec, hstatus⟩ := run_update_ok h
      rw [htype] at htype'
      cases htype'
      -- the machine is put back under the key that it was got from
      have hkey : Key.of w.metadata = ⟨c.resolve ns, type, id⟩ := hk _ _ hw
      have hns : w.metadata.ns = c.resolve ns := congrArg Key.ns hkey
      have hid : w.metadata.id = id := congrArg Key.id hkey
      change s'.store.resources.get? ⟨c.resolve (some w.metadata.ns), type, w.metadata.id⟩ = _
        at hw'
      rw [hns, hid, Client.resolve_resolve] at hw'
      refine ⟨type, w, w', htype, hw, hw', ?_⟩
      rw [if_neg hl, hspec, hstatus]
      exact ⟨Payload.decode_encode rfl _, Payload.decode_encode rfl _⟩

/-- **What applying a resource without a status leaves of the status** of the one that is there. -/
theorem run_apply_ok (hK : ∀ v, (Payload.encode K.status v).decode K.status = .value v)
    {r r' : Resource K} (hr : r.status = none) {type : String} {w : WireResource}
    (htype : c.registry.wireName K = .ok type)
    (hw : s.store.resources.get? ⟨c.resolve (some r.metadata.ns), type, r.id⟩ = some w)
    (h : run i (c.apply r false) s = (.ok r', s')) :
    ∃ w', s'.store.resources.get? ⟨c.resolve (some r.metadata.ns), type, r.id⟩ = some w' ∧
      w'.status.decode K.status = (w.status.decode K.status).orAbsent := by
  obtain ⟨type₁, htype₁, -, h⟩ := run_gate_ok h
  rw [Plan.bind_eq, run_bind, run_attempt] at h
  obtain ⟨s₁, hsame, ⟨e, hget⟩ | ⟨type₂, w₂, htype₂, hw₂, hget⟩⟩ :=
    run_get_cases (i := i) c K r.id (some r.metadata.ns) s
  · -- only a creation could succeed now, but there is something already
    rw [hget] at h
    change run i (if !e.isNotFound then _ else c.create r) s₁ = _ at h
    split at h
    · cases h
    · obtain ⟨type₃, htype₃, hnone⟩ := run_create_ok h
      rw [htype] at htype₃
      cases htype₃
      rw [hsame, hw] at hnone
      cases hnone
  · rw [htype] at htype₂
    cases htype₂
    rw [hw] at hw₂
    cases hw₂
    rw [hget] at h
    obtain ⟨type₃, w', htype₃, hw', -, hstatus⟩ := run_update_ok h
    rw [htype] at htype₃
    cases htype₃
    refine ⟨w', hw', ?_⟩
    -- the resource has no status of its own, so it is sent with what was read of the other
    have hread : r.status.orElse (fun _ => (w.status.decode K.status).value?) =
        (w.status.decode K.status).value? := by rw [hr]; rfl
    rw [hstatus, Resource.toWire]
    dsimp only [Resource.ofWire]
    rw [hread]
    cases w.status.decode K.status with
    | value v => exact hK v
    | absent => rfl
    | failed forms => rfl

/-- **What becomes of the states that an operation was not asked to change**, whatever is stored and
in whichever form. Locking or unlocking a machine leaves everything if the lock is as it is asked
for, and otherwise puts the desired state back as it was read: one that could be read still reads
the same, and in place of one that is absent or cannot be read there is the standard one. Applying a
resource without a status keeps a status that could be read, and an absent one; one that cannot be
read is dropped. What is written of a status is taken to read as that status. -/
theorem states_written_back {limit : Nat} {as : List Act}
    (hs : s.store.resources = ((Store.empty limit).run as).resources) (i : Nat) (c : Client) :
    (∀ (locked : Bool) id ns m s',
      run i (FacadeOperation.plan c (if locked then .lock id ns else .unlock id ns)) s =
        (.ok m, s') →
      ∃ type w w', c.registry.wireName .machine = .ok type ∧
        s.store.resources.get? ⟨c.resolve ns, type, id⟩ = some w ∧
        s'.store.resources.get? ⟨c.resolve ns, type, id⟩ = some w' ∧
        if w.machineStatus.locked = locked then s'.store.resources = s.store.resources
        else w'.spec.decode Kind.machine.spec =
            (w.spec.decode Kind.machine.spec).orStandard Kind.machine.defaultSpec ∧
          w'.status.decode Kind.machine.status = .value { w.machineStatus with locked }) ∧
    ∀ (K : Kind) (r r' : Resource K) p type w s',
      (∀ v, (Payload.encode K.status v).decode K.status = .value v) → r.status = none →
      p = Operation.plan c (.apply r false) ∨ p = FacadeOperation.plan c (.apply r false) →
      c.registry.wireName K = .ok type →
      s.store.resources.get? ⟨c.resolve (some r.metadata.ns), type, r.id⟩ = some w →
      run i p s = (.ok r', s') →
      ∃ w', s'.store.resources.get? ⟨c.resolve (some r.metadata.ns), type, r.id⟩ = some w' ∧
        w'.status.decode K.status = (w.status.decode K.status).orAbsent := by
  have hk : s.store.resources.Keyed := hs ▸ Store.run_keyed (Store.empty_keyed limit) as
  constructor
  · intro locked id ns m s' hrun
    cases locked with
    | true => exact run_setLocked_ok hk hrun
    | false => exact run_setLocked_ok hk hrun
  · rintro K r r' p type w s' hK hr (rfl | rfl) htype hw hrun
    · exact run_apply_ok hK hr htype hw hrun
    · exact run_apply_ok hK hr htype hw (run_guarded_ok hrun)

/-- A service that holds a machine with these states. -/
def holding (spec status : Payload) : Session :=
  let m : WireResource := (Resource.named (K := .machine) "m1" Kind.machine.defaultSpec).toWire
  let metadata := { m.metadata with ns := "default", type := Kind.machine.wireType }
  { start 4 [writer] with store := (Store.empty 4).run [.insertRaw ⟨metadata, spec, status⟩] }

/-- What a service holds of that machine. -/
def held (s : Session) : Option WireResource :=
  s.store.resources.get? ⟨"default", Kind.machine.wireType, "m1"⟩

/-- Lock that machine, or apply it without a status. -/
def relock (s : Session) : Except Error (Resource .machine) × Session :=
  run 0 (FacadeOperation.plan writer.client (.lock "m1" none)) s

def reapply (s : Session) : Except Error (Resource .machine) × Session :=
  run 0 (Operation.plan writer.client
    (.apply (Resource.named (K := .machine) "m1" Kind.machine.defaultSpec) false)) s

/-- Bytes that hold no state of a machine. -/
def unreadable : Payload := .binary [255]

/-- The status of a machine that is locked, as it is written. -/
def locked : Payload := .encode Kind.machine.status ⟨"", .unassigned, true⟩

/-- A machine neither of whose states can be read has the standard ones when it has been locked, but
for the lock. A machine that is locked still is when it has been applied without a status. -/
theorem states_written_back_locked :
    (∃ m w', (relock (holding unreadable unreadable)).1 = .ok m ∧
      (relock (holding unreadable unreadable)).2.held = some w' ∧
      w'.spec.decode Kind.machine.spec = .value Kind.machine.defaultSpec ∧
      w'.status.decode Kind.machine.status = .value ⟨"", .unassigned, true⟩) ∧
    ∃ m w', (reapply (holding unreadable locked)).1 = .ok m ∧
      (reapply (holding unreadable locked)).2.held = some w' ∧
      w'.status.decode Kind.machine.status = .value ⟨"", .unassigned, true⟩ := by
  constructor
  · obtain ⟨m, hm⟩ : ∃ m, (relock (holding unreadable unreadable)).1 = .ok m := ⟨_, rfl⟩
    obtain ⟨type, w, w', htype, hw, hw', hif⟩ :=
      (states_written_back (s := holding unreadable unreadable) rfl 0 writer.client).1 true "m1"
        none m _ (Prod.ext hm rfl)
    cases htype
    cases hw
    exact ⟨m, w', hm, hw', hif⟩
  · obtain ⟨m, hm⟩ : ∃ m, (reapply (holding unreadable locked)).1 = .ok m := ⟨_, rfl⟩
    obtain ⟨w', hw', hstatus⟩ :=
      (states_written_back (s := holding unreadable locked) rfl 0 writer.client).2 .machine _ m _ _
        _ _ (Payload.decode_encode rfl) rfl (.inl rfl) rfl rfl (Prod.ext hm rfl)
    have hread := Payload.decode_encode (m := Kind.machine.status) rfl ⟨"", .unassigned, true⟩
    exact ⟨m, w', hm, hw', hstatus.trans (congrArg Decoded.orAbsent hread)⟩

/-- **A state that cannot be read does not survive.** Locking a machine puts the standard desired
state in place of one that cannot be read, and of one that is absent; applying it drops a status
that cannot be read. -/
theorem unreadable_states_lost :
    (∃ m w w', (relock (holding unreadable .absent)).1 = .ok m ∧
      (holding unreadable .absent).held = some w ∧
      (relock (holding unreadable .absent)).2.held = some w' ∧
      w.spec.decode Kind.machine.spec = .failed .binary ∧
      w'.spec.decode Kind.machine.spec = .value Kind.machine.defaultSpec) ∧
    (∃ m w w', (relock (holding .absent .absent)).1 = .ok m ∧
      (holding .absent .absent).held = some w ∧
      (relock (holding .absent .absent)).2.held = some w' ∧
      w.spec.decode Kind.machine.spec = .absent ∧
      w'.spec.decode Kind.machine.spec = .value Kind.machine.defaultSpec) ∧
    ∃ m w w', (reapply (holding .absent unreadable)).1 = .ok m ∧
      (holding .absent unreadable).held = some w ∧
      (reapply (holding .absent unreadable)).2.held = some w' ∧
      w.status.decode Kind.machine.status = .failed .binary ∧
      w'.status.decode Kind.machine.status = .absent := by
  refine ⟨⟨_, _, _, rfl, rfl, rfl, rfl, ?_⟩, ⟨_, _, _, rfl, rfl, rfl, rfl, ?_⟩,
    _, _, _, rfl, rfl, rfl, rfl, rfl⟩
  · exact Payload.decode_encode rfl Kind.machine.defaultSpec
  · exact Payload.decode_encode rfl Kind.machine.defaultSpec

end Session

end Fleet
