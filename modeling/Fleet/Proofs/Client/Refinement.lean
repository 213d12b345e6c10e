import Fleet.Proofs.Client.Stored
import Fleet.Proofs.Session.Serving

/-!
# The client over the service is a typed store

* `Follows`: the run of a plan comes to what a typed store answers.
* `follows_get`, `follows_create`, `follows_update`, `follows_delete`, `follows_apply`: every
  operation does.
* `follows_command`: **one call of the client is one step of the typed store.**
* `refines_typedStore`: **any number of calls are a run of the typed store.**
-/

namespace Fleet

namespace Client

variable {K : Kind} {c : Client} {type : String}

/-- What a client brings along to every call on a kind that the service knows by a name. -/
def scope (c : Client) (type : String) : Scope := ⟨c.config.defaultNamespace, type⟩

/-- A client that may write resources of a kind, which the service knows by a name. -/
structure Writes (c : Client) (K : Kind) (type : String) : Prop where
  named : c.registry.wireName K = .ok type
  mode : c.config.mode = .readWrite
  document : K.isDocument = true

theorem Writes.refuseWrite (h : c.Writes K type) (operation : String) :
    c.refuseWrite operation type = .done (.ok ()) :=
  refuseWrite_readWrite h.mode operation type

theorem prepare_eq (r : Resource K) (withStatus : Bool) :
    c.prepare r type withStatus =
      if r.id.isEmpty then .error (emptyId K) else .ok ((c.scope type).sent r withStatus) := by
  unfold prepare Scope.sent Resource.toWire
  cases r.status <;> rfl

end Client

namespace Session

variable {K : Kind} {α : Type} {i : Nat} {c : Client} {type : String} {s : Session}
  {m : TypedStore K}

/-- The run of a plan comes to what a typed store answers, at the time that the clock of the service
read last. -/
structure Follows (i : Nat) (c : Client) (type : String)
    (spec : Timestamp → Except Error α × TypedStore K) (x : Except Error α × Session) : Prop where
  answer : x.1 = (spec x.2.lastReading).1
  represents : Represents type x.2.store.resources (spec x.2.lastReading).2
  serving : Serving i c x.2

variable (K) in
/-- A call whose answer is read. -/
theorem Serving.run_decoded (h : Serving i c s) (r : Request WireResource) : ∃ s',
    run i ((Plan.request r).bind (Client.decode K)) s =
      (((s.served r).1.mapError Error.remote).map (fun w => (Resource.ofWire K w).1), s') ∧
    Answered i c s (s.served r).2 s' := by
  obtain ⟨s₁, hrun, hs₁⟩ := h.run_request r
  rw [run_bind, hrun]
  cases (s.served r).1 with
  | error e => exact ⟨s₁, rfl, hs₁⟩
  | ok w =>
    -- the read answer is noted, even where nothing was lost
    exact ⟨_, rfl, hs₁.serving.modifyMember fun _ => ⟨rfl, rfl, rfl⟩, hs₁.store, hs₁.clock,
      hs₁.readings⟩

variable {spec : Timestamp → Except Error α × TypedStore K}

/-- A plan that ends where it starts. -/
theorem Follows.of_local (h : Serving i c s) (hm : Represents type s.store.resources m)
    {x : Except Error α} (hspec : ∀ now, spec now = (x, m)) : Follows i c type spec (x, s) where
  answer := by rw [hspec]
  represents := by rw [hspec]; exact hm
  serving := h

/-- A plan that ends with one call. -/
theorem Follows.of_answered {store : Store} {x : Except Error α} {s' : Session}
    (h : Answered i c s store s') (hx : x = (spec (s.clock s.readings)).1)
    (hm : Represents type store.resources (spec (s.clock s.readings)).2) :
    Follows i c type spec (x, s') where
  answer := by rw [h.lastReading]; exact hx
  represents := by rw [h.lastReading, h.store]; exact hm
  serving := h.serving

/-- **A get** reads the typed store. -/
theorem follows_get (h : Serving i c s) (hc : c.Writes K type)
    (hm : Represents type s.store.resources m) (id : String) (ns : Option String) :
    Follows i c type (fun _ => (TypedStore.get (c.scope type) m id ns, m))
      (run i (c.get K id ns) s) := by
  unfold Client.get
  cases hid : id.isEmpty with
  | true =>
    rw [if_pos rfl, run_fail]
    exact .of_local h hm fun now => by rw [TypedStore.get, hid]; rfl
  | false =>
    rw [if_neg Bool.false_ne_true]
    simp only [Client.wireName, hc.named, Plan.bind_eq, Plan.ofExcept_ok_bind]
    obtain ⟨s', hrun, hs'⟩ := h.run_decoded K (.get ⟨c.resolve ns, type, id⟩)
    have hget := Represents.perform_get (c.scope type) (s.clock s.readings)
      (s := s.store.count .get) hm hid ns
    rw [hrun]
    exact .of_answered hs' hget hm

/-- **A create** is one of the typed store. -/
theorem follows_create (h : Serving i c s) (hc : c.Writes K type)
    (hm : Represents type s.store.resources m) (r : Resource K) :
    Follows i c type (fun now => TypedStore.create (c.scope type) now m r)
      (run i (c.create r) s) := by
  unfold Client.create
  simp only [Client.wireName, hc.named, Plan.bind_eq, Plan.ofExcept_ok_bind, hc.refuseWrite,
    Plan.done_ok_bind, Client.prepare_eq]
  cases hid : r.id.isEmpty with
  | true =>
    rw [if_pos rfl, Plan.ofExcept_error_bind, run_fail]
    exact .of_local h hm fun now => by rw [TypedStore.create, hid]; rfl
  | false =>
    rw [if_neg Bool.false_ne_true, Plan.ofExcept_ok_bind]
    obtain ⟨s', hrun, hs'⟩ := h.run_decoded K (.create ((c.scope type).sent r false))
    obtain ⟨hanswer, hheld⟩ := Represents.perform_create (c.scope type) (s.clock s.readings)
      (s := s.store.count .create) hc.document hm hid
    rw [hrun]
    exact .of_answered hs' hanswer hheld

/-- **An update** is one of the typed store. -/
theorem follows_update (h : Serving i c s) (hc : c.Writes K type)
    (hm : Represents type s.store.resources m) (r : Resource K) (version : Option String) :
    Follows i c type (fun now => TypedStore.update (c.scope type) now m r version)
      (run i (c.update r version) s) := by
  unfold Client.update
  simp only [Client.wireName, hc.named, Plan.bind_eq, Plan.ofExcept_ok_bind, hc.refuseWrite,
    Plan.done_ok_bind, Client.prepare_eq]
  cases hid : r.id.isEmpty with
  | true =>
    rw [if_pos rfl, Plan.ofExcept_error_bind, run_fail]
    exact .of_local h hm fun now => by rw [TypedStore.update, hid]; rfl
  | false =>
    rw [if_neg Bool.false_ne_true, Plan.ofExcept_ok_bind]
    obtain ⟨s', hrun, hs'⟩ :=
      h.run_decoded K (.update ((c.scope type).sent r true) (version.getD r.version))
    obtain ⟨hanswer, hheld⟩ := Represents.perform_update (c.scope type) (s.clock s.readings)
      (s := s.store.count .update) hc.document hm hid version
    rw [hrun]
    exact .of_answered hs' hanswer hheld

/-- **A delete** is one of the typed store. -/
theorem follows_delete (h : Serving i c s) (hc : c.Writes K type)
    (hm : Represents type s.store.resources m) (id : String) (ns : Option String) :
    Follows i c type (fun _ => TypedStore.delete (c.scope type) m id ns)
      (run i (c.delete K id ns) s) := by
  unfold Client.delete
  simp only [Client.wireName, hc.named, Plan.bind_eq, Plan.ofExcept_ok_bind, hc.refuseWrite,
    Plan.done_ok_bind]
  cases hid : id.isEmpty with
  | true =>
    rw [if_pos rfl, run_fail]
    exact .of_local h hm fun now => by rw [TypedStore.delete, hid]; rfl
  | false =>
    rw [if_neg Bool.false_ne_true]
    obtain ⟨s', hrun, hs'⟩ := h.run_request (.destroy ⟨c.resolve ns, type, id⟩)
    obtain ⟨hanswer, hheld⟩ := Represents.perform_destroy (c.scope type) (s.clock s.readings)
      (s := s.store.count .destroy) hm hid ns
    rw [hrun]
    exact .of_answered hs' hanswer hheld

/-- **An apply** is one of the typed store: what was read is what is replaced. -/
theorem follows_apply (h : Serving i c s) (hc : c.Writes K type)
    (hm : Represents type s.store.resources m) (r : Resource K) (dryRun : Bool) :
    Follows i c type (fun now => TypedStore.apply (c.scope type) now m r dryRun)
      (run i (c.apply r dryRun) s) := by
  unfold Client.apply TypedStore.apply
  simp only [Client.wireName, hc.named, Plan.bind_eq, Plan.ofExcept_ok_bind, hc.refuseWrite,
    Plan.done_ok_bind]
  have hget := follows_get h hc hm r.id (some r.metadata.ns)
  rw [run_bind, run_attempt, andThen_ok]
  generalize run i (c.get K r.id (some r.metadata.ns)) s = read at hget ⊢
  obtain ⟨answer, s₁⟩ := read
  obtain ⟨hanswer, hheld, hserving⟩ := hget
  dsimp only at hanswer hheld hserving ⊢
  unfold TypedStore.get at hanswer
  cases hid : r.id.isEmpty with
  | true =>
    -- the refusal of an empty id is not that of a missing resource, so nothing is created
    rw [hid, if_pos rfl] at hanswer
    rw [hanswer]
    exact ⟨rfl, hheld, hserving⟩
  | false =>
    rw [hid, if_neg Bool.false_ne_true] at hanswer
    simp only [Bool.false_eq_true, if_false]
    cases hr : m ((c.scope type).resolve (some r.metadata.ns)) r.id with
    | none =>
      rw [hr] at hanswer
      rw [hanswer]
      cases dryRun with
      | true => exact ⟨rfl, hheld, hserving⟩
      | false => exact follows_create hserving hc hheld r
    | some old =>
      rw [hr] at hanswer
      rw [hanswer]
      cases dryRun with
      | true => exact ⟨rfl, hheld, hserving⟩
      | false => exact follows_update hserving hc hheld _ (some old.version)

/-- A plan whose answer is handed on in another form. -/
theorem Follows.map {β : Type} {p : Plan α} (h : Follows i c type spec (run i p s)) (f : α → β) :
    Follows i c type (fun now => ((spec now).1.map f, (spec now).2)) (run i (f <$> p) s) := by
  have hmap : run i (f <$> p) s = ((run i p s).1.map f, (run i p s).2) := by
    rw [show f <$> p = p.bind fun a => .done (.ok (f a)) from rfl, run_bind]
    obtain ⟨answer, s'⟩ := run i p s
    cases answer <;> rfl
  rw [hmap]
  exact ⟨congrArg (Except.map f) h.answer, h.represents, h.serving⟩

/-- **One call of the client is one step of the typed store**, at the time that the clock of the
service read last. -/
theorem follows_command (h : Serving i c s) (hc : c.Writes K type)
    (hm : Represents type s.store.resources m) (a : Command K) :
    Follows i c type (fun now => TypedStore.step (c.scope type) now m a)
      (run i (a.plan c) s) := by
  cases a with
  | get id ns => exact (follows_get h hc hm id ns).map some
  | create r => exact (follows_create h hc hm r).map some
  | update r version => exact (follows_update h hc hm r version).map some
  | delete id ns => exact (follows_delete h hc hm id ns).map fun _ => none
  | apply r dryRun => exact (follows_apply h hc hm r dryRun).map some

/-- The answers to the calls of a client, each with the time that the clock of the service read
last, and the session after them. -/
def askAll (i : Nat) (c : Client) : List (Command K) → Session →
    List (Except Error (Option (Resource K)) × Timestamp) × Session
  | [], s => ([], s)
  | a :: as, s =>
    let (x, s) := run i (a.plan c) s
    let (xs, s') := askAll i c as s
    ((x, s.lastReading) :: xs, s')

/-- Any number of calls are a run of the typed store that the service holds. -/
theorem askAll_represents (h : Serving i c s) (hc : c.Writes K type)
    (hm : Represents type s.store.resources m) (as : List (Command K)) :
    (askAll i c as s).1.map (·.1) =
        (TypedStore.run (c.scope type) m (as.zip ((askAll i c as s).1.map (·.2)))).1 ∧
      Represents type (askAll i c as s).2.store.resources
        (TypedStore.run (c.scope type) m (as.zip ((askAll i c as s).1.map (·.2)))).2 := by
  -- the session goes on to serve the client and to hold the typed store after the first step
  induction as generalizing s m with
  | nil => exact ⟨rfl, hm⟩
  | cons a as ih =>
    obtain ⟨hanswer, hheld, hserving⟩ := follows_command h hc hm a
    obtain ⟨hanswers, hfinal⟩ := ih hserving hheld
    refine ⟨?_, hfinal⟩
    show (run i (a.plan c) s).1 :: _ = _ :: _
    rw [hanswer, hanswers]
    rfl

/-- **The client over the service is a typed store.** Whatever a client that may write asks of one
of the built-in kinds, from a service that holds nothing and that answers it: it is answered what a
typed store answers that holds nothing at first, and what the service holds is that typed store. -/
theorem refines_typedStore (hK : K ∈ Registry.builtinKinds)
    (hname : c.registry.wireName K = .ok type) (hmode : c.config.mode = .readWrite)
    (h : Serving i c s) (hempty : s.store.resources = ∅) (as : List (Command K)) :
    (askAll i c as s).1.map (·.1) =
        (TypedStore.run (c.scope type) .empty (as.zip ((askAll i c as s).1.map (·.2)))).1 ∧
      Represents type (askAll i c as s).2.store.resources
        (TypedStore.run (c.scope type) .empty
          (as.zip ((askAll i c as s).1.map (·.2)))).2 := by
  have hm : Represents type s.store.resources (TypedStore.empty : TypedStore K) := by
    rw [hempty]
    exact .empty
  exact askAll_represents h ⟨hname, hmode, isDocument_of_mem_builtinKinds hK⟩ hm as

/-- A machine is created, is not updated from a version that it does not have, and is applied. -/
def revisions : List (Command .machine) :=
  let r : Resource .machine := .named "m1" Kind.machine.defaultSpec
  [.create r, .update r (some "2"), .apply r false]

/-- The versions that come of it. -/
theorem refines_typedStore_revisions :
    ((askAll 0 writer.client revisions (start 4 [writer])).1.map (·.1)).map
        (Except.map (Option.map Resource.version)) =
      [.ok (some "1"),
        .error (.remote (outdated ⟨"default", Kind.machine.wireType, "m1"⟩ "2" "1")),
        .ok (some "2")] := by
  rw [(refines_typedStore (K := .machine) (.tail _ (.head _)) rfl rfl (serving_start 4) rfl
    revisions).1]
  rfl

end Session

end Fleet
