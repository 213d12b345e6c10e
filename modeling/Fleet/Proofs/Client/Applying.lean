import Fleet.Proofs.Client.Served
import Fleet.Proofs.Client.WriteBack

/-!
# Applying

An apply reads a resource and then creates or replaces it. A dry run ends after reading.

* `run_apply`: an apply by what its get comes to.
* `Client.applied`: what an apply stores, by what was stored before.
* `Serving.run_apply`: **an apply of a client that is answered succeeds** and stores that.
* `dry_run_predicts`: **a dry run ends as the apply itself would**, and changes nothing.
* `apply_again`: **a second apply changes nothing but its stamps**, and the phase of what the first
  one has created.
-/

namespace Fleet

/-- A resource without what every write changes of it: its version and the time of the last one. -/
def WireResource.unstamped (w : WireResource) : WireResource :=
  { w with metadata := { w.metadata with version := "", updated := none } }

/-- A resource in a phase. -/
def WireResource.inPhase (w : WireResource) (p : Phase) : WireResource :=
  { w with metadata := { w.metadata with phase := p.toWire } }

/-- What an apply stores at a time, by what is there: a new resource, or one that replaces the old
one and takes its status if it has none of its own. -/
def Client.applied {K : Kind} (c : Client) (type : String) (now : WireTime) (r : Resource K) :
    Option WireResource → WireResource
  | none => Store.asCreated now ((c.scope type).sent r false)
  | some old =>
    let status := r.status.orElse fun _ => (Resource.ofWire K old).1.status
    Store.asUpdated now old ((c.scope type).sent { r with status } true)

namespace Client

variable {K : Kind} {c : Client} {type : String} {r : Resource K} {now now' : WireTime}

/-- A resource without a status takes the one that it replaces. -/
theorem ofWire_applied_status (hK : K.isDocument = true) (hr : r.status = none)
    (old : Option WireResource) :
    (Resource.ofWire K (c.applied type now r old)).1.status =
      old.bind fun w => (Resource.ofWire K w).1.status := by
  have hread := Resource.ofWire_encode hK (c.applied type now r old).metadata r.spec
    (old.bind fun w => (Resource.ofWire K w).1.status)
  obtain ⟨metadata, spec, status⟩ := r
  cases hr
  cases old with
  | none => exact congrArg (·.1.status) hread
  | some w => exact congrArg (·.1.status) hread

/-- **What a second apply stores** in place of what the first one has stored: the same but for its
stamps, and but for the phase where the first one was a creation. -/
theorem applied_again (hK : K.isDocument = true) (hr : r.status = none)
    (old : Option WireResource) :
    (c.applied type now' r (some (c.applied type now r old))).unstamped =
      (if old.isSome then c.applied type now r old
        else (c.applied type now r old).inPhase r.metadata.phase).unstamped := by
  have hstatus : (Resource.ofWire K (c.applied type now r old)).1.status =
      old.bind fun w => (Resource.ofWire K w).1.status := ofWire_applied_status hK hr old
  rw [applied, hstatus]
  obtain ⟨metadata, spec, status⟩ := r
  cases hr
  cases old with
  | none => rfl
  | some w => rfl

/-- The phase is the same where a creation gives it anyway. -/
theorem applied_again_of_running (hK : K.isDocument = true) (hr : r.status = none)
    {old : Option WireResource} (h : r.metadata.phase = .running ∨ old.isSome) :
    (c.applied type now' r (some (c.applied type now r old))).unstamped =
      (c.applied type now r old).unstamped := by
  rw [applied_again hK hr]
  cases old with
  | some old => rfl
  | none =>
    rcases h with h | h
    · rw [h]
      rfl
    · cases h

end Client

namespace Session

variable {K : Kind} {i : Nat} {c : Client} {type : String} {s : Session} {m : Member}
  {r : Resource K}

/-- An apply is refused before anything is sent, dry or not, or its client knows the kind and may
write. -/
theorem run_apply_gate (i : Nat) (c : Client) (r : Resource K) (s : Session) :
    (∃ e s', (∀ dryRun, run i (c.apply r dryRun) s = (.error e, s')) ∧ Asked i [] [] s s') ∨
    ∃ type, c.registry.wireName K = .ok type ∧ c.config.mode = .readWrite := by
  cases hname : c.registry.wireName K with
  | error e =>
    refine .inl ⟨e, s, fun dryRun => ?_, .refl s⟩
    rw [Client.apply, Client.wireName_bind_error hname, run_fail]
  | ok type =>
    cases hmode : c.config.mode with
    | readOnly =>
      refine .inl ⟨.readOnly WriteAction.apply.operation type, s.note i .rejectedWrite,
        fun dryRun => ?_, .note _⟩
      rw [Client.apply, Client.wireName_bind_ok hname, Client.refuseWrite_readOnly hmode]
      rfl
    | readWrite => exact .inr ⟨type, rfl, rfl⟩

/-- An apply by what its get comes to. -/
theorem run_apply (hname : c.registry.wireName K = .ok type) (hmode : c.config.mode = .readWrite)
    (r : Resource K) (dryRun : Bool) (s : Session) :
    run i (c.apply r dryRun) s =
      match run i (c.get K r.id (some r.metadata.ns)) s with
      | (.ok old, s₁) =>
        if dryRun then (.ok r, s₁)
        else run i (c.update { r with status := r.status.orElse fun _ => old.status }
          (some old.version)) s₁
      | (.error e, s₁) =>
        if !e.isNotFound then (.error e, s₁)
        else if dryRun then (.ok r, s₁)
        else run i (c.create r) s₁ := by
  unfold Client.apply
  rw [Client.wireName_bind_ok hname, Client.refuseWrite_readWrite hmode]
  simp only [Plan.bind_eq, Plan.done_ok_bind]
  rw [run_bind, run_attempt, andThen_ok]
  generalize run i (c.get K r.id (some r.metadata.ns)) s = x
  obtain ⟨answer, s₁⟩ := x
  cases answer with
  | ok old =>
    dsimp only
    split <;> rfl
  | error e =>
    dsimp only
    split
    · rfl
    · split <;> rfl

/-- An apply of a client that is not answered, or of a resource without an id, ends with its get,
dry or not. -/
theorem run_apply_unserved (hm : s.members[i]? = some m) (hsigner : m.signer.Steady)
    (hf : s.store.faults = []) (hname : m.client.registry.wireName K = .ok type)
    (hmode : m.client.config.mode = .readWrite)
    (h : ¬(Serving i m.client s ∧ r.id.isEmpty = false)) :
    ∃ e s' signed heard, (∀ dryRun, run i (m.client.apply r dryRun) s = (.error e, s')) ∧
      Asked i signed heard s s' := by
  obtain ⟨signed, heard, hasked, -, -⟩ :=
    run_get_asked i m.client K r.id (some r.metadata.ns) s
  rcases run_get_outcome hm hsigner hf hname r.id (some r.metadata.ns) with
    ⟨-, e, s', hget, hfound⟩ | ⟨hserving, hid, -⟩
  · rw [hget] at hasked
    refine ⟨e, s', signed, heard, fun dryRun => ?_, hasked⟩
    rw [run_apply hname hmode, hget]
    dsimp only
    rw [hfound, Bool.not_false, if_pos rfl]
  · exact absurd ⟨hserving, hid⟩ h

/-- A commit leaves its result under its key, and everything else as it was. -/
theorem Answered.committed {commit : Commit} {store : Store} {s' : Session}
    (h : Answered i c s (commit.applyTo store) s') :
    s'.store.resources.get? commit.key = commit.result? ∧
      ∀ j, j ≠ commit.key → s'.store.resources.get? j = store.resources.get? j := by
  rw [h.store, Commit.applyTo_resources]
  exact ⟨commit.get?_edit_key _, fun j hj => commit.get?_edit_of_ne _ hj⟩

/-- **An apply of a client that is answered succeeds**: it stores what there is to be stored by what
is there, and leaves everything else. A dry run returns what it was given. -/
theorem Serving.run_apply (h : Serving i c s) (hname : c.registry.wireName K = .ok type)
    (hmode : c.config.mode = .readWrite) (hid : r.id.isEmpty = false) :
    (run i (c.apply r true) s).1 = .ok r ∧
    ∃ s' now w, run i (c.apply r false) s = (.ok (Resource.ofWire K w).1, s') ∧ Serving i c s' ∧
      w = c.applied type now r
        (s.store.resources.get? ⟨c.resolve (some r.metadata.ns), type, r.id⟩) ∧
      s'.store.resources.get? ⟨c.resolve (some r.metadata.ns), type, r.id⟩ = some w ∧
      ∀ j, j ≠ ⟨c.resolve (some r.metadata.ns), type, r.id⟩ →
        s'.store.resources.get? j = s.store.resources.get? j := by
  obtain ⟨s₁, hget, hs₁⟩ := h.run_get hname hid (some r.metadata.ns)
  have hsame : s₁.store.resources = s.store.resources := by rw [hs₁.store]; rfl
  rw [Session.run_apply hname hmode, Session.run_apply hname hmode, hget, ← hsame]
  unfold Store.find
  rw [← hsame]
  cases hheld : s₁.store.resources.get? ⟨c.resolve (some r.metadata.ns), type, r.id⟩ with
  | none =>
    obtain ⟨s', w, rfl, hrun, hs'⟩ := hs₁.serving.run_create hname hmode hid hheld
    exact ⟨rfl, s', _, _, hrun, hs'.serving, rfl, hs'.committed⟩
  | some old =>
    -- the version that was read is the one that is there
    obtain ⟨s', w, rfl, hrun, hs'⟩ := hs₁.serving.run_update
      (r := { r with status := r.status.orElse fun _ => (Resource.ofWire K old).1.status })
      hname hmode hid hheld (some old.metadata.version) rfl
    exact ⟨rfl, s', _, _, hrun, hs'.serving, rfl, hs'.committed⟩

/-! ### Dry runs -/

/-- A dry run asks for what is there at most once and changes nothing; what it returns is what it
was given. -/
theorem run_apply_asked (i : Nat) (c : Client) (r : Resource K) (s : Session) :
    (∃ signed heard, Asked i signed heard s (run i (c.apply r true) s).2 ∧
      signed <+: [.get] ∧ heard <+: signed) ∧
    ∀ a, (run i (c.apply r true) s).1 = .ok a → a = r := by
  rcases run_apply_gate i c r s with ⟨e, s', hrefused, hasked⟩ | ⟨type, hname, hmode⟩
  · rw [hrefused]
    exact ⟨⟨[], [], hasked, List.nil_prefix, List.prefix_rfl⟩, fun a ha => nomatch ha⟩
  · obtain ⟨signed, heard, hasked, hprefixes⟩ := run_get_asked i c K r.id (some r.metadata.ns) s
    rw [run_apply hname hmode]
    generalize run i (c.get K r.id (some r.metadata.ns)) s = x at hasked ⊢
    obtain ⟨answer, s₁⟩ := x
    have hgiven : ∀ a, (.ok r : Except Error (Resource K)) = .ok a → a = r :=
      fun a ha => (Except.ok.inj ha).symm
    cases answer with
    | ok old => exact ⟨⟨signed, heard, hasked, hprefixes⟩, hgiven⟩
    | error e =>
      dsimp only
      split
      · exact ⟨⟨signed, heard, hasked, hprefixes⟩, fun a ha => nomatch ha⟩
      · exact ⟨⟨signed, heard, hasked, hprefixes⟩, hgiven⟩

/-- **A dry run ends as the apply itself would.** Either both succeed, and the dry run returns what
it was given, or both fail in the same way. -/
theorem run_apply_dry (hm : s.members[i]? = some m) (hsigner : m.signer.Steady)
    (hf : s.store.faults = []) (r : Resource K) :
    ((run i (m.client.apply r true) s).1 = .ok r ∧
      ∃ a, (run i (m.client.apply r false) s).1 = .ok a) ∨
    ∃ e, ∀ dryRun, (run i (m.client.apply r dryRun) s).1 = .error e := by
  rcases run_apply_gate i m.client r s with ⟨e, s', hrefused, -⟩ | ⟨type, hname, hmode⟩
  · exact .inr ⟨e, fun dryRun => congrArg Prod.fst (hrefused dryRun)⟩
  · -- a get that is answered says whether to create or to update, and then that succeeds
    by_cases h : Serving i m.client s ∧ r.id.isEmpty = false
    · obtain ⟨hdry, s', now, w, hrun, -⟩ := h.1.run_apply hname hmode h.2
      rw [hrun]
      exact .inl ⟨hdry, _, rfl⟩
    · obtain ⟨e, s', signed, heard, hrun, -⟩ := run_apply_unserved hm hsigner hf hname hmode h
      exact .inr ⟨e, fun dryRun => congrArg Prod.fst (hrun dryRun)⟩

/-- **A dry run predicts and never writes.** Whatever a member's client may do and whatever the
service holds, as long as no faults are injected: a dry run signs at most one get and nothing else,
the service has counted at most that, and nothing else has changed. It returns what it was given or
fails. Where the client's signer signs every call or none, it succeeds exactly if the apply itself
would, and otherwise fails in the same way. -/
theorem dry_run_predicts (hm : s.members[i]? = some m) (hf : s.store.faults = [])
    (r : Resource K) :
    let dry := run i (m.client.apply r true) s
    let real := run i (m.client.apply r false) s
    (∃ signed heard, Asked i signed heard s dry.2 ∧ signed <+: [.get] ∧ heard <+: signed) ∧
    (dry.2.store = s.store ∨ dry.2.store = s.store.count .get) ∧
    (∀ a, dry.1 = .ok a → a = r) ∧
    (m.signer.Steady →
      ((∃ a, dry.1 = .ok a) ↔ ∃ a, real.1 = .ok a) ∧
      ∀ e, dry.1 = .error e ↔ real.1 = .error e) := by
  intro dry real
  obtain ⟨⟨signed, heard, hasked, hsigned, hheard⟩, hgiven⟩ := run_apply_asked i m.client r s
  have hstore : dry.2.store = s.store ∨ dry.2.store = s.store.count .get := by
    rw [hasked.store]
    rcases List.prefix_cons_iff.1 (hheard.trans hsigned) with rfl | ⟨rest, rfl, hrest⟩
    · exact .inl rfl
    · rw [List.prefix_nil.1 hrest]
      exact .inr rfl
  refine ⟨⟨signed, heard, hasked, hsigned, hheard⟩, hstore, hgiven, fun hsigner => ?_⟩
  rcases run_apply_dry hm hsigner hf r with ⟨hdry, a, hreal⟩ | ⟨e, hboth⟩
  · have hdry : dry.1 = .ok r := hdry
    have hreal : real.1 = .ok a := hreal
    rw [hdry, hreal]
    exact ⟨by simp, by simp⟩
  · have hdry : dry.1 = .error e := hboth true
    have hreal : real.1 = .error e := hboth false
    rw [hdry, hreal]
    exact ⟨by simp, fun _ => Iff.rfl⟩

/-- A dry run of a machine that is not there: where it could be created, where it could not, and
where no call is signed. -/
theorem dry_run_predicts_machine :
    let r : Resource .machine := .named "m1" Kind.machine.defaultSpec
    let unsigned : Member := { writer with signer := .failing "no key" }
    (∃ a, (run 0 (writer.client.apply r false) (start 4 [writer])).1 = .ok a) ∧
    (run 0 (reader.client.apply r false) (start 4 [reader])).1 =
      .error (.readOnly "Update" Kind.machine.wireType) ∧
    (run 0 (unsigned.client.apply r false) (start 4 [unsigned])).1 =
      .error (.internal "no key") := by
  intro r unsigned
  obtain ⟨-, -, -, hwriter⟩ := dry_run_predicts (s := start 4 [writer]) (i := 0) rfl rfl r
  obtain ⟨-, -, -, hreader⟩ := dry_run_predicts (s := start 4 [reader]) (i := 0) rfl rfl r
  obtain ⟨-, -, -, hunsigned⟩ := dry_run_predicts (s := start 4 [unsigned]) (i := 0) rfl rfl r
  obtain ⟨hok, -⟩ := hwriter (.inl (Signer.headers_signs ∅))
  obtain ⟨-, herror⟩ := hreader (.inl (Signer.headers_signs ∅))
  obtain ⟨-, hrefused⟩ := hunsigned (.inr (Signer.failing_refuses "no key"))
  exact ⟨hok.1 ⟨r, rfl⟩, (herror _).1 rfl, (hrefused _).1 rfl⟩

/-! ### Applying again -/

/-- **Applying a resource twice.** Whatever a service without faults holds, let a client that may
write, and whose signer signs every call or none, apply a resource of a built-in kind that has no
status. Applying it again changes nothing but the version and the time of the last change of that
resource, and its phase if it was not there at first: a new resource is running, whatever phase it
is given, and only the second apply stores that phase. -/
theorem apply_again (hm : s.members[i]? = some m) (hsigner : m.signer.Steady)
    (hf : s.store.faults = []) (hmode : m.client.config.mode = .readWrite)
    (hname : m.client.registry.wireName K = .ok type) (hK : K ∈ Registry.builtinKinds)
    (hr : r.status = none) :
    let k : Key := ⟨m.client.resolve (some r.metadata.ns), type, r.id⟩
    let once := run i (m.client.apply r false) s
    let twice := run i (m.client.apply r false) once.2
    (∀ j, j ≠ k → twice.2.store.resources.get? j = once.2.store.resources.get? j) ∧
    (twice.2.store.resources.get? k).map WireResource.unstamped =
      (once.2.store.resources.get? k).map (fun w =>
        (if (s.store.resources.get? k).isSome then w else w.inPhase r.metadata.phase).unstamped) ∧
    (r.metadata.phase = .running ∨ (s.store.resources.get? k).isSome →
      (twice.2.store.resources.get? k).map WireResource.unstamped =
        (once.2.store.resources.get? k).map WireResource.unstamped) ∧
    (Serving i m.client s ∧ r.id.isEmpty = false →
      (∃ a, once.1 = .ok a) ∧ ∃ a, twice.1 = .ok a) := by
  intro k once twice
  have hdocument : K.isDocument = true := isDocument_of_mem_builtinKinds hK
  by_cases h : Serving i m.client s ∧ r.id.isEmpty = false
  · obtain ⟨-, s₁, now, w, hrun, hserving, hw, hheld, -⟩ := h.1.run_apply hname hmode h.2
    obtain ⟨-, s₂, now', w', hrun', -, hw', hheld', hothers'⟩ :=
      hserving.run_apply hname hmode h.2
    have honce : once = (.ok (Resource.ofWire K w).1, s₁) := hrun
    have htwice : twice = (.ok (Resource.ofWire K w').1, s₂) := by
      show run i (m.client.apply r false) once.2 = _
      rw [honce]
      exact hrun'
    rw [hheld] at hw'
    rw [honce, htwice]
    refine ⟨hothers', ?_, fun hphase => ?_, fun _ => ⟨⟨_, rfl⟩, _, rfl⟩⟩
    · rw [hheld, hheld', Option.map_some, Option.map_some, hw', hw]
      exact congrArg some (Client.applied_again hdocument hr _)
    · rw [hheld, hheld', Option.map_some, Option.map_some, hw', hw]
      exact congrArg some (Client.applied_again_of_running hdocument hr hphase)
  · -- a client that was not answered is not answered the second time either
    obtain ⟨e, s₁, signed, heard, hrun, hasked⟩ := run_apply_unserved hm hsigner hf hname hmode h
    obtain ⟨m₁, hm₁, hclient, hsame, -⟩ := hasked.member m hm
    have h₁ : ¬(Serving i m₁.client s₁ ∧ r.id.isEmpty = false) := by
      rw [hclient]
      exact fun h₁ => h ⟨hasked.serving hm h₁.1, h₁.2⟩
    obtain ⟨e', s₂, signed', heard', hrun', hasked'⟩ := run_apply_unserved hm₁ (hsame ▸ hsigner)
      (hasked.faults.trans hf) (hclient ▸ hname) (hclient ▸ hmode) h₁
    rw [hclient] at hrun'
    have honce : once = (.error e, s₁) := hrun false
    have htwice : twice = (.error e', s₂) := by
      show run i (m.client.apply r false) once.2 = _
      rw [honce]
      exact hrun' false
    have hsame : s₁.store.resources = s.store.resources := hasked.content.resources
    have hsame' : s₂.store.resources = s₁.store.resources := hasked'.content.resources
    rw [honce, htwice]
    refine ⟨fun j _ => by rw [hsame'], ?_, fun _ => by rw [hsame'], fun hs => absurd hs h⟩
    rw [hsame', hsame]
    cases hheld : s.store.resources.get? k with
    | none => rfl
    | some w => rfl

/-- A machine that is being torn down. -/
def leaving : Resource .machine :=
  let r : Resource .machine := .named "m1" Kind.machine.defaultSpec
  { r with metadata := { r.metadata with phase := .tearingDown } }

/-- The service after that machine has been applied. -/
def applyLeaving (s : Session) : Session := (run 0 (writer.client.apply leaving false) s).2

/-- Applied a third time, it stays as it is. -/
theorem apply_again_settled :
    (held (applyLeaving (applyLeaving (applyLeaving (start 4 [writer]))))).map
        WireResource.unstamped =
      (held (applyLeaving (applyLeaving (start 4 [writer])))).map WireResource.unstamped := by
  obtain ⟨-, -, hsame, -⟩ := apply_again (s := applyLeaving (start 4 [writer])) (i := 0)
    (m := (applyLeaving (start 4 [writer])).members[0]) (r := leaving) rfl
    (.inl (Signer.headers_signs ∅)) rfl rfl rfl (.tail _ (.head _)) rfl
  exact hsame (.inr rfl)

/-- **Applying a resource twice can leave something else than applying it once**: the phase of a
machine that is being torn down is only stored by the second apply. -/
theorem apply_twice_differs :
    ∃ once twice, held (applyLeaving (start 4 [writer])) = some once ∧
      held (applyLeaving (applyLeaving (start 4 [writer]))) = some twice ∧
      once.metadata.phase = 0 ∧ twice.metadata.phase = 1 ∧ once.unstamped ≠ twice.unstamped := by
  refine ⟨_, _, rfl, rfl, rfl, rfl, fun hsame => ?_⟩
  have hphase := congrArg (·.metadata.phase) hsame
  cases hphase

end Session

end Fleet
