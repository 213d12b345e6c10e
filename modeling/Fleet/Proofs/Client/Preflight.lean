import Fleet.Proofs.Client.Forwarding
import Fleet.Proofs.Service.Run
import Fleet.Proofs.Session.LostUpdate

/-!
# Checks before calls

Every check that a client makes on its own comes before the first call of an operation. Applying,
locking and deleting many make further calls behind further checks; those pass, since they look at
what has been looked at before.

* `Plan.Ends`: how a plan ends, whatever its calls are answered, and whether it made one.
* `Operation.plan_early`, `FacadeOperation.plan_early`: **an operation that has made a call does not
  end in an error of the client's own.**
* `run_ends`: a run ends as its plan does, and without a call it leaves the session untouched.
* `local_error_untouched`: **an error of the client's own comes before anything else.**
-/

namespace Fleet

namespace Plan

variable {α β : Type}

/-- Whatever the calls of a plan are answered, `post` holds of its end and of whether a call was
made by then; `called` says whether one was made before. No answer is an error of the client's own,
and a resource that was got is the one that was asked for. -/
def Ends (post : Bool → Except Error α → Prop) : Plan α → Bool → Prop
  | done r, called => post called r
  | note _ p, called => p.Ends post called
  | call r rest, _ => ∀ x, r.Fits x → NotLocal x → (rest x).Ends post true
  | openList _ _ rest, _ => ∀ x, NotLocal x → (rest x).Ends post true
  | openWatch _ _ rest, _ => ∀ x, NotLocal x → (rest x).Ends post true
  | collect _ rest, called =>
    ∀ x, (∀ e, x.2 = .failed e → e.isLocal = false) → (rest x).Ends post called

/-- After a call there is no error of the client's own. -/
def Early (called : Bool) (r : Except Error α) : Prop := called = true → NotLocal r

theorem Early.ok (called : Bool) (a : α) : Early called (.ok a) := fun _ => .ok a

theorem Early.before (r : Except Error α) : Early false r := nofun

variable {post post' : Bool → Except Error α → Prop} {called : Bool} {p : Plan α}

theorem Ends.mono (h : p.Ends post called) (hpost : ∀ called r, post called r → post' called r) :
    p.Ends post' called := by
  induction p generalizing called with
  | done r => exact hpost _ _ h
  | note n p ih => exact ih h
  | call r rest ih => exact fun x hf hx => ih x (h x hf hx)
  | openList q t rest ih => exact fun x hx => ih x (h x hx)
  | openWatch q t rest ih => exact fun x hx => ih x (h x hx)
  | collect st rest ih => exact fun x hx => ih x (h x hx)

theorem Ends.of_forall (hpost : ∀ called r, post called r) : p.Ends post called := by
  induction p generalizing called with
  | done r => exact hpost _ _
  | note n p ih => exact ih
  | call r rest ih => exact fun x _ _ => ih x
  | openList q t rest ih => exact fun x _ => ih x
  | openWatch q t rest ih => exact fun x _ => ih x
  | collect st rest ih => exact fun x _ => ih x

theorem Ends.bind {f : α → Plan β} {post : Bool → Except Error β → Prop}
    (h : p.Ends (fun called r => (after f r).Ends post called) called) :
    (p >>= f).Ends post called := by
  show (p.bind f).Ends post called
  induction p generalizing called with
  | done r => cases r <;> exact h
  | note n p ih => exact ih h
  | call r rest ih => exact fun x hf hx => ih x (h x hf hx)
  | openList q t rest ih => exact fun x hx => ih x (h x hx)
  | openWatch q t rest ih => exact fun x hx => ih x (h x hx)
  | collect st rest ih => exact fun x hx => ih x (h x hx)

theorem Ends.attempt {post : Bool → Except Error (Except Error α) → Prop}
    (h : p.Ends (fun called r => post called (.ok r)) called) : p.attempt.Ends post called := by
  induction p generalizing called with
  | done r => exact h
  | note n p ih => exact ih h
  | call r rest ih => exact fun x hf hx => ih x (h x hf hx)
  | openList q t rest ih => exact fun x hx => ih x (h x hx)
  | openWatch q t rest ih => exact fun x hx => ih x (h x hx)
  | collect st rest ih => exact fun x hx => ih x (h x hx)

/-- A plan that starts with a check. -/
theorem Ends.ofExcept {r : Except Error β} {f : β → Plan α}
    (he : ∀ e, r = .error e → post called (.error e))
    (hf : ∀ b, r = .ok b → (f b).Ends post called) :
    (Plan.ofExcept r >>= f).Ends post called := by
  cases r with
  | ok b => exact hf b rfl
  | error e => exact he e rfl

/-- What follows a plan makes its own checks early if it makes them early after a call too. -/
theorem Ends.seq {f : α → Plan β} (h : p.Ends Early called)
    (hf : ∀ a called, (f a).Ends Early called) : (p >>= f).Ends Early called := by
  refine .bind (h.mono fun called r hr => ?_)
  cases r with
  | ok a => exact hf a called
  | error e => exact fun hc => .error (hr hc e rfl)

theorem Refused.ends (h : p.Refused) : p.Ends Early false := by
  cases h with
  | early h => exact Early.before _
  | gate operation type => exact Early.before _

end Plan

namespace Client

open Plan (Ends Early after)

variable {c : Client} {K : Kind} {α : Type} {called : Bool}

/-- The checks before a call about a resource of this id pass. -/
structure Accepts (c : Client) (K : Kind) (id : String) : Prop where
  registered : ∃ type, c.registry.wireName K = .ok type
  named : id.isEmpty = false

/-- A check that a kind is registered passes if it has passed before. -/
theorem wireName_ends {id : String} {f : String → Plan α} {post : Bool → Except Error α → Prop}
    (h : called = true → c.Accepts K id) (he : ∀ e, Early called (.error e : Except Error α) →
      post called (.error e))
    (hf : ∀ type, c.registry.wireName K = .ok type → (f type).Ends post called) :
    (c.wireName K >>= f).Ends post called := by
  refine .ofExcept (fun e hw => he e fun hc => ?_) hf
  obtain ⟨type, htype⟩ := (h hc).registered
  rw [htype] at hw
  cases hw

/-- Getting a resource that could be asked for ends with the resource of that id. -/
theorem get_ends {id : String} {ns : Option String} {post : Bool → Except Error (Resource K) → Prop}
    (h : called = true → c.Accepts K id)
    (he : ∀ called e, Early called (.error e : Except Error (Resource K)) →
      (called = true → c.Accepts K id) → post called (.error e))
    (hw : ∀ w, c.Accepts K id → w.metadata.id = id → post true (.ok (Resource.ofWire K w).1)) :
    (c.get K id ns).Ends post called := by
  unfold get
  split
  · -- the id is empty, which after a call has been ruled out
    rename_i hid
    refine he _ _ (fun hc => ?_) h
    rw [(h hc).named] at hid
    cases hid
  · rename_i hid
    refine wireName_ends h (fun e hl => he _ e hl h) fun type htype => .bind fun x hf hx => ?_
    have ha : c.Accepts K id := ⟨⟨type, htype⟩, Bool.not_eq_true _ ▸ hid⟩
    cases x with
    | ok w => exact hw w ha (congrArg Key.id hf)
    | error e => exact he true e (fun _ => .error (hx e rfl)) fun _ => ha

theorem get_early (id : String) (ns : Option String) : (c.get K id ns).Ends Early false :=
  get_ends nofun (fun _ _ he _ => he) fun _ _ _ => .ok _ _

theorem list_early (o : ListOptions) : (c.list K o).Ends Early false := by
  refine .ofExcept (fun e _ => .before _) fun type _ => ?_
  refine .ofExcept (fun e _ => .before _) fun _ _ => .bind fun x hx => ?_
  cases x with
  | ok a => exact .ok _ _
  | error e => exact fun _ => .error (hx e rfl)

theorem watch_early (o : WatchOptions) : (c.watch K o).Ends Early false := by
  refine .ofExcept (fun e _ => .before _) fun type _ => ?_
  refine .ofExcept (fun e _ => .before _) fun _ _ => ?_
  split
  · exact Early.before _
  · refine .bind fun x hx => ?_
    cases x with
    | ok a => exact .ok _ _
    | error e => exact fun _ => .error (hx e rfl)

theorem decodeAll_ends (ws : List WireResource) : (decodeAll K ws).Ends Early called := by
  induction ws generalizing called with
  | nil => exact .ok _ _
  | cons w ws ih => exact ih.seq fun rs called => .ok _ _

theorem conclude_ends {g : Guard} {e : Ending} (he : ∀ e', e = .failed e' → e'.isLocal = false)
    (a : α) : (conclude g e a).Ends Early called := by
  cases e with
  | finished => exact .ok _ a
  | failed e => exact fun _ => .error (he e rfl)
  | cancelled => exact fun _ => .error rfl
  | expired => exact fun _ => .error rfl

theorem listAll_early (o : ListOptions) : (c.listAll K o).Ends Early false :=
  (list_early o).seq fun _ _ => .bind fun _ hx =>
    (decodeAll_ends _).seq fun rs _ => conclude_ends hx rs

/-- **Creating or replacing a resource** that could be asked for. -/
theorem write_ends {r : Resource K} {operation : String} {withStatus : Bool}
    {request : WireResource → Request WireResource} (hc : c.config.mode = .readWrite)
    (h : called = true → c.Accepts K r.id) :
    (c.wireName K >>= fun type => c.refuseWrite operation type >>= fun _ =>
      Plan.ofExcept (c.prepare r type withStatus) >>= fun w =>
      Plan.request (request w) >>= decode K).Ends Early called := by
  refine wireName_ends h (fun e he => he) fun type _ => ?_
  rw [refuseWrite_readWrite hc]
  show Ends Early (Plan.ofExcept (c.prepare r type withStatus) >>= _) called
  refine .ofExcept (fun e hp hcalled => ?_) fun w _ => .bind fun x _ hx => ?_
  · rw [prepare, (h hcalled).named] at hp
    cases hp
  · cases x with
    | ok w => exact .ok _ _
    | error e => exact fun _ => .error (hx e rfl)

theorem delete_early (hc : c.config.mode = .readWrite) (id : String) (ns : Option String) :
    (c.delete K id ns).Ends Early false := by
  refine .ofExcept (fun e _ => .before _) fun type _ => ?_
  rw [refuseWrite_readWrite hc]
  show Ends Early (if _ then _ else _) false
  split
  · exact Early.before _
  · exact fun x _ hx _ => hx

/-- **Applying a resource** makes every check before the first call: what it replaces or creates has
the id that was asked for. -/
theorem apply_ends {r : Resource K} {dryRun : Bool} (hc : c.config.mode = .readWrite)
    (h : called = true → c.Accepts K r.id) : (c.apply r dryRun).Ends Early called := by
  refine wireName_ends h (fun e he => he) fun type _ => ?_
  rw [refuseWrite_readWrite hc]
  show Ends Early ((c.get K r.id (some r.metadata.ns)).attempt >>= _) called
  refine .bind (.attempt (get_ends h (fun called e he ha => ?_) fun w ha _ => ?_))
  · show Ends Early (if !e.isNotFound then _ else _) called
    split
    · exact fun hc => .error (he hc e rfl)
    · -- there is nothing of the id; if a call has said so, the checks of the id have passed
      split
      · exact .ok _ _
      · exact write_ends hc ha
  · show Ends Early (if dryRun then _ else _) true
    split
    · exact .ok _ _
    · exact write_ends hc fun _ => ha

theorem applyEach_ends {dryRun : Bool} {rs : List (Resource K)} (hc : c.config.mode = .readWrite)
    (h : ∀ r ∈ rs, c.Accepts K r.id) : (c.applyEach K dryRun rs).Ends Early called := by
  induction rs generalizing called with
  | nil => exact .ok _ _
  | cons r rs ih =>
    refine (apply_ends hc fun _ => h r List.mem_cons_self).seq fun applied _ => ?_
    exact (ih fun r hr => h r (List.mem_cons_of_mem _ hr)).seq fun others _ => .ok _ _

/-- Results one after the other succeed where each of them does. -/
theorem exists_of_bind_eq_ok {β γ : Type} {r : Except Error β} {f : β → Except Error γ} {y : γ}
    (h : (r >>= f) = .ok y) : ∃ x, r = .ok x ∧ f x = .ok y := by
  cases r with
  | ok x => exact ⟨x, rfl, h⟩
  | error e => cases h

/-- The resource of a document has an id. -/
theorem named_of_ofContent {source name : String} {d : Option (Metadata × K.Spec)} {r : Resource K}
    (h : Document.ofContent K source name d = .ok r) : r.id.isEmpty = false := by
  unfold Document.ofContent Document.resource at h
  cases d with
  | none => cases h
  | some d =>
    dsimp only at h
    split at h
    · cases h
    · split at h
      · cases h
      · rename_i hid
        cases h
        exact Bool.not_eq_true _ ▸ hid

theorem named_of_ofDocuments {source name : String} {n : Nat} {ds : List (Option Yaml.Document)}
    {rs : List (Resource K)} (h : Document.ofDocuments K source name n ds = .ok rs) :
    ∀ r ∈ rs, r.id.isEmpty = false := by
  induction ds generalizing n rs with
  | nil => cases h; exact fun r hr => absurd hr List.not_mem_nil
  | cons d ds ih =>
    obtain ⟨r, hr, h⟩ := exists_of_bind_eq_ok h
    obtain ⟨rs', hrs, h⟩ := exists_of_bind_eq_ok h
    cases h
    exact List.forall_mem_cons.2 ⟨named_of_ofContent hr, ih hrs⟩

theorem named_of_ofYamlStream {source name text : String} {rs : List (Resource K)}
    (h : Document.ofYamlStream K source name text = .ok rs) : ∀ r ∈ rs, r.id.isEmpty = false := by
  obtain ⟨rs', hrs, h⟩ := exists_of_bind_eq_ok h
  split at h
  · cases h
  · cases h
    exact named_of_ofDocuments hrs

theorem applyYaml_early (hc : c.config.mode = .readWrite) (text : String) (dryRun : Bool) :
    (c.applyYaml K text dryRun).Ends Early false :=
  .ofExcept (fun _ _ => .before _) fun _ _ =>
    .ofExcept (fun _ _ => .before _) fun _ _ => apply_ends hc nofun

theorem applyYamlDocuments_early (hc : c.config.mode = .readWrite) (text : String)
    (dryRun : Bool) : (c.applyYamlDocuments K text dryRun).Ends Early false :=
  .ofExcept (fun _ _ => .before _) fun type htype =>
    .ofExcept (fun _ _ => .before _) fun _ hrs => applyEach_ends hc fun r hr =>
      ⟨⟨type, htype⟩, named_of_ofYamlStream hrs r hr⟩

theorem applyFile_early (hc : c.config.mode = .readWrite) (name : String)
    (content : Except FileFault String) (dryRun : Bool) :
    (c.applyFile K name content dryRun).Ends Early false :=
  .ofExcept (fun _ _ => .before _) fun _ _ => .ofExcept (fun _ _ => .before _) fun _ _ =>
    .ofExcept (fun _ _ => .before _) fun _ _ => apply_ends hc nofun

/-- Deleting one after the other never fails as a whole. -/
theorem deleteEach_ends (report : DeleteReport) (rs : List (Resource K)) :
    (c.deleteEach K report rs).Ends Early called := by
  induction rs generalizing report called with
  | nil => exact .ok _ _
  | cons r rs ih =>
    -- whatever one deletion ends in, local or not, goes into the report
    refine .bind (.attempt (.of_forall fun called x => ?_))
    cases x with
    | ok _ => exact ih _
    | error e => exact ih _

theorem deleteManyDetailed_early (hc : c.config.mode = .readWrite) (selector : String)
    (ns : Option String) : (c.deleteManyDetailed K selector ns).Ends Early false := by
  refine .ofExcept (fun _ _ => .before _) fun type _ => ?_
  rw [refuseWrite_readWrite hc]
  exact (listAll_early _).seq fun rs _ => deleteEach_ends _ rs

theorem deleteMany_early (hc : c.config.mode = .readWrite) (selector : String)
    (ns : Option String) : (c.deleteMany K selector ns).Ends Early false :=
  (deleteManyDetailed_early hc selector ns).seq fun _ _ => .ok _ _

/-- A guard makes its own checks first. -/
theorem guarded_early {a : WriteAction} {p : Plan α} (hp : p.Ends Early false) :
    (Facade.guarded (⟨c⟩ : Facade K) a p).Ends Early false := by
  cases hw : c.registry.wireName K with
  | error e => rw [guarded_unregistered hw]; exact Early.before _
  | ok type =>
    cases hc : c.config.mode with
    | readOnly => rw [guarded_readOnly hc hw]; exact Early.before _
    | readWrite => rw [guarded_readWrite hc hw]; exact hp

/-- **Locking a machine** makes every check before the first call: the machine that was got has the
id that was asked for. -/
theorem setLocked_early (a : WriteAction) (id : String) (ns : Option String) (locked : Bool) :
    (Facade.setLocked ⟨c⟩ a id ns locked).Ends Early false := by
  cases hc : c.config.mode with
  | readOnly => exact (FacadeOperation.guarded_refused hc _ _).ends
  | readWrite =>
    refine guarded_early (.bind (get_ends nofun (fun _ _ he _ => he) fun w ha hid => ?_))
    show Ends Early (if _ then _ else _) true
    split
    · exact .ok _ _
    · -- the machine is put back under its own id, not the one that was asked for
      refine write_ends hc fun _ => ?_
      show c.Accepts .machine w.metadata.id
      rwa [hid]

end Client

/-- **An operation of a client makes its checks early**, in either mode. -/
theorem Operation.plan_early {c : Client} {K : Kind} {α : Type} (op : Operation K α) :
    (op.plan c).Ends Plan.Early false := by
  cases hw : op.isWrite with
  | false =>
    cases op with
    | get id ns => exact Client.get_early id ns
    | list o => exact Client.list_early o
    | listAll o => exact Client.listAll_early o
    | watch o => exact Client.watch_early o
    | create | update | delete | apply | applyYaml | applyYamlDocuments | applyFile
    | deleteManyDetailed | deleteMany | deleteAll => cases hw
  | true =>
    cases hc : c.config.mode with
    | readOnly => exact (plan_refused hc hw).ends
    | readWrite =>
      -- the gate is open now, so what is left to check is the kind, the id and the filters
      cases op with
      | get | list | listAll | watch => cases hw
      | create r => exact Client.write_ends hc nofun
      | update r version => exact Client.write_ends hc nofun
      | delete id ns => exact Client.delete_early hc id ns
      | apply r dryRun => exact Client.apply_ends hc nofun
      | applyYaml text dryRun => exact Client.applyYaml_early hc text dryRun
      | applyYamlDocuments text dryRun => exact Client.applyYamlDocuments_early hc text dryRun
      | applyFile name content dryRun => exact Client.applyFile_early hc name content dryRun
      | deleteManyDetailed selector ns => exact Client.deleteManyDetailed_early hc selector ns
      | deleteMany selector ns => exact Client.deleteMany_early hc selector ns
      | deleteAll ns => exact Client.deleteMany_early hc "" ns

/-- **An operation of a facade makes its checks early**, in either mode. -/
theorem FacadeOperation.plan_early {c : Client} {K : Kind} {α : Type} (op : FacadeOperation K α) :
    (op.plan c).Ends Plan.Early false := by
  cases hg : op.forward? with
  | some g =>
    rw [plan_eq hg]
    cases g.action? with
    | none => exact g.plan_early
    | some a => exact Client.guarded_early g.plan_early
  | none =>
    cases op with
    | lock id ns => exact Client.setLocked_early .lock id ns true
    | unlock id ns => exact Client.setLocked_early .unlock id ns false
    | get | list | listAll | watch | create | update | delete | apply | applyYaml | applyFile
    | deleteMany | deleteAll => cases hg

namespace Session

variable {α : Type} {i : Nat} {s s' s'' : Session}

/-- No call was made: the service is as it was, it has received nothing, and of no member was
anything signed or any call counted. -/
structure Untouched (s s' : Session) : Prop where
  store : s'.store = s.store
  received : s'.received = s.received
  member : ∀ (j : Nat) (m : Member), s.members[j]? = some m → ∃ m' : Member,
    s'.members[j]? = some m' ∧ m'.signed = m.signed ∧ m'.metrics.verbs = m.metrics.verbs

theorem Untouched.refl (s : Session) : Untouched s s := ⟨rfl, rfl, fun _ m hm => ⟨m, hm, rfl, rfl⟩⟩

theorem Untouched.trans (h : Untouched s s') (h' : Untouched s' s'') : Untouched s s'' where
  store := h'.store.trans h.store
  received := h'.received.trans h.received
  member j m hm := by
    obtain ⟨m', hm', hs, hv⟩ := h.member j m hm
    obtain ⟨m'', hm'', hs', hv'⟩ := h'.member j m' hm'
    exact ⟨m'', hm'', hs'.trans hs, hv'.trans hv⟩

theorem Later.untouched (h : Later s s') : Untouched s s' := by
  obtain ⟨_, _, _, rfl⟩ := h
  exact ⟨rfl, rfl, fun _ m hm => ⟨m, hm, rfl, rfl⟩⟩

theorem note_untouched (i : Nat) (n : Notice) : Untouched s (s.note i n) := by
  refine ⟨rfl, rfl, fun j m hm => ?_⟩
  by_cases h : i = j
  · subst h
    refine ⟨_, getElem?_modifyMember _ hm, rfl, ?_⟩
    cases n <;> rfl
  · exact ⟨m, (getElem?_modifyMember_of_ne _ h).trans hm, rfl, rfl⟩

/-- **A run ends as its plan does**, and if it made no call then the session is untouched. -/
theorem run_ends {p : Plan α} {post : Bool → Except Error α → Prop} {called : Bool}
    (hp : p.Ends post called) (hk : s.store.resources.Keyed)
    (hsigner : SignerIs i Signer.Foreign s) :
    ∃ made, post (called || made) (run i p s).1 ∧ (made = false → Untouched s (run i p s).2) := by
  -- after the first call nothing is left to show of the session but that its keys stay right and
  -- that the signer is still the one that it was
  induction p generalizing s called with
  | done r => exact ⟨false, by rwa [Bool.or_false], fun _ => .refl s⟩
  | note n p ih =>
    obtain ⟨made, hpost, hu⟩ := ih hp (s := s.note i n) hk (hsigner.of_same (.note i n))
    exact ⟨made, hpost, fun h => (note_untouched i n).trans (hu h)⟩
  | call r rest ih =>
    have hsound := invoke_sound s i r
    have hsame := invoke_sameSigners s i r none id fun _ => none
    have hx := (invoke_outside i s r none id fun _ => none).map (·.1)
    obtain ⟨made, hpost, -⟩ := ih _ (hp _ (hsound.fits hk) (hx.notLocal hsigner)) (hsound.keyed hk)
      (hsigner.of_same hsame)
    exact ⟨true, by rwa [Bool.or_true], nofun⟩
  | openList q t rest ih =>
    obtain ⟨x, s', hrun, hkept, hsame, hx⟩ := run_openList i q t rest s
    obtain ⟨made, hpost, -⟩ := ih x (hp x (hx.notLocal hsigner)) (s := s')
      (hkept.content.resources ▸ hk) (hsigner.of_same hsame)
    rw [hrun]
    exact ⟨true, by rwa [Bool.or_true], nofun⟩
  | openWatch q t rest ih =>
    obtain ⟨x, s', hrun, hkept, hsame, hx⟩ := run_openWatch i q t rest s
    obtain ⟨made, hpost, -⟩ := ih x (hp x (hx.notLocal hsigner)) (s := s')
      (hkept.content.resources ▸ hk) (hsigner.of_same hsame)
    rw [hrun]
    exact ⟨true, by rwa [Bool.or_true], nofun⟩
  | collect st rest ih =>
    have hl := collect_later s st
    obtain ⟨made, hpost, hu⟩ := ih _ (hp (s.collect st).1 fun e he => collectFrom_failed he)
      (s := (s.collect st).2) (hl.store ▸ hk) (hsigner.of_same (.of_later hl))
    exact ⟨made, hpost, fun h => hl.untouched.trans (hu h)⟩

theorem run_early {p : Plan α} (hp : p.Ends Plan.Early false) (hk : s.store.resources.Keyed)
    (hsigner : SignerIs i Signer.Foreign s) {e : Error} (he : (run i p s).1 = .error e)
    (hl : e.isLocal = true) : Untouched s (run i p s).2 := by
  obtain ⟨made, hearly, hu⟩ := run_ends hp hk hsigner
  cases made with
  | false => exact hu rfl
  | true => exact absurd hl (by rw [hearly rfl e he]; exact Bool.false_ne_true)

theorem eq_error_of_errorOf {r : Except Error α} {e : Error} (h : errorOf r = some e) :
    r = .error e := by
  cases r with
  | ok a => cases h
  | error e' => cases h; rfl

theorem runFor_early {p : Client → Plan α} (hp : ∀ c, (p c).Ends Plan.Early false)
    (hk : s.store.resources.Keyed) (hsigner : SignerIs i Signer.Foreign s) {e : Error}
    (he : (s.runFor i p).1 = some e) (hl : e.isLocal = true) :
    Untouched s (s.runFor i p).2 := by
  cases hm : s.members[i]? with
  | none =>
    rw [runFor, hm] at he
    cases he
  | some m =>
    rw [runFor_eq hm] at he ⊢
    exact run_early (hp m.client) hk hsigner (eq_error_of_errorOf he) hl

/-- A kind is registered, or everything is left as it was. -/
theorem register_cases (i : Nat) (s : Session) (K : Kind) (name : String) :
    (s.register i K name).1 = .ok () ∨ (s.register i K name).2 = s := by
  unfold register
  cases s.members[i]? with
  | none => exact .inr rfl
  | some m =>
    dsimp only
    cases m.client.registry.register K name with
    | error e => exact .inr rfl
    | ok registry => exact .inl rfl

/-- **An error of the client's own comes before anything else.** Whatever is stored, whichever calls
are made to fail and whatever a client or a facade is asked for: if it ends because a kind is not
registered, an argument is refused, the client may not write, or a document or a file cannot be
read, then no call was made and nothing was signed for one, nothing has changed at the service, and
no call was counted. This is so as long as the client's signer, which may refuse any call, does not
give out such an error itself. -/
theorem local_error_untouched {limit : Nat} {as : List Act}
    (hs : s.store.resources = ((Store.empty limit).run as).resources) (i : Nat)
    (hsigner : SignerIs i Signer.Foreign s) (u : Use) {e : Error}
    (he : (s.use i u).1 = some e) (hl : e.isLocal = true) :
    Untouched s (s.use i u).2 := by
  have hk : s.store.resources.Keyed := hs ▸ Store.run_keyed (Store.empty_keyed limit) as
  cases u with
  | client op => exact runFor_early (p := op.plan) (fun _ => op.plan_early) hk hsigner he hl
  | facade op => exact runFor_early (p := op.plan) (fun _ => op.plan_early) hk hsigner he hl
  | register K name =>
    rcases register_cases i s K name with h | h
    · have hok : (s.register i K name).1 = .error e := eq_error_of_errorOf he
      rw [h] at hok
      cases hok
    · show Untouched s (s.register i K name).2
      rw [h]
      exact .refl s

/-- A machine without an id, as it may be stored by hand. -/
def nameless : WireResource :=
  (Resource.named (K := .machine) "" Kind.machine.defaultSpec).toWire

/-- Signs every call but updates. -/
def wary : Signer where
  signAfter _ method given :=
    if method == Verb.update.method then .error (.remote ⟨.permissionDenied, "no updates"⟩)
    else .ok given

theorem wary_foreign : wary.Foreign := by
  intro earlier method given e he
  simp only [wary] at he
  split at he <;> cases he
  rfl

/-- A machine without an id can be stored, but asking for its lock never gets to it. -/
theorem local_error_untouched_nameless :
    let s := { start 4 [{ writer with signer := wary }] with
      store := (Store.empty 4).run [.insertRaw nameless] }
    let u : Use := .facade (.lock "" none)
    (s.use 0 u).1 = some (Client.emptyId .machine) ∧ Untouched s (s.use 0 u).2 := by
  intro s u
  have hsigner : SignerIs 0 Signer.Foreign s := fun m hm => by cases hm; exact wary_foreign
  have he : (s.use 0 u).1 = some (Client.emptyId .machine) := rfl
  exact ⟨he, local_error_untouched (s := s) rfl 0 hsigner u he rfl⟩

end Session

end Fleet
