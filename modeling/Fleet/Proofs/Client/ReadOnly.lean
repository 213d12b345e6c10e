import Fleet.Proofs.Client.Operation
import Fleet.Proofs.Session.Reading

/-!
# Clients that may not write

A client in read-only mode passes its reads on and ends its writes by itself.

* `Plan.Refused`: a plan that ends before any call, and `run_refused`, what its run is.
* `Operation.plan_reads`, `FacadeOperation.plan_reads`: the reads only read.
* `Operation.plan_refused`, `FacadeOperation.plan_refused`: **every write of a client in read-only
  mode is refused**, whichever way it is asked.
* `readOnly_never_writes`: **whatever is asked of it, such a client changes nothing**, and it counts
  exactly the writes that it refuses.
-/

namespace Fleet

namespace Plan

variable {α β : Type}

/-- A plan that ends before any call: by an error of its own, or by the refusal of a write, which it
counts once. -/
inductive Refused : Plan α → Prop where
  | early {e : Error} (h : e.isReadOnly = false) : Refused (fail e)
  | gate (operation type : String) :
    Refused (.note .rejectedWrite (fail (.readOnly operation type)))

theorem Refused.bind {p : Plan α} (h : p.Refused) (f : α → Plan β) : (p.bind f).Refused := by
  cases h with
  | early h => exact .early h
  | gate operation type => exact .gate operation type

/-- A plan that first looks at what is known already is refused if it is refused wherever that is
right. -/
theorem Refused.ofExcept {r : Except Error α} {f : α → Plan β}
    (hr : NoRefusal r) (hf : ∀ a, r = .ok a → (f a).Refused) : (ofExcept r >>= f).Refused := by
  cases r with
  | ok a => exact hf a rfl
  | error e => exact .early (hr e rfl)

end Plan

namespace Session

variable {α : Type} {i : Nat}

/-- **What the run of a refused plan is.** -/
theorem run_refused {p : Plan α} (hp : p.Refused) (s : Session) :
    (∃ e, e.isReadOnly = false ∧ run i p s = (.error e, s)) ∨
      ∃ e, e.isReadOnly = true ∧ run i p s = (.error e, s.note i .rejectedWrite) := by
  cases hp with
  | early h => exact .inl ⟨_, h, rfl⟩
  | gate operation type => exact .inr ⟨_, rfl, rfl⟩

end Session

namespace Client

variable {c : Client} {K : Kind} {α : Type}

theorem noRefusal_wireName (r : Registry) (K : Kind) : NoRefusal (r.wireName K) := by
  unfold Registry.wireName
  split
  · exact .ok _
  · exact .error rfl

theorem noRefusal_checkFilters (selector : String) (idPattern : Option IdPattern) :
    NoRefusal (checkFilters selector idPattern) := by
  unfold checkFilters
  refine .bind ?_ fun _ => ?_
  · cases Selector.parse selector with
    | error e => exact .error rfl
    | ok terms => exact .ok terms
  · split
    · exact .ok ()
    · split
      · exact .ok ()
      · exact .error rfl

section Reads

variable {known : Error → Prop}

theorem decode_reads (w : WireResource) : (decode K w).Reads known := ⟨nofun, .ok _⟩

theorem request_reads {r : Request α} (h : r.verb.isMutation = false) :
    (Plan.request r).Reads known :=
  ⟨h, fun _ hx => hx⟩

theorem decodeAll_reads (ws : List WireResource) : (decodeAll K ws).Reads known := by
  induction ws with
  | nil => exact FailsBy.ok _
  | cons w ws ih => exact (decode_reads w).bind fun r => ih.bind fun rs => FailsBy.ok _

variable (hknown : ∀ e, e.isReadOnly = false → known e)
include hknown

theorem wireName_reads : (c.wireName K).Reads known := (noRefusal_wireName _ _).mono hknown

theorem checkFilters_reads (selector : String) (idPattern : Option IdPattern) :
    (Plan.ofExcept (checkFilters selector idPattern)).Reads known :=
  (noRefusal_checkFilters _ _).mono hknown

theorem get_reads (id : String) (ns : Option String) : (c.get K id ns).Reads known := by
  unfold get
  split
  · exact .fail (hknown _ rfl)
  · exact (wireName_reads hknown).bind fun _ => (request_reads rfl).bind fun w => decode_reads w

theorem list_reads (o : ListOptions) : (c.list K o).Reads known := by
  refine (wireName_reads hknown).bind fun type => (checkFilters_reads hknown _ _).bind fun _ => ?_
  exact Plan.Reads.bind (fun _ hx => hx) fun a => FailsBy.ok _

theorem watch_reads (o : WatchOptions) : (c.watch K o).Reads known := by
  refine (wireName_reads hknown).bind fun type => (checkFilters_reads hknown _ _).bind fun _ => ?_
  split
  · exact .fail (hknown _ rfl)
  · exact Plan.Reads.bind (fun _ hx => hx) fun a => FailsBy.ok _

theorem conclude_reads {g : Guard} {e : Ending} (he : ∀ e', e = .failed e' → known e') (a : α) :
    (conclude g e a).Reads known := by
  cases e with
  | finished => exact FailsBy.ok a
  | failed e => exact .fail (he e rfl)
  | cancelled => exact ⟨nofun, FailsBy.error (hknown _ rfl)⟩
  | expired => exact .fail (hknown _ rfl)

theorem listAll_reads (o : ListOptions) : (c.listAll K o).Reads known := by
  refine (list_reads hknown o).bind fun s => ?_
  show (Plan.collect s _).Reads known
  exact fun x hx => (decodeAll_reads x.1).bind fun rs => conclude_reads hknown hx rs

end Reads

theorem refuseWrite_refused (hc : c.config.mode = .readOnly) (operation type : String) :
    (c.refuseWrite operation type).Refused := by
  rw [refuseWrite_readOnly hc]
  exact .gate operation type

/-- **The gate**: a write whose first step is the check of the mode. -/
theorem gate_refused (hc : c.config.mode = .readOnly) (operation : String)
    (f : String → Unit → Plan α) :
    (c.wireName K >>= fun type => c.refuseWrite operation type >>= f type).Refused :=
  .ofExcept (noRefusal_wireName _ _) fun type _ => (refuseWrite_refused hc operation type).bind _

theorem apply_refused (hc : c.config.mode = .readOnly) (r : Resource K) (dryRun : Bool) :
    (c.apply r dryRun).Refused := gate_refused hc _ _

theorem noRefusal_ofContent (source name : String) (d : Option (Metadata × K.Spec)) :
    NoRefusal (Document.ofContent K source name d) := by
  unfold Document.ofContent Document.resource
  cases d with
  | none => exact .error rfl
  | some d =>
    dsimp only
    split
    · exact .error rfl
    · split
      · exact .error rfl
      · exact .ok _

theorem noRefusal_ofDocuments (source name : String) (n : Nat) (ds : List (Option Yaml.Document)) :
    NoRefusal (Document.ofDocuments K source name n ds) := by
  induction ds generalizing n with
  | nil => exact .ok _
  | cons d ds ih => exact (noRefusal_ofContent _ _ _).bind fun r => (ih (n + 1)).bind fun _ => .ok _

/-- A stream of documents that can be read holds one. -/
theorem noRefusal_ofYamlStream (source name text : String) :
    NoRefusal (Document.ofYamlStream K source name text) ∧
      Document.ofYamlStream K source name text ≠ .ok [] := by
  unfold Document.ofYamlStream
  cases h : Document.ofDocuments K source name 1 (Yaml.documents text) with
  | error e => exact ⟨.error (noRefusal_ofDocuments _ _ _ _ e h), nofun⟩
  | ok rs =>
    cases rs with
    | nil => exact ⟨.error rfl, nofun⟩
    | cons r rs => exact ⟨.ok _, nofun⟩

theorem applyYaml_refused (hc : c.config.mode = .readOnly) (text : String) (dryRun : Bool) :
    (c.applyYaml K text dryRun).Refused :=
  .ofExcept (noRefusal_wireName _ _) fun _ _ =>
    .ofExcept (noRefusal_ofContent _ _ _) fun r _ => apply_refused hc r dryRun

/-- The first document is refused, and there is one. -/
theorem applyYamlDocuments_refused (hc : c.config.mode = .readOnly) (text : String)
    (dryRun : Bool) : (c.applyYamlDocuments K text dryRun).Refused := by
  refine .ofExcept (noRefusal_wireName _ _) fun type _ => ?_
  obtain ⟨hs, hne⟩ := noRefusal_ofYamlStream (K := K) "yaml stream" type text
  refine .ofExcept hs fun rs hrs => ?_
  cases rs with
  | nil => exact absurd hrs hne
  | cons r rs => exact (apply_refused hc r dryRun).bind _

theorem applyFile_refused (hc : c.config.mode = .readOnly) (name : String)
    (content : Except FileFault String) (dryRun : Bool) :
    (c.applyFile K name content dryRun).Refused := by
  refine .ofExcept (noRefusal_wireName _ _) fun type _ => ?_
  refine .ofExcept ?_ fun text _ => ?_
  · cases content with
    | ok text => exact .ok text
    | error fault => exact .error rfl
  · refine .ofExcept ?_ fun r _ => apply_refused hc r dryRun
    split <;> exact noRefusal_ofContent _ _ _

theorem deleteManyDetailed_refused (hc : c.config.mode = .readOnly) (selector : String)
    (ns : Option String) : (c.deleteManyDetailed K selector ns).Refused := gate_refused hc _ _

theorem deleteMany_refused (hc : c.config.mode = .readOnly) (selector : String)
    (ns : Option String) : (c.deleteMany K selector ns).Refused :=
  (deleteManyDetailed_refused hc selector ns).bind _

end Client

namespace Operation

variable {c : Client} {K : Kind} {α : Type}

theorem plan_reads {op : Operation K α} (h : op.isWrite = false) {known : Error → Prop}
    (hknown : ∀ e, e.isReadOnly = false → known e) : (op.plan c).Reads known := by
  cases op with
  | get id ns => exact Client.get_reads hknown id ns
  | list o => exact Client.list_reads hknown o
  | listAll o => exact Client.listAll_reads hknown o
  | watch o => exact Client.watch_reads hknown o
  | create | update | delete | apply | applyYaml | applyYamlDocuments | applyFile
  | deleteManyDetailed | deleteMany | deleteAll => cases h

/-- **Every write of a client in read-only mode is refused.** -/
theorem plan_refused {op : Operation K α} (hc : c.config.mode = .readOnly)
    (h : op.isWrite = true) : (op.plan c).Refused := by
  cases op with
  | get | list | listAll | watch => cases h
  | create r => exact Client.gate_refused hc _ _
  | update r version => exact Client.gate_refused hc _ _
  | delete id ns => exact Client.gate_refused hc _ _
  | apply r dryRun => exact Client.apply_refused hc r dryRun
  | applyYaml text dryRun => exact Client.applyYaml_refused hc text dryRun
  | applyYamlDocuments text dryRun => exact Client.applyYamlDocuments_refused hc text dryRun
  | applyFile name content dryRun => exact Client.applyFile_refused hc name content dryRun
  | deleteManyDetailed selector ns => exact Client.deleteManyDetailed_refused hc selector ns
  | deleteMany selector ns => exact Client.deleteMany_refused hc selector ns
  | deleteAll ns => exact Client.deleteMany_refused hc "" ns

end Operation

namespace FacadeOperation

variable {c : Client} {K : Kind} {α : Type}

theorem plan_reads {op : FacadeOperation K α} (h : op.isWrite = false) {known : Error → Prop}
    (hknown : ∀ e, e.isReadOnly = false → known e) : (op.plan c).Reads known := by
  cases op with
  | get id ns => exact Client.get_reads hknown id ns
  | list o => exact Client.list_reads hknown o
  | listAll o => exact Client.listAll_reads hknown o
  | watch o => exact Client.watch_reads hknown o
  | create | update | delete | apply | applyYaml | applyFile | deleteMany | deleteAll
  | lock | unlock => cases h

/-- The facade's own gate comes first, so what it guards is never reached. -/
theorem guarded_refused (hc : c.config.mode = .readOnly) (a : WriteAction) (p : Plan α) :
    (Facade.guarded (⟨c⟩ : Facade K) a p).Refused := by
  have h : (Facade.refuse (⟨c⟩ : Facade K) a).Refused :=
    .ofExcept (Client.noRefusal_wireName _ _) fun type _ => Client.refuseWrite_refused hc _ type
  exact h.bind _

/-- **Every write of a facade in read-only mode is refused.** -/
theorem plan_refused {op : FacadeOperation K α} (hc : c.config.mode = .readOnly)
    (h : op.isWrite = true) : (op.plan c).Refused := by
  cases op with
  | get | list | listAll | watch => cases h
  | create | update | delete | apply | applyYaml | applyFile | deleteMany | deleteAll
  | lock | unlock => exact guarded_refused hc _ _

end FacadeOperation

/-- How many uses ended in the refusal of a write. -/
def refusals (es : List (Option Error)) : Nat := es.countP (·.any Error.isReadOnly)

namespace Session

variable {s : Session} {i : Nat} {m : Member} {α : Type}

theorem runFor_eq (hm : s.members[i]? = some m) (p : Client → Plan α) :
    s.runFor i p = (errorOf (run i (p m.client) s).1, (run i (p m.client) s).2) := by
  unfold runFor
  rw [hm]

theorem refusals_errorOf {r : Except Error α} (h : NoRefusal r) : refusals [errorOf r] = 0 := by
  cases r with
  | ok a => rfl
  | error e => simp [refusals, errorOf, h e rfl]

/-- What a session has become by one use of a member that may not write: the refusals of the member
are those of the use, unless its signer answers by one. -/
structure Spared (i : Nat) (s : Session) (r : Option Error × Session) : Prop where
  content : s.store.SameContent r.2.store
  counts : ∀ v, v.isMutation = true → r.2.store.calls.of v = s.store.calls.of v
  signers : SameSigners s r.2
  member : ∀ m, s.members[i]? = some m → ∃ m', r.2.members[i]? = some m' ∧
    m'.client.config = m.client.config ∧
    (SignerIs i Signer.Ungated s →
      m'.metrics.rejectedWrites = m.metrics.rejectedWrites + refusals [r.1])

/-- Reading keeps everything whatever the signer is; that no read ends in a refusal is another
thing, and only so if the signer does not answer by one. -/
theorem runFor_reads {p : Client → Plan α} (hm : s.members[i]? = some m)
    (hp : ∀ known : Error → Prop, (∀ e, e.isReadOnly = false → known e) →
      (p m.client).Reads known) : Spared i s (s.runFor i p) := by
  obtain ⟨hk, hsame⟩ := run_kept (i := i) (s := s) (hp _ fun _ _ => trivial)
  rw [runFor_eq hm]
  refine ⟨hk.content, hk.counts, hsame, fun m₀ hm₀ => ?_⟩
  obtain ⟨m', hm', hc', hr'⟩ := hk.member m₀ hm₀
  refine ⟨m', hm', hc', fun hsigner => ?_⟩
  have hn := (run_reads (hp _ fun _ h => h) (fun _ => isReadOnly_of_not_isLocal) hsigner).2.2
  rw [refusals_errorOf hn]
  exact hr'

/-- The refusal of a write. -/
theorem runFor_refused {p : Client → Plan α} (hm : s.members[i]? = some m)
    (hp : (p m.client).Refused) : ∃ e, s.runFor i p =
      (some e, if e.isReadOnly then s.note i .rejectedWrite else s) := by
  rw [runFor_eq hm]
  rcases run_refused (i := i) hp s with ⟨e, he, hr⟩ | ⟨e, he, hr⟩
  all_goals refine ⟨e, ?_⟩; rw [hr, he]; rfl

/-- Every write is refused, and nothing happens but that a refusal is counted. -/
theorem use_write {u : Use} (hm : s.members[i]? = some m) (hc : m.client.config.mode = .readOnly)
    (hu : u.isWrite = true) :
    ∃ e, s.use i u = (some e, if e.isReadOnly then s.note i .rejectedWrite else s) := by
  cases u with
  | client op => exact runFor_refused (p := op.plan) hm (Operation.plan_refused hc hu)
  | facade op => exact runFor_refused (p := op.plan) hm (FacadeOperation.plan_refused hc hu)
  | register K name => cases hu

theorem use_register (K : Kind) (name : String) (hm : s.members[i]? = some m) :
    Spared i s (s.use i (.register K name)) := by
  show Spared i s (errorOf (s.register i K name).1, (s.register i K name).2)
  unfold register
  rw [hm]
  dsimp only
  cases hr : m.client.registry.register K name with
  | error e =>
    have he : NoRefusal (m.client.registry.register K name) := by
      unfold Registry.register
      split
      · exact .error rfl
      · exact .ok _
    rw [hr] at he
    refine ⟨.refl _, fun _ _ => rfl, .refl s, fun m hm => ⟨m, hm, rfl, fun _ => ?_⟩⟩
    rw [refusals_errorOf (α := Unit) (.error (he e rfl))]
    rfl
  | ok registry =>
    refine ⟨.refl _, fun _ _ => rfl, .modifyMember fun _ => rfl, fun m' hm' => ?_⟩
    have hmm : m' = m := Option.some.inj (hm'.symm.trans hm)
    subst hmm
    exact ⟨_, getElem?_modifyMember _ hm, rfl, fun _ => rfl⟩

/-- One use of a client in read-only mode. -/
theorem use_spared (u : Use) (hm : s.members[i]? = some m)
    (hc : m.client.config.mode = .readOnly) : Spared i s (s.use i u) := by
  cases hu : u.isWrite with
  | true =>
    obtain ⟨e, he⟩ := use_write hm hc hu
    rw [he]
    cases hr : e.isReadOnly with
    | false =>
      refine ⟨.refl _, fun _ _ => rfl, .refl s, fun m hm => ⟨m, hm, rfl, fun _ => ?_⟩⟩
      simp [refusals, hr]
    | true =>
      refine ⟨.refl _, fun _ _ => rfl, .note i .rejectedWrite, fun m hm => ?_⟩
      refine ⟨_, getElem?_modifyMember _ hm, rfl, fun _ => ?_⟩
      simp [refusals, hr, Metrics.note]
  | false =>
    cases u with
    | client op => exact runFor_reads (p := op.plan) hm fun _ => Operation.plan_reads hu
    | facade op => exact runFor_reads (p := op.plan) hm fun _ => FacadeOperation.plan_reads hu
    | register K name => exact use_register K name hm

/-- The refusals of a run are those of its first use and those of the others. -/
theorem refusals_cons (e : Option Error) (es : List (Option Error)) :
    refusals (e :: es) = refusals [e] + refusals es := by
  unfold refusals
  rw [List.countP_cons, List.countP_cons, List.countP_nil]
  omega

theorem useAll_spared (us : List Use) (hm : s.members[i]? = some m)
    (hc : m.client.config.mode = .readOnly) :
    s.store.SameContent (s.useAll i us).2.store ∧
      (∀ v, v.isMutation = true → (s.useAll i us).2.store.calls.of v = s.store.calls.of v) ∧
      ∃ m', (s.useAll i us).2.members[i]? = some m' ∧ m'.client.config = m.client.config ∧
        (SignerIs i Signer.Ungated s → m'.metrics.rejectedWrites =
          m.metrics.rejectedWrites + refusals (s.useAll i us).1) := by
  induction us generalizing s m with
  | nil => exact ⟨.refl _, fun _ _ => rfl, m, hm, rfl, fun _ => rfl⟩
  | cons u us ih =>
    -- the member is still in read-only mode after the first use, so the others are spared too
    have h := use_spared u hm hc
    obtain ⟨m', hm', hc', hr'⟩ := h.member m hm
    obtain ⟨hs, hv, m'', hm'', hc'', hr''⟩ := ih hm' (by rw [hc', hc])
    refine ⟨h.content.trans hs, fun v hw => (hv v hw).trans (h.counts v hw), m'', hm'',
      hc''.trans hc', fun hsigner => ?_⟩
    show m''.metrics.rejectedWrites = m.metrics.rejectedWrites +
      refusals ((s.use i u).1 :: ((s.use i u).2.useAll i us).1)
    rw [refusals_cons, hr'' (hsigner.of_same h.signers), hr' hsigner]
    omega

/-- **A client in read-only mode never writes.** Whatever it was asked before, in any session, the
store and its history are as they were and no call that could change them was made; the client has
counted each refusal once, unless its signer answers by one itself; and any write that it is asked
for now fails before any call and before anything is signed. -/
theorem readOnly_never_writes (hm : s.members[i]? = some m)
    (hc : m.client.config.mode = .readOnly) (us : List Use) :
    let s' := (s.useAll i us).2
    s.store.SameContent s'.store ∧
      (∀ v, v.isMutation = true → s'.store.calls.of v = s.store.calls.of v) ∧
      ∃ m', s'.members[i]? = some m' ∧
        (m.signer.Ungated → m'.metrics.rejectedWrites =
          m.metrics.rejectedWrites + refusals (s.useAll i us).1) ∧
        ∀ u, u.isWrite = true → ∃ e m'', (s'.use i u).1 = some e ∧
          (s'.use i u).2.store = s'.store ∧ (s'.use i u).2.received = s'.received ∧
          (s'.use i u).2.members[i]? = some m'' ∧ m''.signed = m'.signed ∧
          m''.metrics.verbs = m'.metrics.verbs := by
  intro s'
  obtain ⟨hs, hv, m', hm', hc', hr'⟩ := useAll_spared us hm hc
  refine ⟨hs, hv, m', hm', fun hsigner => hr' (.of_member hm hsigner), fun u hu => ?_⟩
  obtain ⟨e, he⟩ := use_write hm' (by rw [hc', hc]) hu
  rw [he]
  cases e.isReadOnly with
  | false => exact ⟨e, m', rfl, rfl, rfl, hm', rfl, rfl⟩
  | true =>
    exact ⟨e, _, rfl, rfl, rfl, getElem?_modifyMember _ hm', rfl, rfl⟩

/-- A client that may read machines. -/
def reader : Member :=
  ⟨⟨{ Config.ofEndpoint "memory://" with mode := .readOnly }, Registry.empty.registerKind .machine⟩,
    .silent, .shared, .zero, []⟩

/-- A reader that creates and locks a machine is refused twice. -/
theorem readOnly_never_writes_twice :
    let us := [.client (.create (K := .machine) .blank), .client (.get (K := .machine) "m1" none),
      .facade (.lock "m1" none)]
    let s := start 4 [reader]
    s.store.SameContent (s.useAll 0 us).2.store ∧
      ∃ m', (s.useAll 0 us).2.members[0]? = some m' ∧ m'.metrics.rejectedWrites = 2 := by
  intro us s
  obtain ⟨hs, -, m', hm', hr, -⟩ := readOnly_never_writes (s := s) (i := 0) (m := reader) rfl rfl us
  have h : refusals (s.useAll 0 us).1 = 2 := by rfl
  have hr' := hr (Signer.headers_signs ∅).ungated
  rw [h] at hr'
  exact ⟨hs, m', hm', hr'⟩

end Session

end Fleet
