import Fleet.Proofs.Client.Applying

/-!
# Applying documents in turn

The documents of a text are read before anything is sent, and then applied one after the other.

* `run_request_failed`, `run_apply_failed`: **what fails changes nothing**, a call and an apply.
* `Document.resource?`: the resource that a document describes.
* `ofYamlStream_cases`: a text is read completely, or it is refused.
* `AppliedInTurn`: resources that are applied one after the other, each successfully.
* `run_applyEach_cases`: **the resources of a text are applied up to the first failure.**
* `documents_in_turn`: what applying the documents of a text comes to.
-/

namespace Fleet

namespace Session

variable {α : Type} {K : Kind} {i : Nat} {c : Client} {s s' : Session} {e : Error}

/-! ### Failures leave no trace -/

theorem finishCall_failed {m : Member} {r : Request α} {token : Option Token} {headers : Headers}
    (h : (s.finishCall i m r token headers).1 = .error e) :
    s.store.SameContent (s.finishCall i m r token headers).2.store := by
  obtain ⟨s₁, hlater, hcases⟩ := finishCall_cases s i m r token headers
  have hreceived : s.store.SameContent s₁.store := by
    rw [hlater.store]
    exact s.store.sameContent_count r.verb
  rcases hcases with hcancelled | ⟨x, -, hlate⟩ | hanswered
  · rw [hcancelled]
    exact hreceived
  · rw [hlate, countFailure_store]
    exact hreceived
  · rw [hanswered] at h ⊢
    rw [countFailure_store]
    have hfailed : (s₁.store.answer s₁.reading r).1.mapError Error.remote = .error e := h
    cases hanswer : (s₁.store.answer s₁.reading r).1 with
    | ok a =>
      rw [hanswer] at hfailed
      cases hfailed
    | error status =>
      have hsame : (s₁.answer r).2.store = s₁.store := Store.answer_snd_of_error hanswer
      rw [hsame]
      exact hreceived

/-- **A call that fails changes nothing**, whoever makes it and for whatever reason it fails. -/
theorem run_request_failed {r : Request α} (h : (run i (Plan.request r) s).1 = .error e) :
    s.store.SameContent (run i (Plan.request r) s).2.store := by
  rw [Plan.request, run_call, run_done] at h ⊢
  dsimp only at h ⊢
  have hcall := invoke_cases s i r none id fun _ => none
  generalize s.invoke i r none id (fun _ => none) = y at hcall h ⊢
  cases hcall with
  | missing => exact .refl _
  | refused =>
    rw [startCall_store]
    exact .refl _
  | @served m c =>
    rw [← startCall_store s i m r.verb none]
    cases hfinish : ((s.startCall i m r.verb none).2.finishCall i m r none c.1).1 with
    | error e => exact finishCall_failed hfinish
    | ok a =>
      rw [hfinish] at h
      cases h
  | scripted _ _ _ hscript => cases hscript
  | unscripted =>
    rw [countFailure_store, startCall_store]
    exact .refl _

/-- A create or an update that fails changes nothing. -/
theorem run_write_failed {r : Resource K} {operation : String} {withStatus : Bool}
    {request : WireResource → Request WireResource} {p : Plan (Resource K)}
    (hp : p = (c.wireName K >>= fun type => c.refuseWrite operation type >>= fun _ =>
      Plan.ofExcept (c.prepare r type withStatus) >>= fun w =>
      Plan.request (request w) >>= Client.decode K))
    (h : (run i p s).1 = .error e) : s.store.SameContent (run i p s).2.store := by
  subst hp
  cases hname : c.registry.wireName K with
  | error e =>
    rw [Client.wireName_bind_error hname]
    exact .refl _
  | ok type =>
    rw [Client.wireName_bind_ok hname] at h ⊢
    cases hmode : c.config.mode with
    | readOnly =>
      rw [Client.refuseWrite_readOnly hmode]
      exact .refl _
    | readWrite =>
      rw [Client.refuseWrite_readWrite hmode] at h ⊢
      cases hw : c.prepare r type withStatus with
      | error e => exact .refl _
      | ok w =>
        have hcall : (run i ((Plan.request (request w)).bind (Client.decode K)) s).1 =
            .error e := by
          rw [hw] at h
          exact h
        show s.store.SameContent
          (run i ((Plan.request (request w)).bind (Client.decode K)) s).2.store
        rw [run_bind] at hcall ⊢
        have hfailed := run_request_failed (i := i) (s := s) (r := request w) (e := e)
        generalize run i (Plan.request (request w)) s = x at hcall hfailed ⊢
        obtain ⟨answer, s₁⟩ := x
        cases answer with
        | ok stored => cases hcall
        | error e' =>
          cases hcall
          exact hfailed rfl

/-- **An apply that fails changes nothing**, dry or not. -/
theorem run_apply_failed {r : Resource K} {dryRun : Bool}
    (h : (run i (c.apply r dryRun) s).1 = .error e) :
    s.store.SameContent (run i (c.apply r dryRun) s).2.store := by
  rcases run_apply_gate i c r s with ⟨e', s', hrefused, hasked⟩ | ⟨type, hname, hmode⟩
  · rw [hrefused]
    exact hasked.content
  · obtain ⟨signed, heard, hasked, -⟩ := run_get_asked i c K r.id (some r.metadata.ns) s
    have hread := hasked.content
    rw [run_apply hname hmode] at h ⊢
    generalize run i (c.get K r.id (some r.metadata.ns)) s = x at h hread ⊢
    obtain ⟨answer, s₁⟩ := x
    cases answer with
    | ok old =>
      dsimp only at h hread ⊢
      split at h
      · cases h
      · rw [if_neg ‹_›]
        exact hread.trans (run_write_failed rfl h)
    | error e' =>
      dsimp only at h hread ⊢
      split
      · exact hread
      · -- nothing is there, so the failure is that of the create
        rw [if_neg ‹_›] at h
        split at h
        · cases h
        · rw [if_neg ‹_›]
          exact hread.trans (run_write_failed rfl h)

end Session

namespace Document

variable {K : Kind} {type source : String}

/-! ### Reading a text -/

/-- The resource that a document describes: one that can be read, declares no other type and has an
id. It has no status. -/
def resource? (K : Kind) (type : String) (d : Option Yaml.Document) : Option (Resource K) :=
  match d.bind (model K).ofDocument? with
  | none => none
  | some (metadata, spec) =>
    if (metadata.type = "" ∨ metadata.type = type) ∧ metadata.id ≠ "" then
      some ⟨metadata, spec, none⟩
    else none

/-- A document is read as the resource that it describes, or it is refused. -/
theorem ofContent_cases (K : Kind) (type source : String) (d : Option Yaml.Document) :
    (∃ r, resource? K type d = some r ∧
      ofContent K source type (d.bind (model K).ofDocument?) = .ok r) ∨
    (resource? K type d = none ∧ ∃ fault,
      ofContent K source type (d.bind (model K).ofDocument?) =
        .error (.document source fault)) := by
  unfold resource? ofContent
  cases d.bind (model K).ofDocument? with
  | none => exact .inr ⟨rfl, _, rfl⟩
  | some content =>
    obtain ⟨metadata, spec⟩ := content
    dsimp only
    unfold resource
    dsimp only
    by_cases hother : metadata.type = "" ∨ metadata.type = type
    · have hown : (!metadata.type.isEmpty && metadata.type != type) = false := by
        rcases hother with h | h <;> simp [h]
      rw [hown, if_neg Bool.false_ne_true]
      by_cases hid : metadata.id = ""
      · have hempty : metadata.id.isEmpty = true := by simpa using hid
        rw [if_neg fun h => h.2 hid, hempty, if_pos rfl]
        exact .inr ⟨rfl, _, rfl⟩
      · have hfilled : metadata.id.isEmpty = false := by simpa using hid
        rw [if_pos ⟨hother, hid⟩, hfilled, if_neg Bool.false_ne_true]
        exact .inl ⟨_, rfl, rfl⟩
    · have hforeign : (!metadata.type.isEmpty && metadata.type != type) = true := by
        simpa using hother
      rw [if_neg fun h => hother h.1, hforeign, if_pos rfl]
      exact .inr ⟨rfl, _, rfl⟩

/-- The documents of a stream are read as the resources that they describe, or the first one that
describes none is refused. -/
theorem ofDocuments_cases (K : Kind) (type source : String) (n : Nat)
    (ds : List (Option Yaml.Document)) :
    (∃ rs, ds.map (resource? K type) = rs.map some ∧
      ofDocuments K source type n ds = .ok rs) ∨
    (none ∈ ds.map (resource? K type) ∧ ∃ name fault,
      ofDocuments K source type n ds = .error (.document name fault)) := by
  -- the documents are numbered, so the number goes up with every one that is read
  induction ds generalizing n with
  | nil => exact .inl ⟨[], rfl, rfl⟩
  | cons d ds ih =>
    rcases ofContent_cases K type (source ++ " (document " ++ Text.decimal n ++ ")") d with
      ⟨r, hr, hd⟩ | ⟨hr, fault, hd⟩
    · rcases ih (n + 1) with ⟨rs, hrs, hds⟩ | ⟨hnone, name, fault, hds⟩
      · refine .inl ⟨r :: rs, ?_, ?_⟩
        · rw [List.map_cons, List.map_cons, hr, hrs]
        · unfold ofDocuments
          dsimp only
          rw [hd, hds]
          rfl
      · refine .inr ⟨List.mem_cons_of_mem _ hnone, name, fault, ?_⟩
        unfold ofDocuments
        dsimp only
        rw [hd, hds]
        rfl
    · refine .inr ⟨?_, source ++ " (document " ++ Text.decimal n ++ ")", fault, ?_⟩
      · rw [List.map_cons, hr]
        exact List.mem_cons_self
      · unfold ofDocuments
        dsimp only
        rw [hd]
        rfl

/-- A text is refused if it has no document, or one that describes no resource. -/
theorem ofYamlStream_refused (source : String) {text : String}
    (h : Yaml.documents text = [] ∨ none ∈ (Yaml.documents text).map (resource? K type)) :
    ∃ name fault, ofYamlStream K source type text = .error (.document name fault) := by
  unfold ofYamlStream
  rcases ofDocuments_cases K type source 1 (Yaml.documents text) with
    ⟨rs, hrs, hds⟩ | ⟨-, name, fault, hds⟩
  · have hempty : rs = [] := by
      rcases h with hnil | hnone
      · rw [hnil] at hrs
        exact List.map_eq_nil_iff.1 hrs.symm
      · rw [hrs] at hnone
        simp at hnone
    rw [hds, hempty]
    exact ⟨source, .noDocuments, rfl⟩
  · rw [hds]
    exact ⟨name, fault, rfl⟩

/-- Otherwise it is read as the resources that its documents describe. -/
theorem ofYamlStream_read {text : String} {rs : List (Resource K)} (hne : rs ≠ [])
    (h : (Yaml.documents text).map (resource? K type) = rs.map some) :
    ofYamlStream K source type text = .ok rs := by
  unfold ofYamlStream
  rcases ofDocuments_cases K type source 1 (Yaml.documents text) with
    ⟨rs', hrs', hds⟩ | ⟨hnone, -⟩
  · have hsame : rs' = rs :=
      List.map_injective_iff.2 (fun _ _ => Option.some.inj) (hrs'.symm.trans h)
    have hfilled : rs.isEmpty = false := by simpa using hne
    rw [hds, hsame]
    show (if rs.isEmpty then _ else _) = _
    rw [hfilled]
    rfl
  · rw [h] at hnone
    simp at hnone

end Document

namespace Session

variable {K : Kind} {i : Nat} {c : Client} {dryRun : Bool} {s s' s₁ s₂ : Session} {e : Error}
  {rs as : List (Resource K)}

/-! ### One after the other -/

/-- Resources that are applied one after the other, each successfully: what they were, what the
applies have returned, and the session before and after them. -/
inductive AppliedInTurn {K : Kind} (i : Nat) (c : Client) (dryRun : Bool) :
    List (Resource K) → List (Resource K) → Session → Session → Prop where
  | nil (s : Session) : AppliedInTurn i c dryRun [] [] s s
  | cons {r a : Resource K} {rs as : List (Resource K)} {s s₁ s' : Session}
    (head : run i (c.apply r dryRun) s = (.ok a, s₁))
    (tail : AppliedInTurn i c dryRun rs as s₁ s') :
    AppliedInTurn i c dryRun (r :: rs) (a :: as) s s'

/-- What comes after resources that have been applied. -/
theorem AppliedInTurn.run_append (h : AppliedInTurn i c dryRun rs as s s')
    (rest : List (Resource K)) :
    run i (c.applyEach K dryRun (rs ++ rest)) s =
      andThen (run i (c.applyEach K dryRun rest) s') fun others s₂ => (.ok (as ++ others), s₂) := by
  -- the rest begins in the session that the applies before it have left
  induction h with
  | nil s =>
    rw [List.nil_append]
    generalize run i (c.applyEach K dryRun rest) s = x
    obtain ⟨answer, s₂⟩ := x
    cases answer <;> rfl
  | cons head tail ih =>
    rw [List.cons_append, Client.applyEach, Plan.bind_eq, run_bind, head, andThen_ok, Plan.bind_eq,
      run_bind, ih]
    generalize run i (c.applyEach K dryRun rest) _ = x
    obtain ⟨answer, s₂⟩ := x
    cases answer <;> rfl

/-- All of them have been applied. -/
theorem AppliedInTurn.run_all (h : AppliedInTurn i c dryRun rs as s s') :
    run i (c.applyEach K dryRun rs) s = (.ok as, s') := by
  have hrun := h.run_append []
  rw [List.append_nil] at hrun
  rw [hrun, Client.applyEach, run_done, andThen_ok, List.append_nil]

/-- The next one cannot be applied: its failure is the end. -/
theorem AppliedInTurn.run_failed (h : AppliedInTurn i c dryRun rs as s s₁) {r : Resource K}
    (hr : run i (c.apply r dryRun) s₁ = (.error e, s₂)) (after : List (Resource K)) :
    run i (c.applyEach K dryRun (rs ++ r :: after)) s = (.error e, s₂) := by
  rw [h.run_append, Client.applyEach, Plan.bind_eq, run_bind, hr]
  rfl

/-- Resources are applied one after the other, all of them or up to the first that cannot be. -/
theorem appliedInTurn_or_failed (i : Nat) (c : Client) (dryRun : Bool) (rs : List (Resource K))
    (s : Session) :
    (∃ as s', AppliedInTurn i c dryRun rs as s s') ∨
    ∃ before r after as s₁ e s₂, rs = before ++ r :: after ∧
      AppliedInTurn i c dryRun before as s s₁ ∧ run i (c.apply r dryRun) s₁ = (.error e, s₂) := by
  induction rs generalizing s with
  | nil => exact .inl ⟨[], s, .nil s⟩
  | cons r rs ih =>
    rcases hrun : run i (c.apply r dryRun) s with ⟨answer, s₁⟩
    cases answer with
    | error e => exact .inr ⟨[], r, rs, [], s, e, s₁, rfl, .nil s, hrun⟩
    | ok a =>
      rcases ih s₁ with ⟨as, s', htail⟩ | ⟨before, r', after, as, s₂, e, s₃, rfl, htail, hfailed⟩
      · exact .inl ⟨a :: as, s', .cons hrun htail⟩
      · exact .inr ⟨r :: before, r', after, a :: as, s₂, e, s₃, rfl, .cons hrun htail, hfailed⟩

/-- **Applying the documents of a text.** Whatever a client may do, whatever the service holds and
whichever faults are injected: a kind that the client does not know is refused before the text is
read. Otherwise a text without documents, or with one that cannot be read, declares another type or
has no id, is refused before anything is signed or sent. And otherwise the resources that its
documents describe are applied in their order: either all of them are, and the results are returned
in that order, or an apply fails, after those before it have succeeded. Then its failure is
returned and nothing follows; the failed apply itself has changed nothing. -/
theorem documents_in_turn (i : Nat) (c : Client) (K : Kind) (text : String) (dryRun : Bool)
    (s : Session) :
    let p := Operation.plan c (K := K) (.applyYamlDocuments text dryRun)
    (c.registry.isRegistered K = false → run i p s = (.error (.notRegistered K.label), s)) ∧
    ∀ type, c.registry.wireName K = .ok type →
      (Yaml.documents text = [] ∨
          none ∈ (Yaml.documents text).map (Document.resource? K type) →
        ∃ name fault, run i p s = (.error (.document name fault), s)) ∧
      ∀ rs, rs ≠ [] → (Yaml.documents text).map (Document.resource? K type) = rs.map some →
        (∀ as s', AppliedInTurn i c dryRun rs as s s' → run i p s = (.ok as, s')) ∧
        (∀ before r after as s₁ e s₂, rs = before ++ r :: after →
          AppliedInTurn i c dryRun before as s s₁ →
          run i (c.apply r dryRun) s₁ = (.error e, s₂) →
          run i p s = (.error e, s₂) ∧ s₁.store.SameContent s₂.store) ∧
        ((∃ as s', AppliedInTurn i c dryRun rs as s s') ∨
          ∃ before r after as s₁ e s₂, rs = before ++ r :: after ∧
            AppliedInTurn i c dryRun before as s s₁ ∧
            run i (c.apply r dryRun) s₁ = (.error e, s₂)) := by
  intro p
  have hp : p = (c.wireName K >>= fun type =>
      Plan.ofExcept (Document.ofYamlStream K "yaml stream" type text) >>= fun rs =>
      c.applyEach K dryRun rs) := rfl
  refine ⟨fun hunknown => ?_, fun type hname => ?_⟩
  · have hnone : c.registry.names.get? K.label = none :=
      Option.isNone_iff_eq_none.1 (Option.isSome_eq_false_iff.1 hunknown)
    have hname : c.registry.wireName K = .error (.notRegistered K.label) := by
      rw [Registry.wireName, hnone]
    rw [hp, Client.wireName_bind_error hname, run_fail]
  · rw [hp, Client.wireName_bind_ok hname]
    refine ⟨fun hbad => ?_, fun rs hne hrs => ?_⟩
    · obtain ⟨name, fault, hrefused⟩ :=
        Document.ofYamlStream_refused "yaml stream" hbad
      rw [hrefused]
      exact ⟨name, fault, rfl⟩
    · rw [Document.ofYamlStream_read hne hrs]
      refine ⟨fun as s' h => h.run_all, ?_, appliedInTurn_or_failed i c dryRun rs s⟩
      rintro before r after as s₁ e s₂ rfl hbefore hfailed
      refine ⟨hbefore.run_failed hfailed after, ?_⟩
      have hsame : s₁.store.SameContent (run i (c.apply r dryRun) s₁).2.store :=
        run_apply_failed (congrArg Prod.fst hfailed)
      rw [hfailed] at hsame
      exact hsame

/-- Two documents that describe the same machine. -/
def twins : String := "metadata:\n  id: m1\n---\nmetadata:\n  id: m1\n"

/-- That machine. -/
def twin : Resource .machine := .named "m1" Kind.machine.defaultSpec

/-- The machine is created by the first document and replaced by the second. -/
theorem documents_in_turn_twins :
    ∃ a b s', run 0 (writer.client.applyYamlDocuments .machine twins false) (start 4 [writer]) =
        (.ok [a, b], s') ∧ a.version = "1" ∧ b.version = "2" := by
  have hread : (Yaml.documents twins).map
      (Document.resource? .machine Kind.machine.wireType) = [twin, twin].map some := by
    decide +kernel
  obtain ⟨a, ha, hcreated⟩ : ∃ a, (run 0 (writer.client.apply twin false) (start 4 [writer])).1 =
    .ok a ∧ a.version = "1" := ⟨_, rfl, rfl⟩
  obtain ⟨b, hb, hreplaced⟩ : ∃ b, (run 0 (writer.client.apply twin false)
    (run 0 (writer.client.apply twin false) (start 4 [writer])).2).1 =
      .ok b ∧ b.version = "2" := ⟨_, rfl, rfl⟩
  obtain ⟨-, hknown⟩ :=
    documents_in_turn 0 writer.client .machine twins false (start 4 [writer])
  obtain ⟨hall, -⟩ := (hknown _ rfl).2 [twin, twin] (List.cons_ne_nil _ _) hread
  have happlied : AppliedInTurn 0 writer.client false [twin, twin] [a, b] (start 4 [writer]) _ :=
    .cons (Prod.ext ha rfl) (.cons (Prod.ext hb rfl) (.nil _))
  exact ⟨a, b, _, hall _ _ happlied, hcreated, hreplaced⟩

/-- A client that knows no kind. -/
def stranger : Member :=
  ⟨⟨Config.ofEndpoint "memory://", .empty⟩, .silent, .shared, .zero, []⟩

/-- **A text that cannot be read is not refused as such** by a client that does not know the
kind. -/
theorem stranger_refuses_unread :
    (Yaml.documents "metadata: [").map
        (Document.resource? .machine Kind.machine.wireType) = [none] ∧
      run 0 (stranger.client.applyYamlDocuments .machine "metadata: [" false)
        (start 4 [stranger]) = (.error (.notRegistered "Machine"), start 4 [stranger]) :=
  ⟨by decide +kernel, rfl⟩

end Session

end Fleet
