import Fleet.Proofs.Client.Careful
import Fleet.Proofs.Client.Pages
import Fleet.Proofs.Service.Selection
import Mathlib.Data.String.Basic

/-!
# Deleting many resources

A bulk deletion reads its matches before it deletes the first, and goes on where one cannot be
deleted.

* `obstacle?`: why a match is not deleted, if it is not.
* `Swept`: what is left when some matches have been tried.
* `Attended.run_delete`: **one deletion** does what its obstacle says.
* `Attended.run_deleteEach`: so do any number of them, one after the other.
* `Attended.run_deleteManyDetailed`: a bulk deletion lists its matches and tries each of them.
* `deletion_accounts_for_matches`: **every match is accounted for exactly once.**
-/

namespace Fleet

/-- A report after one more match has been tried. -/
def DeleteReport.record (report : DeleteReport) (id : String) : Option Error → DeleteReport
  | none => { report with deleted := report.deleted ++ [id] }
  | some e => { report with failed := report.failed.insert id e }

namespace Session

variable {K : Kind} {i : Nat} {c : Client} {s s' s'' : Session} {type selector : String}
  {ns : Option String} {sel : Selector} {w : WireResource} {ws : List WireResource}

/-- Why a match of a bulk deletion is not deleted: it has no id, its deletion is made to fail, or
finalizers keep it. -/
def obstacle? (K : Kind) (s : Store) (w : WireResource) : Option Error :=
  if w.metadata.id.isEmpty then some (Client.emptyId K)
  else
    match s.fault? .destroy w.metadata.id with
    | some status => some (.remote status)
    | none =>
      if w.metadata.finalizers.isEmpty then none
      else some (.remote (pinned (.of w.metadata) w.metadata.finalizers))

theorem obstacle?_congr {s s' : Store} (h : s'.faults = s.faults) (w : WireResource) :
    obstacle? K s' w = obstacle? K s w := by
  have hfault : s'.fault? .destroy w.metadata.id = s.fault? .destroy w.metadata.id := by
    rw [Store.fault?, Store.fault?, h]
  rw [obstacle?, obstacle?, hfault]

/-- A match is deleted. -/
def isDeleted (K : Kind) (s : Store) (w : WireResource) : Bool := (obstacle? K s w).isNone

theorem isDeleted_congr {s s' : Store} (h : s'.faults = s.faults) :
    isDeleted K s' = isDeleted K s :=
  funext fun w => congrArg Option.isNone (obstacle?_congr h w)

/-- What is left when some matches have been tried: those without an obstacle are gone and nothing
else is, every match with an id was called for once, and every one with an obstacle was counted. -/
structure Swept (K : Kind) (i : Nat) (c : Client) (s : Session) (ws : List WireResource)
    (s' : Session) : Prop where
  attended : Attended i c s'
  faults : s'.store.faults = s.store.faults
  resources : ∀ k w, s'.store.resources.get? k = some w ↔
    s.store.resources.get? k = some w ∧ ¬(w ∈ ws ∧ isDeleted K s.store w = true)
  calls : s'.store.calls.of .destroy =
    s.store.calls.of .destroy + ws.countP fun w => !w.metadata.id.isEmpty
  bulk : s'.bulkDeleteFailures i =
    (s.bulkDeleteFailures i).map (· + ws.countP fun w => !isDeleted K s.store w)

namespace Swept

/-- Nothing was tried. -/
theorem nil (h : Attended i c s) : Swept K i c s [] s := by
  refine ⟨h, rfl, fun k w => ?_, rfl, ?_⟩
  · simp
  · cases s.bulkDeleteFailures i <;> rfl

/-- One match after another. -/
theorem cons (h : Swept K i c s [w] s') (h' : Swept K i c s' ws s'') :
    Swept K i c s (w :: ws) s'' := by
  have hdeleted : isDeleted K s'.store = isDeleted K s.store := isDeleted_congr h.faults
  refine ⟨h'.attended, h'.faults.trans h.faults, fun k v => ?_, ?_, ?_⟩
  · rw [h'.resources, h.resources, hdeleted, List.mem_singleton, List.mem_cons]
    tauto
  · rw [h'.calls, h.calls, List.countP_cons, List.countP_cons, List.countP_nil]
    omega
  · rw [h'.bulk, h.bulk, hdeleted, Option.map_map, List.countP_cons, List.countP_cons,
      List.countP_nil]
    refine congrFun (congrArg Option.map (funext fun n => ?_)) _
    show n + _ + _ = n + _
    omega

/-- Listing the matches before they are tried leaves the store as it was, but for its count. -/
theorem of_listed (hlist : Heard i c s none (s.store.count .list) s') (h : Swept K i c s' ws s'') :
    Swept K i c s ws s'' := by
  have hresources : s'.store.resources = s.store.resources := by rw [hlist.store]; rfl
  have hfaults : s'.store.faults = s.store.faults := by rw [hlist.store]; rfl
  have hcalls : s'.store.calls.of .destroy = s.store.calls.of .destroy := by rw [hlist.store]; rfl
  have hdeleted : isDeleted K s'.store = isDeleted K s.store := isDeleted_congr hfaults
  refine ⟨h.attended, h.faults.trans hfaults, fun k w => ?_, ?_, ?_⟩
  · rw [h.resources, hresources, hdeleted]
  · rw [h.calls, hcalls]
  · rw [h.bulk, hlist.bulk, hdeleted]

end Swept

/-- What a match is answered with. -/
def answerOf : Option Error → Except Error Unit
  | none => .ok ()
  | some e => .error e

/-- **The service destroys a match** exactly if nothing keeps it, and the match alone. -/
theorem handle_destroy {s : Store} (hk : s.resources.Keyed)
    (hheld : s.resources.get? (.of w.metadata) = some w) (hid : w.metadata.id.isEmpty = false)
    (now : WireTime) :
    (s.handle now (.destroy (.of w.metadata))).1.mapError Error.remote =
        answerOf (obstacle? K s w) ∧
      ∀ k v, (s.handle now (.destroy (.of w.metadata))).2.resources.get? k = some v ↔
        s.resources.get? k = some v ∧ ¬(v = w ∧ isDeleted K s w = true) := by
  have hfault : (s.count .destroy).fault? .destroy w.metadata.id =
      s.fault? .destroy w.metadata.id := rfl
  have hkept : ∀ {e : Error}, obstacle? K s w = some e → ∀ k v, s.resources.get? k = some v ↔
      s.resources.get? k = some v ∧ ¬(v = w ∧ isDeleted K s w = true) := by
    intro e he k v
    simp [isDeleted, he]
  have hanswer : s.handle now (.destroy (.of w.metadata)) =
      match s.fault? .destroy w.metadata.id with
      | some status => (.error status, s.count .destroy)
      | none => (s.count .destroy).destroy (.of w.metadata) := rfl
  have hdestroy : (s.count .destroy).destroy (.of w.metadata) =
      if w.metadata.finalizers.isEmpty then (.ok (), (s.count .destroy).remove (.of w.metadata) w)
      else (.error (pinned (.of w.metadata) w.metadata.finalizers), s.count .destroy) := by
    rw [Store.destroy, Store.find, Store.count_resources, hheld]
  rw [hanswer]
  cases hf : s.fault? .destroy w.metadata.id with
  | some status =>
    have hobstacle : obstacle? K s w = some (.remote status) := by
      rw [obstacle?, hid, hf]
      rfl
    rw [hobstacle]
    exact ⟨rfl, hkept hobstacle⟩
  | none =>
    dsimp only
    rw [hdestroy]
    cases hpinned : w.metadata.finalizers.isEmpty with
    | false =>
      have hobstacle : obstacle? K s w =
          some (.remote (pinned (.of w.metadata) w.metadata.finalizers)) := by
        rw [obstacle?, hid, hf, hpinned]
        rfl
      rw [hobstacle]
      exact ⟨rfl, hkept hobstacle⟩
    | true =>
      have hobstacle : obstacle? K s w = none := by
        rw [obstacle?, hid, hf, hpinned]
        rfl
      rw [hobstacle]
      refine ⟨rfl, fun k v => ?_⟩
      have hdeleted : isDeleted K s w = true := by rw [isDeleted, hobstacle]; rfl
      show (s.resources.erase (.of w.metadata)).get? k = some v ↔ _
      by_cases hkw : k = .of w.metadata
      · subst hkw
        rw [OrderedMap.get?_erase_self, hheld]
        constructor
        · intro h
          cases h
        · rintro ⟨hv, hne⟩
          exact absurd ⟨(Option.some.inj hv).symm, hdeleted⟩ hne
      · -- what is under another key is another resource
        have hne : compare k (.of w.metadata) ≠ .eq := fun he => hkw (Key.eq_of_compare he)
        rw [OrderedMap.get?_erase_of_ne _ hne]
        refine ⟨fun hv => ⟨hv, ?_⟩, fun hv => hv.1⟩
        rintro ⟨rfl, -⟩
        exact hkw (hk k v hv).symm

/-- A match that was not deleted is counted. -/
def noteObstacle (s : Session) (i : Nat) : Option Error → Session
  | none => s
  | some _ => s.note i .bulkDeleteFailure

/-- What is left when one match has been tried and counted. -/
theorem Swept.of_tried (h : Attended i c s') (hfaults : s'.store.faults = s.store.faults)
    (hresources : ∀ k v, s'.store.resources.get? k = some v ↔
      s.store.resources.get? k = some v ∧ ¬(v = w ∧ isDeleted K s.store w = true))
    (hcalls : s'.store.calls.of .destroy =
      s.store.calls.of .destroy + if w.metadata.id.isEmpty then 0 else 1)
    (hbulk : s'.bulkDeleteFailures i = s.bulkDeleteFailures i) :
    Swept K i c s [w] (s'.noteObstacle i (obstacle? K s.store w)) := by
  have hgone : ∀ v, (v ∈ [w] ∧ isDeleted K s.store v = true) ↔
      (v = w ∧ isDeleted K s.store w = true) := by
    intro v
    rw [List.mem_singleton]
    exact ⟨fun hv => ⟨hv.1, hv.1 ▸ hv.2⟩, fun hv => ⟨hv.1, hv.1 ▸ hv.2⟩⟩
  have hcount : [w].countP (fun w => !w.metadata.id.isEmpty) =
      if w.metadata.id.isEmpty then 0 else 1 := by
    cases hid : w.metadata.id.isEmpty <;> simp [hid]
  cases hobstacle : obstacle? K s.store w with
  | none =>
    refine ⟨h, hfaults, fun k v => ?_, ?_, ?_⟩
    · rw [hgone]
      exact hresources k v
    · rw [hcount]
      exact hcalls
    · have hkept : [w].countP (fun w => !isDeleted K s.store w) = 0 := by
        simp [isDeleted, hobstacle]
      rw [hkept]
      refine hbulk.trans ?_
      cases s.bulkDeleteFailures i <;> rfl
  | some e =>
    refine ⟨h.modifyMember fun _ => ⟨rfl, rfl, rfl⟩, hfaults, fun k v => ?_, ?_, ?_⟩
    · rw [hgone]
      exact hresources k v
    · rw [hcount]
      exact hcalls
    · have hkept : [w].countP (fun w => !isDeleted K s.store w) = 1 := by
        simp [isDeleted, hobstacle]
      rw [hkept, ← hbulk]
      show Option.map _ (s'.modifyMember i _).members[i]? = _
      rw [getElem?_modifyMember_self, bulkDeleteFailures, Option.map_map, Option.map_map]
      rfl

/-- **One deletion** does what its obstacle says. -/
theorem Attended.run_delete (h : Attended i c s) (hmode : c.config.mode = .readWrite)
    (hname : c.registry.wireName K = .ok type) (hk : s.store.resources.Keyed)
    (hkey : Key.of w.metadata = ⟨c.resolve (some w.metadata.ns), type, w.metadata.id⟩)
    (hheld : s.store.resources.get? (.of w.metadata) = some w) : ∃ s',
    run i (c.delete K w.metadata.id (some w.metadata.ns)) s =
        (answerOf (obstacle? K s.store w), s') ∧
      Swept K i c s [w] (s'.noteObstacle i (obstacle? K s.store w)) := by
  have hgate : c.delete K w.metadata.id (some w.metadata.ns) =
      if w.metadata.id.isEmpty then Plan.fail (Client.emptyId K)
      else Plan.request (.destroy (.of w.metadata)) := by
    rw [Client.delete, Client.wireName_bind_ok hname, Client.refuseWrite_readWrite hmode, hkey]
    rfl
  rw [hgate]
  cases hid : w.metadata.id.isEmpty with
  | true =>
    have hobstacle : obstacle? K s.store w = some (Client.emptyId K) := if_pos hid
    refine ⟨s, ?_, .of_tried h rfl (fun k v => ?_) ?_ rfl⟩
    · rw [hobstacle]
      rfl
    · simp [isDeleted, hobstacle]
    · rw [hid]
      rfl
  | false =>
    obtain ⟨s', hinvoke, hs'⟩ := h.invoke (.destroy (.of w.metadata)) (undisturbed_none s) id
      fun _ => none
    obtain ⟨hanswer, hresources⟩ := handle_destroy (K := K) hk hheld hid s.reading
    refine ⟨s', ?_, .of_tried hs'.attended ?_ ?_ ?_ hs'.bulk⟩
    · show run i (Plan.request _) s = _
      rw [Plan.request, run_call, hinvoke, run_done, ← hanswer]
      cases (s.store.handle s.reading (.destroy (.of w.metadata))).1 <;> rfl
    · rw [hs'.store, Store.handle_faults]
    · rw [hs'.store]
      exact hresources
    · rw [hs'.store, hid]
      exact (Store.handle_atomic s.store s.reading (.destroy (.of w.metadata))).1.1

/-- A report of some matches and what kept each of them. -/
def reportOf (K : Kind) (s : Store) (report : DeleteReport) (ws : List WireResource) :
    DeleteReport :=
  ws.foldl (fun report w => report.record w.metadata.id (obstacle? K s w)) report

theorem reportOf_congr {s s' : Store} (h : s'.faults = s.faults) :
    reportOf K s' = reportOf K s := by
  unfold reportOf
  rw [funext (obstacle?_congr h)]

/-- **Matches are tried one after the other**, each under the key that it was listed with. -/
theorem Attended.run_deleteEach (h : Attended i c s) (hmode : c.config.mode = .readWrite)
    (hname : c.registry.wireName K = .ok type) (hk : s.store.resources.Keyed)
    (hkey : ∀ w ∈ ws, Key.of w.metadata = ⟨c.resolve (some w.metadata.ns), type, w.metadata.id⟩)
    (hheld : ∀ w ∈ ws, s.store.resources.get? (.of w.metadata) = some w) (hnodup : ws.Nodup)
    (report : DeleteReport) : ∃ s',
    run i (c.deleteEach K report (ws.map fun w => (Resource.ofWire K w).1)) s =
        (.ok (reportOf K s.store report ws), s') ∧ Swept K i c s ws s' := by
  induction ws generalizing s report with
  | nil => exact ⟨s, rfl, .nil h⟩
  | cons w ws ih =>
    obtain ⟨hnew, hnodup⟩ := List.nodup_cons.1 hnodup
    obtain ⟨s₁, hdelete, hone⟩ := h.run_delete hmode hname hk (hkey w List.mem_cons_self)
      (hheld w List.mem_cons_self)
    have hk₁ : (s₁.noteObstacle i (obstacle? K s.store w)).store.resources.Keyed :=
      fun k v hv => hk k v ((hone.resources k v).1 hv).1
    -- the others are still there, since no two matches are the same
    have hheld₁ : ∀ v ∈ ws, (s₁.noteObstacle i (obstacle? K s.store w)).store.resources.get?
        (.of v.metadata) = some v := by
      intro v hv
      refine (hone.resources _ v).2 ⟨hheld v (List.mem_cons_of_mem w hv), ?_⟩
      rintro ⟨hvw, -⟩
      exact hnew (List.mem_singleton.1 hvw ▸ hv)
    obtain ⟨s', hrest, hswept⟩ := ih hone.attended hk₁
      (fun v hv => hkey v (List.mem_cons_of_mem w hv)) hheld₁ hnodup
      (report.record w.metadata.id (obstacle? K s.store w))
    refine ⟨s', ?_, hone.cons hswept⟩
    have hreport : reportOf K s.store report (w :: ws) =
        reportOf K s.store (report.record w.metadata.id (obstacle? K s.store w)) ws := rfl
    rw [reportOf_congr hone.faults] at hrest
    rw [hreport, ← hrest, List.map_cons, Client.deleteEach, Plan.bind_eq, run_bind, run_attempt]
    have hid : (Resource.ofWire K w).1.id = w.metadata.id := rfl
    have hns : (Resource.ofWire K w).1.metadata.ns = w.metadata.ns := rfl
    rw [hid, hns, hdelete, andThen_ok]
    cases obstacle? K s.store w with
    | none => rfl
    | some e => rfl

/-- The matches that are not deleted, by their ids, and what keeps each of them. -/
def keptBack (K : Kind) (s : Store) (ws : List WireResource) : List (String × Error) :=
  ws.filterMap fun w => (obstacle? K s w).map (w.metadata.id, ·)

theorem reportOf_eq (s : Store) (report : DeleteReport) (ws : List WireResource) :
    reportOf K s report ws = ⟨report.deleted ++ (ws.filter (isDeleted K s)).map (·.metadata.id),
      report.failed.insertAll (keptBack K s ws)⟩ := by
  induction ws generalizing report with
  | nil =>
    rw [List.filter_nil, List.map_nil, List.append_nil]
    rfl
  | cons w ws ih =>
    have hrest : reportOf K s report (w :: ws) =
        reportOf K s (report.record w.metadata.id (obstacle? K s w)) ws := rfl
    rw [hrest, ih]
    cases hobstacle : obstacle? K s w with
    | none => simp [DeleteReport.record, keptBack, isDeleted, hobstacle]
    | some e =>
      simp [DeleteReport.record, keptBack, isDeleted, hobstacle, OrderedMap.insertAll]

/-- Matches in the order of their ids are told in that order. -/
theorem keptBack_increasing (s : Store)
    (h : ws.Pairwise fun a b => compare a.metadata.id b.metadata.id = .lt) :
    Increasing (keptBack K s ws) := by
  refine List.Pairwise.filterMap _ (fun a b hlt e he f hf => ?_) h
  obtain ⟨_, -, rfl⟩ := Option.map_eq_some_iff.1 he
  obtain ⟨_, -, rfl⟩ := Option.map_eq_some_iff.1 hf
  exact hlt

/-- Every match is deleted or kept back. -/
theorem length_keptBack (s : Store) (ws : List WireResource) :
    (keptBack K s ws).length = ws.countP (fun w => !isDeleted K s w) ∧
      (ws.filter (isDeleted K s)).length + (keptBack K s ws).length = ws.length := by
  have hlength : (keptBack K s ws).length = ws.countP fun w => !isDeleted K s w := by
    rw [keptBack, List.length_filterMap_eq_countP]
    refine List.countP_congr fun w _ => ?_
    cases hobstacle : obstacle? K s w <;> simp [isDeleted, hobstacle]
  refine ⟨hlength, ?_⟩
  rw [hlength, ← List.countP_eq_length_filter]
  have hsplit := List.length_eq_countP_add_countP (isDeleted K s) (l := ws)
  simp only [Bool.not_eq_true, Bool.decide_eq_false] at hsplit
  exact hsplit.symm

/-- The matches of a bulk deletion are listed before any is deleted. -/
theorem Attended.run_matches (h : Attended i c s)
    (htimely : s.latency.getD 0 < c.config.timeout.nanos)
    (hfault : s.store.fault? .list "" = none) (hname : c.registry.wireName K = .ok type)
    (hparse : Selector.parse selector = .ok sel) (ns : Option String) : ∃ s',
    run i (c.listAll K { ns, selector }) s =
        (.ok (((⟨c.resolve ns, type, selector⟩ : Selection).selected sel s.store.resources).map
          fun w => (Resource.ofWire K w).1), s') ∧
      Heard i c s none (s.store.count .list) s' := by
  have hquery : ({ ns, selector } : ListOptions).query c type =
      (⟨c.resolve ns, type, selector⟩ : Selection).listing := rfl
  have hanswer := Store.handle_listing (q := ⟨c.resolve ns, type, selector⟩) hfault hparse s.reading
  rw [← hquery] at hanswer
  exact h.run_listAll (o := { ns, selector }) (undisturbed_none s) htimely hname hanswer

/-- A match is held under its own key, in the namespace and the type that are asked for. -/
theorem held_of_mem_selected {q : Selection} {m : Held} (hm : m.Keyed)
    (hw : w ∈ q.selected sel m) :
    Key.of w.metadata = q.key w.metadata.id ∧ m.get? (.of w.metadata) = some w := by
  obtain ⟨hget, -⟩ := (mem_selected hm).1 ⟨hw, rfl⟩
  have hkey := hm _ _ hget
  exact ⟨hkey, hkey ▸ hget⟩

/-- **A bulk deletion** lists its matches and tries each of them. -/
theorem Attended.run_deleteManyDetailed (h : Attended i c s) (hk : s.store.resources.Keyed)
    (htimely : s.latency.getD 0 < c.config.timeout.nanos)
    (hfault : s.store.fault? .list "" = none) (hmode : c.config.mode = .readWrite)
    (hname : c.registry.wireName K = .ok type) (hparse : Selector.parse selector = .ok sel)
    (ns : Option String) :
    let found := (⟨c.resolve ns, type, selector⟩ : Selection).selected sel s.store.resources
    ∃ s', run i (c.deleteManyDetailed K selector ns) s =
      (.ok (reportOf K s.store .empty found), s') ∧ Swept K i c s found s' := by
  intro found
  obtain ⟨s₁, hmatches, hs₁⟩ := h.run_matches (K := K) htimely hfault hname hparse ns
  have hresources : s₁.store.resources = s.store.resources := by rw [hs₁.store]; rfl
  have hfaults : s₁.store.faults = s.store.faults := by rw [hs₁.store]; rfl
  have hheld : ∀ w ∈ found, s₁.store.resources.get? (.of w.metadata) = some w := by
    intro w hw
    rw [hresources]
    exact (held_of_mem_selected hk hw).2
  have hkeys : ∀ w ∈ found,
      Key.of w.metadata = ⟨c.resolve (some w.metadata.ns), type, w.metadata.id⟩ := by
    intro w hw
    -- the namespace of a match is resolved already
    have hkey := (held_of_mem_selected hk hw).1
    have hns : w.metadata.ns = c.resolve ns := congrArg Key.ns hkey
    rw [hkey, hns, Client.resolve_resolve]
    rfl
  have hnodup : found.Nodup := (selected_increasing hk).imp fun {a b} hlt he =>
    ne_of_compare_eq_lt hlt (congrArg (fun w : WireResource => w.metadata.id) he)
  obtain ⟨s', hrun, hswept⟩ := hs₁.attended.run_deleteEach hmode hname (K := K)
    (hresources ▸ hk) hkeys hheld hnodup .empty
  refine ⟨s', ?_, .of_listed hs₁ hswept⟩
  have hgate : c.deleteManyDetailed K selector ns =
      (c.listAll K { ns, selector }).bind (c.deleteEach K .empty) := by
    rw [Client.deleteManyDetailed, Client.wireName_bind_ok hname,
      Client.refuseWrite_readWrite hmode]
    rfl
  rw [hgate, run_bind, hmatches, andThen_ok, hrun, reportOf_congr hfaults]

/-- **Every match of a bulk deletion is accounted for exactly once**, whatever is stored and
whichever deletions are made to fail. The matches are those that are listed, in the order of their
ids; those that nothing keeps are deleted and told in that order, each of the others is told with
its reason, and nothing else is touched. -/
theorem deletion_accounts_for_matches {limit : Nat} {as : List Act}
    (hstored : s.store.resources = ((Store.empty limit).run as).resources)
    (h : Attended i c s) (htimely : s.latency.getD 0 < c.config.timeout.nanos)
    (hfault : s.store.fault? .list "" = none) (hmode : c.config.mode = .readWrite)
    (hname : c.registry.wireName K = .ok type) (hparse : Selector.parse selector = .ok sel)
    (ns : Option String) :
    let found := (⟨c.resolve ns, type, selector⟩ : Selection).selected sel s.store.resources
    let deleted := found.filter (isDeleted K s.store)
    (found.map (·.metadata.id)).Pairwise (· < ·) ∧
    ∃ report s', run i (c.deleteManyDetailed K selector ns) s = (.ok report, s') ∧
      report.deleted = deleted.map (·.metadata.id) ∧
      report.failed.toList = keptBack K s.store found ∧
      report.attempted = found.length ∧
      (∀ k w, s'.store.resources.get? k = some w ↔
        s.store.resources.get? k = some w ∧ w ∉ deleted) ∧
      s'.bulkDeleteFailures i = (s.bulkDeleteFailures i).map (· + report.failed.size) ∧
      s'.store.calls.of .destroy =
        s.store.calls.of .destroy + found.countP (fun w => !w.metadata.id.isEmpty) ∧
      (run i (c.deleteMany K selector ns) s).1 = .ok report.deleted.length ∧
      (selector = "" → (run i (c.deleteAll K ns) s).1 = .ok report.deleted.length) := by
  intro found deleted
  have hk : s.store.resources.Keyed := hstored ▸ Store.run_keyed (Store.empty_keyed limit) as
  have hincreasing : found.Pairwise fun a b => compare a.metadata.id b.metadata.id = .lt :=
    selected_increasing hk
  obtain ⟨s', hdetailed, hswept⟩ :=
    h.run_deleteManyDetailed (K := K) hk htimely hfault hmode hname hparse ns
  have hmany : (run i (c.deleteMany K selector ns) s).1 =
      .ok (reportOf K s.store .empty found).deleted.length := by
    rw [Client.deleteMany, Plan.bind_eq, run_bind, hdetailed]
    rfl
  have hreport := reportOf_eq (K := K) s.store .empty found
  have hentries : (reportOf K s.store .empty found).failed.toList = keptBack K s.store found := by
    rw [hreport]
    exact OrderedMap.insertAll_entries (m := .empty) (keptBack_increasing s.store hincreasing)
  obtain ⟨hcount, htotal⟩ := length_keptBack (K := K) s.store found
  have hsize : (reportOf K s.store .empty found).failed.size = (keptBack K s.store found).length :=
    congrArg List.length hentries
  refine ⟨?_, _, s', hdetailed, ?_, hentries, ?_, fun k w => ?_, ?_, hswept.calls, hmany, ?_⟩
  · exact List.pairwise_map.2 (hincreasing.imp compare_lt_iff_lt.1)
  · rw [hreport]
    rfl
  · rw [DeleteReport.attempted, hsize, hreport, ← htotal]
    simp [DeleteReport.empty]
  · rw [hswept.resources, List.mem_filter]
  · rw [hswept.bulk, hsize, hcount]
  · rintro rfl
    exact hmany

/-- Machines of which only one can be deleted. -/
def stubborn : List Act :=
  let machine := Store.bare "default" Kind.machine.wireType
  [.insertRaw (machine "a"), .insertRaw (machine "c"), .insertRaw (machine ""),
    .insertRaw { machine "b" with metadata := { (machine "b").metadata with finalizers := ["f"] } },
    .injectFault ⟨.destroy, "c", ⟨.unavailable, "down"⟩⟩]

/-- It is deleted, and the others are told with their reasons. -/
theorem deletion_accounts_for_stubborn :
    let s := { start 4 [writer] with store := (Store.empty 4).run stubborn }
    Attended 0 writer.client s ∧ ∃ report s',
      run 0 (writer.client.deleteManyDetailed .machine "" none) s = (.ok report, s') ∧
      report.deleted = ["a"] ∧
      report.failed.toList = [("", Client.emptyId .machine),
        ("b", .remote (pinned ⟨"default", Kind.machine.wireType, "b"⟩ ["f"])),
        ("c", .remote ⟨.unavailable, "down"⟩)] ∧
      s'.store.calls.of .destroy = 3 ∧ s'.bulkDeleteFailures 0 = some 3 := by
  intro s
  have h : Attended 0 writer.client s :=
    ⟨⟨writer, rfl, rfl, rfl, Signer.headers_signs ∅⟩, by decide, nofun⟩
  have hparse : Selector.parse "" = .ok .everything := by rfl
  obtain ⟨-, report, s', hrun, hdeleted, hfailed, -, -, hbulk, hcalls, -⟩ :=
    deletion_accounts_for_matches (K := .machine) (i := 0) (c := writer.client) (s := s) rfl h
      (by decide) rfl rfl rfl hparse none
  have hfailures : report.failed.toList = [("", Client.emptyId .machine),
      ("b", .remote (pinned ⟨"default", Kind.machine.wireType, "b"⟩ ["f"])),
      ("c", .remote ⟨.unavailable, "down"⟩)] := hfailed.trans (by rfl)
  have hsize : report.failed.size = 3 := congrArg List.length hfailures
  rw [hsize] at hbulk
  exact ⟨h, report, s', hrun, hdeleted.trans (by rfl), hfailures, hcalls.trans (by rfl),
    hbulk.trans (by rfl)⟩

end Session

end Fleet
