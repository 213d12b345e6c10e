import Fleet.Proofs.Client.Decoding
import Fleet.Proofs.Service.Listing
import Fleet.Proofs.Session.Attended

/-!
# Lists that are answered at once

The service answers a list with everything that is on it, and the client reads that item by item.

* `pollList_page`, `collectFrom_page`: what such a list yields, one by one and to its end.
* `ListOptions.query`: what a client asks for.
* `Attended.run_list`: a list is opened with what the store answers.
* `Attended.run_listAll`: **all that the store answers is read**, whether it makes sense or not.
-/

namespace Fleet

/-- What a client asks for by its options. -/
def ListOptions.query (o : ListOptions) (c : Client) (type : String) : ListQuery :=
  ⟨c.resolve o.ns, type, o.selector, o.idPattern, o.offset, o.limit, o.sortBy, o.descending,
    o.search⟩

namespace Session

variable {K : Kind} {i : Nat} {c : Client} {s s' : Session} {type : String} {o : ListOptions}
  {rs : List WireResource}

/-- What a list that was answered at once yields, if it is not cancelled and does not expire. -/
theorem pollList_page {g : Guard} (hlive : g.isCancelled s.cancelled = false)
    (hexpired : g.isExpired s.now = false) :
    s.pollList ⟨.page [], g⟩ = (.ended .finished, ⟨.page [], g⟩, s) ∧
      ∀ r rs, s.pollList ⟨.page (r :: rs), g⟩ = (.item r, ⟨.page rs, g⟩, s) := by
  have hsame : s.cancelAll [] = s := rfl
  unfold pollList
  simp only [ListSource.pull, hsame, hlive, hexpired, Bool.or_self, Bool.false_eq_true, if_false]
  exact ⟨rfl, fun r rs => rfl⟩

/-- It is read to its end. -/
theorem collectFrom_page {g : Guard} (hlive : g.isCancelled s.cancelled = false)
    (hexpired : g.isExpired s.now = false) {fuel : Nat} (hfuel : rs.length < fuel)
    (acc : List WireResource) :
    collectFrom fuel acc ⟨.page rs, g⟩ s = ((acc.reverse ++ rs, .finished), s) := by
  obtain ⟨hnil, hcons⟩ := pollList_page hlive hexpired
  induction rs generalizing fuel acc with
  | nil =>
    obtain ⟨fuel, rfl⟩ := Nat.exists_eq_succ_of_ne_zero (Nat.ne_zero_of_lt hfuel)
    rw [collectFrom, hnil, List.append_nil]
  | cons r rs ih =>
    obtain ⟨fuel, rfl⟩ := Nat.exists_eq_succ_of_ne_zero (Nat.ne_zero_of_lt hfuel)
    rw [collectFrom, hcons]
    dsimp only
    rw [ih (Nat.lt_of_succ_lt_succ hfuel), List.reverse_cons, List.append_assoc]
    rfl

theorem collect_page {g : Guard} (hlive : g.isCancelled s.cancelled = false)
    (hexpired : g.isExpired s.now = false) (rs : List WireResource) :
    s.collect ⟨.page rs, g⟩ = ((rs, .finished), s) := by
  refine collectFrom_page hlive hexpired ?_ []
  show rs.length < 2 * rs.length + _ + 4
  omega

/-- What watches over a list that is opened now. -/
def listGuard (s : Session) (c : Client) (o : ListOptions) : Guard :=
  ⟨Verb.list.text, o.token, some (s.now + c.config.timeout.nanos), c.config.timeout⟩

/-- What the service accepts, the client lets pass. -/
theorem checkFilters_of_reads {q : ListQuery} {f : ListQuery.Filters} (h : q.Reads f) :
    Client.checkFilters q.selector q.idPattern = .ok () := by
  obtain ⟨hselector, hpattern⟩ := h
  unfold Client.checkFilters
  rw [hselector]
  generalize q.idPattern = pattern at hpattern ⊢
  generalize f.pattern = accepts at hpattern
  cases hpattern with
  | absent => rfl
  | empty ht =>
    rw [Option.filter_some, if_neg (by simpa using ht)]
    rfl
  | text ht hp =>
    rw [Option.filter_some, if_pos (by simpa using ht)]
    simp only [Except.mapError, bind, Except.bind, hp, Option.isSome_some, if_true]
    rfl

/-- **A list is opened** with what the store answers. -/
theorem Attended.run_list (h : Attended i c s) (htoken : Undisturbed s o.token)
    (hname : c.registry.wireName K = .ok type)
    (hrs : (s.store.handle s.reading (.list (o.query c type))).1 = .ok rs) : ∃ s',
    run i (c.list K o) s = (.ok ⟨.page rs, s.listGuard c o⟩, s') ∧
      Heard i c s o.token (s.store.count .list) s' := by
  obtain ⟨-, f, hf, -⟩ := Store.list_accepted_iff.1 hrs
  have hcheck : Client.checkFilters o.selector o.idPattern = .ok () :=
    checkFilters_of_reads (q := o.query c type) hf
  obtain ⟨s', hinvoke, hs'⟩ :=
    h.invoke (.list (o.query c type)) htoken ListSource.page scriptedList
  rw [hrs] at hinvoke
  rw [Store.handle_list_snd] at hs'
  refine ⟨s', ?_, hs'⟩
  have hopen : run i (.openList (o.query c type) o.token .done) s =
      (.ok (.page rs, s.now + c.config.timeout.nanos), s') := hinvoke
  unfold Client.list
  simp only [Client.wireName, hname, Plan.bind_eq, Plan.ofExcept_ok_bind, hcheck]
  exact (run_bind _ _ s).trans (congrArg (andThen · _) hopen)

/-- A list that was opened in time is live when it has been answered. -/
theorem Heard.listGuard_live {store : Store} (h : Heard i c s o.token store s')
    (htimely : s.latency.getD 0 < c.config.timeout.nanos) :
    (s.listGuard c o).isCancelled s'.cancelled = false ∧
      (s.listGuard c o).isExpired s'.now = false := by
  refine ⟨h.live, ?_⟩
  show decide (s.now + c.config.timeout.nanos ≤ s'.now) = false
  rw [decide_eq_false_iff_not, Nat.not_le]
  exact Nat.lt_of_le_of_lt h.now (Nat.add_lt_add_left htimely _)

/-- What was lost in reading is counted, and nothing else. -/
theorem Heard.decoded {store : Store} {token : Option Token} (h : Heard i c s token store s')
    (ws : List WireResource) : Heard i c s token store
      (ws.foldl (fun s w => s.note i (.lostStates (Resource.ofWire K w).2)) s') := by
  induction ws generalizing s' with
  | nil => exact h
  | cons w ws ih =>
    have hbulk : (s'.note i (.lostStates (Resource.ofWire K w).2)).bulkDeleteFailures i =
        s'.bulkDeleteFailures i := bulkDeleteFailures_modifyMember fun _ => rfl
    exact ih ⟨h.attended.modifyMember fun _ => ⟨rfl, rfl, rfl⟩, h.store, h.clock, h.readings,
      h.latency, h.live, h.now, hbulk.trans h.bulk⟩

/-- **All that the store answers is read**, whether it makes sense or not. -/
theorem Attended.run_listAll (h : Attended i c s) (htoken : Undisturbed s o.token)
    (htimely : s.latency.getD 0 < c.config.timeout.nanos)
    (hname : c.registry.wireName K = .ok type)
    (hrs : (s.store.handle s.reading (.list (o.query c type))).1 = .ok rs) : ∃ s',
    run i (c.listAll K o) s = (.ok (rs.map fun w => (Resource.ofWire K w).1), s') ∧
      Heard i c s o.token (s.store.count .list) s' := by
  obtain ⟨s₁, hlist, hs₁⟩ := h.run_list htoken hname hrs
  obtain ⟨hlive, hexpired⟩ := hs₁.listGuard_live htimely
  refine ⟨_, ?_, hs₁.decoded (K := K) rs⟩
  unfold Client.listAll
  rw [Plan.bind_eq, run_bind, hlist, andThen_ok, Plan.bind_eq, run_bind]
  rw [run_collect, collect_page hlive hexpired, run_done, andThen_ok]
  dsimp only
  rw [Plan.bind_eq, run_bind, run_decodeAll, andThen_ok]
  rfl

end Session

end Fleet
