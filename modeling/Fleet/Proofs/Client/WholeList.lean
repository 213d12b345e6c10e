import Fleet.Proofs.Client.Pages
import Fleet.Session.Streams

/-!
# Whole lists

What the service answers to a list is the whole of what is asked for or a page of it, and a client
is told all of that item by item.

* `answersIn`: what a stream answers when it is asked again and again.
* `answersIn_page`: **a list that was answered yields an item for each resource**, then it ends.
* `Attended.run_list_told`: so does a list that a client opens.
* `lists_whole_by_pages`: **a list is complete, without duplicates and in order**, page by page too.
-/

namespace Fleet.Session

variable {K : Kind} {i : Nat} {c : Client} {s : Session} {type : String} {o : ListOptions}
  {rs : List WireResource}

/-- What a kept stream answers when it is asked in one session after another. -/
def answersIn : KeptStream → List Session → List Polled
  | _, [] => []
  | k, t :: ts => (t.poll k).1 :: answersIn (t.poll k).2.1 ts

/-- What is told of a resource that is next, if there is one. -/
def told (K : Kind) : Option WireResource → Polled
  | some w => .item (.resource K (Resource.ofWire K w).1)
  | none => .ended

/-- A stream that has ended answers nothing more. -/
theorem answersIn_ended (stream : Stream) (brief : Bool) (ts : List Session) :
    answersIn ⟨stream, .ended, brief⟩ ts = List.replicate ts.length .ended := by
  induction ts with
  | nil => rfl
  | cons t ts ih =>
    rw [answersIn, List.length_cons, List.replicate_succ]
    exact congrArg _ ih

/-- A list that was answered and neither was cancelled nor has expired tells the resource that is
next, and ends when there is none. -/
theorem poll_page {t : Session} {g : Guard} (hlive : g.isCancelled t.cancelled = false)
    (hexpired : g.isExpired t.now = false) (brief : Bool) :
    (∃ t', t.poll ⟨.list K i ⟨.page [], g⟩, .live, brief⟩ =
        (told K none, ⟨.list K i ⟨.page [], g⟩, .ended, brief⟩, t')) ∧
      ∀ r rs, ∃ t', t.poll ⟨.list K i ⟨.page (r :: rs), g⟩, .live, brief⟩ =
        (told K (some r), ⟨.list K i ⟨.page rs, g⟩, .live, brief⟩, t') := by
  obtain ⟨hnil, hcons⟩ := pollList_page hlive hexpired
  constructor
  · unfold poll pollLive
    dsimp only
    rw [hnil]
    exact ⟨_, rfl⟩
  · intro r rs
    unfold poll pollLive
    dsimp only
    rw [hcons]
    exact ⟨_, rfl⟩

/-- **A list that was answered yields an item for each resource**, in order, and then it ends. -/
theorem answersIn_page {g : Guard} (brief : Bool) (ts : List Session)
    (hts : ∀ t ∈ ts, g.isCancelled t.cancelled = false ∧ g.isExpired t.now = false) :
    answersIn ⟨.list K i ⟨.page rs, g⟩, .live, brief⟩ ts =
      (List.range ts.length).map fun j => told K rs[j]? := by
  induction ts generalizing rs with
  | nil => rfl
  | cons t ts ih =>
    obtain ⟨hlive, hexpired⟩ := hts t List.mem_cons_self
    have hrest : ∀ t ∈ ts, g.isCancelled t.cancelled = false ∧ g.isExpired t.now = false :=
      fun t ht => hts t (List.mem_cons_of_mem _ ht)
    obtain ⟨hnil, hcons⟩ := poll_page (K := K) (i := i) hlive hexpired brief
    rw [answersIn, List.length_cons, List.range_succ_eq_map, List.map_cons, List.map_map]
    cases rs with
    | nil =>
      obtain ⟨t', hpoll⟩ := hnil
      rw [hpoll]
      dsimp only
      rw [answersIn_ended]
      refine congrArg _ (List.ext_getElem (by simp) fun j _ _ => ?_)
      simp [told]
    | cons r rs =>
      obtain ⟨t', hpoll⟩ := hcons r rs
      rw [hpoll]
      dsimp only
      rw [ih hrest]
      rfl

/-- **A list that a client opens** tells what the store answers, one item for each resource. -/
theorem Attended.run_list_told (h : Attended i c s) (htoken : Undisturbed s o.token)
    (htimely : s.latency.getD 0 < c.config.timeout.nanos)
    (hname : c.registry.wireName K = .ok type)
    (hrs : (s.store.handle s.reading (.list (o.query c type))).1 = .ok rs) : ∃ st s',
    run i (c.list K o) s = (.ok st, s') ∧
      (run i (c.listAll K o) s).1 = .ok (rs.map fun w => (Resource.ofWire K w).1) ∧
      st.guard.isCancelled s'.cancelled = false ∧ st.guard.isExpired s'.now = false ∧
      ∀ brief ts, (∀ t ∈ ts, st.guard.isCancelled t.cancelled = false ∧
          st.guard.isExpired t.now = false) →
        answersIn ⟨.list K i st, .live, brief⟩ ts =
          (List.range ts.length).map fun j => told K rs[j]? := by
  obtain ⟨s', hlist, hs'⟩ := h.run_list htoken hname hrs
  obtain ⟨s'', hall, -⟩ := h.run_listAll htoken htimely hname hrs
  obtain ⟨hlive, hexpired⟩ := hs'.listGuard_live htimely
  exact ⟨_, s', hlist, by rw [hall], hlive, hexpired, answersIn_page⟩

/-- **A list is complete, without duplicates and in strictly increasing order, and its pages are
windows on it.** In any state that a service comes to, what an accepted list answers is its window
on the whole of what is asked for: as it is, or turned around if it is sorted by a field and
descending. Pages that follow each other make up the whole. A client that lists the same is told one
item for each resource, in the same order, whether its states can be read or not. -/
theorem lists_whole_by_pages {limit : Nat} {as : List Act} {store : Store}
    (hstored : store.resources = ((Store.empty limit).run as).resources) {now : WireTime}
    {q : ListQuery} (h : (store.handle now (.list q)).1 = .ok rs) :
    ∃ f whole, q.Reads f ∧ q.Whole f store.resources whole ∧
      rs = window q.offset q.limit (q.turned whole) ∧
      (∀ now' descending offset limit,
        (store.handle now' (.list ((q.directed descending).paged offset limit))).1 =
          .ok (window offset limit ((q.directed descending).turned whole))) ∧
      (∀ descending n k, 0 < n → whole.length ≤ k * n → ∀ times : Nat → WireTime,
        ∃ pages : List (List WireResource), store.answers ((List.range k).map fun j =>
            (times j, (q.directed descending).paged (j * n) n)) = pages.map .ok ∧
          pages.flatten = (q.directed descending).turned whole) ∧
      ∀ K i c s o type, s.store = store → Attended i c s → Undisturbed s o.token →
        s.latency.getD 0 < c.config.timeout.nanos → c.registry.wireName K = .ok type →
        ListOptions.query o c type = q → ∃ st s', run i (c.list K o) s = (.ok st, s') ∧
          (run i (c.listAll K o) s).1 = .ok (rs.map fun w => (Resource.ofWire K w).1) ∧
          st.guard.isCancelled s'.cancelled = false ∧ st.guard.isExpired s'.now = false ∧
          ∀ brief ts, (∀ t ∈ ts, st.guard.isCancelled t.cancelled = false ∧
              st.guard.isExpired t.now = false) →
            answersIn ⟨.list K i st, .live, brief⟩ ts =
              (List.range ts.length).map fun j => told K rs[j]? := by
  have hk : store.resources.Keyed := hstored ▸ Store.run_keyed (Store.empty_keyed limit) as
  obtain ⟨hfault, f, hf, hrs⟩ := Store.list_accepted_iff.1 h
  have hlength : (q.ascending (q.matching f store.resources)).length =
      (q.matching f store.resources).length := ListQuery.ascending_perm.length_eq
  refine ⟨f, _, hf, ListQuery.whole_ascending hk q f, hrs, ?_, ?_, ?_⟩
  · intro now' descending offset limit
    exact Store.list_accepted_iff.2 ⟨hfault, f, (hf.directed descending).paged offset limit, rfl⟩
  · intro descending n k hn hlen times
    rw [hlength] at hlen
    exact Store.answers_pages hfault (hf.directed descending) hn hlen times
  · rintro K i c s o type rfl hs htoken htimely hname rfl
    -- the clock of the session may read otherwise, which is nothing to a list
    have hanswer : (s.store.handle s.reading (.list (o.query c type))).1 = .ok rs :=
      Store.list_accepted_iff.2 ⟨hfault, f, hf, hrs⟩
    exact hs.run_list_told htoken htimely hname hanswer

/-- A machine that was created at some time, if that is known. -/
def machineSince (id : String) (created : Option WireTime) : WireResource :=
  let r := Store.bare "default" Kind.machine.wireType id
  { r with metadata := { r.metadata with created } }

/-- A machine with a state that cannot be read. -/
def lostMachine : WireResource := { machineSince "c" (some ⟨3, 0⟩) with spec := .text "[" }

/-- Three machines are stored as they are, and a fourth one is created. -/
def mixed : List Act :=
  [.insertRaw (machineSince "a" none), .insertRaw (machineSince "b" (some ⟨5, 0⟩)),
    .insertRaw lostMachine, .call ⟨7, 0⟩ (.create (machineSince "d" none))]

/-- The two latest machines but one. -/
def latest : ListOptions := { sortBy := some .created, descending := true, offset := 1, limit := 2 }

/-- The machines in the order of their times. -/
def mixedInOrder : List WireResource :=
  [machineSince "a" none, lostMachine, machineSince "b" (some ⟨5, 0⟩),
    Store.asCreated ⟨7, 0⟩ (machineSince "d" none)]

/-- The machines are listed by their times, in pages, and the client is told of the one that cannot
be read too. -/
theorem lists_whole_by_pages_mixed :
    let store := (Store.empty 4).run mixed
    let s := { start 4 [writer] with store }
    let q := latest.query writer.client Kind.machine.wireType
    (store.handle ⟨9, 0⟩ (.list q)).1 = .ok [machineSince "b" (some ⟨5, 0⟩), lostMachine] ∧
    mixedInOrder.Pairwise SortField.created.Precedes ∧
    (∃ pages : List (List WireResource), store.answers
        [(⟨9, 0⟩, q.paged 0 3), (⟨9, 0⟩, q.paged 3 3)] = pages.map .ok ∧
      pages.flatten = mixedInOrder.reverse) ∧
    ∃ st s', run 0 (writer.client.list .machine latest) s = (.ok st, s') ∧
      answersIn ⟨.list .machine 0 st, .live, false⟩ [s', s', s'] =
        [told .machine (some (machineSince "b" (some ⟨5, 0⟩))), told .machine (some lostMachine),
          .ended] := by
  intro store s q
  have hattended : Attended 0 writer.client s :=
    ⟨⟨writer, rfl, rfl, rfl, Signer.headers_signs ∅⟩, by decide, nofun⟩
  have hreads : q.Reads ⟨.everything, none⟩ := ⟨rfl, .absent⟩
  have hmatching : q.matching ⟨.everything, none⟩ store.resources =
      [machineSince "a" none, machineSince "b" (some ⟨5, 0⟩), lostMachine,
        Store.asCreated ⟨7, 0⟩ (machineSince "d" none)] := by rfl
  have hsorted : q.ascending (q.matching ⟨.everything, none⟩ store.resources) = mixedInOrder := by
    rw [hmatching]
    show List.mergeSort _ (fun a b => (SortField.created.order a b).isLE) = _
    simp +decide [List.mergeSort, List.MergeSort.Internal.splitInTwo]
  have hanswer : (store.handle ⟨9, 0⟩ (.list q)).1 =
      .ok [machineSince "b" (some ⟨5, 0⟩), lostMachine] :=
    Store.list_accepted_iff.2 ⟨rfl, _, hreads, by rw [hsorted]; rfl⟩
  obtain ⟨f, whole, -, hwhole, -, hwindows, hpages, hclient⟩ := lists_whole_by_pages rfl hanswer
  -- the whole is what is answered from the beginning to the end
  have hall : (store.handle ⟨9, 0⟩ (.list ((q.directed false).paged 0 0))).1 =
      .ok (window 0 0 mixedInOrder) :=
    Store.list_accepted_iff.2 ⟨rfl, _, (hreads.directed false).paged 0 0, by rw [← hsorted]; rfl⟩
  have hsame : whole = mixedInOrder := by
    have hwindow := Except.ok.inj ((hwindows ⟨9, 0⟩ false 0 0).symm.trans hall)
    rwa [window_zero, window_zero] at hwindow
  subst hsame
  obtain ⟨st, s', hlist, -, hlive, hexpired, htold⟩ := hclient .machine 0 writer.client s latest
    Kind.machine.wireType rfl hattended (undisturbed_none s) (by decide) rfl rfl
  refine ⟨hanswer, hwhole.ordered, hpages true 3 2 (by decide) (by decide) fun _ => ⟨9, 0⟩, st, s',
    hlist, ?_⟩
  have hts : ∀ t ∈ [s', s', s'], st.guard.isCancelled t.cancelled = false ∧
      st.guard.isExpired t.now = false := by
    intro t ht
    have heq : t = s' := by simpa using ht
    rw [heq]
    exact ⟨hlive, hexpired⟩
  exact htold false _ hts

end Fleet.Session
