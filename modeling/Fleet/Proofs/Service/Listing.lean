import Fleet.Proofs.Service.Atomicity
import Fleet.Proofs.Service.Selection
import Mathlib.Data.String.Basic

/-!
# What a list answers

A list holds what is asked for, in order, and a page of it is a window on the whole.

* `SortField.Precedes`: the order of a list, `order_eq_lt_iff` that resources are compared by it.
* `ListQuery.Whole`: everything that is asked for, once each and in order.
* `ListQuery.whole_ascending`: **what is found and sorted is the whole of what is asked for.**
* `flatten_windows`: windows that follow each other make up the list.
* `Store.list_accepted_iff`: **which lists are accepted, and what they answer.**
* `Store.answers_pages`: **page after page answers the whole**, in whatever direction.
-/

namespace Fleet

/-! ### The order of a list -/

/-- A time comes before another one, and none at all before any. -/
def Earlier : Option WireTime → Option WireTime → Prop
  | none, some _ => True
  | some a, some b => a.before b = true
  | _, none => False

/-- A resource comes before another one: by a field, and by id where the field says nothing. -/
def SortField.Precedes (f : SortField) (a b : WireResource) : Prop :=
  match f with
  | .id => a.metadata.id < b.metadata.id
  | .created => Earlier a.metadata.created b.metadata.created ∨
    a.metadata.created = b.metadata.created ∧ a.metadata.id < b.metadata.id
  | .updated => Earlier a.metadata.updated b.metadata.updated ∨
    a.metadata.updated = b.metadata.updated ∧ a.metadata.id < b.metadata.id

/-- Times are compared by seconds and then by nanoseconds. -/
instance : Ord WireTime := ⟨compareLex (compareOn WireTime.seconds) (compareOn WireTime.nanos)⟩

instance : Std.TransOrd WireTime :=
  inferInstanceAs (Std.TransCmp
    (compareLex (compareOn WireTime.seconds) (compareOn WireTime.nanos)))

instance : Std.LawfulEqOrd WireTime where
  eq_of_compare {a b} h := by
    have h : compareLex (compareOn WireTime.seconds) (compareOn WireTime.nanos) a b = .eq := h
    simp only [compareLex_eq_eq, compareOn, Std.LawfulEqOrd.compare_eq_iff_eq] at h
    cases a; cases b; simp_all

theorem compareTimes_eq (a b : Option WireTime) : compareTimes a b = compare a b := by
  cases a <;> cases b <;> rfl

theorem compareTimes_eq_lt_iff {a b : Option WireTime} :
    compareTimes a b = .lt ↔ Earlier a b := by
  cases a with
  | none => cases b <;> simp [compareTimes, Earlier]
  | some a =>
    cases b with
    | none => simp [compareTimes, Earlier]
    | some b =>
      simp only [compareTimes, Earlier, WireTime.before, Ordering.then_eq_lt, compare_lt_iff_lt,
        Std.LawfulEqOrd.compare_eq_iff_eq, Bool.or_eq_true, Bool.and_eq_true, decide_eq_true_eq,
        beq_iff_eq]

theorem compareTimes_eq_eq_iff {a b : Option WireTime} : compareTimes a b = .eq ↔ a = b := by
  rw [compareTimes_eq]
  exact Std.LawfulEqOrd.compare_eq_iff_eq

/-- What a list is sorted by, before the id. -/
def SortField.compareMain (f : SortField) : WireResource → WireResource → Ordering :=
  match f with
  | .id => compareOn fun r => r.metadata.id
  | .created => compareOn fun r => r.metadata.created
  | .updated => compareOn fun r => r.metadata.updated

theorem SortField.order_eq (f : SortField) :
    f.order = compareLex f.compareMain (compareOn fun r => r.metadata.id) := by
  funext a b
  cases f <;> simp only [order, compareMain, compareLex, compareOn, compareTimes_eq]

instance (f : SortField) : Std.TransCmp f.order := by
  rw [SortField.order_eq]
  cases f <;> exact inferInstanceAs (Std.TransCmp (compareLex (compareOn _) (compareOn _)))

/-- **The order of a list** is the one that resources are compared by. -/
theorem SortField.order_eq_lt_iff {f : SortField} {a b : WireResource} :
    f.order a b = .lt ↔ f.Precedes a b := by
  cases f with
  | id => simp [order, Precedes, compare_lt_iff_lt]
  | created =>
    simp only [order, Precedes, Ordering.then_eq_lt, compareTimes_eq_lt_iff,
      compareTimes_eq_eq_iff, compare_lt_iff_lt]
  | updated =>
    simp only [order, Precedes, Ordering.then_eq_lt, compareTimes_eq_lt_iff,
      compareTimes_eq_eq_iff, compare_lt_iff_lt]

/-- The id decides where the field says nothing. -/
theorem SortField.order_ne_eq {f : SortField} {a b : WireResource}
    (h : a.metadata.id ≠ b.metadata.id) : f.order a b ≠ .eq := by
  intro he
  rw [order_eq, compareLex_eq_eq] at he
  exact h (Std.LawfulEqOrd.eq_of_compare he.2)

/-! ### The whole of what is asked for -/

/-- What the pattern of a list matches: there is none if it is not given or its text is empty, and
otherwise it is whatever the library of regular expressions says. -/
inductive PatternText : Option IdPattern → Option (String → Bool) → Prop
  | absent : PatternText none none
  | empty {p : IdPattern} (ht : p.text = "") : PatternText (some p) none
  | text {p : IdPattern} {accepts : String → Bool} (ht : p.text ≠ "")
    (hp : p.accepts? = some accepts) : PatternText (some p) (some accepts)

theorem patternOf_eq_ok_iff {p : Option IdPattern} {accepts : Option (String → Bool)} :
    patternOf p = .ok accepts ↔ PatternText p accepts := by
  constructor
  · intro h
    cases p with
    | none =>
      cases h
      exact .absent
    | some p =>
      by_cases ht : p.text = ""
      · rw [patternOf, Option.filter_some, if_neg (by simpa using ht)] at h
        cases h
        exact .empty ht
      · rw [patternOf, Option.filter_some, if_pos (by simpa using ht)] at h
        dsimp only at h
        cases hp : p.accepts? with
        | none =>
          rw [hp] at h
          cases h
        | some accepts =>
          rw [hp] at h
          cases h
          exact .text ht hp
  · rintro (_ | ht | ⟨ht, hp⟩)
    · rfl
    · rw [patternOf, Option.filter_some, if_neg (by simpa using ht)]
    · rw [patternOf, Option.filter_some, if_pos (by simpa using ht)]
      dsimp only
      rw [hp]

namespace ListQuery

variable {q : ListQuery} {f : Filters} {m : Held} {r : WireResource} {rs : List WireResource}

/-- The filters of a list can be read. -/
structure Reads (q : ListQuery) (f : Filters) : Prop where
  selector : Selector.parse q.selector = .ok f.selector
  pattern : PatternText q.idPattern f.pattern

theorem check_eq_ok_iff : q.check = .ok f ↔ q.Reads f := by
  have hselector : selectorOf q.selector = .ok f.selector ↔
      Selector.parse q.selector = .ok f.selector := by
    unfold selectorOf
    cases Selector.parse q.selector <;> simp
  have hcheck : q.check = .ok f ↔
      selectorOf q.selector = .ok f.selector ∧ patternOf q.idPattern = .ok f.pattern := by
    obtain ⟨sel, pattern⟩ := f
    unfold check
    cases selectorOf q.selector with
    | error e => simp [bind, Except.bind]
    | ok sel' =>
      cases patternOf q.idPattern with
      | error e => simp [bind, Except.bind]
      | ok pattern' => simp [bind, Except.bind, pure, Except.pure]
  rw [hcheck, hselector, patternOf_eq_ok_iff]
  exact ⟨fun h => ⟨h.1, h.2⟩, fun h => ⟨h.selector, h.pattern⟩⟩

/-- A resource is what a list asks for. -/
structure Asks (q : ListQuery) (f : Filters) (r : WireResource) : Prop where
  selector : f.selector.accepts r.metadata.labels = true
  pattern : ∀ accepts ∈ f.pattern, accepts r.metadata.id = true
  search : ∀ term ∈ q.search, r.satisfies term = true

/-- The whole of what a list asks for: the stored resources of its namespace and type that it asks
for, once each, and in strictly increasing order. -/
structure Whole (q : ListQuery) (f : Filters) (m : Held) (rs : List WireResource) : Prop where
  complete : ∀ r, r ∈ rs ↔ m.get? ⟨q.ns, q.type, r.metadata.id⟩ = some r ∧ q.Asks f r
  once : (rs.map (·.metadata.id)).Nodup
  ordered : rs.Pairwise (q.sortBy.getD .id).Precedes

/-- The namespace, type and selector of a list. -/
def selection (q : ListQuery) : Selection := ⟨q.ns, q.type, q.selector⟩

/-- What a list holds is what its selector accepts, but for what the pattern and the search terms
leave out. -/
theorem matching_eq : q.matching f m = (q.selection.selected f.selector m).filter fun r =>
    f.pattern.all (· r.metadata.id) && q.search.all r.satisfies := by
  unfold matching Selection.selected
  rw [List.filter_map, List.filter_filter]
  refine congrArg (List.map _) (List.filter_congr fun e _ => ?_)
  obtain ⟨⟨ns, type, id⟩, r⟩ := e
  dsimp only [Function.comp]
  rw [Bool.and_comm (_ && _)]
  simp only [admits, selection, Selection.key, Key.mk.injEq, and_true, Bool.beq_eq_decide_eq,
    Bool.and_assoc, Bool.decide_and]

theorem mem_matching (hm : m.Keyed) : r ∈ q.matching f m ↔
    m.get? ⟨q.ns, q.type, r.metadata.id⟩ = some r ∧ q.Asks f r := by
  have hselected : r ∈ q.selection.selected f.selector m ↔
      m.get? ⟨q.ns, q.type, r.metadata.id⟩ = some r ∧
        f.selector.accepts r.metadata.labels = true := by
    have hmem : r ∈ q.selection.selected f.selector m ∧ r.metadata.id = r.metadata.id ↔
        m.get? (q.selection.key r.metadata.id) = some r ∧
          f.selector.accepts r.metadata.labels = true := mem_selected hm
    exact ⟨fun h => hmem.1 ⟨h, rfl⟩, fun h => (hmem.2 h).1⟩
  rw [matching_eq, List.mem_filter, hselected, Bool.and_eq_true, Option.all_eq_true,
    List.all_eq_true]
  constructor
  · rintro ⟨⟨hget, hsel⟩, hpattern, hsearch⟩
    exact ⟨hget, hsel, hpattern, hsearch⟩
  · rintro ⟨hget, h⟩
    exact ⟨⟨hget, h.selector⟩, h.pattern, h.search⟩

theorem matching_increasing (hm : m.Keyed) : (q.matching f m).Pairwise fun a b =>
    compare a.metadata.id b.metadata.id = .lt := by
  rw [matching_eq]
  exact (selected_increasing hm).filter _

/-- What is found, in ascending order. -/
def ascending (q : ListQuery) (rs : List WireResource) : List WireResource :=
  match q.sortBy with
  | none => rs
  | some f => rs.mergeSort fun a b => (f.order a b).isLE

/-- A list in the direction that is asked for; without a field there is but one. -/
def turned (q : ListQuery) (rs : List WireResource) : List WireResource :=
  if q.sortBy.isSome && q.descending then rs.reverse else rs

theorem sort_eq : q.sort rs = q.turned (q.ascending rs) := by
  unfold sort turned ascending
  cases q.sortBy <;> rfl

theorem length_turned : (q.turned rs).length = rs.length := by
  unfold turned
  split
  · exact List.length_reverse
  · rfl

theorem ascending_perm : (q.ascending rs).Perm rs := by
  unfold ascending
  cases q.sortBy with
  | none => exact .refl rs
  | some f => exact List.mergeSort_perm rs _

/-- Sorting puts resources of different ids into strictly increasing order. -/
theorem ascending_pairwise
    (h : rs.Pairwise fun a b => compare a.metadata.id b.metadata.id = .lt) :
    (q.ascending rs).Pairwise (q.sortBy.getD .id).Precedes := by
  unfold ascending
  cases q.sortBy with
  | none => exact h.imp compare_lt_iff_lt.1
  | some f =>
    have hle : (rs.mergeSort fun a b => (f.order a b).isLE).Pairwise fun a b =>
        (f.order a b).isLE = true := by
      refine List.pairwise_mergeSort (fun a b c hab hbc => ?_) (fun a b => ?_) rs
      · exact Std.TransCmp.isLE_trans hab hbc
      · have hswap : f.order a b = (f.order b a).swap := Std.OrientedCmp.eq_swap
        rw [hswap]
        cases f.order b a <;> rfl
    have hne : (rs.mergeSort fun a b => (f.order a b).isLE).Pairwise fun a b =>
        a.metadata.id ≠ b.metadata.id :=
      (h.imp ne_of_compare_eq_lt).perm (List.mergeSort_perm rs _).symm fun hab => hab.symm
    -- sorting alone says no more than that nothing is out of order; the ids make it strict
    refine (hle.and hne).imp fun {a b} hab => ?_
    rw [Option.getD_some, ← SortField.order_eq_lt_iff]
    cases ho : f.order a b with
    | lt => rfl
    | eq => exact absurd ho (SortField.order_ne_eq hab.2)
    | gt =>
      have hgt := hab.1
      rw [ho] at hgt
      cases hgt

/-- **What is found and sorted is the whole of what is asked for.** -/
theorem whole_ascending (hm : m.Keyed) (q : ListQuery) (f : Filters) :
    q.Whole f m (q.ascending (q.matching f m)) := by
  have hincreasing := matching_increasing (q := q) (f := f) hm
  refine ⟨fun r => ?_, ?_, ascending_pairwise hincreasing⟩
  · rw [ascending_perm.mem_iff]
    exact mem_matching hm
  · rw [(ascending_perm.map _).nodup_iff]
    exact List.pairwise_map.2 (hincreasing.imp ne_of_compare_eq_lt)

end ListQuery

/-! ### Windows -/

section window

variable {α : Type}

/-- The window of a list that begins at an offset and is so long; zero for all the rest. -/
def window (offset limit : Nat) (l : List α) : List α :=
  l.extract offset (if limit = 0 then l.length else offset + limit)

/-- All of a list is one of its windows. -/
theorem window_zero (l : List α) : window 0 0 l = l := by
  rw [window, if_pos rfl, List.extract_eq_take_drop, Nat.sub_zero, List.drop_zero, List.take_length]

theorem ListQuery.page_eq (q : ListQuery) (rs : List WireResource) :
    q.page rs = window q.offset q.limit rs := by
  unfold page window
  rw [List.extract_eq_take_drop]
  by_cases hlimit : q.limit = 0
  · have hall : (rs.drop q.offset).length ≤ rs.length - q.offset := by rw [List.length_drop]
    rw [hlimit, if_pos rfl, List.take_of_length_le hall]
    rfl
  · rw [if_neg hlimit, Nat.add_sub_cancel_left]
    simp [hlimit]

/-- Windows that follow each other make up the list as far as they reach, also where they reach
beyond its end. -/
theorem flatten_windows_take {n : Nat} (hn : 0 < n) (l : List α) (k : Nat) :
    ((List.range k).map fun j => window (j * n) n l).flatten = l.take (k * n) := by
  induction k with
  | zero => simp
  | succ k ih =>
    have hlast : window (k * n) n l = (l.drop (k * n)).take n := by
      rw [window, if_neg (Nat.ne_of_gt hn), List.extract_eq_take_drop, Nat.add_sub_cancel_left]
    rw [List.range_succ, List.map_append, List.flatten_append, ih, List.map_singleton,
      List.flatten_singleton, hlast, Nat.succ_mul, List.take_add]

/-- **Windows that follow each other make up the list** when they reach its end. -/
theorem flatten_windows {n k : Nat} {l : List α} (hn : 0 < n) (hk : l.length ≤ k * n) :
    ((List.range k).map fun j => window (j * n) n l).flatten = l := by
  rw [flatten_windows_take hn, List.take_of_length_le hk]

end window

/-! ### Answers -/

namespace ListQuery

/-- The same list, from an offset and with a limit. -/
def paged (q : ListQuery) (offset limit : Nat) : ListQuery := { q with offset, limit }

/-- The same list, in a direction. -/
def directed (q : ListQuery) (descending : Bool) : ListQuery := { q with descending }

variable {q : ListQuery} {f : Filters}

theorem Reads.paged (h : q.Reads f) (offset limit : Nat) : (q.paged offset limit).Reads f :=
  ⟨h.selector, h.pattern⟩

theorem Reads.directed (h : q.Reads f) (descending : Bool) : (q.directed descending).Reads f :=
  ⟨h.selector, h.pattern⟩

end ListQuery

namespace Store

variable {s s' : Store} {q : ListQuery} {f : ListQuery.Filters} {rs : List WireResource}

/-- The answer to a list, by what is stored and by the faults. -/
theorem handle_list_fst (s : Store) (now : WireTime) (q : ListQuery) :
    (s.handle now (.list q)).1 =
      match s.fault? .list "" with
      | some status => .error status
      | none => q.check.map (q.select · s.resources) := by
  have hcounted : (s.count .list).fault? .list "" = s.fault? .list "" := rfl
  show ((s.count .list).answer now (.list q)).1 = _
  unfold answer
  simp only [Request.verb, Request.address, hcounted]
  cases s.fault? .list "" with
  | some status => rfl
  | none =>
    show (s.count .list).list q = _
    unfold list
    cases q.check <;> rfl

/-- A list leaves the store as it was, but for its count. -/
theorem handle_list_snd (s : Store) (now : WireTime) (q : ListQuery) :
    (s.handle now (.list q)).2 = s.count .list :=
  answer_snd_of_commit?_eq_none rfl

/-- **Which lists are accepted, and what they answer.** -/
theorem list_accepted_iff {now : WireTime} : (s.handle now (.list q)).1 = .ok rs ↔
    s.fault? .list "" = none ∧ ∃ f, q.Reads f ∧
      rs = window q.offset q.limit (q.turned (q.ascending (q.matching f s.resources))) := by
  have hselect : ∀ f, q.select f s.resources =
      window q.offset q.limit (q.turned (q.ascending (q.matching f s.resources))) := by
    intro f
    rw [ListQuery.select, ListQuery.page_eq, ListQuery.sort_eq]
  rw [handle_list_fst]
  cases s.fault? .list "" with
  | some status => simp
  | none =>
    cases hcheck : q.check with
    | error e =>
      have hnot : ∀ f, ¬q.Reads f := by
        intro f hf
        rw [ListQuery.check_eq_ok_iff.2 hf] at hcheck
        cases hcheck
      simp [Except.map, hnot]
    | ok f =>
      have honly : ∀ f', q.Reads f' ↔ f' = f := by
        intro f'
        rw [← ListQuery.check_eq_ok_iff, hcheck, Except.ok.injEq, eq_comm]
      simp [Except.map, honly, hselect, eq_comm]

/-- The answers to lists that are asked for one after the other. -/
def answers (s : Store) :
    List (WireTime × ListQuery) → List (Except Status (List WireResource))
  | [] => []
  | (now, q) :: rest =>
    (s.handle now (.list q)).1 :: (s.handle now (.list q)).2.answers rest

/-- A list leaves to the next one what it found. -/
theorem answers_eq (s : Store) (qs : List (WireTime × ListQuery)) :
    s.answers qs = qs.map fun e => (s.handle e.1 (.list e.2)).1 := by
  have hcount : ∀ (s : Store) (now : WireTime) (q : ListQuery),
      ((s.count .list).handle now (.list q)).1 = (s.handle now (.list q)).1 := by
    intro s now q
    rw [handle_list_fst, handle_list_fst]
    rfl
  induction qs generalizing s with
  | nil => rfl
  | cons e qs ih =>
    rw [answers, handle_list_snd, ih, List.map_cons]
    simp only [hcount]

/-- **Page after page answers the whole**, in whatever direction. -/
theorem answers_pages (hfault : s.fault? .list "" = none) (hf : q.Reads f) {n k : Nat}
    (hn : 0 < n) (hk : (q.matching f s.resources).length ≤ k * n) (times : Nat → WireTime) :
    ∃ pages : List (List WireResource), s.answers ((List.range k).map fun j =>
        (times j, q.paged (j * n) n)) = pages.map .ok ∧
      pages.flatten = q.turned (q.ascending (q.matching f s.resources)) := by
  have hlength : (q.turned (q.ascending (q.matching f s.resources))).length ≤ k * n := by
    rw [ListQuery.length_turned, ListQuery.ascending_perm.length_eq]
    exact hk
  refine ⟨_, ?_, flatten_windows hn hlength⟩
  rw [answers_eq, List.map_map, List.map_map]
  refine List.map_congr_left fun j _ => ?_
  exact list_accepted_iff.2 ⟨hfault, f, hf.paged (j * n) n, rfl⟩

end Store

end Fleet
