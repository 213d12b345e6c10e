import Fleet.Proofs.Client.Pages
import Fleet.Proofs.Selector.Balance
import Fleet.Proofs.Selector.RoundTrip

/-!
# Commas as conjunction

* `Selector.readTerms_append`: pieces are read from left to right.
* `Selector.parse_joined_iff`: **two selectors with a comma between them** are read exactly if each
  of them is, as the terms of the one and then of the other.
* `ListQuery.matching_joined`: what such a selector finds is what both of them find.
* `ListQuery.ascending_filter`: what is left out of a list is left out of the sorted list.
* `Session.comma_is_conjunction`: **a list by the joined selector is the intersection** of the lists
  by the two.
-/

namespace Fleet

namespace Selector

variable {x y : String} {s s₁ s₂ : Selector} {ts : List Term} {ps : List (List Char)}

/-- Pieces are read from left to right. -/
theorem readTerms_append (ps qs : List (List Char)) :
    readTerms (ps ++ qs) = (do return (← readTerms ps) ++ (← readTerms qs)) := by
  induction ps with
  | nil =>
    show readTerms qs = (do return [] ++ (← readTerms qs))
    cases readTerms qs <;> rfl
  | cons p ps ih =>
    rw [List.cons_append]
    by_cases hblank : Text.trim p = []
    · rw [readTerms_blank hblank, readTerms_blank hblank, ih]
    · rw [readTerms_cons hblank, readTerms_cons hblank, ih]
      cases readTerm (Text.trim p) with
      | error fault => rfl
      | ok t =>
        cases readTerms ps with
        | error fault => rfl
        | ok rest => cases readTerms qs <;> rfl

/-- The terms of two lists of pieces. -/
theorem readTerms_append_iff {qs : List (List Char)} : readTerms (ps ++ qs) = .ok ts ↔
    ∃ us vs, readTerms ps = .ok us ∧ readTerms qs = .ok vs ∧ ts = us ++ vs := by
  rw [readTerms_append]
  cases readTerms ps with
  | error fault => simp [bind, Except.bind]
  | ok us =>
    cases readTerms qs with
    | error fault => simp [bind, Except.bind]
    | ok vs => simp [bind, Except.bind, pure, Except.pure, eq_comm]

/-- **Two selectors with a comma between them** are read exactly if each of them is, as the terms of
the one and then of the other. -/
theorem parse_joined_iff (hx : Nested x.toList) (hy : Nested y.toList) :
    parse (x ++ "," ++ y) = .ok s ↔ ∃ s₁ s₂, parse x = .ok s₁ ∧ parse y = .ok s₂ ∧
      s.terms = s₁.terms ++ s₂.terms := by
  have htext : (x ++ "," ++ y).toList = x.toList ++ ',' :: y.toList := by
    rw [String.toList_append, String.toList_append, List.append_assoc]
    rfl
  simp only [parse_eq_ok_iff, htext, pieces?_joined hx hy]
  constructor
  · rintro ⟨ps, hpieces, hread⟩
    simp only [Option.bind_eq_bind, Option.bind_eq_some_iff, Option.pure_def,
      Option.some.injEq] at hpieces
    obtain ⟨us, hus, vs, hvs, rfl⟩ := hpieces
    obtain ⟨ts₁, ts₂, hts₁, hts₂, hterms⟩ := readTerms_append_iff.1 hread
    exact ⟨⟨ts₁⟩, ⟨ts₂⟩, ⟨us, hus, hts₁⟩, ⟨vs, hvs, hts₂⟩, hterms⟩
  · rintro ⟨⟨us⟩, ⟨vs⟩, ⟨ps, hps, hus⟩, ⟨qs, hqs, hvs⟩, hterms⟩
    refine ⟨ps ++ qs, by rw [hps, hqs]; rfl, readTerms_append_iff.2 ⟨us, vs, hus, hvs, hterms⟩⟩

/-- The terms of both selectors accept what each of them accepts. -/
theorem accepts_of_terms (h : s.terms = s₁.terms ++ s₂.terms) (labels : Labels) :
    s.accepts labels = (s₁.accepts labels && s₂.accepts labels) := by
  rw [accepts, h, List.all_append]
  rfl

end Selector

/-- A pattern matches one thing. -/
theorem PatternText.unique {p : Option IdPattern} {accepts accepts' : Option (String → Bool)}
    (h : PatternText p accepts) (h' : PatternText p accepts') : accepts = accepts' := by
  rw [← patternOf_eq_ok_iff] at h h'
  exact Except.ok.inj (h.symm.trans h')

namespace ListQuery

variable {q : ListQuery} {f f₁ f₂ : Filters} {m : Held} {r : WireResource}
  {rs rs' : List WireResource} {x y : String}

/-- The same list, by another selector. -/
def selecting (q : ListQuery) (selector : String) : ListQuery := { q with selector }

/-- No two resources come before each other. -/
theorem precedes_asymm {field : SortField} {a b : WireResource} (h : field.Precedes a b) :
    ¬field.Precedes b a := by
  rw [← SortField.order_eq_lt_iff] at h ⊢
  exact Std.OrientedCmp.not_lt_of_lt h

/-- **There is only one whole** of what a list asks for. -/
theorem Whole.unique (h : q.Whole f m rs) (h' : q.Whole f m rs') : rs = rs' := by
  have hperm : rs.Perm rs' :=
    (List.perm_ext_iff_of_nodup h.once.of_map h'.once.of_map).2 fun r =>
      (h.complete r).trans (h'.complete r).symm
  exact hperm.eq_of_pairwise (fun a b _ _ hab hba => absurd hba (precedes_asymm hab))
    h.ordered h'.ordered

/-- The filters of one list are those of two lists together. -/
structure Filters.Join (f f₁ f₂ : Filters) : Prop where
  selector : f.selector.terms = f₁.selector.terms ++ f₂.selector.terms
  left : f₁.pattern = f.pattern
  right : f₂.pattern = f.pattern

theorem Filters.Join.asks_iff (h : f.Join f₁ f₂) :
    q.Asks f r ↔ q.Asks f₁ r ∧ q.Asks f₂ r := by
  obtain ⟨hterms, hleft, hright⟩ := h
  have haccepts := Selector.accepts_of_terms hterms r.metadata.labels
  constructor
  · rintro ⟨hselector, hpattern, hsearch⟩
    rw [haccepts, Bool.and_eq_true] at hselector
    exact ⟨⟨hselector.1, hleft ▸ hpattern, hsearch⟩, ⟨hselector.2, hright ▸ hpattern, hsearch⟩⟩
  · rintro ⟨h₁, h₂⟩
    refine ⟨?_, hleft ▸ h₁.pattern, h₁.search⟩
    rw [haccepts, h₁.selector, h₂.selector, Bool.and_self]

/-- **What two lists ask for together** is what both of them hold. -/
theorem Whole.inter {l₁ l₂ : List WireResource} (hf : f.Join f₁ f₂) (h₁ : q.Whole f₁ m l₁)
    (h₂ : q.Whole f₂ m l₂) : q.Whole f m (l₁.filter (· ∈ l₂)) where
  complete r := by
    rw [List.mem_filter, decide_eq_true_iff, h₁.complete, h₂.complete, hf.asks_iff]
    tauto
  once := h₁.once.sublist (List.filter_sublist.map _)
  ordered := h₁.ordered.filter _

/-- The direction of a list is nothing to what it holds. -/
theorem turned_filter (l₁ l₂ : List WireResource) :
    q.turned (l₁.filter (· ∈ l₂)) = (q.turned l₁).filter (· ∈ q.turned l₂) := by
  unfold turned
  split
  · simp only [List.filter_reverse, List.mem_reverse]
  · rfl

/-- The filters of a list by the joined selector. -/
theorem reads_joined_iff (hx : Selector.Nested x.toList) (hy : Selector.Nested y.toList) :
    (q.selecting (x ++ "," ++ y)).Reads f ↔
      ∃ f₁ f₂, (q.selecting x).Reads f₁ ∧ (q.selecting y).Reads f₂ ∧ f.Join f₁ f₂ := by
  constructor
  · rintro ⟨hselector, hpattern⟩
    obtain ⟨s₁, s₂, hs₁, hs₂, hterms⟩ := (Selector.parse_joined_iff hx hy).1 hselector
    exact ⟨⟨s₁, f.pattern⟩, ⟨s₂, f.pattern⟩, ⟨hs₁, hpattern⟩, ⟨hs₂, hpattern⟩, hterms, rfl, rfl⟩
  · rintro ⟨f₁, f₂, h₁, h₂, hjoin⟩
    exact ⟨(Selector.parse_joined_iff hx hy).2 ⟨_, _, h₁.selector, h₂.selector, hjoin.selector⟩,
      hjoin.left ▸ h₁.pattern⟩

/-- What is found by a list, in the direction that is asked for. -/
def found (q : ListQuery) (f : Filters) (m : Held) : List WireResource :=
  q.turned (q.ascending (q.matching f m))

/-- What is found by two lists together is what both of them find. -/
theorem found_join (hm : m.Keyed) (hf : f.Join f₁ f₂) :
    q.found f m = (q.found f₁ m).filter (· ∈ q.found f₂ m) := by
  unfold found
  rw [← turned_filter]
  exact congrArg q.turned
    ((whole_ascending hm q f).unique ((whole_ascending hm q f₁).inter hf (whole_ascending hm q f₂)))

end ListQuery

namespace Store

variable {store : Store} {now : WireTime} {q : ListQuery} {x y : String} {rs : List WireResource}

/-- A list by a selector without a page answers all that is found. -/
theorem list_unpaged_iff :
    (store.handle now (.list ((q.selecting x).paged 0 0))).1 = .ok rs ↔
      store.fault? .list "" = none ∧ ∃ f, (q.selecting x).Reads f ∧
        rs = q.found f store.resources := by
  rw [list_accepted_iff]
  refine and_congr_right fun _ => exists_congr fun f => ?_
  have hreads : ((q.selecting x).paged 0 0).Reads f ↔ (q.selecting x).Reads f :=
    ⟨fun h => ⟨h.selector, h.pattern⟩, fun h => h.paged 0 0⟩
  rw [hreads, ← window_zero (q.found f store.resources)]
  rfl

/-- **A list by the joined selector** is the intersection of the lists by the two. -/
theorem list_joined_iff (hm : store.resources.Keyed) (hx : Selector.Nested x.toList)
    (hy : Selector.Nested y.toList) :
    (store.handle now (.list (q.selecting (x ++ "," ++ y)))).1 = .ok rs ↔ ∃ l₁ l₂,
      (store.handle now (.list ((q.selecting x).paged 0 0))).1 = .ok l₁ ∧
      (store.handle now (.list ((q.selecting y).paged 0 0))).1 = .ok l₂ ∧
      rs = window q.offset q.limit (l₁.filter (· ∈ l₂)) := by
  simp only [list_unpaged_iff]
  rw [list_accepted_iff]
  constructor
  · rintro ⟨hfault, f, hf, hrs⟩
    obtain ⟨f₁, f₂, hf₁, hf₂, hjoin⟩ := (ListQuery.reads_joined_iff hx hy).1 hf
    refine ⟨_, _, ⟨hfault, f₁, hf₁, rfl⟩, ⟨hfault, f₂, hf₂, rfl⟩, ?_⟩
    rw [← ListQuery.found_join hm hjoin]
    exact hrs
  · rintro ⟨l₁, l₂, ⟨hfault, f₁, hf₁, rfl⟩, ⟨-, f₂, hf₂, rfl⟩, rfl⟩
    -- both lists have the same pattern, and the terms of the one go before those of the other
    have hjoin : ListQuery.Filters.Join ⟨⟨f₁.selector.terms ++ f₂.selector.terms⟩, f₁.pattern⟩
        f₁ f₂ := ⟨rfl, rfl, hf₂.pattern.unique hf₁.pattern⟩
    refine ⟨hfault, _, (ListQuery.reads_joined_iff hx hy).2 ⟨f₁, f₂, hf₁, hf₂, hjoin⟩, ?_⟩
    rw [← ListQuery.found_join hm hjoin]
    rfl

end Store

namespace Session

open Selector

/-- **A comma is a conjunction.** Two selectors neither of which closes what it has not opened are
read together exactly if each of them is read, as the terms of the one followed by those of the
other, and accept the labels that both accept. In any state that a service comes to, a list by both
holds what is on the two lists, in their order, and a client is told that. -/
theorem comma_is_conjunction {x y : String} (hx : Nested x.toList) (hy : Nested y.toList) :
    ((∃ s, parse (x ++ "," ++ y) = .ok s) ↔ (∃ s, parse x = .ok s) ∧ ∃ s, parse y = .ok s) ∧
    (∀ s s₁ s₂, parse (x ++ "," ++ y) = .ok s → parse x = .ok s₁ → parse y = .ok s₂ →
      s.terms = s₁.terms ++ s₂.terms ∧ ∀ labels, s.accepts labels = true ↔
        s₁.accepts labels = true ∧ s₂.accepts labels = true) ∧
    ∀ limit as store, store.resources = ((Store.empty limit).run as).resources →
      ∀ (now : WireTime) (q : ListQuery),
      (∀ rs, (store.handle now (.list (q.selecting (x ++ "," ++ y)))).1 = .ok rs ↔ ∃ l₁ l₂,
        (store.handle now (.list ((q.selecting x).paged 0 0))).1 = .ok l₁ ∧
        (store.handle now (.list ((q.selecting y).paged 0 0))).1 = .ok l₂ ∧
        rs = window q.offset q.limit (l₁.filter (· ∈ l₂))) ∧
      ∀ K i c s o type l₁ l₂, s.store = store → Attended i c s → Undisturbed s o.token →
        s.latency.getD 0 < c.config.timeout.nanos → c.registry.wireName K = .ok type →
        ListOptions.query o c type = q.selecting (x ++ "," ++ y) →
        (store.handle now (.list ((q.selecting x).paged 0 0))).1 = .ok l₁ →
        (store.handle now (.list ((q.selecting y).paged 0 0))).1 = .ok l₂ →
        (run i (c.listAll K o) s).1 = .ok ((window o.offset o.limit (l₁.filter (· ∈ l₂))).map
          fun w => (Resource.ofWire K w).1) := by
  refine ⟨?_, ?_, ?_⟩
  · simp only [parse_joined_iff hx hy]
    constructor
    · rintro ⟨-, s₁, s₂, h₁, h₂, -⟩
      exact ⟨⟨s₁, h₁⟩, ⟨s₂, h₂⟩⟩
    · rintro ⟨⟨s₁, h₁⟩, ⟨s₂, h₂⟩⟩
      exact ⟨⟨s₁.terms ++ s₂.terms⟩, s₁, s₂, h₁, h₂, rfl⟩
  · intro s s₁ s₂ h h₁ h₂
    obtain ⟨t₁, t₂, ht₁, ht₂, hterms⟩ := (parse_joined_iff hx hy).1 h
    obtain rfl := Except.ok.inj (h₁.symm.trans ht₁)
    obtain rfl := Except.ok.inj (h₂.symm.trans ht₂)
    refine ⟨hterms, fun labels => ?_⟩
    rw [accepts_of_terms hterms, Bool.and_eq_true]
  · intro limit as store hstored now q
    have hm : store.resources.Keyed := hstored ▸ Store.run_keyed (Store.empty_keyed limit) as
    refine ⟨fun rs => Store.list_joined_iff hm hx hy, ?_⟩
    rintro K i c s o type l₁ l₂ rfl hs htoken htimely hname hq h₁ h₂
    have hanswer : (s.store.handle s.reading (.list (o.query c type))).1 =
        .ok (window q.offset q.limit (l₁.filter (· ∈ l₂))) := by
      rw [hq]
      refine (Store.list_joined_iff hm hx hy).2 ⟨l₁, l₂, ?_, ?_, rfl⟩
      · exact Store.list_unpaged_iff.2 (Store.list_unpaged_iff.1 h₁)
      · exact Store.list_unpaged_iff.2 (Store.list_unpaged_iff.1 h₂)
    obtain ⟨s', hall, -⟩ := hs.run_listAll htoken htimely hname hanswer
    rw [hall]
    have hoffset : o.offset = q.offset := congrArg ListQuery.offset hq
    have hlimit : o.limit = q.limit := congrArg ListQuery.limit hq
    rw [hoffset, hlimit]

/-- A machine with labels. -/
def machineWith (id : String) (labels : List (String × String)) : WireResource :=
  let r := Store.bare "default" Kind.machine.wireType id
  { r with metadata := { r.metadata with labels := .ofList labels } }

/-- A machine in production, one in development that is a draft, and another draft. -/
def drafts : List Act :=
  [.insertRaw (machineWith "a" [("env", "prod")]),
    .insertRaw (machineWith "b" [("env", "dev"), ("draft", "")]),
    .insertRaw (machineWith "c" [("draft", "")])]

/-- A comma in parentheses is none between the selectors: of two machines with such an environment
and one machine that is no draft, the client is told of that one. -/
theorem comma_is_conjunction_drafts :
    let o : ListOptions := { selector := "env in (prod,dev)" ++ "," ++ "!draft" }
    (∃ sel, parse o.selector = .ok sel ∧
      sel.terms = [.oneOf "env" ["prod", "dev"], .absent "draft"]) ∧
    (run 0 (writer.client.listAll .machine o)
        { start 4 [writer] with store := (Store.empty 4).run drafts }).1 =
      .ok [(Resource.ofWire .machine (machineWith "a" [("env", "prod")])).1] := by
  intro o
  let store := (Store.empty 4).run drafts
  let s := { start 4 [writer] with store }
  let q := o.query writer.client Kind.machine.wireType
  have hx : Nested "env in (prod,dev)".toList :=
    (exists_pieces?_iff.1 (Option.isSome_iff_exists.1 (by decide))).nested
  have hy : Nested "!draft".toList :=
    (exists_pieces?_iff.1 (Option.isSome_iff_exists.1 (by decide))).nested
  obtain ⟨hboth, hterms, hlist⟩ := comma_is_conjunction hx hy
  have hreadx : parse "env in (prod,dev)" = .ok ⟨[.oneOf "env" ["prod", "dev"]]⟩ := by decide
  have hready : parse "!draft" = .ok ⟨[.absent "draft"]⟩ := by decide
  obtain ⟨sel, hsel⟩ := hboth.2 ⟨⟨_, hreadx⟩, ⟨_, hready⟩⟩
  refine ⟨⟨sel, hsel, (hterms _ _ _ hsel hreadx hready).1⟩, ?_⟩
  have hattended : Attended 0 writer.client s :=
    ⟨⟨writer, rfl, rfl, rfl, Signer.headers_signs ∅⟩, by decide, nofun⟩
  have hfirst : (store.handle ⟨9, 0⟩ (.list ((q.selecting "env in (prod,dev)").paged 0 0))).1 =
      .ok [machineWith "a" [("env", "prod")], machineWith "b" [("env", "dev"), ("draft", "")]] :=
    Store.list_unpaged_iff.2 ⟨rfl, ⟨_, none⟩, ⟨hreadx, .absent⟩, rfl⟩
  have hsecond : (store.handle ⟨9, 0⟩ (.list ((q.selecting "!draft").paged 0 0))).1 =
      .ok [machineWith "a" [("env", "prod")]] :=
    Store.list_unpaged_iff.2 ⟨rfl, ⟨_, none⟩, ⟨hready, .absent⟩, rfl⟩
  obtain ⟨-, hclient⟩ := hlist 4 drafts store rfl ⟨9, 0⟩ q
  exact hclient .machine 0 writer.client s o Kind.machine.wireType _ _ rfl hattended
    (undisturbed_none s) (by decide) rfl rfl hfirst hsecond

end Session

end Fleet
