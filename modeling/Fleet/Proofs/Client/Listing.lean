import Fleet.Proofs.Client.Pages
import Fleet.Proofs.Selector.Building
import Fleet.Proofs.Service.Selection
import Fleet.Proofs.Session.Reading

/-!
# Lists with a selector

A client lists what a selector accepts. What it sends is the text of the selector.

* `Listening`: a client that the service answers and whose lists do not expire while they are read.
* `run_listing_error`: a selector whose text cannot be read is refused before any call.
* `Listening.run_listing`: **a list returns what is accepted by the selector that the text is read
  as.**
* `lists_as_built_iff`: **which built selectors are listed as they were built**, or refused.
-/

namespace Fleet.Session

variable {K : Kind} {i : Nat} {c : Client} {s s' : Session} {sel sel' : Selector} {type : String}
  {ns : Option String}

/-- A client that the service answers before the deadline, so that there is time to read what it
answers. -/
structure Listening (i : Nat) (c : Client) (s : Session) : Prop extends Serving i c s where
  timely : s.latency.getD 0 < c.config.timeout.nanos

/-- What is asked for with a selector. -/
def asking (c : Client) (type : String) (ns : Option String) (sel : Selector) : Selection :=
  ⟨c.resolve ns, type, sel.text⟩

/-- The list of all that a selector accepts. -/
def listing (c : Client) (K : Kind) (ns : Option String) (sel : Selector) :
    Plan (List (Resource K)) :=
  c.listAll K (({ ns } : ListOptions).withSelector sel)

/-- A selector whose text cannot be read is refused before any call. -/
theorem run_listing_error (hname : c.registry.wireName K = .ok type) {fault : ArgumentFault}
    (hparse : Selector.parse sel.text = .error fault) (i : Nat) (s : Session) :
    run i (listing c K ns sel) s = (.error (.invalidArgument fault), s) := by
  have hcheck : Client.checkFilters sel.text none = .error (.invalidArgument fault) := by
    rw [Client.checkFilters, hparse]
    rfl
  unfold listing Client.listAll Client.list ListOptions.withSelector
  simp only [Client.wireName, hname, Plan.bind_eq, Plan.ofExcept_ok_bind, hcheck,
    Plan.ofExcept_error_bind, Plan.fail_bind, run_fail]

/-- **A list returns** what is accepted by the selector that the text is read as. -/
theorem Listening.run_listing (h : Listening i c s) (hname : c.registry.wireName K = .ok type)
    (hparse : Selector.parse sel.text = .ok sel') (ns : Option String) :
    (run i (listing c K ns sel) s).1 =
      .ok (((asking c type ns sel).selected sel' s.store.resources).map
        fun w => (Resource.ofWire K w).1) := by
  have hquery : (({ ns } : ListOptions).withSelector sel).query c type =
      (asking c type ns sel).listing := rfl
  have hfault : s.store.fault? .list "" = none := by rw [Store.fault?, h.faultless]; rfl
  have hanswer := Store.handle_listing (q := asking c type ns sel) hfault hparse s.reading
  rw [← hquery] at hanswer
  obtain ⟨s', hrun, -⟩ := h.toServing.attended.run_listAll
    (o := ({ ns } : ListOptions).withSelector sel) (undisturbed_none s) h.timely hname hanswer
  rw [listing, hrun]

/-- The list of a selector does what the selector says: it is refused before any call, or it returns
the resources of the namespace and the kind that the selector accepts, in the order of keys. -/
def ListsAsBuilt (i : Nat) (c : Client) (K : Kind) (type : String) (ns : Option String)
    (sel : Selector) (s : Session) : Prop :=
  (∃ fault, run i (listing c K ns sel) s = (.error (.invalidArgument fault), s)) ∨
    (run i (listing c K ns sel) s).1 =
      .ok (((asking c type ns sel).selected sel s.store.resources).map
        fun w => (Resource.ofWire K w).1)

/-- A resource of which only its labels matter. -/
def labelled (q : Selection) (labels : Labels) : WireResource :=
  ⟨⟨q.ns, q.type, "a", "1", "", 0, none, none, [], labels, ∅⟩, .absent, .absent⟩

/-- A session where a client finds one resource with labels. -/
def showing (c : Client) (q : Selection) (labels : Labels) : Session :=
  let s := start 0 [⟨c, .silent, .shared, .zero, []⟩]
  { s with store := s.store.insertRaw (labelled q labels) }

theorem listening_showing (htimeout : 0 < c.config.timeout.nanos)
    (hclock : c.config.timeout.seconds < 9223372036854775808) (q : Selection) (labels : Labels) :
    Listening 0 c (showing c q labels) :=
  ⟨⟨⟨_, rfl, rfl, rfl, Signer.headers_signs ∅⟩, hclock, nofun, rfl⟩, htimeout⟩

/-- One resource is listed if its labels are accepted. -/
theorem selected_showing (q : Selection) (sel : Selector) (labels : Labels) :
    q.selected sel (showing c q labels).store.resources =
      if sel.accepts labels then [labelled q labels] else [] := by
  have hentries : (showing c q labels).store.resources.entries =
      [(q.key "a", labelled q labels)] := rfl
  rw [Selection.selected, hentries]
  cases haccept : sel.accepts labels with
  | true =>
    have hasked : (labelled q labels).metadata.labels = labels := rfl
    simp [hasked, haccept, Selection.key]
  | false =>
    have hasked : (labelled q labels).metadata.labels = labels := rfl
    simp [hasked, haccept]

/-- A list that does what a selector says tells what the selector accepts. -/
theorem accepts_eq_of_listsAsBuilt (hname : c.registry.wireName K = .ok type)
    (htimeout : 0 < c.config.timeout.nanos)
    (hclock : c.config.timeout.seconds < 9223372036854775808)
    (hparse : Selector.parse sel.text = .ok sel') {labels : Labels}
    (h : ListsAsBuilt 0 c K type ns sel (showing c (asking c type ns sel) labels)) :
    sel.accepts labels = sel'.accepts labels := by
  have hrun := (listening_showing htimeout hclock (asking c type ns sel) labels).run_listing
    hname hparse ns
  rcases h with ⟨fault, herror⟩ | hlist
  · rw [herror] at hrun
    cases hrun
  · rw [hrun, selected_showing, selected_showing] at hlist
    have hlength := congrArg List.length (Except.ok.inj hlist)
    cases haccept : sel.accepts labels <;> cases haccept' : sel'.accepts labels <;>
      simp [haccept, haccept'] at hlength ⊢

/-- **Which built selectors are listed as they were built**, whatever the service holds: those that
are refused, those that are well-formed, and those that accept nothing and whose text is read as
accepting nothing. -/
theorem lists_as_built_iff (hbuilt : sel.Built) (hname : c.registry.wireName K = .ok type)
    (htimeout : 0 < c.config.timeout.nanos)
    (hclock : c.config.timeout.seconds < 9223372036854775808) :
    (∀ i s, Listening i c s → ListsAsBuilt i c K type ns sel s) ↔
      (∃ fault, Selector.parse sel.text = .error fault) ∨
      (∀ t ∈ sel.terms, t.WellFormed) ∨
      ∃ sel', Selector.parse sel.text = .ok sel' ∧
        ∀ labels, sel.accepts labels = false ∧ sel'.accepts labels = false := by
  constructor
  · intro h
    cases hparse : Selector.parse sel.text with
    | error fault => exact .inl ⟨fault, rfl⟩
    | ok sel' =>
      have hagree : ∀ labels, sel.accepts labels = sel'.accepts labels := fun labels =>
        accepts_eq_of_listsAsBuilt hname htimeout hclock hparse
          (h 0 _ (listening_showing htimeout hclock (asking c type ns sel) labels))
      by_cases hsome : ∃ labels, sel.accepts labels = true
      · obtain ⟨labels, haccept⟩ := hsome
        exact .inr (.inl (Selector.wellFormed_of_agree hbuilt hparse hagree haccept))
      · refine .inr (.inr ⟨sel', rfl, fun labels => ?_⟩)
        have hreject : sel.accepts labels = false := by
          rw [← Bool.not_eq_true]
          exact fun haccept => hsome ⟨labels, haccept⟩
        exact ⟨hreject, hagree labels ▸ hreject⟩
  · rintro (⟨fault, hparse⟩ | hwell | ⟨sel', hparse, hnothing⟩) i s hlistening
    · exact .inl ⟨fault, run_listing_error hname hparse i s⟩
    · exact .inr (hlistening.run_listing hname (Selector.parse_text_of_wellFormed hwell) ns)
    · refine .inr ?_
      have hsame : sel'.accepts = sel.accepts := funext fun labels => by
        rw [(hnothing labels).1, (hnothing labels).2]
      rw [hlistening.run_listing hname hparse ns, Selection.selected, Selection.selected, hsame]

/-- A value may hold blanks and signs of its own. -/
theorem lists_as_built_punctuated :
    ((Selector.everything.equals "app/name" "! a b==c").absent "gone").Built ∧
      ∀ i s, Listening i writer.client s → ListsAsBuilt i writer.client .machine
        Kind.machine.wireType none
        ((Selector.everything.equals "app/name" "! a b==c").absent "gone") s := by
  have hbuilt : ((Selector.everything.equals "app/name" "! a b==c").absent "gone").Built :=
    .absent "gone" (.equals "app/name" "! a b==c" .everything)
  refine ⟨hbuilt, (lists_as_built_iff hbuilt rfl (by decide) (by decide)).2 (.inr (.inl ?_))⟩
  exact Selector.wellFormed_of_parse_text (by decide)

/-- A comma in a value makes another selector of it. -/
theorem comma_read_as_term : ¬∀ (sel : Selector) (s : Session), sel.Built →
    Listening 0 writer.client s →
    ListsAsBuilt 0 writer.client .machine Kind.machine.wireType none sel s := by
  intro h
  let sel := Selector.everything.equals "env" "prod,tier"
  let labels : Labels := .ofList [("env", "prod,tier")]
  have hparse : Selector.parse sel.text = .ok ⟨[.equals "env" "prod", .present "tier"]⟩ := by decide
  have hbuilt : sel.Built := .equals "env" "prod,tier" .everything
  have hlists := h sel _ hbuilt (listening_showing (by decide) (by decide)
    (asking writer.client Kind.machine.wireType none sel) labels)
  have hagree := accepts_eq_of_listsAsBuilt rfl (by decide) (by decide) hparse hlists
  exact absurd hagree (by decide)

end Fleet.Session
