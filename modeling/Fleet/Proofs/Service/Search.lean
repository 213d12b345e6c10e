import Fleet.Proofs.Client.Conjunction
import Fleet.Proofs.Text.Case

/-!
# What a search finds

A search lower-cases the term and the texts of a resource apart from each other. Capital sigmas make
that a difference: at the end of a word they are lower-cased in a way of their own, and what ends a
word in the term may not end one in the text.

* `WireResource.satisfies_iff`: a search is one for the lower case of the term in that of a text.
* `WireResource.Shows`: a text of a resource holds the term, and the term ends the same words there.
* `WireResource.found_iff_settled`: **the terms that are found in all that holds them.**
* `search_finds_shown`: **what shows a term is found by it**, and listed by all the terms it shows.
* `sigma_missed`: a term that ends in a capital sigma within a word is missed.
-/

namespace Fleet

open Text

namespace WireResource

variable {r : WireResource} {term : String}

/-- The texts that a search looks at: the id and the values of the labels. -/
def searched (r : WireResource) : List String := r.metadata.id :: r.metadata.labels.values

/-- A search is one for the lower case of the term in the lower case of a text. -/
theorem satisfies_iff : r.satisfies term = true ↔
    ∃ text ∈ r.searched, (lower term).toList <:+: (lower text).toList := by
  simp only [satisfies, searched, Bool.or_eq_true, List.any_eq_true, occursIn_iff,
    List.exists_mem_cons_iff]

/-- A text of the resource holds the term as it is, in a place where it ends the same words as it
does alone. -/
def Shows (r : WireResource) (term : String) : Prop :=
  ∃ text ∈ r.searched, ∃ p q, text.toList = p ++ term.toList ++ q ∧ SameWordEnds p term.toList q

theorem Shows.satisfies (h : r.Shows term) : r.satisfies term = true := by
  obtain ⟨text, hmem, p, q, htext, hends⟩ := h
  refine satisfies_iff.2 ⟨text, hmem, ?_⟩
  rw [lower, lower, String.toList_ofList, String.toList_ofList, htext]
  exact hends.infix_lower

/-- A text of the resource holds the term as it is. -/
def Holds (r : WireResource) (term : String) : Prop :=
  ∃ text ∈ r.searched, term.toList <:+: text.toList

/-- A settled term is shown wherever it occurs. -/
theorem Holds.shows (h : r.Holds term) (hsettled : Settled term.toList) : r.Shows term := by
  obtain ⟨text, hmem, p, q, htext⟩ := h
  exact ⟨text, hmem, p, q, htext.symm, hsettled.sameWordEnds p q⟩

/-- **A term is found in all resources that hold it** exactly if it is settled: a resource may have
any text as its id. -/
theorem found_iff_settled :
    (∀ r : WireResource, r.Holds term → r.satisfies term = true) ↔ Settled term.toList := by
  constructor
  · intro h
    refine infix_lower_iff.1 fun text hinfix => ?_
    have hsearched : (Store.bare "" "" (String.ofList text)).searched = [String.ofList text] := rfl
    have hholds : (Store.bare "" "" (String.ofList text)).Holds term := by
      refine ⟨String.ofList text, List.mem_cons_self, ?_⟩
      rw [String.toList_ofList]
      exact hinfix
    have hfound := h _ hholds
    rw [satisfies_iff, hsearched] at hfound
    obtain ⟨text', hmem, hlower⟩ := hfound
    rw [List.mem_singleton.1 hmem, lower, lower] at hlower
    simpa only [String.toList_ofList] using hlower
  · intro hsettled r h
    exact (h.shows hsettled).satisfies

end WireResource

namespace ListQuery

variable {q : ListQuery} {f : Filters} {k : Key} {r : WireResource} {m : Held}

/-- The same list without its search terms. -/
def unsearched (q : ListQuery) : ListQuery := { q with search := [] }

/-- Search terms only leave out what does not satisfy them. -/
theorem admits_iff : q.admits f k r = true ↔
    q.unsearched.admits f k r = true ∧ ∀ term ∈ q.search, r.satisfies term = true := by
  simp [admits, unsearched]

/-- What is asked for is found. -/
theorem mem_found (hget : m.get? k = some r) (h : q.admits f k r = true) : r ∈ q.found f m := by
  have hmatching : r ∈ q.matching f m := by
    have hentry : (k, r) ∈ m.toList := OrderedMap.get?_eq_some_iff.1 hget
    exact List.mem_map.2 ⟨(k, r), List.mem_filter.2 ⟨hentry, h⟩, rfl⟩
  have hsorted : r ∈ q.ascending (q.matching f m) := ascending_perm.mem_iff.2 hmatching
  unfold found turned
  split
  · exact List.mem_reverse.2 hsorted
  · exact hsorted

end ListQuery

/-- **What shows a term is found by it.** A term is found in all resources whose id or value of a
label holds it as it is, exactly if its lower case does not depend on its place: if none of its
capital sigmas looks beyond the term, so always if it has none. Any other term is found where its
capital sigmas end words exactly if they do so in the term alone. A list whose other filters admit a
resource, and whose search terms are all shown by it, has it. -/
theorem search_finds_shown (term : String) :
    ((∀ r : WireResource, r.Holds term → r.satisfies term = true) ↔ Settled term.toList) ∧
    (capitalSigma ∉ term.toList → Settled term.toList) ∧
    (∀ r : WireResource, (r.Holds term → Settled term.toList → r.Shows term) ∧
      (r.Shows term → r.satisfies term = true)) ∧
    ∀ (s : Store) now (q : ListQuery) f k r, s.fault? .list "" = none → q.Reads f →
      s.resources.get? k = some r → q.unsearched.admits f k r = true →
      (∀ t ∈ q.search, r.Shows t) →
      ∃ rs, (s.handle now (.list (q.paged 0 0))).1 = .ok rs ∧ r ∈ rs := by
  refine ⟨WireResource.found_iff_settled, settled_of_not_mem,
    fun r => ⟨fun h hsettled => h.shows hsettled, fun h => h.satisfies⟩, ?_⟩
  intro s now q f k r hfault hreads hget hadmits hshows
  have hall : q.admits f k r = true :=
    ListQuery.admits_iff.2 ⟨hadmits, fun t ht => (hshows t ht).satisfies⟩
  refine ⟨q.found f s.resources, ?_, ListQuery.mem_found hget hall⟩
  refine Store.list_accepted_iff.2 ⟨hfault, f, hreads.paged 0 0, ?_⟩
  exact (window_zero _).symm

/-- A machine is found by the end of a word of its id. -/
theorem search_finds_shown_street :
    let r := Store.bare "a" "Machines" "ΟΔΟΣ-1"
    let s := (Store.empty 1).insertRaw r
    let q : ListQuery := ⟨"a", "Machines", "", none, 0, 0, none, false, ["ΔΟΣ"]⟩
    r.Shows "ΔΟΣ" ∧ r.satisfies "ΔΟΣ" = true ∧
      ∃ rs, (s.handle ⟨6, 0⟩ (.list (q.paged 0 0))).1 = .ok rs ∧ r ∈ rs := by
  intro r s q
  have hends : SameWordEnds ['Ο'] "ΔΟΣ".toList ['-', '1'] :=
    lowerIn_eq_lowerFrom_iff.1 (by decide +kernel)
  have hshows : r.Shows "ΔΟΣ" := ⟨"ΟΔΟΣ-1", List.mem_cons_self, _, _, rfl, hends⟩
  obtain ⟨-, -, hfound, hlisted⟩ := search_finds_shown "ΔΟΣ"
  have hstored : s.resources.get? (.of r.metadata) = some r := OrderedMap.get?_insert_self _ _ r
  refine ⟨hshows, (hfound r).2 hshows, ?_⟩
  refine hlisted s _ q ⟨⟨[]⟩, none⟩ _ r rfl ⟨rfl, .absent⟩ hstored (by decide) ?_
  intro term hterm
  cases List.mem_singleton.1 hterm
  exact hshows

/-- **A term is missed** in the middle of a word if it ends in a capital sigma: alone it ends in a
final one. -/
theorem sigma_missed :
    ¬∀ (r : WireResource) term, r.Holds term → r.satisfies term = true := by
  intro h
  have hoccurs : "ΑΣ".toList <:+: "ΑΣΒ".toList := ⟨[], ['Β'], by decide⟩
  have hfound := h (Store.bare "a" "Machines" "ΑΣΒ") "ΑΣ" ⟨_, List.mem_cons_self, hoccurs⟩
  have hmissed : (Store.bare "a" "Machines" "ΑΣΒ").satisfies "ΑΣ" = false := by decide +kernel
  rw [hmissed] at hfound
  cases hfound

end Fleet
