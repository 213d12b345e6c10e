import Fleet.Proofs.OrderedMap
import Fleet.Proofs.Service.EventLog
import Fleet.Proofs.Service.Watching

/-!
# A view of what is selected

A subscriber lists what a selector accepts and then keeps its view up to date by a watch with the
same selector.

* `Selection`: what is asked for by namespace, type and selector.
* `get?_viewOf`, `values_viewOf`: a view that is taken from a list.
* `LeftBehind`: a resource that an update took out of what is asked for, without an event that tells
  of it.
* `Mirrors.commit`: **what one commit does to a view.**
* `Mirrors.of_prompt`: a view that is kept up to date by all that a subscriber is told.
* `view_tracks_selection`: a view holds what a list returns and what was left behind.
* `moved_out_stays`: a resource that was left behind is not one that a list returns.
-/

namespace Fleet

open Subscription

/-- What is asked for by namespace, type and selector. -/
structure Selection where
  ns : String
  type : String
  selector : String

namespace Selection

/-- The list of all that is asked for, in the order of keys. -/
def listing (q : Selection) : ListQuery := ⟨q.ns, q.type, q.selector, none, 0, 0, none, false, []⟩

/-- The watch of it, from now on. -/
def watching (q : Selection) : WatchQuery := ⟨q.ns, q.type, q.selector, none, 0⟩

/-- The key of an id. -/
def key (q : Selection) (id : String) : Key := ⟨q.ns, q.type, id⟩

/-- A resource is asked for. -/
def asks (q : Selection) (sel : Selector) (r : WireResource) : Bool :=
  Key.of r.metadata = q.key r.metadata.id && sel.accepts r.metadata.labels

/-- The resources that are asked for, in the order of keys. -/
def selected (q : Selection) (sel : Selector) (m : Held) : List WireResource :=
  (m.entries.filter fun e => e.1 = q.key e.1.id && sel.accepts e.2.metadata.labels).map (·.2)

end Selection

/-- Resources by id. -/
abbrev View := OrderedMap String WireResource

/-- The view that is taken from a list. -/
def viewOf (rs : List WireResource) : View := .ofList (rs.map fun r => (r.metadata.id, r))

section viewOf

variable {q : Selection} {sel : Selector} {m : Held} {id : String} {r : WireResource}

/-- Keys of one namespace and type are in the order of their ids. -/
theorem compare_key (q : Selection) (a b : String) : compare (q.key a) (q.key b) = compare a b := by
  show Key.order _ _ = _
  simp [Key.order, compareLex, compareOn, Selection.key]

/-- The entries of the view that is taken from a list. -/
def selectedEntries (q : Selection) (sel : Selector) (m : Held) : List (String × WireResource) :=
  (m.entries.filter fun e => e.1 = q.key e.1.id && sel.accepts e.2.metadata.labels).map
    fun e => (e.1.id, e.2)

theorem selectedEntries_increasing (q : Selection) (sel : Selector) (m : Held) :
    Increasing (selectedEntries q sel m) := by
  refine List.pairwise_map.2 ?_
  refine (List.Pairwise.filter _ m.increasing).imp_of_mem fun {a b} ha hb hab => ?_
  simp only [List.mem_filter, Bool.and_eq_true, decide_eq_true_eq] at ha hb
  show compare a.1.id b.1.id = .lt
  rw [← compare_key q, ← ha.2.1, ← hb.2.1]
  exact hab

/-- Resources that are held under their keys are listed by their ids. -/
theorem map_selected (hm : m.Keyed) :
    (q.selected sel m).map (fun r => (r.metadata.id, r)) = selectedEntries q sel m := by
  rw [Selection.selected, selectedEntries, List.map_map]
  refine List.map_congr_left fun e he => ?_
  have hget := OrderedMap.get?_eq_some_iff.2 (List.mem_of_mem_filter he)
  have hid : e.2.metadata.id = e.1.id := congrArg Key.id (hm e.1 e.2 hget)
  simp [hid]

/-- They are in the order of their ids. -/
theorem selected_increasing (hm : m.Keyed) :
    (q.selected sel m).Pairwise fun a b => compare a.metadata.id b.metadata.id = .lt := by
  have hentries := selectedEntries_increasing q sel m
  rw [← map_selected hm] at hentries
  exact List.pairwise_map.1 hentries

/-- A list of resources that are held under their keys makes a view as it stands. -/
theorem viewOf_selected (hm : m.Keyed) :
    viewOf (q.selected sel m) = ⟨selectedEntries q sel m, selectedEntries_increasing q sel m⟩ := by
  rw [viewOf, map_selected hm]
  exact OrderedMap.ofList_of_increasing _

/-- What is in a view that is taken from a list. -/
theorem get?_viewOf (hm : m.Keyed) : (viewOf (q.selected sel m)).get? id = some r ↔
    m.get? (q.key id) = some r ∧ sel.accepts r.metadata.labels = true := by
  rw [viewOf_selected hm, OrderedMap.get?_eq_some_iff, OrderedMap.get?_eq_some_iff]
  show (id, r) ∈ List.map _ _ ↔ _
  simp only [List.mem_map, List.mem_filter, Bool.and_eq_true, decide_eq_true_eq, Prod.mk.injEq]
  constructor
  · rintro ⟨e, ⟨he, hkey, hsel⟩, rfl, rfl⟩
    exact ⟨hkey ▸ he, hsel⟩
  · rintro ⟨he, hsel⟩
    exact ⟨(q.key id, r), ⟨he, rfl, hsel⟩, rfl, rfl⟩

/-- The values of a view are the list that it was taken from. -/
theorem values_viewOf (hm : m.Keyed) : (viewOf (q.selected sel m)).values = q.selected sel m := by
  rw [viewOf_selected hm]
  show (selectedEntries q sel m).map (·.2) = _
  rw [selectedEntries, Selection.selected, List.map_map]
  rfl

/-- What a list returns, by the view that is taken from it. -/
theorem mem_selected (hm : m.Keyed) : r ∈ q.selected sel m ∧ r.metadata.id = id ↔
    m.get? (q.key id) = some r ∧ sel.accepts r.metadata.labels = true := by
  simp only [Selection.selected, List.mem_map, List.mem_filter, Bool.and_eq_true, decide_eq_true_eq]
  constructor
  · rintro ⟨⟨e, ⟨he, hkey, hsel⟩, rfl⟩, rfl⟩
    have hget := OrderedMap.get?_eq_some_iff.2 he
    have hid : e.2.metadata.id = e.1.id := congrArg Key.id (hm e.1 e.2 hget)
    rw [hid, ← hkey]
    exact ⟨hget, hsel⟩
  · rintro ⟨hget, hsel⟩
    have hid : r.metadata.id = id := congrArg Key.id (hm _ _ hget)
    exact ⟨⟨(q.key id, r), ⟨OrderedMap.get?_eq_some_iff.1 hget, rfl, hsel⟩, rfl⟩, hid⟩

end viewOf

/-- The list of what is asked for. -/
theorem Store.list_listing {s : Store} {q : Selection} {sel : Selector}
    (h : Selector.parse q.selector = .ok sel) :
    s.list q.listing = .ok (q.selected sel s.resources) := by
  have hselector : selectorOf q.listing.selector = .ok sel := by
    show selectorOf q.selector = .ok sel
    rw [selectorOf, h]
  have hpattern : patternOf q.listing.idPattern = .ok none := rfl
  have hmatching : q.listing.matching ⟨sel, none⟩ s.resources = q.selected sel s.resources := by
    unfold ListQuery.matching Selection.selected
    refine congrArg (List.map _) (List.filter_congr fun e _ => ?_)
    obtain ⟨⟨ns, type, id⟩, r⟩ := e
    simp [ListQuery.admits, Selection.listing, Selection.key, Bool.beq_eq_decide_eq]
  have hselect : q.listing.select ⟨sel, none⟩ s.resources = q.selected sel s.resources := by
    rw [← hmatching]
    rfl
  simp only [list, ListQuery.check, hselector, hpattern, bind, Except.bind, pure, Except.pure,
    hselect]

theorem Store.handle_listing {s : Store} {q : Selection} {sel : Selector}
    (hfault : s.fault? .list "" = none) (h : Selector.parse q.selector = .ok sel) (now : WireTime) :
    (s.handle now (.list q.listing)).1 = .ok (q.selected sel s.resources) := by
  have hcounted : (s.count .list).fault? .list "" = none := hfault
  rw [handle, answer]
  simp only [Request.verb, Request.address, hcounted]
  exact list_listing (s := s.count .list) h

/-- The watch of what is asked for. -/
theorem Store.watch_watching {s : Store} {q : Selection} {sel : Selector}
    (h : Selector.parse q.selector = .ok sel) :
    s.watch q.watching = .ok (.start s q.watching sel) := by
  have hselector : selectorOf q.watching.selector = .ok sel := by
    show selectorOf q.selector = .ok sel
    rw [selectorOf, h]
  simp only [watch, hselector, bind, Except.bind, pure, Except.pure]

/-- A list that succeeds returns what is asked for. -/
theorem Store.list_accepted {s s' : Store} {q : Selection} {now : WireTime} {rs : List WireResource}
    (h : s.handle now (.list q.listing) = (.ok rs, s')) :
    ∃ sel, Selector.parse q.selector = .ok sel ∧ rs = q.selected sel s.resources ∧
      s' = s.count .list := by
  have hperform := perform_of_handle h
  simp only [Request.verb, perform] at hperform
  cases hp : Selector.parse q.selector with
  | error fault =>
    have hselector : selectorOf q.listing.selector =
        .error (refused (Error.invalidArgument fault).message) := by
      show selectorOf q.selector = _
      rw [selectorOf, hp]
    simp [list, ListQuery.check, hselector, bind, Except.bind] at hperform
  | ok sel =>
    rw [list_listing hp] at hperform
    cases hperform
    exact ⟨sel, rfl, rfl, rfl⟩

/-- A watch tells of what is asked for. -/
theorem Selection.admits_watching (q : Selection) (sel : Selector) (e : WireEvent) :
    q.watching.admits sel e = q.asks sel e.resource := by
  simp [WatchQuery.admits, watching, asks, key, Key.of, Bool.beq_eq_decide_eq]

/-- The resource that an update took out of what is asked for. -/
def Selection.takenOut? (q : Selection) (sel : Selector) (e : WireEvent) : Option WireResource :=
  if e.kind = .updated ∧ q.asks sel e.resource = false then e.old.filter (q.asks sel) else none

/-- A resource of an id was left behind: an update took it out of what is asked for, and since then
no event told of the id that concerns what is asked for. -/
def LeftBehind (q : Selection) (sel : Selector) (es : List WireEvent) (id : String)
    (r : WireResource) : Prop :=
  ∃ pre e post, es = pre ++ e :: post ∧ q.takenOut? sel e = some r ∧ r.metadata.id = id ∧
    ∀ e' ∈ post, e'.resource.metadata.id = id → q.asks sel e'.resource = false

/-- A view holds what is stored and asked for, and what was left behind by the given events. -/
def Mirrors (q : Selection) (sel : Selector) (m : Held) (es : List WireEvent) (v : View) : Prop :=
  ∀ id r, v.get? id = some r ↔
    (m.get? (q.key id) = some r ∧ sel.accepts r.metadata.labels = true) ∨ LeftBehind q sel es id r

section Mirrors

variable {q : Selection} {sel : Selector} {es : List WireEvent} {e : WireEvent} {id : String}
  {r : WireResource} {x : Served} {c : Commit} {v : View} {s : Store}

theorem asks_iff : q.asks sel r = true ↔
    Key.of r.metadata = q.key r.metadata.id ∧ sel.accepts r.metadata.labels = true := by
  simp [Selection.asks]

theorem takenOut?_eq_some : q.takenOut? sel e = some r ↔
    (e.kind = .updated ∧ q.asks sel e.resource = false) ∧ e.old = some r ∧ q.asks sel r = true := by
  unfold Selection.takenOut?
  split
  · rename_i h
    rw [Option.filter_eq_some_iff]
    exact ⟨fun hr => ⟨h, hr⟩, fun hr => hr.2⟩
  · rename_i h
    exact ⟨(by intro hr; cases hr), fun hr => absurd hr.1 h⟩

/-- What one more event leaves behind. -/
theorem leftBehind_concat : LeftBehind q sel (es ++ [e]) id r ↔
    (LeftBehind q sel es id r ∧ (e.resource.metadata.id = id → q.asks sel e.resource = false)) ∨
      (q.takenOut? sel e = some r ∧ r.metadata.id = id) := by
  constructor
  · rintro ⟨pre, e', post, heq, htaken, hid, hpost⟩
    rcases List.eq_nil_or_concat' post with rfl | ⟨post, b, rfl⟩
    · -- it is this event that left the resource behind
      obtain ⟨-, hlast⟩ := List.append_inj' heq rfl
      cases hlast
      exact .inr ⟨htaken, hid⟩
    · have heq' : es ++ [e] = (pre ++ e' :: post) ++ [b] := by simpa using heq
      obtain ⟨rfl, hlast⟩ := List.append_inj' heq' rfl
      cases hlast
      refine .inl ⟨⟨pre, e', post, rfl, htaken, hid, fun b hb => hpost b ?_⟩, hpost e (by simp)⟩
      exact List.mem_append_left _ hb
  · rintro (⟨⟨pre, e', post, rfl, htaken, hid, hpost⟩, he⟩ | ⟨htaken, hid⟩)
    · refine ⟨pre, e', post ++ [e], by simp, htaken, hid, fun b hb => ?_⟩
      rcases List.mem_append.1 hb with hb | hb
      · exact hpost b hb
      · exact (List.mem_singleton.1 hb) ▸ he
    · exact ⟨es, e, [], rfl, htaken, hid, by simp⟩

/-- The event of a commit puts its result into a view. -/
theorem get?_applyTo : ((c.event s).applyTo (·.id) v).get? c.subject.metadata.id = c.result? := by
  cases c with
  | created r => exact OrderedMap.get?_insert_self v _ r
  | updated old r => exact OrderedMap.get?_insert_self v _ r
  | destroyed k r => exact OrderedMap.get?_erase_self v _

theorem get?_applyTo_of_ne (h : id ≠ c.subject.metadata.id) :
    ((c.event s).applyTo (·.id) v).get? id = v.get? id := by
  have hne : compare id c.subject.metadata.id ≠ .eq := fun he =>
    h (Std.LawfulEqOrd.eq_of_compare he)
  cases c with
  | created r => exact OrderedMap.get?_insert_of_ne v r hne
  | updated old r => exact OrderedMap.get?_insert_of_ne v r hne
  | destroyed k r => exact OrderedMap.get?_erase_of_ne v hne

/-- The resource that a commit took out of what is asked for is what its key held. -/
theorem takenOut?_event : q.takenOut? sel (c.event s) = some r ↔
    q.asks sel c.subject = false ∧ c.previous? = some r ∧ q.asks sel r = true := by
  have hkind : c.previous? = some r → c.kind = .updated := by
    cases c with
    | updated => exact fun _ => rfl
    | created | destroyed => exact fun h => by cases h
  rw [takenOut?_eq_some]
  exact ⟨fun h => ⟨h.1.2, h.2⟩, fun h => ⟨⟨hkind h.2.1, h.1⟩, h.2⟩⟩

namespace Mirrors

/-- A commit of another key changes nothing of an id. -/
theorem commit_other (h : Mirrors q sel x.before.resources es v) (hm : x.before.resources.Keyed)
    (hc : x.Commits c) (hk : c.key ≠ q.key id) :
    (if q.asks sel c.subject then (c.event x.before).applyTo (·.id) v else v).get? id = some r ↔
      (x.after.resources.get? (q.key id) = some r ∧ sel.accepts r.metadata.labels = true) ∨
        LeftBehind q sel (es ++ [c.event x.before]) id r := by
  have hkey := hc.key_subject hm
  have hchanged : x.changed? ≠ some (q.key id) := by
    rw [hc.changed]
    exact fun he => hk (Option.some.inj he)
  have hasks : c.subject.metadata.id = id → q.asks sel c.subject = false := by
    intro hid
    by_contra hne
    have ha : q.asks sel c.subject = true := by simpa using hne
    have hk' := (asks_iff.1 ha).1
    exact hk (hkey.symm.trans (hid ▸ hk'))
  have hview : (if q.asks sel c.subject then (c.event x.before).applyTo (·.id) v else v).get? id =
      v.get? id := by
    split
    · rename_i ha
      refine get?_applyTo_of_ne fun hid => ?_
      rw [hasks hid.symm] at ha
      cases ha
    · rfl
  have hleft : LeftBehind q sel (es ++ [c.event x.before]) id r ↔ LeftBehind q sel es id r := by
    rw [leftBehind_concat]
    refine ⟨fun hl => ?_, fun hl => .inl ⟨hl, hasks⟩⟩
    rcases hl with ⟨hl, -⟩ | ⟨htaken, hid⟩
    · exact hl
    · -- what was taken out was held under the key of the commit
      obtain ⟨-, hprevious, ha⟩ := takenOut?_event.1 htaken
      have hold := hc.get?_before
      rw [Commit.replaced?_of_previous? hprevious] at hold
      have hk' := (asks_iff.1 ha).1
      rw [hid, hm _ _ hold] at hk'
      exact absurd hk' hk
  rw [hview, Served.get?_after hchanged, hleft]
  exact h id r

/-- When the event of a commit concerns what is asked for, the view holds the result of the commit
under its id, and nothing of that id is left behind. -/
theorem commit_asked (hm : x.before.resources.Keyed) (hc : x.Commits c) (hk : c.key = q.key id)
    (ha : q.asks sel c.subject = true) :
    ((c.event x.before).applyTo (·.id) v).get? id = some r ↔
      (x.after.resources.get? (q.key id) = some r ∧ sel.accepts r.metadata.labels = true) ∨
        LeftBehind q sel (es ++ [c.event x.before]) id r := by
  have hid : c.subject.metadata.id = id := congrArg Key.id ((hc.key_subject hm).trans hk)
  have hafter := hc.get?_after
  rw [hk] at hafter
  have hnew : c.result? = some r → sel.accepts r.metadata.labels = true := fun hr =>
    Commit.eq_subject_of_result? hr ▸ (asks_iff.1 ha).2
  have hnone : ¬LeftBehind q sel (es ++ [c.event x.before]) id r := by
    rw [leftBehind_concat]
    rintro (⟨-, hl⟩ | ⟨htaken, -⟩)
    · exact Bool.false_ne_true ((hl hid).symm.trans ha)
    · exact Bool.false_ne_true ((takenOut?_event.1 htaken).1.symm.trans ha)
  rw [hafter, or_iff_left hnone, ← hid, get?_applyTo]
  exact ⟨fun hr => ⟨hr, hnew hr⟩, fun hr => hr.1⟩

/-- When the event of a commit does not concern what is asked for, the view holds under the id of
the commit what it held, and that is left behind. -/
theorem commit_unasked (h : Mirrors q sel x.before.resources es v)
    (hm : x.before.resources.Keyed) (hc : x.Commits c) (hk : c.key = q.key id)
    (hna : q.asks sel c.subject = false) :
    v.get? id = some r ↔
      (x.after.resources.get? (q.key id) = some r ∧ sel.accepts r.metadata.labels = true) ∨
        LeftBehind q sel (es ++ [c.event x.before]) id r := by
  have hkey : Key.of c.subject.metadata = q.key id := (hc.key_subject hm).trans hk
  have hid : c.subject.metadata.id = id := congrArg Key.id hkey
  have hbefore := hc.get?_before
  have hafter := hc.get?_after
  rw [hk] at hbefore hafter
  have hgone : ¬(c.result? = some r ∧ sel.accepts r.metadata.labels = true) := by
    rintro ⟨hr, hacc⟩
    have ha : q.asks sel c.subject = true :=
      asks_iff.2 ⟨hid.symm ▸ hkey, Commit.eq_subject_of_result? hr ▸ hacc⟩
    exact Bool.false_ne_true (hna.symm.trans ha)
  rw [hafter, or_iff_right hgone, h id r, hbefore, or_comm, leftBehind_concat, takenOut?_event]
  refine or_congr ⟨fun hl => ⟨hl, fun _ => hna⟩, fun hl => hl.1⟩ ?_
  constructor
  · rintro ⟨hr, hacc⟩
    have hkr : Key.of r.metadata = q.key id := hm _ _ (hbefore.trans hr)
    have hidr : r.metadata.id = id := congrArg Key.id hkr
    have har : q.asks sel r = true := asks_iff.2 ⟨hidr ▸ hkr, hacc⟩
    rcases Commit.previous?_of_replaced? hr with hp | hs
    · exact ⟨⟨hna, hp, har⟩, hidr⟩
    · -- a destruction concerns what it takes away
      exact absurd (hna.symm.trans (hs ▸ har)) Bool.false_ne_true
  · rintro ⟨⟨-, hp, har⟩, -⟩
    exact ⟨Commit.replaced?_of_previous? hp, (asks_iff.1 har).2⟩

/-- **What one commit does to a view** that is kept by the events that concern it. -/
theorem commit (h : Mirrors q sel x.before.resources es v) (hm : x.before.resources.Keyed)
    (hc : x.Commits c) : Mirrors q sel x.after.resources (es ++ [c.event x.before])
      (if q.asks sel c.subject then (c.event x.before).applyTo (·.id) v else v) := by
  intro id r
  by_cases hk : c.key = q.key id
  · cases ha : q.asks sel c.subject with
    | true => simpa using commit_asked hm hc hk ha
    | false => simpa using h.commit_unasked hm hc hk ha
  · exact h.commit_other hm hc hk

/-- A view that is taken from a list holds what is asked for, and nothing was left behind. -/
theorem of_list {m : Held} (hm : m.Keyed) : Mirrors q sel m [] (viewOf (q.selected sel m)) := by
  intro id r
  have hnone : ¬LeftBehind q sel [] id r := by
    rintro ⟨pre, e, post, heq, -⟩
    simp at heq
  rw [or_iff_left hnone]
  exact get?_viewOf hm

/-- A view is kept by the events that concern it, in any run of calls. -/
theorem run (hm : s.resources.Keyed) (h : Mirrors q sel s.resources [] v) (as : List Act)
    (hraw : ∀ a ∈ as, a.isRaw = false) : ∃ later, (s.run as).published = s.published ++ later ∧
      Mirrors q sel (s.run as).resources later
        ((later.filter (q.watching.admits sel)).foldl (WireEvent.applyTo (·.id)) v) := by
  have hrun : (s.run as).resources.Keyed ∧ ∃ later, (s.run as).published = s.published ++ later ∧
      Mirrors q sel (s.run as).resources later
        ((later.filter (q.watching.admits sel)).foldl (WireEvent.applyTo (·.id)) v) := by
    refine Store.run_induction (P := fun _ s' => s'.resources.Keyed ∧ ∃ later,
      s'.published = s.published ++ later ∧ Mirrors q sel s'.resources later
        ((later.filter (q.watching.admits sel)).foldl (WireEvent.applyTo (·.id)) v))
      ?_ ?_ ?_ ?_ as hraw
    · rintro _ s₁ s₂ ⟨hr, -, hp⟩ h
      rw [hr, hp]
      exact h
    · intro _ x _ h
      exact h
    · rintro _ x c hc ⟨hkeyed, later, hp, hv⟩
      refine ⟨hc.resources ▸ c.edit_keyed hkeyed, later ++ [c.event x.before], ?_, ?_⟩
      · rw [hc.published, hp, List.append_assoc]
      · have hnext := hv.commit hkeyed hc
        rw [List.filter_append, List.foldl_append]
        have hadmits : q.watching.admits sel (c.event x.before) = q.asks sel c.subject :=
          q.admits_watching sel _
        cases ha : q.asks sel c.subject with
        | true => simpa [hadmits, ha] using hnext
        | false => simpa [hadmits, ha] using hnext
    · exact ⟨hm, [], (List.append_nil _).symm, h⟩
  exact hrun.2

/-- What a view holds, by what a list would return. -/
theorem get?_iff_mem {m : Held} (h : Mirrors q sel m es v) (hm : m.Keyed) : v.get? id = some r ↔
    (r ∈ q.selected sel m ∧ r.metadata.id = id) ∨ LeftBehind q sel es id r := by
  rw [mem_selected hm]
  exact h id r

/-- As long as nothing is taken out, a view is what a list would return. -/
theorem values_of_none {m : Held} (h : Mirrors q sel m es v) (hm : m.Keyed)
    (hnone : ∀ e ∈ es, q.takenOut? sel e = none) : v.values = q.selected sel m := by
  have hview : v = viewOf (q.selected sel m) := by
    refine OrderedMap.ext_get? fun id r => ?_
    have hleft : ¬LeftBehind q sel es id r := by
      rintro ⟨pre, e, post, heq, htaken, -⟩
      rw [hnone e (by simp [heq])] at htaken
      cases htaken
    rw [h id r, or_iff_left hleft, get?_viewOf hm]
  rw [hview, values_viewOf hm]

end Mirrors

end Mirrors

/-- A subscriber that keeps up and has read everything was told all that concerns the watch. -/
theorem told_of_prompt {s : Store} {q : WatchQuery} {sel : Selector} {ts : List Turn}
    (hprompt : ∀ pre, pre <+: ts →
      (Watching.play ⟨s.count .watch, .start s q sel, []⟩ pre).unread ≤ capacity)
    (htail : q.tail = 0) :
    let w := Watching.play ⟨s.count .watch, .start s q sel, []⟩ ts
    (w.sub.next? w.store.published).1 = none →
      w.told = (w.store.published.drop s.published.length).filter (q.admits sel) := by
  intro w hread
  obtain ⟨lost, hf, hlost⟩ := (Following.start q sel s).play ts
  obtain ⟨lost', hlost', -, hall⟩ := hf.stream
  have hnone : ∀ j, lost' j = false := by
    intro j
    by_contra hj
    rcases hlost' j (by simpa using hj) with hj | hj
    · exact Watching.not_overrunIn hprompt j (hlost j hj)
    · exact Watching.not_overrunIn hprompt j ⟨ts, List.prefix_refl ts, hj⟩
  have hreplay : lastOf q.tail (s.history.filter (q.admits sel)) = [] := by
    rw [htail, lastOf, Nat.sub_zero, List.drop_length]
  rw [hall hread, hreplay, List.nil_append, kept_of_not_lost fun j _ _ => hnone j]

/-- A view that a subscriber keeps, who keeps up and has read everything, mirrors the store. -/
theorem Mirrors.of_prompt {s : Store} {q : Selection} {sel : Selector} {v : View}
    {ts : List Turn} (hm : s.resources.Keyed) (hstart : Mirrors q sel s.resources [] v)
    (hraw : ∀ a ∈ ts.filterMap Turn.act?, a.isRaw = false)
    (hprompt : ∀ pre, pre <+: ts →
      (Watching.play ⟨s.count .watch, .start s q.watching sel, []⟩ pre).unread ≤ capacity) :
    let w := Watching.play ⟨s.count .watch, .start s q.watching sel, []⟩ ts
    (w.sub.next? w.store.published).1 = none →
      w.store.resources.Keyed ∧ Mirrors q sel w.store.resources
        (w.store.published.drop s.published.length)
        (w.told.foldl (WireEvent.applyTo (·.id)) v) := by
  intro w hread
  have hstore : w.store = (s.count .watch).run (ts.filterMap Turn.act?) :=
    Watching.play_store _ ts
  have hkeyed : (s.count .watch).resources.Keyed := hm
  have hcounted : Mirrors q sel (s.count .watch).resources [] v := hstart
  -- the events that were published since then make the store and the view what they are
  obtain ⟨later, hpublished, hmirrors⟩ := Mirrors.run hkeyed hcounted _ hraw
  rw [← hstore] at hpublished hmirrors
  have hlater : w.store.published.drop s.published.length = later := by
    rw [hpublished]
    exact List.drop_left
  have htold : w.told = later.filter (q.watching.admits sel) := by
    rw [← hlater]
    exact told_of_prompt hprompt rfl hread
  rw [hlater, htold]
  exact ⟨hstore ▸ Store.run_keyed hkeyed _, hmirrors⟩

/-- **A view tracks the selection, but for what was left behind.** Take a view from a list in any
state that a service comes to, then watch with the same selector, keep up with the events and apply
each. Whatever calls are made meanwhile, the view holds exactly what the list would return now and
what an update took out of the selection that has not come back. As long as nothing is taken out, it
holds exactly what the list would return. -/
theorem view_tracks_selection (limit : Nat) (as : List Act) {now now' : WireTime} {q : Selection}
    {rs : List WireResource} {sub : Subscription} {s₁ s₂ : Store}
    (hlist : ((Store.empty limit).run as).handle now (.list q.listing) = (.ok rs, s₁))
    (hwatch : s₁.handle now' (.watch q.watching) = (.ok sub, s₂)) (ts : List Turn)
    (hraw : ∀ a ∈ ts.filterMap Turn.act?, a.isRaw = false)
    (hprompt : ∀ pre, pre <+: ts → (Watching.play ⟨s₂, sub, []⟩ pre).unread ≤ capacity) :
    let w := Watching.play ⟨s₂, sub, []⟩ ts
    (w.sub.next? w.store.published).1 = none →
      let later := w.store.published.drop s₂.published.length
      let view := w.told.foldl (WireEvent.applyTo (·.id)) (viewOf rs)
      ∃ sel rs', Selector.parse q.selector = .ok sel ∧ w.store.list q.listing = .ok rs' ∧
        (∀ id r, view.get? id = some r ↔
          (r ∈ rs' ∧ r.metadata.id = id) ∨ LeftBehind q sel later id r) ∧
        ((∀ e ∈ later, q.takenOut? sel e = none) → view.values = rs') := by
  intro w hread
  obtain ⟨sel, hsel, rfl, rfl⟩ := Store.list_accepted hlist
  obtain ⟨sel', hsel', rfl, rfl⟩ := Store.watch_accepted hwatch
  have hsame : sel' = sel := Except.ok.inj (hsel'.symm.trans hsel)
  subst hsame
  intro later view
  have hkeyed : (((Store.empty limit).run as).count .list).resources.Keyed :=
    Store.run_keyed (Store.empty_keyed limit) as
  have hlisted : Mirrors q sel' (((Store.empty limit).run as).count .list).resources [] _ :=
    Mirrors.of_list hkeyed
  obtain ⟨hnow, hmirrors⟩ := hlisted.of_prompt hkeyed hraw hprompt hread
  exact ⟨sel', _, hsel, Store.list_listing hsel, fun id r => hmirrors.get?_iff_mem hnow,
    hmirrors.values_of_none hnow⟩

/-- A machine with a label `env`. -/
def machineIn (id env : String) : WireResource :=
  let r := Store.bare "a" "Machines" id
  { r with metadata := { r.metadata with labels := .ofList [("env", env)] } }

/-- A service that stores one machine. -/
def oneMachine : Store :=
  (Store.empty 1).run [.call ⟨1, 0⟩ (.create (machineIn "m1" "prod"))]

/-- What is asked for is the machines that are labelled `env=prod`. -/
def prodSelection : Selection := ⟨"a", "Machines", "env=prod"⟩

/-- The subscriber to these machines. -/
def prodMachines : Watching :=
  ⟨(oneMachine.count .list).count .watch,
    .start (oneMachine.count .list) prodSelection.watching ⟨[.equals "env" "prod"]⟩, []⟩

/-- The list returns the machine, and the watch is accepted. -/
theorem prodMachines_opened : Selector.parse prodSelection.selector = .ok ⟨[.equals "env" "prod"]⟩ ∧
    oneMachine.handle ⟨2, 0⟩ (.list prodSelection.listing) =
      (.ok [Store.asCreated ⟨1, 0⟩ (machineIn "m1" "prod")], oneMachine.count .list) ∧
    (oneMachine.count .list).handle ⟨2, 0⟩ (.watch prodSelection.watching) =
      (.ok prodMachines.sub, prodMachines.store) := by
  have hsel : Selector.parse prodSelection.selector = .ok ⟨[.equals "env" "prod"]⟩ := by decide
  refine ⟨hsel, ?_, ?_⟩
  · show ((oneMachine.count .list).list prodSelection.listing, oneMachine.count .list) = _
    rw [Store.list_listing hsel]
    rfl
  · show (((oneMachine.count .list).count .watch).watch prodSelection.watching,
      prodMachines.store) = _
    rw [Store.watch_watching hsel]
    rfl

/-- While one selected machine is updated within the selection and another is created outside of it,
the view is what a list returns. -/
theorem view_tracks_selection_kept :
    let stored := Store.asCreated ⟨1, 0⟩ (machineIn "m1" "prod")
    let ts : List Turn := [.act (.call ⟨3, 0⟩ (.update (machineIn "m1" "prod") "1")),
      .act (.call ⟨4, 0⟩ (.create (machineIn "m2" "dev"))), .read]
    let w := prodMachines.play ts
    let view := w.told.foldl (WireEvent.applyTo (·.id)) (viewOf [stored])
    ∃ rs', w.store.list prodSelection.listing = .ok rs' ∧ view.values = rs' ∧
      rs'.map (·.metadata.version) = ["2"] := by
  intro stored ts w view
  obtain ⟨hsel, hlist, hwatch⟩ := prodMachines_opened
  have hraw : ∀ a ∈ ts.filterMap Turn.act?, a.isRaw = false := by simp [ts, Turn.act?, Act.isRaw]
  have hprompt : ∀ pre, pre <+: ts → (prodMachines.play pre).unread ≤ capacity := fun pre hpre =>
    Nat.le_trans (Watching.unread_le hpre) (by decide)
  have hread : (w.sub.next? w.store.published).1 = none := by decide
  obtain ⟨sel, rs', hsel', hnow, -, hvalues⟩ :=
    view_tracks_selection 1 _ hlist hwatch ts hraw hprompt hread
  have hsame : sel = ⟨[.equals "env" "prod"]⟩ := Except.ok.inj (hsel'.symm.trans hsel)
  have hview : view.values = rs' := hvalues (by rw [hsame]; decide)
  exact ⟨rs', hnow, hview, hview ▸ by decide⟩

/-- A view that is kept by a watch with the same selector need not be what a list returns: an update
takes the machine out of the selection, no event tells of it, and the view holds it still. -/
theorem moved_out_stays :
    ¬∀ limit as now now' q rs sub s₁ s₂ ts,
      ((Store.empty limit).run as).handle now (.list (Selection.listing q)) = (.ok rs, s₁) →
      s₁.handle now' (.watch (Selection.watching q)) = (.ok sub, s₂) →
      (∀ a ∈ ts.filterMap Turn.act?, a.isRaw = false) →
      (∀ pre, pre <+: ts → (Watching.play ⟨s₂, sub, []⟩ pre).unread ≤ capacity) →
      let w := Watching.play ⟨s₂, sub, []⟩ ts
      (w.sub.next? w.store.published).1 = none →
      let view := w.told.foldl (WireEvent.applyTo (·.id)) (viewOf rs)
      ∃ rs', w.store.list q.listing = .ok rs' ∧
        ∀ id r, view.get? id = some r ↔ r ∈ rs' ∧ r.metadata.id = id := by
  intro h
  let stored := Store.asCreated ⟨1, 0⟩ (machineIn "m1" "prod")
  let ts : List Turn := [.act (.call ⟨3, 0⟩ (.update (machineIn "m1" "dev") "1")), .read]
  let w := prodMachines.play ts
  obtain ⟨hsel, hlist, hwatch⟩ := prodMachines_opened
  have hraw : ∀ a ∈ ts.filterMap Turn.act?, a.isRaw = false := by simp [ts, Turn.act?, Act.isRaw]
  have hprompt : ∀ pre, pre <+: ts → (prodMachines.play pre).unread ≤ capacity := fun pre hpre =>
    Nat.le_trans (Watching.unread_le hpre) (by decide)
  have hread : (w.sub.next? w.store.published).1 = none := by decide
  obtain ⟨rs', hnow, hview⟩ := h 1 _ _ _ prodSelection _ _ _ _ ts hlist hwatch hraw hprompt hread
  -- the list is empty now, and the view is not
  have hempty : w.store.list prodSelection.listing = .ok [] := by
    rw [Store.list_listing hsel]
    rfl
  have hrs : rs' = [] := Except.ok.inj (hnow.symm.trans hempty)
  have hkept : (w.told.foldl (WireEvent.applyTo (·.id)) (viewOf [stored])).get? "m1" =
      some stored := by decide
  have hmem := ((hview "m1" stored).1 hkept).1
  rw [hrs] at hmem
  cases hmem

end Fleet
