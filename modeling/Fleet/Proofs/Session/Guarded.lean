import Fleet.Proofs.Service.Atomicity
import Fleet.Proofs.Session.Serving
import Fleet.Proofs.Session.StreamReader
import Mathlib.Algebra.GroupWithZero.Nat

/-!
# What a guarded stream yields

The images of a prefix of what its source tells, then one error at most, and nothing after that.

* `StreamReader.Last`, `StreamReader.ClosedBy`: what is told last, and what ends a stream.
* `StreamReader.CleanPrefix`: a clean prefix, and what is counted with it.
* `StreamReader.Tells`: what a source has to tell; `tells_ofList`, `tells_ofWatch`: lists and
  scripted watches do so.
* `pollAt_list`, `pollAt_watch`: **kept lists and watches are read as any stream is.**
* `guarded_clean`: every guarded stream yields a clean prefix.
-/

namespace Fleet

namespace StreamReader

variable {σ α : Type} {R : StreamReader σ α} {a : σ} {xs : List (Moment α)} {ws : List α}
  {e : Option Ending}

/-- What the source tells beyond the delivered items: the error that ends the stream, or an item
that a cancellation has overtaken. -/
def Last : Option Ending → List (Except Error α) → Prop
  | some (.failed e), last => last = [.error e]
  | some .cancelled, last => last = [] ∨ ∃ w, last = [.ok w]
  | _, last => last = []

variable (R) in
/-- These moments begin with the one that ends the stream, if any, and it is over at all others. -/
def ClosedBy (xs : List (Moment α)) : Option Ending → Prop
  | none => xs = []
  | some e => ∃ x rest, xs = x :: rest ∧ R.Closes x e ∧ ∀ y ∈ rest, y.IsOver

namespace Course

/-- The images of the items are yielded, and then one error at most. -/
theorem yielded (h : R.Course a xs ws e) : Moment.yielded xs =
    ws.map (fun w => .ok (R.decode w).1) ++
      (e.bind R.guard.errorOf?).toList.map Except.error := by
  induction h with
  | stop a => rfl
  | item h hasked hrest ih =>
    rw [Moment.yielded_cons, h.answer, ih]
    rfl
  | wait h hasked hrest ih =>
    rw [Moment.yielded_cons, h.answer, ih]
    rfl
  | @close a x xs e h hasked hover =>
    rw [Moment.yielded_cons, h.answer, Moment.yielded_over hover]
    show _ = (R.guard.errorOf? e).toList.map Except.error
    cases R.guard.errorOf? e <;> rfl

/-- Every item is delivered that the source tells before the end; what it tells last is the error
that ends the stream, or an item that a cancellation has overtaken. -/
theorem entries (h : R.Course a xs ws e) :
    ∃ last, Moment.entries xs = ws.map .ok ++ last ∧ Last e last := by
  induction h with
  | stop a => exact ⟨[], rfl, rfl⟩
  | item h hasked hrest ih =>
    obtain ⟨last, hentries, hlast⟩ := ih
    refine ⟨last, ?_, hlast⟩
    rw [Moment.entries_cons, h.told, hentries]
    rfl
  | wait h hasked hrest ih =>
    obtain ⟨last, hentries, hlast⟩ := ih
    obtain ⟨wake, htold⟩ := h.told
    refine ⟨last, ?_, hlast⟩
    rw [Moment.entries_cons, htold, hentries]
    rfl
  | @close a x xs e h hasked hover =>
    rw [Moment.entries_cons, Moment.entries_over hover, List.append_nil]
    -- whatever was told at the end is the last
    refine ⟨_, rfl, ?_⟩
    cases h.reason with
    | cancelled hcancelled htold => rw [htold]; exact .inl rfl
    | @overtaken w hopen htold hcancelled => rw [htold]; exact .inr ⟨w, rfl⟩
    | expired hlive hdeadline hdue htold => rw [htold]; rfl
    | failed hopen htold => rw [htold]; rfl
    | finished hopen htold => rw [htold]; rfl

/-- Only a stream that was cancelled yields a cancellation, unless its source tells of one. -/
theorem verdict (h : R.Course a xs ws e)
    (hsource : ∀ operation, .error (.cancelled operation) ∉ Moment.entries xs) :
    e = some .cancelled ↔ ∃ operation, .error (.cancelled operation) ∈ Moment.yielded xs := by
  have hmem : ∀ error, .error error ∈ Moment.yielded xs ↔
      e.bind R.guard.errorOf? = some error := by
    intro error
    rw [h.yielded]
    simp
  constructor
  · rintro rfl
    exact ⟨_, (hmem _).2 rfl⟩
  · rintro ⟨operation, herror⟩
    have herror := (hmem _).1 herror
    cases e with
    | none => cases herror
    | some e =>
      cases e with
      | cancelled => rfl
      | finished | expired => cases herror
      | failed error =>
        cases herror
        obtain ⟨last, hentries, hlast⟩ := h.entries
        have hlast : last = [.error (.cancelled operation)] := hlast
        refine absurd ?_ (hsource operation)
        rw [hentries, hlast]
        exact List.mem_append_right _ (.head _)

/-- Items are delivered or awaited until something ends the stream. -/
theorem split (h : R.Course a xs ws e) : ∃ quiet closing, xs = quiet ++ closing ∧
    (∀ x ∈ quiet, (∃ w, R.Delivers x w) ∨ R.Waits x) ∧ R.ClosedBy closing e := by
  induction h with
  | stop a => exact ⟨[], [], rfl, List.forall_mem_nil _, rfl⟩
  | @item a x xs w ws e h hasked hrest ih =>
    obtain ⟨quiet, closing, rfl, hquiet, hclosing⟩ := ih
    exact ⟨x :: quiet, closing, rfl, List.forall_mem_cons.2 ⟨.inl ⟨w, h⟩, hquiet⟩, hclosing⟩
  | @wait a x xs ws e h hasked hrest ih =>
    obtain ⟨quiet, closing, rfl, hquiet, hclosing⟩ := ih
    exact ⟨x :: quiet, closing, rfl, List.forall_mem_cons.2 ⟨.inr h, hquiet⟩, hclosing⟩
  | @close a x xs e h hasked hover =>
    exact ⟨[], x :: xs, rfl, List.forall_mem_nil _, x, xs, rfl, h, hover⟩

/-- A count grows with each delivered item, which is decoded once, and with a cancellation that ends
the stream. -/
theorem growth (h : R.Course a xs ws e)
    (hmember : ∀ x ∈ xs, (x.before.members[R.member]?).isSome) (f : Metrics → Nat)
    (lost : Nat → Nat) (cancelled : Nat)
    (hlost : ∀ (m : Metrics) n, f (m.note (.lostStates n)) = f m + lost n)
    (hcancelled : ∀ m : Metrics, f (m.note .cancelledStream) = f m + cancelled) :
    Moment.growth R.member f xs = ((ws.map fun w => lost (R.decode w).2).sum +
      if e = some .cancelled then cancelled else 0 : Nat) := by
  induction h with
  | stop a => rfl
  | item h hasked hrest ih =>
    obtain ⟨hx, hxs⟩ := List.forall_mem_cons.1 hmember
    rw [Moment.growth, ih hxs, h.counts.one hx fun m => hlost m _, List.map_cons, List.sum_cons]
    omega
  | wait h hasked hrest ih =>
    rw [Moment.growth, ih (List.forall_mem_cons.1 hmember).2, h.counts.none]
    omega
  | @close a x xs e h hasked hover =>
    rw [Moment.growth, Moment.growth_over hover, Int.add_zero]
    have hcounts := h.counts
    by_cases he : e = .cancelled
    · rw [if_pos he] at hcounts
      rw [if_pos (congrArg some he), hcounts.one (List.forall_mem_cons.1 hmember).1 hcancelled]
      exact congrArg Int.ofNat (Nat.zero_add _).symm
    · rw [if_neg he] at hcounts
      rw [if_neg fun h => he (Option.some.inj h)]
      exact hcounts.none f

/-- A cancellation is counted once, if it ends the stream. -/
theorem cancelledStreams (h : R.Course a xs ws e)
    (hmember : ∀ x ∈ xs, (x.before.members[R.member]?).isSome) :
    Moment.growth R.member (·.cancelledStreams) xs = if e = some .cancelled then 1 else 0 := by
  rw [h.growth hmember (·.cancelledStreams) (fun _ => 0) 1 (fun _ _ => rfl) fun _ => rfl,
    List.map_const', List.sum_replicate_nat, Nat.mul_zero, Nat.zero_add]
  split <;> rfl

/-- The states are counted that are lost by decoding each delivered item once. -/
theorem decodeFallbacks (h : R.Course a xs ws e)
    (hmember : ∀ x ∈ xs, (x.before.members[R.member]?).isSome) :
    Moment.growth R.member (·.decodeFallbacks) xs = (ws.map fun w => (R.decode w).2).sum := by
  rw [h.growth hmember (·.decodeFallbacks) id 0 (fun _ _ => rfl) fun _ => rfl]
  simp

/-- A stream that is not cancelled, does not expire and does not fail ends when its source does. -/
theorem finished (h : R.Course a xs ws e)
    (hopen : ∀ x ∈ xs, R.IsOpen x ∧ R.guard.isCancelled x.after.cancelled = false)
    (hfailed : ∀ error, .error error ∉ Moment.entries xs)
    (hended : .ended ∈ xs.map (·.answer)) : e = some .finished := by
  induction h with
  | stop a => cases hended
  | item h hasked hrest ih =>
    refine ih (List.forall_mem_cons.1 hopen).2 (fun error herror => hfailed error ?_)
      ((List.mem_cons.1 hended).resolve_left fun hnow => by cases hnow.trans h.answer)
    rw [Moment.entries_cons]
    exact List.mem_append_right _ herror
  | wait h hasked hrest ih =>
    refine ih (List.forall_mem_cons.1 hopen).2 (fun error herror => hfailed error ?_)
      ((List.mem_cons.1 hended).resolve_left fun hnow => by cases hnow.trans h.answer)
    rw [Moment.entries_cons]
    exact List.mem_append_right _ herror
  | @close a x xs e h hasked hover =>
    obtain ⟨hx, hkept⟩ := (List.forall_mem_cons.1 hopen).1
    -- every other reason to end contradicts what was assumed
    cases h.reason with
    | cancelled hcancelled htold => exact absurd hx.live (by rw [hcancelled]; exact nofun)
    | overtaken _ htold hcancelled => exact absurd hkept (by rw [hcancelled]; exact nofun)
    | @expired due hlive hdeadline hdue htold =>
      have htimely : R.guard.deadline.any (· ≤ x.before.now) = false := hx.timely
      rw [hdeadline, Option.any_some, decide_eq_false_iff_not] at htimely
      exact absurd hdue htimely
    | @failed error _ htold =>
      refine absurd ?_ (hfailed error)
      rw [Moment.entries_cons, htold]
      exact .head _
    | finished _ htold => rfl

end Course

/-! ### Sources that have something to tell -/

variable (R) in
/-- What a source tells is what it answers somewhere. -/
theorem told_ask (state : StreamState) (a : σ) (ss : List Session) :
    ∀ x ∈ R.readFrom state a ss, ∀ p, x.told = some p → ∃ s a, p = (R.ask s a).1 := by
  induction ss generalizing state a with
  | nil => exact List.forall_mem_nil _
  | cons s ss ih =>
    exact List.forall_mem_cons.2 ⟨fun p hp => ⟨s, a, R.told_eq state a s hp⟩, ih _ _⟩

variable (R) in
/-- An error that a source tells is one that it answers somewhere. -/
theorem ask_of_mem_entries {ss : List Session} {error : Error}
    (h : .error error ∈ Moment.entries (R.read a ss)) : ∃ s a, (R.ask s a).1 = .failed error := by
  obtain ⟨x, hx, hentry⟩ := List.mem_filterMap.1 h
  obtain ⟨p, htold, hp⟩ := Option.bind_eq_some_iff.1 hentry
  obtain ⟨s, a', rfl⟩ := R.told_ask .live a ss x hx p htold
  refine ⟨s, a', ?_⟩
  cases hask : (R.ask s a').1 with
  | failed e =>
    rw [hask] at hp
    cases hp
    rfl
  | item | pending | finished =>
    rw [hask] at hp
    cases hp

variable (R) in
/-- A source that has something to tell, whenever it is asked: `left` is what it still tells where
it stands. -/
structure Tells (left : σ → List (Except Error α) → Prop) : Prop where
  next : ∀ (s : Session) (a : σ) (l : List (Except Error α)), left a l →
    ∃ l', l = (R.ask s a).1.element?.toList ++ l' ∧ left (R.ask s a).2.1 l'
  finished : ∀ (s : Session) (a : σ) (l : List (Except Error α)), left a l →
    (R.ask s a).1 = .finished → l = []

/-- A reading gets a prefix of what the source has to tell, and all of it if it ends with it. -/
theorem Course.told {left : σ → List (Except Error α) → Prop} (hleft : R.Tells left)
    (h : R.Course a xs ws e) {l : List (Except Error α)} (hl : left a l) :
    Moment.entries xs <+: l ∧ (e = some .finished → Moment.entries xs = l) := by
  induction h generalizing l with
  | stop a => exact ⟨List.nil_prefix, nofun⟩
  | @item a x xs w ws e h hasked hrest ih =>
    obtain ⟨l', rfl, hl'⟩ := hleft.next x.before a l hl
    obtain ⟨hpre, hwhole⟩ := ih hl'
    rw [Moment.entries_cons, h.told, ← hasked _ h.told]
    exact ⟨(List.prefix_append_right_inj _).2 hpre, fun he => by rw [hwhole he]; rfl⟩
  | @wait a x xs ws e h hasked hrest ih =>
    obtain ⟨wake, htold⟩ := h.told
    obtain ⟨l', rfl, hl'⟩ := hleft.next x.before a l hl
    obtain ⟨hpre, hwhole⟩ := ih hl'
    rw [Moment.entries_cons, htold, ← hasked _ htold]
    exact ⟨(List.prefix_append_right_inj _).2 hpre, fun he => by rw [hwhole he]; rfl⟩
  | @close a x xs e h hasked hover =>
    rw [Moment.entries_cons, Moment.entries_over hover, List.append_nil]
    constructor
    -- the source was not asked at the end, or it told the next entry
    · cases htold : x.told with
      | none => exact List.nil_prefix
      | some p =>
        obtain ⟨l', rfl, -⟩ := hleft.next x.before a l hl
        rw [← hasked p htold]
        exact List.prefix_append _ _
    · intro he
      cases he
      cases h.reason with
      | finished hopen htold =>
        rw [htold, hleft.finished x.before a l hl (hasked _ htold).symm]
        rfl

variable (R) in
/-- What a guarded stream yields of the items `ws` that it delivers, if it ends as `e` says. -/
structure CleanPrefix (xs : List (Moment α)) (ws : List α) (e : Option Ending) : Prop where
  /-- The images of the items in order, and then one error at most. -/
  yields : Moment.yielded xs = ws.map (fun w => .ok (R.decode w).1) ++
    (e.bind R.guard.errorOf?).toList.map Except.error
  /-- Every item is delivered that the source tells before the end. -/
  tells : ∃ last, Moment.entries xs = ws.map .ok ++ last ∧ Last e last
  /-- The last error is a cancellation exactly if the stream was cancelled, unless the source itself
  tells of one. -/
  verdict : (∀ operation, .error (.cancelled operation) ∉ Moment.entries xs) →
    (e = some .cancelled ↔ ∃ operation, .error (.cancelled operation) ∈ Moment.yielded xs)
  /-- Up to the end no cancellation is seen and no deadline has passed; what is seen first ends the
  stream, and then nothing comes. -/
  ends : ∃ quiet closing, xs = quiet ++ closing ∧
    (∀ x ∈ quiet, (∃ w, R.Delivers x w) ∨ R.Waits x) ∧ R.ClosedBy closing e
  /-- A cancellation is counted once if it ends the stream, and each delivered item is decoded
  once. -/
  counts : (∀ x ∈ xs, (x.before.members[R.member]?).isSome) →
    Moment.growth R.member (·.cancelledStreams) xs = (if e = some .cancelled then 1 else 0) ∧
      Moment.growth R.member (·.decodeFallbacks) xs = (ws.map fun w => (R.decode w).2).sum

theorem Course.cleanPrefix (h : R.Course a xs ws e) : R.CleanPrefix xs ws e where
  yields := h.yielded
  tells := h.entries
  verdict := h.verdict
  ends := h.split
  counts hmember := ⟨h.cancelledStreams hmember, h.decodeFallbacks hmember⟩

/-- A stream that neither its caller nor its deadline nor an error ends yields the images of
everything. -/
theorem Course.whole (h : R.Course a xs ws e)
    (hopen : ∀ x ∈ xs, R.IsOpen x ∧ R.guard.isCancelled x.after.cancelled = false)
    (hfailed : ∀ error, .error error ∉ Moment.entries xs) (hended : .ended ∈ xs.map (·.answer))
    {left : σ → List (Except Error α) → Prop} (hleft : R.Tells left) {l : List (Except Error α)}
    (hl : left a l) : Moment.yielded xs = l.map fun x => x.map fun w => (R.decode w).1 := by
  obtain rfl := h.finished hopen hfailed hended
  obtain ⟨last, hentries, hlast⟩ := h.entries
  have hlast : last = [] := hlast
  rw [h.yielded, ← (h.told hleft hl).2 rfl, hentries, hlast, List.append_nil, List.map_map]
  exact List.append_nil _

end StreamReader

/-! ### The streams that are kept -/

namespace Script

variable {α : Type}

/-- The items and errors that are still to come. -/
def left (s : Script α) : List (Except Error α) :=
  s.cues.filterMap fun
    | .item w => some (.ok w)
    | .failure e => some (.error (.remote e))
    | _ => none

/-- A script tells its items and errors in order, and ends after the last one. -/
theorem pull_left (now : Time) (s : Script α) :
    s.left = (s.pull now).1.element?.toList ++ (s.pull now).2.1.left ∧
      ((s.pull now).1 = .finished → s.left = []) := by
  obtain ⟨cues, waiting⟩ := s
  unfold pull
  dsimp only
  induction cues generalizing waiting with
  | nil => exact ⟨rfl, fun _ => rfl⟩
  | cons c cs ih =>
    cases c with
    | item w => exact ⟨rfl, nofun⟩
    | failure e => exact ⟨rfl, nofun⟩
    | cancel t => exact ih none
    | wait span =>
      simp only [pullFrom]
      split
      · exact ih none
      · exact ⟨rfl, nofun⟩

/-- Its errors are reports of the service. -/
theorem pull_failed {now : Time} {s : Script α} {error : Error}
    (h : (s.pull now).1 = .failed error) : ∃ e, error = .remote e := by
  have hleft := (s.pull_left now).1
  rw [h] at hleft
  have hmem : .error error ∈ s.left := by
    rw [hleft]
    exact .head _
  obtain ⟨c, -, hc⟩ := List.mem_filterMap.1 hmem
  cases c with
  | failure e =>
    cases hc
    exact ⟨e, rfl⟩
  | item | wait | cancel => cases hc

end Script

/-- The resources and errors that are still to come. -/
def ListSource.left : ListSource → List (Except Error WireResource)
  | page rs => rs.map .ok
  | script s => s.left

/-- The events and errors that are still to come, if that is known. -/
def WatchSource.left? : WatchSource → Option (List (Except Error WireEvent))
  | live _ => none
  | script s => some s.left

namespace StreamReader

variable (K : Kind) (i : Nat) (g : Guard)

/-- A list tells its resources and errors. -/
theorem tells_ofList : (ofList K i g).Tells fun a l => l = a.left where
  next s a l hl := by
    subst hl
    cases a with
    | page rs => cases rs <;> exact ⟨_, rfl, rfl⟩
    | script sc => exact ⟨_, (sc.pull_left s.now).1, rfl⟩
  finished s a l hl h := by
    subst hl
    cases a with
    | page rs =>
      cases rs with
      | nil => rfl
      | cons r rs => cases h
    | script sc => exact (sc.pull_left s.now).2 h

/-- So does a watch that is scripted. -/
theorem tells_ofWatch : (ofWatch K i g).Tells fun a l => a.left? = some l where
  next s a l hl := by
    cases a with
    | live sub => cases hl
    | script sc =>
      cases hl
      exact ⟨_, (sc.pull_left s.now).1, rfl⟩
  finished s a l hl h := by
    cases a with
    | live sub => cases hl
    | script sc =>
      cases hl
      exact (sc.pull_left s.now).2 h

/-- The errors of a list are reports of the service. -/
theorem remote_ofList (a : ListSource) (ss : List Session) (error : Error)
    (h : .error error ∈ Moment.entries ((ofList K i g).read a ss)) : ∃ e, error = .remote e := by
  obtain ⟨s, a', hask⟩ := ask_of_mem_entries _ h
  cases a' with
  | page rs => cases rs <;> cases hask
  | script sc => exact sc.pull_failed hask

/-- So are those of a watch. -/
theorem remote_ofWatch (a : WatchSource) (ss : List Session) (error : Error)
    (h : .error error ∈ Moment.entries ((ofWatch K i g).read a ss)) : ∃ e, error = .remote e := by
  obtain ⟨s, a', hask⟩ := ask_of_mem_entries _ h
  cases a' with
  | live sub =>
    have hask : (WatchSource.pull s.store.published s.now (.live sub)).1 = .failed error := hask
    unfold WatchSource.pull at hask
    rcases hn : sub.next? s.store.published with ⟨x, sub'⟩
    simp only [hn] at hask
    cases x <;> cases hask
  | script sc => exact sc.pull_failed hask

end StreamReader

namespace Session

/-- What a kept stream answers at some moments, and the sessions after them. -/
def pollAt (k : KeptStream) : List Session → List (Polled × Session)
  | [] => []
  | s :: ss =>
    let (p, k', s') := s.poll k
    (p, s') :: pollAt k' ss

variable (K : Kind) (i : Nat) (g : Guard) (brief : Bool)

/-- **A kept list** is asked as its reader does. -/
theorem pollAt_list (a : ListSource) (state : StreamState) (ss : List Session) :
    pollAt ⟨.list K i ⟨a, g⟩, state, brief⟩ ss =
      ((StreamReader.ofList K i g).readFrom state a ss).map fun x => (x.answer, x.after) := by
  induction ss generalizing a state with
  | nil => rfl
  | cons s ss ih =>
    rw [pollAt, poll_list]
    exact congrArg (_ :: ·) (ih _ _)

/-- **So is a kept watch.** -/
theorem pollAt_watch (a : WatchSource) (state : StreamState) (ss : List Session) :
    pollAt ⟨.watch K i ⟨a, g⟩, state, brief⟩ ss =
      ((StreamReader.ofWatch K i g).readFrom state a ss).map fun x => (x.answer, x.after) := by
  induction ss generalizing a state with
  | nil => rfl
  | cons s ss ih =>
    rw [pollAt, poll_watch]
    exact congrArg (_ :: ·) (ih _ _)

end Session

/-- **A guarded stream yields a clean prefix**, whatever its source, its token and its deadline are,
at whichever moments it is asked and whatever happens in between: the images of a prefix of what the
source tells, in order and each decoded once, and then the end or one error. That is the first error
of the source, a cancellation that was seen first, or a deadline that has passed; a cancellation is
seen before the deadline and once more before an item is decoded, and counted once. Kept lists and
watches are such streams. -/
theorem guarded_clean :
    (∀ {σ α : Type} (R : StreamReader σ α) (a : σ) (ss : List Session),
      let xs := R.read a ss
      ∃ ws e, R.CleanPrefix xs ws e ∧ ∀ left, R.Tells left → ∀ l, left a l →
        Moment.entries xs <+: l ∧ (e = some .finished → l = ws.map .ok) ∧
          ((∀ x ∈ xs, R.IsOpen x ∧ R.guard.isCancelled x.after.cancelled = false) →
            (∀ error, .error error ∉ Moment.entries xs) → .ended ∈ xs.map (·.answer) →
            Moment.yielded xs = l.map fun x => x.map fun w => (R.decode w).1)) ∧
    (∀ K i g, (StreamReader.ofList K i g).Tells (fun a l => l = a.left) ∧
      ∀ a ss, (∀ error, .error error ∈ Moment.entries ((StreamReader.ofList K i g).read a ss) →
          ∃ e, error = .remote e) ∧
        ∀ brief, Session.pollAt ⟨.list K i ⟨a, g⟩, .live, brief⟩ ss =
          ((StreamReader.ofList K i g).read a ss).map fun x => (x.answer, x.after)) ∧
    ∀ K i g, (StreamReader.ofWatch K i g).Tells (fun a l => a.left? = some l) ∧
      ∀ a ss, (∀ error, .error error ∈ Moment.entries ((StreamReader.ofWatch K i g).read a ss) →
          ∃ e, error = .remote e) ∧
        ∀ brief, Session.pollAt ⟨.watch K i ⟨a, g⟩, .live, brief⟩ ss =
          ((StreamReader.ofWatch K i g).read a ss).map fun x => (x.answer, x.after) := by
  refine ⟨fun R a ss => ?_, fun K i g => ?_, fun K i g => ?_⟩
  · obtain ⟨ws, e, h⟩ := R.course a ss
    refine ⟨ws, e, h.cleanPrefix, fun left hleft l hl => ?_⟩
    obtain ⟨hpre, hwhole⟩ := h.told hleft hl
    refine ⟨hpre, fun he => ?_, fun hopen hfailed hended =>
      h.whole hopen hfailed hended hleft hl⟩
    obtain ⟨last, hentries, hlast⟩ := h.entries
    subst he
    have hlast : last = [] := hlast
    rw [← hwhole rfl, hentries, hlast, List.append_nil]
  · refine ⟨StreamReader.tells_ofList K i g, fun a ss => ⟨?_, fun brief => ?_⟩⟩
    · exact StreamReader.remote_ofList K i g a ss
    · exact Session.pollAt_list K i g brief a .live ss
  · refine ⟨StreamReader.tells_ofWatch K i g, fun a ss => ⟨?_, fun brief => ?_⟩⟩
    · exact StreamReader.remote_ofWatch K i g a ss
    · exact Session.pollAt_watch K i g brief a .live ss

/-- A list that is cancelled under the token `t`. -/
def tokenReader : StreamReader ListSource WireResource :=
  .ofList .machine 0 ⟨"List", some "t", none, ⟨30000000000⟩⟩

/-- Two machines, and before the second one the token is cancelled. -/
def overtakenList : ListSource :=
  let machine := Store.bare "default" Kind.machine.wireType
  .script ⟨[.item (machine "m1"), .cancel "t", .item (machine "m2")], none⟩

/-- The first machine is yielded and then the cancellation, which is counted. -/
theorem guarded_clean_overtaken :
    let xs := tokenReader.read overtakenList (List.replicate 3 (.start 4 [Session.writer]))
    (Moment.yielded xs).length = 2 ∧ (Moment.entries xs).length = 2 ∧
      Moment.growth 0 (·.cancelledStreams) xs = 1 := by
  intro xs
  refine ⟨rfl, rfl, ?_⟩
  obtain ⟨ws, e, h, -⟩ := guarded_clean.1 tokenReader overtakenList _
  have hsource : ∀ operation, .error (.cancelled operation) ∉ Moment.entries xs := by
    intro operation hmem
    obtain ⟨_, hremote⟩ := StreamReader.remote_ofList _ _ _ _ _ _ hmem
    cases hremote
  have hcancelled : e = some .cancelled := (h.verdict hsource).2 ⟨"List", .tail _ (.head _)⟩
  have hmember : ∀ x ∈ xs, (x.before.members[0]?).isSome := by
    intro x hx
    rw [List.eq_of_mem_replicate (tokenReader.mem_readFrom .live overtakenList _ x hx)]
    rfl
  exact (h.counts hmember).1.trans (if_pos hcancelled)

end Fleet
