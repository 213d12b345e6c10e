import Fleet.Proofs.Session.Frame
import Fleet.Session.Streams

/-!
# Reading a guarded stream

A stream is asked for items at any moments, with anything happening in between: its token may be
cancelled, its deadline may pass, and its source may wait, fail or cancel tokens itself.

* `StreamReader.poll`: asking any source under a guard; `poll_list`, `poll_watch`: **kept lists and
  watches are asked like that.**
* `Moment`: one time that a stream is asked; `yielded`, `entries`, `growth`: what comes of many.
* `StreamReader.poll_cases`: **what comes of asking a stream**: an item, nothing yet, or the end.
* `StreamReader.Course`: a whole reading; `course`: **every reading takes one**, by induction on its
  moments.
-/

namespace Fleet

/-- How a guarded stream is read: what its source answers and the tokens that it cancels meanwhile,
what an item is decoded as with the states that are lost, and for which member. -/
structure StreamReader (σ α : Type) : Type 1 where
  ask : Session → σ → Pull α × σ × List Token
  decode : α → StreamItem × Nat
  guard : Guard
  member : Nat

/-- A moment at which a stream is asked for an item, with what its source tells if it is asked. -/
structure Moment (α : Type) : Type 1 where
  before : Session
  told : Option (Pull α)
  answer : Polled
  after : Session

/-- An item or an error, if a source tells one. -/
def Pull.element? {α : Type} : Pull α → Option (Except Error α)
  | .item w => some (.ok w)
  | .failed e => some (.error e)
  | _ => none

/-- An item or an error, if a stream yields one. -/
def Polled.element? : Polled → Option (Except Error StreamItem)
  | .item a => some (.ok a)
  | .failed e => some (.error e)
  | _ => none

theorem Session.note_members_congr {s s' : Session} (h : s'.members = s.members) (i : Nat)
    (n : Notice) : (s'.note i n).members = (s.note i n).members := by
  show s'.members.modify i _ = s.members.modify i _
  rw [h]

/-- The end of a guarded stream counts one event at most. -/
theorem Session.endGuarded_cases (s : Session) (j : Nat) (g : Guard) (e : Ending) :
    (s.endGuarded j g e).2.2 = s ∨ ∃ n, (s.endGuarded j g e).2.2 = s.note j n := by
  unfold endGuarded
  dsimp only
  by_cases he : e = .cancelled
  · rw [if_pos he]
    cases g.errorOf? e <;> exact .inr ⟨_, rfl⟩
  · rw [if_neg he]
    cases g.errorOf? e <;> exact .inl rfl

/-- What a member's client has counted. -/
def Session.counted (s : Session) (i : Nat) (f : Metrics → Nat) : Int :=
  (s.members[i]?).elim 0 fun m => f m.metrics

namespace Moment

variable {α : Type}

/-- Everything that a stream yields. -/
def yielded (xs : List (Moment α)) : List (Except Error StreamItem) :=
  xs.filterMap (·.answer.element?)

/-- Everything that its source tells. -/
def entries (xs : List (Moment α)) : List (Except Error α) :=
  xs.filterMap (·.told.bind Pull.element?)

/-- By how much a count grows while a stream is asked. -/
def growth (i : Nat) (f : Metrics → Nat) : List (Moment α) → Int
  | [] => 0
  | x :: xs => x.after.counted i f - x.before.counted i f + growth i f xs

/-- These events are counted while a stream is asked, and nothing else. -/
def Counts (x : Moment α) (i : Nat) (ns : List Notice) : Prop :=
  x.after.members = (ns.foldl (·.note i ·) x.before).members

/-- The stream has ended before: neither its source nor its guard is looked at. -/
structure IsOver (x : Moment α) : Prop where
  told : x.told = none
  answer : x.answer = .ended
  same : x.after = x.before

variable {x : Moment α} {xs : List (Moment α)}

theorem yielded_cons (x : Moment α) (xs : List (Moment α)) :
    yielded (x :: xs) = x.answer.element?.toList ++ yielded xs := by
  unfold yielded
  rw [List.filterMap_cons]
  cases x.answer.element? <;> rfl

theorem entries_cons (x : Moment α) (xs : List (Moment α)) :
    entries (x :: xs) = (x.told.bind Pull.element?).toList ++ entries xs := by
  unfold entries
  rw [List.filterMap_cons]
  cases x.told.bind Pull.element? <;> rfl

theorem yielded_over (h : ∀ y ∈ xs, y.IsOver) : yielded xs = [] :=
  List.filterMap_eq_nil_iff.2 fun y hy => by rw [(h y hy).answer]; rfl

theorem entries_over (h : ∀ y ∈ xs, y.IsOver) : entries xs = [] :=
  List.filterMap_eq_nil_iff.2 fun y hy => by rw [(h y hy).told]; rfl

theorem growth_over (h : ∀ y ∈ xs, y.IsOver) (i : Nat) (f : Metrics → Nat) :
    growth i f xs = 0 := by
  induction xs with
  | nil => rfl
  | cons y ys ih =>
    obtain ⟨hy, hys⟩ := List.forall_mem_cons.1 h
    rw [growth, ih hys, hy.same, Int.add_zero]
    exact Int.sub_self _

/-- Nothing is counted. -/
theorem Counts.none {i : Nat} (h : x.Counts i []) (f : Metrics → Nat) :
    x.after.counted i f - x.before.counted i f = 0 := by
  have hsame : x.after.members = x.before.members := h
  unfold Session.counted
  rw [hsame]
  exact Int.sub_self _

/-- One event is counted. -/
theorem Counts.one {i : Nat} {n : Notice} (h : x.Counts i [n])
    (hmember : (x.before.members[i]?).isSome) {f : Metrics → Nat} {k : Nat}
    (hf : ∀ m : Metrics, f (m.note n) = f m + k) :
    x.after.counted i f - x.before.counted i f = k := by
  have hsame : x.after.members = (x.before.note i n).members := h
  obtain ⟨m, hm⟩ := Option.isSome_iff_exists.1 hmember
  have hafter : x.after.members[i]? = some { m with metrics := m.metrics.note n } := by
    rw [hsame]
    exact Session.getElem?_modifyMember _ hm
  unfold Session.counted
  rw [hafter, hm]
  show ((f (m.metrics.note n) : Nat) : Int) - (f m.metrics : Nat) = k
  rw [hf]
  omega

end Moment

namespace StreamReader

variable {σ α : Type} (R : StreamReader σ α)

/-- Ask the source for an item, unless the guard ends the stream first. -/
def pull (s : Session) (a : σ) : Guarded α × σ × Session :=
  let before := R.guard.isCancelled s.cancelled
  let expired := R.guard.isExpired s.now
  if before || expired then (Guard.step before expired .finished before, a, s)
  else
    let (p, a, ts) := R.ask s a
    let s := s.cancelAll ts
    (Guard.step false false p (R.guard.isCancelled s.cancelled), a, s)

/-- Ask the stream for an item. -/
def poll (state : StreamState) (a : σ) (s : Session) : Polled × (StreamState × σ) × Session :=
  match state with
  | .live =>
    match R.pull s a with
    | (.item w, a, s) =>
      (.item (R.decode w).1, (.live, a), s.note R.member (.lostStates (R.decode w).2))
    | (.pending _, a, s) => (.pending, (.live, a), s)
    | (.ended e, a, s) =>
      let (p, state, s) := s.endGuarded R.member R.guard e
      (p, (state, a), s)
  | _ => (.ended, (.ended, a), s)

/-- How a list is read. -/
def ofList (K : Kind) (i : Nat) (g : Guard) : StreamReader ListSource WireResource where
  ask s a := a.pull s.now
  decode w := (.resource K (Resource.ofWire K w).1, (Resource.ofWire K w).2)
  guard := g
  member := i

/-- How a watch is read. -/
def ofWatch (K : Kind) (i : Nat) (g : Guard) : StreamReader WatchSource WireEvent where
  ask s a := a.pull s.store.published s.now
  decode w := (.event K (Event.ofWire K w).1, (Event.ofWire K w).2)
  guard := g
  member := i

/-- What the source tells, if the stream is live and its guard lets it be asked. -/
def told? (state : StreamState) (a : σ) (s : Session) : Option (Pull α) :=
  if state = .live ∧ R.guard.isCancelled s.cancelled = false ∧ R.guard.isExpired s.now = false then
    some (R.ask s a).1
  else none

/-- Ask the stream at some moments. -/
def readFrom (state : StreamState) (a : σ) : List Session → List (Moment α)
  | [] => []
  | s :: ss =>
    let (p, (state', a'), s') := R.poll state a s
    ⟨s, R.told? state a s, p, s'⟩ :: readFrom state' a' ss

/-- A stream that is read at some moments, from its beginning. -/
def read (a : σ) (ss : List Session) : List (Moment α) := R.readFrom .live a ss

/-- Asking the source only cancels tokens. -/
theorem pull_later (s : Session) (a : σ) : Session.Later s (R.pull s a).2.2 := by
  unfold pull
  dsimp only
  split
  · exact .refl s
  · exact Session.cancelAll_later s _

/-- Asking the stream only lets time pass and counts one event at most. -/
theorem poll_later (state : StreamState) (a : σ) (s : Session) : ∃ s₁, Session.Later s s₁ ∧
    ((R.poll state a s).2.2 = s₁ ∨ ∃ j n, (R.poll state a s).2.2 = s₁.note j n) := by
  cases state with
  | failed | ended => exact ⟨s, .refl s, .inl rfl⟩
  | live =>
    have hlater := R.pull_later s a
    rcases hpull : R.pull s a with ⟨x, a', s'⟩
    rw [hpull] at hlater
    refine ⟨s', hlater, ?_⟩
    simp only [poll, hpull]
    cases x with
    | item w => exact .inr ⟨_, _, rfl⟩
    | pending wake => exact .inl rfl
    | ended e => exact (s'.endGuarded_cases R.member R.guard e).imp_right fun h => ⟨_, h⟩

end StreamReader

namespace Session

variable (K : Kind) (i : Nat) (g : Guard) (brief : Bool)

/-- Asking a kept list. -/
theorem poll_list (a : ListSource) (state : StreamState) (s : Session) :
    s.poll ⟨.list K i ⟨a, g⟩, state, brief⟩ =
      let (p, (state, a), s) := (StreamReader.ofList K i g).poll state a s
      (p, ⟨.list K i ⟨a, g⟩, state, brief⟩, s) := by
  cases state with
  | failed | ended => rfl
  | live =>
    have hpull : s.pollList ⟨a, g⟩ = (let (x, a, s) := (StreamReader.ofList K i g).pull s a;
        (x, ⟨a, g⟩, s)) := by
      unfold pollList StreamReader.pull
      dsimp only [StreamReader.ofList]
      split <;> rfl
    unfold poll pollLive StreamReader.poll
    dsimp only
    rw [hpull]
    rcases (StreamReader.ofList K i g).pull s a with ⟨x, a', s'⟩
    cases x <;> rfl

/-- Asking a kept watch. -/
theorem poll_watch (a : WatchSource) (state : StreamState) (s : Session) :
    s.poll ⟨.watch K i ⟨a, g⟩, state, brief⟩ =
      let (p, (state, a), s) := (StreamReader.ofWatch K i g).poll state a s
      (p, ⟨.watch K i ⟨a, g⟩, state, brief⟩, s) := by
  cases state with
  | failed | ended => rfl
  | live =>
    have hpull : s.pollWatch ⟨a, g⟩ = (let (x, a, s) := (StreamReader.ofWatch K i g).pull s a;
        (x, ⟨a, g⟩, s)) := by
      unfold pollWatch StreamReader.pull
      dsimp only [StreamReader.ofWatch]
      split <;> rfl
    unfold poll pollLive StreamReader.poll
    dsimp only
    rw [hpull]
    rcases (StreamReader.ofWatch K i g).pull s a with ⟨x, a', s'⟩
    cases x <;> rfl

end Session

namespace StreamReader

variable {σ α : Type} (R : StreamReader σ α)

/-! ### What comes of asking -/

/-- The stream is neither cancelled nor expired when it is asked. -/
structure IsOpen (x : Moment α) : Prop where
  live : R.guard.isCancelled x.before.cancelled = false
  timely : R.guard.isExpired x.before.now = false

/-- An item is decoded and passed on, and it is not cancelled by then. -/
structure Delivers (x : Moment α) (w : α) : Prop extends R.IsOpen x where
  told : x.told = some (.item w)
  kept : R.guard.isCancelled x.after.cancelled = false
  answer : x.answer = .item (R.decode w).1
  counts : x.Counts R.member [.lostStates (R.decode w).2]

/-- There is nothing yet. -/
structure Waits (x : Moment α) : Prop extends R.IsOpen x where
  told : ∃ wake, x.told = some (.pending wake)
  answer : x.answer = .pending
  counts : x.Counts R.member []

/-- Why a stream ends. -/
inductive Reason (x : Moment α) : Ending → Prop
  /-- It was cancelled before it was asked, whatever else is ready. -/
  | cancelled (hcancelled : R.guard.isCancelled x.before.cancelled = true)
      (htold : x.told = none) : Reason x .cancelled
  /-- It was cancelled before the item could be decoded. -/
  | overtaken {w : α} (hopen : R.IsOpen x) (htold : x.told = some (.item w))
      (hcancelled : R.guard.isCancelled x.after.cancelled = true) : Reason x .cancelled
  /-- It has a deadline, which has passed, and was not cancelled. -/
  | expired {due : Time} (hlive : R.guard.isCancelled x.before.cancelled = false)
      (hdeadline : R.guard.deadline = some due) (hdue : due ≤ x.before.now)
      (htold : x.told = none) : Reason x .expired
  | failed {e : Error} (hopen : R.IsOpen x) (htold : x.told = some (.failed e)) :
      Reason x (.failed e)
  | finished (hopen : R.IsOpen x) (htold : x.told = some .finished) : Reason x .finished

/-- The stream ends, with an error or without one. -/
structure Closes (x : Moment α) (e : Ending) : Prop where
  reason : R.Reason x e
  answer : x.answer = (R.guard.errorOf? e).elim .ended .failed
  counts : x.Counts R.member (if e = .cancelled then [.cancelledStream] else [])

/-- What comes of asking a stream where its source stands at `a`. -/
def moment (state : StreamState) (a : σ) (s : Session) : Moment α :=
  ⟨s, R.told? state a s, (R.poll state a s).1, (R.poll state a s).2.2⟩

/-- A stream that has ended yields nothing more. -/
theorem poll_over {state : StreamState} (h : state ≠ .live) (a : σ) (s : Session) :
    (R.moment state a s).IsOver ∧ (R.poll state a s).2.1 = (.ended, a) := by
  have htold : R.told? state a s = none := if_neg fun hall => h hall.1
  cases state with
  | live => exact absurd rfl h
  | failed | ended => exact ⟨⟨htold, rfl, rfl⟩, rfl⟩

/-- What the guard makes of what the source tells. -/
theorem pull_open {a : σ} {s : Session} (h : R.IsOpen (R.moment .live a s)) :
    R.pull s a = (Guard.step false false (R.ask s a).1
      (R.guard.isCancelled (s.cancelAll (R.ask s a).2.2).cancelled), (R.ask s a).2.1,
      s.cancelAll (R.ask s a).2.2) := by
  have hlive : R.guard.isCancelled s.cancelled = false := h.live
  have htimely : R.guard.isExpired s.now = false := h.timely
  unfold pull
  rw [hlive, htimely]
  rfl

variable {s s' : Session} {a a' : σ}

/-- An item is decoded, and its lost states are counted. -/
theorem delivers_of_pull {w : α} (h : R.pull s a = (.item w, a', s'))
    (hopen : R.IsOpen (R.moment .live a s)) (htold : R.told? .live a s = some (.item w))
    (hkept : R.guard.isCancelled s'.cancelled = false) (hmembers : s'.members = s.members) :
    R.Delivers (R.moment .live a s) w ∧ (R.poll .live a s).2.1 = (.live, a') := by
  have hpoll : R.poll .live a s = (.item (R.decode w).1, (.live, a'),
      s'.note R.member (.lostStates (R.decode w).2)) := by
    unfold poll
    rw [h]
  refine ⟨⟨hopen, htold, ?_, ?_, ?_⟩, by rw [hpoll]⟩
  · show R.guard.isCancelled (R.poll .live a s).2.2.cancelled = false
    rw [hpoll]
    exact hkept
  · show (R.poll .live a s).1 = _
    rw [hpoll]
  · show (R.poll .live a s).2.2.members = _
    rw [hpoll]
    exact Session.note_members_congr hmembers _ _

/-- Nothing is decoded or counted. -/
theorem waits_of_pull {wake : Option Time} (h : R.pull s a = (.pending wake, a', s'))
    (hopen : R.IsOpen (R.moment .live a s)) (htold : R.told? .live a s = some (.pending wake))
    (hmembers : s'.members = s.members) :
    R.Waits (R.moment .live a s) ∧ (R.poll .live a s).2.1 = (.live, a') := by
  have hpoll : R.poll .live a s = (.pending, (.live, a'), s') := by
    unfold poll
    rw [h]
  refine ⟨⟨hopen, ⟨wake, htold⟩, ?_, ?_⟩, by rw [hpoll]⟩
  · show (R.poll .live a s).1 = _
    rw [hpoll]
  · show (R.poll .live a s).2.2.members = _
    rw [hpoll]
    exact hmembers

/-- The end of a stream: only a cancellation is counted. -/
theorem closes_of_pull {e : Ending} (h : R.pull s a = (.ended e, a', s'))
    (hmembers : s'.members = s.members)
    (hreason : (R.poll .live a s).2.2.cancelled = s'.cancelled → R.Reason (R.moment .live a s) e) :
    R.Closes (R.moment .live a s) e ∧ (R.poll .live a s).2.1.1 ≠ .live := by
  -- a stream ends with the error of its ending, if that has one, and only a cancellation counts
  have hpoll : R.poll .live a s = (let (p, state, s) := s'.endGuarded R.member R.guard e;
      (p, (state, a'), s)) := by
    unfold poll
    rw [h]
  have hended : (R.poll .live a s).1 = (R.guard.errorOf? e).elim .ended .failed ∧
      (R.poll .live a s).2.1.1 ≠ .live ∧ (R.poll .live a s).2.2 =
        if e = .cancelled then s'.note R.member .cancelledStream else s' := by
    rw [hpoll]
    unfold Session.endGuarded
    cases R.guard.errorOf? e <;> exact ⟨rfl, nofun, rfl⟩
  obtain ⟨hanswer, hstate, hafter⟩ := hended
  refine ⟨⟨hreason ?_, hanswer, ?_⟩, hstate⟩
  · rw [hafter]
    split <;> rfl
  · show (R.poll .live a s).2.2.members = _
    rw [hafter]
    split
    · exact Session.note_members_congr hmembers _ _
    · exact hmembers

/-- **What comes of asking a live stream**: an item and nothing yet leave it live, all else ends
it. -/
theorem poll_cases (a : σ) (s : Session) :
    (∃ w, R.Delivers (R.moment .live a s) w ∧
      (R.poll .live a s).2.1 = (.live, (R.ask s a).2.1)) ∨
    (R.Waits (R.moment .live a s) ∧ (R.poll .live a s).2.1 = (.live, (R.ask s a).2.1)) ∨
    ∃ e, R.Closes (R.moment .live a s) e ∧ (R.poll .live a s).2.1.1 ≠ .live := by
  -- the token is looked at first, then the deadline
  cases hlive : R.guard.isCancelled s.cancelled with
  | true =>
    have hpull : R.pull s a = (.ended .cancelled, a, s) := by
      unfold pull
      rw [hlive]
      rfl
    have htold : R.told? .live a s = none := if_neg fun h => by rw [hlive] at h; cases h.2.1
    exact .inr (.inr ⟨_, R.closes_of_pull hpull rfl fun _ => .cancelled hlive htold⟩)
  | false =>
    cases htimely : R.guard.isExpired s.now with
    | true =>
      have hpull : R.pull s a = (.ended .expired, a, s) := by
        unfold pull
        rw [hlive, htimely]
        rfl
      have htold : R.told? .live a s = none := if_neg fun h => by rw [htimely] at h; cases h.2.2
      obtain ⟨due, hdeadline, hdue⟩ := (Option.any_eq_true _ _).1 htimely
      exact .inr (.inr ⟨_, R.closes_of_pull hpull rfl fun _ =>
        .expired hlive hdeadline (of_decide_eq_true hdue) htold⟩)
    | false =>
      have hopen : R.IsOpen (R.moment .live a s) := ⟨hlive, htimely⟩
      have htold : R.told? .live a s = some (R.ask s a).1 := if_pos ⟨rfl, hlive, htimely⟩
      have hmembers := (Session.cancelAll_later s (R.ask s a).2.2).members
      have hpull := R.pull_open hopen
      -- the source is asked now, and only an item is looked at again
      cases hask : (R.ask s a).1 with
      | item w =>
        rw [hask] at hpull htold
        cases hkept : R.guard.isCancelled (s.cancelAll (R.ask s a).2.2).cancelled with
        | true =>
          rw [hkept] at hpull
          refine .inr (.inr ⟨_, R.closes_of_pull hpull hmembers fun hafter =>
            .overtaken hopen htold ?_⟩)
          show R.guard.isCancelled (R.poll .live a s).2.2.cancelled = true
          rw [hafter]
          exact hkept
        | false =>
          rw [hkept] at hpull
          exact .inl ⟨w, R.delivers_of_pull hpull hopen htold hkept hmembers⟩
      | pending wake =>
        rw [hask] at hpull htold
        exact .inr (.inl (R.waits_of_pull hpull hopen htold hmembers))
      | failed e =>
        rw [hask] at hpull htold
        exact .inr (.inr ⟨_, R.closes_of_pull hpull hmembers fun _ => .failed hopen htold⟩)
      | finished =>
        rw [hask] at hpull htold
        exact .inr (.inr ⟨_, R.closes_of_pull hpull hmembers fun _ => .finished hopen htold⟩)

/-- What the source tells is what it answers where it stands. -/
theorem told_eq (state : StreamState) (a : σ) (s : Session) {p : Pull α}
    (h : R.told? state a s = some p) : p = (R.ask s a).1 := by
  unfold told? at h
  split at h
  · exact (Option.some.inj h).symm
  · cases h

/-! ### Whole readings -/

/-- A whole reading of a stream whose source stands at `a`: the items that are delivered, and how it
ends if it does. -/
inductive Course : σ → List (Moment α) → List α → Option Ending → Prop
  | stop (a : σ) : Course a [] [] none
  | item {a : σ} {x : Moment α} {xs : List (Moment α)} {w : α} {ws : List α} {e : Option Ending}
      (h : R.Delivers x w) (hasked : ∀ p, x.told = some p → p = (R.ask x.before a).1)
      (hrest : Course (R.ask x.before a).2.1 xs ws e) : Course a (x :: xs) (w :: ws) e
  | wait {a : σ} {x : Moment α} {xs : List (Moment α)} {ws : List α} {e : Option Ending}
      (h : R.Waits x) (hasked : ∀ p, x.told = some p → p = (R.ask x.before a).1)
      (hrest : Course (R.ask x.before a).2.1 xs ws e) : Course a (x :: xs) ws e
  | close {a : σ} {x : Moment α} {xs : List (Moment α)} {e : Ending} (h : R.Closes x e)
      (hasked : ∀ p, x.told = some p → p = (R.ask x.before a).1)
      (hover : ∀ y ∈ xs, y.IsOver) : Course a (x :: xs) [] (some e)

/-- A stream that has ended yields nothing at any later moment. -/
theorem readFrom_over {state : StreamState} (h : state ≠ .live) (a : σ) (ss : List Session) :
    ∀ y ∈ R.readFrom state a ss, y.IsOver := by
  induction ss generalizing state with
  | nil => exact List.forall_mem_nil _
  | cons s ss ih =>
    obtain ⟨hover, hnext⟩ := R.poll_over h a s
    have hread : R.readFrom state a (s :: ss) = R.moment state a s ::
      R.readFrom (R.poll state a s).2.1.1 (R.poll state a s).2.1.2 ss := rfl
    rw [hread, hnext]
    exact List.forall_mem_cons.2 ⟨hover, ih nofun⟩

/-- **Every reading of a stream** takes its course, by induction on its moments. -/
theorem course (a : σ) (ss : List Session) : ∃ ws e, R.Course a (R.read a ss) ws e := by
  induction ss generalizing a with
  | nil => exact ⟨[], none, .stop a⟩
  | cons s ss ih =>
    have hread : R.read a (s :: ss) = R.moment .live a s ::
      R.readFrom (R.poll .live a s).2.1.1 (R.poll .live a s).2.1.2 ss := rfl
    have hasked : ∀ p, (R.moment .live a s).told = some p → p = (R.ask s a).1 :=
      fun _ => R.told_eq .live a s
    rw [hread]
    rcases R.poll_cases a s with ⟨w, hitem, hnext⟩ | ⟨hwait, hnext⟩ | ⟨e, hclose, hstate⟩
    · obtain ⟨ws, e, hrest⟩ := ih (R.ask s a).2.1
      rw [hnext]
      exact ⟨w :: ws, e, .item hitem hasked hrest⟩
    · obtain ⟨ws, e, hrest⟩ := ih (R.ask s a).2.1
      rw [hnext]
      exact ⟨ws, e, .wait hwait hasked hrest⟩
    · exact ⟨[], some e, .close hclose hasked (R.readFrom_over hstate _ ss)⟩

/-- A stream is read at the moments that are given. -/
theorem mem_readFrom (state : StreamState) (a : σ) (ss : List Session) :
    ∀ x ∈ R.readFrom state a ss, x.before ∈ ss := by
  induction ss generalizing state a with
  | nil => exact List.forall_mem_nil _
  | cons s ss ih => exact List.forall_mem_cons.2 ⟨.head _, fun x hx => .tail _ (ih _ _ x hx)⟩

end StreamReader

end Fleet
