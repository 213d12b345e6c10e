import Fleet.Proofs.Service.Run

/-!
# Watching a service

A subscriber reads events while all else goes on.

* `run_remembers`: the history holds the last events that were published, whatever happens.
* `firstOf_spec`: reading passes events up to the first that concerns the watch.
* `kept`: the events that concern a watch, but for those in lost places.
* `Following.read_replay`, `Following.read_live`: what one read adds to what a subscriber was told.
* `Following.play`: only what was overrun is lost, in any order of turns.
* `watch_gapless`: **a watch has no gap and no duplicate**, in any order of what happens and of what
  is read.
-/

namespace Fleet

open Subscription

namespace Store

variable {s : Store} {a : Act}

/-- The history holds the last events, as many as it keeps. -/
def Remembers (s : Store) : Prop := s.history = lastOf s.historyLimit s.published

/-- An event that is published takes the place of the oldest, once the history is full. -/
theorem publish_remembers (h : s.Remembers) (e : WireEvent) : (s.publish e).Remembers := by
  have hlen : s.history.length = min s.historyLimit s.published.length := by
    rw [h, lastOf, List.length_drop]
    omega
  show (if s.historyLimit == 0 then s.history
      else (if s.history.length == s.historyLimit then s.history.tail else s.history) ++ [e]) =
    (s.published ++ [e]).drop ((s.published ++ [e]).length - s.historyLimit)
  rw [List.length_append, List.length_singleton]
  by_cases hz : s.historyLimit = 0
  · have hnil : s.history = [] := List.eq_nil_of_length_eq_zero (by omega)
    rw [if_pos (by simpa using hz), hnil, hz, List.drop_eq_nil_of_le (by simp)]
  · rw [if_neg (by simpa using hz)]
    by_cases hfull : s.history.length = s.historyLimit
    · -- the oldest event goes
      have hle : s.historyLimit ≤ s.published.length := by omega
      have hplace : s.published.length + 1 - s.historyLimit =
          s.published.length - s.historyLimit + 1 := by omega
      rw [if_pos (by simpa using hfull), h, lastOf, List.tail_drop, hplace,
        List.drop_append_of_le_length (by omega)]
    · have hall : s.published.length + 1 - s.historyLimit = 0 := by omega
      have hnow : s.published.length - s.historyLimit = 0 := by omega
      rw [if_neg (by simpa using hfull), h, lastOf, hall, hnow, List.drop_zero, List.drop_zero]

/-- Whatever happens, the history goes on holding the last events. -/
theorem act_remembers (h : s.Remembers) (a : Act) : (s.act a).Remembers := by
  cases a with
  | call now r =>
    have hlimit := s.act_historyLimit (.call now r)
    rcases Served.outcome ⟨s, now, r⟩ with ⟨-, hsame⟩ | ⟨c, hc⟩
    · have hh : (s.act (.call now r)).history = s.history := hsame.history
      have hp : (s.act (.call now r)).published = s.published := hsame.published
      rw [Remembers, hh, hp, hlimit]
      exact h
    · have hh : (s.act (.call now r)).history = (s.publish (c.event s)).history := hc.history
      have hp : (s.act (.call now r)).published = s.published ++ [c.event s] := hc.published
      rw [Remembers, hh, hp, hlimit]
      exact publish_remembers h (c.event s)
  | injectFault f => exact h
  | clearFaults => exact h
  | insertRaw r => exact h

theorem empty_remembers (limit : Nat) : (empty limit).Remembers := by
  simp [Remembers, lastOf, empty]

/-- **The history holds the last events that were published**, whatever happens. -/
theorem run_remembers (limit : Nat) (as : List Act) :
    ((empty limit).run as).history = lastOf limit ((empty limit).run as).published := by
  have h : ((empty limit).run as).Remembers ∧ ((empty limit).run as).historyLimit = limit := by
    induction as using List.reverseRecOn with
    | nil => exact ⟨empty_remembers limit, rfl⟩
    | append_singleton as a ih =>
      rw [run_concat]
      exact ⟨act_remembers ih.1 a, (act_historyLimit _ a).trans ih.2⟩
  rw [h.1, h.2]

/-- What is published stays published. -/
theorem act_published (s : Store) (a : Act) : s.published <+: (s.act a).published := by
  cases a with
  | call now r =>
    rcases Served.outcome ⟨s, now, r⟩ with ⟨-, hsame⟩ | ⟨c, hc⟩
    · have hp : (s.act (.call now r)).published = s.published := hsame.published
      exact hp.symm ▸ List.prefix_refl _
    · have hp : (s.act (.call now r)).published = s.published ++ [c.event s] := hc.published
      rw [hp]
      exact List.prefix_append _ _
  | injectFault f => exact List.prefix_refl _
  | clearFaults => exact List.prefix_refl _
  | insertRaw r => exact List.prefix_refl _

theorem run_published (s : Store) (as : List Act) : s.published <+: (s.run as).published := by
  induction as using List.reverseRecOn with
  | nil => exact List.prefix_refl _
  | append_singleton as a ih =>
    rw [run_concat]
    exact ih.trans (act_published _ a)

/-- A watch that is accepted starts at what was published. -/
theorem watch_accepted {now : WireTime} {q : WatchQuery} {sub : Subscription} {s' : Store}
    (h : s.handle now (.watch q) = (.ok sub, s')) :
    ∃ sel, Selector.parse q.selector = .ok sel ∧ sub = .start s q sel ∧ s' = s.count .watch := by
  have hperform := perform_of_handle h
  simp only [Request.verb, perform, watch, selectorOf] at hperform
  cases hp : Selector.parse q.selector with
  | error fault => simp [hp, bind, Except.bind] at hperform
  | ok sel =>
    simp only [hp] at hperform
    cases hperform
    exact ⟨sel, rfl, rfl, rfl⟩

end Store

/-- The part of a sequence from one place up to another. -/
def between (es : List WireEvent) (a b : Nat) : List WireEvent := (es.take b).drop a

section between

variable {es fs : List WireEvent} {a b c : Nat}

theorem between_self (es : List WireEvent) (a : Nat) : between es a a = [] := by
  simp [between]

theorem between_length (es : List WireEvent) (a : Nat) : between es a es.length = es.drop a := by
  simp [between]

theorem length_between (hb : b ≤ es.length) : (between es a b).length = b - a := by
  simp [between, Nat.min_eq_left hb]

theorem between_append (hab : a ≤ b) (hbc : b ≤ c) (hb : b ≤ es.length) :
    between es a b ++ between es b c = between es a c := by
  have htake : es.take c = es.take b ++ (es.take c).drop b := by
    have h := List.take_append_drop b (es.take c)
    rw [List.take_take, Nat.min_eq_left hbc] at h
    exact h.symm
  have hle : a ≤ (es.take b).length := by
    rw [List.length_take]
    omega
  unfold between
  conv_rhs => rw [htake]
  rw [List.drop_append_of_le_length hle]

/-- What comes later leaves the parts before it as they are. -/
theorem between_of_extends (h : es <+: fs) (hb : b ≤ es.length) :
    between fs a b = between es a b := by
  obtain ⟨rest, rfl⟩ := h
  rw [between, List.take_append_of_le_length hb, between]

end between

/-- The events of a sequence that concern a watch, but for those in lost places. The first of the
sequence is in place `n`. -/
def kept (q : WatchQuery) (sel : Selector) (lost : Nat → Bool) (n : Nat) :
    List WireEvent → List WireEvent
  | [] => []
  | e :: es =>
    if q.admits sel e && !lost n then e :: kept q sel lost (n + 1) es
    else kept q sel lost (n + 1) es

section kept

variable {q : WatchQuery} {sel : Selector} {lost lost' : Nat → Bool} {n : Nat}

theorem kept_append (es fs : List WireEvent) :
    kept q sel lost n (es ++ fs) = kept q sel lost n es ++ kept q sel lost (n + es.length) fs := by
  induction es generalizing n with
  | nil => simp [kept]
  | cons e es ih =>
    have hn : n + 1 + es.length = n + (es.length + 1) := by omega
    simp only [List.cons_append, kept, List.length_cons, ih, hn]
    split <;> rfl

/-- Which other places are lost does not matter. -/
theorem kept_congr {es : List WireEvent}
    (h : ∀ j, n ≤ j → j < n + es.length → lost j = lost' j) :
    kept q sel lost n es = kept q sel lost' n es := by
  induction es generalizing n with
  | nil => rfl
  | cons e es ih =>
    have hn : lost n = lost' n := h n (Nat.le_refl n) (by simp)
    have htail := ih (n := n + 1) fun j h₁ h₂ =>
      h j (by omega) (by simp only [List.length_cons]; omega)
    simp only [kept, hn, htail]

theorem kept_of_lost {es : List WireEvent} (h : ∀ j, n ≤ j → j < n + es.length → lost j = true) :
    kept q sel lost n es = [] := by
  have hcongr : kept q sel lost n es = kept q sel (fun _ => true) n es := kept_congr h
  rw [hcongr]
  clear h hcongr
  induction es generalizing n with
  | nil => rfl
  | cons e es ih => simp [kept, ih]

theorem kept_of_not_lost {es : List WireEvent}
    (h : ∀ j, n ≤ j → j < n + es.length → lost j = false) :
    kept q sel lost n es = es.filter (q.admits sel) := by
  have hcongr : kept q sel lost n es = kept q sel (fun _ => false) n es := kept_congr h
  rw [hcongr]
  clear h hcongr
  induction es generalizing n with
  | nil => rfl
  | cons e es ih => simp [kept, ih, List.filter_cons]

end kept

/-- Reading passes events up to the first that concerns the watch, or all of them. -/
theorem firstOf_spec (q : WatchQuery) (sel : Selector) (es : List WireEvent) :
    (firstOf q sel es).2 ≤ es.length ∧
      (es.take (firstOf q sel es).2).filter (q.admits sel) = (firstOf q sel es).1.toList ∧
      ((firstOf q sel es).1 = none → (firstOf q sel es).2 = es.length) := by
  induction es with
  | nil => exact ⟨Nat.le_refl _, rfl, fun _ => rfl⟩
  | cons e es ih =>
    obtain ⟨hle, hfilter, hnone⟩ := ih
    by_cases he : q.admits sel e = true
    · simp [firstOf, he]
    · simp only [firstOf, he, Bool.false_eq_true, if_false, List.length_cons]
      refine ⟨by omega, ?_, fun hn => by rw [hnone hn]⟩
      rw [List.take_succ_cons, List.filter_cons_of_neg (by simpa using he), hfilter]

section next

variable {published : List WireEvent} {sub : Subscription} {cursor j : Nat}

theorem next?_of_cons {e : WireEvent} {es : List WireEvent} (h : sub.replay = e :: es) :
    sub.next? published = (some e, { sub with replay := es }) := by
  unfold next?
  rw [h]

theorem next?_of_nil (h : sub.replay = []) : sub.next? published =
    ((firstOf sub.query sub.selector (published.drop (resume published sub.cursor))).1,
      { sub with cursor := resume published sub.cursor +
        (firstOf sub.query sub.selector (published.drop (resume published sub.cursor))).2 }) := by
  unfold next?
  rw [h]

theorem le_resume (published : List WireEvent) (cursor : Nat) : cursor ≤ resume published cursor :=
  Nat.le_max_left _ _

theorem resume_le (h : cursor ≤ published.length) : resume published cursor ≤ published.length :=
  Nat.max_le.2 ⟨h, Nat.sub_le _ _⟩

/-- Only what has too many events after it is passed unread. -/
theorem overrun_of_lt_resume (h : cursor ≤ j) (hj : j < resume published cursor) :
    j + capacity < published.length := by
  unfold resume at hj
  omega

end next

/-- A subscriber beside a service, with what it was told. -/
structure Watching where
  store : Store
  sub : Subscription
  told : List WireEvent

/-- What happens next to a subscriber and its service. -/
inductive Turn : Type 1 where
  | act (a : Act)
  /-- The subscriber asks for the next event. -/
  | read

/-- What happens to the service, where it is not a read. -/
def Turn.act? : Turn → Option Act
  | act a => some a
  | read => none

namespace Watching

variable {w : Watching}

/-- One turn. -/
def turn (w : Watching) : Turn → Watching
  | .act a => { w with store := w.store.act a }
  | .read =>
    let r := w.sub.next? w.store.published
    { w with sub := r.2, told := w.told ++ r.1.toList }

/-- Any turns, one after the other. -/
def play (w : Watching) (ts : List Turn) : Watching := ts.foldl turn w

theorem play_concat (w : Watching) (ts : List Turn) (t : Turn) :
    w.play (ts ++ [t]) = (w.play ts).turn t :=
  List.foldl_append

/-- Reading does not reach the service. -/
theorem play_store (w : Watching) (ts : List Turn) :
    (w.play ts).store = w.store.run (ts.filterMap Turn.act?) := by
  induction ts using List.reverseRecOn with
  | nil => rfl
  | append_singleton ts t ih =>
    rw [play_concat, List.filterMap_append, Store.run_append, ← ih]
    cases t with
    | act a => rfl
    | read => rfl

/-- How many published events the subscriber has not read. -/
def unread (w : Watching) : Nat := w.store.published.length - w.sub.cursor

/-- No more events are unread than were published in the end. -/
theorem unread_le {pre ts : List Turn} (h : pre <+: ts) :
    (w.play pre).unread ≤ (w.play ts).store.published.length := by
  obtain ⟨post, rfl⟩ := h
  have hplay : w.play (pre ++ post) = (w.play pre).play post := List.foldl_append
  have hle : (w.play pre).store.published.length ≤
      ((w.play pre).play post).store.published.length := by
    rw [play_store _ post]
    exact (Store.run_published _ _).length_le
  rw [hplay]
  exact Nat.le_trans (Nat.sub_le _ _) hle

/-- The event in a place is unread, and more events than are kept for a subscriber are unread from
there on. -/
def Overrun (w : Watching) (j : Nat) : Prop :=
  w.sub.cursor ≤ j ∧ j + capacity < w.store.published.length

/-- The event in a place was overrun at some moment of the given turns. -/
def OverrunIn (w : Watching) (ts : List Turn) (j : Nat) : Prop :=
  ∃ pre, pre <+: ts ∧ (w.play pre).Overrun j

/-- A subscriber that never has too many unread events is not overrun. -/
theorem not_overrunIn {ts : List Turn} (h : ∀ pre, pre <+: ts → (w.play pre).unread ≤ capacity)
    (j : Nat) : ¬w.OverrunIn ts j := by
  rintro ⟨pre, hpre, hcursor, hj⟩
  have hunread := h pre hpre
  unfold unread at hunread
  omega

theorem OverrunIn.concat {ts : List Turn} {j : Nat} (h : w.OverrunIn ts j) (t : Turn) :
    w.OverrunIn (ts ++ [t]) j := by
  obtain ⟨pre, hpre, h⟩ := h
  exact ⟨pre, hpre.trans (List.prefix_append ts [t]), h⟩

end Watching

/-- A place is lost if it was, or if it is one of those that are passed unread. -/
def orPassed (lost : Nat → Bool) (a b j : Nat) : Bool := lost j || (a ≤ j && j < b)

section orPassed

variable {lost : Nat → Bool} {a b j : Nat}

theorem orPassed_of_lt (h : j < a) : orPassed lost a b j = lost j := by
  have hn : ¬a ≤ j := by omega
  simp [orPassed, hn]

theorem orPassed_of_mem (ha : a ≤ j) (hb : j < b) : orPassed lost a b j = true := by
  simp [orPassed, ha, hb]

theorem lost_of_orPassed (h : orPassed lost a b j = true) : lost j = true ∨ a ≤ j ∧ j < b := by
  simpa [orPassed] using h

theorem orPassed_of_le (h : b ≤ j) : orPassed lost a b j = lost j := by
  have hn : ¬j < b := by omega
  simp [orPassed, hn]

/-- What is passed unread when reading goes on was overrun. -/
theorem Watching.overrun_of_orPassed (w : Watching)
    (h : orPassed lost w.sub.cursor (resume w.store.published w.sub.cursor) j = true) :
    lost j = true ∨ w.Overrun j := by
  rcases lost_of_orPassed h with h | ⟨h₁, h₂⟩
  · exact .inl h
  · exact .inr ⟨h₁, overrun_of_lt_resume h₁ h₂⟩

end orPassed

/-- A subscriber to a watch, which began at place `n` with a replay, was told this replay and what
concerns the watch of the events from there to where it is, but for lost places. -/
structure Following (q : WatchQuery) (sel : Selector) (replay : List WireEvent) (n : Nat)
    (lost : Nat → Bool) (w : Watching) : Prop where
  query : w.sub.query = q
  selector : w.sub.selector = sel
  start_le : n ≤ w.sub.cursor
  cursor_le : w.sub.cursor ≤ w.store.published.length
  /-- Nothing else is read before the replay is over. -/
  replaying : w.sub.replay ≠ [] → w.sub.cursor = n
  /-- Only what was passed can be lost. -/
  passed : ∀ j, lost j = true → j < w.sub.cursor
  told : w.told ++ w.sub.replay =
    replay ++ kept q sel lost n (between w.store.published n w.sub.cursor)

namespace Following

variable {q : WatchQuery} {sel : Selector} {replay : List WireEvent} {n : Nat} {lost : Nat → Bool}
  {w : Watching}

/-- A subscriber that begins was told nothing. -/
theorem start (q : WatchQuery) (sel : Selector) (s : Store) :
    Following q sel (lastOf q.tail (s.history.filter (q.admits sel))) s.published.length
      (fun _ => false) ⟨s.count .watch, .start s q sel, []⟩ where
  query := rfl
  selector := rfl
  start_le := Nat.le_refl _
  cursor_le := Nat.le_refl _
  replaying _ := rfl
  passed j hj := by cases hj
  told := by
    show [] ++ _ = _ ++ kept q sel _ _ (between s.published s.published.length s.published.length)
    rw [between_self, kept, List.append_nil]
    rfl

/-- What happens to the service does not reach what was told. -/
theorem act (h : Following q sel replay n lost w) (a : Act) :
    Following q sel replay n lost (w.turn (.act a)) := by
  have hp := w.store.act_published a
  have hle : w.store.published.length ≤ (w.store.act a).published.length := hp.length_le
  refine ⟨h.query, h.selector, h.start_le, Nat.le_trans h.cursor_le hle, h.replaying, h.passed, ?_⟩
  show w.told ++ w.sub.replay =
    replay ++ kept q sel lost n (between (w.store.act a).published n w.sub.cursor)
  rw [between_of_extends hp h.cursor_le]
  exact h.told

/-- What is kept up to a later place, where the places up to some place in between are lost. -/
theorem kept_between (h : Following q sel replay n lost w) {b c : Nat} (hb : w.sub.cursor ≤ b)
    (hbc : b ≤ c) (hc : c ≤ w.store.published.length) :
    kept q sel (orPassed lost w.sub.cursor b) n (between w.store.published n c) =
      kept q sel lost n (between w.store.published n w.sub.cursor) ++
        (between w.store.published b c).filter (q.admits sel) := by
  have hn := h.start_le
  have hcursor := h.cursor_le
  -- three parts: what was passed before, what is passed unread, and what is read
  have hb' := Nat.le_trans hbc hc
  rw [← between_append hn (Nat.le_trans hb hbc) hcursor, ← between_append hb hbc hb',
    kept_append, kept_append, length_between hcursor, length_between hb']
  have hfirst : kept q sel (orPassed lost w.sub.cursor b) n
      (between w.store.published n w.sub.cursor) =
      kept q sel lost n (between w.store.published n w.sub.cursor) := by
    refine kept_congr fun j _ hj => orPassed_of_lt ?_
    rw [length_between hcursor] at hj
    omega
  have hsecond : kept q sel (orPassed lost w.sub.cursor b) (n + (w.sub.cursor - n))
      (between w.store.published w.sub.cursor b) = [] := by
    refine kept_of_lost fun j h₁ h₂ => orPassed_of_mem (by omega) ?_
    rw [length_between hb'] at h₂
    omega
  have hthird : kept q sel (orPassed lost w.sub.cursor b)
      (n + (w.sub.cursor - n) + (b - w.sub.cursor)) (between w.store.published b c) =
      (between w.store.published b c).filter (q.admits sel) := by
    refine kept_of_not_lost fun j h₁ _ => ?_
    rw [orPassed_of_le (by omega)]
    cases hl : lost j with
    | false => rfl
    | true =>
      have hlt := h.passed j hl
      omega
  rw [hfirst, hsecond, hthird, List.nil_append]

/-- As long as the replay goes on, reading tells the next event of it. -/
theorem read_replay (h : Following q sel replay n lost w) {e : WireEvent} {es : List WireEvent}
    (hr : w.sub.replay = e :: es) : Following q sel replay n lost (w.turn .read) := by
  have hnext : w.sub.next? w.store.published = _ := next?_of_cons hr
  have htold := h.told
  rw [hr] at htold
  simp only [Watching.turn, hnext]
  refine ⟨h.query, h.selector, h.start_le, h.cursor_le, ?_, h.passed, ?_⟩
  · intro _
    exact h.replaying (by simp [hr])
  · simpa using htold

/-- Once the replay is over, reading passes what was overrun and tells the first of the rest that
concerns the watch. -/
theorem read_live (h : Following q sel replay n lost w) (hr : w.sub.replay = []) :
    Following q sel replay n (orPassed lost w.sub.cursor (resume w.store.published w.sub.cursor))
      (w.turn .read) := by
  have hnext : w.sub.next? w.store.published = _ := next?_of_nil hr
  rw [h.query, h.selector] at hnext
  obtain ⟨hlen, hfilter, -⟩ :=
    firstOf_spec q sel (w.store.published.drop (resume w.store.published w.sub.cursor))
  have hle := le_resume w.store.published w.sub.cursor
  have hc := resume_le h.cursor_le
  simp only [Watching.turn, hnext]
  generalize resume w.store.published w.sub.cursor = b at *
  generalize firstOf q sel (w.store.published.drop b) = r at *
  rw [List.length_drop] at hlen
  refine ⟨rfl, rfl, ?_, ?_, ?_, ?_, ?_⟩
  · exact Nat.le_trans h.start_le (by simp only; omega)
  · simp only
    omega
  · intro hne
    exact absurd hr hne
  · intro j hj
    simp only
    rcases lost_of_orPassed hj with hj | ⟨-, hj⟩
    · have hlt := h.passed j hj
      omega
    · omega
  · -- what is passed now begins with what is lost and ends with what is told
    have htold := h.told
    have hlast : between w.store.published b (b + r.2) = (w.store.published.drop b).take r.2 := by
      rw [between, List.drop_take, Nat.add_sub_cancel_left]
    rw [hr, List.append_nil] at htold
    simp only [hr, List.append_nil]
    rw [htold, h.kept_between hle (Nat.le_add_right b r.2) (by omega), hlast, hfilter,
      List.append_assoc]

/-- Reading loses no more than was overrun. -/
theorem read (h : Following q sel replay n lost w) : ∃ lost',
    Following q sel replay n lost' (w.turn .read) ∧
      ∀ j, lost' j = true → lost j = true ∨ w.Overrun j := by
  cases hr : w.sub.replay with
  | cons e es => exact ⟨lost, h.read_replay hr, fun j hj => .inl hj⟩
  | nil => exact ⟨_, h.read_live hr, fun j hj => w.overrun_of_orPassed hj⟩

/-- Any turns. What is lost was overrun in them. -/
theorem play (h : Following q sel replay n (fun _ => false) w) (ts : List Turn) : ∃ lost,
    Following q sel replay n lost (w.play ts) ∧ ∀ j, lost j = true → w.OverrunIn ts j := by
  induction ts using List.reverseRecOn with
  | nil => exact ⟨_, h, fun j hj => by cases hj⟩
  | append_singleton ts t ih =>
    obtain ⟨lost, hf, hlost⟩ := ih
    rw [Watching.play_concat]
    cases t with
    | act a => exact ⟨lost, hf.act a, fun j hj => (hlost j hj).concat _⟩
    | read =>
      obtain ⟨lost', hf', hlost'⟩ := hf.read
      refine ⟨lost', hf', fun j hj => ?_⟩
      rcases hlost' j hj with hj | hj
      · exact (hlost j hj).concat _
      · exact ⟨ts, List.prefix_append _ _, hj⟩

/-- What a subscriber was told is the beginning of the whole stream, which is the replay and all
that concerns the watch since then but for lost places; and if nothing is left to read, it is all of
it. -/
theorem stream (h : Following q sel replay n lost w) : ∃ lost',
    (∀ j, lost' j = true → lost j = true ∨ w.Overrun j) ∧
      w.told <+: replay ++ kept q sel lost' n (w.store.published.drop n) ∧
      ((w.sub.next? w.store.published).1 = none →
        w.told = replay ++ kept q sel lost' n (w.store.published.drop n)) := by
  have hle := le_resume w.store.published w.sub.cursor
  have hc := resume_le h.cursor_le
  refine ⟨orPassed lost w.sub.cursor (resume w.store.published w.sub.cursor),
    fun j hj => w.overrun_of_orPassed hj, ?_⟩
  rw [← between_length, h.kept_between hle hc (Nat.le_refl _), ← List.append_assoc, ← h.told,
    List.append_assoc]
  refine ⟨List.prefix_append _ _, fun hn => ?_⟩
  cases hr : w.sub.replay with
  | cons e es =>
    rw [next?_of_cons hr] at hn
    cases hn
  | nil =>
    -- nothing concerns the watch of what is left
    rw [next?_of_nil hr, h.query, h.selector] at hn
    obtain ⟨-, hfilter, hnone⟩ :=
      firstOf_spec q sel (w.store.published.drop (resume w.store.published w.sub.cursor))
    simp only at hn
    rw [hnone hn, hn, List.take_length] at hfilter
    rw [between_length, hfilter]
    simp

end Following

/-- **A watch has no gap and no duplicate.** After any run from a service that held nothing, the
history holds the last events, as many as it keeps. A watch that is accepted then tells first the
last events of the history that concern it, as many as are asked for, and then what concerns it of
the later events, in order and each once, whatever happens to the service in between. A later event
is left out only if it was overrun; and when nothing is left to read, all the others were told. -/
theorem watch_gapless (limit : Nat) (as : List Act) :
    let s := (Store.empty limit).run as
    s.history = lastOf limit s.published ∧
      ∀ now q sub s₁ ts, s.handle now (.watch q) = (.ok sub, s₁) →
        let w₀ : Watching := ⟨s₁, sub, []⟩
        let w := w₀.play ts
        ∃ sel later lost, Selector.parse q.selector = .ok sel ∧
          w.store.published = s.published ++ later ∧ (∀ j, lost j = true → w₀.OverrunIn ts j) ∧
          let stream := lastOf q.tail (s.history.filter (q.admits sel)) ++
            kept q sel lost s.published.length later
          w.told <+: stream ∧ ((w.sub.next? w.store.published).1 = none → w.told = stream) := by
  intro s
  refine ⟨Store.run_remembers limit as, fun now q sub s₁ ts hopen => ?_⟩
  obtain ⟨sel, hsel, rfl, rfl⟩ := Store.watch_accepted hopen
  intro w₀ w
  obtain ⟨later, hlater⟩ : s.published <+: w.store.published := by
    rw [Watching.play_store]
    exact Store.run_published w₀.store _
  obtain ⟨lost, hf, hlost⟩ := (Following.start q sel s).play ts
  obtain ⟨lost', hlost', hprefix, hall⟩ := hf.stream
  have hdrop : w.store.published.drop s.published.length = later := by
    rw [← hlater, List.drop_left]
  refine ⟨sel, later, lost', hsel, hlater.symm, fun j hj => ?_, hdrop ▸ hprefix, hdrop ▸ hall⟩
  rcases hlost' j hj with hj | hj
  · exact hlost j hj
  · exact ⟨ts, List.prefix_refl ts, hj⟩

/-- A watch that asks for more than the history keeps is told the two machines that it keeps, and
then the next one. -/
theorem watch_gapless_replayed :
    let create (n : Int) (id : String) : Act :=
      .call ⟨n, 0⟩ (.create (Store.bare "a" "Machines" id))
    let s := (Store.empty 2).run [create 1 "m1", create 2 "m2", create 3 "m3"]
    let q : WatchQuery := ⟨"a", "Machines", "", none, 10⟩
    let w₀ : Watching := ⟨s.count .watch, .start s q .everything, []⟩
    let ts : List Turn := [.read, .act (create 5 "m4"), .read, .read]
    s.handle ⟨4, 0⟩ (.watch q) = (.ok w₀.sub, w₀.store) ∧
      ((w₀.play ts).sub.next? (w₀.play ts).store.published).1 = none ∧
      (w₀.play ts).told.map (·.resource.metadata.id) = ["m2", "m3", "m4"] ∧
      ∃ sel later lost, Selector.parse q.selector = .ok sel ∧
        (w₀.play ts).store.published = s.published ++ later ∧
        (∀ j, lost j = true → w₀.OverrunIn ts j) ∧
        (w₀.play ts).told = lastOf q.tail (s.history.filter (q.admits sel)) ++
          kept q sel lost s.published.length later := by
  intro create s q w₀ ts
  have hopen : s.handle ⟨4, 0⟩ (.watch q) = (.ok w₀.sub, w₀.store) := rfl
  have hread : ((w₀.play ts).sub.next? (w₀.play ts).store.published).1 = none := by decide
  obtain ⟨sel, later, lost, hsel, hlater, hlost, -, hall⟩ :=
    (watch_gapless 2 _).2 ⟨4, 0⟩ q _ _ ts hopen
  exact ⟨hopen, hread, by decide, sel, later, lost, hsel, hlater, hlost, hall hread⟩

end Fleet
