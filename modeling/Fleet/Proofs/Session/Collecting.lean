import Fleet.Proofs.Session.Frame

/-!
# Reading lists to their end

A list is read by asking it for one resource after another and by waiting where it has none yet,
until it ends. Every step takes an entry off its source, gets a wait over or lets a timer or the
deadline of the list pass, so it does end.

* `Gathers`: what reading a list to its end comes to, with no bound on the steps.
* `patience`: how many steps reading takes at most.
* `patience_item`, `patience_waitFor`: **every step brings the end nearer.**
* `gathers_iff`: **the steps that `collect` allows are enough.**
-/

namespace Fleet

namespace Script

variable {α : Type} {now : Time} {w wake : Option Time} {c : Cue α} {cs : List (Cue α)} {a : α}
  {sc : Script α} {ts : List Token}

/-- How many steps a script takes at most: a wait is reached first and then over. -/
def steps (now : Time) : Script α → Nat
  | ⟨.wait _ :: cs, some due⟩ => 2 * cs.length + if due ≤ now then 1 else 2
  | ⟨cs, _⟩ => 2 * cs.length

theorem steps_none (now : Time) (cs : List (Cue α)) :
    (⟨cs, none⟩ : Script α).steps now = 2 * cs.length := by
  cases cs with
  | nil => rfl
  | cons c cs => cases c <;> rfl

theorem steps_le (now : Time) (sc : Script α) : sc.steps now ≤ 2 * sc.cues.length := by
  unfold steps
  split
  · rw [List.length_cons]
    split <;> omega
  · exact Nat.le_refl _

theorem lt_steps_cons (now : Time) (w : Option Time) (c : Cue α) (cs : List (Cue α)) :
    2 * cs.length < (⟨c :: cs, w⟩ : Script α).steps now := by
  unfold steps
  split
  · rename_i h
    cases h
    split <;> omega
  · rename_i h
    cases h
    rw [List.length_cons]
    omega

/-- An item is an entry less. -/
theorem steps_of_item (h : pullFrom now w cs = (.item a, sc, ts)) (t : Time) :
    sc.steps t < (⟨cs, w⟩ : Script α).steps now := by
  induction cs generalizing w ts with
  | nil => cases h
  | cons c cs ih =>
    have hlt := lt_steps_cons now w c cs
    have hrest {ts : List Token} (h : pullFrom now none cs = (.item a, sc, ts)) :
        sc.steps t < (⟨c :: cs, w⟩ : Script α).steps now := by
      have hsc := ih h
      rw [steps_none] at hsc
      exact Nat.lt_trans hsc hlt
    cases c with
    | item b =>
      cases h
      rwa [steps_none]
    | failure status => cases h
    | cancel token =>
      rcases hp : pullFrom now none cs with ⟨p, sc', ts'⟩
      simp only [pullFrom, hp] at h
      cases h
      exact hrest hp
    | wait span =>
      simp only [pullFrom] at h
      split at h
      · exact hrest h
      · cases h

/-- A script that has nothing yet says when it goes on, and is nearer to its end by then. -/
theorem steps_of_pending (h : pullFrom now w cs = (.pending wake, sc, ts)) :
    ∃ due, wake = some due ∧ (∀ t, sc.steps t ≤ (⟨cs, w⟩ : Script α).steps now) ∧
      ∀ t, due ≤ t → sc.steps t < (⟨cs, w⟩ : Script α).steps now := by
  induction cs generalizing w ts with
  | nil => cases h
  | cons c cs ih =>
    have hlt := lt_steps_cons now w c cs
    have hrest {ts : List Token} (h : pullFrom now none cs = (.pending wake, sc, ts)) :
        ∃ due, wake = some due ∧ (∀ t, sc.steps t ≤ (⟨c :: cs, w⟩ : Script α).steps now) ∧
          ∀ t, due ≤ t → sc.steps t < (⟨c :: cs, w⟩ : Script α).steps now := by
      obtain ⟨due, hwake, hle, hsc⟩ := ih h
      rw [steps_none] at hle hsc
      exact ⟨due, hwake, fun t => Nat.le_trans (hle t) (Nat.le_of_lt hlt),
        fun t ht => Nat.lt_trans (hsc t ht) hlt⟩
    cases c with
    | item b => cases h
    | failure status => cases h
    | cancel token =>
      rcases hp : pullFrom now none cs with ⟨p, sc', ts'⟩
      simp only [pullFrom, hp] at h
      cases h
      exact hrest hp
    | wait span =>
      simp only [pullFrom] at h
      split at h
      · exact hrest h
      · -- the wait stays at the front, and is not over yet whether it was reached before or not
        rename_i hdue
        cases h
        have hfront : (⟨.wait span :: cs, w⟩ : Script α).steps now = 2 * cs.length + 2 := by
          cases w with
          | none => exact steps_none now _
          | some due => exact congrArg (2 * cs.length + ·) (if_neg hdue)
        rw [hfront]
        refine ⟨_, rfl, fun t => steps_le t _, fun t ht => ?_⟩
        show 2 * cs.length + (if _ then 1 else 2) < _
        rw [if_pos ht]
        omega

end Script

namespace ListSource

variable {now : Time} {src src' : ListSource} {r : WireResource} {wake : Option Time}
  {ts : List Token}

/-- How many steps a source takes at most. -/
def steps (now : Time) : ListSource → Nat
  | page rs => 2 * rs.length
  | script sc => sc.steps now

theorem steps_le (now : Time) (src : ListSource) : src.steps now ≤ 2 * src.size := by
  cases src with
  | page rs => exact Nat.le_refl _
  | script sc => exact sc.steps_le now

theorem steps_of_item (h : src.pull now = (.item r, src', ts)) (t : Time) :
    src'.steps t < src.steps now := by
  cases src with
  | page rs =>
    cases rs with
    | nil => cases h
    | cons r rs =>
      cases h
      show 2 * rs.length < 2 * (rs.length + 1)
      omega
  | script sc =>
    rcases hp : sc.pull now with ⟨p, sc', ts'⟩
    simp only [pull, hp] at h
    cases h
    exact Script.steps_of_item hp t

/-- Only a script makes a reader wait. -/
theorem steps_of_pending (h : src.pull now = (.pending wake, src', ts)) :
    ∃ due, wake = some due ∧ (∀ t, src'.steps t ≤ src.steps now) ∧
      ∀ t, due ≤ t → src'.steps t < src.steps now := by
  cases src with
  | page rs => cases rs <;> cases h
  | script sc =>
    rcases hp : sc.pull now with ⟨p, sc', ts'⟩
    simp only [pull, hp] at h
    cases h
    exact Script.steps_of_pending hp

end ListSource

namespace Session

variable {s s' : Session} {st st' : ListStream} {acc : List WireResource} {r : WireResource}
  {wake : Option Time} {x : (List WireResource × Ending) × Session}

/-- What reading a list to its end comes to, after what has been read of it, last first. -/
inductive Gathers : List WireResource → ListStream → Session →
    (List WireResource × Ending) × Session → Prop
  | item {acc : List WireResource} {st st' : ListStream} {s s' : Session} {r : WireResource}
    {x : (List WireResource × Ending) × Session} (h : s.pollList st = (.item r, st', s'))
    (hx : Gathers (r :: acc) st' s' x) : Gathers acc st s x
  | ended {acc : List WireResource} {st st' : ListStream} {s s' : Session} {e : Ending}
    (h : s.pollList st = (.ended e, st', s')) : Gathers acc st s ((acc.reverse, e), s')
  | pending {acc : List WireResource} {st st' : ListStream} {s s' : Session} {wake : Option Time}
    {x : (List WireResource × Ending) × Session} (h : s.pollList st = (.pending wake, st', s'))
    (hx : Gathers acc st' (s'.waitFor st'.guard wake) x) : Gathers acc st s x

/-- How many steps reading a list takes at most: those of its source, one for every timer, and two
for its deadline and its end. One that is cancelled or expired ends when it is asked next. -/
def patience (st : ListStream) (s : Session) : Nat :=
  if st.guard.isCancelled s.cancelled || st.guard.isExpired s.now then 1
  else st.source.steps s.now + s.timers.length + 2

theorem patience_pos (st : ListStream) (s : Session) : 0 < patience st s := by
  unfold patience
  split <;> omega

theorem patience_le (st : ListStream) (s : Session) :
    patience st s ≤ st.source.steps s.now + s.timers.length + 2 := by
  unfold patience
  split <;> omega

theorem cancelAll_timers (s : Session) (ts : List Token) : (s.cancelAll ts).timers = s.timers := by
  unfold cancelAll
  induction ts generalizing s with
  | nil => rfl
  | cons t ts ih =>
    rw [List.foldl_cons, ih]
    unfold cancel
    split <;> rfl

theorem advanceTo_timers (s : Session) (t : Time) :
    (s.advanceTo t).timers = s.timers.filter (max s.now t < ·.due) := cancelAll_timers _ _

/-- A list that has not ended when it is asked has asked its source, and no time has passed. -/
theorem pollList_live {g : Guarded WireResource} (h : s.pollList st = (g, st', s'))
    (hg : ∀ e, g ≠ .ended e) :
    patience st s = st.source.steps s.now + s.timers.length + 2 ∧ s'.now = s.now ∧
      s'.timers = s.timers ∧ ∃ p ts, st.source.pull s.now = (p, st'.source, ts) ∧
      Guard.step false false p (st'.guard.isCancelled s'.cancelled) = g := by
  cases hcancelled : st.guard.isCancelled s.cancelled with
  | true =>
    simp only [pollList, hcancelled, Bool.true_or, if_true] at h
    cases h
    exact absurd rfl (hg _)
  | false =>
    cases hexpired : st.guard.isExpired s.now with
    | true =>
      simp only [pollList, hcancelled, hexpired, Bool.or_true, if_true] at h
      cases h
      exact absurd rfl (hg _)
    | false =>
      have hlive : (st.guard.isCancelled s.cancelled || st.guard.isExpired s.now) ≠ true := by
        rw [hcancelled, hexpired]
        exact Bool.false_ne_true
      rcases hp : st.source.pull s.now with ⟨p, source, ts⟩
      simp only [pollList, if_neg hlive, hp] at h
      cases h
      exact ⟨if_neg hlive, cancelAll_now s ts, cancelAll_timers s ts, p, ts, rfl, rfl⟩

/-- **A resource brings the end of its list nearer.** -/
theorem patience_item (h : s.pollList st = (.item r, st', s')) :
    patience st' s' < patience st s := by
  obtain ⟨hpatience, hnow, htimers, p, ts, hpull, hstep⟩ := pollList_live h nofun
  have hle := patience_le st' s'
  have hitem : ∃ a, p = .item a := by
    cases p with
    | item a => exact ⟨a, rfl⟩
    | failed e | pending wake | finished => cases hstep
  obtain ⟨a, rfl⟩ := hitem
  have hsteps := ListSource.steps_of_item hpull s'.now
  rw [htimers] at hle
  omega

/-- What a list that has nothing yet waits for: its source, its deadline or a timer. -/
theorem exists_nextWake (s : Session) (due : Time) (deadline : Option Time) :
    ∃ t, s.nextWake [some due, deadline] = some t ∧
      (t = due ∨ deadline = some t ∨ ∃ timer ∈ s.timers, timer.due = t) := by
  cases hwake : s.nextWake [some due, deadline] with
  | none => exact absurd (List.min?_eq_none_iff.1 hwake) nofun
  | some t =>
    refine ⟨t, rfl, ?_⟩
    rcases List.mem_append.1 (List.min?_mem hwake) with hgiven | htimer
    · obtain ⟨o, ho, rfl⟩ := List.mem_filterMap.1 hgiven
      rcases List.mem_cons.1 ho with hdue | hdeadline
      · exact .inl (Option.some.inj hdue)
      · exact .inr (.inl (List.mem_singleton.1 hdeadline).symm)
    · obtain ⟨timer, hmem, hdue⟩ := List.mem_map.1 htimer
      exact .inr (.inr ⟨timer, hmem, hdue⟩)

/-- A timer that a session has waited for is gone. -/
theorem length_timers_advanceTo_lt {timer : Timer} (h : timer ∈ s.timers) :
    (s.advanceTo timer.due).timers.length < s.timers.length := by
  rw [advanceTo_timers]
  refine List.length_filter_lt_length_iff_exists.2 ⟨timer, h, ?_⟩
  rw [decide_eq_true_eq]
  exact Nat.not_lt.2 (Nat.le_max_right _ _)

/-- **Waiting brings the end of a list nearer**, whatever it is that is waited for. -/
theorem patience_waitFor (h : s.pollList st = (.pending wake, st', s')) :
    patience st' (s'.waitFor st'.guard wake) < patience st s := by
  obtain ⟨hpatience, -, htimers, p, ts, hpull, hstep⟩ := pollList_live h nofun
  have hpending : p = .pending wake := by
    cases p with
    | item a =>
      simp only [Guard.step, Bool.false_eq_true, if_false] at hstep
      split at hstep <;> cases hstep
    | failed e | finished => cases hstep
    | pending wake' => cases hstep; rfl
  subst hpending
  obtain ⟨due, rfl, hle, hlt⟩ := ListSource.steps_of_pending hpull
  unfold waitFor
  split
  · -- it is cancelled, so it ends when it is asked next
    rename_i hcancelled
    have hone : patience st' s' = 1 := by
      unfold patience
      rw [hcancelled, Bool.true_or, if_pos rfl]
    omega
  · obtain ⟨t, hwake, ht⟩ := exists_nextWake s' due st'.guard.deadline
    rw [hwake]
    dsimp only
    have hafter := patience_le st' (s'.advanceTo t)
    have hfewer : (s'.advanceTo t).timers.length ≤ s'.timers.length := by
      rw [advanceTo_timers]
      exact List.length_filter_le _ _
    have hsteps := hle (s'.advanceTo t).now
    rw [htimers] at hfewer
    rcases ht with rfl | hdeadline | ⟨timer, htimer, rfl⟩
    · have hover := hlt (s'.advanceTo t).now (by rw [advanceTo_now]; exact Nat.le_max_right _ _)
      omega
    · have hexpired : st'.guard.isExpired (s'.advanceTo t).now = true := by
        rw [Guard.isExpired, hdeadline, advanceTo_now, Option.any_some]
        exact decide_eq_true (Nat.le_max_right _ _)
      have hone : patience st' (s'.advanceTo t) = 1 := by
        unfold patience
        rw [hexpired, Bool.or_true, if_pos rfl]
      omega
    · have hgone := length_timers_advanceTo_lt htimer
      rw [htimers] at hgone
      omega

/-- Reading a list with enough steps left comes to its end. -/
theorem collectFrom_gathers {fuel : Nat} (h : patience st s ≤ fuel) :
    Gathers acc st s (collectFrom fuel acc st s) := by
  induction fuel generalizing acc st s with
  | zero => exact absurd h (Nat.not_le.2 (patience_pos st s))
  | succ fuel ih =>
    rcases hp : s.pollList st with ⟨g, st', s'⟩
    simp only [collectFrom, hp]
    cases g with
    | item r =>
      have hlt := patience_item hp
      exact .item hp (ih (by omega))
    | ended e => exact .ended hp
    | pending wake =>
      have hlt := patience_waitFor hp
      exact .pending hp (ih (by omega))

/-- What reading a list comes to is what any number of steps does that is enough. -/
theorem Gathers.eq_collectFrom (h : Gathers acc st s x) {fuel : Nat}
    (hfuel : patience st s ≤ fuel) : x = collectFrom fuel acc st s := by
  induction h generalizing fuel with
  | item hp _ ih =>
    have hlt := patience_item hp
    cases fuel with
    | zero => omega
    | succ fuel =>
      simp only [collectFrom, hp]
      exact ih (by omega)
  | ended hp =>
    cases fuel with
    | zero => exact absurd hfuel (Nat.not_le.2 (patience_pos _ _))
    | succ fuel => simp only [collectFrom, hp]
  | pending hp _ ih =>
    have hlt := patience_waitFor hp
    cases fuel with
    | zero => omega
    | succ fuel =>
      simp only [collectFrom, hp]
      exact ih (by omega)

/-- **The steps that are allowed for reading a list are enough**: it is read to its end, to which
nothing else can come. -/
theorem gathers_iff (s : Session) (st : ListStream) : Gathers [] st s x ↔ x = s.collect st := by
  have hfuel : patience st s ≤ 2 * st.source.size + s.timers.length + 4 := by
    have hle := patience_le st s
    have hsteps := st.source.steps_le s.now
    omega
  exact ⟨fun h => h.eq_collectFrom hfuel, fun h => h ▸ collectFrom_gathers hfuel⟩

end Session

end Fleet
