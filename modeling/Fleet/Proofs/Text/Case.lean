import Fleet.Text.Case
import Mathlib.Data.List.Infix
import Mathlib.Data.List.TakeWhile
import Mathlib.Tactic.Common

/-!
# The lower case of a passage

A text is lower-cased one character at a time, but for capital sigmas, which also look at what
stands around them. So a passage of a text has the lower case that it has alone, unless a capital
sigma of it ends a word in one of the two and not in the other.

* `lowerIn`: the lower case of a passage, by what stands around it; `lowerFrom_append`, that a text
  is lower-cased passage by passage.
* `SameWordEnds`: a passage ends the same words in a text as it does alone.
* `lowerIn_eq_iff`: **only word ends tell the lower cases of a passage apart.**
* `SameWordEnds.infix_lower`: then its lower case occurs in that of the whole text.
* `Settled`: no capital sigma of a text looks beyond it; `infix_lower_iff`: **these texts are found
  in the lower case of every text that they occur in**, and no others.
-/

namespace Fleet.Text

open Unicode

variable {before before' after after' p q s t : List Char}

/-- The lower case of a character that stands between `before` (nearest first) and `after`. -/
def lowerOne (before after : List Char) (c : Char) : List Char :=
  if c == capitalSigma then [if endsWord before after then 'ς' else 'σ'] else lowerChar c

/-- The lower case of a passage that stands between `before` (nearest first) and `after`. -/
def lowerIn (before after : List Char) : List Char → List Char
  | [] => []
  | c :: s => lowerOne before (s ++ after) c ++ lowerIn (c :: before) after s

/-- A text is lower-cased passage by passage. -/
theorem lowerFrom_append (before s t : List Char) :
    lowerFrom before (s ++ t) = lowerIn before t s ++ lowerFrom (s.reverse ++ before) t := by
  induction s generalizing before with
  | nil => rfl
  | cons c s ih =>
    rw [List.cons_append, lowerFrom, ih, lowerIn, lowerOne, List.reverse_cons, List.append_assoc,
      List.append_assoc, List.singleton_append]

theorem lowerIn_nil (before s : List Char) : lowerIn before [] s = lowerFrom before s := by
  have h := lowerFrom_append before s []
  rw [List.append_nil] at h
  rw [h]
  exact (List.append_nil _).symm

theorem length_lowerOne (before before' after after' : List Char) (c : Char) :
    (lowerOne before after c).length = (lowerOne before' after' c).length := by
  unfold lowerOne
  split <;> rfl

/-- Only a capital sigma looks at what stands around it. -/
theorem lowerOne_eq_iff {c : Char} : lowerOne before after c = lowerOne before' after' c ↔
    (c = capitalSigma → endsWord before after = endsWord before' after') := by
  unfold lowerOne
  by_cases hc : c = capitalSigma
  · subst hc
    cases endsWord before after <;> cases endsWord before' after' <;> simp
  · simp [hc]

/-- **Only word ends tell the lower cases of a passage apart**: each of its capital sigmas has to
end a word in both places or in neither. -/
theorem lowerIn_eq_iff : lowerIn before after s = lowerIn before' after' s ↔
    ∀ u v, s = u ++ capitalSigma :: v → endsWord (u.reverse ++ before) (v ++ after) =
      endsWord (u.reverse ++ before') (v ++ after') := by
  induction s generalizing before before' with
  | nil => simp [lowerIn]
  | cons c s ih =>
    have hlength := length_lowerOne before before' (s ++ after) (s ++ after') c
    have hsplit : lowerIn before after (c :: s) = lowerIn before' after' (c :: s) ↔
        lowerOne before (s ++ after) c = lowerOne before' (s ++ after') c ∧
          lowerIn (c :: before) after s = lowerIn (c :: before') after' s :=
      ⟨fun h => List.append_inj h hlength, fun h => by rw [lowerIn, lowerIn, h.1, h.2]⟩
    rw [hsplit, lowerOne_eq_iff, ih]
    -- a sigma of the passage is its first character or one of the others
    constructor
    · rintro ⟨hfirst, hothers⟩ u v huv
      cases u with
      | nil =>
        obtain ⟨hc, rfl⟩ := List.cons.inj huv
        exact hfirst hc
      | cons d u =>
        obtain ⟨rfl, rfl⟩ := List.cons.inj huv
        have hends := hothers u v rfl
        simpa using hends
    · intro h
      refine ⟨fun hc => h [] s (by rw [hc]; rfl), fun u v huv => ?_⟩
      have hends := h (c :: u) v (by rw [huv]; rfl)
      simpa using hends

/-- A text between `p` and `q` ends the same words there as it does alone. -/
def SameWordEnds (p s q : List Char) : Prop :=
  ∀ u v, s = u ++ capitalSigma :: v →
    endsWord (u.reverse ++ p.reverse) (v ++ q) = endsWord u.reverse v

/-- A text that ends the same words in another one has the lower case there that it has alone. -/
theorem lowerIn_eq_lowerFrom_iff :
    lowerIn p.reverse q s = lowerFrom [] s ↔ SameWordEnds p s q := by
  rw [← lowerIn_nil, lowerIn_eq_iff]
  simp only [SameWordEnds, List.append_nil]

/-- **The lower case of a text that occurs in another one** occurs in that of the other, if the same
words end. -/
theorem SameWordEnds.infix_lower (h : SameWordEnds p s q) :
    lowerFrom [] s <:+: lowerFrom [] (p ++ s ++ q) := by
  rw [List.append_assoc, lowerFrom_append, lowerFrom_append, List.append_nil,
    lowerIn_eq_lowerFrom_iff.2 h]
  exact ⟨_, _, List.append_assoc _ _ _⟩

/-! ### Texts whose lower case does not depend on their place -/

/-- Casing looks through a text only if all of it is ignored. -/
theorem meetsCased_append (s t : List Char) : meetsCased (s ++ t) =
    if s.all isCaseIgnorable then meetsCased t else meetsCased s := by
  have hnil : s.dropWhile isCaseIgnorable = [] ↔ s.all isCaseIgnorable = true := by
    rw [List.dropWhile_eq_nil_iff, List.all_eq_true]
  unfold meetsCased
  rw [List.dropWhile_append]
  cases hs : s.dropWhile isCaseIgnorable with
  | nil =>
    rw [if_pos (hnil.1 hs)]
    rfl
  | cons c s' =>
    have hall : ¬s.all isCaseIgnorable = true := fun hall => by
      rw [hnil.2 hall] at hs
      cases hs
    rw [if_neg hall]
    rfl

theorem meetsCased_of_all (h : s.all isCaseIgnorable = true) : meetsCased s = false := by
  have hnil := meetsCased_append s []
  rw [List.append_nil, if_pos h] at hnil
  exact hnil

/-- No capital sigma of a text looks beyond it: one that ends a word is followed by something that
casing does not look through, and so is one in front of which there is nothing else; what follows
the latter has case. -/
def Settled (s : List Char) : Prop :=
  ∀ u v, s = u ++ capitalSigma :: v →
    (meetsCased u.reverse = true → v.all isCaseIgnorable = false) ∧
      (u.all isCaseIgnorable = true → meetsCased v = true)

/-- A text without capital sigmas is settled. -/
theorem settled_of_not_mem (h : capitalSigma ∉ s) : Settled s := by
  rintro u v rfl
  simp at h

/-- A settled text ends the same words wherever it stands. -/
theorem Settled.sameWordEnds (h : Settled s) (p q : List Char) : SameWordEnds p s q := by
  intro u v huv
  obtain ⟨hends, hbegins⟩ := h u v huv
  unfold endsWord
  rw [meetsCased_append, meetsCased_append, List.all_reverse]
  cases hu : u.all isCaseIgnorable with
  | true =>
    have hv := hbegins hu
    have hall : v.all isCaseIgnorable = false := by
      cases hall : v.all isCaseIgnorable with
      | false => rfl
      | true => rw [meetsCased_of_all hall] at hv; cases hv
    rw [hall, hv, Bool.not_true, Bool.and_false]
    exact Bool.and_false _
  | false =>
    cases hcased : meetsCased u.reverse with
    | false => rfl
    | true =>
      rw [hends hcased]
      rfl

/-- A passage that ends more words in one place than in another has as many more final sigmas there
and as many less of the others. -/
theorem count_lowerIn (h : ∀ u v, s = u ++ capitalSigma :: v →
      endsWord (u.reverse ++ before) (v ++ after) = true →
        endsWord (u.reverse ++ before') (v ++ after') = true) :
    ∃ d, (lowerIn before' after' s).count 'ς' = (lowerIn before after s).count 'ς' + d ∧
      (lowerIn before after s).count 'σ' = (lowerIn before' after' s).count 'σ' + d ∧
      (d = 0 → lowerIn before after s = lowerIn before' after' s) := by
  induction s generalizing before before' with
  | nil => exact ⟨0, rfl, rfl, fun _ => rfl⟩
  | cons c s ih =>
    have hrest : ∀ u v, s = u ++ capitalSigma :: v →
        endsWord (u.reverse ++ c :: before) (v ++ after) = true →
          endsWord (u.reverse ++ c :: before') (v ++ after') = true := by
      intro u v huv
      have hcons := h (c :: u) v (by rw [huv]; rfl)
      simpa using hcons
    obtain ⟨d, hfinal, hother, hsame⟩ := ih hrest
    simp only [lowerIn, List.count_append, hfinal, hother]
    by_cases hone : lowerOne before (s ++ after) c = lowerOne before' (s ++ after') c
    · rw [hone]
      exact ⟨d, by omega, by omega, fun hd => by rw [hsame hd]⟩
    · -- only a sigma differs, and it ends a word in the second place
      rw [lowerOne_eq_iff, Classical.not_imp] at hone
      obtain ⟨rfl, hends⟩ := hone
      have hmono := h [] s rfl
      have hbefore : endsWord before (s ++ after) = false := by
        cases hb : endsWord before (s ++ after) with
        | false => rfl
        | true => exact absurd (hb.trans (hmono hb).symm) hends
      have hafter : endsWord before' (s ++ after') = true := by
        cases ha : endsWord before' (s ++ after') with
        | true => rfl
        | false => exact absurd (hbefore.trans ha.symm) hends
      refine ⟨d + 1, ?_, ?_, fun hd => absurd hd (Nat.succ_ne_zero d)⟩
      · simp only [lowerOne, hbefore, hafter]
        simp
        omega
      · simp only [lowerOne, hbefore, hafter]
        simp
        omega

theorem meetsCased_letter : meetsCased ['a'] = true := by decide +kernel

/-- A letter at the end of a text is found if nothing before it is. -/
theorem meetsCased_append_letter (h : meetsCased s = true ∨ s.all isCaseIgnorable = true) :
    meetsCased (s ++ ['a']) = true := by
  rw [meetsCased_append]
  by_cases hall : s.all isCaseIgnorable = true
  · rw [if_pos hall]
    exact meetsCased_letter
  · rw [if_neg hall]
    exact h.resolve_right hall

/-- In front of a letter, what ends a word ends one alone. -/
theorem endsWord_of_letter {u v : List Char} (h : endsWord u (v ++ ['a']) = true) :
    endsWord u v = true := by
  unfold endsWord at h ⊢
  rw [Bool.and_eq_true, Bool.not_eq_true'] at h ⊢
  refine ⟨h.1, Bool.eq_false_iff.2 fun hv => ?_⟩
  rw [meetsCased_append_letter (.inl hv)] at h
  cases h.2

/-- After a letter, what ends a word alone ends one as well. -/
theorem endsWord_after_letter {u v : List Char} (h : endsWord u v = true) :
    endsWord (u ++ ['a']) v = true := by
  unfold endsWord at h ⊢
  rw [Bool.and_eq_true] at h ⊢
  exact ⟨meetsCased_append_letter (.inl h.1), h.2⟩

/-- A text whose last word ends in a capital sigma is missed in front of a letter: there are less
final sigmas. -/
theorem missed_before_letter {u v : List Char} (hs : s = u ++ capitalSigma :: v)
    (hu : meetsCased u.reverse = true) (hv : v.all isCaseIgnorable = true) :
    ¬lowerFrom [] s <:+: lowerFrom [] (s ++ ['a']) := by
  intro hinfix
  have hmono : ∀ u v, s = u ++ capitalSigma :: v →
      endsWord (u.reverse ++ []) (v ++ ['a']) = true →
        endsWord (u.reverse ++ []) (v ++ []) = true := by
    intro u v _ h
    rw [List.append_nil v]
    exact endsWord_of_letter h
  obtain ⟨d, hcount, -, hsame⟩ := count_lowerIn hmono
  have hd : d ≠ 0 := by
    intro hd
    have hends := lowerIn_eq_iff.1 (hsame hd) u v hs
    rw [List.append_nil, List.append_nil, endsWord, endsWord, hu,
      meetsCased_append_letter (.inr hv), meetsCased_of_all hv] at hends
    cases hends
  have hletter : lowerFrom (s.reverse ++ []) ['a'] = ['a'] := rfl
  have hle := hinfix.sublist.count_le 'ς'
  rw [lowerFrom_append, List.count_append, hletter, ← lowerIn_nil, hcount,
    List.count_singleton, if_neg (by decide)] at hle
  omega

/-- A text that begins with a capital sigma where no word begins is missed after a letter: there are
more final sigmas. -/
theorem missed_after_letter {u v : List Char} (hs : s = u ++ capitalSigma :: v)
    (hu : u.all isCaseIgnorable = true) (hv : meetsCased v = false) :
    ¬lowerFrom [] s <:+: lowerFrom [] ('a' :: s) := by
  intro hinfix
  have hmono : ∀ u v, s = u ++ capitalSigma :: v →
      endsWord (u.reverse ++ []) (v ++ []) = true →
        endsWord (u.reverse ++ ['a']) (v ++ []) = true := by
    intro u v _ h
    rw [List.append_nil u.reverse] at h
    exact endsWord_after_letter h
  obtain ⟨d, -, hcount, hsame⟩ := count_lowerIn hmono
  have hu : u.reverse.all isCaseIgnorable = true := by rw [List.all_reverse]; exact hu
  have hd : d ≠ 0 := by
    intro hd
    have hends := lowerIn_eq_iff.1 (hsame hd) u v hs
    rw [List.append_nil, List.append_nil, endsWord, endsWord, hv,
      meetsCased_append_letter (.inr hu), meetsCased_of_all hu] at hends
    cases hends
  have hle := hinfix.sublist.count_le 'σ'
  have hafter : lowerFrom [] ('a' :: s) = 'a' :: lowerFrom ['a'] s := rfl
  rw [hafter, List.count_cons_of_ne (by decide), ← lowerIn_nil, ← lowerIn_nil, hcount] at hle
  omega

/-- **A text is found in the lower case of every text that it occurs in** exactly if it is
settled. -/
theorem infix_lower_iff : (∀ text, s <:+: text → lowerFrom [] s <:+: lowerFrom [] text) ↔
    Settled s := by
  constructor
  · intro h u v hs
    refine ⟨fun hu => Bool.eq_false_iff.2 fun hv => ?_, fun hu => ?_⟩
    · exact missed_before_letter hs hu hv (h _ (List.prefix_append s _).isInfix)
    · cases hv : meetsCased v with
      | true => rfl
      | false => exact absurd (h _ (List.suffix_cons 'a' s).isInfix) (missed_after_letter hs hu hv)
  · rintro h text ⟨p, q, rfl⟩
    exact (h.sameWordEnds p q).infix_lower

end Fleet.Text
