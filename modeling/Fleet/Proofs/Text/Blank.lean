import Fleet.Text.Blank
import Mathlib.Data.List.Infix
import Mathlib.Data.List.TakeWhile
import Mathlib.Tactic.Common

/-!
# Trimmed and split texts

* `Trimmed`: no blank at either end; `trim_eq`, `trimmed_trim`: **trimming makes a text so** and
  leaves it so.
* `exists_eq_trim`: trimming takes blanks away and nothing else; `trim_surround`: all of them.
* `splitOn_joinWith`, `joinWith_splitOn`: the pieces of joined texts, and back.
* `splitOnce?_append`, `splitOnce?_eq_some`, `splitOnce?_eq_none_iff`: the first occurrence of a
  separator.
* `words_append`: words on either side of a blank; `exists_of_words_cons`: the first word of a text.
* `occursIn_iff`: a piece is found exactly if it is an infix.
-/

namespace Fleet.Text

variable {c d : Char} {a b s t u v w : List Char} {ws : List (List Char)} {sep : List Char}
  {p : Char → Bool}

/-- There is no blank at either end. -/
structure Trimmed (s : List Char) : Prop where
  start : ∀ c, s.head? = some c → isBlank c = false
  stop : ∀ c, s.getLast? = some c → isBlank c = false

theorem trimStart_eq (h : ∀ c, s.head? = some c → isBlank c = false) : trimStart s = s := by
  cases s with
  | nil => rfl
  | cons c s => exact List.dropWhile_cons_of_neg (by simp [h c rfl])

theorem trimEnd_eq (h : ∀ c, s.getLast? = some c → isBlank c = false) : trimEnd s = s := by
  have hreverse : trimStart s.reverse = s.reverse :=
    trimStart_eq fun c hc => h c (by rwa [List.head?_reverse] at hc)
  rw [trimEnd, ← trimStart, hreverse, List.reverse_reverse]

/-- Trimming leaves a text without blanks at its ends as it is. -/
theorem trim_eq (h : Trimmed s) : trim s = s := by
  rw [trim, trimStart_eq h.start, trimEnd_eq h.stop]

theorem trimStart_append (ha : ∀ c ∈ a, isBlank c = true) (s : List Char) :
    trimStart (a ++ s) = trimStart s :=
  List.dropWhile_append_of_pos ha

theorem trimEnd_append (hb : ∀ c ∈ b, isBlank c = true) (s : List Char) :
    trimEnd (s ++ b) = trimEnd s := by
  have hreverse : trimStart (b.reverse ++ s.reverse) = trimStart s.reverse :=
    trimStart_append (fun c hc => hb c (List.mem_reverse.1 hc)) _
  rw [trimEnd, ← trimStart, List.reverse_append, hreverse, trimStart, trimEnd]

/-- Trimming takes all blanks around a text away. -/
theorem trim_surround (ha : ∀ c ∈ a, isBlank c = true) (hs : Trimmed s)
    (hb : ∀ c ∈ b, isBlank c = true) : trim (a ++ s ++ b) = s := by
  rcases eq_or_ne s [] with rfl | hne
  · have hall : ∀ c ∈ a ++ [] ++ b, isBlank c = true := by
      intro c hc
      rw [List.append_nil, List.mem_append] at hc
      exact hc.elim (ha c) (hb c)
    have hstart := trimStart_append hall []
    rw [List.append_nil] at hstart
    rw [trim, hstart]
    rfl
  · have hstart : trimStart (s ++ b) = s ++ b := by
      refine trimStart_eq fun c hc => hs.start c ?_
      rwa [List.head?_append_of_ne_nil _ hne] at hc
    rw [trim, List.append_assoc, trimStart_append ha, hstart, trimEnd_append hb,
      trimEnd_eq hs.stop]

/-- The first character that is left is not blank. -/
theorem head?_trimStart (h : (trimStart s).head? = some c) : isBlank c = false := by
  have hhead := List.head?_dropWhile_not isBlank s
  rw [show s.dropWhile isBlank = trimStart s from rfl, h] at hhead
  exact hhead

/-- The last character that is left is not blank. -/
theorem getLast?_trimEnd (h : (trimEnd s).getLast? = some c) : isBlank c = false := by
  rw [trimEnd, List.getLast?_reverse] at h
  exact head?_trimStart h

/-- What is taken away from the end is blank. -/
theorem exists_eq_trimEnd (s : List Char) :
    ∃ b, s = trimEnd s ++ b ∧ ∀ c ∈ b, isBlank c = true := by
  refine ⟨(s.reverse.takeWhile isBlank).reverse, ?_, fun c hc => ?_⟩
  · rw [trimEnd, ← List.reverse_append, List.takeWhile_append_dropWhile, List.reverse_reverse]
  · rw [List.mem_reverse] at hc
    exact List.mem_takeWhile_imp hc

/-- Trimming takes blanks away at both ends and nothing else. -/
theorem exists_eq_trim (s : List Char) : ∃ a b, s = a ++ trim s ++ b ∧
    (∀ c ∈ a, isBlank c = true) ∧ ∀ c ∈ b, isBlank c = true := by
  obtain ⟨b, hb, hblank⟩ := exists_eq_trimEnd (trimStart s)
  refine ⟨s.takeWhile isBlank, b, ?_, fun c hc => List.mem_takeWhile_imp hc, hblank⟩
  rw [List.append_assoc, trim, ← hb, trimStart, List.takeWhile_append_dropWhile]

theorem trim_isInfix (s : List Char) : trim s <:+: s := by
  obtain ⟨a, b, hs, -, -⟩ := exists_eq_trim s
  exact ⟨a, b, hs.symm⟩

/-- What is not blank is left. -/
theorem mem_trim (h : c ∈ s) (hc : isBlank c = false) : c ∈ trim s := by
  obtain ⟨a, b, hs, ha, hb⟩ := exists_eq_trim s
  rw [hs, List.mem_append, List.mem_append] at h
  rcases h with (h | h) | h
  · exact absurd (ha c h) (by simp [hc])
  · exact h
  · exact absurd (hb c h) (by simp [hc])

/-- A trimmed text has no blank at either end. -/
theorem trimmed_trim (s : List Char) : Trimmed (trim s) where
  start c hc := by
    obtain ⟨b, hb, -⟩ := exists_eq_trimEnd (trimStart s)
    -- what is left is a start of what the first step left
    refine head?_trimStart (s := s) ?_
    rw [hb, List.head?_append, show (trimEnd (trimStart s)).head? = some c from hc]
    rfl
  stop c hc := getLast?_trimEnd hc

/-- A text without blanks has none at its ends. -/
theorem trimmed_of_not_isBlank (h : ∀ c ∈ s, isBlank c = false) : Trimmed s where
  start c hc := h c (List.mem_of_head? hc)
  stop c hc := h c (List.mem_of_getLast? hc)

theorem trimmed_singleton (h : isBlank c = false) : Trimmed [c] where
  start d hd := by cases hd; exact h
  stop d hd := by cases hd; exact h

theorem Trimmed.append (hs : Trimmed s) (ht : Trimmed t) : Trimmed (s ++ t) where
  start c hc := by
    rw [List.head?_append, Option.or_eq_some_iff] at hc
    exact hc.elim (hs.start c) fun h => ht.start c h.2
  stop c hc := by
    rw [List.getLast?_append, Option.or_eq_some_iff] at hc
    exact hc.elim (ht.stop c) fun h => hs.stop c h.2

/-- There are no blanks in front of a trimmed text. -/
theorem Trimmed.front_eq_nil (h : Trimmed (a ++ s)) (ha : ∀ c ∈ a, isBlank c = true) : a = [] := by
  cases a with
  | nil => rfl
  | cons c a =>
    have hblank := ha c List.mem_cons_self
    rw [h.start c rfl] at hblank
    cases hblank

/-- There are no blanks behind a trimmed text. -/
theorem Trimmed.back_eq_nil (h : Trimmed (s ++ b)) (hb : ∀ c ∈ b, isBlank c = true) : b = [] := by
  rcases List.eq_nil_or_concat b with rfl | ⟨b, c, rfl⟩
  · rfl
  · have hblank := hb c (by simp)
    rw [h.stop c (by simp)] at hblank
    cases hblank

/-- Only what stands at the ends of a text matters. -/
theorem Trimmed.surround (hs : Trimmed s) (hsne : s ≠ []) (ht : Trimmed t) (htne : t ≠ [])
    (u : List Char) : Trimmed (s ++ u ++ t) where
  start c hc := by
    obtain ⟨d, s, rfl⟩ := List.exists_cons_of_ne_nil hsne
    exact hs.start c hc
  stop c hc := by
    rw [List.getLast?_append_of_ne_nil _ htne] at hc
    exact ht.stop c hc

/-- The pieces between separators are those of the library. -/
theorem splitWhere_eq (p : Char → Bool) (s : List Char) : splitWhere p s = s.splitOnP p := by
  induction s with
  | nil => rfl
  | cons c s ih =>
    rw [splitWhere, List.splitOnP_cons_eq_if_modifyHead, ih]
    split
    · rfl
    · cases hs : s.splitOnP p with
      | nil => exact absurd hs (List.splitOnP_ne_nil p s)
      | cons q qs => rfl

/-- Texts without a character come back from being joined by it. -/
theorem splitOn_joinWith {ps : List (List Char)} (h : ∀ q ∈ ps, c ∉ q) (hne : ps ≠ []) :
    splitOn c (joinWith [c] ps) = ps := by
  rw [splitOn, splitWhere_eq, ← List.splitOn_eq_splitOnP]
  exact List.splitOn_intercalate c h hne

/-- The pieces of a text joined again. -/
theorem joinWith_splitOn (c : Char) (s : List Char) : joinWith [c] (splitOn c s) = s := by
  rw [splitOn, splitWhere_eq, ← List.splitOn_eq_splitOnP]
  exact List.intercalate_splitOn c

/-- No piece holds the character that was split at. -/
theorem not_mem_of_mem_splitOn (h : u ∈ splitOn c s) : c ∉ u := by
  induction s generalizing u with
  | nil =>
    obtain rfl := List.mem_singleton.1 (show u ∈ [[]] from h)
    exact List.not_mem_nil
  | cons d s ih =>
    unfold splitOn splitWhere at h
    split at h
    · rcases List.mem_cons.1 h with rfl | h
      · exact List.not_mem_nil
      · exact ih h
    · rename_i hd
      -- the first piece takes the new character, which is another one
      cases hs : splitWhere (· == c) s with
      | nil => rw [splitWhere_eq] at hs; exact absurd hs (List.splitOnP_ne_nil _ s)
      | cons q qs =>
        rw [hs] at h
        rcases List.mem_cons.1 h with rfl | h
        · rw [List.mem_cons, not_or]
          refine ⟨fun he => hd (by simp [he]), ih ?_⟩
          rw [splitOn, hs]
          exact List.mem_cons_self
        · refine ih ?_
          rw [splitOn, hs]
          exact List.mem_cons_of_mem q h

/-- The words on either side of a blank. -/
theorem words_append (hc : isBlank c = true) (s t : List Char) :
    words (s ++ c :: t) = words s ++ words t := by
  simp only [words, splitWhere_eq, List.splitOnP_append_cons s t hc, List.filter_append]

/-- A text without blanks is one word. -/
theorem words_eq_singleton (h : ∀ c ∈ s, isBlank c = false) (hne : s ≠ []) : words s = [s] := by
  rw [words, splitWhere_eq, List.splitOnP_eq_singleton h]
  simp [hne]

/-- What is not split at stays in some piece. -/
theorem exists_mem_splitWhere (h : c ∈ s) (hc : p c = false) : ∃ w ∈ splitWhere p s, c ∈ w := by
  induction s with
  | nil => exact absurd h List.not_mem_nil
  | cons d s ih =>
    unfold splitWhere
    rcases List.mem_cons.1 h with rfl | h
    · rw [hc, if_neg Bool.false_ne_true]
      cases splitWhere p s with
      | nil => exact ⟨[c], List.mem_cons_self, List.mem_cons_self⟩
      | cons q qs => exact ⟨c :: q, List.mem_cons_self, List.mem_cons_self⟩
    · obtain ⟨w, hw, hmem⟩ := ih h
      split
      · exact ⟨w, List.mem_cons_of_mem _ hw, hmem⟩
      · cases hs : splitWhere p s with
        | nil => simp [hs] at hw
        | cons q qs =>
          rw [hs] at hw
          rcases List.mem_cons.1 hw with rfl | hw
          · exact ⟨d :: w, List.mem_cons_self, List.mem_cons_of_mem d hmem⟩
          · exact ⟨w, List.mem_cons_of_mem _ hw, hmem⟩

/-- What is not blank stands in a word. -/
theorem exists_mem_words (h : c ∈ s) (hc : isBlank c = false) : ∃ w ∈ words s, c ∈ w := by
  obtain ⟨w, hw, hmem⟩ := exists_mem_splitWhere h hc
  refine ⟨w, List.mem_filter.2 ⟨hw, ?_⟩, hmem⟩
  simpa using List.ne_nil_of_mem hmem

/-- Blanks in front of a text are no words. -/
theorem words_blank_append (ha : ∀ c ∈ a, isBlank c = true) (s : List Char) :
    words (a ++ s) = words s := by
  induction a with
  | nil => rfl
  | cons c a ih =>
    obtain ⟨hc, ha⟩ := List.forall_mem_cons.1 ha
    exact (words_append hc [] (a ++ s)).trans (ih ha)

/-- Blanks behind a text are no words. -/
theorem words_append_blank (hb : ∀ c ∈ b, isBlank c = true) (s : List Char) :
    words (s ++ b) = words s := by
  cases b with
  | nil => rw [List.append_nil]
  | cons c b =>
    obtain ⟨hc, hb⟩ := List.forall_mem_cons.1 hb
    have hnone := words_blank_append hb []
    rw [List.append_nil] at hnone
    rw [words_append hc, hnone]
    exact List.append_nil _

/-- Words with blanks between them. -/
theorem words_gap (ha : ∀ c ∈ a, isBlank c = true) (hne : a ≠ []) (s t : List Char) :
    words (s ++ a ++ t) = words s ++ words t := by
  obtain ⟨c, a, rfl⟩ := List.exists_cons_of_ne_nil hne
  obtain ⟨hc, ha⟩ := List.forall_mem_cons.1 ha
  rw [List.append_assoc, List.cons_append, words_append hc, words_blank_append ha]

/-- A text without words is blank. -/
theorem isBlank_of_words_eq_nil (h : words s = []) : ∀ c ∈ s, isBlank c = true := by
  intro c hc
  by_contra hblank
  obtain ⟨w, hw, -⟩ := exists_mem_words hc (Bool.eq_false_iff.2 hblank)
  rw [h] at hw
  cases hw

/-- The first word of a text: there are blanks in front of it, and one behind it unless the text
ends. -/
theorem exists_of_words_cons (h : words s = w :: ws) : ∃ a t, s = a ++ w ++ t ∧
    (∀ c ∈ a, isBlank c = true) ∧ (∀ c ∈ w, isBlank c = false) ∧ w ≠ [] ∧ words t = ws ∧
    ∀ c, t.head? = some c → isBlank c = true := by
  have hsplit := List.takeWhile_append_dropWhile (p := isBlank) (l := s)
  have hblank : ∀ c ∈ s.takeWhile isBlank, isBlank c = true := fun c hc =>
    List.mem_takeWhile_imp hc
  have hhead : ∀ c, (s.dropWhile isBlank).head? = some c → isBlank c = false := fun c hc =>
    head?_trimStart (s := s) hc
  generalize s.takeWhile isBlank = a at hsplit hblank
  generalize s.dropWhile isBlank = r at hsplit hhead
  rw [← hsplit, words_blank_append hblank] at h
  -- the word is the longest start of the rest without blanks
  have hrest := List.takeWhile_append_dropWhile (p := fun c => !isBlank c) (l := r)
  have hword : ∀ c ∈ r.takeWhile (fun c => !isBlank c), isBlank c = false := fun c hc => by
    simpa using List.mem_takeWhile_imp hc
  have hend : ∀ c, (r.dropWhile fun c => !isBlank c).head? = some c → isBlank c = true := by
    intro c hc
    have hnot := List.head?_dropWhile_not (fun c => !isBlank c) r
    rw [hc] at hnot
    simpa using hnot
  have hne : r.takeWhile (fun c => !isBlank c) ≠ [] := by
    cases r with
    | nil => cases h
    | cons c r =>
      rw [List.takeWhile_cons_of_pos (by simp [hhead c rfl])]
      exact List.cons_ne_nil _ _
  generalize r.takeWhile (fun c => !isBlank c) = u at hrest hword hne
  generalize r.dropWhile (fun c => !isBlank c) = t at hrest hend
  have hwords : words r = u :: words t := by
    rw [← hrest]
    cases t with
    | nil =>
      rw [List.append_nil, words_eq_singleton hword hne]
      rfl
    | cons c t =>
      have hc := hend c rfl
      have htail : words (c :: t) = words t := words_append hc [] t
      rw [words_append hc, words_eq_singleton hword hne, htail]
      rfl
  rw [hwords] at h
  obtain ⟨rfl, hws⟩ := List.cons.inj h
  exact ⟨a, t, by rw [List.append_assoc, hrest, hsplit], hblank, hword, hne, hws, hend⟩

/-- A text of two words: there are blanks between them, and perhaps around them. -/
theorem exists_of_words_pair (h : words s = [u, v]) : ∃ a g b, s = a ++ u ++ g ++ v ++ b ∧
    (∀ c ∈ a, isBlank c = true) ∧ (∀ c ∈ u, isBlank c = false) ∧
    (g ≠ [] ∧ ∀ c ∈ g, isBlank c = true) ∧ ∀ c ∈ b, isBlank c = true := by
  obtain ⟨a, t, rfl, ha, hu, -, ht, hhead⟩ := exists_of_words_cons h
  obtain ⟨g, b, rfl, hg, hv, hne, hb, -⟩ := exists_of_words_cons ht
  refine ⟨a, g, b, by simp, ha, hu, ⟨?_, hg⟩, isBlank_of_words_eq_nil hb⟩
  rintro rfl
  obtain ⟨c, v, rfl⟩ := List.exists_cons_of_ne_nil hne
  have hblank := hhead c rfl
  rw [hv c List.mem_cons_self] at hblank
  cases hblank

/-- What stands around a separator. -/
theorem splitOnce?_eq_some (h : splitOnce? sep s = some (u, v)) : s = u ++ sep ++ v := by
  induction s generalizing u with
  | nil =>
    unfold splitOnce? at h
    split at h
    · rename_i hsep
      rw [List.isEmpty_iff] at hsep
      cases h
      rw [hsep]
      rfl
    · cases h
  | cons c s ih =>
    unfold splitOnce? at h
    split at h
    · rename_i hpre
      obtain ⟨t, ht⟩ := List.isPrefixOf_iff_prefix.1 hpre
      cases h
      rw [← ht, List.nil_append, List.drop_left]
    · obtain ⟨⟨u', v'⟩, hs, he⟩ := Option.map_eq_some_iff.1 h
      cases he
      rw [ih hs]
      rfl

/-- A separator of one character is met at its first occurrence. -/
theorem not_mem_of_splitOnce? (h : splitOnce? [c] s = some (u, v)) : c ∉ u := by
  induction s generalizing u with
  | nil => cases h
  | cons d s ih =>
    unfold splitOnce? at h
    split at h
    · cases h
      exact List.not_mem_nil
    · rename_i hpre
      obtain ⟨⟨u', v'⟩, hs, he⟩ := Option.map_eq_some_iff.1 h
      cases he
      rw [List.mem_cons, not_or]
      exact ⟨fun he => hpre (by simp [he, List.isPrefixOf]), ih hs⟩

/-- A separator is missed only where it does not occur. -/
theorem splitOnce?_eq_none_iff (hsep : sep ≠ []) : splitOnce? sep s = none ↔ ¬sep <:+: s := by
  induction s with
  | nil =>
    unfold splitOnce?
    simp [hsep]
  | cons c s ih =>
    unfold splitOnce?
    rw [List.infix_cons_iff, not_or, ← ih, ← List.isPrefixOf_iff_prefix]
    split
    · rename_i hpre
      simp [hpre]
    · rename_i hpre
      simp [hpre]

theorem splitOnce?_eq_none (hd : d ∈ sep) (hs : d ∉ s) : splitOnce? sep s = none :=
  (splitOnce?_eq_none_iff (List.ne_nil_of_mem hd)).2 fun hsep => hs (hsep.mem hd)

/-- A text cannot begin before its first character occurs. -/
theorem infix_append_iff (h : c ∉ u) : c :: sep <:+: u ++ v ↔ c :: sep <:+: v := by
  induction u with
  | nil => rfl
  | cons d u ih =>
    rw [List.mem_cons, not_or] at h
    have hpre : ¬c :: sep <+: d :: (u ++ v) := fun hpre => h.1 (List.cons_prefix_cons.1 hpre).1
    rw [List.cons_append, List.infix_cons_iff, or_iff_right hpre, ih h.2]

/-- A separator is met where its first character has not occurred before. -/
theorem splitOnce?_append (h : c ∉ u) (v : List Char) :
    splitOnce? (c :: sep) (u ++ c :: sep ++ v) = some (u, v) := by
  induction u with
  | nil =>
    have hpre : (c :: sep).isPrefixOf (c :: (sep ++ v)) = true :=
      List.isPrefixOf_iff_prefix.2 (List.prefix_append (c :: sep) v)
    rw [List.nil_append, List.cons_append, splitOnce?, if_pos hpre]
    simp
  | cons d u ih =>
    rw [List.mem_cons, not_or] at h
    have hpre : (c :: sep).isPrefixOf (d :: (u ++ c :: sep ++ v)) = false := by
      simp [List.isPrefixOf, h.1]
    rw [List.cons_append, List.cons_append, splitOnce?, hpre, if_neg Bool.false_ne_true, ih h.2]
    rfl

/-- There is only one first occurrence. -/
theorem eq_of_append_cons {u' v' : List Char} (hu : c ∉ u) (hu' : c ∉ u')
    (h : u ++ c :: v = u' ++ c :: v') : u = u' ∧ v = v' := by
  have hsplit : splitOnce? [c] (u ++ c :: v) = some (u, v) := by
    rw [List.append_cons]
    exact splitOnce?_append hu v
  have hsplit' : splitOnce? [c] (u' ++ c :: v') = some (u', v') := by
    rw [List.append_cons]
    exact splitOnce?_append hu' v'
  rw [h, hsplit'] at hsplit
  obtain ⟨rfl, rfl⟩ := Prod.mk.inj (Option.some.inj hsplit)
  exact ⟨rfl, rfl⟩

/-- A known end is removed. -/
theorem dropEnd?_eq_some_iff : dropEnd? t s = some u ↔ s = u ++ t := by
  unfold dropEnd?
  constructor
  · intro h
    split at h
    · rename_i hsuf
      obtain ⟨w, rfl⟩ := List.isSuffixOf_iff_suffix.1 hsuf
      cases h
      simp
    · cases h
  · rintro rfl
    rw [if_pos (List.isSuffixOf_iff_suffix.2 (List.suffix_append u t))]
    simp

/-- A piece is found exactly if it is an infix. -/
theorem occursIn_iff : occursIn s t = true ↔ s <:+: t := by
  induction t with
  | nil => simp [occursIn]
  | cons c t ih =>
    rw [occursIn, Bool.or_eq_true, ih, List.isPrefixOf_iff_prefix, List.infix_cons_iff]

end Fleet.Text
