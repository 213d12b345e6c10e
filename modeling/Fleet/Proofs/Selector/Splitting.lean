import Fleet.Proofs.Selector.Balance
import Fleet.Proofs.Text.Slice

/-!
# The scan of a selector

What the pass over the bytes of a text finds.

* `Scan.Behind.complete_eq`: **the pieces that have ended, the piece so far and the pieces of the
  rest** are what the scan returns, from wherever it stands.
* `split?_eq`: a text is split into its pieces.
* `splits_without_loss`: **splitting loses nothing and cuts only outside parentheses**, and it
  slices at the edges of characters.
-/

namespace Fleet.Selector

open Text

variable {scan : Scan} {text done piece s : List Char} {c : Char} {i : Nat}

/-- A character that goes to the piece, and the parentheses it leaves open. -/
theorem Scan.read_step {e : Nat} (hcomma : ¬(c = ',' ∧ scan.depth = 0))
    (he : (scan.depth : Int) + rise c = e) :
    scan.read text i c = some (.ok { scan with depth := e }) := by
  unfold Scan.read
  by_cases hopen : c = '('
  · subst hopen
    have hrise : rise '(' = 1 := rfl
    obtain rfl : scan.depth + 1 = e := by omega
    rw [if_pos rfl]
  · rw [if_neg hopen]
    by_cases hclose : c = ')'
    · subst hclose
      have hrise : rise ')' = -1 := rfl
      obtain rfl : scan.depth - 1 = e := by omega
      rw [if_pos rfl, if_neg (by omega)]
    · rw [rise, if_neg hopen, if_neg hclose, Int.add_zero] at he
      obtain rfl : scan.depth = e := Int.ofNat.inj he
      rw [if_neg hclose, if_neg hcomma]

/-- What a character leaves to be read. -/
theorem Scan.complete_cons {next : Scan} (hread : scan.read (done ++ c :: s) (byteSize done) c =
    some (.ok next)) : scan.complete (done ++ c :: s) (byteSize done) (c :: s) =
      next.complete ((done ++ [c]) ++ s) (byteSize (done ++ [c])) s := by
  rw [byteSize_append, List.append_assoc]
  unfold Scan.complete
  rw [Scan.run, hread]
  rfl

/-- **The pieces that have ended**, the piece so far and the pieces of the rest are what the scan
returns. -/
theorem Scan.Behind.complete_eq (h : scan.Behind done piece) (s : List Char) :
    scan.complete (done ++ s) (byteSize done) s =
      some ((pieces? scan.depth s).elim (.error (unbalanced (done ++ s))) fun ps =>
        .ok (scan.pieces ++ piece.foldr consFirst ps)) := by
  -- the invariant is `Behind`: the piece so far is what a slice would be at this place
  induction s generalizing scan done piece with
  | nil =>
    have hslice := h.slice? []
    rw [List.append_nil] at hslice ⊢
    show scan.finish done = _
    unfold Scan.finish pieces?
    by_cases hdepth : scan.depth = 0
    · rw [if_pos hdepth, if_pos hdepth, hslice, Option.elim_some, foldr_consFirst, List.append_nil]
      rfl
    · rw [if_neg hdepth, if_neg hdepth]
      rfl
  | cons c s ih =>
    rcases read_cases c scan.depth with ⟨rfl, hdepth⟩ | ⟨rfl, hdepth⟩ | ⟨hcomma, e, he⟩
    · -- the piece so far has ended, and the next one has no characters yet
      rw [Scan.complete_cons (h.read_comma hdepth s), ih (Scan.behind_comma rfl), hdepth,
        pieces?_cut, List.append_assoc]
      cases pieces? 0 s with
      | none => rfl
      | some ps => simp [foldr_consFirst]
    · rw [hdepth, pieces?_close]
      unfold Scan.complete
      rw [Scan.run, Scan.read_close hdepth]
      rfl
    · have hnext : { scan with depth := e }.Behind (done ++ [c]) (piece ++ [c]) := h.extend rfl c
      rw [Scan.complete_cons (Scan.read_step hcomma he), ih hnext, pieces?_step hcomma he,
        List.append_assoc]
      cases pieces? e s with
      | none => rfl
      | some ps => simp [List.foldr_append]

/-- **A text is split** into its pieces. -/
theorem split?_eq (text : List Char) :
    split? text = some ((pieces? 0 text).elim (.error (unbalanced text)) .ok) :=
  Scan.behind_start.complete_eq text

/-- A text stands by itself if its parentheses are balanced and every comma is inside of some. -/
theorem within_zero_iff : Within 0 s 0 ↔
    Balanced s ∧ ∀ u v, s = u ++ ',' :: v → 0 < level u := by
  constructor
  · intro h
    refine ⟨⟨fun p hp => ?_, ?_⟩, ?_⟩
    · simpa using h.nonneg p hp
    · simpa using h.after
    · rintro u v rfl
      have hcomma := h.comma u ⟨v, by rw [List.append_assoc]; rfl⟩
      omega
  · rintro ⟨hbalanced, hcomma⟩
    refine ⟨fun p hp => ?_, ?_, ?_⟩
    · simpa using hbalanced.nested p hp
    · rintro p ⟨v, rfl⟩
      have hlevel := hcomma p v (by rw [List.append_assoc]; rfl)
      omega
    · simpa using hbalanced.closed

/-- The pieces of a text are what it is split into. -/
theorem split?_eq_ok_iff {ps : List (List Char)} : split? text = some (.ok ps) ↔ Cut text ps := by
  rw [split?_eq, ← pieces?_eq_some_iff]
  cases pieces? 0 text <;> simp

/-- The one fault is that the parentheses are not balanced. -/
theorem split?_eq_error_iff {fault : ArgumentFault} :
    split? text = some (.error fault) ↔ ¬Balanced text ∧ fault = unbalanced text := by
  rw [split?_eq, ← exists_pieces?_iff]
  cases pieces? 0 text with
  | none => simp [eq_comm]
  | some ps => simp

/-- Wherever the scan stands, what lies behind it begins and ends at the edge of a character. -/
theorem Scan.isValid_of_run {s : String} {rest : List Char} (hs : s.toList = done ++ rest)
    (hrun : Scan.run {} s.toList 0 done = some (.ok scan)) :
    scan.start ≤ byteSize done ∧ String.Pos.Raw.IsValid s ⟨scan.start⟩ ∧
      String.Pos.Raw.IsValid s ⟨byteSize done⟩ := by
  have hstart := Scan.behind_start.run done rest
  simp only [List.nil_append, byteSize_nil, ← hs, hrun] at hstart
  rcases hstart with ⟨fault, hfault⟩ | ⟨next, piece, hnext, hbehind⟩
  · cases hfault
  · cases hnext
    have hslice := hbehind.slice? rest
    rw [← hs] at hslice
    exact (isSome_slice?_iff s _ _).1 (Option.isSome_of_eq_some hslice)

/-- **Splitting loses nothing and cuts only outside parentheses.** A text is refused exactly if its
parentheses are not balanced. Otherwise its pieces are the only texts that are the text again when
they are joined by commas, with balanced parentheses and no comma outside of them in any. Every
slice is taken from the byte where a piece begins to the byte the scan has come to, in order and
both at the edge of a character. -/
theorem splits_without_loss (s : String) :
    (∀ fault, split? s.toList = some (.error fault) ↔
      ¬Balanced s.toList ∧ fault = .badTerm .unbalanced s) ∧
    (∀ ps, split? s.toList = some (.ok ps) ↔
      ps ≠ [] ∧ String.ofList (joinWith [','] ps) = s ∧
        ∀ p ∈ ps, Balanced p ∧ ∀ u v, p = u ++ ',' :: v → 0 < level u) ∧
    split? s.toList ≠ none ∧
    ∀ done scan, done <+: s.toList → Scan.run {} s.toList 0 done = some (.ok scan) →
      scan.start ≤ byteSize done ∧ String.Pos.Raw.IsValid s ⟨scan.start⟩ ∧
        String.Pos.Raw.IsValid s ⟨byteSize done⟩ := by
  refine ⟨fun fault => ?_, fun ps => ?_, ?_, ?_⟩
  · rw [split?_eq_error_iff, unbalanced, String.ofList_toList]
  · rw [split?_eq_ok_iff]
    simp only [← within_zero_iff]
    constructor
    · rintro ⟨hne, hjoined, hwithin⟩
      exact ⟨hne, by rw [hjoined, String.ofList_toList], hwithin⟩
    · rintro ⟨hne, rfl, hwithin⟩
      exact ⟨hne, String.toList_ofList.symm, hwithin⟩
  · exact Option.isSome_iff_ne_none.1 (isSome_split? s.toList)
  · rintro done scan ⟨rest, hrest⟩ hrun
    exact Scan.isValid_of_run hrest.symm hrun

/-- A piece may be empty, and may have characters of several bytes. -/
example : split? "é (λ,μ),ü=,".toList = some (.ok ["é (λ,μ)".toList, "ü=".toList, []]) := by decide

end Fleet.Selector
