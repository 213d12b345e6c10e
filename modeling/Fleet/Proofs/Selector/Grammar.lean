import Fleet.Proofs.Selector.Balance
import Fleet.Proofs.Selector.RoundTrip

/-!
# The grammar of selectors

A selector is read from phrases with commas between them.

* `readTerms_eq_ok_iff`: **pieces are read as the phrases between their commas**, and
  `slotChars_injective`: in one way.
* `Derivation`: how a whole text is derived, piece by piece.
* `parse_iff_derived`: **the reader accepts exactly the texts of the grammar.**
-/

namespace Fleet.Selector

open Text

variable {s : List Char} {ts : List Term} {ps : List (List Char)}

theorem Phrase.chars_ne_nil (φ : Phrase) : φ.chars ≠ [] := by
  cases φ with
  | present key hkey => exact hkey.nonempty
  | absent | differs | equals | set => simp [chars]

/-- What stands between two commas, blanks around it dropped: a phrase, or nothing. -/
def slotChars (slot : Option Phrase) : List Char := slot.elim [] Phrase.chars

/-- The terms of slots, in their order. -/
def slotTerms (slots : List (Option Phrase)) : List Term := slots.filterMap (·.map Phrase.term)

/-- Nothing between two commas is derived in two ways. -/
theorem slotChars_injective : Function.Injective slotChars := by
  intro a b h
  cases a with
  | none =>
    cases b with
    | none => rfl
    | some ψ => exact absurd h.symm ψ.chars_ne_nil
  | some φ =>
    cases b with
    | none => exact absurd h φ.chars_ne_nil
    | some ψ => exact congrArg some (Phrase.chars_injective h)

/-- **Pieces are read** as the terms of the slots between their commas. -/
theorem readTerms_eq_ok_iff : readTerms ps = .ok ts ↔
    ∃ slots, slots.map slotChars = ps.map trim ∧ slotTerms slots = ts := by
  induction ps generalizing ts with
  | nil =>
    constructor
    · intro h
      cases h
      exact ⟨[], rfl, rfl⟩
    · rintro ⟨slots, hchars, rfl⟩
      rw [List.map_eq_nil_iff.1 hchars]
      rfl
  | cons p ps ih =>
    by_cases hblank : trim p = []
    · rw [readTerms_blank hblank, ih]
      constructor
      · rintro ⟨slots, hchars, rfl⟩
        exact ⟨none :: slots, by rw [List.map_cons, List.map_cons, hchars, hblank]; rfl, rfl⟩
      · rintro ⟨slots, hchars, rfl⟩
        obtain ⟨slot, slots, rfl, hslot, hrest⟩ := List.map_eq_cons_iff.1 hchars
        obtain rfl : slot = none := slotChars_injective (hslot.trans hblank)
        exact ⟨slots, hrest, rfl⟩
    · constructor
      · intro h
        obtain ⟨t, rest, hterm, hrest, rfl⟩ := exists_of_readTerms hblank h
        obtain ⟨φ, hφ, rfl⟩ := (readTerm_eq_ok_iff (trimmed_trim p)).1 hterm
        obtain ⟨slots, hchars, rfl⟩ := ih.1 hrest
        exact ⟨some φ :: slots, congrArg₂ List.cons hφ hchars, rfl⟩
      · rintro ⟨slots, hchars, rfl⟩
        obtain ⟨slot, slots, rfl, hslot, hrest⟩ := List.map_eq_cons_iff.1 hchars
        cases slot with
        | none => exact absurd hslot.symm hblank
        | some φ =>
          rw [readTerms_cons hblank, ← hslot, ih.2 ⟨slots, hrest, rfl⟩]
          show (do return (← readTerm φ.chars) :: _) = _
          rw [readTerm_phrase]
          rfl

/-- How a text is derived: its pieces, and what each of them, blanks around it dropped, is derived
from. -/
structure Derivation (s : List Char) where
  pieces : List (List Char)
  slots : List (Option Phrase)
  cut : Cut s pieces
  derived : slots.map slotChars = pieces.map trim

/-- The terms of a derivation, in the order of the pieces. -/
def Derivation.terms (δ : Derivation s) : List Term := slotTerms δ.slots

/-- A text has at most one derivation. -/
instance : Subsingleton (Derivation s) where
  allEq := by
    rintro ⟨ps, slots, hcut, hderived⟩ ⟨ps', slots', hcut', hderived'⟩
    obtain rfl : ps = ps' :=
      Option.some.inj ((pieces?_eq_some_iff.2 hcut).symm.trans (pieces?_eq_some_iff.2 hcut'))
    obtain rfl : slots = slots' :=
      slotChars_injective.list_map (hderived.trans hderived'.symm)
    rfl

/-- Only a balanced text has a derivation. -/
theorem Derivation.balanced (δ : Derivation s) : Balanced s :=
  exists_pieces?_iff.1 ⟨δ.pieces, pieces?_eq_some_iff.2 δ.cut⟩

theorem parse_eq_ok_iff_derivation {x : String} {s : Selector} :
    parse x = .ok s ↔ ∃ δ : Derivation x.toList, δ.terms = s.terms := by
  simp only [parse_eq_ok_iff, pieces?_eq_some_iff, readTerms_eq_ok_iff]
  constructor
  · rintro ⟨ps, hcut, slots, hderived, hterms⟩
    exact ⟨⟨ps, slots, hcut, hderived⟩, hterms⟩
  · rintro ⟨δ, hterms⟩
    exact ⟨δ.pieces, δ.cut, δ.slots, δ.derived, hterms⟩

/-- **The reader accepts exactly the texts of the grammar**: those that are balanced and have a
derivation, as the terms of it in their order. What stands between two commas is derived in at most
one way, and any other text is an invalid argument. -/
theorem parse_iff_derived (x : String) :
    (∀ s, parse x = .ok s ↔
      Balanced x.toList ∧ ∃ δ : Derivation x.toList, δ.terms = s.terms) ∧
    Function.Injective slotChars ∧ Subsingleton (Derivation x.toList) ∧
    ((∃ fault, (parse x).mapError Error.invalidArgument = .error (.invalidArgument fault)) ↔
      ¬(Balanced x.toList ∧ Nonempty (Derivation x.toList))) := by
  refine ⟨fun s => ?_, slotChars_injective, inferInstance, ?_⟩
  · rw [parse_eq_ok_iff_derivation]
    exact ⟨fun ⟨δ, h⟩ => ⟨δ.balanced, δ, h⟩, fun h => h.2⟩
  · cases hparse : parse x with
    | ok s =>
      obtain ⟨δ, -⟩ := parse_eq_ok_iff_derivation.1 hparse
      refine iff_of_false ?_ (not_not_intro ⟨δ.balanced, ⟨δ⟩⟩)
      rintro ⟨fault, hfault⟩
      cases hfault
    | error fault =>
      refine iff_of_true ⟨fault, rfl⟩ ?_
      rintro ⟨-, ⟨δ⟩⟩
      rw [parse_eq_ok_iff_derivation.2 ⟨δ, rfl⟩] at hparse
      cases hparse

/-- The operators of sets are keys as well, and a value can have signs and parentheses. -/
example : parse "in notin ((a, b=c)),, ! app/name ,k == x=y" = .ok
    ⟨[.noneOf "in" ["(a", "b=c)"], .absent "app/name", .equals "k" "x=y"]⟩ := by decide

end Fleet.Selector
