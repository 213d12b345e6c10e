import Fleet.Error
import Fleet.Text.Slice

/-!
# Splitting a selector

A selector is split into terms at the commas outside parentheses. One pass over the characters
counts the open parentheses and keeps the byte where the next piece begins; a piece is sliced out of
the text when it ends.

* `Scan.read`, `Scan.run`: the pass, one character at a time.
* `split?`: the pieces of a text, or the fault that its parentheses are not balanced; `none` if a
  piece would be sliced inside a character.
* `isSome_split?`: **no piece is.**
-/

namespace Fleet.Selector

open Text

/-- The parentheses of the text are not balanced. -/
def unbalanced (text : List Char) : ArgumentFault :=
  .badTerm .unbalanced (String.ofList text)

/-- How far a text is split: the pieces that have ended, the parentheses that are open, and the byte
where the next piece begins. -/
structure Scan where
  pieces : List (List Char) := []
  depth : Nat := 0
  start : Nat := 0

namespace Scan

variable {scan next : Scan} {text done piece : List Char} {c : Char} {i : Nat}

/-- Read the character `c` at byte `i` of the text. -/
def read (scan : Scan) (text : List Char) (i : Nat) (c : Char) :
    Option (Except ArgumentFault Scan) :=
  if c = '(' then some (.ok { scan with depth := scan.depth + 1 })
  else if c = ')' then
    if scan.depth = 0 then some (.error (unbalanced text))
    else some (.ok { scan with depth := scan.depth - 1 })
  else if c = ',' ∧ scan.depth = 0 then
    (slice? scan.start i text).map fun piece =>
      .ok { scan with pieces := scan.pieces ++ [piece], start := i + 1 }
  else some (.ok scan)

/-- Read characters of the text, the first of them at byte `i`. -/
def run (scan : Scan) (text : List Char) (i : Nat) : List Char → Option (Except ArgumentFault Scan)
  | [] => some (.ok scan)
  | c :: s =>
    match scan.read text i c with
    | some (.ok next) => next.run text (i + c.utf8Size) s
    | some (.error fault) => some (.error fault)
    | none => none

/-- The pieces behind the last character; the last piece ends with the text. -/
def finish (scan : Scan) (text : List Char) : Option (Except ArgumentFault (List (List Char))) :=
  if scan.depth = 0 then
    (slice? scan.start (byteSize text) text).map fun piece => .ok (scan.pieces ++ [piece])
  else some (.error (unbalanced text))

/-- Read all characters from byte `i` on. -/
def complete (scan : Scan) (text : List Char) (i : Nat) (s : List Char) :
    Option (Except ArgumentFault (List (List Char))) :=
  match scan.run text i s with
  | some (.ok last) => last.finish text
  | some (.error fault) => some (.error fault)
  | none => none

/-- The scan has read `done`, and `piece` at the end of it is the next piece so far. -/
def Behind (scan : Scan) (done piece : List Char) : Prop :=
  ∃ u, done = u ++ piece ∧ byteSize u = scan.start

theorem behind_start : ({} : Scan).Behind [] [] := ⟨[], rfl, rfl⟩

/-- The piece so far can be sliced. -/
theorem Behind.slice? (h : scan.Behind done piece) (rest : List Char) :
    Text.slice? scan.start (byteSize done) (done ++ rest) = some piece := by
  obtain ⟨u, rfl, hstart⟩ := h
  rw [← hstart]
  exact slice?_append u piece rest

/-- A character that goes to the piece. -/
theorem Behind.extend (h : scan.Behind done piece) (hstart : next.start = scan.start) (c : Char) :
    next.Behind (done ++ [c]) (piece ++ [c]) := by
  obtain ⟨u, rfl, hu⟩ := h
  exact ⟨u, List.append_assoc u piece [c], hu.trans hstart.symm⟩

/-- Behind a comma the next piece has no characters yet. -/
theorem behind_comma (hstart : next.start = byteSize done + 1) : next.Behind (done ++ [',']) [] :=
  ⟨done ++ [','], (List.append_nil _).symm, (byteSize_append done [',']).trans hstart.symm⟩

/-- A comma outside parentheses ends the piece. -/
theorem Behind.read_comma (h : scan.Behind done piece) (hdepth : scan.depth = 0)
    (rest : List Char) : scan.read (done ++ ',' :: rest) (byteSize done) ',' =
      some (.ok { scan with pieces := scan.pieces ++ [piece], start := byteSize done + 1 }) := by
  rw [Scan.read, if_neg (by decide), if_neg (by decide), if_pos ⟨rfl, hdepth⟩, h.slice?]
  rfl

/-- A parenthesis that closes what is not open. -/
theorem read_close (hdepth : scan.depth = 0) :
    scan.read text i ')' = some (.error (unbalanced text)) := by
  rw [Scan.read, if_neg (by decide), if_pos rfl, if_pos hdepth]

/-- Any other character goes to the piece. -/
theorem read_other (hcomma : ¬(c = ',' ∧ scan.depth = 0)) (hclose : ¬(c = ')' ∧ scan.depth = 0)) :
    ∃ depth, scan.read text i c = some (.ok { scan with depth := depth }) := by
  unfold Scan.read
  by_cases hopens : c = '('
  · exact ⟨_, if_pos hopens⟩
  · rw [if_neg hopens]
    by_cases hcloses : c = ')'
    · rw [if_pos hcloses, if_neg fun hdepth => hclose ⟨hcloses, hdepth⟩]
      exact ⟨_, rfl⟩
    · rw [if_neg hcloses, if_neg hcomma]
      exact ⟨scan.depth, rfl⟩

/-- Reading a character never slices inside one. -/
theorem Behind.read (h : scan.Behind done piece) (c : Char) (rest : List Char) :
    (∃ fault, scan.read (done ++ c :: rest) (byteSize done) c = some (.error fault)) ∨
    ∃ next piece', scan.read (done ++ c :: rest) (byteSize done) c = some (.ok next) ∧
      next.Behind (done ++ [c]) piece' := by
  by_cases hcomma : c = ',' ∧ scan.depth = 0
  · obtain ⟨rfl, hdepth⟩ := hcomma
    exact .inr ⟨_, _, h.read_comma hdepth rest, behind_comma rfl⟩
  · by_cases hclose : c = ')' ∧ scan.depth = 0
    · obtain ⟨rfl, hdepth⟩ := hclose
      exact .inl ⟨_, read_close hdepth⟩
    · obtain ⟨depth, hread⟩ := read_other hcomma hclose
      exact .inr ⟨_, _, hread, h.extend rfl c⟩

/-- Reading on never slices inside a character. -/
theorem Behind.run (h : scan.Behind done piece) (s rest : List Char) :
    (∃ fault, scan.run (done ++ (s ++ rest)) (byteSize done) s = some (.error fault)) ∨
    ∃ next piece', scan.run (done ++ (s ++ rest)) (byteSize done) s = some (.ok next) ∧
      next.Behind (done ++ s) piece' := by
  induction s generalizing scan done piece with
  | nil => exact .inr ⟨scan, piece, rfl, by rwa [List.append_nil]⟩
  | cons c s ih =>
    rcases h.read c (s ++ rest) with ⟨fault, hread⟩ | ⟨next, piece', hread, hnext⟩
    · exact .inl ⟨fault, by rw [Scan.run, List.cons_append, hread]⟩
    · have hrest := ih hnext
      rw [byteSize_append, List.append_assoc, List.append_assoc] at hrest
      rw [Scan.run, List.cons_append, hread]
      exact hrest

end Scan

/-- Split a text at the commas outside parentheses. -/
def split? (text : List Char) : Option (Except ArgumentFault (List (List Char))) :=
  Scan.complete {} text 0 text

/-- **No piece is sliced inside a character.** -/
theorem isSome_split? (text : List Char) : (split? text).isSome = true := by
  have hrun := Scan.behind_start.run text []
  simp only [List.nil_append, List.append_nil, byteSize_nil] at hrun
  unfold split? Scan.complete
  rcases hrun with ⟨fault, hfault⟩ | ⟨last, piece, hlast, hbehind⟩
  · rw [hfault]
    rfl
  · have hslice := hbehind.slice? []
    rw [List.append_nil] at hslice
    rw [hlast]
    dsimp only
    unfold Scan.finish
    split
    · rw [hslice]
      rfl
    · rfl

end Fleet.Selector
