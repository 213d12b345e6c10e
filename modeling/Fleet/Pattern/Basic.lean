import Fleet.Pattern.CharSet

/-!
# Regular expressions

A pattern matches a text if one of its matches starts anywhere in the text.

* `Regex.ends`: the places where a match that starts at a place may end.
* `Regex.occurs`: a match starts somewhere.
-/

namespace Fleet

/-- A condition on the characters around a place. -/
inductive Look where
  | textStart
  | textEnd
  /-- `crlf`: carriage returns end lines too. -/
  | lineStart (crlf : Bool)
  | lineEnd (crlf : Bool)
  /-- A word, by the given set, starts or ends here. -/
  | boundary (word : CharSet)
  | noBoundary (word : CharSet)
  | wordStart (word : CharSet)
  | wordEnd (word : CharSet)
  /-- No word goes on from the left. -/
  | wordStartHalf (word : CharSet)
  /-- No word goes on to the right. -/
  | wordEndHalf (word : CharSet)
  deriving Repr

/-- A regular expression. -/
inductive Regex where
  | empty
  | set (s : CharSet)
  | look (l : Look)
  | seq (a b : Regex)
  | alt (a b : Regex)
  /-- At least `least` and at most `most` times. -/
  | times (a : Regex) (least : Nat) (most : Option Nat)
  deriving Repr, Inhabited

namespace Look

/-- The condition holds between two characters. -/
def holds (l : Look) (before after : Option Char) : Bool :=
  let isWord (s : CharSet) (c : Option Char) : Bool := c.any fun c => s.contains c.toNat
  match l with
  | textStart => before.isNone
  | textEnd => after.isNone
  | lineStart false => before.isNone || before == some '\n'
  | lineEnd false => after.isNone || after == some '\n'
  | lineStart true =>
    before.isNone || before == some '\n' || (before == some '\r' && after != some '\n')
  | lineEnd true =>
    after.isNone || after == some '\r' || (after == some '\n' && before != some '\r')
  | boundary s => isWord s before != isWord s after
  | noBoundary s => isWord s before == isWord s after
  | wordStart s => !isWord s before && isWord s after
  | wordEnd s => isWord s before && !isWord s after
  | wordStartHalf s => !isWord s before
  | wordEndHalf s => !isWord s after

end Look

/-- A place in a text: the character before it and the text after it. -/
structure Spot where
  before : Option Char
  after : List Char
  deriving DecidableEq, Repr

/-- The places of either list, each once. -/
def mergeSpots (a b : List Spot) : List Spot :=
  b.foldl (fun ss s => if ss.any (·.after.length == s.after.length) then ss else ss ++ [s]) a

namespace Regex

/-- Repeat a step, keeping every place that is reached. -/
def closure (step : Spot → List Spot) : Nat → List Spot → List Spot
  | 0, ss => ss
  | n + 1, ss => closure step n (mergeSpots ss (ss.flatMap step))

/-- Repeat a step exactly so often. -/
def power (step : Spot → List Spot) : Nat → List Spot → List Spot
  | 0, ss => ss
  | n + 1, ss => if ss.isEmpty then [] else power step n (mergeSpots [] (ss.flatMap step))

/-- The places where a match that starts at a place may end. -/
def ends : Regex → Spot → List Spot
  | empty, s => [s]
  | set cs, s =>
    match s.after with
    | c :: r => if cs.contains c.toNat then [⟨some c, r⟩] else []
    | [] => []
  | look l, s => if l.holds s.before s.after.head? then [s] else []
  | seq a b, s => mergeSpots [] ((a.ends s).flatMap b.ends)
  | alt a b, s => mergeSpots (a.ends s) (b.ends s)
  | times a least most, s =>
    let start := power a.ends least [s]
    match most with
    | none => closure a.ends (s.after.length + 1) start
    | some n => closure a.ends (min (n - least) (s.after.length + 1)) start

/-- A match starts at a place of the text or later. -/
def occursFrom (r : Regex) (before : Option Char) : List Char → Bool
  | [] => !(r.ends ⟨before, []⟩).isEmpty
  | c :: s => !(r.ends ⟨before, c :: s⟩).isEmpty || occursFrom r (some c) s

/-- A match starts somewhere in the text. -/
def occurs (r : Regex) (s : String) : Bool :=
  r.occursFrom none s.toList

end Regex

end Fleet
