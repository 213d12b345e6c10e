import Fleet.Unicode.Category
import Fleet.Unicode.CaseRuns

/-!
# Lower case

Lower-casing a text maps each character on its own, but for a capital sigma: at the end of a word
it becomes a final sigma.

* `lowerChar`: the mapping of one character.
* `lower`: the mapping of a text.
* `endsWord`: a capital sigma here stands at the end of a word.
-/

namespace Fleet.Text

open Unicode

/-- The capital sigma. -/
def capitalSigma : Char := 'Σ'

/-- The lower case of one character on its own: one character, or two for a dotted capital I. -/
def lowerChar (c : Char) : List Char :=
  if c.toNat < 0x80 then [c.toLower]
  else if c.toNat == 0x130 then ['i', '\u0307']
  else [Char.ofNat (moveBy lowerRuns c.toNat)]

/-- The first character that casing does not look through has case. -/
def meetsCased (s : List Char) : Bool :=
  match s.dropWhile isCaseIgnorable with
  | [] => false
  | c :: _ => isCased c

/-- A position with `before` (nearest first) and `after` around it stands at the end of a word. -/
def endsWord (before after : List Char) : Bool :=
  meetsCased before && !meetsCased after

/-- Lower-case the rest of a text of which `before` (nearest first) has been read. -/
def lowerFrom (before : List Char) : List Char → List Char
  | [] => []
  | c :: s =>
    (if c == capitalSigma then [if endsWord before s then 'ς' else 'σ'] else lowerChar c) ++
      lowerFrom (c :: before) s

/-- The text in lower case. -/
def lower (s : String) : String :=
  String.ofList (lowerFrom [] s.toList)

end Fleet.Text
