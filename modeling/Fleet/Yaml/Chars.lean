import Fleet.Text.Digits

/-!
# Characters of YAML

The character classes of the notation, and the place of a character in its stream.

* `Place`: how many characters, lines and columns precede a character.
* `skipBreak`: pass over the line break at the front of a text.
-/

namespace Fleet.Yaml

open Text

/-- A line break: carriage return, line feed, next line, line or paragraph separator. -/
def isBreak (c : Char) : Bool :=
  c == '\r' || c == '\n' || c == '\u0085' || c == '\u2028' || c == '\u2029'

/-- A space or a tab. -/
def isGap (c : Char) : Bool :=
  c == ' ' || c == '\t'

/-- A text that is empty or starts with a gap or a break. -/
def startsBlank : List Char → Bool
  | [] => true
  | c :: _ => isGap c || isBreak c

/-- A letter, a digit, `_` or `-`. -/
def isWordChar (c : Char) : Bool :=
  isDigit c || ('a' ≤ c && c ≤ 'z') || ('A' ≤ c && c ≤ 'Z') || c == '_' || c == '-'

/-- A brace, bracket or comma, which end a plain scalar inside a flow collection. -/
def isFlowMark (c : Char) : Bool :=
  c == ',' || c == '[' || c == ']' || c.toNat == 0x7B || c.toNat == 0x7D

/-- A character that may stand in a stream at all. -/
def isAllowed (c : Char) : Bool :=
  let n := c.toNat
  n == 0x09 || n == 0x0A || n == 0x0D || (0x20 ≤ n && n ≤ 0x7E) || n == 0x85 ||
    (0xA0 ≤ n && n ≤ 0xD7FF) || (0xE000 ≤ n && n ≤ 0xFFFD) || 0x10000 ≤ n

/-- The byte order mark. -/
def byteOrderMark : Char := '\ufeff'

/-- How many characters, lines and columns precede a character. -/
structure Place where
  index : Nat
  line : Nat
  column : Nat
  deriving DecidableEq, Repr

namespace Place

/-- The start of a stream. -/
def start : Place := ⟨0, 0, 0⟩

/-- After `n` characters of the same line. -/
def skip (p : Place) (n : Nat) : Place := ⟨p.index + n, p.line, p.column + n⟩

/-- After a line break of `n` characters. -/
def newline (p : Place) (n : Nat) : Place := ⟨p.index + n, p.line + 1, 0⟩

end Place

/-- How a line break reads: separators stand for themselves, every other break is a line feed. -/
def breakChar (c : Char) : Char :=
  if c == '\u2028' || c == '\u2029' then c else '\n'

/-- Pass over the line break at the front, if there is one. -/
def skipBreak (p : Place) : List Char → Place × List Char
  | [] => (p, [])
  | c :: s =>
    if c == '\r' && s.head? == some '\n' then (p.newline 2, s.tail)
    else if isBreak c then (p.newline 1, s)
    else (p, c :: s)

/-- Three characters that mark the start or the end of a document, with a blank after them. -/
def marksDocument (s : List Char) : Bool :=
  ("---".toList.isPrefixOf s || "...".toList.isPrefixOf s) && startsBlank (s.drop 3)

end Fleet.Yaml
