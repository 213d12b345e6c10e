import Fleet.Yaml.Chars
import Fleet.Yaml.Number
import Fleet.Yaml.Token.Basic

/-!
# Writing scalars

A text is written plain where it can be, and otherwise in the first style that can hold it.

* `styleOf`: the style that a text is written in.
* `print`: the written form of a text in that style.
-/

namespace Fleet.Yaml

open Text

/-- A character that may stand for itself outside double quotes. -/
def isPrintable (c : Char) : Bool :=
  let n := c.toNat
  n == 0x0A || (0x20 ≤ n && n ≤ 0x7E) || (0xA0 ≤ n && n ≤ 0xD7FF) ||
    (0xE000 ≤ n && n ≤ 0xFFFD && n != 0xFEFF) || 0x10000 ≤ n

/-- The spellings of null, the truth values and the empty text. -/
def isReservedWord (s : List Char) : Bool :=
  ["", "~", "null", "Null", "NULL", "true", "True", "TRUE", "false", "False", "FALSE"].contains
    (String.ofList s)

/-- A plain scalar of this text would read as something other than a text. -/
def readsOtherwise (s : List Char) : Bool :=
  isReservedWord s || isZeroPadded s || isNumber s

/-- A character that no plain scalar starts with. -/
def isLeadingIndicator (c : Char) : Bool :=
  "#,[]&*!|>'\"%@\x60".toList.contains c || c.toNat == 0x7B || c.toNat == 0x7D

/-- There is a colon with a blank after it or a `#` with a blank before it. -/
def hasInnerIndicator (afterBlank : Bool) : List Char → Bool
  | [] => false
  | c :: s =>
    (c == ':' && startsBlank s) || (c == '#' && afterBlank) ||
      hasInnerIndicator (isGap c || isBreak c) s

/-- The text would be taken for notation if it stood plain. -/
def hasIndicator (s : List Char) : Bool :=
  "---".toList.isPrefixOf s || "...".toList.isPrefixOf s || hasInnerIndicator true s ||
    match s with
    | [] => false
    | c :: r => isLeadingIndicator c || ((c == '?' || c == '-') && startsBlank r)

/-- Two characters that stand next to each other. -/
def hasNeighbors (p q : Char → Bool) : List Char → Bool
  | c :: d :: s => (p c && q d) || hasNeighbors p q (d :: s)
  | _ => false

/-- A space. -/
def isSpaceChar (c : Char) : Bool := c == ' '

/-- The text needs the escapes of double quotes: a character that does not print, or a space before
a line break. -/
def needsEscapes (s : List Char) : Bool :=
  s.any (!isPrintable ·) || hasNeighbors isSpaceChar isBreak s

/-- A plain scalar can hold the text. -/
def fitsPlain (s : List Char) : Bool :=
  !(needsEscapes s || s.any isBreak || hasIndicator s || (s.head?).any isSpaceChar ||
    (s.getLast?).any isSpaceChar)

/-- A scalar in single quotes can hold the text. -/
def fitsSingleQuoted (s : List Char) : Bool :=
  !(needsEscapes s || hasNeighbors isBreak isSpaceChar s)

/-- A literal scalar can hold the text. -/
def fitsLiteral (s : List Char) : Bool :=
  !(needsEscapes s || (s.getLast?).any isSpaceChar)

/-- The style that a text is written in. -/
def styleOf (s : List Char) : Style :=
  if s.contains '\n' then if fitsLiteral s then .literal else .doubleQuoted
  else if !readsOtherwise s && fitsPlain s then .plain
  else if fitsSingleQuoted s then .singleQuoted
  else .doubleQuoted

/-- So many hexadecimal digits of a number, in upper case. -/
def upperHex : Nat → Nat → List Char
  | 0, _ => []
  | width + 1, n => upperHex width (n / 16) ++ [(Nat.digitChar (n % 16)).toUpper]

/-- One character between double quotes. -/
def escaped (c : Char) : List Char :=
  match c with
  | '\x00' => ['\\', '0']
  | '\x07' => ['\\', 'a']
  | '\x08' => ['\\', 'b']
  | '\t' => ['\\', 't']
  | '\n' => ['\\', 'n']
  | '\x0b' => ['\\', 'v']
  | '\x0c' => ['\\', 'f']
  | '\r' => ['\\', 'r']
  | '\x1b' => ['\\', 'e']
  | '"' => ['\\', '"']
  | '\\' => ['\\', '\\']
  | '\u0085' => ['\\', 'N']
  | '\u2028' => ['\\', 'L']
  | '\u2029' => ['\\', 'P']
  | c =>
    if isPrintable c then [c]
    else if c.toNat ≤ 0xFF then '\\' :: 'x' :: upperHex 2 c.toNat
    else if c.toNat ≤ 0xFFFF then '\\' :: 'u' :: upperHex 4 c.toNat
    else '\\' :: 'U' :: upperHex 8 c.toNat

/-- So many spaces. -/
def spaces (n : Nat) : List Char := List.replicate n ' '

/-- The text between single quotes. A line that follows a break is indented. -/
def singleQuotedFrom (indent : Nat) (afterBreak : Bool) : List Char → List Char
  | [] => if afterBreak then spaces indent else []
  | c :: s =>
    if isBreak c then c :: singleQuotedFrom indent true s
    else
      (if afterBreak then spaces indent else []) ++
        (if c == '\'' then ['\'', '\''] else [c]) ++ singleQuotedFrom indent false s

/-- The lines of a literal scalar. A line that is not empty is indented. -/
def literalFrom (indent : Nat) (afterBreak : Bool) : List Char → List Char
  | [] => []
  | c :: s =>
    if isBreak c then c :: literalFrom indent true s
    else (if afterBreak then spaces indent else []) ++ c :: literalFrom indent false s

/-- The header of a literal scalar: the indentation where the text starts with a space or a break,
and what becomes of the breaks at its end. -/
def literalHeader (s : List Char) : List Char :=
  (if (s.head?).any fun c => isSpaceChar c || isBreak c then ['2'] else []) ++
    match s.reverse with
    | [] => ['-']
    | [c] => if isBreak c then ['+'] else ['-']
    | c :: d :: _ => if !isBreak c then ['-'] else if isBreak d then ['+'] else []

/-- The written form of a text, from the place of its first character to the end of its last line.
Lines after the first are indented. -/
def print (indent : Nat) (s : List Char) : List Char :=
  match styleOf s with
  | .literal =>
    let body := '|' :: literalHeader s ++ '\n' :: literalFrom indent true s
    if (s.getLast?).any isBreak then body else body ++ ['\n']
  | .singleQuoted => '\'' :: singleQuotedFrom indent false s ++ ['\'', '\n']
  | .doubleQuoted => '"' :: s.flatMap escaped ++ ['"', '\n']
  | _ => s ++ ['\n']

end Fleet.Yaml
