import Fleet.Pattern.Basic
import Fleet.Text.Digits

/-!
# Flags and escapes of patterns

* `Flags`: how the characters of a pattern are read.
* `Atom`: what a single character or an escape stands for.
* `escape?`: read an escape after its backslash.
-/

namespace Fleet.Pattern

open Text

/-- How the characters of a pattern are read. -/
structure Flags where
  /-- Letters match in either case. -/
  ignoreCase : Bool := false
  /-- `^` and `$` match at lines. -/
  multiLine : Bool := false
  /-- `.` matches line feeds. -/
  dotAll : Bool := false
  /-- Characters are those of Unicode, not bytes. -/
  unicode : Bool := true
  /-- White space and comments do not count. -/
  spaced : Bool := false
  /-- Carriage returns end lines too. -/
  crlf : Bool := false
  deriving Repr

/-- What a single character or an escape stands for. -/
inductive Atom where
  /-- A character. `isByte`: it was given as two hexadecimal digits. -/
  | char (c : Char) (isByte : Bool)
  | set (s : CharSet)
  | look (l : Look)
  deriving Repr

/-- Pass over a comment to the end of its line. -/
def dropComment : List Char → List Char
  | [] => []
  | c :: s => if c == '\n' then s else dropComment s

theorem length_dropComment_le (s : List Char) : (dropComment s).length ≤ s.length := by
  induction s with
  | nil => exact Nat.le_refl _
  | cons c s ih =>
    unfold dropComment
    split
    · exact Nat.le_succ _
    · exact Nat.le_succ_of_le ih

/-- Pass over white space and comments. -/
def dropSpaced : List Char → List Char
  | [] => []
  | c :: s =>
    if isBlank c then dropSpaced s
    else if c == '#' then dropSpaced (dropComment s)
    else c :: s
termination_by s => s.length
decreasing_by
  · simp
  · exact Nat.lt_succ_of_le (length_dropComment_le s)

/-- Pass over what does not count. -/
def Flags.skip (f : Flags) (s : List Char) : List Char :=
  if f.spaced then dropSpaced s else s

/-- A hexadecimal digit. -/
def isHexDigit (c : Char) : Bool := (digitValue? 16 c).isSome

/-- The character of hexadecimal digits. -/
def charOfHex? (ds : List Char) : Option Char := do
  let n ← digits? 16 ds
  if n.isValidChar then some (Char.ofNat n) else none

/-- Read so many hexadecimal digits. -/
def hexDigits? (f : Flags) : Nat → List Char → Option (List Char × List Char)
  | 0, s => some ([], s)
  | n + 1, s =>
    match s with
    | [] => none
    | c :: s =>
      if isHexDigit c then
        (hexDigits? f n (if n = 0 then s else f.skip s)).map fun r => (c :: r.1, r.2)
      else none

/-- Read text up to a closing brace. -/
def untilBrace? (f : Flags) : Nat → List Char → Option (List Char × List Char)
  | 0, _ => none
  | fuel + 1, s =>
    match f.skip s with
    | [] => none
    | c :: s =>
      if c == '\x7d' then some ([], s)
      else (untilBrace? f fuel s).map fun r => (c :: r.1, r.2)

/-- Read a character given by hexadecimal digits: so many, or any number of them in braces. -/
def hexChar? (f : Flags) (count : Nat) (s : List Char) : Option (Atom × List Char) := do
  match f.skip s with
  | '\x7b' :: s =>
    let (ds, s) ← untilBrace? f (s.length + 1) s
    return (.char (← charOfHex? ds) false, f.skip s)
  | s =>
    let (ds, s) ← hexDigits? f count s
    return (.char (← charOfHex? ds) (count == 2), f.skip s)

/-- Complete a set: fold its case where case does not count, then negate it. A set of bytes may hold
ASCII alone. -/
def finishSet? (f : Flags) (negated : Bool) (s : CharSet) : Option CharSet :=
  let s := if !f.ignoreCase then s else if f.unicode then .folded s else .asciiFolded s
  let s := s.negateIf negated
  if f.unicode || s.isAscii then some s else none

/-- The set of a property: its name, or a name and a value. -/
def propertySet? (name : List Char) : Option (CharSet × Bool) :=
  match splitOnce? ['!', '='] name with
  | some (p, v) => (CharSet.ofValue? p v).map (·, true)
  | none =>
    match splitOnce? [':'] name with
    | some (p, v) => (CharSet.ofValue? p v).map (·, false)
    | none =>
      match splitOnce? ['='] name with
      | some (p, v) => (CharSet.ofValue? p v).map (·, false)
      | none => (CharSet.ofName? name).map (·, false)

/-- Read a property after `p` or `P`: one letter, or a name in braces. -/
def property? (f : Flags) (negated : Bool) (s : List Char) : Option (Atom × List Char) := do
  let (name, s) ← match f.skip s with
    | [] => none
    | '\x7b' :: s => untilBrace? f (s.length + 1) s
    | c :: s => if c == '\\' then none else some ([c], f.skip s)
  let (set, flipped) ← propertySet? name
  if !f.unicode then none
  else return (.set (← finishSet? f (negated != flipped) set), s)

/-- The set of a class letter in lower case. -/
def classSet (f : Flags) (c : Char) : CharSet :=
  match c, f.unicode with
  | 'd', true => .digit
  | 'd', false => .asciiDigit
  | 's', true => .space
  | 's', false => .asciiSpace
  | _, true => .word
  | _, false => .asciiWord

/-- Read the class of a letter; in upper case it is negated. -/
def classLetter? (f : Flags) (c : Char) : Option Atom :=
  let s := (classSet f c.toLower).negateIf c.isUpper
  if f.unicode || s.isAscii then some (.set s) else none

/-- A character that always needs a backslash to stand for itself. -/
def isMeta (c : Char) : Bool :=
  "\\.+*?()|[]^$#&-~".toList.contains c || c == '\x7b' || c == '\x7d'

/-- A character that may stand for itself after a backslash. -/
def isEscapable (c : Char) : Bool :=
  isMeta c || (c.toNat < 0x80 && !c.isAlphanum && c != '<' && c != '>')

/-- The characters that words are made of. -/
def wordSet (f : Flags) : CharSet := if f.unicode then .word else .asciiWord

/-- A character of the name of a special boundary. -/
def isBoundaryChar (c : Char) : Bool := c.isAlpha || c == '-'

/-- Read the name of a special boundary up to the closing brace. -/
def boundaryName? (f : Flags) : Nat → List Char → Option (List Char × List Char)
  | 0, _ => none
  | fuel + 1, s =>
    match s with
    | [] => none
    | c :: s =>
      if isBoundaryChar c then
        (boundaryName? f fuel (f.skip s)).map fun r => (c :: r.1, r.2)
      else if c == '\x7d' then some ([], s)
      else none

/-- Read a word boundary after `b`: a special one has its name in braces. -/
def boundary? (f : Flags) (s : List Char) : Option (Atom × List Char) := do
  let w := wordSet f
  match s with
  | '\x7b' :: r =>
    let r := f.skip r
    match r with
    | [] => none
    | c :: _ =>
      if isBoundaryChar c then
        let (name, r) ← boundaryName? f (r.length + 1) r
        let l ← List.lookup (String.ofList name)
          [("start", Look.wordStart w), ("end", .wordEnd w), ("start-half", .wordStartHalf w),
            ("end-half", .wordEndHalf w)]
        return (.look l, r)
      else return (.look (.boundary w), s)
  | _ => return (.look (.boundary w), s)

/-- Read an escape after its backslash. -/
def escape? (f : Flags) (s : List Char) : Option (Atom × List Char) :=
  match s with
  | [] => none
  | c :: s =>
    let char (c : Char) : Option (Atom × List Char) := some (.char c false, s)
    if c == 'x' then hexChar? f 2 s
    else if c == 'u' then hexChar? f 4 s
    else if c == 'U' then hexChar? f 8 s
    else if c == 'p' then property? f false s
    else if c == 'P' then property? f true s
    else if "dswDSW".toList.contains c then (classLetter? f c).map (·, s)
    else if isEscapable c then char c
    else match c with
      | 'a' => char '\x07'
      | 'f' => char '\x0c'
      | 't' => char '\t'
      | 'n' => char '\n'
      | 'r' => char '\r'
      | 'v' => char '\x0b'
      | 'A' => some (.look .textStart, s)
      | 'z' => some (.look .textEnd, s)
      | 'b' => boundary? f s
      | 'B' => some (.look (.noBoundary (wordSet f)), s)
      | '<' => some (.look (.wordStart (wordSet f)), s)
      | '>' => some (.look (.wordEnd (wordSet f)), s)
      | _ => none

end Fleet.Pattern
