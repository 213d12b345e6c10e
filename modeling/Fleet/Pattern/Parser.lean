import Fleet.Pattern.Class

/-!
# Reading patterns

Alternatives, repetitions, groups, flags, classes and escapes. What looks around, refers back,
repeats nothing or is left open is refused, and so is a pattern that grows too large.

* `Pattern.parse?`: read a pattern.
* `Pattern.accepts`: a match occurs in a text.
-/

namespace Fleet.Pattern

open Text

/-- What has been read so far and applies to the rest of the pattern. -/
structure Context where
  flags : Flags := {}
  /-- The names of groups. -/
  names : List (List Char) := []

/-- One item of a sequence; `none` for flags, which cannot be repeated. -/
abbrev Item := Option Regex

/-- The sequence of items, last first. -/
def sequenceOf (items : List Item) : Regex :=
  match items.filterMap id with
  | [] => .empty
  | r :: rs => rs.foldl (fun acc r => .seq r acc) r

/-- The alternatives, last first. -/
def alternativesOf : List Regex → Regex
  | [] => .empty
  | r :: rs => rs.foldl (fun acc r => .alt r acc) r

/-- A single character. -/
def charRegex? (f : Flags) (c : Char) (isByte : Bool) : Option Regex :=
  if f.unicode then
    some (.set (if f.ignoreCase then .folded (.single c) else .single c))
  else if isByte && 0x80 ≤ c.toNat then none
  else some (.set (if f.ignoreCase then .asciiFolded (.single c) else .single c))

/-- The expression of an atom. -/
def atomRegex? (f : Flags) : Atom → Option Regex
  | .char c isByte => charRegex? f c isByte
  | .set s => some (.set s)
  | .look l => some (.look l)

/-- Any character, or any that ends no line. -/
def dot? (f : Flags) : Option Regex :=
  if !f.unicode then none
  else if f.dotAll then some (.set .everything)
  else if f.crlf then some (.set (.compl (.ranges [(10, 10), (13, 13)])))
  else some (.set (.compl .lineFeed))

/-- Repeat the last item. -/
def repeatLast? (items : List Item) (least : Nat) (most : Option Nat) : Option (List Item) :=
  match items with
  | some r :: rest => some (some (.times r least most) :: rest)
  | _ => none

/-- Pass over the mark of a lazy repetition, which matches the same texts. -/
def dropLazy : List Char → List Char
  | '?' :: s => s
  | s => s

/-- Read the digits of a count, between which white space may stand. -/
def countDigits (f : Flags) : Nat → List Char → List Char × List Char
  | 0, s => ([], s)
  | fuel + 1, s =>
    match s with
    | c :: r =>
      if isDigit c then
        let (ds, r) := countDigits f fuel (f.skip r)
        (c :: ds, r)
      else ([], s)
    | [] => ([], [])

/-- Read a count that fits thirty-two bits. -/
def count? (f : Flags) (s : List Char) : Option (Nat × List Char) := do
  let s := s.dropWhile isBlank
  let (ds, s) := countDigits f s.length s
  let n ← decimal? ds
  if n < 4294967296 then return (n, s.dropWhile isBlank) else none

/-- Read the bounds of a counted repetition after its opening brace. -/
def bounds? (f : Flags) (s : List Char) : Option (Nat × Option Nat × List Char) := do
  let (least, s) ← count? f (f.skip s)
  let (most, s) ← match s with
    | ',' :: s =>
      match f.skip s with
      | '\x7d' :: s => some (none, '\x7d' :: s)
      | s => (count? f s).map fun r => (some r.1, r.2)
    | s => some (some least, s)
  match s with
  | '\x7d' :: s => if most.any (· < least) then none else return (least, most, s)
  | _ => none

/-- The start of a group that looks around. -/
def looksAround (s : List Char) : Bool :=
  ["?=", "?!", "?<=", "?<!"].any fun w => w.toList.isPrefixOf s

/-- A character of the name of a group. -/
def isNameChar (first : Bool) (c : Char) : Bool :=
  c == '_' || (if first then CharSet.alphabetic.contains c.toNat
    else c == '.' || c == '[' || c == ']' || CharSet.alphanumeric.contains c.toNat)

/-- Read the name of a group up to `>`. -/
def groupName? (first : Bool) : List Char → Option (List Char × List Char)
  | [] => none
  | c :: s =>
    if c == '>' then some ([], s)
    else if isNameChar first c then (groupName? false s).map fun r => (c :: r.1, r.2)
    else none

/-- The letters of flags that have been read, and whether a minus sign came before. -/
structure FlagReading where
  letters : List Char := []
  negated : Bool := false
  /-- The last character was the minus sign. -/
  dangling : Bool := false

/-- Set one flag. -/
def setFlag? (f : Flags) (c : Char) (on : Bool) : Option Flags :=
  match c with
  | 'i' => some { f with ignoreCase := on }
  | 'm' => some { f with multiLine := on }
  | 's' => some { f with dotAll := on }
  | 'u' => some { f with unicode := on }
  | 'x' => some { f with spaced := on }
  | 'R' => some { f with crlf := on }
  | 'U' => some f
  | _ => none

/-- Read flags up to `:` or `)`, which is returned. -/
def flags? (f : Flags) (r : FlagReading) :
    List Char → Option (Flags × FlagReading × Char × List Char)
  | [] => none
  | c :: s =>
    if c == ':' || c == ')' then
      if r.dangling then none else some (f, r, c, s)
    else if c == '-' then
      if r.negated then none else flags? f { r with negated := true, dangling := true } s
    else if r.letters.contains c then none
    else do flags? (← setFlag? f c !r.negated) ⟨c :: r.letters, r.negated, false⟩ s

/-- Read the start of a group after its bracket: its flags and names, and whether it is a group or
sets flags alone. -/
def groupStart? (c : Context) (s : List Char) : Option (Context × Bool × List Char) := do
  let s := c.flags.skip s
  if looksAround s then none
  let named := (dropStart? "?P<".toList s).orElse fun _ => dropStart? "?<".toList s
  match named, s with
  | some s, _ =>
    let (name, s) ← groupName? true s
    if name.isEmpty || c.names.contains name then none
    else return ({ c with names := name :: c.names }, true, s)
  | none, '?' :: s =>
    let (f, r, last, s) ← flags? c.flags {} s
    if last == ')' then
      if r.letters.isEmpty && !r.negated then none else return ({ c with flags := f }, false, s)
    else return ({ c with flags := f }, true, s)
  | none, s => return (c, true, s)

/-- Read alternatives up to the closing bracket of the group, or to the end of the pattern outside
all groups. -/
def alternatives? (fuel : Nat) (inGroup : Bool) (c : Context) (alts : List Regex)
    (items : List Item) (s : List Char) : Option (Regex × Context × List Char) :=
  match fuel with
  | 0 => none
  | fuel + 1 =>
    let finish := alternativesOf (sequenceOf items :: alts)
    let next (item : Item) (s : List Char) := alternatives? fuel inGroup c alts (item :: items) s
    match c.flags.skip s with
    | [] => if inGroup then none else some (finish, c, [])
    | ')' :: s => if inGroup then some (finish, c, s) else none
    | '|' :: s => alternatives? fuel inGroup c (sequenceOf items :: alts) [] s
    | '(' :: s => do
      let (inner, isGroup, s) ← groupStart? c s
      if isGroup then
        let (r, after, s) ← alternatives? fuel true inner [] [] s
        alternatives? fuel inGroup { c with names := after.names } alts (some r :: items) s
      else alternatives? fuel inGroup inner alts (none :: items) s
    | '[' :: s => do
      let (set, s) ← class? c.flags (s.length + 2) ('[' :: s)
      next (some (.set set)) s
    | '?' :: s => do
      alternatives? fuel inGroup c alts (← repeatLast? items 0 (some 1)) (dropLazy s)
    | '*' :: s => do
      alternatives? fuel inGroup c alts (← repeatLast? items 0 none) (dropLazy s)
    | '+' :: s => do
      alternatives? fuel inGroup c alts (← repeatLast? items 1 none) (dropLazy s)
    | '\x7b' :: s => do
      let (least, most, s) ← bounds? c.flags s
      alternatives? fuel inGroup c alts (← repeatLast? items least most)
        (dropLazy (c.flags.skip s))
    | '\\' :: s => do
      let (a, s) ← escape? c.flags s
      next (some (← atomRegex? c.flags a)) s
    | '.' :: s => do next (some (← dot? c.flags)) s
    | '^' :: s =>
      next (some (.look (if c.flags.multiLine then .lineStart c.flags.crlf else .textStart))) s
    | '$' :: s =>
      next (some (.look (if c.flags.multiLine then .lineEnd c.flags.crlf else .textEnd))) s
    | d :: s => do next (some (← charRegex? c.flags d false)) s

end Fleet.Pattern

namespace Fleet

/-- How many ranges a set is made of, about. -/
def CharSet.weight : CharSet → Nat
  | ranges rs => rs.length
  | categories cs => cs.foldl (fun n c => n + c.ranges.length) 0
  | union a b | inter a b | diff a b | symDiff a b => a.weight + b.weight
  | compl a => a.weight + 1
  | folded a => 2 * a.weight
  | asciiFolded a => a.weight + 1

/-- How many bytes a compiled expression takes, about. -/
def Regex.weight : Regex → Nat
  | empty | look _ => 32
  | set s => 32 * s.weight
  | seq a b => a.weight + b.weight
  | alt a b => a.weight + b.weight + 32
  | times a least most => (a.weight + 32) * max 1 (max least (most.getD 0))

/-- A pattern that was read. -/
structure Pattern where
  regex : Regex
  deriving Repr

namespace Pattern

/-- The most bytes that a compiled pattern may take. -/
def sizeLimit : Nat := 10485760

/-- Read a pattern. -/
def parse? (s : String) : Option Pattern := do
  let cs := s.toList
  let (r, _, _) ← alternatives? (2 * cs.length + 2) false {} [] [] cs
  if r.weight ≤ sizeLimit then return ⟨r⟩ else none

/-- A match occurs in a text. -/
def accepts (p : Pattern) (s : String) : Bool := p.regex.occurs s

end Pattern

end Fleet
