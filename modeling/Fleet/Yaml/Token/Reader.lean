import Fleet.Yaml.Token.Basic
import Fleet.Yaml.Token.Scalar

/-!
# Reading tokens

The tokens of a text, left to right. Whether a token is the key of a mapping shows only at the `:`
after it, so the place of every token that may be a key is remembered, and the key token is put in
front of it later.

* `TokenReader.read?`: read one more token, with the block ends its indentation implies.
* `scan`: the tokens of a text as far as they can be read.
-/

namespace Fleet.Yaml

open Text

/-- A token that may turn out to be the key of a mapping. -/
structure KeyMark where
  /-- It must be one, for it starts a line of a block mapping. -/
  required : Bool
  /-- How many tokens stand before it. -/
  number : Nat
  place : Place
  deriving DecidableEq, Repr

/-- Where the reading of tokens stands. -/
structure TokenReader where
  rest : List Char
  place : Place := .start
  /-- The indentation of the innermost block collection, `-1` outside all. -/
  indent : Int := -1
  /-- The indentations of the collections around it, innermost first. -/
  outer : List Int := []
  /-- How many flow collections are open. -/
  flow : Nat := 0
  /-- A key may start here. -/
  keyAllowed : Bool := true
  /-- The possible key of every level of flow collections, innermost first. -/
  keys : List (Option KeyMark) := [none]
  tokens : List Token := []
  deriving Repr

namespace TokenReader

/-- Add a token. -/
def push (rd : TokenReader) (t : Token) : TokenReader :=
  { rd with tokens := rd.tokens ++ [t] }

/-- Go to a later place. -/
def goTo (rd : TokenReader) (place : Place) (rest : List Char) : TokenReader :=
  { rd with place, rest }

/-- Pass over `n` characters of one line. -/
def skip (rd : TokenReader) (n : Nat) : TokenReader :=
  rd.goTo (rd.place.skip n) (rd.rest.drop n)

/-- Say whether a key may start next. -/
def allowKey (rd : TokenReader) (b : Bool) : TokenReader :=
  { rd with keyAllowed := b }

/-- Set the possible key of the present level. -/
def setKey (rd : TokenReader) (k : Option KeyMark) : TokenReader :=
  { rd with keys := k :: rd.keys.tail }

/-- The possible key of the present level. -/
def key? (rd : TokenReader) : Option KeyMark :=
  rd.keys.head?.join

/-- Give up the possible key, which must not be a required one. -/
def dropKey? (rd : TokenReader) : Option TokenReader :=
  if (rd.key?).any (·.required) then none else some (rd.setKey none)

/-- Remember the next token as a possible key, where one may start. -/
def markKey? (rd : TokenReader) : Option TokenReader :=
  if rd.keyAllowed then
    let required := rd.flow == 0 && rd.indent == rd.place.column
    (rd.dropKey?).map (·.setKey (some ⟨required, rd.tokens.length, rd.place⟩))
  else some rd

/-- A possible key cannot go on to another line or past 1024 characters. -/
def isStale (p : Place) (k : KeyMark) : Bool :=
  k.place.line < p.line || k.place.index + 1024 < p.index

/-- Give up every possible key that has gone on too long. -/
def dropStaleKeys? (rd : TokenReader) : Option TokenReader :=
  let stale (k : Option KeyMark) := k.any (isStale rd.place)
  if rd.keys.any fun k => stale k && k.any (·.required) then none
  else some { rd with keys := rd.keys.map fun k => if stale k then none else k }

/-- Close block collections down to an indentation. -/
def closeTo (column indent : Int) (outer : List Int) (tokens : List Token) :
    Int × List Int × List Token :=
  match outer with
  | [] => (indent, [], tokens)
  | o :: os =>
    if column < indent then closeTo column o os (tokens ++ [.blockEnd]) else (indent, outer, tokens)

/-- Close the block collections that are indented deeper than `column`. -/
def closeDeeper (rd : TokenReader) (column : Int) : TokenReader :=
  if rd.flow != 0 then rd
  else
    let (indent, outer, tokens) := closeTo column rd.indent rd.outer rd.tokens
    { rd with indent, outer, tokens }

/-- Open a block collection if the column is deeper than the present one. Its token goes in front of
token `number`, or to the end. -/
def openAt (rd : TokenReader) (column : Nat) (number : Option Nat) (t : Token) : TokenReader :=
  if rd.flow == 0 && rd.indent < column then
    let tokens := match number with
      | some n => rd.tokens.insertIdx n t
      | none => rd.tokens ++ [t]
    { rd with indent := column, outer := rd.indent :: rd.outer, tokens }
  else rd

/-- Pass over white space, comments and line breaks. A tab counts as white space in flow context and
where no key may start. A line break in block context allows a key. -/
def blanksFrom (inFlow keyAllowed inComment : Bool) (p : Place) :
    List Char → Place × List Char × Bool
  | [] => (p, [], keyAllowed)
  | '\r' :: '\n' :: s => blanksFrom inFlow (keyAllowed || !inFlow) false (p.newline 2) s
  | c :: s =>
    if isBreak c then blanksFrom inFlow (keyAllowed || !inFlow) false (p.newline 1) s
    else if inComment || (p.column == 0 && c == byteOrderMark) || c == ' ' ||
        (c == '\t' && (inFlow || !keyAllowed)) then
      blanksFrom inFlow keyAllowed inComment (p.skip 1) s
    else if c == '#' then blanksFrom inFlow keyAllowed true (p.skip 1) s
    else (p, c :: s, keyAllowed)

/-- Go to the next token. -/
def toToken (rd : TokenReader) : TokenReader :=
  let (p, s, allowed) := blanksFrom (rd.flow != 0) rd.keyAllowed false rd.place rd.rest
  (rd.goTo p s).allowKey allowed

/-- Close everything and end the stream. -/
def readEnd? (rd : TokenReader) : Option TokenReader := do
  let rd ← (rd.closeDeeper (-1)).dropKey?
  return (rd.allowKey false).push .streamEnd

/-- Close everything before a directive or a document mark. -/
def closeAll? (rd : TokenReader) : Option TokenReader := do
  let rd ← (rd.closeDeeper (-1)).dropKey?
  return rd.allowKey false

/-- A document mark of three characters. -/
def readMark? (rd : TokenReader) (t : Token) : Option TokenReader := do
  return ((← rd.closeAll?).skip 3).push t

/-- The opening of a flow collection. -/
def readFlowStart? (rd : TokenReader) (t : Token) : Option TokenReader := do
  let rd ← rd.markKey?
  return (({ rd with flow := rd.flow + 1, keys := none :: rd.keys }.allowKey true).skip 1).push t

/-- The closing of a flow collection. -/
def readFlowEnd? (rd : TokenReader) (t : Token) : Option TokenReader := do
  let rd ← rd.dropKey?
  let rd := if rd.flow == 0 then rd else { rd with flow := rd.flow - 1, keys := rd.keys.tail }
  return ((rd.allowKey false).skip 1).push t

/-- The comma of a flow collection. -/
def readFlowEntry? (rd : TokenReader) : Option TokenReader := do
  return (((← rd.dropKey?).allowKey true).skip 1).push .flowEntry

/-- Open a block collection at the present column, where a key may start. -/
def openBlock? (rd : TokenReader) (t : Token) : Option TokenReader :=
  if rd.flow != 0 then some rd
  else if rd.keyAllowed then some (rd.openAt rd.place.column none t)
  else none

/-- The dash of a block sequence. -/
def readBlockEntry? (rd : TokenReader) : Option TokenReader := do
  let rd ← (← rd.openBlock? .blockSequence).dropKey?
  return ((rd.allowKey true).skip 1).push .blockEntry

/-- The question mark of a key. -/
def readKey? (rd : TokenReader) : Option TokenReader := do
  let rd ← (← rd.openBlock? .blockMapping).dropKey?
  return ((rd.allowKey (rd.flow == 0)).skip 1).push .key

/-- The colon of a value. If a token before it may be a key, it is one. -/
def readValue? (rd : TokenReader) : Option TokenReader := do
  let rd ← match rd.key? with
    | some k =>
      let rd := { rd with tokens := rd.tokens.insertIdx k.number .key }
      some (((rd.openAt k.place.column (some k.number) .blockMapping).setKey none).allowKey false)
    | none => (rd.openBlock? .blockMapping).map fun rd => rd.allowKey (rd.flow == 0)
  return (rd.skip 1).push .value

/-- The characters after which an anchor may end. -/
def endsName (s : List Char) : Bool :=
  startsBlank s || (s.head?).any fun c =>
    c == '?' || c == ':' || c == ',' || c == ']' || c.toNat == 0x7D || c == '%' || c == '@' ||
      c.toNat == 0x60

/-- An anchor or an alias. -/
def readName? (rd : TokenReader) (t : String → Token) : Option TokenReader := do
  let rd := ((← rd.markKey?).allowKey false).skip 1
  let name := rd.rest.takeWhile isWordChar
  let rd := rd.skip name.length
  if name.isEmpty || !endsName rd.rest then none else some (rd.push (t (String.ofList name)))

/-- A character of a tag; `wide` adds comma and brackets. -/
def isTagChar (wide : Bool) (c : Char) : Bool :=
  isWordChar c || ";/?:@&=+$.!~*'()".toList.contains c ||
    (wide && (c == ',' || c == '[' || c == ']'))

/-- A character of several escaped bytes being read: how many are left and the bits so far. -/
structure PartialChar where
  left : Nat
  bits : Nat

/-- Take one escaped byte into a character. -/
def PartialChar.take? (k : Option PartialChar) (byte : Nat) : Option (Nat ⊕ PartialChar) :=
  match k with
  | some k =>
    if byte / 64 != 2 then none
    else
      let bits := k.bits * 64 + byte % 64
      if k.left ≤ 1 then some (.inl bits) else some (.inr ⟨k.left - 1, bits⟩)
  | none =>
    if byte < 0x80 then some (.inl byte)
    else if byte / 32 == 6 then some (.inr ⟨1, byte % 32⟩)
    else if byte / 16 == 14 then some (.inr ⟨2, byte % 16⟩)
    else if byte / 8 == 30 then some (.inr ⟨3, byte % 8⟩)
    else none

/-- Read the characters of a tag, with `%` escapes of UTF-8 bytes. -/
def tagFrom (wide : Bool) (partialChar : Option PartialChar) (p : Place) :
    List Char → Option (List Char × Place × List Char)
  | '%' :: a :: b :: s => do
    match ← PartialChar.take? partialChar (← digits? 16 [a, b]) with
    | .inl n =>
      let (cs, r) ← tagFrom wide none (p.skip 3) s
      return (Char.ofNat n :: cs, r)
    | .inr k => tagFrom wide (some k) (p.skip 3) s
  | [] => if partialChar.isSome then none else some ([], p, [])
  | c :: s =>
    if partialChar.isSome || c == '%' then none
    else if isTagChar wide c then do
      let (cs, r) ← tagFrom wide none (p.skip 1) s
      return (c :: cs, r)
    else some ([], p, c :: s)

/-- Read a tag handle: `!`, or a word between two of them. A handle that is only a word after one
is returned as it is, except in a directive. -/
def handle? (inDirective : Bool) : List Char → Option (List Char × List Char)
  | '!' :: s =>
    let word := s.takeWhile isWordChar
    let r := s.drop word.length
    match r with
    | '!' :: r' => some ('!' :: word ++ ['!'], r')
    | _ => if inDirective && !word.isEmpty then none else some ('!' :: word, r)
  | _ => none

/-- A tag. -/
def readTag? (rd : TokenReader) : Option TokenReader := do
  let rd := (← rd.markKey?).allowKey false
  let (handle, suffix, rd) ←
    if rd.rest.tail.head? == some '<' then do
      let (uri, p, r) ← tagFrom true none (rd.place.skip 2) (rd.rest.drop 2)
      match r with
      | '>' :: r => if uri.isEmpty then none else some ([], uri, rd.goTo (p.skip 1) r)
      | _ => none
    else do
      let (handle, r) ← handle? false rd.rest
      let (cs, p, r) ← tagFrom false none (rd.place.skip handle.length) r
      if 2 ≤ handle.length && handle.getLast? == some '!' then
        if cs.isEmpty then none else some (handle, cs, rd.goTo p r)
      else
        let suffix := handle.tail ++ cs
        if suffix.isEmpty then some ([], ['!'], rd.goTo p r) else some (['!'], suffix, rd.goTo p r)
  if startsBlank rd.rest || (rd.flow != 0 && rd.rest.head? == some ',') then
    some (rd.push (.tag (String.ofList handle) (String.ofList suffix)))
  else none

/-- Pass over gaps and a comment to the end of the line, then over the line break. -/
def endLine? (p : Place) (s : List Char) : Option (Place × List Char) :=
  let gaps := s.takeWhile isGap
  let s := s.drop gaps.length
  let comment := if s.head? == some '#' then s.takeWhile (!isBreak ·) else []
  let s := s.drop comment.length
  match s with
  | [] => some (p.skip (gaps.length + comment.length), [])
  | c :: _ =>
    if isBreak c then some (skipBreak (p.skip (gaps.length + comment.length)) s) else none

/-- Read the header of a block scalar: its chomping and its indentation, in either order. -/
def blockHeader? (s : List Char) : Option (Chomp × Option Nat × List Char) :=
  let chomp? (c : Char) : Option Chomp :=
    if c == '+' then some .keep else if c == '-' then some .strip else none
  let digit? (c : Char) : Option Nat := if isDigit c then some (c.toNat - 48) else none
  match s with
  | [] => some (.clip, none, [])
  | c :: r =>
    match chomp? c, digit? c with
    | some chomp, _ =>
      match (r.head?).bind digit? with
      | some 0 => none
      | some n => some (chomp, some n, r.tail)
      | none => some (chomp, none, r)
    | none, some 0 => none
    | none, some n =>
      match (r.head?).bind chomp? with
      | some chomp => some (chomp, some n, r.tail)
      | none => some (.clip, some n, r)
    | none, none => some (.clip, none, s)

/-- A literal or a folded scalar. -/
def readBlockScalar? (rd : TokenReader) (isLiteral : Bool) : Option TokenReader := do
  let rd := ((← rd.dropKey?).allowKey true).skip 1
  let (chomp, deeper, r) ← blockHeader? rd.rest
  let rd := rd.skip (rd.rest.length - r.length)
  let (p, r) ← endLine? rd.place rd.rest
  let indent := match deeper with
    | some n => Indent.known ((max rd.indent 0).toNat + n)
    | none => .deepest 0
  let e ← blockFrom isLiteral chomp rd.indent (.between indent false none []) p r
  return (rd.goTo e.place e.rest).push
    (.scalar (String.ofList e.text) (if isLiteral then .literal else .folded))

/-- A scalar in quotes. -/
def readQuoted? (rd : TokenReader) (single : Bool) : Option TokenReader := do
  let rd := ((← rd.markKey?).allowKey false).skip 1
  let e ← quotedFrom single (.text .none) rd.place rd.rest
  return (rd.goTo e.place e.rest).push
    (.scalar (String.ofList e.text) (if single then .singleQuoted else .doubleQuoted))

/-- A scalar without quotes. -/
def readPlain? (rd : TokenReader) : Option TokenReader := do
  let rd := (← rd.markKey?).allowKey false
  let e ← plainFrom (rd.flow != 0) (rd.indent + 1) .none rd.place rd.rest
  return ((rd.goTo e.place e.rest).allowKey e.afterBreak).push
    (.scalar (String.ofList e.text) .plain)

/-- Read a number of up to nine digits. -/
def versionNumber? (s : List Char) : Option (Nat × List Char) := do
  let ds := s.takeWhile isDigit
  if 9 < ds.length then none else return (← decimal? ds, s.drop ds.length)

/-- The gaps at the front. -/
def gapLength (s : List Char) : Nat :=
  (s.takeWhile isGap).length

/-- A directive: `%YAML` with a version, or `%TAG` with a handle and a prefix. -/
def readDirective? (rd : TokenReader) : Option TokenReader := do
  let rd := (← rd.closeAll?).skip 1
  let name := rd.rest.takeWhile isWordChar
  let rd := rd.skip name.length
  if name.isEmpty || !startsBlank rd.rest then none
  let rd := rd.skip (gapLength rd.rest)
  let (t, r) ←
    if name == "YAML".toList then do
      let (major, r) ← versionNumber? rd.rest
      match r with
      | '.' :: r =>
        let (minor, r) ← versionNumber? r
        some (Token.version major minor, r)
      | _ => none
    else if name == "TAG".toList then do
      let (handle, r) ← handle? true rd.rest
      if !(r.head?).any isGap then none
      else
        let (lead, _, r) ← tagFrom true none rd.place (r.drop (gapLength r))
        if lead.isEmpty || !startsBlank r then none
        else some (Token.tagPrefix (String.ofList handle) (String.ofList lead), r)
    else none
  let rd := rd.skip (rd.rest.length - r.length)
  let (p, r) ← endLine? rd.place rd.rest
  return (rd.goTo p r).push t

/-- A character that cannot start a plain scalar, or only with something after it. -/
def isIndicator (c : Char) : Bool :=
  "-?:,[]#&*!|>'\"%@\x60".toList.contains c || c.toNat == 0x7B || c.toNat == 0x7D

/-- A plain scalar starts here. -/
def startsPlain (inFlow : Bool) (c : Char) (s : List Char) : Bool :=
  !(isIndicator c || isGap c || isBreak c) || (c == '-' && !(s.head?).any isGap) ||
    (!inFlow && (c == '?' || c == ':') && !startsBlank s)

/-- Read one token at the present place. -/
def readHere? (rd : TokenReader) : Option TokenReader :=
  let inFlow := rd.flow != 0
  match rd.rest with
  | [] => rd.readEnd?
  | c :: s =>
    if rd.place.column == 0 && c == '%' then rd.readDirective?
    else if rd.place.column == 0 && marksDocument rd.rest then
      rd.readMark? (if c == '-' then .documentStart else .documentEnd)
    else if c == '[' then rd.readFlowStart? .flowSequence
    else if c.toNat == 0x7B then rd.readFlowStart? .flowMapping
    else if c == ']' then rd.readFlowEnd? .flowSequenceEnd
    else if c.toNat == 0x7D then rd.readFlowEnd? .flowMappingEnd
    else if c == ',' then rd.readFlowEntry?
    else if c == '-' && startsBlank s then rd.readBlockEntry?
    else if c == '?' && (inFlow || startsBlank s) then rd.readKey?
    else if c == ':' && (inFlow || startsBlank s) then rd.readValue?
    else if c == '*' then rd.readName? .alias
    else if c == '&' then rd.readName? .anchor
    else if c == '!' then rd.readTag?
    else if c == '|' && !inFlow then rd.readBlockScalar? true
    else if c == '>' && !inFlow then rd.readBlockScalar? false
    else if c == '\'' then rd.readQuoted? true
    else if c == '"' then rd.readQuoted? false
    else if startsPlain inFlow c s then rd.readPlain?
    else none

/-- Read one more token. -/
def read? (rd : TokenReader) : Option TokenReader := do
  let rd ← rd.toToken.dropStaleKeys?
  (rd.closeDeeper rd.place.column).readHere?

/-- The tokens in front of the first one that may still turn out to be a key. -/
def settled (rd : TokenReader) : List Token :=
  let pending := rd.keys.filterMap fun k => k.filter (!isStale rd.place ·)
  rd.tokens.take ((pending.map (·.number)).foldl min rd.tokens.length)

/-- Read tokens to the end of the stream, or up to the first character that cannot be read. -/
def run : Nat → TokenReader → List Token
  | 0, rd => rd.settled
  | fuel + 1, rd =>
    match rd.read? with
    | none => rd.settled
    | some rd' => if rd'.tokens.getLast? == some .streamEnd then rd'.tokens else run fuel rd'

end TokenReader

/-- The tokens of a text as far as they can be read: to the end of the stream, or to the first
character that cannot be read. -/
def scan (s : String) : List Token :=
  let cs := s.toList
  if cs.all isAllowed then TokenReader.run (cs.length + 2) { rest := cs } else []

end Fleet.Yaml
