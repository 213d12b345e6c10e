import Fleet.Yaml.Chars

/-!
# Reading scalars

Each reader goes through the text once. Line breaks inside a scalar fold: one becomes a space, and
of several the first is dropped.

* `plainFrom`: a scalar without quotes, up to where it can no longer go on.
* `quotedFrom`: a scalar in quotes, up to the closing one.
* `blockFrom`: the lines of a literal or folded scalar.
-/

namespace Fleet.Yaml

open Text

/-- White space read but not yet part of a scalar. -/
inductive Gap where
  /-- No white space. -/
  | none
  /-- Spaces and tabs, last first. -/
  | spaces (cs : List Char)
  /-- A first line break, if it counts, and the later ones, last first. -/
  | lines (first : Option Char) (more : List Char)
  deriving DecidableEq, Repr

namespace Gap

/-- There is a line break. -/
def hasBreak : Gap → Bool
  | lines _ _ => true
  | _ => false

/-- There is white space. -/
def isSome : Gap → Bool
  | none => false
  | _ => true

/-- Add a space or a tab: after a line break it is indentation and does not count. -/
def addSpace (c : Char) : Gap → Gap
  | none => spaces [c]
  | spaces cs => spaces (c :: cs)
  | g => g

/-- Add a line break: spaces before it do not count. -/
def addBreak (c : Char) : Gap → Gap
  | lines first more => lines first (c :: more)
  | _ => lines (some c) []

/-- What the white space becomes inside the scalar. -/
def folded : Gap → List Char
  | none => []
  | spaces cs => cs.reverse
  | lines (some '\n') [] => [' ']
  | lines (some '\n') more => more.reverse
  | lines first more => first.toList ++ more.reverse

end Gap

/-- A scalar that has been read, where it ends and what follows. -/
structure Ending where
  text : List Char
  place : Place
  rest : List Char
  /-- The last thing passed over was a line break. -/
  afterBreak : Bool

/-- Put characters in front of a scalar. -/
def Ending.prepend (cs : List Char) (e : Ending) : Ending :=
  { e with text := cs ++ e.text }

/-- Read a plain scalar. In block context it ends before a line indented less than `indent`. It also
ends before `: `, before a comment and before a document mark, and in flow context before a flow
mark. -/
def plainFrom (inFlow : Bool) (indent : Int) (gap : Gap) (p : Place) : List Char → Option Ending
  | [] => some ⟨[], p, [], gap.hasBreak⟩
  | '\r' :: '\n' :: s => plainFrom inFlow indent (gap.addBreak '\n') (p.newline 2) s
  | c :: s =>
    if isBreak c then plainFrom inFlow indent (gap.addBreak (breakChar c)) (p.newline 1) s
    else if isGap c then
      if gap.hasBreak && c == '\t' && p.column < indent then none
      else plainFrom inFlow indent (gap.addSpace c) (p.skip 1) s
    else
      let stop := some ⟨[], p, c :: s, gap.hasBreak⟩
      if gap.isSome &&
          ((!inFlow && p.column < indent) || (p.column == 0 && marksDocument (c :: s)) || c == '#')
      then stop
      else if inFlow && c == ':' && (s.head?).any fun d => isFlowMark d || d == '?' then none
      else if (c == ':' && startsBlank s) || (inFlow && isFlowMark c) then stop
      else (plainFrom inFlow indent .none (p.skip 1) s).map (·.prepend (gap.folded ++ [c]))

/-- What follows a backslash in double quotes. -/
inductive Escape where
  /-- A character. -/
  | char (c : Char)
  /-- A character given by so many hexadecimal digits. -/
  | code (digits : Nat)
  deriving DecidableEq, Repr

/-- The meaning of an escape letter. -/
def escape? (c : Char) : Option Escape :=
  match c with
  | '0' => some (.char '\x00')
  | 'a' => some (.char '\x07')
  | 'b' => some (.char '\x08')
  | 't' | '\t' => some (.char '\t')
  | 'n' => some (.char '\n')
  | 'v' => some (.char '\x0b')
  | 'f' => some (.char '\x0c')
  | 'r' => some (.char '\r')
  | 'e' => some (.char '\x1b')
  | ' ' => some (.char ' ')
  | '"' => some (.char '"')
  | '/' => some (.char '/')
  | '\\' => some (.char '\\')
  | 'N' => some (.char '\u0085')
  | '_' => some (.char '\u00a0')
  | 'L' => some (.char '\u2028')
  | 'P' => some (.char '\u2029')
  | 'x' => some (.code 2)
  | 'u' => some (.code 4)
  | 'U' => some (.code 8)
  | _ => none

/-- The character of a number, if there is one. -/
def charOfCode? (n : Nat) : Option Char :=
  if n.isValidChar then some (Char.ofNat n) else none

/-- Where the reading of a quoted scalar stands. -/
inductive QuotedPart where
  /-- Between two characters. -/
  | text (gap : Gap)
  /-- Before the second of two single quotes. -/
  | pair (gap : Gap)
  /-- After a backslash. -/
  | escape (gap : Gap)
  /-- Inside a code of hexadecimal digits: how many are left and the number so far. -/
  | code (left value : Nat)

/-- Read a quoted scalar after its opening quote. A carriage return before a line feed is passed
over. -/
def quotedFrom (single : Bool) (part : QuotedPart) (p : Place) : List Char → Option Ending
  | [] => none
  | c :: s =>
    match part with
    | .text gap =>
      if p.column == 0 && marksDocument (c :: s) then none
      else if c == '\r' && s.head? == some '\n' then quotedFrom single (.text gap) (p.skip 1) s
      else if isBreak c then
        quotedFrom single (.text (gap.addBreak (breakChar c))) (p.newline 1) s
      else if isGap c then quotedFrom single (.text (gap.addSpace c)) (p.skip 1) s
      else if single && c == '\'' && s.head? == some '\'' then
        quotedFrom single (.pair gap) (p.skip 1) s
      else if c == (if single then '\'' else '"') then some ⟨gap.folded, p.skip 1, s, false⟩
      else if !single && c == '\\' then quotedFrom single (.escape gap) (p.skip 1) s
      else (quotedFrom single (.text .none) (p.skip 1) s).map (·.prepend (gap.folded ++ [c]))
    | .pair gap =>
      (quotedFrom single (.text .none) (p.skip 1) s).map (·.prepend (gap.folded ++ [c]))
    | .escape gap =>
      if c == '\r' && s.head? == some '\n' then quotedFrom single (.escape gap) (p.skip 1) s
      else if isBreak c then
        (quotedFrom single (.text (.lines none [])) (p.newline 1) s).map (·.prepend gap.folded)
      else do
        match ← escape? c with
        | .char e =>
          (quotedFrom single (.text .none) (p.skip 1) s).map (·.prepend (gap.folded ++ [e]))
        | .code n => (quotedFrom single (.code n 0) (p.skip 1) s).map (·.prepend gap.folded)
    | .code left value => do
      let v := value * 16 + (← digitValue? 16 c)
      if left ≤ 1 then
        let d ← charOfCode? v
        (quotedFrom single (.text .none) (p.skip 1) s).map (·.prepend [d])
      else quotedFrom single (.code (left - 1) v) (p.skip 1) s

/-- What becomes of the line breaks that end a block scalar. -/
inductive Chomp where
  | strip | clip | keep
  deriving DecidableEq, Repr

/-- The indentation of a block scalar: given, or the deepest of its leading blank lines so far. -/
inductive Indent where
  | known (n : Nat)
  | deepest (n : Nat)
  deriving DecidableEq, Repr

/-- Where the reading of a block scalar stands. -/
inductive BlockPart where
  /-- Before the text of a line. `afterBlank`: the last line of text started with a gap. `lead`: its
  line break. `trail`: the breaks of the empty lines since, last first. -/
  | between (indent : Indent) (afterBlank : Bool) (lead : Option Char) (trail : List Char)
  /-- Inside a line of text. -/
  | within (indent : Nat) (afterBlank : Bool)

/-- The breaks that end a block scalar. -/
def Chomp.ending (chomp : Chomp) (lead : Option Char) (trail : List Char) : List Char :=
  match chomp with
  | .strip => []
  | .clip => lead.toList
  | .keep => lead.toList ++ trail.reverse

/-- The breaks between two lines of text. In a folded scalar a single break between lines that do
not start with a gap becomes a space, and of several the first is dropped. -/
def joinLines (isLiteral afterBlank beforeBlank : Bool) (lead : Option Char) (trail : List Char) :
    List Char :=
  if !isLiteral && lead == some '\n' && !afterBlank && !beforeBlank then
    if trail.isEmpty then [' '] else trail.reverse
  else lead.toList ++ trail.reverse

/-- Read the lines of a block scalar. `parent` is the indentation of what surrounds it. -/
def blockFrom (isLiteral : Bool) (chomp : Chomp) (parent : Int) (part : BlockPart) (p : Place) :
    List Char → Option Ending
  | [] =>
    match part with
    | .between _ _ lead trail => some ⟨chomp.ending lead trail, p, [], true⟩
    | .within _ _ => some ⟨[], p, [], true⟩
  | '\r' :: '\n' :: s =>
    match part with
    | .between indent afterBlank lead trail =>
      let indent := match indent with
        | .deepest n => .deepest (max n p.column)
        | i => i
      blockFrom isLiteral chomp parent (.between indent afterBlank lead ('\n' :: trail))
        (p.newline 2) s
    | .within n afterBlank =>
      blockFrom isLiteral chomp parent (.between (.known n) afterBlank (some '\n') [])
        (p.newline 2) s
  | c :: s =>
    match part with
    | .within n afterBlank =>
      if isBreak c then
        blockFrom isLiteral chomp parent (.between (.known n) afterBlank (some (breakChar c)) [])
          (p.newline 1) s
      else (blockFrom isLiteral chomp parent (.within n afterBlank) (p.skip 1) s).map
        (·.prepend [c])
    | .between indent afterBlank lead trail =>
      let mayIndent := match indent with
        | .known n => p.column < n
        | .deepest _ => true
      if mayIndent && c == ' ' then
        blockFrom isLiteral chomp parent (.between indent afterBlank lead trail) (p.skip 1) s
      else if mayIndent && c == '\t' then none
      else if isBreak c then
        let indent := match indent with
          | .deepest n => .deepest (max n p.column)
          | i => i
        blockFrom isLiteral chomp parent
          (.between indent afterBlank lead (breakChar c :: trail)) (p.newline 1) s
      else
        let n := match indent with
          | .known n => n
          | .deepest n => max (max n p.column) (max (parent + 1) 1).toNat
        if p.column == n then
          (blockFrom isLiteral chomp parent (.within n (isGap c)) (p.skip 1) s).map
            (·.prepend (joinLines isLiteral afterBlank (isGap c) lead trail ++ [c]))
        else some ⟨chomp.ending lead trail, p, c :: s, true⟩

end Fleet.Yaml
