import Fleet.Json.Basic

/-!
# Reading JSON

A strict reader: one value, white space around it, nothing else. Escapes that name half of a
surrogate pair make the text unreadable, not the document.

* `Json.parse?`: the value of a whole text.
-/

namespace Fleet.Json

open Text

/-- White space between tokens. -/
def isSpace (c : Char) : Bool :=
  c == ' ' || c == '\t' || c == '\n' || c == '\r'

/-- The text after leading white space. -/
def skipSpace (s : List Char) : List Char :=
  s.dropWhile isSpace

/-- The value of four hexadecimal digits, and the rest. -/
def fourHex? : List Char → Option (Nat × List Char)
  | a :: b :: c :: d :: s => (digits? 16 [a, b, c, d]).map (·, s)
  | _ => none

/-- The character of an escape letter other than `u`. -/
def escaped? (c : Char) : Option Char :=
  match c with
  | '"' => some '"'
  | '\\' => some '\\'
  | '/' => some '/'
  | 'b' => some '\x08'
  | 'f' => some '\x0c'
  | 'n' => some '\n'
  | 'r' => some '\r'
  | 't' => some '\t'
  | _ => none

/-- The upper half of a surrogate pair. -/
def isHighHalf (n : Nat) : Bool := 0xD800 ≤ n && n < 0xDC00

/-- The lower half of a surrogate pair. -/
def isLowHalf (n : Nat) : Bool := 0xDC00 ≤ n && n < 0xE000

/-- The character of a surrogate pair. -/
def pairChar (high low : Nat) : Char :=
  Char.ofNat (0x10000 + (high - 0xD800) * 0x400 + (low - 0xDC00))

/-- Read the rest of a text after its opening quote. `acc` holds its characters so far, last first,
or `none` once an escape named half of a pair. -/
def textFrom (fuel : Nat) (acc : Option (List Char)) (s : List Char) :
    Option (Option String × List Char) :=
  match fuel with
  | 0 => none
  | fuel + 1 =>
    let push (c : Char) := acc.map (c :: ·)
    match s with
    | [] => none
    | '"' :: s => some (acc.map fun cs => String.ofList cs.reverse, s)
    | '\\' :: 'u' :: s => do
      let (n, s) ← fourHex? s
      if isHighHalf n then
        match s with
        | '\\' :: 'u' :: s' => do
          let (m, s'') ← fourHex? s'
          if isLowHalf m then textFrom fuel (push (pairChar n m)) s''
          else textFrom fuel none s
        | _ => textFrom fuel none s
      else if isLowHalf n then textFrom fuel none s
      else textFrom fuel (push (Char.ofNat n)) s
    | '\\' :: c :: s => do textFrom fuel (push (← escaped? c)) s
    | c :: s => if c.toNat < 0x20 || c == '\\' then none else textFrom fuel (push c) s

/-- Read a text after its opening quote. -/
def text? (s : List Char) : Option (Option String × List Char) :=
  textFrom (s.length + 1) (some []) s

/-- Split off the leading digits. -/
def digitRun (s : List Char) : List Char × List Char :=
  (s.takeWhile isDigit, s.dropWhile isDigit)

/-- An integer part: `0`, or digits that do not start with `0`. -/
def integerPart? (s : List Char) : Option (List Char × List Char) :=
  match s with
  | '0' :: r => if (r.head?).any isDigit then none else some (['0'], r)
  | _ =>
    let (ds, r) := digitRun s
    if ds.isEmpty then none else some (ds, r)

/-- An optional fraction. -/
def fractionPart? : List Char → Option (List Char × List Char)
  | '.' :: s =>
    let (ds, r) := digitRun s
    if ds.isEmpty then none else some ('.' :: ds, r)
  | s => some ([], s)

/-- An optional exponent. -/
def exponentPart? : List Char → Option (List Char × List Char)
  | c :: s =>
    if c == 'e' || c == 'E' then
      let (sign, s) := match s with
        | '+' :: r => (['+'], r)
        | '-' :: r => (['-'], r)
        | _ => ([], s)
      let (ds, r) := digitRun s
      if ds.isEmpty then none else some (c :: sign ++ ds, r)
    else some ([], c :: s)
  | [] => some ([], [])

/-- Read a number. -/
def number? (s : List Char) : Option (Json × List Char) := do
  let (sign, s) := match s with
    | '-' :: r => (['-'], r)
    | _ => ([], s)
  let (whole, s) ← integerPart? s
  let (fraction, s) ← fractionPart? s
  let (exponent, s) ← exponentPart? s
  return (.number (String.ofList (sign ++ whole ++ fraction ++ exponent)), s)

/-- Read one of the three words. -/
def word? (word : String) (v : Json) (s : List Char) : Option (Json × List Char) :=
  if word.toList.isPrefixOf s then some (v, s.drop word.length) else none

mutual
/-- Read a value; `s` starts with no white space. -/
def value? (fuel : Nat) (s : List Char) : Option (Json × List Char) :=
  match fuel with
  | 0 => none
  | fuel + 1 =>
    match s with
    | [] => none
    | '"' :: s => (text? s).map fun r => (.text r.1, r.2)
    | '[' :: s =>
      match skipSpace s with
      | ']' :: s => some (.array [], s)
      | s => do
        let (vs, s) ← items? fuel [] s
        return (.array vs, s)
    | c :: s =>
      if c == Char.ofNat 0x7B then
        match skipSpace s with
        | [] => none
        | d :: s =>
          if d == Char.ofNat 0x7D then some (.object [], s)
          else do
            let (ms, s) ← members? fuel [] (d :: s)
            return (.object ms, s)
      else if c == 't' then word? "true" (.flag true) (c :: s)
      else if c == 'f' then word? "false" (.flag false) (c :: s)
      else if c == 'n' then word? "null" .null (c :: s)
      else number? (c :: s)

/-- Read the items of an array up to its end. -/
def items? (fuel : Nat) (acc : List Json) (s : List Char) : Option (List Json × List Char) :=
  match fuel with
  | 0 => none
  | fuel + 1 => do
    let (v, s) ← value? fuel s
    match skipSpace s with
    | ']' :: s => return ((v :: acc).reverse, s)
    | ',' :: s => items? fuel (v :: acc) (skipSpace s)
    | _ => none

/-- Read the members of an object up to its end. -/
def members? (fuel : Nat) (acc : List (Option String × Json)) (s : List Char) :
    Option (List (Option String × Json) × List Char) :=
  match fuel with
  | 0 => none
  | fuel + 1 =>
    match s with
    | '"' :: s => do
      let (k, s) ← text? s
      match skipSpace s with
      | ':' :: s => do
        let (v, s) ← value? fuel (skipSpace s)
        match skipSpace s with
        | [] => none
        | c :: s =>
          if c == Char.ofNat 0x7D then return (((k, v) :: acc).reverse, s)
          else if c == ',' then members? fuel ((k, v) :: acc) (skipSpace s)
          else none
      | _ => none
    | _ => none
end

/-- Read a whole text: one value with white space around it. -/
def parse? (s : String) : Option Json := do
  let cs := s.toList
  let (v, r) ← value? (2 * cs.length + 2) (skipSpace cs)
  if (skipSpace r).isEmpty then some v else none

end Fleet.Json
