import Fleet.Text.Digits

/-!
# Numbers of YAML

What a plain scalar must look like to be a number.

* `unsigned?`: the value of a number of sixty-four bits without a minus sign.
* `isNumber`: the text would read as an integer or as a float.
-/

namespace Fleet.Yaml

open Text

/-- The text without a plus sign in front. -/
def dropPlus : List Char → List Char
  | '+' :: s => s
  | s => s

/-- The text starts with a sign. -/
def startsSigned (s : List Char) : Bool :=
  s.head? == some '+' || s.head? == some '-'

/-- A zero with more digits after it, which is no number. -/
def isZeroPadded (s : List Char) : Bool :=
  let ds := if startsSigned s then s.tail else s
  1 < ds.length && ds.head? == some '0' && ds.all isDigit

/-- The base that a letter after a zero names. -/
def baseOf? (c : Char) : Option Nat :=
  if c == 'x' then some 16 else if c == 'o' then some 8 else if c == 'b' then some 2 else none

/-- The value of digits after `0x`, `0o` or `0b`. -/
def based? : List Char → Option Nat
  | '0' :: c :: s => do digits? (← baseOf? c) s
  | _ => none

/-- The value of a number in base ten without leading zeros, or of one with a base in front. -/
def magnitude? (s : List Char) : Option Nat :=
  match based? s with
  | some n => some n
  | none => if isZeroPadded s then none else decimal? s

/-- The value of a number of sixty-four bits, with an optional plus sign. -/
def unsigned? (s : List Char) : Option Nat := do
  fits64? (← magnitude? (dropPlus s))

/-- The text would read as an integer of at most a hundred and twenty-eight bits. -/
def isInteger (s : List Char) : Bool :=
  match s with
  | '-' :: s => (magnitude? s).any (· ≤ Nat.pow 2 127)
  | s => (magnitude? (dropPlus s)).any (· < Nat.pow 2 128)

/-- A number `mantissa · 10 ^ exponent`. -/
structure Scientific where
  mantissa : Nat
  exponent : Int
  deriving DecidableEq, Repr

namespace Scientific

/-- Read an exponent: `e`, an optional sign and digits, or nothing. -/
def exponent? : List Char → Option Int
  | [] => some 0
  | c :: s =>
    if c == 'e' || c == 'E' then
      match s with
      | '-' :: ds => (decimal? ds).map fun n => -Int.ofNat n
      | ds => (decimal? (dropPlus ds)).map Int.ofNat
    else none

/-- Read digits with an optional point, and an optional exponent. -/
def parse? (s : List Char) : Option Scientific := do
  let whole := s.takeWhile isDigit
  let s := s.drop whole.length
  let (fraction, s) := match s with
    | '.' :: r => (r.takeWhile isDigit, r.dropWhile isDigit)
    | _ => ([], s)
  let m ← decimal? (whole ++ fraction)
  return ⟨m, (← exponent? s) - fraction.length⟩

/-- The first number too great for a float of sixty-four bits, halfway past the greatest one. -/
def floatLimit : Nat := Nat.pow 2 1024 - Nat.pow 2 970

/-- The number fits a float of sixty-four bits. -/
def fitsFloat (x : Scientific) : Bool :=
  let digits := (Nat.toDigits 10 x.mantissa).length
  if x.mantissa == 0 || digits + x.exponent ≤ 308 then true
  else if 400 < digits + x.exponent then false
  else if 0 ≤ x.exponent then x.mantissa * Nat.pow 10 x.exponent.toNat < floatLimit
  else x.mantissa < floatLimit * Nat.pow 10 x.exponent.natAbs

end Scientific

/-- The text would read as a float. -/
def isFloat (s : List Char) : Bool :=
  let unsigned := dropPlus s
  let isWord (words : List String) (t : List Char) := words.contains (String.ofList t)
  if s.head? == some '+' && startsSigned unsigned then false
  else
    isWord [".inf", ".Inf", ".INF"] unsigned || isWord ["-.inf", "-.Inf", "-.INF"] s ||
      isWord [".nan", ".NaN", ".NAN"] s ||
      (Scientific.parse? (if startsSigned unsigned then unsigned.tail else unsigned)).any
        Scientific.fitsFloat

/-- The text would read as an integer or as a float. -/
def isNumber (s : List Char) : Bool :=
  isInteger s || (!isZeroPadded s && isFloat s)

end Fleet.Yaml
