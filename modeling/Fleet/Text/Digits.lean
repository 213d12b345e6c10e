/-!
# Digits

Numbers as text.

* `decimal`, `padded`: a number in base ten, plain or with leading zeros.
* `digitValue?`, `decimal?`: reading digits.
* `word64?`: a number that fits sixty-four bits, with an optional plus sign.
-/

namespace Fleet.Text

/-- A number in base ten. -/
def decimal (n : Nat) : String :=
  String.ofList (Nat.toDigits 10 n)

/-- A number in base ten with at least `width` digits. -/
def padded (width n : Nat) : String :=
  let ds := Nat.toDigits 10 n
  String.ofList (List.replicate (width - ds.length) '0' ++ ds)

/-- An ASCII digit. -/
def isDigit (c : Char) : Bool :=
  '0' ≤ c && c ≤ '9'

/-- The value of a digit in a base up to sixteen, in either case. -/
def digitValue? (base : Nat) (c : Char) : Option Nat :=
  let v :=
    if isDigit c then c.toNat - 48
    else if 'a' ≤ c && c ≤ 'f' then c.toNat - 87
    else if 'A' ≤ c && c ≤ 'F' then c.toNat - 55
    else 16
  if v < base then some v else none

/-- The value of a list of digits read after `acc`. -/
def digitsFrom (base acc : Nat) : List Char → Option Nat
  | [] => some acc
  | c :: s => do digitsFrom base (acc * base + (← digitValue? base c)) s

/-- The value of one or more digits. -/
def digits? (base : Nat) (s : List Char) : Option Nat :=
  if s.isEmpty then none else digitsFrom base 0 s

/-- The value of one or more decimal digits. -/
def decimal? (s : List Char) : Option Nat :=
  digits? 10 s

/-- The first number that does not fit sixty-four bits. -/
def wordLimit : Nat := 18446744073709551616

/-- A number that fits sixty-four bits. -/
def fits64? (n : Nat) : Option Nat :=
  if n < wordLimit then some n else none

/-- A number of sixty-four bits in base ten, with an optional plus sign. -/
def word64? (s : List Char) : Option Nat := do
  fits64? (← decimal? (match s with | '+' :: r => r | _ => s))

end Fleet.Text
