import Fleet.Text.Blank
import Fleet.Text.Digits

/-!
# Spans of time

A span counts whole nanoseconds.

* `Span.parse?`: numbers with units, added up, as in `1h 30m`.
* `Span.text`: the same notation, from years down to nanoseconds.
* `Span.brief`: one number in the largest unit that fits, as in `1.5s`.
-/

namespace Fleet

open Text

/-- A span of time in nanoseconds. -/
structure Span where
  nanos : Nat
  deriving DecidableEq, Repr, Inhabited

namespace Span

/-- A span of whole milliseconds. -/
def ofMillis (n : Nat) : Span := ⟨n * 1000000⟩

/-- A span of whole seconds. -/
def ofSeconds (n : Nat) : Span := ⟨n * 1000000000⟩

/-- A span of seconds and nanoseconds. -/
def ofParts (seconds nanos : Nat) : Span := ⟨seconds * 1000000000 + nanos⟩

/-- The longest span: sixty-four bits of seconds and every nanosecond of the last. -/
def longest : Span := ofParts (wordLimit - 1) 999999999

/-- The whole seconds. -/
def seconds (s : Span) : Nat := s.nanos / 1000000000

/-- The nanoseconds after the whole seconds. -/
def subNanos (s : Span) : Nat := s.nanos % 1000000000

/-- A unit of time: so many nanoseconds or so many seconds. -/
inductive Scale where
  | nanos (n : Nat)
  | seconds (n : Nat)
  deriving DecidableEq, Repr

/-- The unit of a name. -/
def scale? (name : String) : Option Scale :=
  match name with
  | "nanos" | "nsec" | "ns" => some (.nanos 1)
  | "usec" | "us" | "µs" => some (.nanos 1000)
  | "millis" | "msec" | "ms" => some (.nanos 1000000)
  | "seconds" | "second" | "secs" | "sec" | "s" => some (.seconds 1)
  | "minutes" | "minute" | "min" | "mins" | "m" => some (.seconds 60)
  | "hours" | "hour" | "hr" | "hrs" | "h" => some (.seconds 3600)
  | "days" | "day" | "d" => some (.seconds 86400)
  | "weeks" | "week" | "wk" | "wks" | "w" => some (.seconds 604800)
  | "months" | "month" | "M" => some (.seconds 2630016)
  | "years" | "year" | "yr" | "yrs" | "y" => some (.seconds 31557600)
  | _ => none

/-- A decimal fraction: a numerator over a power of ten. -/
structure Fraction where
  numerator : Nat
  denominator : Nat
  deriving DecidableEq, Repr

/-- An exact quotient. -/
def exactly? (n d : Nat) : Option Nat :=
  if d ≠ 0 ∧ n % d = 0 then some (n / d) else none

/-- Add seconds and nanoseconds, each within sixty-four bits on the way. -/
def add? (total : Nat × Nat) (seconds nanos : Nat) : Option (Nat × Nat) := do
  let n ← fits64? (total.2 + nanos)
  let s ← fits64? (seconds + n / 1000000000)
  return (← fits64? (total.1 + s), n % 1000000000)

/-- Add `n` and a fraction of a unit. The fraction must come out exact: in nanoseconds for units up
to a minute, in seconds from an hour on, and none is allowed of a nanosecond. -/
def close? (total : Nat × Nat) (n : Nat) (fraction : Option Fraction) (unit : String) :
    Option (Nat × Nat) := do
  match ← scale? unit with
  | .nanos k =>
    let whole ← add? total 0 (← fits64? (n * k))
    match fraction with
    | none => return whole
    | some f =>
      if k = 1 then none
      else add? whole 0 (← exactly? (← fits64? (f.numerator * k)) f.denominator)
  | .seconds k =>
    let whole ← add? total (← fits64? (n * k)) 0
    match fraction with
    | none => return whole
    | some f =>
      if k ≤ 60 then
        add? whole 0 (← exactly? (← fits64? (f.numerator * (k * 1000000000))) f.denominator)
      else add? whole (← exactly? (← fits64? (f.numerator * k)) f.denominator) 0

/-- Where the reading of a span stands: `total` is what the units closed so far add up to. -/
inductive Reading where
  | between (total : Option (Nat × Nat))
  | number (total : Nat × Nat) (n : Nat)
  | fraction (total : Nat × Nat) (n : Nat) (f : Fraction)
  | unit (total : Nat × Nat) (n : Nat) (f : Option Fraction) (letters : List Char)

/-- A character of a unit's name. -/
def isUnitLetter (c : Char) : Bool :=
  ('a' ≤ c && c ≤ 'z') || ('A' ≤ c && c ≤ 'Z') || c == 'µ'

/-- Read one character. Blanks may stand before, inside and after numbers. -/
def Reading.next (r : Reading) (c : Char) : Option Reading :=
  match r with
  | .between total =>
    if isBlank c then some (.between total)
    else if isDigit c then some (.number (total.getD (0, 0)) (c.toNat - 48))
    else none
  | .number total n =>
    if isDigit c then (fits64? (n * 10 + (c.toNat - 48))).map (.number total)
    else if isBlank c then some (.number total n)
    else if isUnitLetter c then some (.unit total n none [c])
    else if c == '.' then some (.fraction total n ⟨0, 1⟩)
    else none
  | .fraction total n f =>
    if isDigit c then do
      let d ← fits64? (f.denominator * 10)
      let m ← fits64? (f.numerator * 10 + (c.toNat - 48))
      return .fraction total n ⟨m, d⟩
    else if isBlank c then some (.fraction total n f)
    else if isUnitLetter c && f.denominator != 1 then some (.unit total n (some f) [c])
    else none
  | .unit total n f letters =>
    if isUnitLetter c then some (.unit total n f (letters ++ [c]))
    else if isDigit c then
      (close? total n f (String.ofList letters)).map (.number · (c.toNat - 48))
    else if isBlank c then
      (close? total n f (String.ofList letters)).map fun t => .between (some t)
    else none

/-- What has been read, if it ends well: not empty, and no number without a unit. -/
def Reading.finish : Reading → Option (Nat × Nat)
  | .between total => total
  | .number _ _ => none
  | .fraction _ _ _ => none
  | .unit total n f letters => close? total n f (String.ofList letters)

/-- Read a span: one or more numbers with units, added up. -/
def parse? (s : String) : Option Span := do
  let r ← s.toList.foldlM Reading.next (.between none)
  let t ← r.finish
  return ofParts t.1 t.2

/-- A count with its unit; nothing for zero. -/
def counted (n : Nat) (unit : String) (plural : Bool) : List String :=
  if n = 0 then [] else [decimal n ++ unit ++ (if plural && n != 1 then "s" else "")]

/-- Write a span in units from years down to nanoseconds, zero parts left out. -/
def text (s : Span) : String :=
  let secs := s.seconds
  let inYear := secs % 31557600
  let inMonth := inYear % 2630016
  let inDay := inMonth % 86400
  let parts :=
    counted (secs / 31557600) "year" true ++ counted (inYear / 2630016) "month" true ++
    counted (inMonth / 86400) "day" true ++ counted (inDay / 3600) "h" false ++
    counted (inDay % 3600 / 60) "m" false ++ counted (inDay % 60) "s" false ++
    counted (s.subNanos / 1000000) "ms" false ++ counted (s.subNanos / 1000 % 1000) "us" false ++
    counted (s.subNanos % 1000) "ns" false
  if parts.isEmpty then "0s" else String.intercalate " " parts

/-- `n` over `10 ^ places` as a decimal, trailing zeros of the fraction left out. -/
def decimalText (n places : Nat) : String :=
  let whole := n / Nat.pow 10 places
  let rest := n % Nat.pow 10 places
  if rest = 0 then decimal whole
  else
    let ds := ((padded places rest).toList.reverse.dropWhile (· == '0')).reverse
    decimal whole ++ "." ++ String.ofList ds

/-- Write a span as one number in the largest unit of `s`, `ms`, `µs`, `ns` of which it holds at
least one. -/
def brief (s : Span) : String :=
  if 1000000000 ≤ s.nanos then decimalText s.nanos 9 ++ "s"
  else if 1000000 ≤ s.nanos then decimalText s.nanos 6 ++ "ms"
  else if 1000 ≤ s.nanos then decimalText s.nanos 3 ++ "µs"
  else decimal s.nanos ++ "ns"

end Span

end Fleet
