import Fleet.Text.Blank
import Fleet.Text.Digits
import Fleet.Time.Calendar

/-!
# Timestamps

A timestamp is a number of seconds since 1970 and a number of nanoseconds. A leap second is counted
with the second before it: its nanoseconds run from one billion on, which only a second that ends a
minute may have.

* `Timestamp.of?`: the timestamp of seconds and nanoseconds, if there is one.
* `Timestamp.text`: the written form, with the fewest of 0, 3, 6 or 9 digits that are exact.
* `Timestamp.parse?`: reading, with any offset from universal time.
-/

namespace Fleet

open Text

/-- The seconds and nanoseconds of a timestamp: within the calendar's years, and past one billion
nanoseconds only in the last second of a minute. -/
def Representable (seconds : Int) (nanos : Nat) : Prop :=
  -8334601228800 ≤ seconds ∧ seconds ≤ 8210266876799 ∧
    (nanos < 1000000000 ∨ nanos < 2000000000 ∧ seconds % 60 = 59)

instance (s : Int) (n : Nat) : Decidable (Representable s n) := by
  unfold Representable; infer_instance

/-- A moment, with leap seconds. -/
structure Timestamp where
  seconds : Int
  nanos : Nat
  valid : Representable seconds nanos
  deriving DecidableEq

instance : Repr Timestamp := ⟨fun t p => reprPrec (t.seconds, t.nanos) p⟩

namespace Timestamp

/-- The start of 1970. -/
def epoch : Timestamp := ⟨0, 0, by decide⟩

instance : Inhabited Timestamp := ⟨epoch⟩

/-- The timestamp of seconds and nanoseconds, if there is one. -/
def of? (seconds : Int) (nanos : Nat) : Option Timestamp :=
  if h : Representable seconds nanos then some ⟨seconds, nanos, h⟩ else none

/-- A year: four digits, with a sign and at least four digits outside 0 to 9999. -/
def yearText (y : Int) : String :=
  if 0 ≤ y ∧ y ≤ 9999 then padded 4 y.toNat
  else (if y < 0 then "-" else "+") ++ padded 4 y.natAbs

/-- A fraction of a second with the fewest of 0, 3, 6 or 9 digits that are exact. -/
def fractionText (n : Nat) : String :=
  if n = 0 then ""
  else if n % 1000000 = 0 then "." ++ padded 3 (n / 1000000)
  else if n % 1000 = 0 then "." ++ padded 6 (n / 1000)
  else "." ++ padded 9 n

/-- The written form in universal time. -/
def text (t : Timestamp) : String :=
  let date := Date.ofDays (t.seconds.fdiv 86400)
  let inDay := (t.seconds.fmod 86400).toNat
  let leap := 1000000000 ≤ t.nanos
  yearText date.year ++ "-" ++ padded 2 date.month ++ "-" ++ padded 2 date.day ++ "T" ++
    padded 2 (inDay / 3600) ++ ":" ++ padded 2 (inDay % 3600 / 60) ++ ":" ++
    padded 2 (inDay % 60 + if leap then 1 else 0) ++
    fractionText (if leap then t.nanos - 1000000000 else t.nanos) ++ "Z"

/-- Read between one and `most` digits. -/
def digitsUpTo? (most : Nat) (s : List Char) : Option (Nat × List Char) := do
  let ds := (s.takeWhile isDigit).take most
  return (← decimal? ds, s.drop ds.length)

/-- Read a number of at most two digits within bounds, blanks before it skipped. -/
def field? (low high : Nat) (s : List Char) : Option (Nat × List Char) := do
  let (n, r) ← digitsUpTo? 2 (trimStart s)
  if low ≤ n ∧ n ≤ high then some (n, r) else none

/-- Read a year: up to four digits, or a sign and any number of digits. -/
def year? (s : List Char) : Option (Int × List Char) := do
  match trimStart s with
  | '-' :: r => let (n, r') ← digitsUpTo? r.length r; return (-Int.ofNat n, r')
  | '+' :: r => let (n, r') ← digitsUpTo? r.length r; return (Int.ofNat n, r')
  | r => let (n, r') ← digitsUpTo? 4 r; return (Int.ofNat n, r')

/-- Read one given character. -/
def mark? (c : Char) : List Char → Option (List Char)
  | [] => none
  | d :: s => if c = d then some s else none

/-- Read the nanoseconds of an optional fraction: digits after the ninth are dropped. -/
def fraction? : List Char → Option (Nat × List Char)
  | '.' :: s => do
    let ds := s.takeWhile isDigit
    let n ← decimal? (ds.take 9)
    return (n * Nat.pow 10 (9 - min 9 ds.length), s.drop ds.length)
  | s => some (0, s)

/-- Read an offset from universal time in seconds: `Z`, `UTC`, or a sign, hours and minutes. -/
def offset? (s : List Char) : Option (Int × List Char) :=
  if (s.take 3).map Char.toUpper == ['U', 'T', 'C'] then some (0, s.drop 3)
  else
    match s with
    | 'Z' :: r | 'z' :: r => some (0, r)
    | sign :: r =>
      if sign == '+' || sign == '-' || sign == '−' then do
        let h ← decimal? (r.take 2)
        let r := (r.drop 2).dropWhile fun c => c == ':' || isBlank c
        let m ← decimal? (r.take 2)
        if (r.take 2).length = 2 ∧ h < 24 ∧ m < 60 then
          let n : Int := h * 3600 + m * 60
          some (if sign == '+' then n else -n, r.drop 2)
        else none
      else none
    | [] => none

/-- Read a date, a time of day and an offset. Second 60 is the leap second after second 59. -/
def read? (s : List Char) : Option Timestamp := do
  let (year, s) ← year? s
  let s ← mark? '-' (trimStart s)
  let (month, s) ← field? 1 12 s
  let s ← mark? '-' (trimStart s)
  let (day, s) ← field? 1 31 s
  let s ← match s with
    | 'T' :: r | 't' :: r | ' ' :: r => some r
    | _ => none
  let (hour, s) ← field? 0 23 s
  let s ← mark? ':' (trimStart s)
  let (minute, s) ← field? 0 59 s
  let s ← mark? ':' (trimStart s)
  let (second, s) ← field? 0 60 s
  let (nanos, s) ← fraction? s
  let (offset, s) ← offset? (trimStart s)
  let date : Date := ⟨year, month, day⟩
  if !(trimStart s).isEmpty || !date.isValid then none
  else
    let inDay := hour * 3600 + minute * 60 + min second 59
    let localSeconds := date.toDays * 86400 + Int.ofNat inDay
    let nanos := nanos + if second = 60 then 1000000000 else 0
    let _ ← of? localSeconds nanos
    of? (localSeconds - offset) nanos

/-- Read a timestamp. -/
def parse? (s : String) : Option Timestamp :=
  read? s.toList

/-- Earlier seconds first, then fewer nanoseconds. -/
def before (a b : Timestamp) : Bool :=
  a.seconds < b.seconds || (a.seconds == b.seconds && a.nanos < b.nanos)

end Timestamp

end Fleet
