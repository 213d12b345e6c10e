import Fleet.Text.Digits

/-!
# Ratios

* `roundDiv`: a quotient to the nearest integer, halves to the even one.
* `binaryRatio`: a quotient to fifty-three binary digits.
* `ratioText`: a quotient with six decimals, by way of the binary one.
-/

namespace Fleet.Text

/-- The quotient to the nearest integer, halves to the even one. -/
def roundDiv (num den : Nat) : Nat :=
  let q := num / den
  let r := num % den
  if 2 * r < den || (2 * r == den && q % 2 == 0) then q else q + 1

/-- The quotient of two positive numbers as `(m, k)`, which stands for `m / 2 ^ k`. -/
def binaryRatio (num den : Nat) : Nat × Nat :=
  let k := 52 + den.log2 - num.log2
  let k := if num * Nat.pow 2 k < Nat.pow 2 52 * den then k + 1 else k
  (roundDiv (num * Nat.pow 2 k) den, k)

/-- The quotient with six decimals; zero if the divisor is zero. -/
def ratioText (num den : Nat) : String :=
  if num = 0 ∨ den = 0 then "0.000000"
  else
    let (m, k) := binaryRatio num den
    let n := roundDiv (m * 1000000) (Nat.pow 2 k)
    decimal (n / 1000000) ++ "." ++ padded 6 (n % 1000000)

end Fleet.Text
