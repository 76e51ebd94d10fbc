/-!
# Floating-point numbers

The numbers of the IEEE 754 binary64 format, with exact natural-number arithmetic behind each
operation: an operation computes the exact rational result and rounds it once, to the nearest
number of the format and to the even one of two at the same distance.

## Main definitions

* `Binary64`: a signed product of a significand and a power of two, an infinity, or no number
* `Binary64.ofRatio`: the number nearest to a quotient
* `Binary64.ofDecimal`: the number nearest to a decimal
* `Binary64.add`, `Binary64.mul`: rounded sum and product
* `Binary64.truncate?`: the integer part
-/

namespace PodRedirect

/-- A number of the binary64 format. A finite one is `significand · 2 ^ exponent` with the sign;
the significand is below `2 ^ 53` and the exponent between -1074 and 971. -/
inductive Binary64 where
  | finite (negative : Bool) (significand : Nat) (exponent : Int)
  | infinite (negative : Bool)
  | nan
  deriving DecidableEq, Repr

namespace Binary64

/-- The least significand of a number that is not among the smallest, `2 ^ 52`. -/
def leastSignificand : Nat := 0x10000000000000

/-- The quotient rounded to the nearest natural number, a half to the even neighbour. -/
def roundDiv (num den : Nat) : Nat :=
  let q := num / den
  let r := num % den
  if 2 * r < den then q else if den < 2 * r then q + 1 else q + q % 2

/-- `base ^ e` as a quotient. -/
def power (base : Nat) (e : Int) : Nat × Nat :=
  if 0 ≤ e then (base.pow e.toNat, 1) else (1, base.pow (-e).toNat)

/-- The exponent `e` with `2 ^ e ≤ num / den < 2 ^ (e + 1)`, for positive operands. -/
def binade (num den : Nat) : Int :=
  let e := (num.log2 : Int) - den.log2
  let p := power 2 e
  if p.1 * den ≤ num * p.2 then e else e - 1

/-- The number nearest to `num / den`, for positive `den`. -/
def ofRatio (negative : Bool) (num den : Nat) : Binary64 :=
  if num = 0 then finite negative 0 (-1074)
  else
    let e := max (binade num den - 52) (-1074)
    let p := power 2 e
    let m := roundDiv (num * p.2) (den * p.1)
    let (m, e) := if m = 2 * leastSignificand then (leastSignificand, e + 1) else (m, e)
    if 971 < e then infinite negative else finite negative m e

/-- The number nearest to an integer. -/
def ofInt (n : Int) : Binary64 :=
  ofRatio (n < 0) n.natAbs 1

/-- The number nearest to `digits · 10 ^ e`. Beyond the range of the format the result is known
from the size alone. -/
def ofDecimal (negative : Bool) (digits : Nat) (e : Int) : Binary64 :=
  let size := (Nat.toDigits 10 digits).length + e
  if digits = 0 || size < -400 then finite negative 0 (-1074)
  else if 400 < size then infinite negative
  else
    let p := power 10 e
    ofRatio negative (digits * p.1) p.2

/-- A finite number as a signed quotient. -/
def ratio? : Binary64 → Option (Int × Nat)
  | finite negative m e =>
    let p := power 2 e
    some (if negative then -((m * p.1 : Nat) : Int) else ((m * p.1 : Nat) : Int), p.2)
  | _ => none

/-- The sign, also of zero. -/
def isNegative : Binary64 → Bool
  | finite negative _ _ => negative
  | infinite negative => negative
  | nan => false

/-- The number with the other sign. -/
def neg : Binary64 → Binary64
  | finite negative m e => finite (!negative) m e
  | infinite negative => infinite (!negative)
  | nan => nan

/-- The number is a zero of either sign. -/
def isZero : Binary64 → Bool
  | finite _ m _ => m == 0
  | _ => false

/-- The rounded sum. -/
def add (x y : Binary64) : Binary64 :=
  match x.ratio?, y.ratio? with
  | some (a, b), some (c, d) =>
    let n := a * d + c * b
    ofRatio (n < 0 || (n = 0 && x.isNegative && y.isNegative)) n.natAbs (b * d)
  | some _, none => y
  | none, some _ => x
  | none, none => if x = y then x else nan

/-- The rounded product. -/
def mul (x y : Binary64) : Binary64 :=
  let negative := x.isNegative != y.isNegative
  match x.ratio?, y.ratio? with
  | some (a, b), some (c, d) => ofRatio negative (a.natAbs * c.natAbs) (b * d)
  | _, _ => if x = nan || y = nan || x.isZero || y.isZero then nan else infinite negative

/-- The integer part of a finite number, toward zero. -/
def truncate? (x : Binary64) : Option Int :=
  x.ratio?.map fun r => r.1.tdiv r.2

end Binary64

end PodRedirect
