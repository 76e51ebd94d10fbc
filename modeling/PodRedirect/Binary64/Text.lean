import PodRedirect.Binary64
import PodRedirect.Numeral

/-!
# Floating-point numbers as text

A number is written with the fewest digits that read back as the same number, and of these with
the nearest. It is written positionally from `0.0001` up to seventeen places before the point,
and with an exponent of at least two digits otherwise.

## Main definitions

* `Binary64.shortest`: the fewest digits that identify a number
* `Binary64.text`: a number in words
* `Binary64.read?`: the number nearest to what a text writes
-/

namespace PodRedirect.Binary64

open Text

/-- The number of decimal places before the point of a positive finite number: `d` with
`10 ^ (d - 1) ≤ m · 2 ^ e < 10 ^ d`. No positive number of the format is below `10 ^ -400`. -/
def places (m : Nat) (e : Int) : Int :=
  let p := power 2 e
  ((Nat.toDigits 10 (m * p.1 * Nat.pow 10 400 / p.2)).length : Int) - 400

/-- The point of the grid of multiples of `10 ^ k` that rounds to `m · 2 ^ e` and is nearest to
it, as a multiple of `10 ^ k`. One of the two neighbours of the number on the grid is such a point
if any is. The numbers that round to it reach half way to the next ones, the ends included if the
significand is even; below a power of two the next number is half as far. -/
def onGrid? (m : Nat) (e k : Int) : Option Nat :=
  let p := power 2 (e - 2)
  let t := power 10 k
  let u := p.1 * t.2
  let w := p.2 * t.1
  let lo := if m = leastSignificand && -1074 < e then 4 * m - 1 else 4 * m - 2
  let hi := 4 * m + 2
  let inside := fun c =>
    if m % 2 = 0 then lo * u ≤ c * w && c * w ≤ hi * u else lo * u < c * w && c * w < hi * u
  let c := 4 * m * u / w
  let below := 4 * m * u - c * w
  let above := (c + 1) * w - 4 * m * u
  match inside c, inside (c + 1) with
  | true, true =>
    if below < above then some c
    else if above < below then some (c + 1)
    else some (c + c % 2)
  | true, false => some c
  | false, true => some (c + 1)
  | false, false => none

/-- The fewest digits that identify a positive finite number, with the number of places before
the point. Seventeen digits are always enough. -/
def shortest (m : Nat) (e : Int) : List Char × Int :=
  let d := places m e
  let found := (List.range 17).findSome? fun (n : Nat) =>
    let k : Int := d - (n + 1)
    (onGrid? m e k).map fun c => (c, k)
  let (c, k) := found.getD (0, 0)
  let ds := Nat.toDigits 10 c
  (trimEnd (· = '0') ds, ds.length + k)

/-- The least and the greatest number of places before the point that are written
positionally. -/
def positional : Int × Int := (-3, 16)

/-- Digits with a point after the given number of places, or with an exponent. -/
def layOut (ds : List Char) (d : Int) : List Char :=
  if positional.1 ≤ d && d ≤ positional.2 then
    if d ≤ 0 then '0' :: '.' :: List.replicate (-d).toNat '0' ++ ds
    else if ds.length ≤ d.toNat then
      ds ++ List.replicate (d.toNat - ds.length) '0' ++ ['.', '0']
    else ds.take d.toNat ++ '.' :: ds.drop d.toNat
  else
    let fraction := if ds.length ≤ 1 then [] else '.' :: ds.drop 1
    let sign := if d - 1 < 0 then '-' else '+'
    ds.take 1 ++ fraction ++ 'e' :: sign :: (Nat.toDigits 10 (d - 1).natAbs).leftpad 2 '0'

/-- A number in words. -/
def text : Binary64 → String
  | finite negative m e =>
    let body := if m = 0 then ['0', '.', '0'] else
      let s := shortest m e
      layOut s.1 s.2
    String.ofList (if negative then '-' :: body else body)
  | infinite negative => if negative then "-inf" else "inf"
  | nan => "nan"

/-- The exponent part of a number, which may be missing. -/
def readExponent? : List Char → Option Int
  | [] => some 0
  | c :: cs =>
    let (negative, ds) := Numeral.takeSign cs
    if c.toLower = 'e' && !ds.isEmpty && ds.all fun d => (digitValue? d).isSome then
      let n : Int := ofDigits 10 (ds.filterMap digitValue?)
      some (if negative then -n else n)
    else none

/-- The number nearest to what a text writes: white space, a sign, digits of any script with a
point and an exponent, or the word for an infinity or for no number. -/
def read? (s : String) : Option Binary64 :=
  let (negative, cs) := Numeral.takeSign (trim Numeral.isMargin s.toList)
  let isDigit := fun c => (digitValue? c).isSome
  let whole := cs.takeWhile isDigit
  let rest := cs.dropWhile isDigit
  let (part, rest) :=
    match rest with
    | '.' :: after => (after.takeWhile isDigit, after.dropWhile isDigit)
    | other => ([], other)
  let word := lower (String.ofList cs)
  if word = "inf" || word = "infinity" then some (infinite negative)
  else if word = "nan" then some nan
  else if (whole ++ part).isEmpty then none
  else (readExponent? rest).map fun e =>
    ofDecimal negative (ofDigits 10 ((whole ++ part).filterMap digitValue?)) (e - part.length)

end PodRedirect.Binary64
