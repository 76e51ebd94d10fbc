import PodRedirect.Text.Basic
import PodRedirect.Text.Digit

/-!
# Network addresses

Addresses of the two versions of the internet protocol in their usual notation, and what they are
as numbers.

## Main definitions

* `Net.Family`: the version of the protocol
* `Net.v4?`: a dotted quad
* `Net.v6?`: eight groups of hexadecimal digits, a run of zero groups perhaps left out
-/

namespace PodRedirect.Net

open Text

/-- The version of the internet protocol. -/
inductive Family where
  | v4
  | v6
  deriving DecidableEq, Repr

/-- The number of bits of an address. -/
def Family.bits : Family → Nat
  | .v4 => 32
  | .v6 => 128

/-- One of the four parts of a dotted quad: up to 255, without needless zeros. -/
def octet? (cs : List Char) : Option Nat :=
  if cs.isEmpty || !cs.all Char.isDigit || 3 < cs.length then none
  else if cs.head? = some '0' && cs ≠ ['0'] then none
  else if 255 < decimal cs then none
  else some (decimal cs)

/-- A dotted quad. -/
def v4? (cs : List Char) : Option Nat := do
  let parts ← (cs.splitOn '.').mapM octet?
  if parts.length = 4 then some (ofDigits 256 parts) else none

/-- One of the groups of an address of version 6: up to four hexadecimal digits. -/
def group? (cs : List Char) : Option Nat :=
  if cs.isEmpty || 4 < cs.length then none
  else (cs.mapM hexDigitValue?).map (ofDigits 16)

/-- The groups of an address of version 6, the last two of which may be written as a dotted
quad. -/
def groups? (parts : List (List Char)) : Option (List (Option Nat)) :=
  let group := fun cs : List Char => if cs.isEmpty then some none else (group? cs).map some
  match parts.getLast? with
  | none => none
  | some last =>
    if last.contains '.' then do
      let n ← v4? last
      return (← parts.dropLast.mapM group) ++ [some (n / 65536), some (n % 65536)]
    else parts.mapM group

/-- The number of eight groups. An empty one between others stands for as many zero groups as are
missing, at least one; it stands alone, or with another empty one at the start or at the end of the
address. -/
def ofGroups? (groups : List (Option Nat)) : Option Nat := do
  let inner := (groups.drop 1).dropLast
  let some k := inner.findIdx? Option.isNone | do
    let ns ← groups.mapM id
    if ns.length = 8 then some (ofDigits 65536 ns) else none
  let high := groups.take (k + 1)
  let low := groups.drop (k + 2)
  let high ← if high = [none] then some [] else high.mapM id
  let low ← if low = [none] then some [] else low.mapM id
  if high.length + low.length < 8 then
    some (ofDigits 65536 (high ++ List.replicate (8 - high.length - low.length) 0 ++ low))
  else none

/-- An address of version 6, perhaps with the name of a zone behind a percent sign. -/
def v6? (cs : List Char) : Option Nat := do
  let address := cs.takeWhile (· ≠ '%')
  match cs.dropWhile (· ≠ '%') with
  | [] => pure ()
  | _ :: zone => guard (!zone.isEmpty && !zone.contains '%')
  let parts := address.splitOn ':'
  guard (3 ≤ parts.length)
  ofGroups? (← groups? parts)

end PodRedirect.Net
