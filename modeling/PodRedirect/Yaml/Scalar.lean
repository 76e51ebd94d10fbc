import PodRedirect.Text.Base64
import PodRedirect.Text.Lowercase
import PodRedirect.Value
import PodRedirect.Yaml.Tag

/-!
# The values of scalars

The text of a scalar denotes a value of its kind. A kind that was given by a tag need not fit the
text.

## Main definitions

* `Yaml.intValue`, `Yaml.floatValue`, `Yaml.flagValue`, `Yaml.timeValue`, `Yaml.binaryValue`:
  values of one kind
* `Yaml.scalarValue`: the value of a scalar of a given kind
-/

namespace PodRedirect.Yaml

open Text

/-- The text without underscores. -/
def dropGaps (s : String) : List Char := s.toList.filter (· ≠ '_')

/-- The value of an integer in the given base. -/
def integer (base : Nat) (cs : List Char) : Except Fault Int :=
  (Numeral.read base (String.ofList cs)).mapError .numeral

/-- The number that parts make of which each counts sixty times as much as the one after it. -/
def sexagesimal (parts : List Int) : Int :=
  parts.foldl (fun n part => 60 * n + part) 0

/-- The value of a scalar that is an integer. -/
def intValue (s : String) : Except Fault Int := do
  let (negative, cs) := Numeral.takeSign (dropGaps s)
  if cs.isEmpty then throw .empty
  let n ←
    match cs with
    | ['0'] => pure 0
    | '0' :: 'b' :: ds => integer 2 ds
    | '0' :: 'x' :: ds => integer 16 ds
    | '0' :: _ => integer 8 cs
    | _ =>
      if cs.contains ':' then do
        let parts ← (cs.splitOn ':').mapM (integer 10)
        pure (sexagesimal parts)
      else integer 10 cs
  return if negative then -n else n

/-- The sign of a number with a point and what follows it, in small letters. -/
def floatWord (s : String) : Bool × List Char :=
  Numeral.takeSign (lowercase (String.ofList (dropGaps s))).toList

/-- The name of no number, perhaps with a sign. -/
def isNanName (s : String) : Bool := (floatWord s).2 = ".nan".toList

/-- The value of a number with a point, or of a part of one. -/
def floatPart (cs : List Char) : Except Fault Binary64 :=
  match Binary64.read? (String.ofList cs) with
  | some x => .ok x
  | none => .error (.noFloat (String.ofList cs))

/-- Adds parts to a sum, of which the first counts `weight` times and each sixty times as much as
the one before it. A weight is a finite number too. -/
def addSixtieths (sum : Binary64) (weight : Int) : List Binary64 → Except Fault Binary64
  | [] => .ok sum
  | part :: parts =>
    match Binary64.ofInt weight with
    | .infinite _ => .error .tooLarge
    | w => addSixtieths (sum.add (part.mul w)) (60 * weight) parts

/-- The sum of parts, each of which counts sixty times as much as the one after it; they are added
from the last to the first. -/
def sixtieths (parts : List Binary64) : Except Fault Binary64 :=
  addSixtieths (Binary64.ofInt 0) 1 parts.reverse

/-- The value of a scalar that is a number with a point. -/
def floatValue (s : String) : Except Fault Binary64 := do
  let (negative, cs) := floatWord s
  if (dropGaps s).isEmpty then throw .empty
  if cs = ".inf".toList then return .infinite negative
  if isNanName s then return .nan
  let x ←
    if cs.contains ':' then do sixtieths (← (cs.splitOn ':').mapM floatPart) else floatPart cs
  return if negative then x.neg else x

/-- The value of a scalar that is a truth value. -/
def flagValue (s : String) : Except Fault Bool :=
  let word := lowercase s
  match flagWords.lookup word with
  | some b => .ok b
  | none => .error (.noFlag word)

/-- The value of a point in time: the fraction counts to six places. -/
def timeValue (t : TimeForm) : Except Fault Value :=
  let date : Date := ⟨t.year, t.month, t.day⟩
  match t.clock with
  | none =>
    match date.fault? with
    | some f => .error (.calendar f)
    | none => .ok (.date date)
  | some c =>
    let micro := decimal ((c.fraction.take 6).rightpad 6 '0')
    let m : Moment := ⟨date, c.hour, c.minute, c.second, micro, c.offset⟩
    match m.fault? with
    | some f => .error (.calendar f)
    | none => .ok (.moment m)

/-- The problem with a text that is not in ASCII: its first characters beyond that. -/
def notAscii (s : String) : String :=
  let position := (s.toList.takeWhile fun c => c.toNat < 128).length
  let beyond := (s.toList.drop position).takeWhile fun c => 128 ≤ c.toNat
  let place := match beyond with
    | [c] => "character " ++ String.ofList (quotedAscii (String.singleton c)) ++ " in position " ++
        toString position
    | _ => "characters in position " ++ toString position ++ "-" ++
        toString (position + beyond.length - 1)
  "failed to convert base64 data into ascii: 'ascii' codec can't encode " ++ place ++
    ": ordinal not in range(128)"

/-- The value of bytes in base 64. -/
def binaryValue (s : String) : Except Failure (List UInt8) :=
  if s.toList.all fun c => c.toNat < 128 then
    (Base64.decode s).mapError fun f => .refused ("failed to decode base64 data: " ++ f.message)
  else .error (.refused (notAscii s))

/-- The problem with a node whose tag stands for no kind of values. -/
def noKind (tag : Tag) : Failure :=
  .refused ("could not determine a constructor for the tag " ++ quoted tag.name)

/-- The value of a scalar of a given kind. -/
def scalarValue (tag : Tag) (s : String) : Except Failure Value :=
  match tag with
  | .null => .ok .null
  | .flag => ((flagValue s).map Value.flag).mapError .fault
  | .int => ((intValue s).map Value.int).mapError .fault
  | .float => ((floatValue s).map Value.float).mapError .fault
  | .text => .ok (.text s)
  | .binary => (binaryValue s).map Value.bytes
  | .time =>
    match time? (form s.toList) with
    | some t => (timeValue t).mapError .fault
    | none => .error (.fault .noTime)
  | .merge | .default | .sequence | .pairs | .set | .mapping | .other _ => .error (noKind tag)

end PodRedirect.Yaml
