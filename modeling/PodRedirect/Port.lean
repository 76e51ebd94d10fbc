import PodRedirect.Value

/-!
# Ports

Ports and ranges of ports, as they are written in options: a decimal number up to 65535, or two of
them with a dash between. Signs, underscores, blanks inside and digits of other scripts are not
accepted.

## Main definitions

* `PortRange`: a range with both ends, and its two notations
* `Port.Refusal`: a token that is no port or range, and why
* `Port.parse`, `PortRange.parse`: the port and the range that a token writes
-/

namespace PodRedirect

open Text

/-- The ports from `lower` to `upper`, both included. -/
structure PortRange where
  lower : Int
  upper : Int
  deriving DecidableEq, Repr

namespace PortRange

/-- A range of one port. -/
def isSingle (r : PortRange) : Bool := r.lower = r.upper

/-- The range as a destination in a rule. -/
def destination (r : PortRange) : String :=
  if r.isSingle then toString r.lower else toString r.lower ++ ":" ++ toString r.upper

/-- The range as it is written in options. -/
def text (r : PortRange) : String :=
  if r.isSingle then toString r.lower else toString r.lower ++ "-" ++ toString r.upper

/-- The number of port references that the range costs in a rule. -/
def cost (r : PortRange) : Nat := if r.isSingle then 1 else 2

end PortRange

namespace Port

/-- The least and the greatest port. -/
def bounds : Int × Int := (0, 65535)

/-- The number is a port. -/
def isValid (n : Int) : Bool := bounds.1 ≤ n && n ≤ bounds.2

/-- Why a token is refused: `stated` is for a reason given in words from elsewhere. -/
inductive Cause where
  | noPort
  | noRange
  | badLower (part : String)
  | badUpper (part : String)
  | reversed
  | stated (reason : String)
  deriving DecidableEq, Repr

/-- A token that is no port or range, with its text, and why. -/
structure Refusal where
  token : Value
  text : String
  cause : Cause
  deriving Repr

/-- A refusal in words. -/
def Refusal.message (r : Refusal) : String :=
  match r.cause with
  | .noPort => "\"" ++ r.text ++ "\" is not a valid TCP port"
  | .noRange => "ranges expected as <lower>-<upper>"
  | .badLower part => "\"" ++ part ++ "\" is not a valid lower-bound"
  | .badUpper part => "\"" ++ part ++ "\" is not a valid upper-bound"
  | .reversed =>
    "\"" ++ r.text ++ "\": upper-bound must be greater than or equal to lower-bound"
  | .stated reason => reason

/-- What a token may fail with: it is refused, or its digits are too many to be read or written. -/
inductive Fault where
  | refused (r : Refusal)
  | numeral (f : Numeral.Fault)
  deriving Repr

/-- The port that the text writes, if it is the decimal of one. -/
def number? (text : List Char) : Except Numeral.Fault (Option Int) :=
  match Numeral.readAscii? text with
  | none => .ok none
  | some (.error f) => .error f
  | some (.ok n) => .ok (if isValid n then some n else none)

/-- A text without the white space around it. -/
def stripped (text : String) : List Char := trim isBlank text.toList

/-- The port that a token writes. -/
def parse (token : Value) : Except Fault Int := do
  let text ← token.display.mapError .numeral
  match ← (number? (stripped text)).mapError .numeral with
  | some n => return n
  | none => throw (.refused ⟨token, text, .noPort⟩)

end Port

/-- The range that a token writes. -/
def PortRange.parse (token : Value) : Except Port.Fault PortRange := do
  let text ← token.display.mapError Port.Fault.numeral
  let cs := Port.stripped text
  let refuse := fun cause => throw (Port.Fault.refused ⟨token, text, cause⟩)
  let number := fun cs => (Port.number? cs).mapError Port.Fault.numeral
  if (Numeral.readAscii? cs).isSome then
    match ← number cs with
    | some n => return ⟨n, n⟩
    | none => refuse .noPort
  else
    match cs.splitOn '-' with
    | [first, second] =>
      let some lower ← number first | refuse (.badLower (String.ofList first))
      let some upper ← number second | refuse (.badUpper (String.ofList second))
      if upper < lower then refuse .reversed else return ⟨lower, upper⟩
    | _ => refuse .noRange

end PodRedirect
