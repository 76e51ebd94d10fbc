import PodRedirect.Text.Blank
import PodRedirect.Text.Digit
import PodRedirect.Text.Quoted

/-!
# Integers written as text

An integer may be surrounded by white space, carry a sign, separate its digits by single
underscores and use the decimal digits of any script. A decimal of more than 4300 digits is
neither read nor written, since either takes time quadratic in the length. What is written inside
lists and mappings is not written either where these are nested too deep.

## Main definitions

* `Numeral.Fault`: why a text is not read or a value is not written, and `Numeral.Fault.message`
* `Numeral.digitLimit`, `Numeral.callLimit`: how long a decimal and how deep a nesting may be
* `Numeral.read`: the integer a text writes in a given base
* `Numeral.readBytes`: the integer that bytes write
* `Numeral.write`: the decimal of an integer
* `Numeral.readAscii?`: the stricter form used for ports, digits 0 to 9 only
-/

namespace PodRedirect.Numeral

open Text

/-- Why a text is not taken for an integer, which is shown quoted, or why a value is not written:
an integer in it has too many digits, or the lists and mappings in it are nested too deep. -/
inductive Fault where
  | malformed (base : Nat) (quoted : String)
  | tooLong (digits : Nat)
  | unwritable
  | tooDeep
  deriving DecidableEq, Repr

/-- The length of the longest decimal that is read or written. -/
def digitLimit : Nat := 4300

/-- How many calls may be nested inside each other where a value is written or a document is read.
A thousand may be in all, and some of them are those that lead there, which differ a little from
place to place: twenty are left for them. Nothing is proved from the number but that it is not
zero. -/
def callLimit : Nat := 980

/-- A fault in words. Of a text no more than 200 characters are shown. -/
def Fault.message : Fault → String
  | .malformed base quoted =>
    "invalid literal for int() with base " ++ toString base ++ ": " ++
      String.ofList (quoted.toList.take 200)
  | .tooLong digits =>
    "Exceeds the limit (" ++ toString digitLimit ++
      " digits) for integer string conversion: value has " ++ toString digits ++
      " digits; use sys.set_int_max_str_digits() to increase the limit"
  | .unwritable =>
    "Exceeds the limit (" ++ toString digitLimit ++
      " digits) for integer string conversion; use sys.set_int_max_str_digits() to increase " ++
      "the limit"
  | .tooDeep => "maximum recursion depth exceeded while getting the repr of an object"

/-- The white space that may surround a number: all of it but the information separators. -/
def isMargin (c : Char) : Bool :=
  isBlank c && !(0x1c ≤ c.toNat && c.toNat ≤ 0x1f)

/-- The sign in front of a number, and what follows it. -/
def takeSign : List Char → Bool × List Char
  | '-' :: cs => (true, cs)
  | '+' :: cs => (false, cs)
  | cs => (false, cs)

/-- The value of a digit in the given base. -/
def digitIn? (base : Nat) (c : Char) : Option Nat :=
  ((digitValue? c).or (hexDigitValue? c)).filter (· < base)

/-- The letter that may announce a base after a zero. -/
def announces (base : Nat) (c : Char) : Bool :=
  match base with
  | 2 => c.toLower = 'b'
  | 8 => c.toLower = 'o'
  | 16 => c.toLower = 'x'
  | _ => false

/-- The characters without an announcement of the base such as `0x`, after which one underscore
may stand. -/
def dropBase (base : Nat) : List Char → List Char
  | '0' :: c :: cs =>
    if announces base c then (if cs.head? = some '_' then cs.tail else cs) else '0' :: c :: cs
  | cs => cs

/-- The integer that `text` writes in the given base. -/
def read (base : Nat) (text : String) : Except Fault Int :=
  let (negative, unsigned) := takeSign (trim isMargin text.toList)
  let body := dropBase base unsigned
  let inNumber := fun c => c = '_' || (digitIn? base c).isSome
  let groups := (body.takeWhile inNumber).splitOn '_'
  let digits := groups.flatten
  if groups.any List.isEmpty then .error (.malformed base (quoted text))
  else if base = 10 && digits.length > digitLimit then .error (.tooLong digits.length)
  else if !(body.dropWhile inNumber).isEmpty then .error (.malformed base (quoted text))
  else
    let n := ofDigits base (digits.filterMap (digitIn? base))
    .ok (if negative then -(n : Int) else n)

/-- The integer that bytes write in base ten: those of a text in ASCII. -/
def readBytes (bs : List UInt8) : Except Fault Int :=
  if bs.all (· < 128) then
    (read 10 (ofBytes bs)).mapError fun
      | .malformed base _ => .malformed base (quotedBytes bs)
      | f => f
  else .error (.malformed 10 (quotedBytes bs))

/-- The number written by one or more digits 0 to 9 and nothing else but perhaps one final line
feed; `none` for any other text. -/
def readAscii? (text : List Char) : Option (Except Fault Nat) :=
  let digits := if text.getLast? = some '\n' then text.dropLast else text
  if digits.isEmpty || !digits.all Char.isDigit then none
  else if digits.length > digitLimit then some (.error (.tooLong digits.length))
  else some (.ok (decimal digits))

/-- The decimal of an integer. -/
def write (n : Int) : Except Fault String :=
  if digitLimit < (Nat.toDigits 10 n.natAbs).length then .error .unwritable else .ok (toString n)

end PodRedirect.Numeral
