import PodRedirect.Text.Digit
import PodRedirect.Yaml.Failure

/-!
# Kinds of nodes

What a node denotes is told by its tag. A plain scalar without a tag gets one from its form: a
word for a truth value, a number, a point in time, nothing, and else a text.

## Main definitions

* `Yaml.Tag`: the kinds, and any other name
* `Yaml.TimeForm`: a point in time as it is written
* `Yaml.Tag.ofName`, `Yaml.Tag.ofPlain`: the kind that a name stands for, and that of a plain scalar
-/

namespace PodRedirect.Yaml

open Text

/-- What a node denotes: `merge` stands for the entries of other mappings, `default` for the value
of a mapping where a single one is asked for, and `other` for what the name of a tag says that is
none of these. -/
inductive Tag where
  | null
  | flag
  | int
  | float
  | text
  | binary
  | time
  | merge
  | default
  | sequence
  | pairs
  | set
  | mapping
  | other (name : String)
  deriving DecidableEq, Repr

/-- A kind of single values. -/
def Tag.isSingle : Tag → Bool
  | .null | .flag | .int | .float | .text | .binary | .time => true
  | .merge | .default | .sequence | .pairs | .set | .mapping | .other _ => false

/-- A kind of values with members. -/
def Tag.isCollection : Tag → Bool
  | .sequence | .pairs | .set | .mapping => true
  | .null | .flag | .int | .float | .text | .binary | .time | .merge | .default | .other _ => false

/-- What the names of the common tags start with. -/
def commonTag : String := "tag:yaml.org,2002:"

/-- The kinds with their names. -/
def Tag.kinds : List (String × Tag) :=
  [("null", .null), ("bool", .flag), ("int", .int), ("float", .float), ("str", .text),
    ("binary", .binary), ("timestamp", .time), ("merge", .merge), ("value", .default),
    ("seq", .sequence), ("omap", .pairs), ("pairs", .pairs), ("set", .set), ("map", .mapping)]

/-- The kind that the name of a tag stands for. -/
def Tag.ofName (name : String) : Tag :=
  ((kinds.find? fun k => commonTag ++ k.1 = name).map Prod.snd).getD (.other name)

/-- The name of a tag. -/
def Tag.name : Tag → String
  | .other name => name
  | tag => commonTag ++ ((kinds.find? fun k => k.2 = tag).map Prod.fst).getD ""

/-! ## Truth values -/

/-- The words for truth values, in lower case. -/
def flagWords : List (String × Bool) :=
  [("yes", true), ("no", false), ("true", true), ("false", false), ("on", true), ("off", false)]

/-- The word in lower case, with a capital, and in capitals. -/
def casings (w : String) : List (List Char) :=
  let cs := w.toList
  [cs, (cs.take 1).map Char.toUpper ++ cs.drop 1, cs.map Char.toUpper]

/-- A word for a truth value in one of its three casings. -/
def isFlag (cs : List Char) : Bool :=
  flagWords.any fun w => (casings w.1).contains cs

/-! ## Numbers -/

/-- The text without a sign. -/
def unsigned (cs : List Char) : List Char := (Numeral.takeSign cs).2

/-- A digit or an underscore. -/
def isDigitOrGap (c : Char) : Bool := c.isDigit || c = '_'

/-- At least one character, and all of the class. -/
def isRun (p : Char → Bool) (cs : List Char) : Bool := !cs.isEmpty && cs.all p

/-- A sixtieth: one digit, or two of which the first is at most 5. -/
def isSixtieth : List Char → Bool
  | [d] => d.isDigit
  | [t, d] => '0' ≤ t && t ≤ '5' && d.isDigit
  | _ => false

/-- A digit that is not `zero`, then digits and underscores. -/
def isCount (zeroAllowed : Bool) : List Char → Bool
  | d :: cs => d.isDigit && (zeroAllowed || d ≠ '0') && cs.all isDigitOrGap
  | [] => false

/-- A count and its sixtieths, with colons between them. -/
def isSexagesimal (zeroAllowed : Bool) (cs : List Char) : Bool :=
  match cs.splitOn ':' with
  | count :: part :: parts => isCount zeroAllowed count && (part :: parts).all isSixtieth
  | _ => false

/-- An integer: binary, octal, decimal, hexadecimal or sexagesimal. -/
def isInt (cs : List Char) : Bool :=
  let body := unsigned cs
  match body with
  | '0' :: 'b' :: ds => isRun (fun c => c = '0' || c = '1' || c = '_') ds
  | '0' :: 'x' :: ds => isRun (fun c => (hexDigitValue? c).isSome || c = '_') ds
  | '0' :: ds => ds.all fun c => ('0' ≤ c && c ≤ '7') || c = '_'
  | _ => isCount false body || isSexagesimal false body

/-- A sign and digits after the letter of an exponent, or nothing. -/
def isExponent : List Char → Bool
  | [] => true
  | e :: s :: ds => (e = 'e' || e = 'E') && (s = '+' || s = '-') && isRun Char.isDigit ds
  | _ => false

/-- A number with a point: a decimal, a sexagesimal with a fraction, or the name of an infinity or
of no number. -/
def isFloat (cs : List Char) : Bool :=
  let body := unsigned cs
  let whole := body.takeWhile (· ≠ '.')
  match body.dropWhile (· ≠ '.') with
  | '.' :: fraction =>
    let after := fraction.dropWhile isDigitOrGap
    if whole.isEmpty then
      (cs.head? = some '.' && isCount true (fraction.takeWhile isDigitOrGap) && isExponent after) ||
        ["inf".toList, "Inf".toList, "INF".toList].contains fraction ||
        (cs.head? = some '.' && ["nan".toList, "NaN".toList, "NAN".toList].contains fraction)
    else
      (isCount true whole && isExponent after) || (isSexagesimal true whole && after.isEmpty)
  | _ => false

/-! ## Points in time -/

/-- A time of day as it is written: hour, minute, second, the digits of a fraction, and the offset
in minutes if there is one. -/
structure ClockForm where
  hour : Nat
  minute : Nat
  second : Nat
  fraction : List Char
  offset : Option Int
  deriving DecidableEq, Repr

/-- A point in time as it is written. -/
structure TimeForm where
  year : Nat
  month : Nat
  day : Nat
  clock : Option ClockForm
  deriving DecidableEq, Repr

/-- The number written by at least `least` and at most `most` digits, and what follows them. -/
def digits? (least most : Nat) (cs : List Char) : Option (Nat × List Char) :=
  let ds := (cs.take most).takeWhile Char.isDigit
  if least ≤ ds.length then
    some (decimal ds, cs.drop ds.length)
  else none

/-- What follows the character `c`. -/
def after? (c : Char) : List Char → Option (List Char)
  | d :: cs => if d = c then some cs else none
  | [] => none

/-- A blank or a tab. -/
def isSpace (c : Char) : Bool := c = ' ' || c = '\t'

/-- The offset at the end of a time: `Z`, or a sign with hours and perhaps minutes. -/
def offset? (cs : List Char) : Option (Option Int) := do
  match cs with
  | [] => some none
  | _ =>
    match cs.dropWhile isSpace with
    | ['Z'] => some (some 0)
    | s :: rest =>
      guard (s = '+' || s = '-')
      let (h, rest) ← digits? 1 2 rest
      let (m, rest) ← match rest with
        | ':' :: rest => digits? 2 2 rest
        | rest => some (0, rest)
      guard rest.isEmpty
      let minutes : Int := 60 * h + m
      some (some (if s = '-' then -minutes else minutes))
    | [] => none

/-- The time of day after a date. -/
def clock? (cs : List Char) : Option ClockForm := do
  let rest ← match cs with
    | 'T' :: rest | 't' :: rest => some rest
    | c :: rest => if isSpace c then some (rest.dropWhile isSpace) else none
    | [] => none
  let (h, rest) ← digits? 1 2 rest
  let (m, rest) ← (after? ':' rest).bind (digits? 2 2)
  let (s, rest) ← (after? ':' rest).bind (digits? 2 2)
  let (fraction, rest) := match rest with
    | '.' :: more => (more.takeWhile Char.isDigit, more.dropWhile Char.isDigit)
    | rest => ([], rest)
  return ⟨h, m, s, fraction, ← offset? rest⟩

/-- A point in time: a date, with or without a time of day. -/
def time? (cs : List Char) : Option TimeForm := do
  let (y, rest) ← digits? 4 4 cs
  let (m, rest') ← (after? '-' rest).bind (digits? 1 2)
  let (d, rest'') ← (after? '-' rest').bind (digits? 1 2)
  if rest''.isEmpty then return ⟨y, m, d, none⟩
  return ⟨y, m, d, some (← clock? rest'')⟩

/-- A point in time that is known by its form: a date alone has two-digit parts. -/
def isTime (cs : List Char) : Bool :=
  (time? cs).any fun t => t.clock.isSome || cs.length = 10

/-! ## Plain scalars -/

/-- A form may have a line feed behind it. -/
def form (cs : List Char) : List Char :=
  if cs.getLast? = some '\n' then cs.dropLast else cs

/-- Nothing at all, or a word for it. -/
def isNull (cs : List Char) : Bool :=
  cs.isEmpty || form cs = ['~'] || (casings "null").contains (form cs)

/-- The kind of a plain scalar. -/
def Tag.ofPlain (s : String) : Tag :=
  let cs := form s.toList
  if isFlag cs then .flag
  else if isFloat cs then .float
  else if isInt cs then .int
  else if cs = ['<', '<'] then .merge
  else if isNull s.toList then .null
  else if isTime cs then .time
  else if cs = ['='] then .default
  else .text

end PodRedirect.Yaml
