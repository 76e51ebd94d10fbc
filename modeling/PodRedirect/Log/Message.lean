import PodRedirect.Text.Digit
import PodRedirect.Text.Quoted

/-!
# Messages with arguments

A message may have places for texts that are filled in when it is written: `%s` for a text, `%r`
and `%a` for a quoted one and `%c` for a single character, each with an optional width and
precision; `%%` is a percent sign. The other conversions are for numbers, which no text is.

## Main definitions

* `Log.Place`: a place in a message
* `Log.PlaceFault`: why arguments do not fill a message
* `Log.formatted`, `Log.fill`: a message with its arguments of any kind, and with texts
-/

namespace PodRedirect.Log

open Text

/-- A place for an argument: how it is converted, how wide it is at least and how much of the text
it takes at most, and whether the text stands on the left of a wide place. -/
structure Place where
  left : Bool
  width : Option Nat
  precision : Option Nat
  conversion : Char
  deriving DecidableEq, Repr

/-- Why arguments do not fill the places of a message. -/
inductive PlaceFault where
  | mismatch
  | incomplete
  | tooWide
  | tooPrecise
  | unknown (conversion : Char) (index : Nat)
  deriving DecidableEq, Repr

/-- A fault in words. -/
def PlaceFault.message : PlaceFault → String
  | .mismatch => "the arguments do not match the places of the message"
  | .incomplete => "incomplete format"
  | .tooWide => "width too big"
  | .tooPrecise => "precision too big"
  | .unknown c index =>
    "unsupported format character '" ++
      String.ofList [if 31 ≤ c.toNat && c.toNat < 127 then c else '?'] ++ "' (0x" ++
      String.ofList (Nat.toDigits 16 c.toNat) ++ ") at index " ++ toString index

/-- The characters that may stand in front of a width. -/
def isFlag (c : Char) : Bool :=
  c = '-' || c = '+' || c = ' ' || c = '#' || c = '0'

/-- The greatest width and the greatest precision. -/
def widest : Nat × Nat := (0x7fffffffffffffff, 0x7fffffff)

/-- The place that starts after a percent sign, with what follows it. -/
def place (cs : List Char) : Except PlaceFault (Place × List Char) := do
  if cs.head? = some '(' then throw .mismatch
  let flags := cs.takeWhile isFlag
  let cs := cs.dropWhile isFlag
  if cs.head? = some '*' then throw .mismatch
  let width := cs.takeWhile Char.isDigit
  if decimal width > widest.1 then throw .tooWide
  let cs := cs.dropWhile Char.isDigit
  let (precision, cs) ←
    match cs with
    | '.' :: '*' :: _ => throw .mismatch
    | '.' :: after =>
      let ds := after.takeWhile Char.isDigit
      if decimal ds > widest.2 then throw .tooPrecise
      pure (some (decimal ds), after.dropWhile Char.isDigit)
    | other => pure (none, other)
  let cs := match cs with
    | 'h' :: after | 'l' :: after | 'L' :: after => after
    | other => other
  match cs with
  | [] => throw .incomplete
  | c :: rest =>
    pure (⟨flags.contains '-', if width.isEmpty then none else some (decimal width), precision, c⟩,
      rest)

/-- A text in a place of the given width. -/
def Place.lay (p : Place) (cs : List Char) : List Char :=
  let n := p.width.getD 0
  if p.left then cs.rightpad n ' ' else cs.leftpad n ' '

/-- The conversions of numbers. -/
def isNumeric (c : Char) : Bool :=
  ['d', 'i', 'u', 'o', 'x', 'X', 'e', 'E', 'f', 'F', 'g', 'G'].contains c

/-- What an argument puts into a place that ends before the given index of the message. -/
def Place.argument (p : Place) (index : Nat) (arg : String) : Except PlaceFault (List Char) :=
  let cut := fun cs : List Char => p.lay (p.precision.elim cs cs.take)
  if p.conversion = 's' then .ok (cut arg.toList)
  else if p.conversion = 'r' then .ok (cut (quoted arg).toList)
  else if p.conversion = 'a' then .ok (cut (quotedAscii arg))
  else if p.conversion = 'c' then
    if arg.toList.length = 1 then .ok (p.lay arg.toList) else .error .mismatch
  else if isNumeric p.conversion then .error .mismatch
  else .error (.unknown p.conversion (index - 1))

/-- Fills the places of the rest of a message, of which `total` characters are the whole. Each
round takes a character off the rest. -/
def fillFrom (total : Nat) : (fuel : Nat) → List Char → List String →
    Except PlaceFault (List Char)
  | 0, _, _ => .ok []
  | _ + 1, [], [] => .ok []
  | _ + 1, [], _ :: _ => .error .mismatch
  | fuel + 1, '%' :: '%' :: cs, args => do return '%' :: (← fillFrom total fuel cs args)
  | fuel + 1, '%' :: cs, args => do
    let (p, rest) ← place cs
    match args with
    | [] => throw .mismatch
    | arg :: args =>
      let filled ← p.argument (total - rest.length) arg
      return filled ++ (← fillFrom total fuel rest args)
  | fuel + 1, c :: cs, args => do return c :: (← fillFrom total fuel cs args)

/-- Fills the places of a message. -/
def fillAll (message : String) (args : List String) : Except PlaceFault String :=
  let cs := message.toList
  (fillFrom cs.length (cs.length + 1) cs args).map String.ofList

/-- A message with its arguments of any kind, which `format` puts into it. A message without
arguments stands for itself. -/
def formatted {α ε : Type} (format : String → List α → Except ε String) (message : String)
    (args : List α) : Except ε String :=
  if args.isEmpty then .ok message else format message args

/-- A message with texts as its arguments. -/
def fill (message : String) (args : List String) : Except PlaceFault String :=
  formatted fillAll message args

end PodRedirect.Log
