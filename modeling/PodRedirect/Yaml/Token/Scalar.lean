import PodRedirect.Yaml.Cursor
import PodRedirect.Text.Digit

/-!
# Scalars

The three ways to write a scalar: plain, between quotes, and as a block of lines. Line ends inside
a scalar are folded: a single one becomes a blank, and each further one stays.

## Main definitions

* `Yaml.plain`: a scalar without delimiters
* `Yaml.quotedScalar`: a scalar between quotes
* `Yaml.block`: a scalar written as a block of lines
-/

namespace PodRedirect.Yaml

open Text

/-- What line ends count as inside a folded text, the first of them given apart: a single line feed
is a blank, further line ends stay. -/
def fold (first : Char) (others : List Char) : List Char :=
  if first ≠ '\n' then first :: others
  else if others.isEmpty then [' ']
  else others

/-- The line ends here with the blanks in front of each, taking the characters of `margin` as
blanks; each round takes a line end. -/
def lineBreaks (margin : Char → Bool) : (fuel : Nat) → Cursor → List Char × Cursor
  | 0, at_ => ([], at_)
  | fuel + 1, at_ =>
    let here := at_.skipWhile margin
    match here.lineBreak? with
    | none => ([], here)
    | some (c, after) =>
      let (more, last) := lineBreaks margin fuel after
      (c :: more, last)

/-! ## Plain scalars -/

/-- A character of a plain scalar, given the one after it. A colon belongs to it only if a value
could not start behind it. -/
def isPlainChar (inFlow : Bool) (c : Char) (after : Option Char) : Bool :=
  !isGap (some c) &&
    !(c = ':' && (isGap after || (inFlow && after.any (",[]\x7b\x7d".toList.contains ·)))) &&
    !(inFlow && ",?[]\x7b\x7d".toList.contains c)

/-- The number of characters in front of the list that belong to a plain scalar. -/
def plainLength (inFlow : Bool) : List Char → Nat
  | [] => 0
  | c :: cs => if isPlainChar inFlow c cs.head? then plainLength inFlow cs + 1 else 0

/-- The line ends between two parts of a plain scalar, with blanks around them; nothing if a
document mark stands at the start of a line. -/
def plainBreaks : (fuel : Nat) → Cursor → Option (List Char) × Cursor
  | 0, at_ => (some [], at_)
  | fuel + 1, at_ =>
    if at_.isDocumentMark then (none, at_)
    else
      let here := at_.skipBlanks
      match here.lineBreak? with
      | none => (some [], here)
      | some (c, after) =>
        let (more, last) := plainBreaks fuel after
        (more.map (c :: ·), last)

/-- The space after a part of a plain scalar as it counts if another part follows, whether a line
ended in it, and the place after it. -/
def plainSpace (at_ : Cursor) : List Char × Bool × Cursor :=
  let (blanks, here) := at_.span (· = ' ')
  match here.lineBreak? with
  | none => (blanks, false, here)
  | some (first, after) =>
    let (others, last) := plainBreaks (after.rest.length + 1) after
    (others.elim [] (fold first), true, last)

/-- The rest of a plain scalar, after the space `space`: its text, whether the last thing passed
over was a line end, and the place after it. Each round takes a character at least. -/
def plainFrom (inFlow : Bool) (indent : Int) : (fuel : Nat) → (space : List Char) → Bool → Cursor →
    List Char × Bool × Cursor
  | 0, _, ended, at_ => ([], ended, at_)
  | fuel + 1, space, ended, at_ =>
    let n := plainLength inFlow at_.rest
    if at_.peek = some '#' || n = 0 then ([], ended, at_)
    else
      let part := at_.rest.take n
      let (more, lineEnded, here) := plainSpace (at_.skip n)
      if more.isEmpty || (!inFlow && (here.column : Int) < indent) then
        (space ++ part, lineEnded, here)
      else
        let (tail, last) := plainFrom inFlow indent fuel more lineEnded here
        (space ++ part ++ tail, last)

/-- A plain scalar inside a block of the given indentation: its text, whether the last thing passed
over was a line end, and the place after it. -/
def plain (inFlow : Bool) (indent : Int) (at_ : Cursor) : String × Bool × Cursor :=
  let (text, last) := plainFrom inFlow (indent + 1) (at_.rest.length + 1) [] false at_
  (String.ofList text, last)

/-! ## Scalars between quotes -/

/-- What the character after a backslash stands for. -/
def escape? : Char → Option Char
  | '0' => some '\x00'
  | 'a' => some '\x07'
  | 'b' => some '\x08'
  | 't' => some '\t'
  | '\t' => some '\t'
  | 'n' => some '\n'
  | 'v' => some '\x0b'
  | 'f' => some '\x0c'
  | 'r' => some '\r'
  | 'e' => some '\x1b'
  | ' ' => some ' '
  | '\x22' => some '\x22'
  | '\\' => some '\\'
  | '/' => some '/'
  | 'N' => some '\u0085'
  | '_' => some '\u00a0'
  | 'L' => some '\u2028'
  | 'P' => some '\u2029'
  | _ => none

/-- How many digits follow the letter of a numbered character. -/
def escapeLength? : Char → Option Nat
  | 'x' => some 2
  | 'u' => some 4
  | 'U' => some 8
  | _ => none

/-- The character with the given number. A surrogate, which is none, is replaced. -/
def character (n : Nat) : Except Failure Char :=
  if 0x80000000 ≤ n then .error (.fault .beyondWord)
  else if 0x110000 ≤ n then .error (.fault .noCharacter)
  else if 0xd800 ≤ n && n ≤ 0xdfff then .ok '\ufffd'
  else .ok (Char.ofNat n)

/-- The line ends inside quotes with the blanks around them. A document mark at the start of a line
is an error. Each round takes a line end. -/
def quotedBreaks : (fuel : Nat) → Cursor → Except Failure (List Char × Cursor)
  | 0, at_ => .ok ([], at_)
  | fuel + 1, at_ =>
    if at_.isDocumentMark then .error (.refused "found unexpected document separator")
    else
      let here := at_.skipWhile fun c => c = ' ' || c = '\t'
      match here.lineBreak? with
      | none => .ok ([], here)
      | some (c, after) => (quotedBreaks fuel after).map fun r => (c :: r.1, r.2)

/-- What a backslash and the characters after it stand for. The place is that after the
backslash. -/
def escaped (at_ : Cursor) : Except Failure (List Char × Cursor) := do
  let unknown := Failure.refused ("found unknown escape character " ++ at_.shown)
  match at_.peek with
  | none => throw unknown
  | some c =>
    if let some e := escape? c then return ([e], at_.next)
    if let some n := escapeLength? c then
      let digits := (at_.rest.drop 1).take n
      let valid := (digits.takeWhile fun d => (hexDigitValue? d).isSome).length
      if valid < n then
        throw (.refused ("expected escape sequence of " ++ toString n ++
          " hexadecimal numbers, but found " ++ at_.shownAt (valid + 1)))
      return ([← character (ofDigits 16 (digits.filterMap hexDigitValue?))], at_.skip (n + 1))
    match at_.lineBreak? with
    | some (_, after) => quotedBreaks (after.rest.length + 1) after
    | none => throw unknown

/-- The failure at the end of a text where a quote is still open. -/
def unclosed : Failure := .refused "found unexpected end of stream"

/-- The rest of a scalar between quotes, to the quote that ends it. Each round takes a character at
least. -/
def quotedFrom (quote : Char) : (fuel : Nat) → Cursor → Except Failure (List Char × Cursor)
  | 0, _ => .error unclosed
  | fuel + 1, at_ =>
    let double := quote = '\x22'
    let go := fun (part : List Char × Cursor) =>
      (quotedFrom quote fuel part.2).map fun r => (part.1 ++ r.1, r.2)
    match at_.rest with
    | [] => .error unclosed
    | c :: rest =>
      if c = quote then
        if !double && rest.head? = some quote then go ([c], at_.skip 2) else .ok ([], at_.next)
      else if double && c = '\\' then (escaped at_.next).bind go
      else if c = ' ' || c = '\t' then
        let (blanks, here) := at_.span fun c => c = ' ' || c = '\t'
        match here.lineBreak? with
        | none => go (blanks, here)
        | some (first, after) =>
          (quotedBreaks (after.rest.length + 1) after).bind fun r => go (fold first r.1, r.2)
      else if isBreak c then
        match at_.lineBreak? with
        | none => .error unclosed
        | some (first, after) =>
          (quotedBreaks (after.rest.length + 1) after).bind fun r => go (fold first r.1, r.2)
      else go ([c], at_.next)

/-- A scalar between quotes, and the place after it. -/
def quotedScalar (quote : Char) (at_ : Cursor) : Except Failure (String × Cursor) :=
  (quotedFrom quote (at_.rest.length + 1) at_.next).map fun r => (String.ofList r.1, r.2)

/-! ## Blocks of lines -/

/-- What happens to the line ends after the last line of a block: one stays if there is any, all
stay, or none does. -/
inductive Chomping where
  | clip
  | keep
  | strip
  deriving DecidableEq, Repr

/-- The chomping that a sign asks for. -/
def chomping? : Option Char → Option Chomping
  | some '+' => some .keep
  | some '-' => some .strip
  | _ => none

/-- The indentation that a digit asks for. -/
def increment? (c : Option Char) : Option Nat :=
  c.bind asciiDigitValue?

/-- The signs after the mark of a block, in either order: chomping and indentation. -/
def blockHeader (at_ : Cursor) : Except Failure (Chomping × Option Nat × Cursor) := do
  let (chomping, increment, after) :=
    match chomping? at_.peek with
    | some ch =>
      match increment? at_.next.peek with
      | some n => (ch, some n, at_.skip 2)
      | none => (ch, none, at_.next)
    | none =>
      match increment? at_.peek with
      | some n =>
        match chomping? at_.next.peek with
        | some ch => (ch, some n, at_.skip 2)
        | none => (.clip, some n, at_.next)
      | none => (.clip, none, at_)
  if increment = some 0 then
    throw (.refused "expected indentation indicator in the range 1-9, but found 0")
  if !isEndOrBlank after.peek then
    throw (.refused ("expected chomping or indentation indicators, but found " ++ after.shown))
  return (chomping, increment, after)

/-- The blank lines before the first line of a block whose indentation is not given: their ends,
the greatest column reached, and the place after them. -/
def blockIndentation : (fuel : Nat) → (widest : Nat) → Cursor → List Char × Nat × Cursor
  | 0, widest, at_ => ([], widest, at_)
  | fuel + 1, widest, at_ =>
    if at_.peek = some ' ' then
      blockIndentation fuel (max widest at_.next.column) at_.next
    else
      match at_.lineBreak? with
      | none => ([], widest, at_)
      | some (c, after) =>
        let (more, last) := blockIndentation fuel widest after
        (c :: more, last)

/-- The place after the blanks here, but not beyond the column `indent`. -/
def skipIndent (indent : Nat) (at_ : Cursor) : Cursor :=
  at_.skip (min (at_.rest.takeWhile (· = ' ')).length (indent - at_.column))

/-- The ends of blank lines inside a block. -/
def blockBreaks (indent : Nat) : (fuel : Nat) → Cursor → List Char × Cursor
  | 0, at_ => ([], at_)
  | fuel + 1, at_ =>
    let here := skipIndent indent at_
    match here.lineBreak? with
    | none => ([], here)
    | some (c, after) =>
      let (more, last) := blockBreaks indent fuel after
      (c :: more, last)

/-- The lines of a block, after the line ends `breaks`, with the line ends that follow the last
line: the first of these and the others. Each round takes a line. -/
def blockLines (folded : Bool) (indent : Nat) : (fuel : Nat) → (breaks : List Char) → Cursor →
    List Char × List Char × List Char × Cursor
  | 0, breaks, at_ => ([], [], breaks, at_)
  | fuel + 1, breaks, at_ =>
    if at_.column ≠ indent || at_.peek.isNone then ([], [], breaks, at_)
    else
      let isInset := fun c : Option Char => c = some ' ' || c = some '\t'
      let (line, here) := at_.span (!isBreak ·)
      let (ended, after) := match here.lineBreak? with
        | some (c, after) => ([c], after)
        | none => ([], here)
      let (others, start) := blockBreaks indent (after.rest.length + 1) after
      if start.column ≠ indent || start.peek.isNone then (breaks ++ line, ended, others, start)
      else
        let joint :=
          if folded && ended = ['\n'] && !isInset at_.peek && !isInset start.peek then
            (if others.isEmpty then [' '] else [])
          else ended
        let (text, tail) := blockLines folded indent fuel others start
        (breaks ++ line ++ joint ++ text, tail)

/-- A scalar written as a block of lines inside a block of the given indentation, and the place
after it. -/
def block (folded : Bool) (indent : Int) (at_ : Cursor) : Except Failure (String × Cursor) := do
  let (chomping, increment, header) ← blockHeader at_.next
  let start ← header.restOfLine
  let least := (max (indent + 1) 1).toNat
  let fuel := start.rest.length + 1
  let (column, breaks, first) :=
    match increment with
    | some n =>
      let column := least + n - 1
      (column, blockBreaks column fuel start)
    | none =>
      let (breaks, widest, first) := blockIndentation fuel 0 start
      (max least widest, breaks, first)
  let (text, ended, others, last) := blockLines folded column fuel breaks first
  let tail := match chomping with
    | .clip => ended
    | .keep => ended ++ others
    | .strip => []
  return (String.ofList (text ++ tail), last)

end PodRedirect.Yaml
