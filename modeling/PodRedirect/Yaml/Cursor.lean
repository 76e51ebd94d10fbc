import PodRedirect.Yaml.Failure

/-!
# A place in a document

What is left of a document, with the line, the column and the number of characters before it.

## Main definitions

* `Yaml.isBreak`, `Yaml.isEnd`, `Yaml.isGap`: classes of characters that delimit
* `Yaml.Cursor`: a place, and the ways to move on from it
-/

namespace PodRedirect.Yaml

/-- The characters that end a line. -/
def isBreak (c : Char) : Bool :=
  c = '\n' || c.toNat = 0x85 || c.toNat = 0x2028 || c.toNat = 0x2029

/-- There is no character, or one that ends a line. -/
def isEnd (c : Option Char) : Bool :=
  c.all isBreak

/-- There is no character, a blank, or one that ends a line. -/
def isEndOrBlank (c : Option Char) : Bool :=
  c.all fun c => c = ' ' || isBreak c

/-- There is no character, a blank or a tab, or one that ends a line. -/
def isGap (c : Option Char) : Bool :=
  c.all fun c => c = ' ' || c = '\t' || isBreak c

/-- The characters of anchors and of the handles of tags. -/
def isNameChar (c : Char) : Bool :=
  c.isAlphanum || c = '-' || c = '_'

/-- The mark that may stand in front of a text to tell the order of its bytes. -/
def byteOrderMark : Char := '\ufeff'

/-- A place in a document. -/
structure Cursor where
  rest : List Char
  index : Nat
  line : Nat
  column : Nat
  deriving Repr

namespace Cursor

/-- The character `n` places on, as a problem shows it. At the end that is the null character. -/
def shownAt (at_ : Cursor) (n : Nat) : String :=
  Text.quoted (String.singleton (at_.rest[n]?.getD '\x00'))

/-- The next character, as a problem shows it. -/
def shown (at_ : Cursor) : String := at_.shownAt 0

/-- The start of a document. -/
def ofText (s : String) : Cursor := ⟨s.toList, 0, 0, 0⟩

/-- The next character. -/
def peek (at_ : Cursor) : Option Char := at_.rest.head?

/-- The character `n` places on. -/
def peekAt (at_ : Cursor) (n : Nat) : Option Char := at_.rest[n]?

/-- The place after the next character. A byte order mark takes no column. -/
def next (at_ : Cursor) : Cursor :=
  match at_.rest with
  | [] => at_
  | c :: rest =>
    if isBreak c then ⟨rest, at_.index + 1, at_.line + 1, 0⟩
    else ⟨rest, at_.index + 1, at_.line, if c = byteOrderMark then at_.column else at_.column + 1⟩

/-- The place `n` characters on. -/
def skip : Nat → Cursor → Cursor
  | 0, at_ => at_
  | n + 1, at_ => skip n at_.next

/-- The run of characters of a class, and the place after it. -/
def span (p : Char → Bool) (at_ : Cursor) : List Char × Cursor :=
  let run := at_.rest.takeWhile p
  (run, at_.skip run.length)

/-- The place after the run of a class. -/
def skipWhile (p : Char → Bool) (at_ : Cursor) : Cursor := (at_.span p).2

/-- The place after the blanks. -/
def skipBlanks (at_ : Cursor) : Cursor := at_.skipWhile (· = ' ')

/-- The place after a comment, if one starts here. -/
def skipComment (at_ : Cursor) : Cursor :=
  if at_.peek = some '#' then at_.skipWhile (!isBreak ·) else at_

/-- The end of a line, if it is here: what it counts as in a text, and the place after it. The
separators of Unicode stand for themselves, and every other end of a line for a line feed. -/
def lineBreak? (at_ : Cursor) : Option (Char × Cursor) :=
  match at_.peek with
  | some c =>
    if isBreak c then some (if c.toNat = 0x85 then '\n' else c, at_.next) else none
  | none => none

/-- Three dashes or three points with a gap behind them, which end whatever came before. -/
def isDocumentMark (at_ : Cursor) : Bool :=
  (at_.rest.take 3 = ['-', '-', '-'] || at_.rest.take 3 = ['.', '.', '.']) && isGap (at_.peekAt 3)

/-- Nothing but blanks and a comment may come before the end of the line; the place after it. -/
def restOfLine (at_ : Cursor) : Except Failure Cursor :=
  let after := at_.skipBlanks.skipComment
  if isEnd after.peek then .ok ((after.lineBreak?.map Prod.snd).getD after)
  else .error (.refused ("expected a comment or a line break, but found " ++ after.shown))

end Cursor

end PodRedirect.Yaml
