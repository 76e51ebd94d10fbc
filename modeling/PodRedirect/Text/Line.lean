/-!
# Lines

The lines of a text that may come from anywhere: every line boundary of Unicode ends a line,
and a carriage return with the line feed after it is one boundary.

## Main definitions

* `isBoundary`: the class of characters that end a line
* `lines`: the lines of a text, without their boundaries
* `unifyEnds`: a text with a line feed for every line end of any system
-/

namespace PodRedirect.Text

/-- The characters that end a line. -/
def isBoundary (c : Char) : Bool :=
  let n := c.toNat
  (10 ≤ n && n ≤ 13) || (0x1c ≤ n && n ≤ 0x1e) || n == 0x85 || n == 0x2028 || n == 0x2029

/-- The lines of the text, the line begun so far being `line` reversed. A text that ends with
a boundary has no line after it. -/
def linesFrom (line : List Char) : List Char → List (List Char)
  | [] => if line.isEmpty then [] else [line.reverse]
  | '\r' :: '\n' :: rest => line.reverse :: linesFrom [] rest
  | c :: rest =>
    if isBoundary c then line.reverse :: linesFrom [] rest else linesFrom (c :: line) rest

/-- The characters with a line feed for a carriage return, and for one with a line feed behind
it. -/
def unifyEnds : List Char → List Char
  | [] => []
  | '\r' :: '\n' :: cs => '\n' :: unifyEnds cs
  | '\r' :: cs => '\n' :: unifyEnds cs
  | c :: cs => c :: unifyEnds cs

/-- The lines of a text, without their boundaries. -/
def lines (s : String) : List (List Char) :=
  linesFrom [] s.toList

end PodRedirect.Text
