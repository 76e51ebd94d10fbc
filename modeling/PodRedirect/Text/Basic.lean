/-!
# Pieces of text

Texts are cut, trimmed and searched as lists of characters, where each operation is a short
recursion. The functions on `String` are these, read through `String.toList`.

## Main definitions

* `trim`, `trimEnd`: drop the characters of a class at both ends, or at the right end
* `occursIn`: one text is a consecutive part of another
* `dropSuffix`: one text without another at its end
* `lower`: the letters A to Z in lower case
* `zeroPad`: a decimal of at least a given width
-/

namespace PodRedirect.Text

/-- The characters without the run of `p` at the right end. -/
def trimEnd (p : Char → Bool) (cs : List Char) : List Char :=
  (cs.reverse.dropWhile p).reverse

/-- The characters without the runs of `p` at both ends. -/
def trim (p : Char → Bool) (cs : List Char) : List Char :=
  trimEnd p (cs.dropWhile p)

/-- `needle` is a consecutive part of the second list. -/
def occursIn (needle : List Char) : List Char → Bool
  | [] => needle.isEmpty
  | c :: cs => needle.isPrefixOf (c :: cs) || occursIn needle cs

/-- `part` is a consecutive part of `whole`. -/
def contains (whole part : String) : Bool :=
  occursIn part.toList whole.toList

/-- `s` without `tail` at its end, if `s` ends so. -/
def dropSuffix (s tail : String) : String :=
  if tail.toList.isSuffixOf s.toList then
    String.ofList (s.toList.take (s.toList.length - tail.toList.length))
  else s

/-- `s` with the letters A to Z in lower case. No other character becomes a letter of the
fixed words that texts are compared with, so this decides case-blind equality with them. -/
def lower (s : String) : String :=
  String.ofList (s.toList.map Char.toLower)

/-- The pieces of `s` between the occurrences of `sep`: one more than there are of these. -/
def fields (sep : Char) (s : String) : List String :=
  (s.toList.splitOn sep).map String.ofList

/-- `s` with every `a` replaced by `b`. -/
def replace (a b : Char) (s : String) : String :=
  String.ofList (s.toList.map fun c => if c = a then b else c)

/-- The decimal of `n`, filled with zeros on the left to `width` characters. -/
def zeroPad (width n : Nat) : String :=
  String.ofList ((Nat.toDigits 10 n).leftpad width '0')

end PodRedirect.Text
