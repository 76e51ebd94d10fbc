import PodRedirect.Text.Quoted

/-!
# JSON texts

A text as a JSON string of printable ASCII characters. Every other character is written by its
UTF-16 units, so that any channel carries the line unchanged.

## Main definitions

* `Json.units`: the UTF-16 units of a character
* `Json.escape`: one character of a string
* `Json.text`: a text between quotes
* `Json.object`: an object whose members are texts
-/

namespace PodRedirect.Json

open Text

/-- The UTF-16 units of a character. -/
def units (c : Char) : List Nat :=
  let n := c.toNat
  if n < 0x10000 then [n] else [0xd800 + (n - 0x10000) / 0x400, 0xdc00 + (n - 0x10000) % 0x400]

/-- A unit by its number. -/
def unitEscape (n : Nat) : List Char :=
  '\\' :: 'u' :: hexDigits 4 n

/-- A character of a string. -/
def escape (c : Char) : List Char :=
  if c = doubleQuote || c = '\\' then ['\\', c]
  else if c = '\n' then ['\\', 'n']
  else if c = '\r' then ['\\', 'r']
  else if c = '\t' then ['\\', 't']
  else if c.toNat = 8 then ['\\', 'b']
  else if c.toNat = 12 then ['\\', 'f']
  else if 0x20 ≤ c.toNat && c.toNat ≤ 0x7e then [c]
  else (units c).flatMap unitEscape

/-- A text between quotes. -/
def text (s : String) : String :=
  String.ofList (doubleQuote :: s.toList.flatMap escape ++ [doubleQuote])

/-- An object whose members are texts, in the given order. -/
def object (members : List (String × String)) : String :=
  "\x7b" ++ ", ".intercalate (members.map fun m => text m.1 ++ ": " ++ text m.2) ++ "\x7d"

end PodRedirect.Json
