import PodRedirect.Text.Printable

/-!
# Quoted text

A text between quotes, as it is shown inside a larger value or in a message about it. Single
quotes are used unless the text holds one and no double quote; the quote in use, the backslash
and every unprintable character are escaped.

## Main definitions

* `quoteFor`: which quote a text is shown in
* `escape`: one character between such quotes
* `quoted`: the whole
* `quotedAscii`, `quotedBytes`: the same in ASCII, for a text and for bytes
-/

namespace PodRedirect.Text

/-- The single quote. -/
def singleQuote : Char := '\x27'

/-- The double quote. -/
def doubleQuote : Char := '\x22'

/-- The quote that needs the fewest escapes, the single one by preference. -/
def quoteFor (cs : List Char) : Char :=
  if cs.contains singleQuote && !cs.contains doubleQuote then doubleQuote else singleQuote

/-- The last `width` hexadecimal digits of `n`, in lower case. -/
def hexDigits (width n : Nat) : List Char :=
  (Nat.toDigits 16 n).leftpad width '0'

/-- A character between the given quotes: unprintable ones are written by their number with
two, four or eight digits. -/
def escape (quote c : Char) : List Char :=
  if c = quote || c = '\\' then ['\\', c]
  else if c = '\n' then ['\\', 'n']
  else if c = '\r' then ['\\', 'r']
  else if c = '\t' then ['\\', 't']
  else if isPrintable c then [c]
  else if c.toNat < 0x100 then '\\' :: 'x' :: hexDigits 2 c.toNat
  else if c.toNat < 0x10000 then '\\' :: 'u' :: hexDigits 4 c.toNat
  else '\\' :: 'U' :: hexDigits 8 c.toNat

/-- A text between quotes. -/
def quoted (s : String) : String :=
  let quote := quoteFor s.toList
  String.ofList (quote :: s.toList.flatMap (escape quote) ++ [quote])

/-- A quoted text with every character beyond ASCII written by its number. -/
def quotedAscii (s : String) : List Char :=
  (quoted s).toList.flatMap fun c =>
    if c.toNat < 0x80 then [c]
    else if c.toNat < 0x100 then '\\' :: 'x' :: hexDigits 2 c.toNat
    else if c.toNat < 0x10000 then '\\' :: 'u' :: hexDigits 4 c.toNat
    else '\\' :: 'U' :: hexDigits 8 c.toNat

/-- The text whose characters have the numbers that the bytes are. -/
def ofBytes (bs : List UInt8) : String := String.ofList (bs.map fun b => Char.ofNat b.toNat)

/-- Bytes between quotes, where those of ASCII stand for its characters. -/
def quotedBytes (bs : List UInt8) : String := "b" ++ String.ofList (quotedAscii (ofBytes bs))

end PodRedirect.Text
