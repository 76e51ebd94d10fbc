import PodRedirect.Text.Basic

/-!
# White space

The white space of Unicode with the four information separators, which is what surrounds a
value without belonging to it.

## Main definitions

* `isBlank`: the class
* `strip`: a text without the white space around it
* `isBlankText`: nothing but white space
-/

namespace PodRedirect.Text

/-- White space: the characters of that property in Unicode, and U+001C to U+001F. -/
def isBlank (c : Char) : Bool :=
  let n := c.toNat
  (9 ≤ n && n ≤ 13) || (0x1c ≤ n && n ≤ 0x20) || n == 0x85 || n == 0xa0 || n == 0x1680 ||
    (0x2000 ≤ n && n ≤ 0x200a) || n == 0x2028 || n == 0x2029 || n == 0x202f || n == 0x205f ||
    n == 0x3000

/-- `s` without the white space at its two ends. -/
def strip (s : String) : String :=
  String.ofList (trim isBlank s.toList)

/-- `s` holds nothing but white space. -/
def isBlankText (s : String) : Bool :=
  s.toList.all isBlank

end PodRedirect.Text
