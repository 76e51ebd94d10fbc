/-!
# Decimal digits

The decimal digits of every script: Unicode assigns each set of ten to ten consecutive code
points, so a table of the zeros is enough.

## Main definitions

* `zeros`: the code points of the digits of value zero
* `digitValue?`: the value of a decimal digit of any script
* `asciiDigitValue?`, `hexDigitValue?`: the value of a digit 0 to 9, or of a hexadecimal one
* `decimal`: the number that digits write
-/

namespace PodRedirect.Text

/-- The code points of the decimal digits of value zero. -/
def zeros : List Nat :=
  [0x30, 0x660, 0x6f0, 0x7c0, 0x966, 0x9e6, 0xa66, 0xae6, 0xb66, 0xbe6, 0xc66, 0xce6, 0xd66,
    0xde6, 0xe50, 0xed0, 0xf20, 0x1040, 0x1090, 0x17e0, 0x1810, 0x1946, 0x19d0, 0x1a80, 0x1a90,
    0x1b50, 0x1bb0, 0x1c40, 0x1c50, 0xa620, 0xa8d0, 0xa900, 0xa9d0, 0xa9f0, 0xaa50, 0xabf0,
    0xff10, 0x104a0, 0x10d30, 0x11066, 0x110f0, 0x11136, 0x111d0, 0x112f0, 0x11450, 0x114d0,
    0x11650, 0x116c0, 0x11730, 0x118e0, 0x11950, 0x11c50, 0x11d50, 0x11da0, 0x16a60, 0x16ac0,
    0x16b50, 0x1d7ce, 0x1d7d8, 0x1d7e2, 0x1d7ec, 0x1d7f6, 0x1e140, 0x1e2f0, 0x1e950, 0x1fbf0]

/-- The value of a decimal digit of any script. -/
def digitValue? (c : Char) : Option Nat :=
  (zeros.find? fun z => z ≤ c.toNat && c.toNat < z + 10).map fun z => c.toNat - z

/-- The value of a digit 0 to 9. -/
def asciiDigitValue? (c : Char) : Option Nat :=
  if c.isDigit then some (c.toNat - '0'.toNat) else none

/-- The value of a digit 0 to 9, a to f or A to F. -/
def hexDigitValue? (c : Char) : Option Nat :=
  if c.isDigit then some (c.toNat - '0'.toNat)
  else if 'a' ≤ c && c ≤ 'f' then some (c.toNat - 'a'.toNat + 10)
  else if 'A' ≤ c && c ≤ 'F' then some (c.toNat - 'A'.toNat + 10)
  else none

/-- The number that digits of the given values write in the given base. -/
def ofDigits (base : Nat) (ds : List Nat) : Nat :=
  ds.foldl (fun n d => base * n + d) 0

/-- The number that digits 0 to 9 write. -/
def decimal (ds : List Char) : Nat :=
  ofDigits 10 (ds.filterMap asciiDigitValue?)

/-- The digits 0 to 9 have the same value in every reading. -/
theorem digitValue?_of_isDigit {c : Char} (h : c.isDigit = true) :
    digitValue? c = asciiDigitValue? c := by
  have hb : 48 ≤ c.toNat ∧ c.toNat < 58 := by
    simp only [Char.isDigit, Bool.and_eq_true, decide_eq_true_eq] at h
    have h1 : (48 : Nat) ≤ c.val.toNat := UInt32.le_iff_toNat_le.1 h.1
    have h2 : c.val.toNat ≤ 57 := UInt32.le_iff_toNat_le.1 h.2
    exact ⟨h1, by change c.val.toNat < 58; omega⟩
  simp [digitValue?, zeros, asciiDigitValue?, h, hb.1, hb.2]

end PodRedirect.Text
