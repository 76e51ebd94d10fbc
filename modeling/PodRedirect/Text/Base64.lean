/-!
# Base 64

Bytes written as text, three of them by four characters. Characters that stand for no digit are
passed over. At the end an equals sign stands for each character that a group of four lacks; where
it lacks none, equals signs are passed over too.

## Main definitions

* `Base64.Fault`: why a text writes no bytes, and `Base64.Fault.message`
* `Base64.digit?`: the number that a character stands for
* `Base64.decode`: the bytes that a text writes
-/

namespace PodRedirect.Base64

/-- Why a text writes no bytes: its last group has a single digit, after the given number of bytes,
or too few equals signs. -/
inductive Fault where
  | single (bytes : Nat)
  | padding
  deriving DecidableEq, Repr

/-- A fault in words. -/
def Fault.message : Fault → String
  | .single bytes =>
    "Invalid base64-encoded string: number of data characters (" ++
      toString (bytes / 3 * 4 + 1) ++ ") cannot be 1 more than a multiple of 4"
  | .padding => "Incorrect padding"

/-- The number that a character stands for. -/
def digit? (c : Char) : Option Nat :=
  if c.isUpper then some (c.toNat - 'A'.toNat)
  else if c.isLower then some (c.toNat - 'a'.toNat + 26)
  else if c.isDigit then some (c.toNat - '0'.toNat + 52)
  else if c = '+' then some 62
  else if c = '/' then some 63
  else none

/-- What has been read of a text: the bytes so far, the last one first, the digits of the present
group, the bits that the last of them leaves over, and the equals signs after it. -/
structure Decoder where
  bytes : List UInt8
  digits : Nat
  left : Nat
  pads : Nat
  deriving DecidableEq, Repr

/-- The decoder after another digit. From the second on, each digit of a group ends a byte. -/
def Decoder.push (d : Decoder) (n : Nat) : Decoder :=
  match d.digits with
  | 0 => ⟨d.bytes, 1, n, 0⟩
  | 1 => ⟨UInt8.ofNat (d.left * 4 + n / 16) :: d.bytes, 2, n % 16, 0⟩
  | 2 => ⟨UInt8.ofNat (d.left * 16 + n / 4) :: d.bytes, 3, n % 4, 0⟩
  | _ => ⟨UInt8.ofNat (d.left * 64 + n) :: d.bytes, 0, 0, 0⟩

/-- The bytes that are read in the end. -/
def Decoder.finish (d : Decoder) : Except Fault (List UInt8) :=
  match d.digits with
  | 0 => .ok d.bytes.reverse
  | 1 => .error (.single d.bytes.length)
  | _ => .error .padding

/-- Reads the rest of a text, or what comes before the equals sign that completes a group. -/
def decodeFrom (d : Decoder) : List Char → Except Fault (List UInt8)
  | [] => d.finish
  | c :: cs =>
    if c = '=' then
      if d.digits < 2 then decodeFrom d cs
      else if 4 ≤ d.digits + d.pads + 1 then .ok d.bytes.reverse
      else decodeFrom { d with pads := d.pads + 1 } cs
    else
      match digit? c with
      | some n => decodeFrom (d.push n) cs
      | none => decodeFrom d cs

/-- The bytes that a text writes. -/
def decode (s : String) : Except Fault (List UInt8) := decodeFrom ⟨[], 0, 0, 0⟩ s.toList

end PodRedirect.Base64
