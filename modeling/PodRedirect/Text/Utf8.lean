import PodRedirect.Text.Digit

/-!
# UTF-8

Bytes read as UTF-8. A sequence that is not well formed is refused with the place and the nature
of its first fault.

## Main definitions

* `Utf8.Fault`: where and why bytes are no UTF-8, and `Utf8.Fault.message`
* `Utf8.decode`: the characters that bytes stand for
-/

namespace PodRedirect.Utf8

/-- What is wrong with bytes that stand for no character. -/
inductive Cause where
  | invalidStart
  | invalidContinuation
  | unexpectedEnd
  deriving DecidableEq, Repr

/-- The first bytes of a sequence that stand for no character: their place, the first of them, and
how many belong together. -/
structure Fault where
  position : Nat
  first : Nat
  count : Nat
  cause : Cause
  deriving DecidableEq, Repr

/-- A cause in words. -/
def Cause.text : Cause → String
  | .invalidStart => "invalid start byte"
  | .invalidContinuation => "invalid continuation byte"
  | .unexpectedEnd => "unexpected end of data"

/-- A fault in words. -/
def Fault.message (f : Fault) : String :=
  let place :=
    if f.count = 1 then
      "byte 0x" ++ String.ofList ((Nat.toDigits 16 f.first).leftpad 2 '0') ++ " in position " ++
        toString f.position
    else
      "bytes in position " ++ toString f.position ++ "-" ++ toString (f.position + f.count - 1)
  "'utf-8' codec can't decode " ++ place ++ ": " ++ f.cause.text

/-- For the first byte of a character of several bytes: how many follow, and the bounds of the
first that does. The bounds leave out overlong forms, surrogates and numbers beyond the last
character. -/
def lead? (b : Nat) : Option (Nat × Nat × Nat) :=
  if 0xc2 ≤ b && b ≤ 0xdf then some (1, 0x80, 0xbf)
  else if b = 0xe0 then some (2, 0xa0, 0xbf)
  else if b = 0xed then some (2, 0x80, 0x9f)
  else if 0xe1 ≤ b && b ≤ 0xef then some (2, 0x80, 0xbf)
  else if b = 0xf0 then some (3, 0x90, 0xbf)
  else if 0xf1 ≤ b && b ≤ 0xf3 then some (3, 0x80, 0xbf)
  else if b = 0xf4 then some (3, 0x80, 0x8f)
  else none

/-- How many of the next `n` bytes continue a character, the first of them within the bounds. -/
def continuation : (n lo hi : Nat) → List Nat → Nat
  | 0, _, _, _ => 0
  | _ + 1, _, _, [] => 0
  | n + 1, lo, hi, b :: bs =>
    if lo ≤ b && b ≤ hi then continuation n 0x80 0xbf bs + 1 else 0

/-- The character that starts with byte `b`, and the number of its further bytes; or the number of
bytes at fault. -/
def character (b : Nat) (rest : List Nat) : Except (Nat × Cause) (Char × Nat) :=
  if b < 0x80 then .ok (Char.ofNat b, 0)
  else match lead? b with
    | none => .error (1, .invalidStart)
    | some (n, lo, hi) =>
      let got := continuation n lo hi rest
      if got = n then
        let bits := b % (1 <<< (6 - n))
        .ok (Char.ofNat (Text.ofDigits 64 (bits :: (rest.take n).map (· % 64))), n)
      else if got = rest.length then .error (got + 1, .unexpectedEnd)
      else .error (got + 1, .invalidContinuation)

/-- The characters of the bytes that come at the given position. -/
def decodeFrom (position : Nat) : List Nat → Except Fault (List Char)
  | [] => .ok []
  | b :: rest =>
    match character b rest with
    | .error (count, cause) => .error ⟨position, b, count, cause⟩
    | .ok (c, n) => (decodeFrom (position + n + 1) (rest.drop n)).map (c :: ·)
  termination_by bytes => bytes.length
  decreasing_by simp only [List.length_cons, List.length_drop]; omega

/-- The text that bytes stand for. -/
def decode (bytes : List UInt8) : Except Fault String :=
  (decodeFrom 0 (bytes.map UInt8.toNat)).map String.ofList

end PodRedirect.Utf8
