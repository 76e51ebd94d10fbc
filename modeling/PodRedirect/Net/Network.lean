import PodRedirect.Net.Address
import PodRedirect.Numeral

/-!
# Networks

A network is an address and the number of leading bits that its members share. It is written as an
address with a slash and that number, or, for version 4, with a mask.

## Main definitions

* `Net.Network`: a network
* `Net.Network.parse?`: a network in its notation
* `Net.Network.contains`: an address is a member
-/

namespace PodRedirect.Net

open Text

/-- A network: the addresses of a family that agree with `address` in the first `length` bits. -/
structure Network where
  family : Family
  address : Nat
  length : Nat
  deriving DecidableEq, Repr

/-- An address is a member. -/
def Network.contains (n : Network) (address : Nat) : Bool :=
  let rest := 1 <<< (n.family.bits - n.length)
  n.address / rest == address / rest

/-- A number of bits, which is no longer than a number that can be read. -/
def length? (f : Family) (cs : List Char) : Option Nat :=
  if cs.isEmpty || !cs.all Char.isDigit || Numeral.digitLimit < cs.length then none
  else if decimal cs ≤ f.bits then some (decimal cs) else none

/-- The number of leading ones of a mask, which has no ones after them. -/
def ones? (mask : Nat) : Option Nat :=
  (List.range 33).find? fun n => mask = 0x100000000 - (1 <<< (32 - n))

/-- A mask, or a mask with ones and zeros exchanged. -/
def mask? (cs : List Char) : Option Nat := do
  let mask ← v4? cs
  (ones? mask).or (ones? (0xffffffff - mask))

/-- A network in its notation. An address alone is a network of one member. -/
def Network.parse? (s : String) : Option Network :=
  match s.toList.splitOn '/' with
  | [address] =>
    ((v4? address).map fun a => ⟨.v4, a, 32⟩).or ((v6? address).map fun a => ⟨.v6, a, 128⟩)
  | [address, length] =>
    (do return ⟨.v4, ← v4? address, ← (length? .v4 length).or (mask? length)⟩ : Option Network).or
      (do return ⟨.v6, ← v6? address, ← length? .v6 length⟩)
  | _ => none

end PodRedirect.Net
