import DatagramLink.Bytes

namespace DatagramLink

/-- What a bad link does to the bytes of a packet. -/
structure Damage where
  /-- Bits to flip: a byte index, counted around the packet, and a mask. -/
  flips : List (Nat × UInt8) := []
  /-- How many bytes arrive, if not all. -/
  keep : Option Nat := none
  /-- Nothing arrives at all. -/
  lost : Bool := false
  deriving DecidableEq, Repr

/-- The packet arrives as it was sent. -/
def Damage.harmless : Damage := {}

/-- Flips bits of one byte, whose index is counted around the packet. -/
def flipByte (bytes : Bytes) (flip : Nat × UInt8) : Bytes :=
  bytes.modify (flip.1 % bytes.length) (· ^^^ flip.2)

/-- The bytes that arrive, if any do. -/
def Damage.apply (damage : Damage) (bytes : Bytes) : Option Bytes :=
  if damage.lost then none
  else
    let flipped := damage.flips.foldl flipByte bytes
    some (flipped.take (damage.keep.getD flipped.length))

theorem Damage.apply_harmless (bytes : Bytes) : Damage.harmless.apply bytes = some bytes := by
  simp [Damage.apply, Damage.harmless]

end DatagramLink
