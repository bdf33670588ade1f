import DatagramLink.Bytes

namespace DatagramLink

/-- One step of the division by the reflected polynomial. -/
def Crc32.shift (register : UInt32) : UInt32 :=
  if register &&& 1 = 1 then (register >>> 1) ^^^ 0xEDB88320 else register >>> 1

/-- The register after a whole byte, least significant bit first. -/
def Crc32.absorb (register : UInt32) (byte : UInt8) : UInt32 :=
  Nat.repeat Crc32.shift 8 (register ^^^ byte.toUInt32)

/-- CRC-32 as used by Ethernet and zlib: the register starts with all ones and is complemented
at the end. -/
def crc32 (bytes : Bytes) : UInt32 := ~~~ bytes.foldl Crc32.absorb 0xFFFFFFFF

/-- The published check value of the algorithm, over the ASCII digits 1 to 9. -/
example : crc32 [49, 50, 51, 52, 53, 54, 55, 56, 57] = 0xCBF43926 := by decide +kernel

end DatagramLink
