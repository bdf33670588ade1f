import DatagramLink.Crc32
import DatagramLink.Header

namespace DatagramLink

/-- The start delimiter. -/
def preamble : Bytes := [0x68, 0x43]

/-- The checksum that stands behind the payload of a packet. -/
structure Checksum where
  value : UInt32
  deriving DecidableEq, Repr

/-- The bytes of a checksum on the wire. -/
def Checksum.size : Nat := 4

/-- Covers the start delimiter too, and the header as it was received, reserved bytes included. -/
def Checksum.over (header payload : Bytes) : Checksum := ⟨crc32 (preamble ++ header ++ payload)⟩

/-- The footer is the checksum of header and payload. -/
def Checksum.verify (header payload : Bytes) (footer : Checksum) : Bool :=
  Checksum.over header payload = footer

/-- The checksum on the wire, low byte first. -/
def Checksum.encode (checksum : Checksum) : Bytes := le32 checksum.value

/-- Any other number of bytes is no checksum. -/
def Checksum.decode? : Bytes → Option Checksum
  | [b₀, b₁, b₂, b₃] => some ⟨ofLe32 b₀ b₁ b₂ b₃⟩
  | _ => none

/-- Eight hexadecimal digits. -/
def Checksum.describe (checksum : Checksum) : String := positional 16 8 checksum.value.toNat

/-- A packet without its delimiter and checksum, which follow from the rest. -/
structure Packet where
  header : Header
  payload : Bytes
  deriving DecidableEq, Repr

/-- The bytes of a packet that are not payload. -/
def Packet.overhead : Nat := preamble.length + Header.size + Checksum.size

/-- The payload that fits into a packet of at most `linkMtu` bytes. -/
def Packet.payloadLimit (linkMtu : Nat) : Nat := linkMtu - Packet.overhead

/-- The checksum that the packet is sent with. -/
def Packet.footer (packet : Packet) : Checksum :=
  Checksum.over packet.header.encode packet.payload

/-- A whole packet on the wire: a start delimiter of two bytes, the header, the payload and a
checksum over all of them. -/
def Packet.encode (packet : Packet) : Bytes :=
  preamble ++ packet.header.encode ++ packet.payload ++ packet.footer.encode

theorem Packet.length_encode (packet : Packet) :
    packet.encode.length = packet.payload.length + Packet.overhead := by
  simp only [Packet.encode, List.length_append, Header.length_encode, Packet.overhead]
  simp only [preamble, Checksum.encode, le32, Checksum.size, List.length_cons, List.length_nil]
  omega

/-- Packs a payload behind a header that declares its length. -/
def Packet.build (flags : Flags) (code : PacketCode) (ack seq : UInt8) (payload : Bytes) :
    Except Fault Packet := do
  let length ← narrow16 payload.length
  return ⟨⟨flags, code, ack, seq, length⟩, payload⟩

theorem Packet.length_of_build {flags : Flags} {code : PacketCode} {ack seq : UInt8}
    {payload : Bytes} {packet : Packet}
    (built : Packet.build flags code ack seq payload = .ok packet) :
    packet.header.length.toNat = packet.payload.length := by
  unfold Packet.build at built
  cases narrowed : narrow16 payload.length with
  | error => rw [narrowed] at built; cases built
  | ok length => rw [narrowed] at built; cases built; exact toNat_of_narrow16 narrowed

end DatagramLink
