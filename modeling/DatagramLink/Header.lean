import DatagramLink.PacketCode

namespace DatagramLink

/-- The two flags of a packet. The other six bits of their byte have to be clear. -/
structure Flags where
  /-- The datagram continues in the next packet. -/
  unfinished : Bool
  /-- Set on packets that ask for a reset. -/
  reset : Bool
  deriving DecidableEq, Repr

/-- No flag is set. -/
def Flags.clear : Flags := ⟨false, false⟩

/-- The byte of the flags, the first one in its lowest bit. -/
def Flags.toByte (flags : Flags) : UInt8 :=
  (if flags.unfinished then 1 else 0) + (if flags.reset then 2 else 0)

/-- Six of the eight bits are reserved and must be zero. -/
def Flags.ofByte? (byte : UInt8) : Option Flags :=
  match byte.toNat with
  | 0 => some ⟨false, false⟩
  | 1 => some ⟨true, false⟩
  | 2 => some ⟨false, true⟩
  | 3 => some ⟨true, true⟩
  | _ => none

theorem Flags.ofByte?_toByte (flags : Flags) : Flags.ofByte? flags.toByte = some flags := by
  obtain ⟨unfinished, reset⟩ := flags
  cases unfinished <;> cases reset <;> rfl

/-- The flags as a log shows them. -/
def Flags.describe : Flags → String
  | ⟨false, false⟩ => "PacketFlags(0x0)"
  | ⟨true, false⟩ => "PacketFlags(UNFINISHED_DATAGRAM)"
  | ⟨false, true⟩ => "PacketFlags(RESET)"
  | ⟨true, true⟩ => "PacketFlags(UNFINISHED_DATAGRAM | RESET)"

/-- The fixed eight bytes that follow the start delimiter of a packet, without their reserved
word. -/
structure Header where
  flags : Flags
  code : PacketCode
  /-- The sequence number this side expects next. -/
  ack : UInt8
  seq : UInt8
  /-- The number of payload bytes that follow. -/
  length : UInt16
  deriving DecidableEq, Repr

/-- The bytes of a header on the wire. -/
def Header.size : Nat := 8

/-- The header on the wire. The reserved word is written as zero, and ignored when read. -/
def Header.encode (header : Header) : Bytes :=
  [header.flags.toByte, header.code.toByte, header.ack, header.seq] ++ le16 header.length ++ le16 0

theorem Header.length_encode (header : Header) : header.encode.length = Header.size := rfl

/-- Why a byte string does not begin with a header. -/
inductive HeaderError where
  | incomplete (available : Nat)
  | reservedFlags (byte : UInt8)
  | code (error : CodeError)
  deriving DecidableEq, Repr

/-- The text of the error. -/
def HeaderError.message : HeaderError → String
  | .incomplete available => s!"incomplete packet header: {available} bytes"
  | .reservedFlags byte => "reserved flag bits set: " ++ positional 2 8 byte.toNat
  | .code error => error.message

/-- How many bytes were looked at before the header was refused. -/
def HeaderError.consumed : HeaderError → Nat
  | .incomplete _ => 0
  | .reservedFlags _ => 1
  | .code _ => 2

/-- Reads a header off the front of a byte string. A string that is too short is refused before
any of its bytes is looked at. -/
def Header.decode : Bytes → Except HeaderError (Header × Bytes)
  | flagByte :: codeByte :: ack :: seq :: lengthLow :: lengthHigh :: _ :: _ :: rest =>
    match Flags.ofByte? flagByte with
    | none => .error (.reservedFlags flagByte)
    | some flags =>
      match PacketCode.ofByte codeByte with
      | .error error => .error (.code error)
      | .ok code => .ok (⟨flags, code, ack, seq, ofLe16 lengthLow lengthHigh⟩, rest)
  | short => .error (.incomplete short.length)

theorem Header.decode_encode (header : Header) (rest : Bytes) :
    Header.decode (header.encode ++ rest) = .ok (header, rest) := by
  simp only [Header.encode, le16, List.cons_append, List.nil_append, Header.decode,
    Flags.ofByte?_toByte, PacketCode.ofByte_toByte, ofLe16_bytes]

/-- The one-line form used in logs. -/
def Header.describe (header : Header) : String :=
  s!"PCKT\x7b#{header.seq.toNat} ack {header.ack.toNat} len {header.length.toNat} " ++
    s!"{header.code.kind.name}/{header.code.error.name} {header.flags.describe}\x7d"

end DatagramLink
