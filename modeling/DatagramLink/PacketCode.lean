import DatagramLink.Bytes

namespace DatagramLink

/-- A condition that one side reports to the other. `timeout` is detected by each side on its own
and never travels. -/
inductive ErrorCode where
  | none | checksum | outOfMemory | busy | header | order | application | timeout
  deriving DecidableEq, Repr

/-- What a packet is for, told in the high nibble of the packet code. -/
inductive PacketKind where
  | data | reset | resetAck
  deriving DecidableEq, Repr

/-- The byte that says what kind of packet this is and reports a condition to the peer. -/
structure PacketCode where
  kind : PacketKind
  error : ErrorCode
  deriving DecidableEq, Repr

/-- Why a byte is no packet code. -/
inductive CodeError where
  | unknownError (nibble : UInt8)
  | unknownKind (nibble : UInt8)
  deriving DecidableEq, Repr

/-- The text of the error. -/
def CodeError.message : CodeError → String
  | .unknownError nibble => s!"unknown error code {nibble.toNat}"
  | .unknownKind nibble => s!"unknown packet attribute {nibble.toNat}"

/-- The low nibble of a condition. -/
def ErrorCode.toByte : ErrorCode → UInt8
  | .none => 0
  | .checksum => 1
  | .outOfMemory => 2
  | .busy => 3
  | .header => 4
  | .order => 5
  | .application => 6
  | .timeout => 15

/-- The condition of a low nibble, if there is one. -/
def ErrorCode.ofByte (byte : UInt8) : Except CodeError ErrorCode :=
  match byte.toNat with
  | 0 => .ok .none
  | 1 => .ok .checksum
  | 2 => .ok .outOfMemory
  | 3 => .ok .busy
  | 4 => .ok .header
  | 5 => .ok .order
  | 6 => .ok .application
  | 15 => .ok .timeout
  | _ => .error (.unknownError byte)

/-- The name of a condition in a log. -/
def ErrorCode.name : ErrorCode → String
  | .none => "None"
  | .checksum => "Checksum"
  | .outOfMemory => "Oom"
  | .busy => "Busy"
  | .header => "Header"
  | .order => "Order"
  | .application => "AppLayer"
  | .timeout => "Timeout"

/-- The reports that mean a packet was lost or damaged, so that the sender need not wait for its
timeout. -/
def ErrorCode.asksAgain : ErrorCode → Bool
  | .checksum | .outOfMemory | .busy | .header | .order => true
  | .none | .application | .timeout => false

/-- The high nibble of a kind. -/
def PacketKind.toByte : PacketKind → UInt8
  | .data => 0
  | .reset => 1
  | .resetAck => 2

/-- The kind of a high nibble, if there is one. -/
def PacketKind.ofByte (byte : UInt8) : Except CodeError PacketKind :=
  match byte.toNat with
  | 0 => .ok .data
  | 1 => .ok .reset
  | 2 => .ok .resetAck
  | _ => .error (.unknownKind byte)

/-- The name of a kind in a log. -/
def PacketKind.name : PacketKind → String
  | .data => "None"
  | .reset => "Reset"
  | .resetAck => "ResetAck"

/-- The code of a packet that reports nothing. -/
def PacketCode.plain : PacketCode := ⟨.data, .none⟩

/-- The byte of a packet code. -/
def PacketCode.toByte (code : PacketCode) : UInt8 := code.kind.toByte * 16 + code.error.toByte

/-- The kind is looked at first, so a byte with two bad nibbles is refused for its kind. -/
def PacketCode.ofByte (byte : UInt8) : Except CodeError PacketCode := do
  let kind ← PacketKind.ofByte (byte / 16)
  let error ← ErrorCode.ofByte (byte % 16)
  return ⟨kind, error⟩

theorem ErrorCode.ofByte_toByte (error : ErrorCode) :
    ErrorCode.ofByte error.toByte = .ok error := by
  cases error <;> rfl

theorem PacketKind.ofByte_toByte (kind : PacketKind) :
    PacketKind.ofByte kind.toByte = .ok kind := by
  cases kind <;> rfl

theorem PacketCode.ofByte_toByte (code : PacketCode) :
    PacketCode.ofByte code.toByte = .ok code := by
  obtain ⟨kind, error⟩ := code
  cases kind <;> cases error <;> rfl

end DatagramLink
