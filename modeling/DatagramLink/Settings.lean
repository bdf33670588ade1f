import DatagramLink.Countdown
import DatagramLink.LinkParameters
import DatagramLink.Packet

namespace DatagramLink

/-- The settings of one end of the link. -/
structure Settings where
  /-- The largest packet the link carries, overhead included. -/
  linkMtu : Nat
  /-- The largest payload accepted in one packet. -/
  rxMtu : Nat
  queueLength : Nat
  maxDatagram : Nat
  txTimeout : Duration
  /-- No delay means that every acknowledgement goes out at once. -/
  ackDelay : Option Duration
  resetRetry : Duration
  /-- A partly received packet is kept for ever if there is no timeout. -/
  rxTimeout : Option Duration
  drainTimeout : Duration
  deriving DecidableEq, Repr

/-- Settings for a serial line with packets of 1 KiB. -/
def Settings.serialLine : Settings where
  linkMtu := 1024 + Packet.overhead
  rxMtu := 1024
  queueLength := 16
  maxDatagram := 64 * 1024
  txTimeout := .ofMilliseconds 1000
  ackDelay := none
  resetRetry := .ofMilliseconds 1500
  rxTimeout := some (.ofMilliseconds 100)
  drainTimeout := .ofMilliseconds 2000

/-- The rule that settings break first. -/
inductive SettingsError where
  | noPayloadSpace (linkMtu : Nat)
  | linkMtuTooLarge (linkMtu : Nat)
  | rxMtuOutOfRange
  | queueLengthOutOfRange (length : Nat)
  | emptyDatagrams
  | txTimeoutOutOfRange
  | zeroResetRetry
  deriving DecidableEq, Repr

/-- The text of the error. -/
def SettingsError.message : SettingsError → String
  | .noPayloadSpace linkMtu => s!"link MTU of {linkMtu} leaves no room for payload"
  | .linkMtuTooLarge linkMtu => s!"link MTU of {linkMtu} exceeds the maximum packet length"
  | .rxMtuOutOfRange => "receive MTU must be between 1 and 65535"
  | .queueLengthOutOfRange length =>
    s!"datagram queue length must be between 1 and 127, was {length}"
  | .emptyDatagrams => "maximum datagram size must not be 0"
  | .txTimeoutOutOfRange => "tx timeout must be between 1 and 65535 ms"
  | .zeroResetRetry => "reset retry interval must not be 0"

/-- The payload limit that the link alone imposes. -/
def Settings.payloadLimit (settings : Settings) : Nat := Packet.payloadLimit settings.linkMtu

/-- Reports the first rule that is broken. -/
def Settings.check (settings : Settings) : Except SettingsError Unit :=
  if settings.payloadLimit = 0 then .error (.noPayloadSpace settings.linkMtu)
  else if 65535 < settings.payloadLimit then .error (.linkMtuTooLarge settings.linkMtu)
  else if settings.rxMtu = 0 ∨ 65535 < settings.rxMtu then .error .rxMtuOutOfRange
  else if settings.queueLength = 0 ∨ 127 < settings.queueLength then
    .error (.queueLengthOutOfRange settings.queueLength)
  else if settings.maxDatagram = 0 then .error .emptyDatagrams
  else if settings.txTimeout.nanoseconds = 0 ∨ 65535 < settings.txTimeout.milliseconds then
    .error .txTimeoutOutOfRange
  else if settings.resetRetry.nanoseconds = 0 then .error .zeroResetRetry
  else .ok ()

/-- What this side advertises. Limits that do not fit into 16 bits cannot be advertised. -/
def Settings.parameters (settings : Settings) : Except Fault LinkParameters := do
  let rxMtu ← narrow16 settings.rxMtu
  let timeout ← narrow16 settings.txTimeout.milliseconds
  return ⟨.current, rxMtu, 1, timeout⟩

/-- A countdown without a delay is never started. -/
def Settings.delay (settings : Settings) : Countdown → Option Duration
  | .txTimeout => some settings.txTimeout
  | .ackDelay => settings.ackDelay
  | .resetRetry => some settings.resetRetry
  | .rxTimeout => settings.rxTimeout

end DatagramLink
