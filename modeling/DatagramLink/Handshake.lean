import DatagramLink.LinkParameters
import DatagramLink.Packet

namespace DatagramLink

/-- How far the reset handshake has come. Either side may ask for a reset; the other one
answers, and takes the link to be up at once, while the side that asked waits for the answer. -/
inductive Handshake.Stage where
  /-- down, and no reset was asked for yet -/
  | dormant
  /-- down, with a reset packet to send -/
  | announcing
  /-- down, with a reset packet sent and not answered -/
  | awaiting
  /-- up, with an answer to send -/
  | answering
  | up
  deriving DecidableEq, Repr

/-- The reset handshake as one side sees it. Both of its packets carry the sender's link
parameters. -/
structure Handshake where
  stage : Handshake.Stage
  here : LinkParameters
  /-- What the peer advertised last. It survives a new reset. -/
  peer : Option LinkParameters
  deriving DecidableEq, Repr

/-- Down, and nothing known of the peer. -/
def Handshake.new (here : LinkParameters) : Handshake := ⟨.dormant, here, none⟩

/-- Whether anything but handshake packets may pass. -/
def Handshake.Stage.isUp : Handshake.Stage → Bool
  | .answering | .up => true
  | .dormant | .announcing | .awaiting => false

theorem Handshake.Stage.eq_up {stage : Handshake.Stage} (up : stage.isUp = true)
    (answered : stage ≠ .answering) : stage = .up := by
  cases stage with
  | up => rfl
  | answering => exact absurd rfl answered
  | dormant => cases up
  | announcing => cases up
  | awaiting => cases up

/-- The name of a stage in a log. -/
def Handshake.Stage.name (stage : Handshake.Stage) : String :=
  if stage.isUp then "None" else "Resetting"

/-- Data packets may be sent and are taken. -/
def Handshake.isUp (handshake : Handshake) : Bool := handshake.stage.isUp

/-- A handshake packet waits to be sent. -/
def Handshake.hasPacket (handshake : Handshake) : Bool :=
  handshake.stage = .announcing || handshake.stage = .answering

/-- Asks for a reset, whatever the stage. What was to be sent before is overtaken. -/
def Handshake.announce (handshake : Handshake) : Handshake :=
  { handshake with stage := .announcing }

/-- The peer's reset wins over one of this side that it may cross on the way. -/
def Handshake.onReset (handshake : Handshake) (peer : LinkParameters) : Handshake :=
  { handshake with stage := .answering, peer := some peer }

/-- An answer counts while the link is down and this side's reset is not still to be sent. Any
other answer is ignored. -/
def Handshake.onAnswer? (handshake : Handshake) (peer : LinkParameters) : Option Handshake :=
  match handshake.stage with
  | .dormant | .awaiting => some { handshake with stage := .up, peer := some peer }
  | .announcing | .answering | .up => none

/-- A reset that is not answered is sent again. -/
def Handshake.onRetry? (handshake : Handshake) : Option Handshake :=
  match handshake.stage with
  | .awaiting => some { handshake with stage := .announcing }
  | .dormant | .announcing | .answering | .up => none

/-- The packet that carries this side's parameters. Only a reset has the reset flag. -/
def Handshake.packet (handshake : Handshake) (kind : PacketKind) : Packet where
  header := ⟨⟨false, kind = .reset⟩, ⟨kind, .none⟩, 0, 0, 10⟩
  payload := handshake.here.encode

theorem Handshake.length_packet (handshake : Handshake) (kind : PacketKind) :
    (handshake.packet kind).header.length.toNat = (handshake.packet kind).payload.length := rfl

/-- The waiting handshake packet and the handshake without it. -/
def Handshake.nextPacket? (handshake : Handshake) : Option (Packet × Handshake) :=
  match handshake.stage with
  | .announcing => some (handshake.packet .reset, { handshake with stage := .awaiting })
  | .answering => some (handshake.packet .resetAck, { handshake with stage := .up })
  | .dormant | .awaiting | .up => none

end DatagramLink
