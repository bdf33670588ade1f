import DatagramLink.Framer
import DatagramLink.Handshake
import DatagramLink.Reaction
import DatagramLink.Receiver
import DatagramLink.Sender

namespace DatagramLink

/-- The protocol state of one end of the link. It does no input or output and has no notion of
time: received bytes, completed sends and elapsed countdowns are fed in, packets are taken out,
and each step says what it asks of its surroundings. -/
structure Session where
  settings : Settings
  framer : Framer
  receiver : Receiver
  sender : Sender
  handshake : Handshake
  /-- The largest payload per outgoing packet, as agreed with the peer. -/
  payloadLimit : Nat
  /-- New datagrams are still accepted. -/
  accepting : Bool
  /-- Which countdowns this session has started and neither stopped nor seen elapse. -/
  txArmed : Bool
  ackArmed : Bool
  rxArmed : Bool
  deriving DecidableEq, Repr

/-- A session that has not asked for a reset yet. -/
def Session.ofSettings (settings : Settings) : Except Fault Session := do
  let sender ← Sender.ofCapacity settings.queueLength
  let parameters ← settings.parameters
  return {
    settings, sender
    framer := .new settings.rxMtu
    receiver := .new settings.maxDatagram
    handshake := .new parameters
    payloadLimit := settings.payloadLimit
    accepting := true
    txArmed := false, ackArmed := false, rxArmed := false }

/-- Why a datagram is not taken over. It is given back unless it is empty. -/
inductive Refusal where
  | queueFull (datagram : Bytes)
  | tooLarge (datagram : Bytes) (limit : Nat)
  | empty
  | shuttingDown (datagram : Bytes)
  deriving DecidableEq, Repr

/-- The text of the error. -/
def Refusal.message : Refusal → String
  | .queueFull _ => "datagram queue is full"
  | .tooLarge datagram limit =>
    s!"datagram of {datagram.length} bytes exceeds the maximum datagram size of {limit}"
  | .empty => "datagram is empty"
  | .shuttingDown _ => "transport is shutting down"

/-- The name of the error in a log. -/
def Refusal.name : Refusal → String
  | .queueFull _ => "QueueFull"
  | .tooLarge .. => "TooLarge"
  | .empty => "Empty"
  | .shuttingDown _ => "ShuttingDown"

/-- The datagram that is handed back. -/
def Refusal.datagram? : Refusal → Option Bytes
  | .queueFull datagram | .tooLarge datagram _ | .shuttingDown datagram => some datagram
  | .empty => none

/-- A send that did not go through. The link is idle again all the same, and the packet is
recovered like one that was lost on the way. -/
inductive SendFailure where
  | writeFailed (reason : String)
  | closed
  deriving DecidableEq, Repr

/-- The text of the error. -/
def SendFailure.message : SendFailure → String
  | .writeFailed reason => s!"link write failed: {reason}"
  | .closed => "link closed"

/-- Queues a datagram, or says why not. A refused datagram leaves the session as it is. -/
def Session.submit (session : Session) (datagram : Bytes) : Except Refusal Session :=
  if !session.accepting then .error (.shuttingDown datagram)
  else if datagram = [] then .error .empty
  else if session.settings.maxDatagram < datagram.length then
    .error (.tooLarge datagram session.settings.maxDatagram)
  else match session.sender.enqueue datagram with
    | .error returned => .error (.queueFull returned)
    | .ok sender => .ok { session with sender }

/-- Reports a condition to the peer with the next packet. A timeout is never reported. -/
def Session.reportError (session : Session) (error : ErrorCode) : Session :=
  if error = .timeout then session
  else { session with sender := session.sender.setReport error }

/-- No datagram is taken over from now on. -/
def Session.closeIntake (session : Session) : Session := { session with accepting := false }

/-- How many datagrams are queued. -/
def Session.pending (session : Session) : Nat := session.sender.pending

/-- Every datagram that was taken over has been acknowledged. -/
def Session.isDrained (session : Session) : Bool := session.sender.isDrained

/-- The link has completed a send. It does not matter whether it failed: what was lost is sent
again when the peer does not acknowledge it. -/
def Session.sendDone (session : Session) (_ : Except SendFailure Unit) : Session :=
  { session with sender := session.sender.setBusy false }

/-- Starts both streams over while the handshake goes on as given. Datagrams may be lost if the
link was up. -/
def Session.restart (session : Session) (handshake : Handshake) : Session × Reaction :=
  ({ session with
      handshake
      receiver := session.receiver.restart
      sender := session.sender.rewind
      txArmed := false
      ackArmed := false },
    { notices := if session.handshake.isUp then [.linkReset] else []
      orders := .stop .txTimeout ::
        (if session.ackArmed then [.stop .ackDelay] else []) ++ [.stop .resetRetry] })

/-- Asks for a reset of the link. -/
def Session.askReset (session : Session) : Session × Reaction :=
  session.restart session.handshake.announce

/-- A countdown has elapsed. -/
def Session.elapsed (session : Session) : Countdown → Session × Reaction
  | .txTimeout =>
    match session.sender.timeOut? with
    | some (timeouts, sender) => ({ session with sender, txArmed := false }, { timeouts })
    | none => ({ session with txArmed := false }, {})
  | .ackDelay =>
    ({ session with sender := session.sender.ackOverdue, ackArmed := false }, {})
  | .resetRetry =>
    ({ session with handshake := session.handshake.onRetry?.getD session.handshake }, {})
  | .rxTimeout => ({ session with framer := session.framer.forget, rxArmed := false }, {})

end DatagramLink
