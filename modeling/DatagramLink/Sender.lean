import DatagramLink.BoundedQueue
import DatagramLink.Packet

namespace DatagramLink

/-- The packet with payload that was sent and is not acknowledged yet. Its payload starts where
the acknowledged part of the front datagram ends. -/
structure Outstanding where
  seq : UInt8
  length : Nat
  flags : Flags
  /-- It is to be sent again with the next opportunity. -/
  resend : Bool := false
  /-- How many times in a row its acknowledgement did not come in time. -/
  timeouts : UInt32 := 0
  deriving DecidableEq, Repr

/-- What this side owes the peer for payload it received. -/
inductive Acknowledgement where
  | settled
  /-- owed, but it may wait for outgoing payload to carry it -/
  | owed
  /-- to be sent even if there is no payload to carry it -/
  | due
  deriving DecidableEq, Repr

/-- The send side of a link: it queues datagrams, cuts the front one into packets and keeps
track of what the peer acknowledged. At most one packet with payload is unacknowledged at a
time. All that this side has to tell the peer, acknowledgements and error codes, rides on the
next packet. -/
structure Sender where
  queue : BoundedQueue Bytes
  nextSeq : UInt8
  /-- The acknowledgement that the packet sent last carried. -/
  sentAck : UInt8
  /-- How many bytes of the front datagram were sent, and how many of them are acknowledged. -/
  sent : Nat
  acked : Nat
  outstanding : Option Outstanding
  acknowledgement : Acknowledgement
  /-- The error code to report with the next packet. -/
  report : ErrorCode
  busy : Bool
  deriving DecidableEq, Repr

/-- A sender at the start of its stream, with room for so many datagrams. -/
def Sender.ofCapacity (capacity : Nat) : Except Fault Sender := do
  let queue ← BoundedQueue.ofCapacity capacity
  return {
    queue, nextSeq := 0, sentAck := 0, sent := 0, acked := 0, outstanding := none
    acknowledgement := .settled, report := .none, busy := false }

/-- A full queue hands the datagram back. -/
def Sender.enqueue (sender : Sender) (datagram : Bytes) : Except Bytes Sender := do
  let queue ← sender.queue.push datagram
  return { sender with queue }

/-- How many datagrams are queued, the front one included. -/
def Sender.pending (sender : Sender) : Nat := sender.queue.count

/-- Every datagram that was queued has been acknowledged. -/
def Sender.isDrained (sender : Sender) : Bool := sender.queue.isEmpty

/-- The number of the packet with payload sent last, which packets without payload repeat. -/
def Sender.sentSeq (sender : Sender) : UInt8 := sender.nextSeq - 1

/-- How many times in a row the outstanding packet timed out. -/
def Sender.timeouts (sender : Sender) : UInt32 := (sender.outstanding.map (·.timeouts)).getD 0

/-- The link has taken a packet, or is ready for the next one. -/
def Sender.setBusy (sender : Sender) (busy : Bool) : Sender := { sender with busy }

/-- A later error code replaces one that was not sent yet. -/
def Sender.setReport (sender : Sender) (report : ErrorCode) : Sender := { sender with report }

/-- Notes received payload that has to be acknowledged, at once or when convenient. -/
def Sender.owe (sender : Sender) (immediate : Bool) : Sender :=
  if immediate then { sender with acknowledgement := .due }
  else match sender.acknowledgement with
    | .settled => { sender with acknowledgement := .owed }
    | .owed | .due => sender

/-- An acknowledgement that was held back has to go out now. -/
def Sender.ackOverdue (sender : Sender) : Sender :=
  match sender.acknowledgement with
  | .owed => { sender with acknowledgement := .due }
  | .settled | .due => sender

/-- What the peer's acknowledgement means for the outstanding packet. -/
inductive Coverage where
  | nothingOutstanding
  /-- the outstanding packet is not covered -/
  | notAcked
  | packetAcked
  /-- the packet was the last one of the front datagram -/
  | datagramCompleted
  deriving DecidableEq, Repr

/-- The name in a log. -/
def Coverage.name : Coverage → String
  | .nothingOutstanding => "NothingOutstanding"
  | .notAcked => "NotAcked"
  | .packetAcked => "PacketAcked"
  | .datagramCompleted => "DatagramCompleted"

/-- The peer expects `ack` next. That covers the outstanding packet only if it is the number right
after it. -/
def Sender.acknowledge (sender : Sender) (ack : UInt8) : Coverage × Sender :=
  match sender.outstanding with
  | none => (.nothingOutstanding, sender)
  | some packet =>
    if ack ≠ packet.seq + 1 then (.notAcked, sender)
    else
      let acked := sender.acked + packet.length
      if acked < (sender.queue.front?.map List.length).getD 0 then
        (.packetAcked, { sender with outstanding := none, acked })
      else
        (.datagramCompleted,
          { sender with outstanding := none, sent := 0, acked := 0, queue := sender.queue.pop.2 })

/-- The peer asks for the outstanding packet again. There may be none. -/
def Sender.resend? (sender : Sender) : Option Sender :=
  sender.outstanding.map fun packet =>
    { sender with outstanding := some { packet with resend := true } }

/-- The acknowledgement did not come in time. Without an outstanding packet that is old news;
otherwise it says how many times in a row it happened, in 32 bits. -/
def Sender.timeOut? (sender : Sender) : Option (UInt32 × Sender) :=
  sender.outstanding.map fun packet =>
    (packet.timeouts + 1,
      { sender with
        outstanding := some { packet with resend := true, timeouts := packet.timeouts + 1 } })

/-- What is left to send of the front datagram, if anything is. -/
def Sender.unsent? (sender : Sender) : Option Bytes :=
  match sender.queue.front? with
  | none => none
  | some datagram =>
    if sender.sent < datagram.length then some (datagram.drop sender.sent) else none

/-- There is something to tell the peer that can do without payload. -/
def Sender.hasNews (sender : Sender) : Bool :=
  sender.acknowledgement = .due || sender.report ≠ .none

/-- There is something to send once the link is idle. -/
def Sender.wantsLink (sender : Sender) : Bool :=
  match sender.outstanding with
  | some packet => packet.resend || sender.hasNews
  | none => sender.unsent?.isSome || sender.hasNews

/-- There is something to send, and the link can take it. -/
def Sender.isReady (sender : Sender) : Bool := !sender.busy && sender.wantsLink

/-- A packet that goes out, and whether it went out before. -/
structure Sender.Emission where
  packet : Packet
  retransmission : Bool
  deriving DecidableEq, Repr

/-- Only packets with payload are acknowledged, so only they need a timeout. -/
def Sender.Emission.carriesPayload (emission : Sender.Emission) : Bool :=
  emission.packet.header.length ≠ 0

/-- Sends a payload together with all there is to tell the peer, which is told by that. -/
def Sender.emit (sender : Sender) (ack : UInt8) (flags : Flags) (seq : UInt8) (payload : Bytes)
    (retransmission : Bool) : Except Fault (Option (Sender.Emission × Sender)) := do
  let packet ← Packet.build flags ⟨.data, sender.report⟩ ack seq payload
  return some (⟨packet, retransmission⟩,
    { sender with sentAck := ack, acknowledgement := .settled, report := .none, busy := true })

/-- A packet without payload, sent only if there is something to tell. -/
def Sender.emitNews (sender : Sender) (ack : UInt8) :
    Except Fault (Option (Sender.Emission × Sender)) :=
  if sender.hasNews then sender.emit ack .clear sender.sentSeq [] false else .ok none

/-- The next fragment of the front datagram, cut to `limit` bytes. -/
def Sender.emitFragment (sender : Sender) (ack : UInt8) (limit : Nat) (unsent : Bytes) :
    Except Fault (Option (Sender.Emission × Sender)) :=
  let payload := unsent.take limit
  let flags : Flags := ⟨payload.length < unsent.length, false⟩
  let after := { sender with
    nextSeq := sender.nextSeq + 1
    sent := sender.sent + payload.length
    outstanding := some { seq := sender.nextSeq, length := payload.length, flags } }
  after.emit ack flags sender.nextSeq payload false

/-- The payload of the outstanding packet. -/
def Sender.heldPayload (sender : Sender) (packet : Outstanding) : Except Fault Bytes :=
  match sender.queue.front? with
  | some datagram => slice datagram sender.acked packet.length
  | none => .ok []

/-- The outstanding packet once more, whatever the limit is by now. -/
def Sender.emitAgain (sender : Sender) (ack : UInt8) (packet : Outstanding) :
    Except Fault (Option (Sender.Emission × Sender)) := do
  let payload ← sender.heldPayload packet
  let after := { sender with outstanding := some { packet with resend := false } }
  after.emit ack packet.flags packet.seq payload true

/-- The next packet and the sender after it, in this order of priority: a retransmission, new
payload, news without payload. -/
def Sender.next (sender : Sender) (ack : UInt8) (limit : Nat) :
    Except Fault (Option (Sender.Emission × Sender)) :=
  if sender.busy then .ok none
  else match sender.outstanding with
    | some packet => if packet.resend then sender.emitAgain ack packet else sender.emitNews ack
    | none =>
      match sender.unsent? with
      | some unsent => sender.emitFragment ack limit unsent
      | none => sender.emitNews ack

theorem Sender.of_emit {sender after : Sender} {ack seq : UInt8} {flags : Flags} {payload : Bytes}
    {again : Bool} {emission : Sender.Emission}
    (sending : sender.emit ack flags seq payload again = .ok (some (emission, after))) :
    Packet.build flags ⟨.data, sender.report⟩ ack seq payload = .ok emission.packet ∧
      emission.retransmission = again ∧
      after = { sender with
        sentAck := ack, acknowledgement := .settled, report := .none, busy := true } := by
  unfold Sender.emit at sending
  cases built : Packet.build flags ⟨.data, sender.report⟩ ack seq payload with
  | error => rw [built] at sending; cases sending
  | ok packet => rw [built] at sending; cases sending; exact ⟨rfl, rfl, rfl⟩

theorem Sender.of_emitNews {sender after : Sender} {ack : UInt8} {emission : Sender.Emission}
    (sending : sender.emitNews ack = .ok (some (emission, after))) :
    sender.hasNews = true ∧
      sender.emit ack .clear sender.sentSeq [] false = .ok (some (emission, after)) := by
  unfold Sender.emitNews at sending
  split at sending
  · exact ⟨by assumption, sending⟩
  · cases sending

theorem Sender.of_emitAgain {sender after : Sender} {ack : UInt8} {packet : Outstanding}
    {emission : Sender.Emission}
    (sending : sender.emitAgain ack packet = .ok (some (emission, after))) :
    ∃ payload, sender.heldPayload packet = .ok payload ∧
      Sender.emit { sender with outstanding := some { packet with resend := false } } ack
        packet.flags packet.seq payload true = .ok (some (emission, after)) := by
  unfold Sender.emitAgain at sending
  cases held : sender.heldPayload packet with
  | error => rw [held] at sending; cases sending
  | ok payload => rw [held] at sending; exact ⟨payload, rfl, sending⟩

/-- A sender that told all there is to tell, and whose outstanding packet, if any, is not to be
sent again, has something to send only if nothing is outstanding and payload is left. -/
theorem Sender.wantsLink_of_settled {sender : Sender}
    (settled : sender.acknowledgement = .settled) (quiet : sender.report = .none) :
    sender.wantsLink = match sender.outstanding with
      | some packet => packet.resend
      | none => sender.unsent?.isSome := by
  have noNews : sender.hasNews = false := by simp [Sender.hasNews, settled, quiet]
  unfold Sender.wantsLink
  cases sender.outstanding <;> simp [noNews]

/-- A sender sends only if it wants to, and then it has nothing more to send. -/
theorem Sender.next_settles {sender after : Sender} {ack : UInt8} {limit : Nat}
    {emission : Sender.Emission}
    (sending : sender.next ack limit = .ok (some (emission, after))) :
    sender.wantsLink = true ∧ after.wantsLink = false := by
  unfold Sender.next at sending
  split at sending
  · cases sending
  · split at sending
    · rename_i packet held
      split at sending
      · rename_i again
        refine ⟨by simp [Sender.wantsLink, held, again], ?_⟩
        obtain ⟨payload, _, sent⟩ := Sender.of_emitAgain sending
        obtain ⟨_, _, rfl⟩ := Sender.of_emit sent
        exact Sender.wantsLink_of_settled rfl rfl
      · rename_i notAgain
        obtain ⟨news, sent⟩ := Sender.of_emitNews sending
        refine ⟨by simp [Sender.wantsLink, held, news], ?_⟩
        obtain ⟨_, _, rfl⟩ := Sender.of_emit sent
        rw [Sender.wantsLink_of_settled rfl rfl]
        simpa only [held, Bool.not_eq_true] using notAgain
    · rename_i idle
      split at sending
      · rename_i unsent left
        refine ⟨by simp [Sender.wantsLink, idle, left], ?_⟩
        obtain ⟨_, _, rfl⟩ := Sender.of_emit sending
        exact Sender.wantsLink_of_settled rfl rfl
      · rename_i nothingLeft
        obtain ⟨news, sent⟩ := Sender.of_emitNews sending
        refine ⟨by simp [Sender.wantsLink, idle, news], ?_⟩
        obtain ⟨_, _, rfl⟩ := Sender.of_emit sent
        rw [Sender.wantsLink_of_settled rfl rfl]
        simp only [idle]
        exact congrArg Option.isSome nothingLeft

/-- Back to number 0, with the front datagram to be sent from its first byte. Queued datagrams
survive. -/
def Sender.rewind (sender : Sender) : Sender :=
  { sender with
    nextSeq := 0, sentAck := 0, sent := 0, acked := 0, outstanding := none
    acknowledgement := .settled, report := .none }

end DatagramLink
