import DatagramLink.Packet

namespace DatagramLink

/-- A packet's share of a datagram. Only packets with payload are numbered, so a fragment is never
empty. -/
structure Fragment where
  seq : UInt8
  /-- The datagram continues in the next packet. -/
  unfinished : Bool
  bytes : Bytes
  bytes_ne_nil : bytes ≠ []
  deriving DecidableEq

/-- A packet without payload carries no fragment. -/
def Fragment.ofPacket? (packet : Packet) : Option Fragment :=
  if nonempty : packet.payload ≠ [] then
    some ⟨packet.header.seq, packet.header.flags.unfinished, packet.payload, nonempty⟩
  else none

/-- The datagram being put together. -/
inductive Assembly where
  | collecting (soFar : Bytes)
  /-- The datagram grew too large: the rest of it is accepted and dropped. -/
  | discarding
  deriving DecidableEq, Repr

/-- How many bytes are collected. -/
def Assembly.size : Assembly → Nat
  | .collecting soFar => soFar.length
  | .discarding => 0

/-- What has become of a fragment. -/
inductive Verdict where
  /-- accepted, and there is more to come or nothing to deliver -/
  | buffered
  /-- accepted, and it completed a datagram -/
  | delivered (datagram : Bytes)
  /-- the packet accepted last, so its acknowledgement was lost -/
  | duplicate
  | outOfOrder
  /-- accepted, but the datagram grew beyond its limit and was discarded -/
  | tooLarge
  deriving DecidableEq, Repr

/-- The receive side of a link: which packet comes next, and the datagram put together so far.
It sees only packets whose checksum is right. -/
structure Receiver where
  maxDatagram : Nat
  expected : UInt8
  /-- What the peer said it expects next. -/
  peerAck : UInt8
  peerCode : PacketCode
  assembly : Assembly
  deriving DecidableEq, Repr

/-- A receiver at the start of the peer's stream. -/
def Receiver.new (maxDatagram : Nat) : Receiver where
  maxDatagram
  expected := 0
  peerAck := 0
  peerCode := .plain
  assembly := .collecting []

/-- Notes what every packet says, with payload or without. -/
def Receiver.note (receiver : Receiver) (header : Header) : Receiver :=
  { receiver with peerAck := header.ack, peerCode := header.code }

/-- Adds a fragment that is next in line. -/
def Assembly.add (assembly : Assembly) (limit : Nat) (fragment : Fragment) : Verdict × Assembly :=
  match assembly with
  | .discarding => (.buffered, if fragment.unfinished then .discarding else .collecting [])
  | .collecting soFar =>
    if limit < soFar.length + fragment.bytes.length then
      (.tooLarge, if fragment.unfinished then .discarding else .collecting [])
    else if fragment.unfinished then (.buffered, .collecting (soFar ++ fragment.bytes))
    else (.delivered (soFar ++ fragment.bytes), .collecting [])

/-- A fragment that is not next in line changes nothing. -/
def Receiver.accept (receiver : Receiver) (fragment : Fragment) : Verdict × Receiver :=
  if fragment.seq = receiver.expected then
    let (verdict, assembly) := receiver.assembly.add receiver.maxDatagram fragment
    (verdict, { receiver with expected := receiver.expected + 1, assembly })
  else if fragment.seq = receiver.expected - 1 then (.duplicate, receiver)
  else (.outOfOrder, receiver)

/-- Back to the start of the peer's stream. What was collected of a datagram is lost. -/
def Receiver.restart (receiver : Receiver) : Receiver := .new receiver.maxDatagram

end DatagramLink
