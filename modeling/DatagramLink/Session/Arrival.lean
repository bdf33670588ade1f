import DatagramLink.Session.Basic

namespace DatagramLink

/-- A damaged packet is reported, unless the link is down anyway. -/
def Session.noteDamage (session : Session) (error : ErrorCode) : Session :=
  if session.handshake.isUp then { session with sender := session.sender.setReport error }
  else session

/-- The parameters in a handshake packet, if they can be read and the peer is acceptable. -/
def Session.peerParameters? (session : Session) (packet : Packet) : Option LinkParameters :=
  match LinkParameters.decode packet.payload with
  | .error _ => none
  | .ok (peer, _) =>
    match session.handshake.here.checkPeer peer with
    | .error _ => none
    | .ok () => some peer

/-- The smaller of what the link carries and what the peer accepts. -/
def Session.agree (session : Session) (peer : LinkParameters) : Session :=
  { session with payloadLimit := min session.settings.payloadLimit peer.rxMtu.toNat }

/-- A reset from the peer. Without the reset flag it does not count. -/
def Session.takeReset (session : Session) (packet : Packet) : Session × Reaction :=
  if !packet.header.flags.reset then (session, {})
  else match session.peerParameters? packet with
    | none => (session, {})
    | some peer =>
      let (restarted, reaction) := session.restart (session.handshake.onReset peer)
      (restarted.agree peer, reaction)

/-- The answer to a reset. -/
def Session.takeAnswer (session : Session) (packet : Packet) : Session × Reaction :=
  match session.peerParameters? packet with
  | none => (session, {})
  | some peer =>
    match session.handshake.onAnswer? peer with
    | none => (session, {})
    | some handshake =>
      ({ session with handshake }.agree peer, { orders := [.stop .resetRetry] })

/-- The countdown for the outstanding packet ends with its acknowledgement. -/
def Session.acknowledge (session : Session) (ack : UInt8) : Session × Reaction :=
  match session.sender.acknowledge ack with
  | (.packetAcked, sender) | (.datagramCompleted, sender) =>
    ({ session with sender, txArmed := false }, { orders := [.stop .txTimeout] })
  | (.nothingOutstanding, sender) | (.notAcked, sender) => ({ session with sender }, {})

/-- What the peer reports may ask for the outstanding packet again. -/
def Session.heed (session : Session) (error : ErrorCode) : Session :=
  if error.asksAgain then
    { session with sender := session.sender.resend?.getD session.sender }
  else session

/-- Acknowledges received payload, with the configured delay if there is one. -/
def Session.oweAck (session : Session) : Session × Reaction :=
  match session.settings.ackDelay with
  | none => ({ session with sender := session.sender.owe true }, {})
  | some _ =>
    ({ session with sender := session.sender.owe false, ackArmed := true },
      { orders := if session.ackArmed then [] else [.start .ackDelay] })

/-- A fragment is put together with those before it, and is acknowledged later, at once or not
at all, depending on what has become of it. -/
def Session.takeFragment (session : Session) (fragment : Fragment) : Session × Reaction :=
  let (verdict, receiver) := session.receiver.accept fragment
  let session := { session with receiver }
  match verdict with
  | .buffered => session.oweAck
  | .delivered datagram =>
    let (session, reaction) := session.oweAck
    (session, { reaction with notices := [.datagram datagram] })
  | .duplicate => ({ session with sender := session.sender.owe true }, {})
  | .outOfOrder => ({ session with sender := session.sender.setReport .order }, {})
  | .tooLarge =>
    ({ session with sender := (session.sender.setReport .outOfMemory).owe true }, {})

/-- A packet that is no part of the handshake. It counts only while the link is up, and never with
the reset flag. -/
def Session.takeData (session : Session) (packet : Packet) : Session × Reaction :=
  if !session.handshake.isUp || packet.header.flags.reset then (session, {})
  else
    let session := { session with receiver := session.receiver.note packet.header }
    let (session, acked) := session.acknowledge packet.header.ack
    let session := session.heed packet.header.code.error
    match Fragment.ofPacket? packet with
    | none => (session, acked)
    | some fragment =>
      let (session, taken) := session.takeFragment fragment
      (session, acked ++ taken)

/-- A packet whose checksum is right. -/
def Session.takePacket (session : Session) (packet : Packet) : Session × Reaction :=
  match packet.header.code.kind with
  | .reset => session.takeReset packet
  | .resetAck => session.takeAnswer packet
  | .data => session.takeData packet

/-- Whatever the framer reports, the session goes on. -/
def Session.take (session : Session) : Framer.Event → Session × Reaction
  | .packet packet => session.takePacket packet
  | .checksumMismatch _ => (session.noteDamage .checksum, {})
  | .invalidHeader => (session.noteDamage .header, {})

/-- All that the framer reports of a chunk, one after another. -/
def Session.takeAll (session : Session) : List Framer.Event → Session × Reaction
  | [] => (session, {})
  | event :: events =>
    let (session, first) := session.take event
    let (session, others) := session.takeAll events
    (session, first ++ others)

/-- The countdown for a partly received packet starts anew with every chunk and ends with the
packet. -/
def Session.watchFramer (session : Session) : Session × Reaction :=
  if !session.framer.isWaiting then
    ({ session with rxArmed := true }, { orders := [.start .rxTimeout] })
  else if session.rxArmed then
    ({ session with rxArmed := false }, { orders := [.stop .rxTimeout] })
  else (session, {})

/-- Takes in a chunk of the byte stream, of any size. -/
def Session.receive (session : Session) (chunk : Bytes) : Session × Reaction :=
  let (framer, events) := session.framer.feed chunk
  let (session, handled) := { session with framer }.takeAll events
  let (session, watched) := session.watchFramer
  (session, handled ++ watched)

end DatagramLink
