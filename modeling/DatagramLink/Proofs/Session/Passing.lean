import DatagramLink.Proofs.Sender.Load
import DatagramLink.Proofs.Session.Acquaintance
import DatagramLink.Proofs.Session.Diligence

namespace DatagramLink

section taking

variable {session : Session} {packet : Packet}

theorem Session.sender_acknowledge (session : Session) (ack : UInt8) :
    (session.acknowledge ack).1.sender = (session.sender.acknowledge ack).2 := by
  unfold Session.acknowledge
  split <;> rename_i acknowledged <;> rw [acknowledged]

/-- What the header of a data packet does. -/
theorem Session.sender_hear (session : Session) (header : Header) :
    ((session.acknowledge header.ack).1.heed header.code.error).sender =
      session.sender.hear header := by
  unfold Session.heed Sender.hear
  dsimp only
  rw [← session.sender_acknowledge]
  split <;> rfl

/-- Payload that is welcome is acknowledged at once. -/
theorem Session.sender_takeFragment {fragment : Fragment}
    (prompt : session.settings.ackDelay = none)
    (welcome : session.receiver.Welcomes fragment) :
    (session.takeFragment fragment).1.sender = session.sender.owe true ∧
      (session.takeFragment fragment).1.receiver = (session.receiver.accept fragment).2 := by
  obtain ⟨_, ordered, fits⟩ := welcome
  unfold Session.takeFragment
  generalize session.receiver.accept fragment = result at ordered fits
  obtain ⟨verdict, receiver⟩ := result
  cases verdict with
  | buffered => simp only [Session.oweAck, prompt, and_self]
  | delivered datagram => simp only [Session.oweAck, prompt, and_self]
  | duplicate => exact ⟨rfl, rfl⟩
  | outOfOrder => exact absurd rfl ordered
  | tooLarge => exact absurd rfl fits

/-- What a data packet does whose payload, if it has any, is welcome. -/
theorem Session.takePacket_welcome (data : packet.header.code.kind = .data)
    (up : session.handshake.isUp = true)
    (unflagged : packet.header.flags.reset = false) (prompt : session.settings.ackDelay = none)
    (welcome : ∀ fragment, Fragment.ofPacket? packet = some fragment →
      session.receiver.Welcomes fragment) :
    (session.takePacket packet).1.sender =
        (if packet.payload = [] then session.sender.hear packet.header
          else (session.sender.hear packet.header).owe true) ∧
      (session.takePacket packet).1.receiver.expected =
        if packet.payload = [] then session.receiver.expected else packet.header.seq + 1 := by
  let noted := { session with receiver := session.receiver.note packet.header }
  let heard := (noted.acknowledge packet.header.ack).1.heed packet.header.code.error
  have sender : heard.sender = session.sender.hear packet.header := noted.sender_hear packet.header
  have same : noted.SameLink heard := (noted.sameLink_acknowledge packet.header.ack).trans
    (Session.sameLink_heed _ packet.header.code.error)
  have receiver : heard.receiver = session.receiver.note packet.header :=
    ((noted.acknowledge packet.header.ack).1.profile_heed packet.header.code.error).2.trans
      (noted.profile_acknowledge packet.header.ack).2.2
  have counts : ¬ (!session.handshake.isUp || packet.header.flags.reset) = true := by
    rw [up, unflagged]
    decide
  simp only [Session.takePacket, data, Session.takeData, if_neg counts]
  cases carried : Fragment.ofPacket? packet with
  | none =>
    have empty : packet.payload = [] := by
      by_contra full
      rw [Fragment.ofPacket?, dif_pos full] at carried
      cases carried
    rw [if_pos empty, if_pos empty]
    have unmoved : heard.receiver.expected = session.receiver.expected := by
      rw [receiver]
      rfl
    exact ⟨sender, unmoved⟩
  | some fragment =>
    obtain ⟨seq, _, bytes⟩ := Fragment.of_ofPacket? carried
    have full : packet.payload ≠ [] := bytes ▸ fragment.bytes_ne_nil
    have welcomed : heard.receiver.Welcomes fragment := by
      rw [receiver]
      exact (welcome fragment carried).note packet.header
    have promptStill : heard.settings.ackDelay = none := by
      rw [same.settings]
      exact prompt
    obtain ⟨owed, taken⟩ := Session.sender_takeFragment promptStill welcomed
    rw [sender] at owed
    have next : (heard.takeFragment fragment).1.receiver.expected = packet.header.seq + 1 := by
      rw [taken, ← seq]
      exact welcomed.expected
    rw [if_neg full, if_neg full]
    exact ⟨owed, next⟩

end taking

/-- An outstanding packet is to be sent again, or the peer has taken it and is about to say so. -/
def Session.Pressed (session peer : Session) : Prop :=
  ∀ packet, session.sender.outstanding = some packet →
    packet.resend = true ∨
      peer.sender.acknowledgement = .due ∧ peer.receiver.expected = packet.seq + 1

/-- What an end can send next is welcome at the other end. -/
structure Session.Welcome (session peer : Session) (queue : List Bytes) : Prop where
  regular : session.sender.course.Regular session.payloadLimit queue
  welcome : ∀ fragment,
    session.sender.course.cursor.Yields session.payloadLimit (queue.headD []) fragment →
      peer.receiver.Welcomes fragment

section passing

variable {session peer : Session} {departure : Session.Departure}

/-- While an end is up and has answered, its sender says what comes next. -/
theorem Session.next_eq_of_up (up : session.handshake.stage = .up) :
    session.next = if session.sender.busy then .ok none
      else match session.sender.next session.receiver.expected session.payloadLimit with
        | .error fault => .error fault
        | .ok none => .ok none
        | .ok (some (emission, sender)) => .ok (some (session.departData emission sender)) := by
  have nothing : session.handshake.nextPacket? = none := by
    rw [Handshake.nextPacket?, up]
  have live : (!session.handshake.isUp) = false := by
    rw [Handshake.isUp, up]
    rfl
  unfold Session.next
  rw [nothing, live]
  rfl

theorem Session.of_next_up (up : session.handshake.stage = .up)
    (next : session.next = .ok (some departure)) :
    ∃ emission sender, session.sender.next session.receiver.expected session.payloadLimit =
        .ok (some (emission, sender)) ∧ departure = session.departData emission sender := by
  cases (Session.departs_of_next next).2 with
  | reset announcing => cases announcing.symm.trans up
  | answer answering => cases answering.symm.trans up
  | @data emission sender _ sending => exact ⟨emission, sender, sending, rfl⟩

theorem Session.of_next_none_up (up : session.handshake.stage = .up)
    (idle : session.sender.busy = false) (quiet : session.next = .ok none) :
    session.sender.next session.receiver.expected session.payloadLimit = .ok none := by
  rw [Session.next_eq_of_up up, idle, if_neg Bool.false_ne_true] at quiet
  split at quiet
  · cases quiet
  · assumption
  · cases quiet

/-- A packet has payload if it is outstanding from then on. -/
theorem Sender.payload_of_next {sender after : Sender} {ack : UInt8} {limit : Nat}
    {queue : List Bytes} {emission : Sender.Emission} (regular : sender.course.Regular limit queue)
    (room : limit ≠ 0) (sending : sender.next ack limit = .ok (some (emission, after))) :
    emission.packet.payload = [] ∧ after.outstanding = sender.outstanding ∧
        (∀ packet, sender.outstanding = some packet → packet.resend = false) ∨
      emission.packet.payload ≠ [] ∧
        ∃ packet, after.outstanding = some packet ∧ packet.seq = emission.packet.header.seq := by
  rcases Sender.free_of_next sending with ⟨_, empty, same, once⟩ | ⟨free, packet, held, once, seq⟩
  · exact Or.inl ⟨empty, same, once⟩
  · refine Or.inr ⟨?_, packet, held, seq⟩
    rcases Sender.outstanding_of_next regular room sending with ⟨carries, _⟩ | ⟨_, same⟩
    · exact (Sender.carriesPayload_of_next sending).mp carries
    · rw [Sender.isFree, ← same, held, Option.map_some, Option.getD_some, once] at free
      cases free

/-- A packet that is sent and taken in lightens the load, and no packet is forgotten. -/
theorem Session.Welcome.pass {queue peerQueue : List Bytes} (welcome : session.Welcome peer queue)
    (peerWelcome : peer.Welcome session peerQueue)
    (up : session.handshake.stage = .up) (peerUp : peer.handshake.stage = .up)
    (room : session.payloadLimit ≠ 0) (peerRoom : peer.payloadLimit ≠ 0)
    (prompt : peer.settings.ackDelay = none)
    (pressed : session.Pressed peer) (peerPressed : peer.Pressed session)
    (next : session.next = .ok (some departure)) :
    departure.session.sender.load + (peer.takePacket departure.packet).1.sender.load <
        session.sender.load + peer.sender.load ∧
      departure.session.Pressed (peer.takePacket departure.packet).1 ∧
      (peer.takePacket departure.packet).1.Pressed departure.session := by
  obtain ⟨emission, sender, sending, rfl⟩ := Session.of_next_up up next
  obtain ⟨data, current⟩ := Sender.kind_of_next sending
  have yields := (Sender.regular_next welcome.regular sending).2.2
  obtain ⟨heard, expected⟩ := Session.takePacket_welcome data (congrArg Handshake.Stage.isUp peerUp)
    (Sender.unflagged_of_next welcome.regular sending) prompt
    fun fragment carried => welcome.welcome fragment (yields fragment carried)
  obtain ⟨owed, kept⟩ := peer.sender.of_hear emission.packet.header
  have lighter := Sender.load_next sending
  have heavier := Sender.load_hear peer.sender peerWelcome.regular peerRoom emission.packet.header
  have owing := (peer.sender.hear emission.packet.header).load_owe
  have still : ∀ packet, (peer.takePacket emission.packet).1.sender.outstanding = some packet →
      (peer.sender.hear emission.packet.header).outstanding = some packet := by
    intro packet held
    rw [heard] at held
    split at held
    · exact held
    · exact held
  refine ⟨?_, ?_, ?_⟩
  · show sender.load + (peer.takePacket emission.packet).1.sender.load <
      session.sender.load + peer.sender.load
    rw [heard]
    split
    · rename_i empty
      rw [if_pos empty] at lighter
      omega
    · rename_i full
      rw [if_neg full] at lighter
      omega
  · intro packet held
    refine Or.inr ?_
    show (peer.takePacket emission.packet).1.sender.acknowledgement = .due ∧
      (peer.takePacket emission.packet).1.receiver.expected = packet.seq + 1
    rw [heard, expected]
    rcases Sender.payload_of_next welcome.regular room sending with ⟨empty, same, once⟩ |
      ⟨full, outstanding, sent, seq⟩
    · -- nothing new is outstanding, so the peer still has to acknowledge what it has taken
      have before : session.sender.outstanding = some packet := same.symm.trans held
      rcases pressed packet before with again | ⟨due, taken⟩
      · rw [once packet before] at again
        cases again
      · rw [if_pos empty, if_pos empty]
        exact ⟨owed.trans due, taken⟩
    · cases sent.symm.trans held
      rw [if_neg full, if_neg full, seq]
      exact ⟨rfl, rfl⟩
  · intro packet held
    obtain ⟨before, outstanding, uncovered, again⟩ := kept packet (still packet held)
    rcases peerPressed before outstanding with resend | ⟨_, taken⟩
    · exact Or.inl (again resend)
    · exact absurd (current.trans taken) uncovered

end passing

end DatagramLink
