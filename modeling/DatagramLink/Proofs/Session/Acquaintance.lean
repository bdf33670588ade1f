import DatagramLink.Proofs.Session.Inputs

namespace DatagramLink

/-- What data packets leave alone. -/
structure Session.SameLink (session after : Session) : Prop where
  settings : after.settings = session.settings
  handshake : after.handshake = session.handshake
  payloadLimit : after.payloadLimit = session.payloadLimit
  busy : after.sender.busy = session.sender.busy

section data

variable (session : Session)

theorem Session.sameLink_refl : session.SameLink session := ⟨rfl, rfl, rfl, rfl⟩

theorem Session.SameLink.trans {session middle after : Session} (first : session.SameLink middle)
    (second : middle.SameLink after) : session.SameLink after where
  settings := second.settings.trans first.settings
  handshake := second.handshake.trans first.handshake
  payloadLimit := second.payloadLimit.trans first.payloadLimit
  busy := second.busy.trans first.busy

theorem Sender.busy_acknowledge (sender : Sender) (ack : UInt8) :
    (sender.acknowledge ack).2.busy = sender.busy := by
  rcases sender.of_acknowledge ack with ⟨_, same, _⟩ | ⟨_, _, _, _, _, _, _, _, state⟩
  · rw [same]
  · rw [state]

theorem Sender.busy_owe (sender : Sender) (immediate : Bool) :
    (sender.owe immediate).busy = sender.busy := by
  unfold Sender.owe
  split
  · rfl
  · split <;> rfl

theorem Session.sameLink_acknowledge (ack : UInt8) :
    session.SameLink (session.acknowledge ack).1 := by
  have busy := session.sender.busy_acknowledge ack
  unfold Session.acknowledge
  split <;> rename_i acknowledged <;> rw [acknowledged] at busy <;> exact ⟨rfl, rfl, rfl, busy⟩

theorem Session.sameLink_heed (error : ErrorCode) : session.SameLink (session.heed error) := by
  unfold Session.heed
  split
  · refine ⟨rfl, rfl, rfl, ?_⟩
    cases held : session.sender.outstanding with
    | none => simp only [Sender.resend?, held, Option.map_none, Option.getD_none]
    | some packet => simp only [Sender.resend?, held, Option.map_some, Option.getD_some]
  · exact session.sameLink_refl

theorem Session.sameLink_oweAck : session.SameLink session.oweAck.1 := by
  unfold Session.oweAck
  split
  · exact ⟨rfl, rfl, rfl, rfl⟩
  · exact ⟨rfl, rfl, rfl, session.sender.busy_owe false⟩

theorem Session.sameLink_takeFragment (fragment : Fragment) :
    session.SameLink (session.takeFragment fragment).1 := by
  unfold Session.takeFragment
  generalize session.receiver.accept fragment = result
  obtain ⟨verdict, receiver⟩ := result
  have accepted : session.SameLink { session with receiver } := ⟨rfl, rfl, rfl, rfl⟩
  have owed := accepted.trans (Session.sameLink_oweAck { session with receiver })
  cases verdict with
  | buffered => exact owed
  | delivered datagram => exact owed
  | duplicate => exact ⟨rfl, rfl, rfl, rfl⟩
  | outOfOrder => exact ⟨rfl, rfl, rfl, rfl⟩
  | tooLarge => exact ⟨rfl, rfl, rfl, rfl⟩

theorem Session.sameLink_takeData (packet : Packet) :
    session.SameLink (session.takeData packet).1 := by
  unfold Session.takeData
  split
  · exact session.sameLink_refl
  · have noted : session.SameLink
        { session with receiver := session.receiver.note packet.header } := ⟨rfl, rfl, rfl, rfl⟩
    have heeded := (noted.trans (Session.sameLink_acknowledge _ packet.header.ack)).trans
      (Session.sameLink_heed _ packet.header.code.error)
    dsimp only
    split
    · exact heeded
    · exact heeded.trans (Session.sameLink_takeFragment _ _)

theorem Session.handshake_takePacket_of_data {packet : Packet}
    (data : packet.header.code.kind = .data) :
    (session.takePacket packet).1.handshake = session.handshake := by
  rw [Session.takePacket, data]
  exact (session.sameLink_takeData packet).handshake

theorem Session.sameLink_noteDamage (error : ErrorCode) :
    session.SameLink (session.noteDamage error) := by
  unfold Session.noteDamage
  split <;> exact ⟨rfl, rfl, rfl, rfl⟩

/-- No packet that arrives makes the link busy or idle. -/
theorem Session.busy_takePacket (packet : Packet) :
    (session.takePacket packet).1.sender.busy = session.sender.busy := by
  unfold Session.takePacket
  cases packet.header.code.kind with
  | data => exact (session.sameLink_takeData packet).busy
  | reset =>
    simp only [Session.takeReset]
    split
    · rfl
    · split <;> rfl
  | resetAck =>
    simp only [Session.takeAnswer]
    split
    · rfl
    · split <;> rfl

end data

/-- Once the link is up, the session knows what the peer advertised and keeps to it. -/
structure Session.Acquainted (session : Session) (peer : LinkParameters) : Prop where
  known : session.handshake.isUp = true → session.handshake.peer = some peer
  agreed : session.handshake.isUp = true →
    session.payloadLimit = min session.settings.payloadLimit peer.rxMtu.toNat

section acquainted

variable {session after : Session} {peer : LinkParameters}

theorem Session.Acquainted.congr (acquainted : session.Acquainted peer)
    (same : session.SameLink after) : after.Acquainted peer := by
  have handshake := same.handshake
  refine ⟨?_, ?_⟩
  · rw [handshake]
    exact acquainted.known
  · rw [handshake, same.payloadLimit, same.settings]
    exact acquainted.agreed

/-- As long as the link is down there is nothing to know. -/
theorem Session.Acquainted.of_down (down : session.handshake.isUp = false) :
    session.Acquainted peer where
  known := fun up => absurd down (ne_false_of_eq_true up)
  agreed := fun up => absurd down (ne_false_of_eq_true up)

theorem Session.eq_of_peerParameters? {packet : Packet} {found : LinkParameters}
    (told : packet.payload = peer.encode) (read : session.peerParameters? packet = some found) :
    found = peer := by
  obtain ⟨rest, decoded⟩ := Session.of_peerParameters? read
  have whole := LinkParameters.decode_encode peer []
  rw [List.append_nil, ← told, decoded] at whole
  cases whole
  rfl

theorem Session.Acquainted.takePacket {packet : Packet} (acquainted : session.Acquainted peer)
    (told : packet.header.code.kind ≠ .data → packet.payload = peer.encode) :
    (session.takePacket packet).1.Acquainted peer := by
  unfold Session.takePacket
  cases kind : packet.header.code.kind with
  | data => exact acquainted.congr (session.sameLink_takeData packet)
  | reset =>
    have tells := told (by rw [kind]; decide)
    simp only [Session.takeReset]
    split
    · exact acquainted
    · split
      · exact acquainted
      · rename_i found read
        cases Session.eq_of_peerParameters? tells read
        exact ⟨fun _ => rfl, fun _ => rfl⟩
  | resetAck =>
    have tells := told (by rw [kind]; decide)
    simp only [Session.takeAnswer]
    split
    · exact acquainted
    · rename_i found read
      cases Session.eq_of_peerParameters? tells read
      split
      · exact acquainted
      · rename_i handshake answered
        unfold Handshake.onAnswer? at answered
        split at answered <;> cases answered <;> exact ⟨fun _ => rfl, fun _ => rfl⟩

theorem Session.Acquainted.takeAll {events : List Framer.Event}
    (acquainted : session.Acquainted peer)
    (told : ∀ packet, .packet packet ∈ events → packet.header.code.kind ≠ .data →
      packet.payload = peer.encode) : (session.takeAll events).1.Acquainted peer := by
  induction events generalizing session with
  | nil => exact acquainted
  | cons event events ih =>
    have later := fun packet member => told packet (List.mem_cons_of_mem event member)
    refine ih ?_ later
    cases event with
    | packet packet => exact acquainted.takePacket (told packet (List.mem_cons_self ..))
    | checksumMismatch header => exact acquainted.congr (session.sameLink_noteDamage .checksum)
    | invalidHeader => exact acquainted.congr (session.sameLink_noteDamage .header)

theorem Session.sameLink_submit {datagram : Bytes}
    (submitted : session.submit datagram = .ok after) : session.SameLink after := by
  obtain ⟨queue, _, rfl⟩ := Session.eq_of_submit submitted
  exact ⟨rfl, rfl, rfl, rfl⟩

theorem Session.Acquainted.elapsed (acquainted : session.Acquainted peer) (countdown : Countdown) :
    (session.elapsed countdown).1.Acquainted peer := by
  cases countdown with
  | txTimeout =>
    unfold Session.elapsed
    dsimp only
    split <;> exact { acquainted with }
  | ackDelay => exact { acquainted with }
  | resetRetry =>
    cases stage : session.handshake.stage with
    | awaiting =>
      have retried : session.handshake.onRetry? =
          some { session.handshake with stage := .announcing } := by
        rw [Handshake.onRetry?, stage]
      simp only [Session.elapsed, retried, Option.getD_some]
      exact .of_down rfl
    | _ =>
      have unchanged : session.handshake.onRetry? = none := by
        rw [Handshake.onRetry?, stage]
      simp only [Session.elapsed, unchanged, Option.getD_none]
      exact acquainted
  | rxTimeout => exact { acquainted with }

theorem Session.Acquainted.next {departure : Session.Departure}
    (acquainted : session.Acquainted peer) (next : session.next = .ok (some departure)) :
    departure.session.Acquainted peer := by
  cases (Session.departs_of_next next).2 with
  | reset announcing => exact .of_down rfl
  | answer answering =>
    have up : session.handshake.isUp = true := congrArg Handshake.Stage.isUp answering
    exact ⟨fun _ => acquainted.known up, fun _ => acquainted.agreed up⟩
  | data => exact { acquainted with }

theorem Session.Acquainted.perform {input : Session.Input} (acquainted : session.Acquainted peer)
    (told : ∀ chunk packet, input = .receive chunk →
      .packet packet ∈ (session.framer.feed chunk).2 → packet.header.code.kind ≠ .data →
        packet.payload = peer.encode)
    (performed : session.perform input = .ok after) : after.Acquainted peer := by
  cases input with
  | submit datagram =>
    rcases Session.of_perform_submit performed with rfl | submitted
    · exact acquainted
    · exact acquainted.congr (Session.sameLink_submit submitted)
  | reportError error =>
    cases performed
    unfold Session.reportError
    split <;> exact { acquainted with }
  | closeIntake => cases performed; exact { acquainted with }
  | askReset =>
    cases performed
    exact .of_down rfl
  | receive chunk =>
    cases performed
    obtain ⟨armed, received⟩ := session.receive_eq chunk
    have taken := acquainted.takeAll fun packet => told chunk packet rfl
    rw [received]
    exact { taken with }
  | elapsed countdown => cases performed; exact acquainted.elapsed countdown
  | depart =>
    rcases Session.of_perform_depart performed with ⟨_, rfl⟩ | ⟨departure, next, rfl⟩
    · exact acquainted
    · exact acquainted.next next
  | sendDone result => cases performed; exact { acquainted with }

end acquainted

end DatagramLink
