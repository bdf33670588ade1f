import DatagramLink.Proofs.Session.Countdowns

namespace DatagramLink

/-- What a session keeps in order, operation by operation: an outstanding packet has a countdown
or goes out again, and received payload is acknowledged or an acknowledgement is on its way. -/
structure Session.Diligent (session : Session) : Prop where
  awake : session.handshake.stage ≠ .dormant
  /-- There is always room for payload, so no outstanding packet is empty. -/
  limit : session.payloadLimit ≠ 0
  watched : session.txArmed = true → session.sender.outstanding.isSome = true
  recovers : ∀ packet, session.sender.outstanding = some packet →
    session.txArmed = true ∨ packet.resend = true
  told : session.sender.acknowledgement = .settled →
    session.sender.sentAck = session.receiver.expected
  heldBack : session.sender.acknowledgement = .owed → session.ackArmed = true

section arrival

variable {session : Session}

theorem Receiver.accept_of_outOfOrder {receiver : Receiver} {fragment : Fragment}
    (refused : (receiver.accept fragment).1 = .outOfOrder) :
    (receiver.accept fragment).2 = receiver := by
  by_cases next : fragment.seq = receiver.expected
  · have added : (receiver.assembly.add receiver.maxDatagram fragment).1 = .outOfOrder := by
      rwa [Receiver.accept, if_pos next] at refused
    unfold Assembly.add at added
    split at added
    · cases added
    · split at added
      · cases added
      · split at added <;> cases added
  · exact (Receiver.accept_of_ne next).1

theorem LinkParameters.of_checkPeer {here peer : LinkParameters}
    (accepted : here.checkPeer peer = .ok ()) : peer.rxMtu ≠ 0 := by
  unfold LinkParameters.checkPeer at accepted
  split at accepted
  · cases accepted
  · split at accepted
    · cases accepted
    · split at accepted
      · cases accepted
      · assumption

/-- The countdown ends together with the packet. -/
theorem Session.Diligent.acknowledge (diligent : session.Diligent) (ack : UInt8) :
    (session.acknowledge ack).1.Diligent := by
  have covered := session.sender.of_acknowledge ack
  unfold Session.acknowledge
  generalize session.sender.acknowledge ack = result at covered
  obtain ⟨coverage, sender⟩ := result
  rcases covered with ⟨open_, same, _⟩ | ⟨closed, _, queue, sent, acked, _, _, _, state⟩
  · cases same
    rcases open_ with rfl | rfl <;> exact diligent
  · cases state
    have idle : Session.Diligent { session with
        sender := { session.sender with queue, sent, acked, outstanding := none }
        txArmed := false } :=
      { diligent with
        watched := fun armed => by cases armed
        recovers := fun packet held => by cases held }
    rcases closed with rfl | rfl <;> exact idle

theorem Session.Diligent.heed (diligent : session.Diligent) (error : ErrorCode) :
    (session.heed error).Diligent := by
  unfold Session.heed
  split
  · cases held : session.sender.outstanding with
    | none =>
      simp only [Sender.resend?, held, Option.map_none, Option.getD_none]
      exact diligent
    | some packet =>
      simp only [Sender.resend?, held, Option.map_some, Option.getD_some]
      refine { diligent with watched := fun _ => rfl, recovers := fun other same => ?_ }
      cases same
      exact Or.inr rfl
  · exact diligent

/-- Payload may have come in before: it counts as acknowledged from when this is done. -/
theorem Session.Diligent.oweAck (diligent : session.Diligent) (receiver : Receiver) :
    (Session.oweAck { session with receiver }).1.Diligent := by
  unfold Session.oweAck
  split
  · exact { diligent with
      told := fun settled => by cases settled
      heldBack := fun held => by cases held }
  · have unsettled : (session.sender.owe false).acknowledgement ≠ .settled := by
      unfold Sender.owe
      cases owed : session.sender.acknowledgement <;> simp [owed]
    have same : (session.sender.owe false).outstanding = session.sender.outstanding := by
      unfold Sender.owe
      cases session.sender.acknowledgement <;> rfl
    exact {
      awake := diligent.awake
      limit := diligent.limit
      watched := fun armed => same ▸ diligent.watched armed
      recovers := fun packet held => diligent.recovers packet (same ▸ held)
      told := fun settled => absurd settled unsettled
      heldBack := fun _ => rfl }

theorem Session.Diligent.takeFragment (diligent : session.Diligent) (fragment : Fragment) :
    (session.takeFragment fragment).1.Diligent := by
  have outOfOrder := @Receiver.accept_of_outOfOrder session.receiver fragment
  unfold Session.takeFragment
  generalize session.receiver.accept fragment = result at outOfOrder
  obtain ⟨verdict, receiver⟩ := result
  cases verdict with
  | buffered => exact diligent.oweAck receiver
  | delivered datagram => exact diligent.oweAck receiver
  | duplicate =>
    exact { diligent with
      told := fun settled => by cases settled
      heldBack := fun held => by cases held }
  | outOfOrder =>
    cases outOfOrder rfl
    exact { diligent with }
  | tooLarge =>
    exact { diligent with
      told := fun settled => by cases settled
      heldBack := fun held => by cases held }

theorem Session.Diligent.takeData (diligent : session.Diligent) (packet : Packet) :
    (session.takeData packet).1.Diligent := by
  unfold Session.takeData
  split
  · exact diligent
  · have noted : Session.Diligent { session with receiver := session.receiver.note packet.header } :=
      { diligent with }
    have heeded := (noted.acknowledge packet.header.ack).heed packet.header.code.error
    dsimp only
    split
    · exact heeded
    · exact heeded.takeFragment _

theorem Session.Diligent.restart (diligent : session.Diligent) {handshake : Handshake}
    (awake : handshake.stage ≠ .dormant) : (session.restart handshake).1.Diligent where
  awake := awake
  limit := diligent.limit
  watched := fun armed => by cases armed
  recovers := fun packet held => by cases held
  told := fun _ => rfl
  heldBack := fun held => by cases held

/-- A peer that could not receive anything is not accepted. -/
theorem Session.receives_of_peerParameters? {packet : Packet} {peer : LinkParameters}
    (read : session.peerParameters? packet = some peer) : peer.rxMtu.toNat ≠ 0 := by
  have accepted : peer.rxMtu ≠ 0 := by
    unfold Session.peerParameters? at read
    split at read
    · cases read
    · split at read
      · cases read
      · rename_i accepted
        cases read
        exact LinkParameters.of_checkPeer accepted
  exact fun zero => accepted (UInt16.toNat_inj.mp zero)

theorem Session.Diligent.agree (diligent : session.Diligent) {peer : LinkParameters}
    (room : session.settings.payloadLimit ≠ 0) (receives : peer.rxMtu.toNat ≠ 0) :
    (session.agree peer).Diligent := by
  have least : min session.settings.payloadLimit peer.rxMtu.toNat ≠ 0 := by omega
  exact { diligent with limit := least }

end arrival

section departure

variable {sender after : Sender} {ack : UInt8} {limit : Nat} {emission : Sender.Emission}

theorem Sender.settled_of_next (sending : sender.next ack limit = .ok (some (emission, after))) :
    after.acknowledgement = .settled ∧ after.sentAck = ack := by
  obtain ⟨_, _, _, _, rfl⟩ := Sender.of_next sending
  exact ⟨rfl, rfl⟩

/-- A packet either has payload, and is outstanding then, or leaves the outstanding one alone. -/
theorem Sender.outstanding_of_next {queue : List Bytes}
    (regular : sender.course.Regular limit queue) (room : limit ≠ 0)
    (sending : sender.next ack limit = .ok (some (emission, after))) :
    emission.carriesPayload = true ∧ after.outstanding.isSome = true ∨
      emission.carriesPayload = false ∧ after.outstanding = sender.outstanding := by
  have carries := Sender.carriesPayload_of_next sending
  rcases Sender.next_cases sending with sent | ⟨packet, payload, held, cut, sent⟩ |
    ⟨unsent, idle, left, sent⟩
  · have empty := (Sender.emit_packet sent).2.2.2.2.2
    obtain ⟨_, _, rfl⟩ := Sender.of_emit sent
    refine Or.inr ⟨?_, rfl⟩
    rw [Bool.eq_false_iff, ne_eq, carries, empty]
    exact fun nonempty => nonempty rfl
  · obtain ⟨waiting, _, length, _, _⟩ := regular.busy _ _ _ (Sender.extent_of_outstanding held)
    obtain ⟨bound, _, held⟩ := Sender.heldPayload_ok regular held
    have inside : sender.acked < (queue.headD []).length := regular.within_of_ne_nil waiting
    have extent : packet.length = min limit ((queue.headD []).length - sender.acked) := length
    have size : payload.length = packet.length := by
      cases held.symm.trans cut
      rw [List.length_take, List.length_drop]
      omega
    have content := (Sender.emit_packet sent).2.2.2.2.2
    have nonempty : payload ≠ [] := by
      rw [← List.length_pos_iff, size]
      omega
    obtain ⟨_, _, rfl⟩ := Sender.of_emit sent
    exact Or.inl ⟨carries.mpr (content ▸ nonempty), rfl⟩
  · obtain ⟨_, inside, _, _, _, payload, _⟩ := Sender.course_first regular idle left sent
    have nonempty : emission.packet.payload ≠ [] := by
      rw [← List.length_pos_iff, payload, List.length_take, List.length_drop]
      omega
    obtain ⟨_, _, rfl⟩ := Sender.of_emit sent
    exact Or.inl ⟨carries.mpr nonempty, rfl⟩

end departure

section steps

variable {settings : Settings} {session : Session}

theorem Session.Diligent.takeReset (diligent : session.Diligent)
    (room : session.settings.payloadLimit ≠ 0) (packet : Packet) :
    (session.takeReset packet).1.Diligent := by
  unfold Session.takeReset
  split
  · exact diligent
  · split
    · exact diligent
    · rename_i peer read
      have awake : (session.handshake.onReset peer).stage ≠ .dormant := by
        intro dormant
        cases dormant
      exact (diligent.restart awake).agree room (Session.receives_of_peerParameters? read)

theorem Session.Diligent.takeAnswer (diligent : session.Diligent)
    (room : session.settings.payloadLimit ≠ 0) (packet : Packet) :
    (session.takeAnswer packet).1.Diligent := by
  unfold Session.takeAnswer
  split
  · exact diligent
  · rename_i peer read
    split
    · exact diligent
    · rename_i handshake answered
      have awake : handshake.stage ≠ .dormant := by
        unfold Handshake.onAnswer? at answered
        split at answered <;> cases answered <;> exact fun dormant => by cases dormant
      have moved : Session.Diligent { session with handshake } := { diligent with awake }
      exact moved.agree room (Session.receives_of_peerParameters? read)

theorem Session.Diligent.take (diligent : session.Diligent)
    (room : session.settings.payloadLimit ≠ 0) (event : Framer.Event) :
    (session.take event).1.Diligent := by
  have damaged (error : ErrorCode) : (session.noteDamage error).Diligent := by
    unfold Session.noteDamage
    split
    · exact { diligent with }
    · exact diligent
  cases event with
  | checksumMismatch header => exact damaged .checksum
  | invalidHeader => exact damaged .header
  | packet packet =>
    rw [Session.take, Session.takePacket]
    cases packet.header.code.kind with
    | reset => exact diligent.takeReset room packet
    | resetAck => exact diligent.takeAnswer room packet
    | data => exact diligent.takeData packet

theorem Session.Diligent.takeAll (diligent : session.Diligent) (room : settings.payloadLimit ≠ 0)
    (sane : session.profile.Sane settings) (events : List Framer.Event) :
    (session.takeAll events).1.Diligent := by
  induction events generalizing session with
  | nil => exact diligent
  | cons event events ih =>
    have same : session.settings = settings := sane.settings_eq
    exact ih (diligent.take (same ▸ room) event) sane.take

theorem Session.Diligent.receive (diligent : session.Diligent) (room : settings.payloadLimit ≠ 0)
    (sane : session.profile.Sane settings) (chunk : Bytes) :
    (session.receive chunk).1.Diligent := by
  obtain ⟨armed, received⟩ := session.receive_eq chunk
  have taken := diligent.takeAll room sane (session.framer.feed chunk).2
  rw [received]
  exact { taken with }

theorem Session.Diligent.elapsed (diligent : session.Diligent) (countdown : Countdown) :
    (session.elapsed countdown).1.Diligent := by
  cases countdown with
  | txTimeout =>
    unfold Session.elapsed
    dsimp only
    cases held : session.sender.outstanding with
    | none =>
      simp only [Sender.timeOut?, held, Option.map_none]
      exact { diligent with
        watched := fun armed => by cases armed
        recovers := fun packet same => by cases held.symm.trans same }
    | some packet =>
      simp only [Sender.timeOut?, held, Option.map_some]
      exact { diligent with
        watched := fun armed => by cases armed
        recovers := fun other same => by cases same; exact Or.inr rfl }
  | ackDelay =>
    have settled : session.sender.ackOverdue.acknowledgement = .settled →
        session.sender.acknowledgement = .settled := by
      unfold Sender.ackOverdue
      cases owed : session.sender.acknowledgement <;> simp [owed]
    have due : session.sender.ackOverdue.acknowledgement ≠ .owed := by
      unfold Sender.ackOverdue
      cases owed : session.sender.acknowledgement <;> simp [owed]
    have sameSent : session.sender.ackOverdue.sentAck = session.sender.sentAck := by
      unfold Sender.ackOverdue
      cases session.sender.acknowledgement <;> rfl
    have same : session.sender.ackOverdue.outstanding = session.sender.outstanding := by
      unfold Sender.ackOverdue
      cases session.sender.acknowledgement <;> rfl
    exact {
      awake := diligent.awake
      limit := diligent.limit
      watched := fun armed => same ▸ diligent.watched armed
      recovers := fun packet held => diligent.recovers packet (same ▸ held)
      told := fun overdue => sameSent.trans (diligent.told (settled overdue))
      heldBack := fun held => absurd held due }
  | resetRetry =>
    have awake : (session.handshake.onRetry?.getD session.handshake).stage ≠ .dormant := by
      have before := diligent.awake
      unfold Handshake.onRetry?
      cases stage : session.handshake.stage <;> simp_all
    exact { diligent with awake }
  | rxTimeout => exact { diligent with }

theorem Session.Diligent.next (diligent : session.Diligent) (sane : session.profile.Sane settings)
    {departure : Session.Departure} (next : session.next = .ok (some departure)) :
    departure.session.Diligent := by
  cases (Session.departs_of_next next).2 with
  | reset announcing => exact { diligent with awake := fun dormant => by cases dormant }
  | answer answering => exact { diligent with awake := fun dormant => by cases dormant }
  | @data emission sender up sending =>
    obtain ⟨queue, regular⟩ := sane.sender
    obtain ⟨settled, sent⟩ := Sender.settled_of_next sending
    have told : sender.sentAck = session.receiver.expected := sent
    rcases Sender.outstanding_of_next regular diligent.limit sending with
      ⟨carries, held⟩ | ⟨bare, same⟩
    · have armed : (session.departData emission sender).session.txArmed = true := by
        simp only [Session.departData, carries]
        cases session.txArmed <;> simp
      exact {
        awake := diligent.awake
        limit := diligent.limit
        watched := fun _ => held
        recovers := fun _ _ => Or.inl armed
        told := fun _ => told
        heldBack := fun owed => by cases settled.symm.trans owed }
    · have armed : (session.departData emission sender).session.txArmed = session.txArmed := by
        simp only [Session.departData, bare]
        cases session.txArmed <;> simp
      exact {
        awake := diligent.awake
        limit := diligent.limit
        watched := fun running => same ▸ diligent.watched (armed.symm.trans running)
        recovers := fun packet held => armed ▸ diligent.recovers packet (same ▸ held)
        told := fun _ => told
        heldBack := fun owed => by cases settled.symm.trans owed }

theorem Session.Diligent.perform {after : Session} {input : Session.Input}
    (diligent : session.Diligent) (room : settings.payloadLimit ≠ 0) (sane : session.Sane settings)
    (performed : session.perform input = .ok after) : after.Diligent := by
  cases input with
  | submit datagram =>
    rcases Session.of_perform_submit performed with rfl | submitted
    · exact diligent
    · obtain ⟨queue, _, rfl⟩ := Session.eq_of_submit submitted
      exact { diligent with }
  | reportError error =>
    cases performed
    unfold Session.reportError
    split
    · exact diligent
    · exact { diligent with }
  | closeIntake => cases performed; exact { diligent with }
  | askReset =>
    cases performed
    exact diligent.restart (by intro dormant; cases dormant)
  | receive chunk => cases performed; exact diligent.receive room sane.profile chunk
  | elapsed countdown => cases performed; exact diligent.elapsed countdown
  | depart =>
    rcases Session.of_perform_depart performed with ⟨_, rfl⟩ | ⟨departure, next, rfl⟩
    · exact diligent
    · exact diligent.next sane.profile next
  | sendDone result => cases performed; exact { diligent with }

theorem Session.rxArmed_watchFramer (session : Session) :
    session.watchFramer.1.rxArmed = !session.watchFramer.1.framer.isWaiting := by
  unfold Session.watchFramer
  split
  · rename_i amid
    exact amid.symm
  · rename_i waiting
    have waiting : (!session.framer.isWaiting) = false := Bool.eq_false_iff.mpr waiting
    split
    · exact waiting.symm
    · rename_i idle
      exact (Bool.eq_false_iff.mpr idle).trans waiting.symm

/-- The countdown for a partly received packet runs while there is one. -/
theorem Session.rxArmed_perform {after : Session} {input : Session.Input}
    (watching : session.rxArmed = !session.framer.isWaiting)
    (performed : session.perform input = .ok after) :
    after.rxArmed = !after.framer.isWaiting := by
  cases input with
  | submit datagram =>
    rcases Session.of_perform_submit performed with rfl | submitted
    · exact watching
    · obtain ⟨queue, _, rfl⟩ := Session.eq_of_submit submitted
      exact watching
  | reportError error =>
    cases performed
    unfold Session.reportError
    split <;> exact watching
  | closeIntake => cases performed; exact watching
  | askReset => cases performed; exact watching
  | receive chunk =>
    cases performed
    exact Session.rxArmed_watchFramer _
  | elapsed countdown =>
    cases performed
    cases countdown with
    | txTimeout =>
      unfold Session.elapsed
      dsimp only
      split <;> exact watching
    | ackDelay => exact watching
    | resetRetry => exact watching
    | rxTimeout => rfl
  | depart =>
    rcases Session.of_perform_depart performed with ⟨_, rfl⟩ | ⟨departure, next, rfl⟩
    · exact watching
    · cases (Session.departs_of_next next).2 <;> exact watching
  | sendDone result => cases performed; exact watching

end steps

end DatagramLink
