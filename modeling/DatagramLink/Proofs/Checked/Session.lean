import DatagramLink.Proofs.Checked.Framer
import DatagramLink.Proofs.Checked.Streams
import DatagramLink.Proofs.Session.Inputs

namespace DatagramLink

section opening

/-- What is advertised of the settings has to fit into its fields. -/
def Settings.parametersChecked (settings : Settings) : Checked LinkParameters := do
  let rxMtu ← Checked.narrow16 settings.rxMtu
  let timeout ← Checked.narrow16 settings.txTimeout.milliseconds
  return ⟨.current, rxMtu, 1, timeout⟩

/-- A new session, on the machine. -/
def Session.ofSettingsChecked (settings : Settings) : Checked Session := do
  let sender ← Sender.ofCapacityChecked settings.queueLength
  let parameters ← settings.parametersChecked
  return {
    settings, sender
    framer := .new settings.rxMtu
    receiver := .new settings.maxDatagram
    handshake := .new parameters
    payloadLimit := settings.payloadLimit
    accepting := true
    txArmed := false, ackArmed := false, rxArmed := false }

theorem Settings.parametersChecked_eq {settings : Settings} {parameters : LinkParameters}
    (advertised : settings.parameters = .ok parameters) :
    settings.parametersChecked = .ok parameters := by
  unfold Settings.parameters at advertised
  cases narrowed : narrow16 settings.rxMtu with
  | error => rw [narrowed] at advertised; cases advertised
  | ok rxMtu =>
    cases timed : narrow16 settings.txTimeout.milliseconds with
    | error => rw [narrowed, timed] at advertised; cases advertised
    | ok timeout =>
      rw [narrowed, timed] at advertised
      cases advertised
      rw [Settings.parametersChecked, Checked.narrow16_eq_ok narrowed,
        Checked.narrow16_eq_ok timed]
      rfl

theorem Session.ofSettingsChecked_eq {settings : Settings} (valid : settings.check = .ok ()) :
    Session.ofSettingsChecked settings = .ok (Session.ofValid settings valid) := by
  obtain ⟨sender, parameters, opened, advertised, made⟩ := Session.of_ofValid settings valid
  rw [Session.ofSettingsChecked, Sender.ofCapacityChecked_eq opened,
    Settings.parametersChecked_eq advertised, made]
  rfl

end opening

section steps

/-- A datagram is queued or refused. -/
def Session.submitChecked (session : Session) (datagram : Bytes) :
    Checked (Except Refusal Session) :=
  if !session.accepting then return .error (.shuttingDown datagram)
  else if datagram = [] then return .error .empty
  else if session.settings.maxDatagram < datagram.length then
    return .error (.tooLarge datagram session.settings.maxDatagram)
  else do
    match ← session.sender.enqueueChecked datagram with
    | .error returned => return .error (.queueFull returned)
    | .ok sender => return .ok { session with sender }

/-- A packet of the handshake, whose length has to fit into its field. -/
def Handshake.packetChecked (handshake : Handshake) (kind : PacketKind) : Checked Packet := do
  let payload := handshake.here.encode
  let length ← Checked.narrow16 payload.length
  return ⟨⟨⟨false, kind = .reset⟩, ⟨kind, .none⟩, 0, 0, length⟩, payload⟩

/-- The packet of the handshake that is due. -/
def Handshake.nextPacketChecked? (handshake : Handshake) : Checked (Option (Packet × Handshake)) :=
  match handshake.stage with
  | .announcing => do
    let packet ← handshake.packetChecked .reset
    return some (packet, { handshake with stage := .awaiting })
  | .answering => do
    let packet ← handshake.packetChecked .resetAck
    return some (packet, { handshake with stage := .up })
  | .dormant | .awaiting | .up => return none

/-- The next packet with its bytes. -/
def Session.nextChecked (session : Session) : Checked (Option (Session.Departure × Bytes)) :=
  if session.sender.busy then return none
  else do
    match ← session.handshake.nextPacketChecked? with
    | some (packet, handshake) =>
      let wire ← packet.encodeChecked
      return some (session.departHandshake packet handshake, wire)
    | none =>
      if !session.handshake.isUp then return none
      else
        match ← session.sender.nextChecked session.receiver.expected session.payloadLimit with
        | none => return none
        | some (emission, sender) =>
          let wire ← emission.packet.encodeChecked
          return some (session.departData emission sender, wire)

/-- What the peer advertises, if it can be read and accepted. -/
def Session.peerParametersChecked? (session : Session) (packet : Packet) :
    Checked (Option LinkParameters) := do
  match ← LinkParameters.decodeChecked packet.payload with
  | .error _ => return none
  | .ok (peer, _) =>
    match session.handshake.here.checkPeer peer with
    | .error _ => return none
    | .ok () => return some peer

/-- A reset comes in. -/
def Session.takeResetChecked (session : Session) (packet : Packet) :
    Checked (Session × Reaction) :=
  if !packet.header.flags.reset then return (session, {})
  else do
    match ← session.peerParametersChecked? packet with
    | none => return (session, {})
    | some peer =>
      let (restarted, reaction) := session.restart (session.handshake.onReset peer)
      return (restarted.agree peer, reaction)

/-- The answer to a reset comes in. -/
def Session.takeAnswerChecked (session : Session) (packet : Packet) :
    Checked (Session × Reaction) := do
  match ← session.peerParametersChecked? packet with
  | none => return (session, {})
  | some peer =>
    match session.handshake.onAnswer? peer with
    | none => return (session, {})
    | some handshake =>
      return ({ session with handshake }.agree peer, { orders := [.stop .resetRetry] })

/-- An acknowledgement comes in. -/
def Session.acknowledgeChecked (session : Session) (ack : UInt8) :
    Checked (Session × Reaction) := do
  match ← session.sender.acknowledgeChecked ack with
  | (.packetAcked, sender) | (.datagramCompleted, sender) =>
    return ({ session with sender, txArmed := false }, { orders := [.stop .txTimeout] })
  | (.nothingOutstanding, sender) | (.notAcked, sender) => return ({ session with sender }, {})

/-- A fragment comes in. -/
def Session.takePayloadChecked (session : Session) (packet : Packet) :
    Checked (Session × Reaction) := do
  let (verdict, receiver) ← session.receiver.acceptChecked packet.header.seq
    packet.header.flags.unfinished packet.payload
  let session := { session with receiver }
  match verdict with
  | .buffered => return session.oweAck
  | .delivered datagram =>
    let (session, reaction) := session.oweAck
    return (session, { reaction with notices := [.datagram datagram] })
  | .duplicate => return ({ session with sender := session.sender.owe true }, {})
  | .outOfOrder => return ({ session with sender := session.sender.setReport .order }, {})
  | .tooLarge =>
    return ({ session with sender := (session.sender.setReport .outOfMemory).owe true }, {})

/-- A data packet comes in: first what it says, then its fragment. -/
def Session.takeDataChecked (session : Session) (packet : Packet) : Checked (Session × Reaction) :=
  if !session.handshake.isUp || packet.header.flags.reset then return (session, {})
  else do
    let session := { session with receiver := session.receiver.note packet.header }
    let (session, acked) ← session.acknowledgeChecked packet.header.ack
    let session := session.heed packet.header.code.error
    if packet.payload = [] then return (session, acked)
    else
      let (session, taken) ← session.takePayloadChecked packet
      return (session, acked ++ taken)

/-- What the framer reports is handled. -/
def Session.takeChecked (session : Session) : Framer.Event → Checked (Session × Reaction)
  | .packet packet =>
    match packet.header.code.kind with
    | .reset => session.takeResetChecked packet
    | .resetAck => session.takeAnswerChecked packet
    | .data => session.takeDataChecked packet
  | .checksumMismatch _ => return (session.noteDamage .checksum, {})
  | .invalidHeader => return (session.noteDamage .header, {})

/-- All that the framer reports of a chunk, one after another. -/
def Session.takeAllChecked (session : Session) :
    List Framer.Event → Checked (Session × Reaction)
  | [] => return (session, {})
  | event :: events => do
    let (session, first) ← session.takeChecked event
    let (session, others) ← session.takeAllChecked events
    return (session, first ++ others)

/-- A session on the machine, beside the buffers of its framer. What the session says of its framer is
what they hold. -/
structure BufferedSession where
  session : Session
  framer : BufferedFramer

namespace BufferedSession

/-- A new session with empty buffers. -/
def ofSettingsChecked (settings : Settings) : Checked BufferedSession := do
  let session ← Session.ofSettingsChecked settings
  return { session, framer := .new settings.rxMtu }

/-- A countdown has run out. -/
def elapsedChecked (machine : BufferedSession) : Countdown → Checked (BufferedSession × Reaction)
  | .txTimeout => do
    match ← machine.session.sender.timeOutChecked? with
    | some (timeouts, sender) =>
      return ({ machine with session := { machine.session with sender, txArmed := false } },
        { timeouts })
    | none => return ({ machine with session := { machine.session with txArmed := false } }, {})
  | .ackDelay =>
    let sender := machine.session.sender.ackOverdue
    return ({ machine with session := { machine.session with sender, ackArmed := false } }, {})
  | .resetRetry =>
    let handshake := machine.session.handshake.onRetry?.getD machine.session.handshake
    return ({ machine with session := { machine.session with handshake } }, {})
  | .rxTimeout =>
    let framer := machine.framer.forget
    return (⟨{ machine.session with framer := framer.view, rxArmed := false }, framer⟩, {})

/-- A chunk comes in. It is framed to its end before any of its packets is handled. -/
def receiveChecked (machine : BufferedSession) (chunk : Bytes) :
    Checked (BufferedSession × Reaction) := do
  let (framer, events) ← machine.framer.consumeChecked chunk
  let (session, handled) ← { machine.session with framer := framer.view }.takeAllChecked events
  let (session, watched) := session.watchFramer
  return ({ session, framer }, handled ++ watched)

/-- One thing is done to the session. -/
def performChecked (machine : BufferedSession) : Session.Input → Checked BufferedSession
  | .submit datagram => do
    match ← machine.session.submitChecked datagram with
    | .error _ => return machine
    | .ok session => return { machine with session }
  | .reportError error => return { machine with session := machine.session.reportError error }
  | .closeIntake => return { machine with session := machine.session.closeIntake }
  | .askReset => return { machine with session := machine.session.askReset.1 }
  | .receive chunk => do
    let (after, _) ← machine.receiveChecked chunk
    return after
  | .elapsed countdown => do
    let (after, _) ← machine.elapsedChecked countdown
    return after
  | .depart => do
    match ← machine.session.nextChecked with
    | none => return machine
    | some (departure, _) => return { machine with session := departure.session }
  | .sendDone result => return { machine with session := machine.session.sendDone result }

/-- One thing after another is done to the session, until one of them traps. -/
def runChecked (machine : BufferedSession) : List Session.Input → Checked BufferedSession
  | [] => return machine
  | input :: inputs => do
    let after ← machine.performChecked input
    after.runChecked inputs

/-- The buffers hold what the session says of its framer. -/
def Agrees (machine : BufferedSession) : Prop :=
  machine.framer.Holds machine.session.framer.maxPayload machine.session.framer.phase

end BufferedSession

end steps

/-- A session with buffers as they occur. -/
structure Session.Moderate (session : Session) : Prop where
  assembly : session.receiver.assembly.size < 2 ^ 63
  queued : ∀ datagram ∈ session.sender.queue.toList, datagram.length < 2 ^ 63

instance (session : Session) : Decidable session.Moderate :=
  decidable_of_iff (session.receiver.assembly.size < 2 ^ 63 ∧
      ∀ datagram ∈ session.sender.queue.toList, datagram.length < 2 ^ 63)
    ⟨fun ⟨assembly, queued⟩ => ⟨assembly, queued⟩, fun ⟨assembly, queued⟩ => ⟨assembly, queued⟩⟩

section agreement

variable {settings : Settings} {session : Session}

theorem Profile.Sane.capacity_lt (valid : settings.check = .ok ())
    (sane : session.profile.Sane settings) : session.sender.queue.capacity < 2 ^ 63 := by
  obtain ⟨_, _, _, _, _, length, _⟩ := Settings.of_check valid
  have capacity : session.sender.queue.capacity = settings.queueLength := sane.capacity
  omega

theorem Session.Moderate.short (moderate : session.Moderate) {queue : List Bytes} {limit : Nat}
    (regular : session.sender.course.Regular limit queue) :
    ∀ datagram ∈ queue, datagram.length < 2 ^ 63 := by
  have holds : session.sender.queue.Holds queue := regular.holds
  exact holds.toList_eq ▸ moderate.queued

theorem Session.submitChecked_eq (valid : settings.check = .ok ())
    (sane : session.profile.Sane settings) (datagram : Bytes) :
    session.submitChecked datagram = .ok (session.submit datagram) := by
  obtain ⟨queue, regular⟩ := sane.sender
  have holds : session.sender.queue.Holds queue := regular.holds
  unfold Session.submitChecked Session.submit
  split
  · rfl
  · split
    · rfl
    · split
      · rfl
      · rw [Sender.enqueueChecked_eq holds (sane.capacity_lt valid), Checked.ok_bind]
        cases session.sender.enqueue datagram <;> rfl

/-- Only the count of timeouts in a row grows. -/
theorem BufferedSession.elapsedChecked_eq {framer : BufferedFramer} {countdown : Countdown}
    (agrees : BufferedSession.Agrees ⟨session, framer⟩)
    (few : countdown = .txTimeout → session.sender.outstanding.isSome = true →
      session.sender.timeouts.toNat + 1 < 2 ^ 32) :
    ∃ framerAfter, BufferedSession.elapsedChecked ⟨session, framer⟩ countdown =
        .ok (⟨(session.elapsed countdown).1, framerAfter⟩, (session.elapsed countdown).2) ∧
      BufferedSession.Agrees ⟨(session.elapsed countdown).1, framerAfter⟩ := by
  cases countdown with
  | ackDelay => exact ⟨framer, rfl, agrees⟩
  | resetRetry => exact ⟨framer, rfl, agrees⟩
  | rxTimeout =>
    have forgotten : framer.forget.Holds session.framer.forget.maxPayload
        session.framer.forget.phase := agrees.forget
    refine ⟨framer.forget, ?_, forgotten⟩
    simp only [BufferedSession.elapsedChecked, Session.elapsed, forgotten.view_eq]
    rfl
  | txTimeout =>
    refine ⟨framer, ?_, ?_⟩
    · simp only [BufferedSession.elapsedChecked, Session.elapsed]
      cases held : session.sender.outstanding with
      | none =>
        simp only [Sender.timeOutChecked?, Sender.timeOut?, held]
        rfl
      | some packet =>
        rw [Sender.timeOutChecked?_eq (few rfl (by rw [held]; rfl)), Checked.ok_bind]
        simp only [Sender.timeOut?, held]
        rfl
    · have same : (session.elapsed .txTimeout).1.framer = session.framer := by
        unfold Session.elapsed
        dsimp only
        split <;> rfl
      rw [BufferedSession.Agrees, same]
      exact agrees

theorem Handshake.declared_of_nextPacket? {handshake after : Handshake} {packet : Packet}
    (next : handshake.nextPacket? = some (packet, after)) :
    packet.header.length.toNat = packet.payload.length := by
  unfold Handshake.nextPacket? at next
  split at next
  · cases next
    exact handshake.length_packet .reset
  · cases next
    exact handshake.length_packet .resetAck
  all_goals cases next

theorem Handshake.nextPacketChecked?_eq (handshake : Handshake) :
    handshake.nextPacketChecked? = .ok handshake.nextPacket? := by
  unfold Handshake.nextPacketChecked? Handshake.nextPacket?
  cases handshake.stage <;> rfl

/-- What leaves is written as it is. -/
theorem Session.nextChecked_eq (sane : session.profile.Sane settings) (moderate : session.Moderate)
    {departure? : Option Session.Departure} (next : session.next = .ok departure?) :
    session.nextChecked =
      .ok (departure?.map fun departure => (departure, departure.packet.encode)) := by
  obtain ⟨queue, regular⟩ := sane.sender
  have short := moderate.short regular
  unfold Session.next at next
  unfold Session.nextChecked
  split at next
  · rename_i busy
    cases next
    rw [if_pos busy]
    rfl
  · rename_i idle
    rw [if_neg idle, Handshake.nextPacketChecked?_eq, Checked.ok_bind]
    cases waiting : session.handshake.nextPacket? with
    | some departing =>
      obtain ⟨packet, handshake⟩ := departing
      rw [waiting] at next
      cases next
      simp only [Packet.encodeChecked_eq (Handshake.declared_of_nextPacket? waiting)]
      rfl
    | none =>
      rw [waiting] at next
      dsimp only at next ⊢
      split at next
      · rename_i down
        cases next
        rw [if_pos down]
        rfl
      · rename_i up
        rw [if_neg up]
        split at next
        · cases next
        · rename_i sending
          cases next
          rw [Sender.nextChecked_eq regular short sending]
          rfl
        · rename_i emission sender sending
          cases next
          rw [Sender.nextChecked_eq regular short sending, Checked.ok_bind]
          simp only [Packet.encodeChecked_eq (Sender.declared_of_next sending)]
          rfl

theorem Session.peerParametersChecked?_eq (session : Session) (packet : Packet) :
    session.peerParametersChecked? packet = .ok (session.peerParameters? packet) := by
  rw [Session.peerParametersChecked?, LinkParameters.decodeChecked_eq, Checked.ok_bind,
    Session.peerParameters?]
  cases LinkParameters.decode packet.payload with
  | error => rfl
  | ok read =>
    obtain ⟨peer, rest⟩ := read
    dsimp only
    cases session.handshake.here.checkPeer peer <;> rfl

theorem Session.takeResetChecked_eq (session : Session) (packet : Packet) :
    session.takeResetChecked packet = .ok (session.takeReset packet) := by
  unfold Session.takeResetChecked Session.takeReset
  split
  · rfl
  · rw [Session.peerParametersChecked?_eq, Checked.ok_bind]
    cases session.peerParameters? packet <;> rfl

theorem Session.takeAnswerChecked_eq (session : Session) (packet : Packet) :
    session.takeAnswerChecked packet = .ok (session.takeAnswer packet) := by
  unfold Session.takeAnswerChecked Session.takeAnswer
  rw [Session.peerParametersChecked?_eq, Checked.ok_bind]
  cases session.peerParameters? packet with
  | none => rfl
  | some peer =>
    dsimp only
    cases session.handshake.onAnswer? peer <;> rfl

theorem Session.acknowledgeChecked_eq (valid : settings.check = .ok ())
    (sane : session.profile.Sane settings) (moderate : session.Moderate) (ack : UInt8) :
    session.acknowledgeChecked ack = .ok (session.acknowledge ack) := by
  obtain ⟨queue, regular⟩ := sane.sender
  rw [Session.acknowledgeChecked, Sender.acknowledgeChecked_eq regular (sane.capacity_lt valid)
    (moderate.short regular), Checked.ok_bind, Session.acknowledge]
  generalize session.sender.acknowledge ack = result
  obtain ⟨coverage, sender⟩ := result
  cases coverage <;> rfl

theorem Session.takePayloadChecked_eq {packet : Packet} (nonempty : packet.payload ≠ [])
    (small : session.receiver.assembly.size + packet.payload.length < 2 ^ 64) :
    session.takePayloadChecked packet = .ok (session.takeFragment
      ⟨packet.header.seq, packet.header.flags.unfinished, packet.payload, nonempty⟩) := by
  let fragment : Fragment :=
    ⟨packet.header.seq, packet.header.flags.unfinished, packet.payload, nonempty⟩
  have accepted : session.receiver.acceptChecked packet.header.seq
      packet.header.flags.unfinished packet.payload = .ok (session.receiver.accept fragment) :=
    Receiver.acceptChecked_eq fragment small
  rw [Session.takePayloadChecked, accepted, Checked.ok_bind, Session.takeFragment]
  generalize session.receiver.accept fragment = result
  obtain ⟨verdict, receiver⟩ := result
  cases verdict <;> rfl

/-- Packets are as long as their headers say, so they cannot make the assembly overflow. -/
theorem Session.takeDataChecked_eq (valid : settings.check = .ok ())
    (sane : session.profile.Sane settings) (moderate : session.Moderate) {packet : Packet}
    (declared : packet.payload.length = packet.header.length.toNat) :
    session.takeDataChecked packet = .ok (session.takeData packet) := by
  have bound := packet.header.length.toNat_lt
  have assembly := moderate.assembly
  unfold Session.takeDataChecked Session.takeData
  split
  · rfl
  · let noted := { session with receiver := session.receiver.note packet.header }
    have saneNoted : noted.profile.Sane settings := { sane with }
    have moderateNoted : noted.Moderate := ⟨moderate.assembly, moderate.queued⟩
    have acked := Session.acknowledgeChecked_eq valid saneNoted moderateNoted packet.header.ack
    obtain ⟨_, _, kept⟩ := noted.profile_acknowledge packet.header.ack
    obtain ⟨_, keptToo⟩ :=
      (noted.acknowledge packet.header.ack).1.profile_heed packet.header.code.error
    simp only [noted] at acked
    simp only [acked, Checked.ok_bind, Fragment.ofPacket?]
    by_cases empty : packet.payload = []
    · rw [if_pos empty, dif_neg (not_not.mpr empty)]
      rfl
    · have small : ((noted.acknowledge packet.header.ack).1.heed
          packet.header.code.error).receiver.assembly.size + packet.payload.length < 2 ^ 64 := by
        have still : noted.receiver.assembly.size = session.receiver.assembly.size := rfl
        rw [keptToo, kept, still]
        omega
      have taken := Session.takePayloadChecked_eq empty small
      simp only [noted] at taken
      rw [if_neg empty, dif_pos empty, taken]
      rfl

theorem Session.takeChecked_eq (valid : settings.check = .ok ())
    (sane : session.profile.Sane settings) (moderate : session.Moderate) {event : Framer.Event}
    (declared : ∀ packet, event = .packet packet →
      packet.payload.length = packet.header.length.toNat) :
    session.takeChecked event = .ok (session.take event) := by
  cases event with
  | checksumMismatch header => rfl
  | invalidHeader => rfl
  | packet packet =>
    simp only [Session.takeChecked, Session.take, Session.takePacket]
    cases packet.header.code.kind with
    | reset => exact session.takeResetChecked_eq packet
    | resetAck => exact session.takeAnswerChecked_eq packet
    | data => exact Session.takeDataChecked_eq valid sane moderate (declared packet rfl)

/-- The states of a session from one packet of a chunk to the next. -/
def Session.between (session : Session) : List Framer.Event → List Session
  | [] => [session]
  | event :: events => session :: (session.take event).1.between events

theorem Session.mem_between_self (session : Session) (events : List Framer.Event) :
    session ∈ session.between events := by
  cases events <;> exact List.mem_cons_self ..

theorem Session.takeAllChecked_eq (valid : settings.check = .ok ())
    (sane : session.profile.Sane settings) {events : List Framer.Event}
    (moderate : ∀ state ∈ session.between events, state.Moderate)
    (declared : ∀ packet, .packet packet ∈ events →
      packet.payload.length = packet.header.length.toNat) :
    session.takeAllChecked events = .ok (session.takeAll events) := by
  induction events generalizing session with
  | nil => rfl
  | cons event events ih =>
    obtain ⟨here, later⟩ := List.forall_mem_cons.mp moderate
    have first : session.takeChecked event = .ok (session.take event) :=
      Session.takeChecked_eq valid sane here
        fun packet same => declared packet (same ▸ List.mem_cons_self ..)
    have others : (session.take event).1.takeAllChecked events =
        .ok ((session.take event).1.takeAll events) :=
      ih sane.take later fun packet member => declared packet (List.mem_cons_of_mem _ member)
    rw [Session.takeAllChecked, first, Checked.ok_bind]
    dsimp only
    rw [others]
    rfl

theorem BufferedSession.receiveChecked_eq (valid : settings.check = .ok ())
    (sane : session.Sane settings) {framer : BufferedFramer}
    (agrees : BufferedSession.Agrees ⟨session, framer⟩) {chunk : Bytes}
    (short : chunk.length < 2 ^ 63)
    (moderate : ∀ state ∈ Session.between
      { session with framer := (session.framer.feed chunk).1 } (session.framer.feed chunk).2,
      state.Moderate) :
    ∃ framerAfter, BufferedSession.receiveChecked ⟨session, framer⟩ chunk =
        .ok (⟨(session.receive chunk).1, framerAfter⟩, (session.receive chunk).2) ∧
      BufferedSession.Agrees ⟨(session.receive chunk).1, framerAfter⟩ := by
  obtain ⟨holds, events⟩ := agrees.consume chunk
  have fed : (framer.consume chunk).1.Holds (session.framer.feed chunk).1.maxPayload
      (session.framer.feed chunk).1.phase := holds
  have raised : (framer.consume chunk).2 = (session.framer.feed chunk).2 := events
  have saneFed : Profile.Sane settings
      (Session.profile { session with framer := (session.framer.feed chunk).1 }) :=
    { sane.profile with }
  have taken := Session.takeAllChecked_eq valid saneFed moderate fun packet => sane.declared
  refine ⟨(framer.consume chunk).1, ?_, ?_⟩
  · rw [BufferedSession.receiveChecked, agrees.consumeChecked_eq (by omega), Checked.ok_bind]
    dsimp only
    rw [fed.view_eq, raised, taken]
    rfl
  · rw [BufferedSession.Agrees, session.framer_receive]
    exact fed

end agreement

end DatagramLink
