import DatagramLink.Proofs.Framing.Damaged
import DatagramLink.Proofs.Line.Basic
import DatagramLink.Proofs.Session.Passing
import DatagramLink.Proofs.Session.Undergoing

namespace DatagramLink

/-- Appends the next packet to what the buffer holds, and says whether there was one. -/
def Session.write (session : Session) (buffer : Bytes) : Except Fault (Bool × Bytes × Session) :=
  match session.next with
  | .error fault => .error fault
  | .ok none => .ok (false, buffer, session)
  | .ok (some departure) => .ok (true, buffer ++ departure.packet.encode, departure.session)

/-- The packets that a session with these settings may send. -/
inductive Session.MaySend (settings : Settings) (session : Session) (packet : Packet) : Prop
  | reset {here : LinkParameters} (announcing : session.handshake.stage = .announcing)
      (own : settings.parameters = .ok here)
      (same : packet = ⟨⟨⟨false, true⟩, ⟨.reset, .none⟩, 0, 0, 10⟩, here.encode⟩)
  | answer {here : LinkParameters} (answering : session.handshake.stage = .answering)
      (own : settings.parameters = .ok here)
      (same : packet = ⟨⟨⟨false, false⟩, ⟨.resetAck, .none⟩, 0, 0, 10⟩, here.encode⟩)
  | data {peer : LinkParameters} (up : session.handshake.stage = .up)
      (known : session.handshake.peer = some peer)
      (kind : packet.header.code.kind = .data)
      (unflagged : packet.header.flags.reset = false)
      (unfinished : packet.header.flags.unfinished = true → packet.payload ≠ [])
      (reported : packet.header.code.error ≠ .timeout)
      (current : packet.header.ack = session.receiver.expected)
      (fits : packet.payload.length ≤
        min (Packet.payloadLimit settings.linkMtu) peer.rxMtu.toNat)

/-- A framer that looks for a packet and accepts that much payload finds it, and nothing else. -/
def Packet.Readable (packet : Packet) : Prop :=
  ∀ framer : Framer, framer.isWaiting = true → packet.payload.length ≤ framer.maxPayload →
    framer.feed packet.encode = (framer, [.packet packet])

theorem Packet.readable_of_declared {packet : Packet}
    (declared : packet.header.length.toNat = packet.payload.length) : packet.Readable := by
  intro framer waiting fits
  have phase : framer.phase = .preamble false := of_decide_eq_true waiting
  have unfinished : framer.phase.Partial := by
    rw [phase]
    exact trivial
  rw [Framer.feed_eq_absorbAll unfinished, phase, Framer.absorbAll_intact ⟨declared, fits⟩]
  simp only [← phase]

section sending

variable {sender after : Sender} {ack : UInt8} {limit : Nat} {emission : Sender.Emission}

/-- A datagram never goes on in the next packet behind an empty one. -/
theorem Sender.unfinished_of_next {queue : List Bytes} (regular : sender.course.Regular limit queue)
    (room : limit ≠ 0) (sending : sender.next ack limit = .ok (some (emission, after)))
    (unfinished : emission.packet.header.flags.unfinished = true) :
    emission.packet.payload ≠ [] := by
  rcases Sender.payload_of_next regular room sending with ⟨_, same, once⟩ | ⟨full, _⟩
  · -- the outstanding packet does not go out, and no packet becomes outstanding
    rcases Sender.next_causes sending with ⟨_, _, sent⟩ | ⟨packet, _, held, again, _, _⟩ |
      ⟨_, idle, _, sent⟩
    · rw [(Sender.emit_packet sent).2.2.2.1] at unfinished
      cases unfinished
    · cases (once packet held).symm.trans again
    · obtain ⟨_, _, rfl⟩ := Sender.of_emit sent
      cases same.trans idle
  · exact full

end sending

/-- No timeout is to be reported, and while the link is up the peer has said what it can receive. -/
structure Session.Presentable (session : Session) : Prop where
  report : session.sender.report ≠ .timeout
  acquainted : ∃ peer : LinkParameters, peer.rxMtu.toNat ≠ 0 ∧ session.Acquainted peer

section steps

variable {settings : Settings} {session after : Session}

theorem Session.acquainted_takePacket {peer : LinkParameters} (receives : peer.rxMtu.toNat ≠ 0)
    (acquainted : session.Acquainted peer) (packet : Packet) :
    ∃ peer : LinkParameters, peer.rxMtu.toNat ≠ 0 ∧
      (session.takePacket packet).1.Acquainted peer := by
  unfold Session.takePacket
  cases packet.header.code.kind with
  | data => exact ⟨peer, receives, acquainted.congr (session.sameLink_takeData packet)⟩
  | reset =>
    simp only [Session.takeReset]
    split
    · exact ⟨peer, receives, acquainted⟩
    · split
      · exact ⟨peer, receives, acquainted⟩
      · rename_i found read
        exact ⟨found, Session.receives_of_peerParameters? read, fun _ => rfl, fun _ => rfl⟩
  | resetAck =>
    simp only [Session.takeAnswer]
    split
    · exact ⟨peer, receives, acquainted⟩
    · rename_i found read
      split
      · exact ⟨peer, receives, acquainted⟩
      · rename_i handshake answered
        unfold Handshake.onAnswer? at answered
        split at answered <;> cases answered <;>
          exact ⟨found, Session.receives_of_peerParameters? read, fun _ => rfl, fun _ => rfl⟩

theorem Session.acquainted_takeAll {peer : LinkParameters} (receives : peer.rxMtu.toNat ≠ 0)
    (acquainted : session.Acquainted peer) (events : List Framer.Event) :
    ∃ peer : LinkParameters, peer.rxMtu.toNat ≠ 0 ∧
      (session.takeAll events).1.Acquainted peer := by
  induction events generalizing session peer with
  | nil => exact ⟨peer, receives, acquainted⟩
  | cons event events ih =>
    cases event with
    | packet packet =>
      obtain ⟨found, itReceives, met⟩ := Session.acquainted_takePacket receives acquainted packet
      exact ih itReceives met
    | checksumMismatch header =>
      exact ih receives (acquainted.congr (session.sameLink_noteDamage .checksum))
    | invalidHeader => exact ih receives (acquainted.congr (session.sameLink_noteDamage .header))

theorem Session.acquainted_perform {input : Session.Input} {peer : LinkParameters}
    (receives : peer.rxMtu.toNat ≠ 0) (acquainted : session.Acquainted peer)
    (performed : session.perform input = .ok after) :
    ∃ peer : LinkParameters, peer.rxMtu.toNat ≠ 0 ∧ after.Acquainted peer := by
  cases input with
  | receive chunk =>
    cases performed
    obtain ⟨armed, received⟩ := session.receive_eq chunk
    obtain ⟨found, itReceives, met⟩ :=
      Session.acquainted_takeAll receives acquainted (session.framer.feed chunk).2
    rw [received]
    exact ⟨found, itReceives, { met with }⟩
  | _ => exact ⟨peer, receives, acquainted.perform (fun _ _ other => by cases other) performed⟩

theorem Session.report_perform {input : Session.Input} (travels : session.sender.report ≠ .timeout)
    (performed : session.perform input = .ok after) : after.sender.report ≠ .timeout := by
  cases input with
  | submit datagram =>
    rcases Session.of_perform_submit performed with rfl | submitted
    · exact travels
    · obtain ⟨queue, _, rfl⟩ := Session.eq_of_submit submitted
      exact travels
  | reportError error =>
    cases performed
    unfold Session.reportError
    split
    · exact travels
    · assumption
  | closeIntake => cases performed; exact travels
  | askReset => cases performed; exact fun timeout => by cases timeout
  | receive chunk => cases performed; exact (session.undergoes_receive chunk).report_ne travels
  | elapsed countdown =>
    cases performed
    obtain ⟨_, _, same, _⟩ := session.sender_elapsed countdown
    rw [same]
    exact travels
  | depart =>
    rcases Session.of_perform_depart performed with ⟨_, rfl⟩ | ⟨departure, next, rfl⟩
    · exact travels
    · cases (Session.departs_of_next next).2 with
      | reset => exact travels
      | answer => exact travels
      | data up sending =>
        obtain ⟨_, _, _, _, rfl⟩ := Sender.of_next sending
        exact fun timeout => by cases timeout
  | sendDone result => cases performed; exact travels

theorem Session.Presentable.perform {input : Session.Input} (presentable : session.Presentable)
    (performed : session.perform input = .ok after) : after.Presentable := by
  obtain ⟨peer, receives, acquainted⟩ := presentable.acquainted
  exact ⟨Session.report_perform presentable.report performed,
    Session.acquainted_perform receives acquainted performed⟩

theorem Session.Presentable.run {inputs : List Session.Input} (presentable : session.Presentable)
    (ran : session.run inputs = .ok after) : after.Presentable := by
  induction inputs generalizing session with
  | nil => cases ran; exact presentable
  | cons input inputs ih =>
    rw [Session.run] at ran
    cases performed : session.perform input with
    | error => rw [performed] at ran; cases ran
    | ok middle =>
      rw [performed] at ran
      exact ih (presentable.perform performed) ran

theorem Session.presentable_ofValid (valid : settings.check = .ok ()) :
    (Session.ofValid settings valid).Presentable := by
  have down := Session.isUp_ofValid settings valid
  obtain ⟨_, rxMtu, _⟩ := Session.here_ofValid settings valid
  obtain ⟨sender, parameters, opened, _, made⟩ := Session.of_ofValid settings valid
  refine ⟨?_, (Session.ofValid settings valid).handshake.here, ?_, .of_down down⟩
  · obtain ⟨queue, _, rfl⟩ := Sender.of_ofCapacity opened
    rw [made]
    exact fun timeout => by cases timeout
  · exact fun zero => (Settings.of_check valid).2.2.1 (rxMtu.symm.trans zero)

/-- What leaves is a packet that may be sent, with its length in its header. -/
theorem Session.Presentable.maySend (presentable : session.Presentable)
    (valid : settings.check = .ok ()) (sane : session.profile.Sane settings)
    {departure : Session.Departure} (next : session.next = .ok (some departure)) :
    session.MaySend settings departure.packet ∧
      departure.packet.header.length.toNat = departure.packet.payload.length := by
  have own : settings.parameters = .ok session.handshake.here := sane.here
  cases (Session.departs_of_next next).2 with
  | reset announcing => exact ⟨.reset announcing own rfl, rfl⟩
  | answer answering => exact ⟨.answer answering own rfl, rfl⟩
  | @data emission sender stage sending =>
    obtain ⟨queue, regular⟩ := sane.sender
    obtain ⟨peer, receives, acquainted⟩ := presentable.acquainted
    have up : session.handshake.isUp = true := congrArg Handshake.Stage.isUp stage
    have same : session.settings = settings := sane.settings_eq
    have agreed : session.payloadLimit = min settings.payloadLimit peer.rxMtu.toNat :=
      same ▸ acquainted.agreed up
    have room : session.payloadLimit ≠ 0 := by
      have linkRoom : settings.payloadLimit ≠ 0 := (Settings.of_check valid).1
      omega
    obtain ⟨data, current⟩ := Sender.kind_of_next sending
    have fits := Cursor.length_payload_le (Sender.regular_next regular sending).2.2
    have reported : emission.packet.header.code.error ≠ .timeout := by
      rw [(Sender.told_of_next sending).1]
      exact presentable.report
    exact ⟨.data stage (acquainted.known up) data (Sender.unflagged_of_next regular sending)
      (Sender.unfinished_of_next regular room sending) reported current (agreed ▸ fits),
      Sender.declared_of_next sending⟩

/-- Whatever was done to a session, taking its next packet out does not fail. Without a packet,
nothing changes; otherwise exactly one is appended that may be sent, that its header describes and
that can be read back, and the link is busy. -/
theorem Session.write_proper (valid : settings.check = .ok ()) (inputs : List Session.Input)
    (buffer : Bytes) :
    ∃ session sent bytes after, (Session.ofValid settings valid).run inputs = .ok session ∧
      session.write buffer = .ok (sent, bytes, after) ∧
      (sent = false → bytes = buffer ∧ after = session) ∧
      (sent = true → ∃ packet, bytes = buffer ++ packet.encode ∧
        packet.header.length.toNat = packet.payload.length ∧ packet.Readable ∧
        session.MaySend settings packet ∧ after.sender.busy = true) := by
  obtain ⟨session, ran, sane⟩ := (Session.sane_ofValid valid).run valid inputs
  have presentable := (Session.presentable_ofValid valid).run ran
  obtain ⟨departure?, next⟩ := sane.profile.next_ok valid
  cases departure? with
  | none =>
    refine ⟨session, false, buffer, session, ran, ?_, fun _ => ⟨rfl, rfl⟩, fun sent => by cases sent⟩
    rw [Session.write, next]
  | some departure =>
    obtain ⟨may, declared⟩ := presentable.maySend valid sane.profile next
    have readable := Packet.readable_of_declared declared
    refine ⟨session, true, buffer ++ departure.packet.encode, departure.session, ran, ?_, ?_, ?_⟩
    · rw [Session.write, next]
    · exact fun sent => by cases sent
    · exact fun _ => ⟨departure.packet, rfl, declared, readable, may, (Session.busy_of_next next).2⟩

end steps

/-- The link comes up and a datagram leaves, whose acknowledgement does not come in time. -/
def overdueInputs : List Session.Input :=
  [.askReset, .receive serialReset.encode, .depart, .sendDone (.ok ()), .submit [1, 2], .depart,
    .sendDone (.ok ()), .elapsed .txTimeout]

theorem write_proper_once_more : ∃ session after packet,
    (Session.ofValid .serialLine Settings.check_serialLine).run overdueInputs = .ok session ∧
      session.write [7] = .ok (true, 7 :: (firstFragment [1, 2]).encode, after) ∧
      packet.encode = (firstFragment [1, 2]).encode ∧ session.MaySend .serialLine packet := by
  have writes : ((Session.ofValid _ Settings.check_serialLine).run overdueInputs).bind
      (fun session => (session.write [7]).map fun (sent, bytes, _) => (sent, bytes)) =
        .ok (true, 7 :: (firstFragment [1, 2]).encode) := by decide +kernel
  obtain ⟨session, sent, bytes, after, ran, wrote, _, proper⟩ :=
    Session.write_proper Settings.check_serialLine overdueInputs [7]
  rw [ran] at writes
  dsimp only [Except.bind] at writes
  rw [wrote] at writes
  obtain ⟨rfl, rfl⟩ := Prod.mk.inj (Except.ok.inj writes)
  obtain ⟨packet, written, _, _, may, _⟩ := proper rfl
  exact ⟨session, after, packet, ran, wrote, (List.cons.inj written).2.symm, may⟩

end DatagramLink
