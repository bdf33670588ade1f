import DatagramLink.Proofs.Session.Chunking

namespace DatagramLink

/-- The bytes of a complete packet, whose checksum may be wrong and whose header may hold anything in
its reserved word. -/
structure Frame where
  raw : Bytes
  header : Header
  payload : Bytes
  footer : Bytes
  decode_raw : Header.decode raw = .ok (header, [])
  declared : header.length.toNat = payload.length
  length_footer : footer.length = Checksum.size

/-- The bytes of a frame, whose checksum may be wrong. -/
def Frame.encode (frame : Frame) : Bytes := preamble ++ frame.raw ++ frame.payload ++ frame.footer

/-- The packet that a frame stands for. -/
def Frame.packet (frame : Frame) : Packet := ⟨frame.header, frame.payload⟩

/-- The checksum is right, for the header as it was sent. -/
def Frame.isSound (frame : Frame) : Bool :=
  frame.footer = (Checksum.over frame.raw frame.payload).encode

/-- The frame that the sender of a packet makes of it. -/
def Frame.ofPacket (packet : Packet)
    (declared : packet.header.length.toNat = packet.payload.length) : Frame where
  raw := packet.header.encode
  header := packet.header
  payload := packet.payload
  footer := packet.footer.encode
  decode_raw := by simpa only [List.append_nil] using packet.header.decode_encode []
  declared
  length_footer := packet.footer.length_encode

theorem Frame.isSound_ofPacket (packet : Packet)
    (declared : packet.header.length.toNat = packet.payload.length) :
    (Frame.ofPacket packet declared).isSound = true :=
  decide_eq_true rfl

/-- The reasons for which a packet with a right checksum is of no use to a session. -/
inductive Session.Rejects (session : Session) (packet : Packet) : Prop
  | unflagged (kind : packet.header.code.kind = .reset) (flag : packet.header.flags.reset = false)
  | tooShort (kind : packet.header.code.kind ≠ .data)
      (short : packet.payload.length < LinkParameters.size)
  | incompatible {peer : LinkParameters} {rest : Bytes} (kind : packet.header.code.kind ≠ .data)
      (carried : packet.payload = peer.encode ++ rest)
      (unfit : peer.version.major ≠ ProtocolVersion.current.major ∨ peer.window ≠ 1 ∨
        peer.rxMtu = 0)
  | unasked (kind : packet.header.code.kind = .resetAck)
      (settled : session.handshake.isUp = true ∨ session.handshake.hasPacket = true)
  | tooEarly (kind : packet.header.code.kind = .data) (down : session.handshake.isUp = false)
  | flagged (kind : packet.header.code.kind = .data) (flag : packet.header.flags.reset = true)

section packets

variable {session : Session} {packet : Packet}

theorem LinkParameters.decode_of_short {bytes : Bytes} (short : bytes.length < LinkParameters.size) :
    LinkParameters.decode bytes = .error (.incomplete bytes.length) := by
  unfold LinkParameters.decode
  split
  · simp only [List.length_cons, LinkParameters.size] at short
    omega
  · rfl

theorem Session.peerParameters?_of_short (short : packet.payload.length < LinkParameters.size) :
    session.peerParameters? packet = none := by
  rw [Session.peerParameters?, LinkParameters.decode_of_short short]

/-- A peer of another major version, with another window or without room to receive is refused. -/
theorem Session.peerParameters?_of_unfit {peer : LinkParameters} {rest : Bytes}
    (version : session.handshake.here.version = .current)
    (carried : packet.payload = peer.encode ++ rest)
    (unfit : peer.version.major ≠ ProtocolVersion.current.major ∨ peer.window ≠ 1 ∨
      peer.rxMtu = 0) : session.peerParameters? packet = none := by
  have refused : ∃ cause, session.handshake.here.checkPeer peer = .error cause := by
    unfold LinkParameters.checkPeer
    rw [version]
    split
    · exact ⟨_, rfl⟩
    · rename_i major
      split
      · exact ⟨_, rfl⟩
      · rename_i window
        split
        · exact ⟨_, rfl⟩
        · rename_i room
          rcases unfit with other | wide | narrow
          · exact absurd other major
          · exact absurd wide window
          · exact absurd narrow room
  obtain ⟨cause, refused⟩ := refused
  simp only [Session.peerParameters?, carried, LinkParameters.decode_encode, refused]

theorem Session.takePacket_of_unreadable (kind : packet.header.code.kind ≠ .data)
    (unreadable : session.peerParameters? packet = none) :
    session.takePacket packet = (session, {}) := by
  unfold Session.takePacket
  cases handshake : packet.header.code.kind with
  | data => exact absurd handshake kind
  | reset =>
    simp only [Session.takeReset, unreadable]
    split <;> rfl
  | resetAck => simp only [Session.takeAnswer, unreadable]

/-- An answer counts only while the link is down and no handshake packet of this side waits. -/
theorem Handshake.onAnswer?_of_settled {handshake : Handshake}
    (settled : handshake.isUp = true ∨ handshake.hasPacket = true) (peer : LinkParameters) :
    handshake.onAnswer? peer = none := by
  unfold Handshake.onAnswer?
  split <;> rename_i stage
  · simp [Handshake.isUp, Handshake.hasPacket, stage, Handshake.Stage.isUp] at settled
  · simp [Handshake.isUp, Handshake.hasPacket, stage, Handshake.Stage.isUp] at settled
  · rfl
  · rfl
  · rfl

/-- A packet that is rejected changes nothing and asks for nothing. -/
theorem Session.Rejects.takePacket (rejects : session.Rejects packet)
    (version : session.handshake.here.version = .current) :
    session.takePacket packet = (session, {}) := by
  cases rejects with
  | unflagged kind flag => rw [Session.takePacket, kind, Session.takeReset, flag]; rfl
  | tooShort kind short =>
    exact Session.takePacket_of_unreadable kind (Session.peerParameters?_of_short short)
  | incompatible kind carried unfit =>
    exact Session.takePacket_of_unreadable kind
      (Session.peerParameters?_of_unfit version carried unfit)
  | unasked kind settled =>
    simp only [Session.takePacket, kind, Session.takeAnswer,
      Handshake.onAnswer?_of_settled settled]
    split <;> rfl
  | tooEarly kind down => rw [Session.takePacket, kind, Session.takeData, down]; rfl
  | flagged kind flag => rw [Session.takePacket, kind, Session.takeData, flag, Bool.or_true]; rfl

end packets

section frames

variable {frame : Frame}

/-- What becomes of a frame is decided by its checksum. -/
def Frame.event (frame : Frame) : Framer.Event :=
  if frame.isSound then .packet frame.packet else .checksumMismatch frame.header

theorem Header.length_of_decode {bytes rest : Bytes} {header : Header}
    (read : Header.decode bytes = .ok (header, rest)) :
    bytes.length = Header.size + rest.length := by
  unfold Header.decode at read
  split at read
  · split at read
    · cases read
    · split at read
      · cases read
      · cases read
        simp only [List.length_cons, Header.size]
        omega
  · cases read

/-- A framer that looks for a packet finds just the frame, and looks for the next one behind it. -/
theorem Frame.feedAll_eq {framer : Framer} (waiting : framer.isWaiting = true)
    (fits : frame.payload.length ≤ framer.maxPayload) {chunks : List Bytes}
    (cut : chunks.flatten = frame.encode) : framer.feedAll chunks = (framer, [frame.event]) := by
  have phase : framer.phase = .preamble false := of_decide_eq_true waiting
  have unfinished : framer.phase.Partial := by
    rw [phase]
    exact trivial
  have parts : frame.encode =
      preamble ++ (frame.raw ++ (frame.payload ++ (frame.footer ++ []))) := by
    simp only [Frame.encode, List.append_assoc, List.append_nil]
  have event : Framer.verdict frame.raw frame.header frame.payload frame.footer = frame.event := by
    simp only [Framer.verdict_eq, Frame.event, Frame.isSound, Frame.packet, decide_eq_true_eq]
  have found : behindDelimiter? (preamble ++
      (frame.raw ++ (frame.payload ++ (frame.footer ++ [])))) =
        some (frame.raw ++ (frame.payload ++ (frame.footer ++ []))) := rfl
  have absorbed := Framer.absorbAll_frame frame.decode_raw (Header.length_of_decode frame.decode_raw)
    frame.declared.symm frame.length_footer fits []
  rw [Framer.feedAll_eq_absorbAll _ unfinished, cut, phase, parts,
    Framer.absorbAll_found framer.maxPayload found, absorbed, event]
  simp only [Framer.absorbAll, ← phase]

/-- The frames that a session makes nothing of. -/
inductive Session.Ignores (session : Session) (frame : Frame) : Prop
  | rejected (sound : frame.isSound = true) (rejects : session.Rejects frame.packet)
  | damaged (unsound : frame.isSound = false) (down : session.handshake.isUp = false)

theorem Session.Ignores.take {session : Session} (ignores : session.Ignores frame)
    (version : session.handshake.here.version = .current) :
    session.take frame.event = (session, {}) := by
  unfold Frame.event
  cases ignores with
  | rejected sound rejects =>
    rw [if_pos sound]
    exact rejects.takePacket version
  | damaged unsound down =>
    rw [if_neg (ne_true_of_eq_false unsound), Session.take, Session.noteDamage, down]
    rfl

end frames

section runs

variable {settings : Settings} {initial session : Session} {inputs : List Session.Input}
  {frame : Frame}

/-- A frame that a session ignores leaves no trace. Whatever was done to the session before and
however the frame is cut: the session is as it was, looks for the next packet again and asks for
nothing, apart from the countdown for a partly received packet. -/
theorem Session.no_trace_of_ignored (made : Session.ofSettings settings = .ok initial)
    (ran : initial.run inputs = .ok session) (waiting : session.framer.isWaiting = true)
    (ignores : session.Ignores frame) (fits : frame.payload.length ≤ settings.rxMtu)
    {chunks : List Bytes} (cut : chunks.flatten = frame.encode) :
    (session.receiveAll chunks).1 = session ∧
      (session.receiveAll chunks).2.reaction.lasting = {} ∧
      (session.receiveAll chunks).2.waiting.getLast? = some true := by
  have sane := (Session.sane_ofSettings made).of_run ran
  have watching := Session.watching_of_run made ran
  have maxPayload : session.framer.maxPayload = settings.rxMtu := sane.profile.maxPayload
  have version : session.handshake.here.version = .current :=
    (Settings.of_parameters sane.profile.here).1
  obtain ⟨state, lasting, flag⟩ := Session.receiveAll_framed watching chunks
  rw [Frame.feedAll_eq waiting (maxPayload ▸ fits) cut] at state lasting flag
  have taken : session.takeAll [frame.event] = (session, {}) := by
    simp only [Session.takeAll, ignores.take version, Reaction.append_empty]
  rw [taken] at state lasting
  have nonempty : chunks ≠ [] := by
    rintro rfl
    cases cut
  refine ⟨?_, lasting, (flag nonempty).trans (congrArg some waiting)⟩
  rw [state, ← watching]
  rfl

end runs

/-- The reset of a peer that speaks the next version of the protocol. -/
def foreignReset : Frame :=
  .ofPacket ⟨⟨⟨false, true⟩, ⟨.reset, .none⟩, 0, 0, 10⟩,
    LinkParameters.encode ⟨⟨2, 0, 0⟩, 1024, 1, 1000⟩⟩ rfl

/-- It arrives byte by byte while the link is up and a packet is outstanding. -/
theorem no_trace_of_foreignReset :
    ∃ session, (Session.ofValid _ Settings.check_serialLine).run
        (.askReset :: waitingInputs.dropLast) = .ok session ∧
      session.handshake.isUp = true ∧ session.sender.outstanding.isSome = true ∧
      session.framer.isWaiting = true ∧ session.Ignores foreignReset ∧
      (session.receiveAll (chunksOf 1 foreignReset.encode)).1 = session ∧
      (session.receiveAll (chunksOf 1 foreignReset.encode)).2.reaction.lasting = {} := by
  have made := Session.ofSettings_ofValid _ Settings.check_serialLine
  have stands : ((Session.ofValid _ Settings.check_serialLine).run
      (.askReset :: waitingInputs.dropLast)).map (fun session => (session.handshake.isUp,
        session.sender.outstanding.isSome, session.framer.isWaiting)) =
          .ok (true, true, true) := by decide +kernel
  cases ran : (Session.ofValid _ Settings.check_serialLine).run
      (.askReset :: waitingInputs.dropLast) with
  | error => rw [ran] at stands; cases stands
  | ok session =>
    rw [ran] at stands
    obtain ⟨up, rest⟩ := Prod.mk.inj (Except.ok.inj stands)
    obtain ⟨outstanding, waiting⟩ := Prod.mk.inj rest
    have sound : foreignReset.isSound = true := Frame.isSound_ofPacket _ _
    have rejects : session.Rejects foreignReset.packet :=
      .incompatible (by decide) (List.append_nil _).symm (.inl (by decide))
    have ignores : session.Ignores foreignReset := .rejected sound rejects
    have fits : foreignReset.payload.length ≤ Settings.serialLine.rxMtu :=
      Nat.le_of_ble_eq_true rfl
    obtain ⟨same, quiet, _⟩ := Session.no_trace_of_ignored made ran waiting ignores fits
      (flatten_chunksOf 1 _)
    exact ⟨session, rfl, up, outstanding, waiting, ignores, same, quiet⟩

end DatagramLink
