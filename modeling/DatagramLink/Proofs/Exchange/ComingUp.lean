import DatagramLink.Exchange
import DatagramLink.Proofs.Framing.Damaged
import DatagramLink.Proofs.Line.Basic
import DatagramLink.Proofs.Session.Inputs

namespace DatagramLink

section receiving

variable (session : Session)

theorem Session.takeAll_append (first second : List Framer.Event) :
    (session.takeAll (first ++ second)).1 =
      ((session.takeAll first).1.takeAll second).1 := by
  induction first generalizing session with
  | nil => rfl
  | cons event events ih => exact ih _

/-- What several chunks do is what the packets in them do. -/
theorem Session.receiveAll_eq (chunks : List Bytes) : ∃ armed,
    (session.receiveAll chunks).1 =
      (session.takeAll (session.framer.feedAll chunks).2).1.behind
        (session.framer.feedAll chunks).1 armed := by
  induction chunks generalizing session with
  | nil => exact ⟨session.rxArmed, rfl⟩
  | cons chunk chunks ih =>
    obtain ⟨early, received⟩ := session.receive_eq chunk
    obtain ⟨late, others⟩ := ih (session.receive chunk).1
    refine ⟨late, others.trans ?_⟩
    rw [session.framer_receive, received, Session.takeAll_behind]
    simp only [Framer.feedAll, Session.takeAll_append]
    rfl

end receiving

section handshake

variable {settings peerSettings : Settings} {session peer : Session} {kind : PacketKind}

theorem Handshake.length_encode_packet (handshake : Handshake) (kind : PacketKind) :
    (handshake.packet kind).encode.length = LinkParameters.size + Packet.overhead := by
  rw [Packet.length_encode]
  rfl

theorem Packet.length_encode_le {packet : Packet} (valid : settings.check = .ok ())
    (short : packet.payload.length ≤ settings.payloadLimit) :
    packet.encode.length ≤ settings.linkMtu := by
  have room : settings.linkMtu - Packet.overhead ≠ 0 := (Settings.of_check valid).1
  have within : packet.payload.length ≤ settings.linkMtu - Packet.overhead := short
  rw [Packet.length_encode]
  omega

/-- Data packets fit the link, whatever the peer said it can receive. -/
theorem Profile.Sane.length_encode (valid : settings.check = .ok ())
    (sane : session.profile.Sane settings) {departure : Session.Departure}
    (next : session.next = .ok (some departure)) :
    if departure.packet.header.code.kind = .data then
      departure.packet.encode.length ≤ settings.linkMtu
    else departure.packet.encode.length = LinkParameters.size + Packet.overhead := by
  obtain ⟨queue, regular, _⟩ := sane.regular
  have sends := Session.sends next
  generalize departure.packet = packet at sends ⊢
  generalize departure.session.profile = after at sends
  cases sends with
  | reset stage => exact session.handshake.length_encode_packet .reset
  | answer stage => exact session.handshake.length_encode_packet .resetAck
  | data stage sending =>
    have short := Cursor.length_payload_le (Sender.regular_next regular sending).2.2
    rw [if_pos (Sender.kind_of_next sending).1]
    exact Packet.length_encode_le valid (Nat.le_trans short sane.limit_le)

/-- Every end accepts what an end with valid settings advertises. -/
theorem Session.peerParameters?_packet
    (here : settings.parameters = .ok session.handshake.here)
    (there : peerSettings.parameters = .ok peer.handshake.here)
    (peerValid : peerSettings.check = .ok ()) :
    session.peerParameters? (peer.handshake.packet kind) = some peer.handshake.here := by
  obtain ⟨version, _, _⟩ := Settings.of_parameters here
  obtain ⟨peerVersion, rxMtu, window⟩ := Settings.of_parameters there
  have same : peer.handshake.here.version.major = session.handshake.here.version.major :=
    congrArg ProtocolVersion.major (peerVersion.trans version.symm)
  have single : peer.handshake.here.window = 1 := window
  have positive : peer.handshake.here.rxMtu ≠ 0 := by
    intro zero
    have advertised : peer.handshake.here.rxMtu.toNat = peerSettings.rxMtu := rxMtu
    rw [zero] at advertised
    exact (Settings.of_check peerValid).2.2.1 advertised.symm
  have read := peer.handshake.here.decode_encode []
  rw [List.append_nil] at read
  have accepted : session.handshake.here.checkPeer peer.handshake.here = .ok () := by
    rw [LinkParameters.checkPeer, if_neg (not_not.mpr same), if_neg (not_not.mpr single),
      if_neg positive]
  simp only [Session.peerParameters?, Handshake.packet, read, accepted]

/-- The packets of the handshake are read only where a payload of their size is accepted. -/
theorem Framer.feedAll_packet {framer : Framer} (kind : PacketKind)
    (here : settings.parameters = .ok session.handshake.here) {chunks : List Bytes}
    (arrives : chunks.flatten = (session.handshake.packet kind).encode)
    (waiting : framer.isWaiting = true) :
    if LinkParameters.size ≤ framer.maxPayload then
      framer.feedAll chunks = (framer, [.packet (session.handshake.packet kind)])
    else ∀ packet, .packet packet ∉ (framer.feedAll chunks).2 := by
  have phase : framer.phase = .preamble false := of_decide_eq_true waiting
  have unfinished : framer.phase.Partial := by
    rw [phase]
    exact trivial
  have version : session.handshake.here.version = .current := (Settings.of_parameters here).1
  rw [Framer.feedAll_eq_absorbAll _ unfinished, arrives, phase]
  split
  · rename_i room
    have framed : (session.handshake.packet kind).Framed framer.maxPayload := ⟨rfl, room⟩
    rw [Framer.absorbAll_intact framed]
    simp only [← phase]
  · rename_i narrow
    exact LinkParameters.harmless version rfl rfl (Nat.not_le.mp narrow) false

/-- The end that gets the reset answers it. -/
theorem Session.stage_receiveAll_reset {chunks : List Bytes} {other : LinkParameters}
    (read : session.peerParameters? (peer.handshake.packet .reset) = some other)
    (arrived : session.framer.feedAll chunks =
      (session.framer, [.packet (peer.handshake.packet .reset)])) :
    (session.receiveAll chunks).1.handshake.stage = .answering ∧
      (session.receiveAll chunks).1.handshake.here = session.handshake.here ∧
      (session.receiveAll chunks).1.sender.busy = session.sender.busy := by
  obtain ⟨armed, received⟩ := session.receiveAll_eq chunks
  have taken : session.takePacket (peer.handshake.packet .reset) =
      session.takeReset (peer.handshake.packet .reset) := rfl
  have flagged : (peer.handshake.packet .reset).header.flags.reset = true := rfl
  rw [received, arrived]
  simp only [Session.takeAll, Session.take, taken, Session.takeReset, flagged, read]
  exact ⟨rfl, rfl, rfl⟩

/-- With the answer, the end that asked is up. -/
theorem Session.stage_receiveAll_answer {chunks : List Bytes} {other : LinkParameters}
    (awaiting : session.handshake.stage = .awaiting)
    (read : session.peerParameters? (peer.handshake.packet .resetAck) = some other)
    (arrived : session.framer.feedAll chunks =
      (session.framer, [.packet (peer.handshake.packet .resetAck)])) :
    (session.receiveAll chunks).1.handshake.stage = .up := by
  obtain ⟨armed, received⟩ := session.receiveAll_eq chunks
  have taken : session.takePacket (peer.handshake.packet .resetAck) =
      session.takeAnswer (peer.handshake.packet .resetAck) := rfl
  rw [received, arrived]
  simp only [Session.takeAll, Session.take, taken, Session.takeAnswer, read, Handshake.onAnswer?,
    awaiting]
  rfl

theorem Session.next_announcing (announcing : session.handshake.stage = .announcing)
    (idle : session.sender.busy = false) :
    session.next = .ok (some (session.departHandshake (session.handshake.packet .reset)
      { session.handshake with stage := .awaiting })) := by
  simp only [Session.next, idle, Handshake.nextPacket?, announcing, Bool.false_eq_true, if_false]

theorem Session.next_answering (answering : session.handshake.stage = .answering)
    (idle : session.sender.busy = false) :
    session.next = .ok (some (session.departHandshake (session.handshake.packet .resetAck)
      { session.handshake with stage := .up })) := by
  simp only [Session.next, idle, Handshake.nextPacket?, answering, Bool.false_eq_true, if_false]

end handshake

section exchange

variable {exchange : Exchange} {side : Side}

/-- A transfer, and what it leaves behind at both ends. -/
theorem Exchange.transfer_eq {departure : Session.Departure}
    (next : (exchange.get side).next = .ok (some departure)) (size : Nat) :
    ∃ after,
      exchange.transfer side ⟨.harmless, size⟩ = .ok (some
        (⟨side, departure.packet.encode, departure.reaction,
          some ((exchange.get side.other).receiveAll
            (chunksOf size departure.packet.encode)).2⟩, after)) ∧
      after.get side = departure.session.sendDone (.ok ()) ∧
      after.get side.other =
        ((exchange.get side.other).receiveAll (chunksOf size departure.packet.encode)).1 := by
  have other : (exchange.set side (departure.session.sendDone (.ok ()))).get side.other =
      exchange.get side.other := by
    cases side <;> rfl
  simp only [Exchange.transfer, next, Damage.apply_harmless, other]
  refine ⟨_, rfl, ?_, ?_⟩
  · cases side <;> rfl
  · cases side <;> rfl

/-- Two packets that arrive bring the link up, whatever the other end was about. -/
theorem Exchange.comes_up {settings : Side → Settings}
    (valid : ∀ side, (settings side).check = .ok ())
    (here : ∀ side, (settings side).parameters = .ok (exchange.get side).handshake.here)
    (room : ∀ side, LinkParameters.size ≤ (exchange.get side).framer.maxPayload)
    (waiting : ∀ side, (exchange.get side).framer.isWaiting = true)
    (idle : ∀ side, (exchange.get side).sender.busy = false)
    (announcing : (exchange.get side).handshake.stage = .announcing) (chunk answerChunk : Nat) :
    ∃ reset answer between after,
      exchange.transfer side ⟨.harmless, chunk⟩ = .ok (some (reset, between)) ∧
      between.transfer side.other ⟨.harmless, answerChunk⟩ = .ok (some (answer, after)) ∧
      ∀ either, (after.get either).handshake.stage = .up := by
  obtain ⟨between, sent, asked, asking⟩ :=
    Exchange.transfer_eq (Session.next_announcing announcing (idle side)) chunk
  have arrived := Framer.feedAll_packet .reset (here side) (flatten_chunksOf chunk _)
    (waiting side.other)
  rw [if_pos (room side.other)] at arrived
  obtain ⟨answering, hereStill, idleStill⟩ := Session.stage_receiveAll_reset
    (Session.peerParameters?_packet (here side.other) (here side) (valid side)) arrived
  -- the other end, as it is now
  have there : (settings side.other).parameters =
      .ok (between.get side.other).handshake.here := by
    rw [asking]
    exact hereStill ▸ here side.other
  have answeringThere : (between.get side.other).handshake.stage = .answering := by
    rw [asking]
    exact answering
  have idleThere : (between.get side.other).sender.busy = false := by
    rw [asking]
    exact idleStill.trans (idle side.other)
  obtain ⟨after, returned, answered, done⟩ :=
    Exchange.transfer_eq (Session.next_answering answeringThere idleThere) answerChunk
  have back := Framer.feedAll_packet .resetAck there (flatten_chunksOf answerChunk _)
    (waiting side)
  rw [if_pos (room side)] at back
  have awaiting : (between.get side).handshake.stage = .awaiting := by
    rw [asked]
    rfl
  have framer : (between.get side).framer = (exchange.get side).framer := by
    rw [asked]
    rfl
  have hereAsked : (settings side).parameters = .ok (between.get side).handshake.here := by
    rw [asked]
    exact here side
  have up := Session.stage_receiveAll_answer awaiting
    (Session.peerParameters?_packet hereAsked there (valid side.other)) (framer ▸ back)
  refine ⟨_, _, between, after, sent, returned, fun either => ?_⟩
  rw [Side.other_other] at done
  have both : (after.get side).handshake.stage = .up ∧
      (after.get side.other).handshake.stage = .up := by
    rw [done, answered]
    exact ⟨up, rfl⟩
  cases side <;> cases either
  · exact both.1
  · exact both.2
  · exact both.2
  · exact both.1

end exchange

/-- Two ends with valid settings, whatever was done to either of them. Each end always has an answer
to what it sends next. Its data packets fit the link, and those of the handshake have 24 bytes. The
latter are read by a peer that accepts payloads of ten bytes, and no packet at all is found in them
by any other. If both ends accept that much, a reset and its answer bring the link up. -/
theorem Exchange.packets_fit_and_link_comes_up {settings : Side → Settings}
    (valid : ∀ side, (settings side).check = .ok ()) {inputs : Side → List Session.Input}
    {exchange : Exchange}
    (reached : ∀ side, (Session.ofValid (settings side) (valid side)).run (inputs side) =
      .ok (exchange.get side)) (side : Side) :
    (∃ departure?, (exchange.get side).next = .ok departure? ∧
      ∀ departure ∈ departure?,
        if departure.packet.header.code.kind = .data then
          departure.packet.encode.length ≤ (settings side).linkMtu
        else departure.packet.encode.length = 24) ∧
    (∀ kind chunks, chunks.flatten = ((exchange.get side).handshake.packet kind).encode →
      (exchange.get side.other).framer.isWaiting = true →
        if 10 ≤ (settings side.other).rxMtu then
          (exchange.get side.other).framer.feedAll chunks =
            ((exchange.get side.other).framer,
              [.packet ((exchange.get side).handshake.packet kind)])
        else ∀ packet, .packet packet ∉ ((exchange.get side.other).framer.feedAll chunks).2) ∧
    ((∀ either, 10 ≤ (settings either).rxMtu ∧ (exchange.get either).framer.isWaiting = true ∧
        (exchange.get either).sender.busy = false) →
      (exchange.get side).handshake.stage = .announcing → ∀ chunk answerChunk,
      ∃ reset answer between after,
        exchange.transfer side ⟨.harmless, chunk⟩ = .ok (some (reset, between)) ∧
        between.transfer side.other ⟨.harmless, answerChunk⟩ = .ok (some (answer, after)) ∧
        ∀ either, (after.get either).handshake.stage = .up) := by
  have sane : ∀ either, (exchange.get either).Sane (settings either) := by
    intro either
    obtain ⟨session, ran, sane⟩ :=
      (Session.sane_ofValid (valid either)).run (valid either) (inputs either)
    cases ran.symm.trans (reached either)
    exact sane
  have accepts : ∀ either,
      (exchange.get either).framer.maxPayload = (settings either).rxMtu :=
    fun either => (sane either).profile.maxPayload
  refine ⟨?_, ?_, ?_⟩
  · obtain ⟨departure?, next⟩ := (sane side).profile.next_ok (valid side)
    refine ⟨departure?, next, fun departure member => ?_⟩
    cases member
    exact (sane side).profile.length_encode (valid side) next
  · intro kind chunks arrives waiting
    have read := Framer.feedAll_packet kind (sane side).profile.here arrives waiting
    rwa [accepts side.other] at read
  · intro able announcing
    exact Exchange.comes_up valid (fun either => (sane either).profile.here)
      (fun either => (accepts either).symm ▸ (able either).1) (fun either => (able either).2.1)
      (fun either => (able either).2.2) announcing

/-- The least that leaves room for the handshake. -/
def Settings.leastLine : Settings := { Settings.serialLine with linkMtu := 24, rxMtu := 10 }

theorem Settings.check_leastLine : Settings.leastLine.check = .ok () := rfl

/-- Two ends with different settings. -/
def Settings.uneven : Side → Settings
  | .a => .serialLine
  | .b => .leastLine

theorem Settings.check_uneven (side : Side) : (Settings.uneven side).check = .ok () := by
  cases side
  · exact Settings.check_serialLine
  · exact Settings.check_leastLine

/-- Both ends asked for a reset. The one that gets the other's reset answers and forgets its own. -/
theorem link_comes_up_when_resets_cross :
    ∃ a b reset answer between after,
      (Session.ofValid .serialLine Settings.check_serialLine).run
        [.submit [1, 2, 3], .askReset] = .ok a ∧
      (Session.ofValid .leastLine Settings.check_leastLine).run
        [.reportError .busy, .askReset] = .ok b ∧
      Exchange.transfer ⟨a, b⟩ .a ⟨.harmless, 5⟩ = .ok (some (reset, between)) ∧
      between.transfer .b ⟨.harmless, 1⟩ = .ok (some (answer, after)) ∧
      after.a.handshake.stage = .up ∧ after.b.handshake.stage = .up := by
  let settings : Side → Settings := fun side =>
    match side with
    | .a => .serialLine
    | .b => .leastLine
  let inputs : Side → List Session.Input := fun side =>
    match side with
    | .a => [.submit [1, 2, 3], .askReset]
    | .b => [.reportError .busy, .askReset]
  have valid : ∀ side, (settings side).check = .ok () := by
    intro side
    cases side
    · exact Settings.check_serialLine
    · exact Settings.check_leastLine
  obtain ⟨a, ranA, waitingA, idleA, announcing⟩ : ∃ a,
      (Session.ofValid .serialLine Settings.check_serialLine).run (inputs .a) = .ok a ∧
        a.framer.isWaiting = true ∧ a.sender.busy = false ∧ a.handshake.stage = .announcing :=
    ⟨_, rfl, rfl, rfl, rfl⟩
  obtain ⟨b, ranB, waitingB, idleB⟩ : ∃ b,
      (Session.ofValid .leastLine Settings.check_leastLine).run (inputs .b) = .ok b ∧
        b.framer.isWaiting = true ∧ b.sender.busy = false :=
    ⟨_, rfl, rfl, rfl⟩
  have reached : ∀ side, (Session.ofValid (settings side) (valid side)).run (inputs side) =
      .ok (Exchange.get ⟨a, b⟩ side) := by
    intro side
    cases side
    · exact ranA
    · exact ranB
  have able : ∀ side, 10 ≤ (settings side).rxMtu ∧
      (Exchange.get ⟨a, b⟩ side).framer.isWaiting = true ∧
      (Exchange.get ⟨a, b⟩ side).sender.busy = false := by
    intro side
    cases side
    · exact ⟨by decide, waitingA, idleA⟩
    · exact ⟨by decide, waitingB, idleB⟩
  obtain ⟨reset, answer, between, after, sent, returned, up⟩ :=
    (Exchange.packets_fit_and_link_comes_up valid reached .a).2.2 able announcing 5 1
  exact ⟨a, b, reset, answer, between, after, ranA, ranB, sent, returned, up .a, up .b⟩

/-- The rules for settings overlook the handshake. A link that carries 15 bytes is given a packet of
24, and an end that accepts nine bytes of payload refuses it. -/
theorem handshake_overlooked :
    ∃ (narrow small : Settings) (valid : narrow.check = .ok ()) (smallValid : small.check = .ok ())
      (asked : Session) (departure : Session.Departure),
      narrow.linkMtu = 15 ∧ small.rxMtu = 9 ∧
      (Session.ofValid narrow valid).run [.askReset] = .ok asked ∧
      asked.next = .ok (some departure) ∧ departure.packet.encode.length = 24 ∧
      ((Session.ofValid small smallValid).framer.feed departure.packet.encode).2 =
        [.invalidHeader] := by
  refine ⟨{ Settings.serialLine with linkMtu := 15 }, { Settings.serialLine with rxMtu := 9 }, rfl,
    rfl, _, _, rfl, rfl, rfl, rfl, rfl, ?_⟩
  have waiting :
      (Session.ofValid { Settings.serialLine with rxMtu := 9 } rfl).framer.phase.Partial := trivial
  rw [Framer.feed_eq_absorbAll waiting]
  decide +kernel

end DatagramLink
