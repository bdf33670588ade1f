import DatagramLink.Proofs.Receiver.Uptake
import DatagramLink.Proofs.Sender.Emission
import DatagramLink.Session.Arrival
import DatagramLink.Session.Departure
import DatagramLink.Session.Valid

namespace DatagramLink

/-- What the two streams and the handshake of a session have come to. Countdowns, errors and
acknowledgements that wait to be sent, and how far the framer is, do not belong to it. -/
structure Profile where
  settings : Settings
  here : LinkParameters
  maxDatagram : Nat
  maxPayload : Nat
  stage : Handshake.Stage
  payloadLimit : Nat
  course : Course
  uptake : Uptake

/-- The profile of this session. -/
def Session.profile (session : Session) : Profile where
  settings := session.settings
  here := session.handshake.here
  maxDatagram := session.receiver.maxDatagram
  maxPayload := session.framer.maxPayload
  stage := session.handshake.stage
  payloadLimit := session.payloadLimit
  course := session.sender.course
  uptake := session.receiver.uptake

/-- Both streams start over. -/
def Profile.restart (profile : Profile) (stage : Handshake.Stage) : Profile :=
  { profile with
    stage
    course := { profile.course with nextSeq := 0, sent := 0, acked := 0, outstanding := none }
    uptake := .start }

/-- The peer says what it can receive. -/
def Profile.agree (profile : Profile) (peer : LinkParameters) : Profile :=
  { profile with payloadLimit := min profile.settings.payloadLimit peer.rxMtu.toNat }

theorem Reaction.datagrams_append (first second : Reaction) :
    (first ++ second).datagrams = first.datagrams ++ second.datagrams :=
  List.filterMap_append

section operations

variable (session : Session)

theorem Session.profile_reportError (error : ErrorCode) :
    (session.reportError error).profile = session.profile := by
  unfold Session.reportError
  split <;> rfl

theorem Session.profile_closeIntake : session.closeIntake.profile = session.profile := rfl

theorem Session.profile_sendDone (result : Except SendFailure Unit) :
    (session.sendDone result).profile = session.profile := rfl

theorem Session.profile_noteDamage (error : ErrorCode) :
    (session.noteDamage error).profile = session.profile := by
  unfold Session.noteDamage
  split <;> rfl

theorem Session.profile_heed (error : ErrorCode) :
    (session.heed error).profile = session.profile ∧
      (session.heed error).receiver = session.receiver := by
  unfold Session.heed
  split
  · exact ⟨by simp only [Session.profile, Sender.course_resend], rfl⟩
  · exact ⟨rfl, rfl⟩

theorem Session.profile_oweAck :
    session.oweAck.1.profile = session.profile ∧ session.oweAck.2.datagrams = [] := by
  unfold Session.oweAck
  split
  · exact ⟨by simp only [Session.profile, Sender.course_owe], rfl⟩
  · exact ⟨by simp only [Session.profile, Sender.course_owe], rfl⟩

theorem Session.profile_watchFramer :
    session.watchFramer.1.profile = session.profile ∧ session.watchFramer.2.datagrams = [] := by
  unfold Session.watchFramer
  split
  · exact ⟨rfl, rfl⟩
  · split <;> exact ⟨rfl, rfl⟩

theorem Session.profile_agree (peer : LinkParameters) :
    (session.agree peer).profile = session.profile.agree peer := rfl

theorem Session.profile_restart (handshake : Handshake)
    (same : handshake.here = session.handshake.here) :
    (session.restart handshake).1.profile = session.profile.restart handshake.stage ∧
      (session.restart handshake).2.datagrams = [] := by
  constructor
  · simp only [Session.restart, Session.profile, Profile.restart, same]
    rfl
  · simp only [Session.restart, Reaction.datagrams]
    split <;> rfl

theorem Session.profile_askReset :
    session.askReset.1.profile = session.profile.restart .announcing :=
  (session.profile_restart session.handshake.announce rfl).1

/-- A countdown changes the profile only if a reset was not answered. -/
theorem Session.profile_elapsed (countdown : Countdown) :
    (session.elapsed countdown).1.profile = session.profile ∨
      session.handshake.stage = .awaiting ∧
        (session.elapsed countdown).1.profile = { session.profile with stage := .announcing } := by
  cases countdown with
  | txTimeout =>
    refine Or.inl ?_
    unfold Session.elapsed
    cases timedOut : session.sender.timeOut? with
    | none => rfl
    | some result =>
      obtain ⟨timeouts, sender⟩ := result
      simp only [Session.profile, Sender.course_of_timeOut timedOut]
  | ackDelay =>
    refine Or.inl ?_
    simp only [Session.elapsed, Session.profile, Sender.course_ackOverdue]
  | resetRetry =>
    unfold Session.elapsed Handshake.onRetry?
    cases stage : session.handshake.stage with
    | awaiting => exact Or.inr ⟨rfl, rfl⟩
    | dormant => exact Or.inl rfl
    | announcing => exact Or.inl rfl
    | answering => exact Or.inl rfl
    | up => exact Or.inl rfl
  | rxTimeout => exact Or.inl rfl

theorem Session.of_submit {session after : Session} {datagram : Bytes}
    (submitted : session.submit datagram = .ok after) :
    datagram ≠ [] ∧ datagram.length ≤ session.settings.maxDatagram ∧
      ∃ sender, session.sender.enqueue datagram = .ok sender ∧
        after.profile = { session.profile with course := sender.course } := by
  unfold Session.submit at submitted
  split at submitted
  · cases submitted
  · split at submitted
    · cases submitted
    · split at submitted
      · cases submitted
      · rename_i nonempty fits
        split at submitted
        · cases submitted
        · rename_i sender queued
          cases submitted
          exact ⟨nonempty, Nat.not_lt.mp fits, sender, queued, rfl⟩

end operations

/-- What a packet does when it arrives: the profile after that, and the datagrams handed over. -/
inductive Session.Takes (session : Session) (packet : Packet) : Profile → List Bytes → Prop
  | ignored : session.Takes packet session.profile []
  | reset {peer : LinkParameters} {rest : Bytes} (kind : packet.header.code.kind = .reset)
      (decoded : LinkParameters.decode packet.payload = .ok (peer, rest)) :
      session.Takes packet ((session.profile.restart .answering).agree peer) []
  | answer {peer : LinkParameters} {rest : Bytes} (kind : packet.header.code.kind = .resetAck)
      (decoded : LinkParameters.decode packet.payload = .ok (peer, rest))
      (down : session.handshake.stage.isUp = false) :
      session.Takes packet ({ session.profile with stage := .up }.agree peer) []
  | data (kind : packet.header.code.kind = .data) (up : session.handshake.stage.isUp = true) :
      session.Takes packet
        { session.profile with
          course := (session.sender.acknowledge packet.header.ack).2.course
          uptake := (session.receiver.takeIn packet).2.uptake }
        (session.receiver.takeIn packet).1

theorem Session.of_peerParameters? {session : Session} {packet : Packet} {peer : LinkParameters}
    (read : session.peerParameters? packet = some peer) :
    ∃ rest, LinkParameters.decode packet.payload = .ok (peer, rest) := by
  unfold Session.peerParameters? at read
  split at read
  · cases read
  · rename_i parameters rest decoded
    split at read
    · cases read
    · cases read
      exact ⟨rest, decoded⟩

theorem Session.takes_reset (session : Session) {packet : Packet}
    (kind : packet.header.code.kind = .reset) :
    session.Takes packet (session.takeReset packet).1.profile
      (session.takeReset packet).2.datagrams := by
  unfold Session.takeReset
  split
  · exact .ignored
  · split
    · exact .ignored
    · rename_i peer read
      obtain ⟨rest, decoded⟩ := Session.of_peerParameters? read
      obtain ⟨profile, datagrams⟩ := session.profile_restart (session.handshake.onReset peer) rfl
      simp only [Session.profile_agree, profile, datagrams]
      exact .reset kind decoded

theorem Session.takes_answer (session : Session) {packet : Packet}
    (kind : packet.header.code.kind = .resetAck) :
    session.Takes packet (session.takeAnswer packet).1.profile
      (session.takeAnswer packet).2.datagrams := by
  unfold Session.takeAnswer
  split
  · exact .ignored
  · rename_i peer read
    obtain ⟨rest, decoded⟩ := Session.of_peerParameters? read
    unfold Handshake.onAnswer?
    cases stage : session.handshake.stage with
    | dormant => exact .answer kind decoded (by rw [stage]; rfl)
    | awaiting => exact .answer kind decoded (by rw [stage]; rfl)
    | announcing => exact .ignored
    | answering => exact .ignored
    | up => exact .ignored

theorem Session.profile_acknowledge (session : Session) (ack : UInt8) :
    (session.acknowledge ack).1.profile =
        { session.profile with course := (session.sender.acknowledge ack).2.course } ∧
      (session.acknowledge ack).2.datagrams = [] ∧
      (session.acknowledge ack).1.receiver = session.receiver := by
  unfold Session.acknowledge
  split <;> rename_i acknowledged <;> rw [acknowledged] <;> exact ⟨rfl, rfl, rfl⟩

theorem Session.profile_takeFragment (session : Session) (fragment : Fragment) :
    (session.takeFragment fragment).1.profile =
        { session.profile with uptake := (session.receiver.accept fragment).2.uptake } ∧
      (session.takeFragment fragment).2.datagrams =
        (session.receiver.accept fragment).1.datagrams := by
  have limit := session.receiver.maxDatagram_accept fragment
  unfold Session.takeFragment
  generalize session.receiver.accept fragment = result at limit
  obtain ⟨verdict, receiver⟩ := result
  dsimp only at limit
  have updated : { session with receiver }.profile =
      { session.profile with uptake := receiver.uptake } := by
    simp only [Session.profile, limit]
  obtain ⟨owed, quiet⟩ := Session.profile_oweAck { session with receiver }
  cases verdict with
  | buffered => exact ⟨owed.trans updated, quiet⟩
  | delivered datagram => exact ⟨owed.trans updated, rfl⟩
  | duplicate => exact ⟨updated, rfl⟩
  | outOfOrder => exact ⟨updated, rfl⟩
  | tooLarge => exact ⟨updated, rfl⟩

theorem Session.takes_data (session : Session) {packet : Packet}
    (kind : packet.header.code.kind = .data) :
    session.Takes packet (session.takeData packet).1.profile
      (session.takeData packet).2.datagrams := by
  unfold Session.takeData
  split
  · exact .ignored
  · rename_i counts
    rw [Bool.or_eq_true, not_or] at counts
    have up : session.handshake.stage.isUp = true := by
      simpa only [Handshake.isUp, Bool.not_eq_true', Bool.not_eq_false] using counts.1
    have arrival := @Session.Takes.data session packet kind up
    let noted := { session with receiver := session.receiver.note packet.header }
    obtain ⟨acked, quiet, kept⟩ := noted.profile_acknowledge packet.header.ack
    obtain ⟨heeded, keptToo⟩ :=
      (noted.acknowledge packet.header.ack).1.profile_heed packet.header.code.error
    cases carried : Fragment.ofPacket? packet with
    | none =>
      simp only [Receiver.takeIn, carried] at arrival
      simp only [heeded, acked, quiet, noted]
      exact arrival
    | some fragment =>
      obtain ⟨taken, delivered⟩ := Session.profile_takeFragment
        ((noted.acknowledge packet.header.ack).1.heed packet.header.code.error) fragment
      simp only [Receiver.takeIn, carried] at arrival
      simp only [taken, Reaction.datagrams_append, delivered, heeded, keptToo, acked, quiet, kept,
        List.nil_append, noted]
      exact arrival

theorem Session.takes (session : Session) (packet : Packet) :
    session.Takes packet (session.takePacket packet).1.profile
      (session.takePacket packet).2.datagrams := by
  unfold Session.takePacket
  cases kind : packet.header.code.kind with
  | data => exact session.takes_data kind
  | reset => exact session.takes_reset kind
  | resetAck => exact session.takes_answer kind

/-- What a session sends, and the profile after that. -/
inductive Session.Sends (session : Session) : Packet → Profile → Prop
  | reset (stage : session.handshake.stage = .announcing) :
      session.Sends (session.handshake.packet .reset) { session.profile with stage := .awaiting }
  | answer (stage : session.handshake.stage = .answering) :
      session.Sends (session.handshake.packet .resetAck) { session.profile with stage := .up }
  | data {emission : Sender.Emission} {sender : Sender} (stage : session.handshake.stage = .up)
      (sending : session.sender.next session.receiver.expected session.payloadLimit =
        .ok (some (emission, sender))) :
      session.Sends emission.packet { session.profile with course := sender.course }

theorem Session.sends {session : Session} {departure : Session.Departure}
    (next : session.next = .ok (some departure)) :
    session.Sends departure.packet departure.session.profile := by
  cases (Session.departs_of_next next).2 with
  | reset announcing => exact .reset announcing
  | answer answering => exact .answer answering
  | data up sending => exact .data up sending

/-- Of the bytes that arrive, only the packets they complete count. -/
theorem Session.profile_receive (session : Session) (chunk : Bytes) :
    (session.receive chunk).1.profile =
        (Session.takeAll { session with framer := (session.framer.feed chunk).1 }
          (session.framer.feed chunk).2).1.profile ∧
      (session.receive chunk).2.datagrams =
        (Session.takeAll { session with framer := (session.framer.feed chunk).1 }
          (session.framer.feed chunk).2).2.datagrams := by
  obtain ⟨profile, quiet⟩ := Session.profile_watchFramer
    (Session.takeAll { session with framer := (session.framer.feed chunk).1 }
      (session.framer.feed chunk).2).1
  refine ⟨profile, ?_⟩
  simp only [Session.receive, Reaction.datagrams_append, quiet, List.append_nil]

theorem Session.ofSettings_ofValid (settings : Settings) (valid : settings.check = .ok ()) :
    Session.ofSettings settings = .ok (Session.ofValid settings valid) := by
  unfold Session.ofValid
  split
  · assumption
  · rename_i fault made
    obtain ⟨session, opened⟩ := Session.ofSettings_of_valid valid
    cases made.symm.trans opened

/-- The parts of a new session. -/
theorem Session.of_ofSettings {settings : Settings} {session : Session}
    (made : Session.ofSettings settings = .ok session) :
    ∃ sender parameters, Sender.ofCapacity settings.queueLength = .ok sender ∧
      settings.parameters = .ok parameters ∧
      session = {
        settings, sender
        framer := .new settings.rxMtu
        receiver := .new settings.maxDatagram
        handshake := .new parameters
        payloadLimit := settings.payloadLimit
        accepting := true
        txArmed := false, ackArmed := false, rxArmed := false } := by
  unfold Session.ofSettings at made
  cases opened : Sender.ofCapacity settings.queueLength with
  | error => rw [opened] at made; cases made
  | ok sender =>
    cases advertised : settings.parameters with
    | error => rw [opened, advertised] at made; cases made
    | ok parameters =>
      rw [opened, advertised] at made
      injection made with same
      exact ⟨sender, parameters, rfl, rfl, same.symm⟩

theorem Session.of_ofValid (settings : Settings) (valid : settings.check = .ok ()) :
    ∃ sender parameters, Sender.ofCapacity settings.queueLength = .ok sender ∧
      settings.parameters = .ok parameters ∧
      Session.ofValid settings valid = {
        settings, sender
        framer := .new settings.rxMtu
        receiver := .new settings.maxDatagram
        handshake := .new parameters
        payloadLimit := settings.payloadLimit
        accepting := true
        txArmed := false, ackArmed := false, rxArmed := false } :=
  Session.of_ofSettings (Session.ofSettings_ofValid settings valid)

theorem Session.profile_ofValid (settings : Settings) (valid : settings.check = .ok ())
    (limit : Nat) :
    (Session.ofValid settings valid).profile.settings = settings ∧
      (Session.ofValid settings valid).profile.maxDatagram = settings.maxDatagram ∧
      (Session.ofValid settings valid).profile.stage = .dormant ∧
      (Session.ofValid settings valid).profile.uptake = .start ∧
      (Session.ofValid settings valid).profile.course.Regular limit [] ∧
      (Session.ofValid settings valid).profile.course.cursor = .start := by
  obtain ⟨sender, parameters, opened, _, made⟩ := Session.of_ofValid settings valid
  rw [made]
  exact ⟨rfl, rfl, rfl, rfl, Sender.regular_ofCapacity opened⟩

theorem Settings.of_parameters {settings : Settings} {parameters : LinkParameters}
    (advertised : settings.parameters = .ok parameters) :
    parameters.version = .current ∧ parameters.rxMtu.toNat = settings.rxMtu ∧
      parameters.window = 1 := by
  unfold Settings.parameters at advertised
  cases narrowed : narrow16 settings.rxMtu with
  | error => rw [narrowed] at advertised; cases advertised
  | ok rxMtu =>
    cases timed : narrow16 settings.txTimeout.milliseconds with
    | error => rw [narrowed, timed] at advertised; cases advertised
    | ok timeout =>
      rw [narrowed, timed] at advertised
      cases advertised
      exact ⟨rfl, toNat_of_narrow16 narrowed, rfl⟩

/-- What a new session advertises. Its framer accepts that much payload. -/
theorem Session.here_ofValid (settings : Settings) (valid : settings.check = .ok ()) :
    (Session.ofValid settings valid).profile.here.version = .current ∧
      (Session.ofValid settings valid).profile.here.rxMtu.toNat = settings.rxMtu ∧
      (Session.ofValid settings valid).profile.maxPayload = settings.rxMtu := by
  obtain ⟨sender, parameters, _, advertised, made⟩ := Session.of_ofValid settings valid
  obtain ⟨version, rxMtu, _⟩ := Settings.of_parameters advertised
  rw [made]
  exact ⟨version, rxMtu, rfl⟩

theorem Session.isUp_ofValid (settings : Settings) (valid : settings.check = .ok ()) :
    (Session.ofValid settings valid).handshake.isUp = false := by
  obtain ⟨_, _, dormant, _⟩ := Session.profile_ofValid settings valid 0
  exact congrArg Handshake.Stage.isUp dormant

end DatagramLink
