import DatagramLink.Proofs.Framing.Bytewise
import DatagramLink.Proofs.Session.Profile

namespace DatagramLink

/-- What can be done to a session. -/
inductive Session.Input where
  | submit (datagram : Bytes)
  | reportError (error : ErrorCode)
  | closeIntake
  | askReset
  | receive (chunk : Bytes)
  | elapsed (countdown : Countdown)
  /-- The next packet is taken out, if there is one. -/
  | depart
  | sendDone (result : Except SendFailure Unit)

/-- The session after that. A datagram that is refused changes nothing. -/
def Session.perform (session : Session) : Session.Input → Except Fault Session
  | .submit datagram =>
    match session.submit datagram with
    | .error _ => .ok session
    | .ok after => .ok after
  | .reportError error => .ok (session.reportError error)
  | .closeIntake => .ok session.closeIntake
  | .askReset => .ok session.askReset.1
  | .receive chunk => .ok (session.receive chunk).1
  | .elapsed countdown => .ok (session.elapsed countdown).1
  | .depart =>
    match session.next with
    | .error fault => .error fault
    | .ok none => .ok session
    | .ok (some departure) => .ok departure.session
  | .sendDone result => .ok (session.sendDone result)

theorem Session.perform_submit {session after : Session} {datagram : Bytes}
    (submitted : session.submit datagram = .ok after) :
    session.perform (.submit datagram) = .ok after := by
  rw [Session.perform, submitted]

/-- A datagram that is refused changes nothing. -/
theorem Session.of_perform_submit {session after : Session} {datagram : Bytes}
    (performed : session.perform (.submit datagram) = .ok after) :
    after = session ∨ session.submit datagram = .ok after := by
  rw [Session.perform] at performed
  split at performed <;> cases performed
  · exact Or.inl rfl
  · exact Or.inr (by assumption)

theorem Session.of_perform_depart {session after : Session}
    (performed : session.perform .depart = .ok after) :
    session.next = .ok none ∧ after = session ∨
      ∃ departure, session.next = .ok (some departure) ∧ after = departure.session := by
  rw [Session.perform] at performed
  split at performed <;> cases performed
  · exact Or.inl ⟨by assumption, rfl⟩
  · exact Or.inr ⟨_, by assumption, rfl⟩

theorem Session.perform_depart {session : Session} {departure : Departure}
    (next : session.next = .ok (some departure)) :
    session.perform .depart = .ok departure.session := by
  rw [Session.perform, next]

/-- The session after all this, in any order. -/
def Session.run (session : Session) : List Session.Input → Except Fault Session
  | [] => .ok session
  | input :: inputs => (session.perform input).bind fun after => after.run inputs

/-- The same session behind another framer. -/
def Session.behind (session : Session) (framer : Framer) (rxArmed : Bool) : Session :=
  { session with framer, rxArmed }

section framer

variable (session : Session)

section packets

variable (framer : Framer) (armed : Bool)

theorem Session.acknowledge_behind (ack : UInt8) :
    (session.behind framer armed).acknowledge ack =
      ((session.acknowledge ack).1.behind framer armed, (session.acknowledge ack).2) := by
  simp only [Session.acknowledge, Session.behind]
  generalize session.sender.acknowledge ack = result
  obtain ⟨coverage, sender⟩ := result
  cases coverage <;> rfl

theorem Session.heed_behind (error : ErrorCode) :
    (session.behind framer armed).heed error = (session.heed error).behind framer armed := by
  unfold Session.heed
  split <;> rfl

theorem Session.oweAck_behind :
    (session.behind framer armed).oweAck =
      (session.oweAck.1.behind framer armed, session.oweAck.2) := by
  simp only [Session.oweAck, Session.behind]
  cases session.settings.ackDelay <;> rfl

theorem Session.takeFragment_behind (fragment : Fragment) :
    (session.behind framer armed).takeFragment fragment =
      ((session.takeFragment fragment).1.behind framer armed,
        (session.takeFragment fragment).2) := by
  have owed (receiver : Receiver) :=
    Session.oweAck_behind { session with receiver } framer armed
  simp only [Session.behind] at owed
  simp only [Session.takeFragment, Session.behind]
  generalize session.receiver.accept fragment = result
  obtain ⟨verdict, receiver⟩ := result
  cases verdict with
  | buffered => exact owed receiver
  | delivered datagram => simp only [owed receiver]
  | duplicate => rfl
  | outOfOrder => rfl
  | tooLarge => rfl

theorem Session.takeData_behind (packet : Packet) :
    (session.behind framer armed).takeData packet =
      ((session.takeData packet).1.behind framer armed, (session.takeData packet).2) := by
  have noted : { session.behind framer armed with
      receiver := session.receiver.note packet.header } =
        Session.behind { session with receiver := session.receiver.note packet.header }
          framer armed := rfl
  unfold Session.takeData
  by_cases counts : (!session.handshake.isUp || packet.header.flags.reset) = true
  · rw [if_pos counts]
    exact if_pos counts
  · rw [if_neg counts]
    refine (if_neg counts).trans ?_
    dsimp only
    rw [show (session.behind framer armed).receiver = session.receiver from rfl, noted,
      Session.acknowledge_behind]
    dsimp only
    rw [Session.heed_behind]
    cases Fragment.ofPacket? packet with
    | none => rfl
    | some fragment => simp only [Session.takeFragment_behind]

theorem Session.takePacket_behind (packet : Packet) :
    (session.behind framer armed).takePacket packet =
      ((session.takePacket packet).1.behind framer armed, (session.takePacket packet).2) := by
  have same : (session.behind framer armed).peerParameters? packet =
      session.peerParameters? packet := rfl
  unfold Session.takePacket
  cases packet.header.code.kind with
  | data => exact session.takeData_behind framer armed packet
  | reset =>
    simp only [Session.takeReset, same]
    cases packet.header.flags.reset with
    | false => rfl
    | true => cases session.peerParameters? packet <;> rfl
  | resetAck =>
    simp only [Session.takeAnswer, same]
    cases session.peerParameters? packet with
    | none => rfl
    | some peer =>
      simp only [Session.behind]
      cases session.handshake.onAnswer? peer <;> rfl

theorem Session.noteDamage_behind (error : ErrorCode) :
    (session.behind framer armed).noteDamage error =
      (session.noteDamage error).behind framer armed := by
  unfold Session.noteDamage
  by_cases up : session.handshake.isUp = true
  · rw [if_pos up]
    exact if_pos up
  · rw [if_neg up]
    exact if_neg up

/-- What packets do has nothing to do with the framer they come from. -/
theorem Session.takeAll_behind (events : List Framer.Event) :
    (session.behind framer armed).takeAll events =
      ((session.takeAll events).1.behind framer armed, (session.takeAll events).2) := by
  induction events generalizing session with
  | nil => rfl
  | cons event events ih =>
    cases event with
    | packet packet => simp only [Session.takeAll, Session.take, Session.takePacket_behind, ih]
    | checksumMismatch header =>
      simp only [Session.takeAll, Session.take, Session.noteDamage_behind, ih]
    | invalidHeader => simp only [Session.takeAll, Session.take, Session.noteDamage_behind, ih]

end packets

theorem Session.receive_eq (chunk : Bytes) : ∃ armed,
    (session.receive chunk).1 =
      (session.takeAll (session.framer.feed chunk).2).1.behind (session.framer.feed chunk).1
        armed := by
  have fed := session.takeAll_behind (session.framer.feed chunk).1 session.rxArmed
    (session.framer.feed chunk).2
  simp only [Session.behind] at fed
  unfold Session.receive
  dsimp only
  rw [fed]
  unfold Session.watchFramer
  split
  · exact ⟨true, rfl⟩
  · split
    · exact ⟨false, rfl⟩
    · exact ⟨session.rxArmed, rfl⟩

theorem Session.framer_receive (chunk : Bytes) :
    (session.receive chunk).1.framer = (session.framer.feed chunk).1 := by
  obtain ⟨armed, received⟩ := session.receive_eq chunk
  rw [received]
  rfl

theorem Session.framer_elapsed (countdown : Countdown) :
    (session.elapsed countdown).1.framer = session.framer ∨
      (session.elapsed countdown).1.framer = session.framer.forget := by
  cases countdown with
  | txTimeout =>
    refine Or.inl ?_
    unfold Session.elapsed
    dsimp only
    split <;> rfl
  | ackDelay => exact Or.inl rfl
  | resetRetry => exact Or.inl rfl
  | rxTimeout => exact Or.inr rfl

variable {session}

theorem Session.eq_of_submit {after : Session} {datagram : Bytes}
    (submitted : session.submit datagram = .ok after) :
    ∃ queue, session.sender.queue.push datagram = .ok queue ∧
      after = { session with sender := { session.sender with queue } } := by
  unfold Session.submit at submitted
  split at submitted
  · cases submitted
  · split at submitted
    · cases submitted
    · split at submitted
      · cases submitted
      · split at submitted
        · cases submitted
        · rename_i sender queued
          cases submitted
          obtain ⟨queue, pushed, rfl⟩ := Sender.of_enqueue queued
          exact ⟨queue, pushed, rfl⟩

theorem Session.framer_submit {after : Session} {datagram : Bytes}
    (submitted : session.submit datagram = .ok after) : after.framer = session.framer := by
  obtain ⟨sender, _, rfl⟩ := Session.eq_of_submit submitted
  rfl

theorem Session.framer_next {departure : Session.Departure}
    (next : session.next = .ok (some departure)) :
    departure.session.framer = session.framer := by
  cases (Session.departs_of_next next).2 <;> rfl

end framer

/-- What is true of an end with these settings, whatever was done to it. -/
structure Profile.Sane (settings : Settings) (profile : Profile) : Prop where
  settings_eq : profile.settings = settings
  here : settings.parameters = .ok profile.here
  maxPayload : profile.maxPayload = settings.rxMtu
  capacity : profile.course.queue.capacity = settings.queueLength
  limit_le : profile.payloadLimit ≤ settings.payloadLimit
  /-- As long as the link is down, nothing is sent of the front datagram. -/
  regular : ∃ queue, profile.course.Regular profile.payloadLimit queue ∧
    (profile.stage.isUp = false → ∀ limit, profile.course.Regular limit queue)

/-- A session keeps to its settings, and its framer is in the midst of its phase. -/
structure Session.Sane (settings : Settings) (session : Session) : Prop where
  profile : session.profile.Sane settings
  unfinished : session.framer.phase.Partial
  whole : session.framer.phase.Exact

section steps

variable {settings : Settings} {session : Session}

theorem Profile.Sane.sender (sane : session.profile.Sane settings) :
    ∃ queue, session.sender.course.Regular session.payloadLimit queue := by
  obtain ⟨queue, regular, _⟩ := sane.regular
  exact ⟨queue, regular⟩

/-- What the peer says it can receive changes nothing that was sent. -/
theorem Profile.Sane.agree {profile : Profile} (sane : profile.Sane settings) {queue : List Bytes}
    (fresh : ∀ limit, profile.course.Regular limit queue) (peer : LinkParameters) :
    (profile.agree peer).Sane settings :=
  { sane with
    limit_le := sane.settings_eq ▸ Nat.min_le_left _ _
    regular := ⟨queue, fresh _, fun _ => fresh⟩ }

theorem Profile.Sane.restart {stage : Handshake.Stage} (sane : session.profile.Sane settings) :
    (session.profile.restart stage).Sane settings ∧
      ∀ peer, ((session.profile.restart stage).agree peer).Sane settings := by
  obtain ⟨queue, regular, _⟩ := sane.regular
  have again : ∀ limit, (session.profile.restart stage).course.Regular limit queue := fun limit =>
    (Sender.regular_rewind regular).1
  have restarted : (session.profile.restart stage).Sane settings :=
    { sane with regular := ⟨queue, again _, fun _ => again⟩ }
  exact ⟨restarted, restarted.agree again⟩

/-- The handshake goes on, and nothing is sent of the front datagram. -/
theorem Profile.Sane.moveOn (sane : session.profile.Sane settings)
    (down : session.handshake.stage.isUp = false) (stage : Handshake.Stage) :
    ∃ queue, (∀ limit, session.profile.course.Regular limit queue) ∧
      Profile.Sane settings { session.profile with stage } := by
  obtain ⟨queue, regular, fresh⟩ := sane.regular
  exact ⟨queue, fresh down, { sane with regular := ⟨queue, regular, fun _ => fresh down⟩ }⟩

theorem Profile.Sane.takes {packet : Packet} {profile : Profile} {datagrams : List Bytes}
    (sane : session.profile.Sane settings) (takes : session.Takes packet profile datagrams) :
    profile.Sane settings := by
  cases takes with
  | ignored => exact sane
  | reset kind decoded => exact sane.restart.2 _
  | answer kind decoded down =>
    obtain ⟨queue, fresh, up⟩ := sane.moveOn down .up
    exact up.agree fresh _
  | data kind up =>
    obtain ⟨queue, regular, _⟩ := sane.regular
    have live : session.profile.stage.isUp = true := up
    have acknowledged : ∃ left, (session.sender.acknowledge
        packet.header.ack).2.course.Regular session.profile.payloadLimit left := by
      rcases Sender.course_acknowledge regular rfl with same | ⟨_, _, counted⟩
      · exact ⟨queue, same ▸ regular⟩
      · split at counted
        · exact ⟨queue, counted.1⟩
        · exact ⟨queue.tail, counted.1⟩
    obtain ⟨left, still⟩ := acknowledged
    exact { sane with
      capacity := (session.sender.capacity_acknowledge _).trans sane.capacity
      regular := ⟨left, still, fun down => absurd live (ne_true_of_eq_false down)⟩ }

theorem Profile.Sane.sends {packet : Packet} {profile : Profile}
    (sane : session.profile.Sane settings) (sends : session.Sends packet profile) :
    profile.Sane settings := by
  obtain ⟨queue, regular, fresh⟩ := sane.regular
  cases sends with
  | reset stage =>
    obtain ⟨_, _, awaiting⟩ := sane.moveOn (congrArg Handshake.Stage.isUp stage) .awaiting
    exact awaiting
  | answer stage =>
    exact { sane with regular := ⟨queue, regular, fun down => by cases down⟩ }
  | data stage sending =>
    have live : session.profile.stage.isUp = true := congrArg Handshake.Stage.isUp stage
    exact { sane with
      capacity := (congrArg BoundedQueue.capacity (Sender.queue_next sending)).trans sane.capacity
      regular := ⟨queue, (Sender.regular_next regular sending).1,
        fun down => absurd live (ne_true_of_eq_false down)⟩ }

theorem Profile.Sane.take {event : Framer.Event} (sane : session.profile.Sane settings) :
    (session.take event).1.profile.Sane settings := by
  cases event with
  | packet packet => exact sane.takes (session.takes packet)
  | checksumMismatch header => exact (session.profile_noteDamage .checksum).symm ▸ sane
  | invalidHeader => exact (session.profile_noteDamage .header).symm ▸ sane

theorem Profile.Sane.takeAll {events : List Framer.Event} (sane : session.profile.Sane settings) :
    (session.takeAll events).1.profile.Sane settings := by
  induction events generalizing session with
  | nil => exact sane
  | cons event events ih => exact ih sane.take

theorem Profile.Sane.elapsed {countdown : Countdown} (sane : session.profile.Sane settings) :
    (session.elapsed countdown).1.profile.Sane settings := by
  rcases session.profile_elapsed countdown with same | ⟨awaiting, again⟩
  · exact same.symm ▸ sane
  · obtain ⟨_, _, announcing⟩ := sane.moveOn (congrArg Handshake.Stage.isUp awaiting) .announcing
    rwa [again]

theorem Profile.Sane.submit {datagram : Bytes} {after : Session}
    (sane : session.profile.Sane settings) (submitted : session.submit datagram = .ok after) :
    after.profile.Sane settings := by
  obtain ⟨queue, regular, fresh⟩ := sane.regular
  obtain ⟨nonempty, _, sender, queued, same⟩ := Session.of_submit submitted
  rw [same]
  exact { sane with
    capacity := (Sender.capacity_enqueue queued).trans sane.capacity
    regular := ⟨queue ++ [datagram], (Sender.regular_enqueue regular nonempty queued).1,
      fun down limit => (Sender.regular_enqueue (fresh down limit) nonempty queued).1⟩ }

/-- Packets that come from the framer of a sane session are as long as their headers say. -/
theorem Session.Sane.declared {chunk : Bytes} (sane : session.Sane settings) {packet : Packet}
    (found : .packet packet ∈ (session.framer.feed chunk).2) :
    packet.payload.length = packet.header.length.toNat := by
  rw [Framer.feed_eq_absorbAll sane.unfinished] at found
  exact (Framer.exact_absorbAll _ sane.unfinished sane.whole chunk).2 packet found

theorem Session.Sane.receive {chunk : Bytes} (sane : session.Sane settings) :
    (session.receive chunk).1.Sane settings := by
  refine ⟨?_, ?_, ?_⟩
  · rw [(session.profile_receive chunk).1]
    exact Profile.Sane.takeAll sane.profile
  · rw [session.framer_receive chunk, Framer.feed_eq_absorbAll sane.unfinished]
    exact Framer.partial_absorbAll _ sane.unfinished chunk
  · rw [session.framer_receive chunk, Framer.feed_eq_absorbAll sane.unfinished]
    exact (Framer.exact_absorbAll _ sane.unfinished sane.whole chunk).1

/-- Taking a packet out cannot fail: as much of the front datagram as was sent is still there, and
while the link is up no payload is longer than its length field can say. -/
theorem Profile.Sane.next_ok_of_small (sane : session.profile.Sane settings)
    (small : session.handshake.isUp = true → session.payloadLimit < UInt16.size) :
    ∃ departure?, session.next = .ok departure? := by
  obtain ⟨queue, regular⟩ := sane.sender
  unfold Session.next
  split
  · exact ⟨none, rfl⟩
  · split
    · exact ⟨_, rfl⟩
    · split
      · exact ⟨none, rfl⟩
      · rename_i live
        have up : session.handshake.isUp = true := by
          simpa only [Bool.not_eq_true', Bool.not_eq_false] using live
        obtain ⟨result, sending⟩ := Sender.next_ok regular (small up) session.receiver.expected
        rw [sending]
        cases result with
        | none => exact ⟨none, rfl⟩
        | some sent => exact ⟨_, rfl⟩

theorem Profile.Sane.next_ok (valid : settings.check = .ok ())
    (sane : session.profile.Sane settings) : ∃ departure?, session.next = .ok departure? :=
  sane.next_ok_of_small fun _ =>
    Nat.lt_succ_of_le (Nat.le_trans sane.limit_le (Settings.of_check valid).2.1)

theorem Session.Sane.of_framer {after : Session} (sane : session.Sane settings)
    (profile : after.profile.Sane settings) (framer : after.framer = session.framer) :
    after.Sane settings :=
  ⟨profile, framer ▸ sane.unfinished, framer ▸ sane.whole⟩

theorem Session.Sane.of_perform {input : Session.Input} {after : Session}
    (sane : session.Sane settings) (performed : session.perform input = .ok after) :
    after.Sane settings := by
  cases input with
  | submit datagram =>
    rcases Session.of_perform_submit performed with rfl | submitted
    · exact sane
    · exact sane.of_framer (sane.profile.submit submitted) (Session.framer_submit submitted)
  | reportError error =>
    cases performed
    have framer : (session.reportError error).framer = session.framer := by
      unfold Session.reportError
      split <;> rfl
    exact sane.of_framer (session.profile_reportError error ▸ sane.profile) framer
  | closeIntake =>
    cases performed
    exact sane.of_framer sane.profile rfl
  | askReset =>
    cases performed
    exact sane.of_framer (session.profile_askReset ▸ sane.profile.restart.1) rfl
  | receive chunk =>
    cases performed
    exact sane.receive
  | elapsed countdown =>
    cases performed
    rcases session.framer_elapsed countdown with same | forgotten
    · exact sane.of_framer sane.profile.elapsed same
    · exact ⟨sane.profile.elapsed, forgotten ▸ trivial, forgotten ▸ trivial⟩
  | depart =>
    rcases Session.of_perform_depart performed with ⟨_, rfl⟩ | ⟨departure, next, rfl⟩
    · exact sane
    · exact sane.of_framer (sane.profile.sends (Session.sends next)) (Session.framer_next next)
  | sendDone result =>
    cases performed
    exact sane.of_framer sane.profile rfl

/-- Only taking a packet out might fail. -/
theorem Session.perform_ok (leaves : ∃ departure?, session.next = .ok departure?)
    (input : Session.Input) : ∃ after, session.perform input = .ok after := by
  cases input with
  | submit datagram =>
    unfold Session.perform
    dsimp only
    split <;> exact ⟨_, rfl⟩
  | depart =>
    obtain ⟨departure?, next⟩ := leaves
    simp only [Session.perform, next]
    cases departure? <;> exact ⟨_, rfl⟩
  | reportError error => exact ⟨_, rfl⟩
  | closeIntake => exact ⟨_, rfl⟩
  | askReset => exact ⟨_, rfl⟩
  | receive chunk => exact ⟨_, rfl⟩
  | elapsed countdown => exact ⟨_, rfl⟩
  | sendDone result => exact ⟨_, rfl⟩

/-- Nothing that is done to a session fails, and it stays sane. -/
theorem Session.Sane.perform (valid : settings.check = .ok ()) (sane : session.Sane settings)
    (input : Session.Input) : ∃ after, session.perform input = .ok after ∧ after.Sane settings := by
  obtain ⟨after, performed⟩ := Session.perform_ok (sane.profile.next_ok valid) input
  exact ⟨after, performed, sane.of_perform performed⟩

theorem Session.Sane.run (valid : settings.check = .ok ()) (sane : session.Sane settings)
    (inputs : List Session.Input) :
    ∃ after, session.run inputs = .ok after ∧ after.Sane settings := by
  induction inputs generalizing session with
  | nil => exact ⟨session, rfl, sane⟩
  | cons input inputs ih =>
    obtain ⟨middle, performed, saneMiddle⟩ := sane.perform valid input
    obtain ⟨after, ran, saneAfter⟩ := ih saneMiddle
    refine ⟨after, ?_, saneAfter⟩
    rw [Session.run, performed]
    exact ran

theorem Session.sane_ofSettings (made : Session.ofSettings settings = .ok session) :
    session.Sane settings := by
  obtain ⟨sender, parameters, opened, advertised, rfl⟩ := Session.of_ofSettings made
  have regular : ∀ limit, sender.course.Regular limit [] := fun limit =>
    (Sender.regular_ofCapacity opened).1
  exact ⟨⟨rfl, advertised, rfl, Sender.capacity_ofCapacity opened, Nat.le_refl _, [], regular _,
    fun _ => regular⟩, trivial, trivial⟩

theorem Session.sane_ofValid (valid : settings.check = .ok ()) :
    (Session.ofValid settings valid).Sane settings :=
  Session.sane_ofSettings (Session.ofSettings_ofValid settings valid)

end steps

end DatagramLink
