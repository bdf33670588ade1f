import DatagramLink.Proofs.Line.Flight
import DatagramLink.Proofs.Session.Profile

namespace DatagramLink

/-- The number that is expected fits a sender that has come this far. -/
def Course.Agrees (course : Course) (expected : UInt8) : Prop :=
  match course.outstanding with
  | none => expected = course.nextSeq
  | some (seq, _, _) => course.nextSeq = seq + 1 ∧ (expected = seq ∨ expected = seq + 1)

theorem Course.Agrees.congr {course other : Course} {expected : UInt8}
    (agrees : course.Agrees expected) (nextSeq : other.nextSeq = course.nextSeq)
    (outstanding : other.outstanding = course.outstanding) : other.Agrees expected := by
  unfold Course.Agrees at agrees ⊢
  rwa [outstanding, nextSeq]

/-- Sending may make a packet outstanding, and it does if there is payload. -/
theorem Course.Agrees.next {sender after : Sender} {ack expected : UInt8} {limit : Nat}
    {emission : Sender.Emission} (agrees : sender.course.Agrees expected)
    (sending : sender.next ack limit = .ok (some (emission, after))) :
    after.course.Agrees expected ∧
      ∀ fragment, Fragment.ofPacket? emission.packet = some fragment →
        ∃ length flags, after.course.outstanding = some (fragment.seq, length, flags) := by
  rcases Sender.next_cases sending with news | ⟨packet, payload, held, _, again⟩ |
    ⟨unsent, idle, _, first⟩
  · obtain ⟨same, _, _, _, _, empty⟩ := Sender.emit_packet news
    rw [same, Fragment.ofPacket?_of_nil empty]
    exact ⟨agrees, fun fragment carried => by cases carried⟩
  · obtain ⟨same, _, _, _, seq, _⟩ := Sender.emit_packet again
    rw [same]
    have extent := Sender.extent_of_outstanding held
    refine ⟨agrees.congr rfl extent.symm, fun fragment carried => ?_⟩
    rw [(Fragment.of_ofPacket? carried).1, seq]
    exact ⟨packet.length, packet.flags, rfl⟩
  · obtain ⟨same, _, _, _, seq, _⟩ := Sender.emit_packet first
    rw [same]
    refine ⟨⟨rfl, Or.inl ?_⟩, fun fragment carried => ?_⟩
    · simpa only [Course.Agrees, Sender.course, idle, Option.map_none] using agrees
    · rw [(Fragment.of_ofPacket? carried).1, seq]
      exact ⟨_, _, rfl⟩

/-- The number that is expected right now is good for an acknowledgement. -/
theorem Course.Agrees.acknowledge {sender : Sender} {expected : UInt8}
    (agrees : sender.course.Agrees expected) :
    (sender.acknowledge expected).2.course.Agrees expected := by
  unfold Sender.acknowledge
  split
  · exact agrees
  · rename_i packet held
    have extent := Sender.extent_of_outstanding held
    split
    · exact agrees
    · rename_i covers
      have covered : expected = packet.seq + 1 := Decidable.not_not.mp covers
      have level : sender.nextSeq = expected := by
        rw [covered]
        simp only [Course.Agrees, extent] at agrees
        exact agrees.1
      dsimp only
      split <;> exact level.symm

/-- The outstanding packet arrives. -/
theorem Course.Agrees.accept {course : Course} {receiver : Receiver} {fragment : Fragment}
    {length : Nat} {flags : Flags} (agrees : course.Agrees receiver.expected)
    (outstanding : course.outstanding = some (fragment.seq, length, flags)) :
    course.Agrees (receiver.accept fragment).2.expected := by
  simp only [Course.Agrees, outstanding] at agrees ⊢
  refine ⟨agrees.1, ?_⟩
  by_cases next : fragment.seq = receiver.expected
  · rw [Receiver.expected_accept next, next]
    exact Or.inr rfl
  · rw [(Receiver.accept_of_ne next).1]
    exact agrees.2

theorem Course.Agrees.takeIn {course : Course} {receiver : Receiver} {packet : Packet}
    (agrees : course.Agrees receiver.expected)
    (outstanding : ∀ fragment, Fragment.ofPacket? packet = some fragment →
      ∃ length flags, course.outstanding = some (fragment.seq, length, flags)) :
    course.Agrees (receiver.takeIn packet).2.expected := by
  unfold Receiver.takeIn
  cases carried : Fragment.ofPacket? packet with
  | none => exact agrees
  | some fragment =>
    obtain ⟨length, flags, held⟩ := outstanding fragment carried
    have noted : course.Agrees (receiver.note packet.header).expected := agrees
    exact noted.accept held

/-- Both streams are at their start. -/
structure AtStart (course : Course) (uptake : Uptake) : Prop where
  nextSeq : course.nextSeq = 0
  outstanding : course.outstanding = none
  expected : uptake.expected = 0

theorem AtStart.agrees {course peerCourse : Course} {uptake peerUptake : Uptake}
    (fresh : AtStart course uptake) (peerFresh : AtStart peerCourse peerUptake) :
    course.Agrees peerUptake.expected := by
  simp only [Course.Agrees, fresh.outstanding, fresh.nextSeq, peerFresh.expected]

theorem Profile.atStart_restart (profile : Profile) (stage : Handshake.Stage) :
    AtStart (profile.restart stage).course (profile.restart stage).uptake := ⟨rfl, rfl, rfl⟩

/-- Two sessions on a line without delay agree on the numbers of both streams whenever both are
up, and a session that is down, or has not sent its answer yet, is at the start of both streams.
-/
structure Profile.Accord (here there : Profile) : Prop where
  fresh : here.stage ≠ .up → AtStart here.course here.uptake
  peerFresh : there.stage ≠ .up → AtStart there.course there.uptake
  answering : here.stage = .answering → there.stage.isUp = false
  peerAnswering : there.stage = .answering → here.stage.isUp = false
  agrees : here.stage = .up → there.stage = .up →
    here.course.Agrees there.uptake.expected ∧ there.course.Agrees here.uptake.expected

variable {here there : Profile}

theorem Profile.Accord.symm (accord : here.Accord there) : there.Accord here where
  fresh := accord.peerFresh
  peerFresh := accord.fresh
  answering := accord.peerAnswering
  peerAnswering := accord.answering
  agrees := fun up peerUp => (accord.agrees peerUp up).symm

/-- Two ends that are both up have sent their answers. -/
theorem Profile.Accord.up (accord : here.Accord there) (up : here.stage.isUp = true)
    (peerUp : there.stage.isUp = true) : here.stage = .up ∧ there.stage = .up := by
  constructor
  · refine Handshake.Stage.eq_up up fun waiting => ?_
    exact absurd (accord.answering waiting) (ne_false_of_eq_true peerUp)
  · refine Handshake.Stage.eq_up peerUp fun waiting => ?_
    exact absurd (accord.peerAnswering waiting) (ne_false_of_eq_true up)

section moves

variable {session after : Session}

theorem Profile.Accord.submit {datagram : Bytes} (accord : session.profile.Accord there)
    (submitted : session.submit datagram = .ok after) : after.profile.Accord there := by
  obtain ⟨_, _, sender, queued, same⟩ := Session.of_submit submitted
  obtain ⟨queue, _, rfl⟩ := Sender.of_enqueue queued
  rw [same]
  exact {
    fresh := fun waiting =>
      have fresh := accord.fresh waiting
      ⟨fresh.nextSeq, fresh.outstanding, fresh.expected⟩
    peerFresh := accord.peerFresh
    answering := accord.answering
    peerAnswering := accord.peerAnswering
    agrees := fun up peerUp =>
      ⟨(accord.agrees up peerUp).1.congr rfl rfl, (accord.agrees up peerUp).2⟩ }

theorem Profile.Accord.retry (accord : here.Accord there) (awaiting : here.stage = .awaiting) :
    { here with stage := .announcing }.Accord there where
  fresh := fun _ => accord.fresh (by rw [awaiting]; decide)
  peerFresh := accord.peerFresh
  answering := fun waiting => by cases waiting
  peerAnswering := fun _ => rfl
  agrees := fun up => by cases up

theorem Profile.Accord.ask (accord : here.Accord there) :
    (here.restart .announcing).Accord there where
  fresh := fun _ => here.atStart_restart .announcing
  peerFresh := accord.peerFresh
  answering := fun waiting => by cases waiting
  peerAnswering := fun _ => rfl
  agrees := fun up => by cases up

/-- A packet leaves, and it is lost. -/
theorem Profile.Accord.send {packet : Packet} {profile : Profile}
    (accord : session.profile.Accord there) (sends : session.Sends packet profile) :
    profile.Accord there := by
  cases sends with
  | reset stage =>
    have fresh := accord.fresh (show session.handshake.stage ≠ .up by rw [stage]; decide)
    exact {
      fresh := fun _ => fresh
      peerFresh := accord.peerFresh
      answering := fun waiting => by cases waiting
      peerAnswering := fun _ => rfl
      agrees := fun up => by cases up }
  | answer stage =>
    have peerDown := accord.answering stage
    exact {
      fresh := fun waiting => absurd rfl waiting
      peerFresh := accord.peerFresh
      answering := fun waiting => by cases waiting
      peerAnswering := fun waiting => by rw [waiting] at peerDown; cases peerDown
      agrees := fun _ peerUp => by rw [peerUp] at peerDown; cases peerDown }
  | @data emission sender stage sending =>
    exact {
      fresh := fun waiting => absurd stage waiting
      peerFresh := accord.peerFresh
      answering := accord.answering
      peerAnswering := accord.peerAnswering
      agrees := fun up peerUp =>
        ⟨((accord.agrees up peerUp).1.next sending).1, (accord.agrees up peerUp).2⟩ }

/-- A packet leaves, and it arrives at once. -/
theorem Profile.Accord.pass {packet : Packet} {profile later : Profile} {datagrams : List Bytes}
    (accord : session.profile.Accord after.profile) (sends : session.Sends packet profile)
    (takes : after.Takes packet later datagrams) : profile.Accord later := by
  have lost := accord.send sends
  cases takes with
  | ignored => exact lost
  | reset kind decoded =>
    cases sends with
    | reset stage =>
      exact {
        fresh := lost.fresh
        peerFresh := fun _ => after.profile.atStart_restart .answering
        answering := fun waiting => by cases waiting
        peerAnswering := fun _ => rfl
        agrees := fun up => by cases up }
    | answer stage => cases kind
    | data stage sending => cases kind.symm.trans (Sender.kind_of_next sending).1
  | answer kind decoded down =>
    cases sends with
    | reset stage => cases kind
    | answer stage =>
      have fresh := accord.fresh (show session.handshake.stage ≠ .up by rw [stage]; decide)
      have peerFresh := accord.peerFresh fun up => by
        rw [show after.handshake.stage = .up from up] at down
        cases down
      exact {
        fresh := fun waiting => absurd rfl waiting
        peerFresh := fun waiting => absurd rfl waiting
        answering := fun waiting => by cases waiting
        peerAnswering := fun waiting => by cases waiting
        agrees := fun _ _ => ⟨fresh.agrees peerFresh, peerFresh.agrees fresh⟩ }
    | data stage sending => cases kind.symm.trans (Sender.kind_of_next sending).1
  | data kind up =>
    cases sends with
    | reset stage => cases kind
    | answer stage => cases kind
    | @data emission sender stage sending =>
      obtain ⟨_, peerStage⟩ := accord.up (congrArg Handshake.Stage.isUp stage) up
      obtain ⟨agrees, peerAgrees⟩ := accord.agrees stage peerStage
      obtain ⟨emitted, outstanding⟩ := agrees.next sending
      have current : emission.packet.header.ack = session.receiver.expected :=
        (Sender.kind_of_next sending).2
      have acknowledged : (after.sender.acknowledge emission.packet.header.ack).2.course.Agrees
          session.receiver.expected := by
        rw [current]
        exact peerAgrees.acknowledge
      exact {
        fresh := lost.fresh
        peerFresh := fun waiting => absurd peerStage waiting
        answering := fun waiting => by cases stage.symm.trans waiting
        peerAnswering := fun waiting => by cases peerStage.symm.trans waiting
        agrees := fun _ _ => ⟨emitted.takeIn outstanding, acknowledged⟩ }

end moves

end DatagramLink
