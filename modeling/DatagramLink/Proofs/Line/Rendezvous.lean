import DatagramLink.Proofs.Line.Coherence
import DatagramLink.Proofs.Session.Accord

namespace DatagramLink

/-- Bytes arrive in these chunks. -/
def Line.arriveAll? (line : Line) (side : Side) : List Bytes → Option Line
  | [] => some line
  | chunk :: chunks =>
    (line.step? side (.arrive chunk)).bind fun line => line.arriveAll? side chunks

/-- The next packet leaves, its send is done, and the other end gets these chunks of bytes. The
packet is lost if it is not among them. -/
def Line.pass? (line : Line) (side : Side) (result : Except SendFailure Unit)
    (chunks : List Bytes) : Option Line := do
  let line ← line.step? side .depart
  let line ← line.step? side (.sendDone result)
  let line ← line.arriveAll? side.other chunks
  line.step? side .lose

/-- Moves that leave the line alone. -/
def Terminal.Move.isLocal : Terminal.Move → Bool
  | .submit _ | .reportError _ | .closeIntake | .elapsed _ | .askReset => true
  | .depart | .sendDone _ | .arrive _ | .lose => false

/-- One step of a line without delay. -/
inductive Meeting where
  | act (side : Side) (move : Terminal.Move)
  | pass (side : Side) (result : Except SendFailure Unit) (chunks : List Bytes)

/-- The next state of a line without delay. Packets leave and arrive in one step or are lost. -/
def Line.meet? (line : Line) : Meeting → Option Line
  | .act side move => if move.isLocal then line.step? side move else none
  | .pass side result chunks => line.pass? side result chunks

/-- What a line without delay may come to, in any number of steps. -/
inductive Line.Meets (start : Line) : Line → Prop
  | start : start.Meets start
  | next {line after : Line} {meeting : Meeting} :
      start.Meets line → line.meet? meeting = some after → start.Meets after

/-- The state after these steps, if each of them is possible. -/
def Line.meetAll? (line : Line) : List Meeting → Option Line
  | [] => some line
  | meeting :: meetings => (line.meet? meeting).bind fun line => line.meetAll? meetings

theorem Line.Meets.all {start line after : Line} {meetings : List Meeting}
    (met : start.Meets line) (all : line.meetAll? meetings = some after) : start.Meets after := by
  induction meetings generalizing line with
  | nil =>
    cases all
    exact met
  | cons meeting meetings ih =>
    obtain ⟨next, first, rest⟩ := Option.bind_eq_some_iff.mp all
    exact ih (.next met first) rest

section sessions

variable {session : Session} {events : List Framer.Event}

/-- Errors before and after the only packet do not change what it does. -/
theorem Session.takes_of_singleton {packet : Packet}
    (single : events.filterMap Framer.Event.packet? = [packet]) :
    ∃ before : Session, before.profile = session.profile ∧
      before.Takes packet (session.takeAll events).1.profile
        (session.takeAll events).2.datagrams := by
  induction events generalizing session with
  | nil => cases single
  | cons event events ih =>
    cases event with
    | packet first =>
      obtain ⟨rfl, quiet⟩ := List.cons.inj single
      have others : (session.takeAll (.packet first :: events)).1.profile =
          (session.takePacket first).1.profile := Session.profile_takeAll_of_nil quiet
      have silent : (session.takeAll (.packet first :: events)).2.datagrams =
          (session.takePacket first).2.datagrams := by
        simp only [Session.takeAll, Session.take, Reaction.datagrams_append,
          Session.datagrams_takeAll_of_nil quiet, List.append_nil]
      rw [others, silent]
      exact ⟨session, rfl, session.takes first⟩
    | checksumMismatch header =>
      obtain ⟨before, same, takes⟩ := ih single
      exact ⟨before, same.trans (session.profile_noteDamage .checksum), takes⟩
    | invalidHeader =>
      obtain ⟨before, same, takes⟩ := ih single
      exact ⟨before, same.trans (session.profile_noteDamage .header), takes⟩

end sessions

/-- This end has taken the only packet in flight to it, or no packet at all. -/
def Terminal.Receives (here there hereAfter thereAfter : Terminal) : Prop :=
  hereAfter.inFlight = here.inFlight ∧ thereAfter.session = there.session ∧
    (thereAfter.inFlight = there.inFlight ∧
        hereAfter.session.profile = here.session.profile ∨
      ∃ packet, there.inFlight = [packet] ∧ thereAfter.inFlight = [] ∧
        ∃ (before : Session) (datagrams : List Bytes),
          before.profile = here.session.profile ∧
          before.Takes packet hereAfter.session.profile datagrams)

theorem Terminal.Does.receives {here there hereAfter thereAfter : Terminal} {bytes : Bytes}
    (does : here.Does there (.arrive bytes) hereAfter thereAfter)
    (single : there.inFlight.length ≤ 1) : here.Receives there hereAfter thereAfter := by
  cases does with
  | quiet same => exact ⟨rfl, rfl, Or.inl ⟨rfl, same⟩⟩
  | arrive same arrived taken =>
    refine ⟨rfl, rfl, ?_⟩
    cases flight : there.inFlight with
    | nil =>
      rw [flight] at arrived
      obtain ⟨quiet, rfl⟩ := of_stillInFlight?_nil arrived
      exact Or.inl ⟨rfl, taken.trans ((Session.profile_takeAll_of_nil quiet).trans same)⟩
    | cons packet others =>
      rw [flight] at single arrived
      cases others with
      | cons => simp only [List.length_cons] at single; omega
      | nil =>
        rcases of_stillInFlight?_singleton arrived with ⟨quiet, rfl⟩ | ⟨taking, rfl⟩
        · exact Or.inl ⟨rfl, taken.trans ((Session.profile_takeAll_of_nil quiet).trans same)⟩
        · obtain ⟨before, start, takes⟩ := Session.takes_of_singleton taking
          exact Or.inr ⟨packet, rfl, rfl, before, _, start.trans same, taken ▸ takes⟩

section steps

variable {line after : Line} {side : Side} {move : Terminal.Move}

theorem Line.of_pass? {result : Except SendFailure Unit} {chunks : List Bytes}
    (passed : line.pass? side result chunks = some after) :
    ∃ departed sent arrived, line.step? side .depart = some departed ∧
      departed.step? side (.sendDone result) = some sent ∧
      sent.arriveAll? side.other chunks = some arrived ∧
      arrived.step? side .lose = some after := by
  obtain ⟨departed, depart, passed⟩ := Option.bind_eq_some_iff.mp passed
  obtain ⟨sent, done, passed⟩ := Option.bind_eq_some_iff.mp passed
  obtain ⟨arrived, arrive, lose⟩ := Option.bind_eq_some_iff.mp passed
  exact ⟨departed, sent, arrived, depart, done, arrive, lose⟩

theorem Line.receives {chunks : List Bytes} (arrived : line.arriveAll? side chunks = some after)
    (single : (line.get side.other).inFlight.length ≤ 1) :
    (line.get side).Receives (line.get side.other) (after.get side) (after.get side.other) := by
  induction chunks generalizing line with
  | nil =>
    cases arrived
    exact ⟨rfl, rfl, Or.inl ⟨rfl, rfl⟩⟩
  | cons chunk chunks ih =>
    obtain ⟨next, stepped, arrived⟩ := Option.bind_eq_some_iff.mp arrived
    obtain ⟨flight, peer, first⟩ := (Line.does stepped).receives single
    rcases first with ⟨left, same⟩ | ⟨packet, held, gone, before, datagrams, start, takes⟩
    · rw [← left] at single
      obtain ⟨flightAfter, peerAfter, rest⟩ := ih arrived single
      rw [left, same] at rest
      exact ⟨flightAfter.trans flight, peerAfter.trans peer, rest⟩
    · obtain ⟨flightAfter, peerAfter, rest⟩ := ih arrived (by rw [gone]; exact Nat.zero_le _)
      -- later chunks find nothing in flight
      rcases rest with ⟨still, same⟩ | ⟨_, second, _⟩
      · refine ⟨flightAfter.trans flight, peerAfter.trans peer, Or.inr ⟨packet, held, ?_⟩⟩
        exact ⟨still.trans gone, before, datagrams, start, same ▸ takes⟩
      · cases second.symm.trans gone

end steps

/-- Between two steps nothing is in flight. -/
structure Line.AtRest (line : Line) : Prop where
  empty : line.a.inFlight = []
  peerEmpty : line.b.inFlight = []
  accord : line.a.session.profile.Accord line.b.session.profile

theorem Line.atRest_iff (line : Line) (side : Side) :
    line.AtRest ↔ (line.get side).inFlight = [] ∧ (line.get side.other).inFlight = [] ∧
      (line.get side).session.profile.Accord (line.get side.other).session.profile := by
  cases side with
  | a => exact ⟨fun rest => ⟨rest.empty, rest.peerEmpty, rest.accord⟩,
      fun ⟨empty, peerEmpty, accord⟩ => ⟨empty, peerEmpty, accord⟩⟩
  | b => exact ⟨fun rest => ⟨rest.peerEmpty, rest.empty, rest.accord.symm⟩,
      fun ⟨peerEmpty, empty, accord⟩ => ⟨empty, peerEmpty, accord.symm⟩⟩

theorem Terminal.Does.accord {here there hereAfter thereAfter : Terminal} {move : Terminal.Move}
    (does : here.Does there move hereAfter thereAfter) (alone : move.isLocal = true)
    (accord : here.session.profile.Accord there.session.profile) :
    hereAfter.inFlight = here.inFlight ∧ thereAfter = there ∧
      hereAfter.session.profile.Accord there.session.profile := by
  cases does with
  | quiet same => exact ⟨rfl, rfl, same ▸ accord⟩
  | submit submitted => exact ⟨rfl, rfl, accord.submit submitted⟩
  | send sends => cases alone
  | retry awaiting again => exact ⟨rfl, rfl, again ▸ accord.retry awaiting⟩
  | ask asked => exact ⟨rfl, rfl, asked ▸ accord.ask⟩
  | lose => cases alone
  | arrive same arrived taken => cases alone

section rest

variable {line after : Line} {side : Side} {move : Terminal.Move}

theorem Line.AtRest.act (rest : line.AtRest) (alone : move.isLocal = true)
    (stepped : line.step? side move = some after) : after.AtRest := by
  obtain ⟨empty, peerEmpty, accord⟩ := (line.atRest_iff side).mp rest
  obtain ⟨flight, peer, accordAfter⟩ := (Line.does stepped).accord alone accord
  refine (after.atRest_iff side).mpr ⟨flight.trans empty, ?_, ?_⟩
  · rw [peer]
    exact peerEmpty
  · rw [peer]
    exact accordAfter

theorem Terminal.Does.departs {here there hereAfter thereAfter : Terminal}
    (does : here.Does there .depart hereAfter thereAfter) :
    thereAfter = there ∧
      (hereAfter.inFlight = here.inFlight ∧
          hereAfter.session.profile = here.session.profile ∨
        ∃ packet, hereAfter.inFlight = here.inFlight ++ [packet] ∧
          here.session.Sends packet hereAfter.session.profile) := by
  cases does with
  | quiet same => exact ⟨rfl, Or.inl ⟨rfl, same⟩⟩
  | send sends => exact ⟨rfl, Or.inr ⟨_, rfl, sends⟩⟩

theorem Line.of_sendDone {result : Except SendFailure Unit}
    (stepped : line.step? side (.sendDone result) = some after) :
    (after.get side).inFlight = (line.get side).inFlight ∧
      (after.get side).session.profile = (line.get side).session.profile ∧
      after.get side.other = line.get side.other := by
  cases side <;> cases stepped <;> exact ⟨rfl, rfl, rfl⟩

theorem Line.of_lose (stepped : line.step? side .lose = some after) :
    (after.get side).inFlight = (line.get side).inFlight.tail ∧
      (after.get side).session = (line.get side).session ∧
      after.get side.other = line.get side.other := by
  cases side <;> cases stepped <;> exact ⟨rfl, rfl, rfl⟩

/-- What passing a packet does to the two ends, which have nothing in flight before and after. -/
theorem Line.of_passed {result : Except SendFailure Unit} {chunks : List Bytes}
    (empty : (line.get side).inFlight = []) (passed : line.pass? side result chunks = some after) :
    (after.get side).inFlight = [] ∧
      (after.get side.other).inFlight = (line.get side.other).inFlight ∧
      ((after.get side).session.profile = (line.get side).session.profile ∧
          (after.get side.other).session.profile = (line.get side.other).session.profile ∨
        ∃ packet, (line.get side).session.Sends packet (after.get side).session.profile ∧
          ((after.get side.other).session.profile = (line.get side.other).session.profile ∨
            ∃ (before : Session) (datagrams : List Bytes),
              before.profile = (line.get side.other).session.profile ∧
              before.Takes packet (after.get side.other).session.profile datagrams)) := by
  obtain ⟨departed, sent, arrived, depart, done, arrive, lose⟩ := Line.of_pass? passed
  obtain ⟨peer, leaves⟩ := (Line.does depart).departs
  obtain ⟨flightSent, profileSent, peerSent⟩ := Line.of_sendDone done
  obtain ⟨flightAfter, sessionAfter, peerAfter⟩ := Line.of_lose lose
  simp only [empty, List.nil_append] at leaves
  have single : (sent.get side).inFlight.length ≤ 1 := by
    rw [flightSent]
    rcases leaves with ⟨silent, _⟩ | ⟨packet, one, _⟩
    · rw [silent]
      exact Nat.zero_le 1
    · rw [one]
      exact Nat.le_refl 1
  have receives := Line.receives arrive (by rwa [Side.other_other])
  rw [Side.other_other] at receives
  obtain ⟨peerFlight, kept, taken⟩ := receives
  simp only [peerSent, peer, flightSent] at peerFlight taken
  rw [sessionAfter, kept, profileSent, peerAfter, flightAfter]
  rcases leaves with ⟨silent, same⟩ | ⟨packet, one, sends⟩
  · rw [silent] at taken
    rcases taken with ⟨left, unchanged⟩ | ⟨packet, impossible, _⟩
    · have nothing : (arrived.get side).inFlight.tail = [] := by rw [left]; rfl
      exact ⟨nothing, peerFlight, Or.inl ⟨same, unchanged⟩⟩
    · cases impossible
  · rw [one] at taken
    rcases taken with ⟨left, unchanged⟩ | ⟨first, held, gone, takes⟩
    · have lost : (arrived.get side).inFlight.tail = [] := by rw [left]; rfl
      exact ⟨lost, peerFlight, Or.inr ⟨packet, sends, Or.inl unchanged⟩⟩
    · cases held
      have nothing : (arrived.get side).inFlight.tail = [] := by rw [gone]; rfl
      exact ⟨nothing, peerFlight, Or.inr ⟨packet, sends, Or.inr takes⟩⟩

theorem Line.AtRest.pass {result : Except SendFailure Unit} {chunks : List Bytes}
    (rest : line.AtRest) (passed : line.pass? side result chunks = some after) :
    after.AtRest := by
  obtain ⟨empty, peerEmpty, accord⟩ := (line.atRest_iff side).mp rest
  obtain ⟨emptyAfter, peerAfter, same | ⟨packet, sends, same | taken⟩⟩ :=
    Line.of_passed empty passed
  · exact (after.atRest_iff side).mpr ⟨emptyAfter, peerAfter.trans peerEmpty,
      same.1 ▸ same.2 ▸ accord⟩
  · exact (after.atRest_iff side).mpr ⟨emptyAfter, peerAfter.trans peerEmpty,
      same ▸ accord.send sends⟩
  · obtain ⟨before, datagrams, start, takes⟩ := taken
    rw [← start] at accord
    exact (after.atRest_iff side).mpr ⟨emptyAfter, peerAfter.trans peerEmpty,
      accord.pass sends takes⟩

theorem Line.AtRest.meet {meeting : Meeting} (rest : line.AtRest)
    (met : line.meet? meeting = some after) : after.AtRest := by
  cases meeting with
  | act side move =>
    rw [Line.meet?] at met
    split at met
    · exact rest.act (by assumption) met
    · cases met
  | pass side result chunks => exact rest.pass met

/-- An end that is up finds the line settled, since the other end, if it is up, has sent its
answer. -/
theorem Line.AtRest.settled (rest : line.AtRest) (side : Side)
    (up : (line.get side).session.handshake.isUp = true) : line.Settled side := by
  obtain ⟨empty, peerEmpty, accord⟩ := (line.atRest_iff side).mp rest
  refine ⟨?_, ?_, fun waiting => ?_⟩
  · rw [empty]
    exact fun packet member => absurd member List.not_mem_nil
  · rw [peerEmpty]
    exact fun packet member => absurd member List.not_mem_nil
  · exact absurd (accord.peerAnswering waiting) (ne_false_of_eq_true up)

end rest

section runs

variable {start line after : Line} {limit removed : Nat} {handed : Bool}

theorem Line.Meets.atRest (met : start.Meets line) (rest : start.AtRest) : line.AtRest := by
  induction met with
  | start => exact rest
  | next _ step ih => exact ih.meet step

theorem Line.coherent_other {side : Side} {move : Terminal.Move}
    (coherent : line.lane.Coherent False limit removed handed)
    (stepped : line.step? side move = some after) (other : move ≠ .askReset) :
    ∃ removed handed, after.lane.Coherent False limit removed handed :=
  Line.coherent_step coherent stepped fun ask => absurd ask other

theorem Line.coherent_arriveAll {side : Side} {chunks : List Bytes}
    (coherent : line.lane.Coherent False limit removed handed)
    (arrived : line.arriveAll? side chunks = some after) :
    ∃ removed handed, after.lane.Coherent False limit removed handed := by
  induction chunks generalizing line removed handed with
  | nil =>
    cases arrived
    exact ⟨removed, handed, coherent⟩
  | cons chunk chunks ih =>
    obtain ⟨next, stepped, rest⟩ := Option.bind_eq_some_iff.mp arrived
    obtain ⟨removed, handed, first⟩ := Line.coherent_other coherent stepped (fun same => by cases same)
    exact ih first rest

theorem Line.coherent_meet {meeting : Meeting}
    (coherent : line.lane.Coherent False limit removed handed) (rest : line.AtRest)
    (met : line.meet? meeting = some after) :
    ∃ removed handed, after.lane.Coherent False limit removed handed := by
  cases meeting with
  | act side move =>
    rw [Line.meet?] at met
    split at met
    · exact Line.coherent_step coherent met fun _ up => ⟨not_false, rest.settled side up⟩
    · cases met
  | pass side result chunks =>
    obtain ⟨departed, sent, arrived, depart, done, arrive, lose⟩ := Line.of_pass? met
    obtain ⟨_, _, coherent⟩ := Line.coherent_other coherent depart (fun same => by cases same)
    obtain ⟨_, _, coherent⟩ := Line.coherent_other coherent done (fun same => by cases same)
    obtain ⟨_, _, coherent⟩ := Line.coherent_arriveAll coherent arrive
    exact Line.coherent_other coherent lose (fun same => by cases same)

theorem Line.Meets.coherent (met : start.Meets line) (rest : start.AtRest)
    (coherent : start.lane.Coherent False limit removed handed) :
    ∃ removed handed, line.lane.Coherent False limit removed handed := by
  induction met with
  | start => exact ⟨removed, handed, coherent⟩
  | next met step ih =>
    obtain ⟨removed, handed, before⟩ := ih
    exact Line.coherent_meet before (met.atRest rest) step

end runs

section agreement

variable {a b : Settings} (validA : a.check = .ok ()) (validB : b.check = .ok ())

theorem Line.atRest_started : (Line.started validA validB).AtRest where
  empty := rfl
  peerEmpty := rfl
  accord := by
    show (Session.askReset _).1.profile.Accord (Session.askReset _).1.profile
    rw [Session.profile_askReset, Session.profile_askReset]
    exact {
      fresh := fun _ => Profile.atStart_restart _ _
      peerFresh := fun _ => Profile.atStart_restart _ _
      answering := fun waiting => by cases waiting
      peerAnswering := fun waiting => by cases waiting
      agrees := fun up => by cases up }

/-- The receiver expects the number that the sender sends next, or, while a packet is outstanding,
the number of that packet or the one after it. -/
def Sender.Agrees (sender : Sender) (receiver : Receiver) : Prop :=
  match sender.outstanding with
  | none => receiver.expected = sender.nextSeq
  | some packet => receiver.expected = packet.seq ∨ receiver.expected = packet.seq + 1

theorem Course.Agrees.sender {sender : Sender} {receiver : Receiver}
    (agrees : sender.course.Agrees receiver.expected) : sender.Agrees receiver := by
  unfold Sender.Agrees
  cases held : sender.outstanding with
  | none => simpa only [Course.Agrees, Sender.course, held, Option.map_none] using agrees
  | some packet =>
    rw [Course.Agrees, Sender.extent_of_outstanding held] at agrees
    exact agrees.2

/-- Whenever both ends are up they agree on the numbers of both streams, whatever the resets, and
each datagram that end `a` has removed, and perhaps the next one, was delivered in turn, once or
several times. -/
theorem Line.Meets.agreed_and_delivered (fits : a.maxDatagram ≤ b.maxDatagram) {line : Line}
    (met : (Line.started validA validB).Meets line) :
    (line.a.session.handshake.isUp = true → line.b.session.handshake.isUp = true →
      line.a.session.sender.Agrees line.b.session.receiver ∧
        line.b.session.sender.Agrees line.a.session.receiver) ∧
      line.a.session.sender.queue.toList = line.a.accepted.drop line.a.removed ∧
      ∃ counts : List Nat, (∀ count ∈ counts, 1 ≤ count) ∧
        counts.length ≤ line.a.accepted.length ∧
        line.b.delivered = repeated counts line.a.accepted ∧
        (counts.length = line.a.removed ∨ counts.length = line.a.removed + 1) := by
  have rest := Line.atRest_started validA validB
  refine ⟨fun up peerUp => ?_, ?_⟩
  · have accord := (met.atRest rest).accord
    obtain ⟨stage, peerStage⟩ := accord.up up peerUp
    obtain ⟨agrees, peerAgrees⟩ := accord.agrees stage peerStage
    exact ⟨agrees.sender, peerAgrees.sender⟩
  · obtain ⟨limit, _, _, started⟩ := Line.coherent_started validA validB fits
    obtain ⟨removed, handed, coherent⟩ := met.coherent rest started
    obtain ⟨count, queued⟩ := coherent.removed_eq
    obtain ⟨counts, positive, bound, delivery, level⟩ := coherent.ledger.counted
    rw [count]
    exact ⟨queued, counts, positive, bound, delivery, level.imp_left And.left⟩

/-- The link is reset before the datagram is acknowledged, and the first reset is lost. -/
def repeatingMeetings : List Meeting :=
  [.act .a (.submit [1]), .pass .a (.ok ()) [serialReset.encode],
    .pass .b (.ok ()) [serialAnswer.encode], .pass .a (.ok ()) [(firstFragment [1]).encode],
    .act .a .askReset, .pass .a (.ok ()) [], .act .a (.elapsed .resetRetry),
    .pass .a (.ok ()) [serialReset.encode], .pass .b (.ok ()) [serialAnswer.encode],
    .pass .a (.ok ()) [(firstFragment [1]).encode], .pass .b (.ok ()) [firstAck.encode]]

theorem agreed_and_delivered_twice :
    ∃ line, (Line.started Settings.check_serialLine Settings.check_serialLine).meetAll?
        repeatingMeetings = some line ∧
      line.a.removed = 1 ∧ line.b.delivered = [[1], [1]] ∧
      (line.a.session.handshake.isUp = true → line.b.session.handshake.isUp = true →
        line.a.session.sender.Agrees line.b.session.receiver ∧
          line.b.session.sender.Agrees line.a.session.receiver) ∧
      line.a.session.sender.queue.toList = line.a.accepted.drop line.a.removed ∧
      ∃ counts : List Nat, (∀ count ∈ counts, 1 ≤ count) ∧
        counts.length ≤ line.a.accepted.length ∧
        line.b.delivered = repeated counts line.a.accepted ∧
        (counts.length = line.a.removed ∨ counts.length = line.a.removed + 1) := by
  have final : ((Line.started Settings.check_serialLine Settings.check_serialLine).meetAll?
      repeatingMeetings).map (fun line => (line.a.removed, line.b.delivered)) =
        some (1, [[1], [1]]) := by
    decide +kernel
  obtain ⟨line, met, same⟩ := Option.map_eq_some_iff.mp final
  exact ⟨line, met, congrArg Prod.fst same, congrArg Prod.snd same,
    Line.Meets.agreed_and_delivered Settings.check_serialLine Settings.check_serialLine
      (Nat.le_refl _) (Line.Meets.all .start met)⟩

/-- What was delivered last need not be removed yet. -/
theorem not_always_removed :
    ¬ ∀ {a b : Settings} (validA : a.check = .ok ()) (validB : b.check = .ok ()),
      10 ≤ a.rxMtu → 10 ≤ b.rxMtu → a.maxDatagram ≤ b.maxDatagram → ∀ line,
      (Line.started validA validB).Meets line →
      (line.a.session.handshake.isUp = true → line.b.session.handshake.isUp = true →
        line.a.session.sender.Agrees line.b.session.receiver ∧
          line.b.session.sender.Agrees line.a.session.receiver) ∧
      ∃ counts : List Nat, (∀ count ∈ counts, 1 ≤ count) ∧
        counts.length ≤ line.a.accepted.length ∧
        line.b.delivered = repeated counts line.a.accepted ∧ line.a.removed = counts.length := by
  intro always
  have final : ((Line.started Settings.check_serialLine Settings.check_serialLine).meetAll?
      (repeatingMeetings.take 4)).map (fun line => (line.a.removed, line.b.delivered)) =
        some (0, [[1]]) := by
    decide +kernel
  obtain ⟨line, met, same⟩ := Option.map_eq_some_iff.mp final
  obtain ⟨removed, delivered⟩ := Prod.mk.inj same
  obtain ⟨_, counts, _, _, delivery, count⟩ := always Settings.check_serialLine
    Settings.check_serialLine (by decide) (by decide) (Nat.le_refl _) line
    (Line.Meets.all .start met)
  rw [removed] at count
  rw [List.eq_nil_of_length_eq_zero count.symm, delivered] at delivery
  cases delivery

end agreement

end DatagramLink
