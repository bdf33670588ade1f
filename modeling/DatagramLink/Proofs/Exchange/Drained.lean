import DatagramLink.Proofs.Exchange.Draining

namespace DatagramLink

/-- The countdown for the outstanding packet elapses, if there is such a packet. -/
def Session.hasten (session : Session) : Session :=
  if session.sender.outstanding.isSome then (session.elapsed .txTimeout).1 else session

section hasten

variable {session : Session}

theorem Session.hasten_cases (session : Session) :
    session.sender.outstanding = none ∧ session.hasten = session ∨
      ∃ packet, session.sender.outstanding = some packet ∧
        session.hasten = (session.elapsed .txTimeout).1 ∧
        session.hasten = { session with
          sender := { session.sender with
            outstanding := some { packet with resend := true, timeouts := packet.timeouts + 1 } }
          txArmed := false } := by
  unfold Session.hasten
  cases held : session.sender.outstanding with
  | none => exact Or.inl ⟨rfl, if_neg Bool.false_ne_true⟩
  | some packet =>
    refine Or.inr ⟨packet, rfl, if_pos rfl, ?_⟩
    simp only [Option.isSome_some, if_true, Session.elapsed, Sender.timeOut?, held, Option.map_some]

theorem Session.profile_hasten (session : Session) :
    session.hasten.profile = session.profile ∧ session.hasten.framer = session.framer ∧
      session.hasten.handshake = session.handshake ∧
      session.hasten.sender.busy = session.sender.busy := by
  rcases session.hasten_cases with ⟨_, same⟩ | ⟨packet, held, _, same⟩
  · rw [same]
    exact ⟨rfl, rfl, rfl, rfl⟩
  · rw [same]
    refine ⟨?_, rfl, rfl, rfl⟩
    simp only [Session.profile, Sender.course, held, Option.map_some, Outstanding.extent]

theorem Session.pressed_hasten (session peer : Session) : session.hasten.Pressed peer := by
  intro packet held
  rcases session.hasten_cases with ⟨idle, same⟩ | ⟨before, _, _, same⟩
  · rw [same, idle] at held
    cases held
  · rw [same] at held
    cases held
    exact Or.inl rfl

theorem Session.Sane.hasten {settings : Settings} (sane : session.Sane settings) :
    session.hasten.Sane settings := by
  rcases session.hasten_cases with ⟨_, same⟩ | ⟨_, _, same, _⟩
  · rwa [same]
  · rw [same]
    exact sane.of_perform (show session.perform (.elapsed .txTimeout) = _ from rfl)

theorem Session.Acquainted.hasten {parameters : LinkParameters}
    (acquainted : session.Acquainted parameters) : session.hasten.Acquainted parameters := by
  rcases session.hasten_cases with ⟨_, same⟩ | ⟨_, _, same, _⟩
  · rwa [same]
  · rw [same]
    exact acquainted.elapsed .txTimeout

end hasten

section drained

variable {settings : Side → Settings} {parameters : Side → LinkParameters} {line : Line}

/-- What is in flight when the faults are over is lost. -/
def Line.hasten (line : Line) : Exchange := ⟨line.a.session.hasten, line.b.session.hasten⟩

theorem Line.get_hasten (line : Line) (side : Side) :
    line.hasten.get side = (line.get side).session.hasten := by
  cases side <;> rfl

theorem Line.Introduced.hasten (introduced : line.Introduced settings parameters)
    (valid : ∀ side, (settings side).check = .ok ())
    (room : ∀ side, LinkParameters.size ≤ (settings side).rxMtu)
    (waiting : ∀ side, (line.get side).session.framer.isWaiting = true)
    (idle : ∀ side, (line.get side).session.sender.busy = false) :
    line.hasten.Able settings parameters := by
  refine ⟨valid, room, introduced.advertised, ?_, ?_, ?_, ?_⟩ <;> intro side <;>
    rw [Line.get_hasten]
  · exact (introduced.sane side).hasten
  · exact (introduced.acquainted side).hasten
  · rw [(Session.profile_hasten _).2.1]
    exact waiting side
  · rw [(Session.profile_hasten _).2.2.2]
    exact idle side

/-- The books of an end are opened anew with what is queued now. -/
theorem Terminal.Calm.open {here there : Terminal} (calm : here.Calm False there)
    (up : here.session.handshake.isUp = true) (peerUp : there.session.handshake.isUp = true) :
    ∃ opened,
      (∃ limit removed handed, Lane.Coherent
        ⟨here.session.profile, [], here.session.sender.queue.toList, there.session.profile, [],
          opened⟩ True limit removed handed) ∧
      (opened = [] ∨ ∃ front rest, here.session.sender.queue.toList = front :: rest ∧
        opened = [front] ∧ there.delivered.getLast? = some front) := by
  obtain ⟨limit, removed, handed, lane⟩ := calm.lane
  have holds : here.session.sender.queue.Holds (here.accepted.drop removed) := lane.regular.holds
  obtain ⟨opened, coherent, books⟩ := lane.afresh up peerUp
  rw [holds.toList_eq]
  exact ⟨opened, ⟨limit, 0, handed, coherent⟩, books⟩

/-- What stands for the two ends from now on: their books are opened anew, and whatever is
outstanding is sent again. -/
theorem Line.calm_hasten (calm : ∀ side, (line.get side).Calm False (line.get side.other))
    (up : ∀ side, (line.get side).session.handshake.isUp = true) :
    ∃ handed : Side → List Bytes,
      (∀ side, (line.hasten.terminal (fun side => (line.get side).session.sender.queue.toList)
        handed side).Calm True (line.hasten.terminal
          (fun side => (line.get side).session.sender.queue.toList) handed side.other)) ∧
      ∀ side, handed side.other = [] ∨
        ∃ front rest, (line.get side).session.sender.queue.toList = front :: rest ∧
          handed side.other = [front] ∧ (line.get side.other).delivered.getLast? = some front := by
  have new := fun side => (calm side).open (up side) (up side.other)
  choose opened lanes books using new
  have profile : ∀ side, (line.hasten.get side).profile = (line.get side).session.profile := by
    intro side
    rw [Line.get_hasten]
    exact (Session.profile_hasten _).1
  have lane : ∀ side, ∃ limit removed handed, Lane.Coherent
      ⟨(line.hasten.get side).profile, [], (line.get side).session.sender.queue.toList,
        (line.hasten.get side.other).profile, [], opened side⟩ True limit removed handed := by
    intro side
    rw [profile, profile]
    exact lanes side
  let handed := fun side : Side => opened side.other
  have crossed : ∀ side : Side, handed side.other = opened side :=
    fun side => congrArg opened side.other_other
  refine ⟨handed, fun side => ⟨?_, ?_, ?_⟩, fun side => ?_⟩
  · show (line.hasten.get side).profile.Accord (line.hasten.get side.other).profile
    rw [profile, profile]
    exact (calm side).accord
  · have forth := lane side
    rw [← crossed] at forth
    exact forth
  · have back := lane side.other
    rw [Side.other_other] at back
    exact back
  · rw [crossed]
    exact books side

/-- A packet left only when nothing was in flight, and it arrived, was damaged or got lost. As soon
as both ends are up, idle and between packets, and whatever is outstanding is sent again, a number
of turns without faults empties both queues, and then neither end has anything to send. Each
datagram is handed over once in that time, in the order of the queue; only the one in front may be
left out, which was handed over before. -/
theorem Line.drains (valid : ∀ side, (settings side).check = .ok ())
    (room : ∀ side, 10 ≤ (settings side).rxMtu)
    (prompt : ∀ side, (settings side).ackDelay = none)
    (fits : ∀ side, (settings side).maxDatagram ≤ (settings side.other).maxDatagram)
    (run : Line.Reaches Line.Single (Line.resting (valid .a) (valid .b)) line)
    (up : ∀ side, (line.get side).session.handshake.isUp = true)
    (idle : ∀ side, (line.get side).session.sender.busy = false)
    (waiting : ∀ side, (line.get side).session.framer.isWaiting = true) :
    ∃ enough, ∀ (first : Side) (sizes : List Nat), enough ≤ sizes.length →
      ∃ transfers after, line.hasten.takeTurns first sizes = .ok (transfers, after) ∧
        ∀ side, (after.get side).next = .ok none ∧
          (after.get side).sender.queue.toList = [] ∧
          (handedFrom side transfers = (line.get side).session.sender.queue.toList ∨
            ∃ front rest, (line.get side).session.sender.queue.toList = front :: rest ∧
              (line.get side.other).delivered.getLast? = some front ∧
              handedFrom side transfers = rest) := by
  obtain ⟨parameters, resting⟩ := Line.introduced_resting valid
  have able := (run.introduced resting).hasten valid room waiting idle
  have between := run.between (Line.between_resting valid fits)
  have calm : ∀ side, (line.get side).Calm False (line.get side.other) :=
    fun side => ((line.between_iff side).mp between).calm
  have stage : ∀ side, (line.get side).session.handshake.stage = .up :=
    fun side => ((calm side).accord.up (up side) (up side.other)).1
  obtain ⟨handed, settled, books⟩ := Line.calm_hasten calm up
  have draining : line.hasten.Draining settings parameters
      (fun side => (line.get side).session.sender.queue.toList) handed := by
    refine ⟨able, fun side => ?_, prompt, settled, fun side => ?_⟩
    · rw [Line.get_hasten, (Session.profile_hasten _).2.2.1]
      exact stage side
    · rw [Line.get_hasten, Line.get_hasten]
      exact Session.pressed_hasten _ _
  refine ⟨2 * line.hasten.load + 1, fun first sizes enough => ?_⟩
  obtain ⟨transfers, after, last, turns, drained, delivered, rests⟩ :=
    draining.takeTurns first sizes
  have quiet := rests (Nat.le_of_succ_le enough) fun _ => enough
  refine ⟨transfers, after, turns, fun side => ?_⟩
  obtain ⟨empty, all⟩ := drained.empty quiet side
  have whole : handed side.other ++ handedFrom side transfers =
      (line.get side).session.sender.queue.toList := (delivered side).symm.trans all
  refine ⟨quiet side, empty, ?_⟩
  rcases books side with nothing | ⟨front, rest, queue, one, before⟩
  · rw [nothing, List.nil_append] at whole
    exact Or.inl whole
  · rw [one, queue] at whole
    exact Or.inr ⟨front, rest, queue, before, (List.cons.inj whole).2⟩

/-- The acknowledgement of the first datagram is lost, and with it a datagram of the other end. -/
def lostAcknowledgementMoves : List (Side × Terminal.Move) :=
  let answer := (Session.ofValid _ Settings.check_leastLine).handshake.packet .resetAck
  [(.a, .askReset), (.a, .depart), (.b, .arrive serialReset.encode), (.a, .sendDone (.ok ())),
    (.b, .depart), (.a, .arrive answer.encode), (.b, .sendDone (.ok ())), (.a, .submit [1]),
    (.a, .submit [2]), (.b, .submit [3]), (.a, .depart),
    (.b, .arrive (firstFragment [1]).encode), (.a, .sendDone (.ok ())), (.b, .depart), (.b, .lose),
    (.b, .sendDone (.error .closed))]

theorem drains_without_acknowledgement :
    ∃ line enough,
      (Line.resting (Settings.check_uneven .a) (Settings.check_uneven .b)).run? Line.Single
        lostAcknowledgementMoves = some line ∧
      line.b.delivered = [[1]] ∧
      ∀ (first : Side) (sizes : List Nat), enough ≤ sizes.length →
        ∃ transfers after, line.hasten.takeTurns first sizes = .ok (transfers, after) ∧
          after.a.next = .ok none ∧ after.b.next = .ok none ∧
          (handedFrom .a transfers = [[1], [2]] ∨ handedFrom .a transfers = [[2]]) ∧
          handedFrom .b transfers = [[3]] := by
  have final : ((Line.resting (Settings.check_uneven .a) (Settings.check_uneven .b)).run?
      Line.Single lostAcknowledgementMoves).map (fun line =>
        [line.a, line.b].map fun terminal =>
          (terminal.session.handshake.isUp && !terminal.session.sender.busy &&
              terminal.session.framer.isWaiting,
            terminal.session.sender.queue.toList, terminal.delivered)) =
        some [(true, [[1], [2]], []), (true, [[3]], [[1]])] := by
    decide +kernel
  obtain ⟨line, run, same⟩ := Option.map_eq_some_iff.mp final
  simp only [List.map_cons, List.map_nil, List.cons.injEq, Prod.mk.injEq, and_true,
    Bool.and_eq_true, Bool.not_eq_true'] at same
  obtain ⟨⟨⟨⟨upA, idleA⟩, waitingA⟩, queueA, deliveredA⟩, ⟨⟨upB, idleB⟩, waitingB⟩, queueB,
    deliveredB⟩ := same
  have room : ∀ side, 10 ≤ (Settings.uneven side).rxMtu := by
    intro side
    cases side <;> decide
  have prompt : ∀ side, (Settings.uneven side).ackDelay = none := by
    intro side
    cases side <;> rfl
  have fits : ∀ side, (Settings.uneven side).maxDatagram ≤
      (Settings.uneven side.other).maxDatagram := by
    intro side
    cases side <;> decide
  obtain ⟨enough, drains⟩ := Line.drains Settings.check_uneven room prompt fits
    (Line.Reaches.run .start run) (Side.a.forall_of upA upB) (Side.a.forall_of idleA idleB)
    (Side.a.forall_of waitingA waitingB)
  refine ⟨line, enough, run, deliveredB, fun first sizes long => ?_⟩
  obtain ⟨transfers, after, turns, drained⟩ := drains first sizes long
  obtain ⟨quietA, _, fromA⟩ := drained .a
  obtain ⟨quietB, _, fromB⟩ := drained .b
  refine ⟨transfers, after, turns, quietA, quietB, ?_, ?_⟩
  · rcases fromA with whole | ⟨front, rest, queue, _, others⟩
    · exact Or.inl (whole.trans queueA)
    · cases queueA.symm.trans queue
      exact Or.inr others
  · rcases fromB with whole | ⟨front, rest, queue, last, others⟩
    · exact whole.trans queueB
    · rw [show (line.get Side.b.other).delivered = [] from deliveredA] at last
      cases last

end drained

end DatagramLink
