import DatagramLink.Proofs.Endpoint.Expiries

namespace DatagramLink

/-- A packet with payload is outstanding and there is nothing else to tell the peer. -/
structure Session.Stalled (session : Session) : Prop where
  up : session.handshake.stage = .up
  idle : session.sender.busy = false
  settled : session.sender.acknowledgement = .settled
  quiet : session.sender.report = .none
  free : session.ackArmed = false
  held : ∃ packet payload built, session.sender.outstanding = some packet ∧
    packet.resend = false ∧ session.sender.heldPayload packet = .ok payload ∧
      Packet.build packet.flags ⟨.data, .none⟩ session.receiver.expected packet.seq payload =
        .ok built ∧ built.header.length ≠ 0

section stalled

variable {session : Session}

theorem Session.Stalled.next (stalled : session.Stalled) : session.next = .ok none := by
  obtain ⟨packet, _, _, held, once, _⟩ := stalled.held
  have noNews : session.sender.hasNews = false := by
    simp [Sender.hasNews, stalled.settled, stalled.quiet]
  simp only [Session.next, stalled.idle, Handshake.nextPacket?, Handshake.isUp, stalled.up,
    Sender.next, held, once, Sender.emitNews, noNews, Handshake.Stage.isUp, Bool.false_eq_true,
    if_false, Bool.not_true]

/-- The packet goes out again after a timeout, and then it is as it was before. -/
theorem Session.Stalled.again (stalled : session.Stalled) : ∃ departure,
    (session.elapsed .txTimeout).1.next = .ok (some departure) ∧
      departure.reaction.orders = [.start .txTimeout] ∧
      (departure.session.sendDone (.ok ())).Stalled := by
  obtain ⟨packet, payload, built, held, once, taken, written, long⟩ := stalled.held
  let late : Outstanding := { packet with resend := true, timeouts := packet.timeouts + 1 }
  let sent : Sender := { session.sender with
    outstanding := some { late with resend := false }
    sentAck := session.receiver.expected, acknowledgement := .settled, report := .none, busy := true }
  let emission : Sender.Emission := ⟨built, true⟩
  let expired := (session.elapsed .txTimeout).1
  have elapsed : expired = { session with
      sender := { session.sender with outstanding := some late }, txArmed := false } := by
    simp only [expired, Session.elapsed, Sender.timeOut?, held, Option.map_some, late]
  have emitted : expired.sender.next expired.receiver.expected expired.payloadLimit =
      .ok (some (emission, sent)) := by
    have again : Sender.heldPayload { session.sender with outstanding := some late } late =
        .ok payload := taken
    rw [elapsed]
    simp only [Sender.next, stalled.idle, Bool.false_eq_true, if_false, late, if_true,
      Sender.emitAgain] at again ⊢
    rw [again]
    show Sender.emit _ _ _ _ _ _ = _
    rw [Sender.emit, stalled.quiet]
    show (Packet.build packet.flags ⟨.data, .none⟩ _ packet.seq payload >>= _) = _
    rw [written]
    rfl
  have left : expired.next = .ok (some (expired.departData emission sent)) := by
    have idle : expired.sender.busy = false := by rw [elapsed]; exact stalled.idle
    have up : expired.handshake.stage = .up := by rw [elapsed]; exact stalled.up
    rw [Session.next, idle, Handshake.nextPacket?, Handshake.isUp, up, emitted]
    rfl
  refine ⟨_, left, ?_, ?_⟩
  · have payload : emission.carriesPayload = true := decide_eq_true long
    simp only [Session.departData, elapsed, payload, stalled.free, Bool.and_false, Bool.not_false,
      Bool.and_self, if_true, Bool.false_eq_true, if_false, List.append_nil]
  · rw [elapsed]
    exact ⟨stalled.up, rfl, rfl, rfl, rfl, _, payload, built, rfl, rfl, taken, written, long⟩

end stalled

/-- The worker waits for signals, and the countdown for an acknowledgement runs. -/
structure Interplay.Stalled (play : Interplay) : Prop where
  waiting : play.stage = .waiting
  empty : play.endpoint.inbox = []
  running : play.endpoint.running = true
  unhurried : play.endpoint.deadline = none
  armed : (play.endpoint.timers.get .txTimeout).armed = true
  started : .started ⟨.txTimeout, (play.endpoint.timers.get .txTimeout).generation⟩ ∈ play.history
  session : play.endpoint.session.Stalled

/-- The message of this countdown comes in, the application does not give up, and the link takes the
packet once more. -/
def Interplay.lapseMoves (generation : Nat) : List Interplay.Move :=
  [.ring ⟨.txTimeout, generation⟩, .work, .work, .answer false, .work, .work, .work,
    .accept .complete, .work, .work]

section endless

variable {play : Interplay}

theorem Interplay.run?_cons {next : Interplay} {move : Interplay.Move} {moves : List Interplay.Move}
    (stepped : play.step? move = some next) : play.run? (move :: moves) = next.run? moves := by
  rw [Interplay.run?, stepped]
  rfl

theorem Interplay.run?_append {middle : Interplay} {moves more : List Interplay.Move}
    (ran : play.run? moves = some middle) : play.run? (moves ++ more) = middle.run? more := by
  induction moves generalizing play with
  | nil => cases ran; rfl
  | cons move moves ih =>
    obtain ⟨next, stepped, later⟩ := Option.bind_eq_some_iff.mp ran
    rw [List.cons_append, Interplay.run?_cons stepped]
    exact ih later

/-- The worker finds nothing to send, and waits for the next signal. -/
theorem Interplay.run?_rested (looking : play.stage = .looking)
    (next : play.endpoint.session.next = .ok none) (unhurried : play.endpoint.deadline = none) :
    play.run? [.work, .work] = some { play with stage := .waiting } := by
  have rests : play.step? .work = some { play with stage := .reviewing } := by
    simp only [Interplay.step?, Interplay.work?, looking, next]
  have waits : Interplay.step? { play with stage := .reviewing } .work =
      some { play with stage := .waiting } := by
    simp only [Interplay.step?, Interplay.work?, unhurried, Option.isSome_none, Bool.false_and,
      Bool.false_eq_true, if_false]
  rw [Interplay.run?_cons rests, Interplay.run?_cons waits]
  rfl

theorem Deed.ofChange_of_held {before after : Sender} (first : before.outstanding.isSome = true)
    (second : after.outstanding.isSome = true) : Deed.ofChange before after = [] := by
  obtain ⟨packet, held⟩ := Option.isSome_iff_exists.mp first
  obtain ⟨other, still⟩ := Option.isSome_iff_exists.mp second
  rw [Deed.ofChange, held, still]

/-- The play once a packet was handed to the link, with its countdown started, and the link has taken
it at once. -/
def Interplay.handedOver (play : Interplay) (departure : Session.Departure) : Interplay :=
  let found := (play.become departure.session).obey (.start .txTimeout)
  { found with history := .handed departure.packet :: found.history }.become
    (departure.session.sendDone (.ok ()))

theorem Interplay.history_handedOver {departure : Session.Departure}
    (first : play.endpoint.session.sender.outstanding.isSome = true)
    (second : departure.session.sender.outstanding.isSome = true) :
    (play.handedOver departure).history = [.handed departure.packet,
      .started ⟨.txTimeout, ((play.handedOver departure).endpoint.timers.get .txTimeout).generation⟩] ++
        play.history := by
  have sent : (departure.session.sendDone (.ok ())).sender.outstanding.isSome = true := second
  show Deed.ofChange departure.session.sender _ ++ _ :: _ ::
    (Deed.ofChange play.endpoint.session.sender departure.session.sender ++ _) = _
  rw [Deed.ofChange_of_held first second, Deed.ofChange_of_held second sent]
  rfl

/-- The worker finds a packet to send, and nothing else after it. -/
theorem Interplay.run?_found {departure : Session.Departure}
    (looking : play.stage = .looking) (unhurried : play.endpoint.deadline = none)
    (next : play.endpoint.session.next = .ok (some departure))
    (orders : departure.reaction.orders = [.start .txTimeout])
    (last : (departure.session.sendDone (.ok ())).next = .ok none) :
    play.run? [.work, .work, .work, .accept .complete, .work, .work] =
      some { play.handedOver departure with stage := .waiting } := by
  let found (stage : Interplay.Stage) : Interplay := { play.become departure.session with stage }
  let obeyed := (found (.obeying [] (.hand departure.packet))).obey (.start .txTimeout)
  let handed : Interplay := { obeyed with
    stage := .handing false
    unreported := play.unreported + 1
    history := .handed departure.packet :: obeyed.history }
  let sent : Interplay := { play.handedOver departure with stage := .looking }
  have finds : play.step? .work =
      some (found (.obeying [.start .txTimeout] (.hand departure.packet))) := by
    simp only [Interplay.step?, Interplay.work?, looking, next, orders, found]
  have obeys : (found (.obeying [.start .txTimeout] (.hand departure.packet))).step? .work =
      some obeyed := rfl
  have hands : obeyed.step? .work = some handed := rfl
  have completes : handed.step? (.accept .complete) = some sent := rfl
  rw [Interplay.run?_cons finds, Interplay.run?_cons obeys, Interplay.run?_cons hands,
    Interplay.run?_cons completes]
  exact Interplay.run?_rested rfl last unhurried

/-- The play once the session was told of the timeout and the worker looks for a packet. -/
def Interplay.told (play : Interplay) (expiry : Expiry) : Interplay :=
  let late := play.endpoint.session.elapsed .txTimeout
  { play with
    endpoint := { play.endpoint with
      session := late.1, timers := (play.endpoint.timers.accept expiry).2 }
    stage := .looking
    history := .sending :: .passedOn expiry late.2.timeouts :: play.history }

/-- The message of the countdown counts, and the application does not give up. -/
theorem Interplay.Stalled.run?_told (stalled : play.Stalled) :
    let expiry : Expiry := ⟨.txTimeout, (play.endpoint.timers.get .txTimeout).generation⟩
    play.run? [.ring expiry, .work, .work, .answer false] = some (play.told expiry) := by
  obtain ⟨packet, _, _, held, _⟩ := stalled.session.held
  obtain ⟨⟨session, timers, inbox, deadline, running⟩, now, stage, unposted, unreported, history⟩ :=
    play
  obtain ⟨rfl, rfl, rfl, rfl, armed, started, _⟩ := stalled
  intro expiry
  dsimp only at held
  have current : (timers.accept expiry).1 = true := by
    rw [Timers.accept_iff]
    exact congrArg (Timer.mk _) armed
  have said : (session.elapsed .txTimeout).2 = { timeouts := some (packet.timeouts + 1) } := by
    simp only [Session.elapsed, Sender.timeOut?, held, Option.map_some]
  let rung : Interplay :=
    ⟨⟨session, timers, [.expired expiry], none, true⟩, now, .waiting, unposted, unreported, history⟩
  let passed (stage : Interplay.Stage) : Interplay :=
    ⟨⟨(session.elapsed .txTimeout).1, (timers.accept expiry).2, [], none, true⟩, now, stage,
      unposted, unreported, .passedOn expiry (some (packet.timeouts + 1)) :: history⟩
  let asked := passed (.telling [] (some (packet.timeouts + 1)))
  have rings : Interplay.step? ⟨⟨session, timers, [], none, true⟩, now, .waiting, unposted,
      unreported, history⟩ (.ring expiry) = some rung := if_pos started
  have takes : rung.step? .work =
      some (passed (.obeying [] (.tell [] (some (packet.timeouts + 1))))) := by
    show some (Interplay.take _ (.expired expiry)) = _
    unfold Interplay.take
    dsimp only
    rw [if_pos current, said]
    rfl
  have tells : Interplay.step? (passed (.obeying [] (.tell [] (some (packet.timeouts + 1))))) .work =
      some asked := rfl
  have answers : asked.step? (.answer false) = some asked.search := rfl
  rw [Interplay.run?_cons rings, Interplay.run?_cons takes, Interplay.run?_cons tells,
    Interplay.run?_cons answers, Interplay.told, said]
  rfl

/-- The message of the countdown counts, and the packet is handed to the link once more. -/
theorem Interplay.Stalled.again (stalled : play.Stalled) {times : Nat}
    (lapsed : lapsed? play.history = some times) :
    let expiry : Expiry := ⟨.txTimeout, (play.endpoint.timers.get .txTimeout).generation⟩
    ∃ after timeouts later, play.run? (Interplay.lapseMoves expiry.generation) = some after ∧
      after.Stalled ∧ after.history = later ++ .passedOn expiry timeouts :: play.history ∧
      lapsed? after.history = some (times + 1) := by
  intro expiry
  obtain ⟨departure, next, orders, after⟩ := stalled.session.again
  obtain ⟨packet, _, _, held, _⟩ := stalled.session.held
  have looking : (play.told expiry).stage = .looking := rfl
  have ran := (Interplay.run?_append stalled.run?_told).trans
    (Interplay.run?_found looking stalled.unhurried next orders after.next)
  have lateHeld : (play.told expiry).endpoint.session.sender.outstanding.isSome = true := by
    simp only [Interplay.told, Session.elapsed, Sender.timeOut?, held, Option.map_some,
      Option.isSome_some]
  have stillHeld : departure.session.sender.outstanding.isSome = true := by
    obtain ⟨again, _, _, outstanding, _⟩ := after.held
    exact Option.isSome_iff_exists.mpr ⟨again, outstanding⟩
  have record := Interplay.history_handedOver lateHeld stillHeld
  refine ⟨_, (play.endpoint.session.elapsed .txTimeout).2.timeouts, [_, _, .sending], ran,
    ⟨rfl, stalled.empty, stalled.running, stalled.unhurried, rfl, ?_, after⟩, record, ?_⟩
  · show _ ∈ ((play.told expiry).handedOver departure).history
    rw [record]
    exact List.mem_cons_of_mem _ List.mem_cons_self
  · show lapsed? ((play.told expiry).handedOver departure).history = _
    rw [record]
    show lapsed? (.passedOn expiry (play.endpoint.session.elapsed .txTimeout).2.timeouts ::
      play.history) = _
    rw [lapsed?, if_pos rfl, lapsed]
    rfl

/-- A packet can time out any number of times in a row. -/
theorem Interplay.Stalled.endless (stalled : play.Stalled)
    (lapsed : lapsed? play.history = some 0) (times : Nat) :
    ∃ moves after, play.run? moves = some after ∧ after.Stalled ∧
      lapsed? after.history = some times := by
  induction times with
  | zero => exact ⟨[], play, rfl, stalled, lapsed⟩
  | succ times ih =>
    obtain ⟨moves, middle, ran, still, before⟩ := ih
    obtain ⟨after, _, _, later, last, _, counted⟩ := still.again before
    exact ⟨moves ++ _, after, (Interplay.run?_append ran).trans later, last, counted⟩

end endless

/-- The link comes up, and a datagram is sent whose acknowledgement does not come. -/
def unansweredMoves : List Interplay.Move :=
  List.replicate 8 .work ++ [.accept .complete, .work, .work, .receive serialAnswer.encode] ++
    List.replicate 6 .work ++ [.submit [1, 2], .post 0] ++ List.replicate 4 .work ++
    [.accept .complete, .work, .work]

/-- It times out once. After a reset, its packet goes out again as it was, and times out again. -/
def recountedMoves : List Interplay.Move :=
  unansweredMoves ++ Interplay.lapseMoves 2 ++ [.askReset] ++ List.replicate 10 .work ++
    [.accept .complete, .work, .work, .receive serialAnswer.encode] ++ List.replicate 7 .work ++
    [.accept .complete, .work, .work] ++ Interplay.lapseMoves 6

/-- A timeout is reported, or a data packet is handed to the link. -/
def Deed.isReportOrData : Deed → Bool
  | .handed packet => packet.header.code.kind = .data
  | .passedOn expiry _ => expiry.kind = .txTimeout
  | .started _ | .skipped _ | .stopped _ | .outstanding | .settled | .called | .sending => false

theorem stalled_of_unanswered : ∃ endpoint play, Endpoint.create .serialLine = .ok endpoint ∧
    (Interplay.start endpoint).run? unansweredMoves = some play ∧ play.Stalled ∧
      lapsed? play.history = some 0 := by
  let endpoint : Endpoint :=
    ⟨.ofValid .serialLine Settings.check_serialLine, .new, [], none, true⟩
  have created : Endpoint.create .serialLine = .ok endpoint := rfl
  let packet : Outstanding := { seq := 0, length := 2, flags := .clear }
  have ends : ((Interplay.start endpoint).run? unansweredMoves).map (fun play =>
      (play.stage, play.endpoint.inbox.length, play.endpoint.running, play.endpoint.deadline,
        (play.endpoint.timers.get .txTimeout).armed)) = some (.waiting, 0, true, none, true) := by
    decide +kernel
  have noted : ((Interplay.start endpoint).run? unansweredMoves).map (fun play =>
      (lapsed? play.history, decide (.started ⟨.txTimeout,
        (play.endpoint.timers.get .txTimeout).generation⟩ ∈ play.history))) =
        some (some 0, true) := by decide +kernel
  have waits : ((Interplay.start endpoint).run? unansweredMoves).map (fun play =>
      (play.endpoint.session.handshake.stage, play.endpoint.session.ackArmed,
        play.endpoint.session.receiver.expected)) = some (.up, false, 0) := by decide +kernel
  have quiets : ((Interplay.start endpoint).run? unansweredMoves).map (fun play =>
      let sender := play.endpoint.session.sender
      (sender.busy, sender.acknowledgement, sender.report)) = some (false, .settled, .none) := by
    decide +kernel
  have holds : ((Interplay.start endpoint).run? unansweredMoves).map (fun play =>
      let sender := play.endpoint.session.sender
      (sender.outstanding, sender.queue.front?, sender.acked)) =
        some (some packet, some [1, 2], 0) := by decide +kernel
  obtain ⟨play, ran, reached⟩ := Option.map_eq_some_iff.mp ends
  rw [ran] at noted waits quiets holds
  simp only [Option.map_some, Option.some.injEq, Prod.mk.injEq, List.length_eq_zero_iff,
    decide_eq_true_eq] at reached noted waits quiets holds
  obtain ⟨waiting, empty, running, unhurried, armed⟩ := reached
  obtain ⟨lapsed, started⟩ := noted
  obtain ⟨up, free, expected⟩ := waits
  obtain ⟨idle, settled, quiet⟩ := quiets
  obtain ⟨outstanding, front, acked⟩ := holds
  have held : play.endpoint.session.sender.heldPayload packet = .ok [1, 2] := by
    rw [Sender.heldPayload, front, acked]
    rfl
  refine ⟨endpoint, play, created, ran, ⟨waiting, empty, running, unhurried, armed, started,
    up, idle, settled, quiet, free, packet, [1, 2], firstFragment [1, 2], outstanding, rfl, held, ?_,
    by decide⟩, lapsed⟩
  rw [expected]
  rfl

/-- A report of a timeout is not always one more than the one before. The count starts over when it
leaves its word of 32 bits, and after a reset, although the packet is sent as it was. -/
theorem reports_start_over :
    (∃ endpoint moves play expiry timeouts earlier, Endpoint.create .serialLine = .ok endpoint ∧
      (Interplay.start endpoint).run? moves = some play ∧
        .passedOn expiry timeouts :: earlier <:+ play.history ∧ expiry.kind = .txTimeout ∧
          lapsed? earlier = some (UInt32.size - 1) ∧ timeouts = some 0) ∧
    ∃ endpoint play, Endpoint.create .serialLine = .ok endpoint ∧
      (Interplay.start endpoint).run? recountedMoves = some play ∧
        play.history.filter Deed.isReportOrData =
          [.handed (firstFragment [1, 2]), .passedOn ⟨.txTimeout, 6⟩ (some 1),
            .handed (firstFragment [1, 2]), .handed (firstFragment [1, 2]),
            .passedOn ⟨.txTimeout, 2⟩ (some 1), .handed (firstFragment [1, 2])] := by
  constructor
  · obtain ⟨endpoint, first, created, ran, stalled, never⟩ := stalled_of_unanswered
    obtain ⟨moves, middle, lapses, still, often⟩ := stalled.endless never (UInt32.size - 1)
    obtain ⟨play, timeouts, later, last, _, record, _⟩ := still.again often
    have whole := (Interplay.run?_append ran).trans ((Interplay.run?_append lapses).trans last)
    refine ⟨endpoint, _, play, _, timeouts, middle.history, created, whole, ⟨later, record.symm⟩, rfl,
      often, ?_⟩
    obtain ⟨_, _, counts⟩ := (Interplay.punctual_of_run created whole).lawful _ _
      ⟨later, record.symm⟩
    obtain ⟨before, same, said⟩ := counts rfl
    cases often.symm.trans same
    obtain ⟨word, reported, zero⟩ := Option.map_eq_some_iff.mp said
    exact reported.trans (congrArg some (UInt32.toNat_inj.mp zero))
  · let endpoint : Endpoint :=
      ⟨.ofValid .serialLine Settings.check_serialLine, .new, [], none, true⟩
    have created : Endpoint.create .serialLine = .ok endpoint := rfl
    have ends : ((Interplay.start endpoint).run? recountedMoves).map (fun play =>
        play.history.filter Deed.isReportOrData) =
          some [.handed (firstFragment [1, 2]), .passedOn ⟨.txTimeout, 6⟩ (some 1),
            .handed (firstFragment [1, 2]), .handed (firstFragment [1, 2]),
            .passedOn ⟨.txTimeout, 2⟩ (some 1), .handed (firstFragment [1, 2])] := by
      decide +kernel
    obtain ⟨play, ran, same⟩ := Option.map_eq_some_iff.mp ends
    exact ⟨endpoint, play, created, ran, same⟩

end DatagramLink
