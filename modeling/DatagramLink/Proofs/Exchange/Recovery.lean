import DatagramLink.Proofs.Exchange.Turns

namespace DatagramLink

/-- The send in progress is done, if there is one, and the countdowns for a partly received packet
and for a reset that was not answered elapse. -/
def Session.recover (session : Session) (result : Except SendFailure Unit) : Session :=
  let session := if session.sender.busy then session.sendDone result else session
  ((session.elapsed .rxTimeout).1.elapsed .resetRetry).1

/-- What a turn does to the handshakes of the end whose turn it is and of the other one. -/
def Handshake.Stage.meet : Handshake.Stage × Handshake.Stage → Handshake.Stage × Handshake.Stage
  | (.announcing, _) => (.awaiting, .answering)
  | (.answering, .awaiting) | (.answering, .dormant) => (.up, .up)
  | (.answering, there) => (.up, there)
  | (here, there) => (here, there)

/-- What several turns do, one end beginning. -/
def Handshake.Stage.meetings :
    Nat → Handshake.Stage × Handshake.Stage → Handshake.Stage × Handshake.Stage
  | 0, stages => stages
  | turns + 1, stages => (meetings turns (meet stages).swap).swap

/-- Nothing has to be repeated. -/
def Handshake.Stage.Fresh (stage : Handshake.Stage) : Prop := stage ≠ .dormant ∧ stage ≠ .awaiting

section stages

theorem Handshake.Stage.meetings_up (turns : Nat) : meetings turns (.up, .up) = (.up, .up) := by
  induction turns with
  | zero => rfl
  | succ turns ih => exact congrArg Prod.swap ih

/-- Three turns are enough: in the first one the end may still answer an earlier reset, or have
nothing to say. -/
theorem Handshake.Stage.meetings_of_fresh {here there : Handshake.Stage} (fresh : here.Fresh)
    (peerFresh : there.Fresh) {turns : Nat} (enough : 3 ≤ turns) :
    meetings turns (here, there) = (.up, .up) := by
  obtain ⟨more, rfl⟩ := Nat.exists_eq_add_of_le' enough
  have peeled : meetings (more + 3) (here, there) =
      (meetings more (meet (meet (meet (here, there)).swap).swap).swap).swap.swap.swap := rfl
  have settled : (meet (meet (meet (here, there)).swap).swap).swap = (.up, .up) := by
    obtain ⟨awake, asking⟩ := fresh
    obtain ⟨peerAwake, peerAsking⟩ := peerFresh
    cases here <;> cases there <;> first | contradiction | rfl
  rw [peeled, settled, Handshake.Stage.meetings_up]
  rfl

end stages

section sessions

variable {session peer : Session} {departure : Session.Departure}

theorem Handshake.fresh_retry {handshake : Handshake} (awake : handshake.stage ≠ .dormant) :
    (handshake.onRetry?.getD handshake).stage.Fresh := by
  obtain ⟨stage, here, there⟩ := handshake
  cases stage with
  | dormant => exact absurd rfl awake
  | announcing => exact ⟨nofun, nofun⟩
  | awaiting => exact ⟨nofun, nofun⟩
  | answering => exact ⟨nofun, nofun⟩
  | up => exact ⟨nofun, nofun⟩

theorem Session.fresh_recover (awake : session.handshake.stage ≠ .dormant)
    (result : Except SendFailure Unit) : (session.recover result).handshake.stage.Fresh := by
  have retried : (session.recover result).handshake =
      session.handshake.onRetry?.getD session.handshake := by
    unfold Session.recover
    split <;> rfl
  rw [retried]
  exact Handshake.fresh_retry awake

theorem Session.framer_recover (result : Except SendFailure Unit) :
    (session.recover result).framer.isWaiting = true := by
  unfold Session.recover
  split <;> rfl

theorem Session.busy_recover (result : Except SendFailure Unit) :
    (session.recover result).sender.busy = false := by
  unfold Session.recover
  split
  · rfl
  · rename_i idle
    exact Bool.eq_false_iff.mpr idle

theorem Session.Sane.recover {settings : Settings} (sane : session.Sane settings)
    (result : Except SendFailure Unit) : (session.recover result).Sane settings := by
  have done : (if session.sender.busy then session.sendDone result else session).Sane settings := by
    split
    · exact sane.of_perform (show session.perform (.sendDone result) = _ from rfl)
    · exact sane
  have forgot := done.of_perform (show Session.perform _ (.elapsed .rxTimeout) = _ from rfl)
  exact forgot.of_perform (show Session.perform _ (.elapsed .resetRetry) = _ from rfl)

theorem Session.Acquainted.recover {parameters : LinkParameters}
    (acquainted : session.Acquainted parameters) (result : Except SendFailure Unit) :
    (session.recover result).Acquainted parameters := by
  have done : (if session.sender.busy then session.sendDone result else session).Acquainted
      parameters := by
    split
    · exact { acquainted with }
    · exact acquainted
  exact (done.elapsed .rxTimeout).elapsed .resetRetry

/-- A packet and its arrival, as the handshakes see it. An end that is announcing a reset ignores
the answer to an earlier one. -/
theorem Session.meet (next : session.next = .ok (some departure))
    (read : ∀ kind, peer.peerParameters? (session.handshake.packet kind) =
      some session.handshake.here) :
    (departure.session.handshake.stage, (peer.takePacket departure.packet).1.handshake.stage) =
      Handshake.Stage.meet (session.handshake.stage, peer.handshake.stage) := by
  have sends := Session.sends next
  have after : departure.session.handshake.stage = departure.session.profile.stage := rfl
  rw [after]
  generalize departure.packet = packet at sends ⊢
  generalize departure.session.profile = profile at sends ⊢
  cases sends with
  | reset stage =>
    have taken : peer.takePacket (session.handshake.packet .reset) =
        peer.takeReset (session.handshake.packet .reset) := rfl
    have flagged : (session.handshake.packet .reset).header.flags.reset = true := rfl
    simp only [taken, Session.takeReset, flagged, read, stage]
    rfl
  | answer stage =>
    have taken : peer.takePacket (session.handshake.packet .resetAck) =
        peer.takeAnswer (session.handshake.packet .resetAck) := rfl
    simp only [taken, Session.takeAnswer, read, Handshake.onAnswer?, stage]
    cases there : peer.handshake.stage <;> simp only [there] <;> rfl
  | data stage sending =>
    rename_i emission sender
    have kind := (Sender.kind_of_next sending).1
    have taken := (peer.sameLink_takeData emission.packet).handshake
    have still : session.profile.stage = .up := stage
    simp only [Session.takePacket, kind, taken, still, stage, Handshake.Stage.meet]

end sessions

section turns

variable {settings : Side → Settings} {parameters : Side → LinkParameters} {exchange : Exchange}

/-- The stages of both ends, those of this end first. -/
def Exchange.stages (exchange : Exchange) (side : Side) : Handshake.Stage × Handshake.Stage :=
  ((exchange.get side).handshake.stage, (exchange.get side.other).handshake.stage)

theorem Exchange.stages_other (exchange : Exchange) (side : Side) :
    exchange.stages side.other = (exchange.stages side).swap := by
  cases side <;> rfl

theorem Exchange.Able.read (able : exchange.Able settings parameters) (side : Side)
    (kind : PacketKind) :
    (exchange.get side.other).peerParameters? ((exchange.get side).handshake.packet kind) =
      some (exchange.get side).handshake.here :=
  Session.peerParameters?_packet (able.sane side.other).profile.here (able.sane side).profile.here
    (able.valid side)

/-- An end with nothing to send does not wait for its turn either. -/
theorem Exchange.Able.meet_of_none (able : exchange.Able settings parameters) {side : Side}
    (quiet : (exchange.get side).next = .ok none) :
    Handshake.Stage.meet (exchange.stages side) = exchange.stages side := by
  have idle := able.idle side
  cases stage : (exchange.get side).handshake.stage with
  | announcing => cases (Session.next_announcing stage idle).symm.trans quiet
  | answering => cases (Session.next_answering stage idle).symm.trans quiet
  | dormant => simp only [Exchange.stages, stage, Handshake.Stage.meet]
  | awaiting => simp only [Exchange.stages, stage, Handshake.Stage.meet]
  | up => simp only [Exchange.stages, stage, Handshake.Stage.meet]

/-- The run lemma: turns never fail, and say what becomes of the handshakes. -/
theorem Exchange.Able.takeTurns (able : exchange.Able settings parameters) (side : Side)
    (sizes : List Nat) :
    ∃ transfers last, exchange.takeTurns side sizes = .ok (transfers, last) ∧
      last.Able settings parameters ∧
      last.stages side = Handshake.Stage.meetings sizes.length (exchange.stages side) := by
  induction sizes generalizing exchange side with
  | nil => exact ⟨[], exchange, rfl, able, rfl⟩
  | cons size sizes ih =>
    obtain ⟨departure?, next⟩ := (able.sane side).profile.next_ok (able.valid side)
    cases departure? with
    | none =>
      obtain ⟨transfers, last, run, ableLast, stages⟩ := ih able side.other
      refine ⟨transfers, last, ?_, ableLast, ?_⟩
      · rw [Exchange.takeTurns_of_none next, run]
      · rw [Exchange.stages_other, Exchange.stages_other] at stages
        rw [List.length_cons, Handshake.Stage.meetings, able.meet_of_none next, ← stages,
          Prod.swap_swap]
    | some departure =>
      obtain ⟨arrival, after, transferred, _, ableAfter, here, armed, there⟩ :=
        able.transfer next size
      obtain ⟨transfers, last, run, ableLast, stages⟩ := ih ableAfter side.other
      have met : after.stages side = Handshake.Stage.meet (exchange.stages side) := by
        rw [Exchange.stages, here, there]
        exact Session.meet next (able.read side)
      refine ⟨_, last, Exchange.takeTurns_of_transfer transferred run, ableLast, ?_⟩
      rw [Exchange.stages_other, Exchange.stages_other] at stages
      rw [List.length_cons, Handshake.Stage.meetings, ← met, ← stages, Prod.swap_swap]

end turns

section recovery

variable {settings : Side → Settings} {parameters : Side → LinkParameters} {line : Line}

/-- What is in flight when both ends take up sending again is lost. -/
def Line.recover (line : Line) (result : Side → Except SendFailure Unit) : Exchange :=
  ⟨line.a.session.recover (result .a), line.b.session.recover (result .b)⟩

theorem Line.get_recover (line : Line) (result : Side → Except SendFailure Unit) (side : Side) :
    (line.recover result).get side = (line.get side).session.recover (result side) := by
  cases side <;> rfl

theorem Line.Introduced.recover (introduced : line.Introduced settings parameters)
    (valid : ∀ side, (settings side).check = .ok ())
    (room : ∀ side, LinkParameters.size ≤ (settings side).rxMtu)
    (result : Side → Except SendFailure Unit) :
    (line.recover result).Able settings parameters := by
  refine ⟨valid, room, introduced.advertised, ?_, ?_, ?_, ?_⟩ <;> intro side <;>
    rw [Line.get_recover]
  · exact (introduced.sane side).recover (result side)
  · exact (introduced.acquainted side).recover (result side)
  · exact Session.framer_recover (result side)
  · exact Session.busy_recover (result side)

/-- However packets got delayed, damaged and lost: once the sends in progress are done and the
countdowns for partly received packets and for the reset have elapsed, three turns, whichever end
begins, bring both ends up. Each then knows what the other one advertises and keeps to it. -/
theorem Line.handshake_recovers (valid : ∀ side, (settings side).check = .ok ())
    (room : ∀ side, 10 ≤ (settings side).rxMtu)
    {allowed : Line → Side → Terminal.Move → Prop}
    (run : Line.Reaches allowed (Line.started (valid .a) (valid .b)) line)
    (result : Side → Except SendFailure Unit) (first : Side) {sizes : List Nat}
    (enough : 3 ≤ sizes.length) :
    ∃ transfers after,
      (line.recover result).takeTurns first sizes = .ok (transfers, after) ∧
      ∀ side, (after.get side).handshake.stage = .up ∧
        (∃ peer, (settings side.other).parameters = .ok peer ∧
          (after.get side).handshake.peer = some peer) ∧
        (after.get side).payloadLimit =
          min (settings side).payloadLimit (settings side.other).rxMtu ∧
        1 ≤ (after.get side).payloadLimit := by
  obtain ⟨parameters, started⟩ := Line.introduced_started valid
  have able := (run.introduced started).recover valid room result
  have fresh : ∀ side, ((line.recover result).get side).handshake.stage.Fresh := by
    intro side
    rw [Line.get_recover]
    refine Session.fresh_recover (run.awake (fun side => ?_) side) (result side)
    cases side <;> exact nofun
  obtain ⟨transfers, after, turns, ableAfter, stages⟩ := able.takeTurns first sizes
  have settled := Handshake.Stage.meetings_of_fresh (fresh first) (fresh first.other) enough
  have both : after.stages first = (.up, .up) := stages.trans settled
  refine ⟨transfers, after, turns, fun side => ?_⟩
  have up : (after.get side).handshake.stage = .up := by
    rcases first.eq_or_other side with rfl | rfl
    · exact congrArg Prod.fst both
    · exact congrArg Prod.snd both
  have isUp : (after.get side).handshake.isUp = true := congrArg Handshake.Stage.isUp up
  exact ⟨up, ⟨_, ableAfter.advertised side.other, (ableAfter.acquainted side).known isUp⟩,
    ableAfter.payloadLimit isUp⟩

/-- The answer to a reset is lost. The end that waits for it got a byte that looks like the start of
a packet, the other end is up and still busy. -/
def lostAnswerMoves : List (Side × Terminal.Move) :=
  [(.a, .depart), (.b, .arrive serialReset.encode), (.a, .sendDone (.ok ())), (.b, .submit [1]),
    (.b, .depart), (.b, .lose), (.a, .arrive [0x68])]

theorem recovers_without_answer :
    ∃ line transfers after,
      (Line.started (Settings.check_uneven .a) (Settings.check_uneven .b)).run?
        (fun _ _ _ => True) lostAnswerMoves = some line ∧
      line.a.session.handshake.stage = .awaiting ∧ line.a.session.framer.isWaiting = false ∧
      line.b.session.handshake.stage = .up ∧ line.b.session.sender.busy = true ∧
      (line.recover fun _ => .error .closed).takeTurns .b [0, 1, 7] = .ok (transfers, after) ∧
      after.a.handshake.stage = .up ∧ after.b.handshake.stage = .up ∧
      after.a.payloadLimit = 10 ∧ after.b.payloadLimit = 10 := by
  have final : ((Line.started (Settings.check_uneven .a) (Settings.check_uneven .b)).run?
      (fun _ _ _ => True) lostAnswerMoves).map (fun line =>
        (line.a.session.handshake.stage, line.a.session.framer.isWaiting,
          line.b.session.handshake.stage, line.b.session.sender.busy)) =
        some (.awaiting, false, .up, true) := by
    decide +kernel
  obtain ⟨line, run, same⟩ := Option.map_eq_some_iff.mp final
  simp only [Prod.mk.injEq] at same
  obtain ⟨awaiting, partway, up, busy⟩ := same
  have room : ∀ side, 10 ≤ (Settings.uneven side).rxMtu := by
    intro side
    cases side <;> decide
  obtain ⟨transfers, after, turns, recovered⟩ :=
    Line.handshake_recovers Settings.check_uneven room (Line.Reaches.run .start run)
      (fun _ => .error .closed) .b (show 3 ≤ [0, 1, 7].length from Nat.le_refl 3)
  obtain ⟨upA, _, limitA, _⟩ := recovered .a
  obtain ⟨upB, _, limitB, _⟩ := recovered .b
  exact ⟨line, transfers, after, run, awaiting, partway, up, busy, turns, upA, upB, limitA, limitB⟩

end recovery

end DatagramLink
