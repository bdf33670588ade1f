import DatagramLink.Proofs.Exchange.Turns
import DatagramLink.Proofs.Line.Calm
import DatagramLink.Proofs.Session.Passing

namespace DatagramLink

theorem Terminal.Calm.welcome {here there : Terminal} {steady : Prop}
    (calm : here.Calm steady there) (up : here.session.handshake.isUp = true)
    (peerUp : there.session.handshake.isUp = true) :
    ∃ queue, here.session.Welcome there.session queue := by
  obtain ⟨limit, removed, handed, lane⟩ := calm.lane
  have agreed : here.session.payloadLimit = limit := lane.agreed up
  subst agreed
  have together : _ ∧ Phase _ steady _ _ handed := lane.phase.inStep up peerUp
  have tracking : Tracking there.session.receiver.maxDatagram here.session.payloadLimit
      here.session.sender.course.cursor ((here.accepted.drop removed).headD [])
      there.session.receiver.uptake [] [] handed := together.1
  refine ⟨here.accepted.drop removed, lane.regular, fun fragment yields => ?_⟩
  have nonempty : (Line.mk here.still there.still).lane.front removed ≠ [] := yields.nonempty
  have fits := lane.small trivial _ (List.mem_of_getElem? (Lane.front_eq nonempty))
  exact tracking.welcome yields fits

/-- Without its bytes, a packet arrives just the same. -/
theorem Terminal.gets_takePacket (terminal : Terminal) (packet : Packet) (armed : Bool) :
    terminal.Gets packet { terminal with
      session := (terminal.session.takePacket packet).1.behind terminal.session.framer armed
      delivered := terminal.delivered ++ (terminal.session.takePacket packet).2.datagrams } := by
  have takes := Session.takes (terminal.session.behind terminal.session.framer armed) packet
  rw [Session.takePacket_behind] at takes
  exact ⟨terminal.session.behind terminal.session.framer armed, _, rfl, takes, rfl, rfl⟩

/-- This end with what it accepted and handed over, and with nothing in flight. -/
def Exchange.terminal (exchange : Exchange) (accepted delivered : Side → List Bytes) (side : Side) :
    Terminal :=
  ⟨exchange.get side, [], accepted side, delivered side⟩

/-- Two ends that are up and have nothing left to find out about each other. -/
structure Exchange.Draining (settings : Side → Settings) (parameters : Side → LinkParameters)
    (accepted delivered : Side → List Bytes) (exchange : Exchange) : Prop
    extends Exchange.Able settings parameters exchange where
  up : ∀ side, (exchange.get side).handshake.stage = .up
  prompt : ∀ side, (settings side).ackDelay = none
  calm : ∀ side, (exchange.terminal accepted delivered side).Calm True
    (exchange.terminal accepted delivered side.other)
  pressed : ∀ side, (exchange.get side).Pressed (exchange.get side.other)

/-- What both ends together still have to do. Without faults every packet makes it smaller. -/
def Exchange.load (exchange : Exchange) : Nat := exchange.a.sender.load + exchange.b.sender.load

/-- What was handed over at its arrival. -/
def Transfer.handedOver (transfer : Transfer) : List Bytes :=
  match transfer.arrival with
  | some arrival => arrival.reaction.datagrams
  | none => []

/-- What the other side handed over of what this side sent. -/
def handedFrom (side : Side) (transfers : List Transfer) : List Bytes :=
  (transfers.filter (·.sender = side)).flatMap Transfer.handedOver

theorem Transfer.handedFrom_single (transfer : Transfer) :
    handedFrom transfer.sender [transfer] = transfer.handedOver ∧
      handedFrom transfer.sender.other [transfer] = [] := by
  obtain ⟨sender, sent, reaction, arrival⟩ := transfer
  cases sender
  · exact ⟨List.append_nil _, rfl⟩
  · exact ⟨List.append_nil _, rfl⟩

theorem handedFrom_cons (side : Side) (first : Transfer) (others : List Transfer) :
    handedFrom side (first :: others) = handedFrom side [first] ++ handedFrom side others := by
  rw [← List.singleton_append, handedFrom, List.filter_append, List.flatMap_append]
  rfl

section draining

variable {settings : Side → Settings} {parameters : Side → LinkParameters}
  {accepted delivered : Side → List Bytes} {exchange : Exchange} {side : Side}
  {departure : Session.Departure}

theorem Exchange.load_eq (exchange : Exchange) (side : Side) :
    exchange.load = (exchange.get side).sender.load + (exchange.get side.other).sender.load := by
  cases side
  · rfl
  · exact Nat.add_comm ..

theorem Exchange.Draining.welcome
    (draining : exchange.Draining settings parameters accepted delivered) (side : Side) :
    ∃ queue, (exchange.get side).Welcome (exchange.get side.other) queue :=
  (draining.calm side).welcome (congrArg Handshake.Stage.isUp (draining.up side))
    (congrArg Handshake.Stage.isUp (draining.up side.other))

theorem Exchange.Draining.limit_ne
    (draining : exchange.Draining settings parameters accepted delivered) (side : Side) :
    (exchange.get side).payloadLimit ≠ 0 :=
  Nat.ne_of_gt (draining.toAble.payloadLimit (congrArg Handshake.Stage.isUp (draining.up side))).2

/-- The step lemma: a packet goes over, and the load gets smaller. -/
theorem Exchange.Draining.transfer
    (draining : exchange.Draining settings parameters accepted delivered)
    (next : (exchange.get side).next = .ok (some departure)) (size : Nat) :
    ∃ transfer after handed,
      exchange.transfer side ⟨.harmless, size⟩ = .ok (some (transfer, after)) ∧
      after.Draining settings parameters accepted handed ∧ after.load < exchange.load ∧
      ∀ either, handed either.other = delivered either.other ++ handedFrom either [transfer] := by
  obtain ⟨arrival, after, transferred, arrived, able, here, armed, there⟩ :=
    draining.toAble.transfer next size
  obtain ⟨queue, welcome⟩ := draining.welcome side
  obtain ⟨peerQueue, peerWelcome⟩ := draining.welcome side.other
  have peerPressed := draining.pressed side.other
  rw [Side.other_other] at peerWelcome peerPressed
  have prompt : (exchange.get side.other).settings.ackDelay = none := by
    rw [show (exchange.get side.other).settings = settings side.other from
      (draining.sane side.other).profile.settings_eq]
    exact draining.prompt side.other
  obtain ⟨lighter, pressedAfter, peerPressedAfter⟩ := welcome.pass peerWelcome (draining.up side)
    (draining.up side.other) (draining.limit_ne side) (draining.limit_ne side.other) prompt
    (draining.pressed side) peerPressed next
  -- what becomes of the handshakes
  obtain ⟨emission, sender, sending, rfl⟩ := Session.of_next_up (draining.up side) next
  have kind := (Sender.kind_of_next sending).1
  have upHere : (after.get side).handshake.stage = .up := by
    rw [here]
    exact draining.up side
  have upThere : (after.get side.other).handshake.stage = .up := by
    have still := (exchange.get side.other).handshake_takePacket_of_data kind
    rw [there]
    exact (congrArg Handshake.stage still).trans (draining.up side.other)
  -- what becomes of the books
  let handed := fun either =>
    if either = side then delivered side
    else delivered side.other ++ arrival.reaction.datagrams
  have handedHere : handed side = delivered side := if_pos rfl
  have handedThere : handed side.other = delivered side.other ++ arrival.reaction.datagrams := by
    cases side <;> rfl
  have gets : (exchange.terminal accepted delivered side.other).Gets emission.packet
      (after.terminal accepted handed side.other) := by
    rw [Exchange.terminal, Exchange.terminal, handedThere, arrived, there]
    exact Terminal.gets_takePacket _ emission.packet armed
  have calmAfter : (after.terminal accepted handed side).Calm True
      (after.terminal accepted handed side.other) := by
    have sends : (exchange.get side).Sends emission.packet (after.get side).profile := by
      rw [here]
      exact Session.sends next
    have passed := (draining.calm side).passed sends gets []
    rw [Exchange.terminal, handedHere]
    exact passed
  obtain ⟨fromHere, fromThere⟩ := Transfer.handedFrom_single
    ⟨side, emission.packet.encode, ((exchange.get side).departData emission sender).reaction,
      some arrival⟩
  refine ⟨_, after, handed, transferred, ?_, ?_, ?_⟩
  · refine ⟨able, side.forall_of upHere upThere, draining.prompt, ?_, ?_⟩
    · refine side.forall_of calmAfter ?_
      rw [Side.other_other]
      exact calmAfter.symm
    · refine side.forall_of ?_ ?_
      · rw [here, there]
        exact pressedAfter
      · rw [Side.other_other, here, there]
        exact peerPressedAfter
  · rw [after.load_eq side, exchange.load_eq side, here, there]
    exact lighter
  · refine side.forall_of ?_ ?_
    · rw [handedThere]
      exact congrArg _ fromHere.symm
    · rw [Side.other_other, handedHere]
      exact (List.append_nil _).symm.trans (congrArg _ fromThere.symm)

/-- The run lemma. After twice as many turns as the load both ends are quiet, and one more if the
end whose turn it is has nothing to send. -/
theorem Exchange.Draining.takeTurns
    (draining : exchange.Draining settings parameters accepted delivered) (side : Side)
    (sizes : List Nat) :
    ∃ transfers last handed, exchange.takeTurns side sizes = .ok (transfers, last) ∧
      last.Draining settings parameters accepted handed ∧
      (∀ either, handed either.other = delivered either.other ++ handedFrom either transfers) ∧
      (2 * exchange.load ≤ sizes.length →
        ((exchange.get side).next = .ok none → 2 * exchange.load < sizes.length) →
        ∀ either, (last.get either).next = .ok none) := by
  have unchanged : ∀ either,
      delivered either.other = delivered either.other ++ handedFrom either [] :=
    fun either => (List.append_nil _).symm
  induction sizes generalizing exchange delivered side with
  | nil =>
    refine ⟨[], exchange, delivered, rfl, draining, unchanged, fun enough waits => ?_⟩
    obtain ⟨departure?, next⟩ := (draining.sane side).profile.next_ok (draining.valid side)
    cases departure? with
    | none => exact absurd (waits next) (Nat.not_lt_zero _)
    | some departure =>
      obtain ⟨_, after, _, _, _, lighter, _⟩ := draining.transfer next 0
      have empty : 2 * exchange.load ≤ 0 := enough
      omega
  | cons size sizes ih =>
    obtain ⟨departure?, next⟩ := (draining.sane side).profile.next_ok (draining.valid side)
    cases departure? with
    | none =>
      rw [Exchange.takeTurns_of_none next]
      by_cases peerQuiet : (exchange.get side.other).next = .ok none
      · have quiet : ∀ either, (exchange.get either).next = .ok none :=
          side.forall_of next peerQuiet
        exact ⟨[], exchange, delivered, Exchange.takeTurns_of_quiet quiet _ _, draining, unchanged,
          fun _ _ => quiet⟩
      · obtain ⟨transfers, last, handed, run, drained, books, rests⟩ :=
          ih draining side.other unchanged
        refine ⟨transfers, last, handed, run, drained, books, fun _ waits => ?_⟩
        have early := waits next
        rw [List.length_cons] at early
        exact rests (Nat.le_of_lt_succ early) fun quiet => absurd quiet peerQuiet
    | some departure =>
      obtain ⟨transfer, after, handed, transferred, drains, lighter, first⟩ :=
        draining.transfer next size
      obtain ⟨transfers, last, handedLast, run, drained, others, rests⟩ := ih drains side.other
        fun either => (List.append_nil _).symm
      refine ⟨_, last, handedLast, Exchange.takeTurns_of_transfer transferred run, drained, ?_, ?_⟩
      · intro either
        rw [others, first, List.append_assoc, ← handedFrom_cons]
      · intro enough _
        rw [List.length_cons] at enough
        exact rests (by omega) fun _ => by omega

/-- When neither end has anything to send, all that was accepted is handed over, and the queues are
empty. -/
theorem Exchange.Draining.empty
    (draining : exchange.Draining settings parameters accepted delivered)
    (quiet : ∀ side, (exchange.get side).next = .ok none) (side : Side) :
    (exchange.get side).sender.queue.toList = [] ∧ delivered side.other = accepted side := by
  have silent : ∀ either, _ := fun either =>
    Sender.of_next_none (draining.idle either)
      (Session.of_next_none_up (draining.up either) (draining.idle either) (quiet either))
  obtain ⟨_, once, left⟩ := silent side
  obtain ⟨noNews, _, _⟩ := silent side.other
  have nothing : (exchange.get side).sender.outstanding = none := by
    cases held : (exchange.get side).sender.outstanding with
    | none => rfl
    | some packet =>
      rcases draining.pressed side packet held with again | ⟨due, _⟩
      · rw [once packet held] at again
        cases again
      · rw [Sender.hasNews, due] at noNews
        cases noNews
  obtain ⟨limit, removed, handed, lane⟩ := (draining.calm side).lane
  have sent : (accepted side).drop removed = [] :=
    lane.regular.eq_nil_of_unsent nothing (left nothing)
  have holds : (exchange.get side).sender.queue.Holds ((accepted side).drop removed) :=
    lane.regular.holds
  have once : delivered side.other = (accepted side).take (removed + handed.toNat) :=
    lane.ledger.once trivial
  have all : (accepted side).length ≤ removed := List.drop_eq_nil_iff.mp sent
  refine ⟨holds.toList_eq.trans sent, once.trans (List.take_of_length_le ?_)⟩
  exact Nat.le_trans all (Nat.le_add_right ..)

end draining

end DatagramLink
