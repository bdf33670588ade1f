import DatagramLink.Proofs.Session.Inputs
import Mathlib.Logic.Function.Basic

namespace DatagramLink

/-- Which countdowns run once the order is carried out. -/
def CountdownOrder.obey (running : Countdown → Bool) : CountdownOrder → Countdown → Bool
  | .start countdown => Function.update running countdown true
  | .stop countdown => Function.update running countdown false

/-- Which countdowns run once all orders are carried out. -/
def Reaction.obey (reaction : Reaction) (running : Countdown → Bool) : Countdown → Bool :=
  reaction.orders.foldl CountdownOrder.obey running

/-- What the session asks for when this is done to it. -/
def Session.orders (session : Session) : Session.Input → List CountdownOrder
  | .submit _ | .reportError _ | .closeIntake | .sendDone _ => []
  | .askReset => session.askReset.2.orders
  | .receive chunk => (session.receive chunk).2.orders
  | .elapsed countdown => (session.elapsed countdown).2.orders
  | .depart =>
    match session.next with
    | .ok (some departure) => departure.reaction.orders
    | .ok none | .error _ => []

theorem Session.orders_depart {session : Session} {departure : Departure}
    (next : session.next = .ok (some departure)) :
    session.orders .depart = departure.reaction.orders := by
  rw [Session.orders, next]

/-- A countdown that has elapsed does not run any more. -/
def Session.Input.expire (running : Countdown → Bool) : Session.Input → Countdown → Bool
  | .elapsed countdown => Function.update running countdown false
  | _ => running

/-- The session after all this, and the countdowns that run then. -/
def Session.attend (session : Session) (running : Countdown → Bool) :
    List Session.Input → Except Fault (Session × (Countdown → Bool))
  | [] => .ok (session, running)
  | input :: inputs =>
    (session.perform input).bind fun after =>
      after.attend ((session.orders input).foldl CountdownOrder.obey (input.expire running)) inputs

/-- The countdowns that the session takes to be running. -/
def Session.counting (session : Session) : Countdown → Bool
  | .txTimeout => session.txArmed
  | .ackDelay => session.ackArmed
  | .resetRetry => session.handshake.stage = .awaiting
  | .rxTimeout => session.rxArmed

theorem Reaction.obey_append (first second : Reaction) (running : Countdown → Bool) :
    (first ++ second).obey running = second.obey (first.obey running) :=
  List.foldl_append

section orders

variable (session : Session)

theorem Session.counting_acknowledge (ack : UInt8) :
    (session.acknowledge ack).2.obey session.counting =
      (session.acknowledge ack).1.counting := by
  unfold Session.acknowledge
  split <;> funext countdown <;> cases countdown <;> rfl

theorem Session.counting_heed (error : ErrorCode) :
    (session.heed error).counting = session.counting := by
  unfold Session.heed
  split <;> rfl

theorem Session.counting_oweAck :
    session.oweAck.2.obey session.counting = session.oweAck.1.counting := by
  unfold Session.oweAck
  split
  · rfl
  · cases armed : session.ackArmed with
    | false => funext countdown; cases countdown <;> rfl
    | true => funext countdown; cases countdown with
      | ackDelay => exact armed
      | txTimeout => rfl
      | resetRetry => rfl
      | rxTimeout => rfl

theorem Session.counting_takeFragment (fragment : Fragment) :
    (session.takeFragment fragment).2.obey session.counting =
      (session.takeFragment fragment).1.counting := by
  unfold Session.takeFragment
  generalize session.receiver.accept fragment = result
  obtain ⟨verdict, receiver⟩ := result
  have owed := Session.counting_oweAck { session with receiver }
  cases verdict with
  | buffered => exact owed
  | delivered datagram => exact owed
  | duplicate => rfl
  | outOfOrder => rfl
  | tooLarge => rfl

theorem Session.counting_takeData (packet : Packet) :
    (session.takeData packet).2.obey session.counting =
      (session.takeData packet).1.counting := by
  unfold Session.takeData
  split
  · rfl
  · have acked := Session.counting_acknowledge
      { session with receiver := session.receiver.note packet.header } packet.header.ack
    dsimp only
    split
    · rw [Session.counting_heed, ← acked]
      rfl
    · rw [Reaction.obey_append, ← Session.counting_takeFragment, Session.counting_heed, ← acked]
      rfl

/-- The handshake may go on in any way but waiting for an answer. -/
theorem Session.counting_restart {handshake : Handshake} (asked : handshake.stage ≠ .awaiting) :
    (session.restart handshake).2.obey session.counting =
      (session.restart handshake).1.counting := by
  unfold Session.restart Reaction.obey
  funext countdown
  cases armed : session.ackArmed <;> cases countdown <;>
    simp [CountdownOrder.obey, Session.counting, armed, asked]

theorem Session.counting_takeReset (packet : Packet) :
    (session.takeReset packet).2.obey session.counting =
      (session.takeReset packet).1.counting := by
  unfold Session.takeReset
  split
  · rfl
  · split
    · rfl
    · rename_i peer read
      have answering : (session.handshake.onReset peer).stage ≠ .awaiting := by
        intro awaiting
        cases awaiting
      exact session.counting_restart answering

theorem Session.counting_takeAnswer (packet : Packet) :
    (session.takeAnswer packet).2.obey session.counting =
      (session.takeAnswer packet).1.counting := by
  unfold Session.takeAnswer
  split
  · rfl
  · split
    · rfl
    · rename_i peer _ handshake answered
      have up : handshake.stage = .up := by
        unfold Handshake.onAnswer? at answered
        split at answered <;> cases answered <;> rfl
      have answeredNow : decide (handshake.stage = .awaiting) = false := by
        rw [up]
        rfl
      funext countdown
      cases countdown with
      | resetRetry => exact answeredNow.symm
      | txTimeout => rfl
      | ackDelay => rfl
      | rxTimeout => rfl

theorem Session.counting_take (event : Framer.Event) :
    (session.take event).2.obey session.counting = (session.take event).1.counting := by
  have damage (error : ErrorCode) : (session.noteDamage error).counting = session.counting := by
    unfold Session.noteDamage
    split <;> rfl
  cases event with
  | checksumMismatch header => exact (damage .checksum).symm
  | invalidHeader => exact (damage .header).symm
  | packet packet =>
    rw [Session.take, Session.takePacket]
    cases packet.header.code.kind with
    | reset => exact session.counting_takeReset packet
    | resetAck => exact session.counting_takeAnswer packet
    | data => exact session.counting_takeData packet

theorem Session.counting_takeAll (events : List Framer.Event) :
    (session.takeAll events).2.obey session.counting = (session.takeAll events).1.counting := by
  induction events generalizing session with
  | nil => rfl
  | cons event events ih =>
    rw [Session.takeAll]
    dsimp only
    rw [Reaction.obey_append, Session.counting_take, ih]

theorem Session.counting_watchFramer :
    session.watchFramer.2.obey session.counting = session.watchFramer.1.counting := by
  unfold Session.watchFramer
  split
  · funext countdown
    cases countdown <;> rfl
  · split
    · funext countdown
      cases countdown <;> rfl
    · rfl

theorem Session.counting_receive (chunk : Bytes) :
    (session.receive chunk).2.obey session.counting = (session.receive chunk).1.counting := by
  have handled := Session.counting_takeAll
    { session with framer := (session.framer.feed chunk).1 } (session.framer.feed chunk).2
  unfold Session.receive
  dsimp only
  rw [Reaction.obey_append, ← Session.counting_watchFramer, ← handled]
  rfl

theorem Session.counting_elapsed (countdown : Countdown) :
    (session.elapsed countdown).2.obey (Function.update session.counting countdown false) =
      (session.elapsed countdown).1.counting := by
  cases countdown with
  | txTimeout =>
    unfold Session.elapsed
    dsimp only
    split <;> funext other <;> cases other <;> rfl
  | ackDelay => funext other; cases other <;> rfl
  | rxTimeout => funext other; cases other <;> rfl
  | resetRetry =>
    have retried : (session.handshake.onRetry?.getD session.handshake).stage ≠ .awaiting := by
      unfold Handshake.onRetry?
      cases stage : session.handshake.stage <;> simp [stage]
    funext other
    cases other with
    | resetRetry => exact (decide_eq_false retried).symm
    | txTimeout => rfl
    | ackDelay => rfl
    | rxTimeout => rfl

theorem Session.counting_departData (emission : Sender.Emission) (sender : Sender) :
    (session.departData emission sender).reaction.obey session.counting =
      (session.departData emission sender).session.counting := by
  unfold Session.departData Reaction.obey
  dsimp only
  generalize (emission.carriesPayload && !(emission.retransmission && session.txArmed)) = fresh
  funext countdown
  cases armed : session.ackArmed <;> cases fresh <;> cases countdown <;>
    simp [CountdownOrder.obey, Session.counting, armed]

end orders

section steps

variable {session after : Session}

theorem Session.counting_next {departure : Session.Departure}
    (next : session.next = .ok (some departure)) :
    departure.reaction.obey session.counting = departure.session.counting := by
  cases (Session.departs_of_next next).2 with
  | reset announcing =>
    funext countdown
    cases countdown <;> rfl
  | answer answering =>
    have idle : decide (session.handshake.stage = .awaiting) = false := by
      rw [answering]
      rfl
    funext countdown
    cases countdown with
    | resetRetry => exact idle
    | txTimeout => rfl
    | ackDelay => rfl
    | rxTimeout => rfl
  | @data emission sender => exact session.counting_departData emission sender

theorem Session.counting_perform {input : Session.Input}
    (performed : session.perform input = .ok after) :
    (session.orders input).foldl CountdownOrder.obey (input.expire session.counting) =
      after.counting := by
  cases input with
  | submit datagram =>
    rcases Session.of_perform_submit performed with rfl | submitted
    · rfl
    · obtain ⟨queue, _, rfl⟩ := Session.eq_of_submit submitted
      rfl
  | reportError error =>
    cases performed
    unfold Session.reportError
    split <;> rfl
  | closeIntake => cases performed; rfl
  | askReset =>
    cases performed
    exact session.counting_restart (by intro awaiting; cases awaiting)
  | receive chunk => cases performed; exact session.counting_receive chunk
  | elapsed countdown => cases performed; exact session.counting_elapsed countdown
  | depart =>
    rcases Session.of_perform_depart performed with ⟨silent, rfl⟩ | ⟨departure, next, rfl⟩
    · simp only [Session.orders, silent]
      rfl
    · rw [Session.orders_depart next]
      exact Session.counting_next next
  | sendDone result => cases performed; rfl

end steps

end DatagramLink
