import DatagramLink.Proofs.Checked.Runs
import DatagramLink.Proofs.Session.Acquaintance

namespace DatagramLink

/-- Nothing was sent, is owed or has timed out. What is queued does not count. -/
structure Sender.Fresh (sender : Sender) : Prop where
  nextSeq : sender.nextSeq = 0
  sentAck : sender.sentAck = 0
  sent : sender.sent = 0
  acked : sender.acked = 0
  outstanding : sender.outstanding = none
  timeouts : sender.timeouts = 0
  acknowledgement : sender.acknowledgement = .settled

/-- Both streams are as they were at first. What is queued survives. -/
structure Session.Fresh (settings : Settings) (session : Session) : Prop where
  receiver : session.receiver = .new settings.maxDatagram
  sender : session.sender.Fresh

/-- The streams are fresh while the link is down. -/
structure Session.Poised (settings : Settings) (session : Session) : Prop where
  room : session.receiver.maxDatagram = settings.maxDatagram
  fresh : session.handshake.isUp = false → session.Fresh settings

/-- A reset of the peer that counts. -/
def Session.acceptsReset (session : Session) : Framer.Event → Bool
  | .packet packet => packet.header.code.kind = .reset && packet.header.flags.reset &&
      (session.peerParameters? packet).isSome
  | .checksumMismatch _ | .invalidHeader => false

/-- An answer of the peer that counts. -/
def Session.acceptsAnswer (session : Session) : Framer.Event → Bool
  | .packet packet => packet.header.code.kind = .resetAck &&
      ((session.peerParameters? packet).bind session.handshake.onAnswer?).isSome
  | .checksumMismatch _ | .invalidHeader => false

/-- The states that are reset by these packets, one after the other. -/
def Session.resetsAmong (session : Session) : List Framer.Event → List Session
  | [] => []
  | event :: events =>
    (if session.acceptsReset event then [session] else []) ++
      (session.take event).1.resetsAmong events

/-- The states that are reset when this is done to a session. -/
def Session.resets (session : Session) : Session.Input → List Session
  | .askReset => [session]
  | .receive chunk =>
    Session.resetsAmong { session with framer := (session.framer.feed chunk).1 }
      (session.framer.feed chunk).2
  | .submit _ | .reportError _ | .closeIntake | .elapsed _ | .depart | .sendDone _ => []

/-- What the application is told when this is done to a session. -/
def Session.notices (session : Session) : Session.Input → List Notice
  | .submit _ | .reportError _ | .closeIntake | .sendDone _ => []
  | .askReset => session.askReset.2.notices
  | .receive chunk => (session.receive chunk).2.notices
  | .elapsed countdown => (session.elapsed countdown).2.notices
  | .depart =>
    match session.next with
    | .ok (some departure) => departure.reaction.notices
    | .ok none | .error _ => []

/-- A reset loses something: numbers that were used, a packet that is outstanding, or the beginning
of a datagram. -/
def Session.InProgress (session : Session) : Prop :=
  session.sender.nextSeq ≠ 0 ∨ session.receiver.expected ≠ 0 ∨
    session.sender.outstanding.isSome = true ∨ session.receiver.assembly ≠ .collecting []

/-- Resets start afresh from here, and none of them discards anything silently. -/
structure Session.ResetsCleanly (settings : Settings) (session : Session) : Prop where
  down : session.handshake.isUp = false → session.Fresh settings
  asked : session.askReset.1.Fresh settings ∧
    session.askReset.1.sender.queue = session.sender.queue
  reset : ∀ event, session.acceptsReset event = true →
    (session.take event).1.Fresh settings ∧ (session.take event).1.handshake.isUp = true ∧
      (session.take event).1.sender.queue = session.sender.queue
  answered : ∀ event, session.acceptsAnswer event = true →
    (session.take event).1.Fresh settings ∧ (session.take event).1.handshake.isUp = true ∧
      (session.take event).1.sender.queue = session.sender.queue
  refused : ∀ packet, packet.header.code.kind = .reset →
    session.acceptsReset (.packet packet) = false → session.take (.packet packet) = (session, {})
  announced : ∀ input, (session.notices input).count .linkReset =
    (session.resets input).countP (·.handshake.isUp)
  nothingLost : ∀ input, ∀ state ∈ session.resets input,
    state.InProgress → state.handshake.isUp = true

section packets

variable (session : Session)

/-- A packet of the stream counts only while the link is up. -/
theorem Session.takeData_of_down (down : session.handshake.isUp = false) (packet : Packet) :
    session.takeData packet = (session, {}) := by
  rw [Session.takeData, down]
  rfl

theorem Session.take_of_acceptsReset {event : Framer.Event}
    (accepted : session.acceptsReset event = true) :
    ∃ peer, session.take event =
      ((session.restart (session.handshake.onReset peer)).1.agree peer,
        (session.restart (session.handshake.onReset peer)).2) := by
  cases event with
  | packet packet =>
    rw [Session.acceptsReset, Bool.and_eq_true, Bool.and_eq_true, decide_eq_true_iff] at accepted
    obtain ⟨⟨kind, flagged⟩, readable⟩ := accepted
    obtain ⟨peer, read⟩ := Option.isSome_iff_exists.mp readable
    refine ⟨peer, ?_⟩
    simp only [Session.take, Session.takePacket, kind, Session.takeReset, flagged, Bool.not_true,
      Bool.false_eq_true, if_false, read]
  | checksumMismatch header => cases accepted
  | invalidHeader => cases accepted

theorem Session.takeReset_of_not_acceptsReset {packet : Packet}
    (kind : packet.header.code.kind = .reset)
    (refused : session.acceptsReset (.packet packet) = false) :
    session.takeReset packet = (session, {}) := by
  unfold Session.takeReset
  split
  · rfl
  · rename_i flagged
    rw [Bool.not_eq_true', Bool.not_eq_false] at flagged
    cases read : session.peerParameters? packet with
    | none => rfl
    | some peer =>
      rw [Session.acceptsReset, kind, flagged, read] at refused
      cases refused

/-- An answer leaves both streams alone. -/
theorem Session.streams_takeAnswer (packet : Packet) :
    (session.takeAnswer packet).1.receiver = session.receiver ∧
      (session.takeAnswer packet).1.sender = session.sender ∧
      (session.takeAnswer packet).2.notices = [] := by
  unfold Session.takeAnswer
  split
  · exact ⟨rfl, rfl, rfl⟩
  · split <;> exact ⟨rfl, rfl, rfl⟩

/-- No answer takes the link down. -/
theorem Session.down_of_takeAnswer {packet : Packet}
    (down : (session.takeAnswer packet).1.handshake.isUp = false) :
    session.handshake.isUp = false := by
  unfold Session.takeAnswer at down
  split at down
  · exact down
  · split at down
    · exact down
    · rename_i handshake answered
      unfold Handshake.onAnswer? at answered
      split at answered <;> cases answered <;> cases down

theorem Session.take_of_acceptsAnswer {event : Framer.Event}
    (accepted : session.acceptsAnswer event = true) :
    ∃ packet, session.take event = session.takeAnswer packet ∧
      session.handshake.isUp = false ∧ (session.take event).1.handshake.isUp = true := by
  cases event with
  | packet packet =>
    rw [Session.acceptsAnswer, Bool.and_eq_true, decide_eq_true_iff] at accepted
    obtain ⟨kind, answers⟩ := accepted
    obtain ⟨handshake, answered⟩ := Option.isSome_iff_exists.mp answers
    obtain ⟨peer, read, completes⟩ := Option.bind_eq_some_iff.mp answered
    have taken : session.take (.packet packet) = session.takeAnswer packet := by
      rw [Session.take, Session.takePacket, kind]
    refine ⟨packet, taken, ?_⟩
    simp only [taken, Session.takeAnswer, read, completes]
    unfold Handshake.onAnswer? at completes
    unfold Handshake.isUp
    split at completes <;> rename_i stage <;> cases completes <;> rw [stage] <;> exact ⟨rfl, rfl⟩
  | checksumMismatch header => cases accepted
  | invalidHeader => cases accepted

theorem Session.notices_takeFragment (fragment : Fragment) :
    (session.takeFragment fragment).2.notices.count .linkReset = 0 := by
  unfold Session.takeFragment
  generalize session.receiver.accept fragment = result
  obtain ⟨verdict, receiver⟩ := result
  have quiet : (Session.oweAck { session with receiver }).2.notices = [] := by
    unfold Session.oweAck
    split <;> rfl
  cases verdict with
  | buffered => exact congrArg (List.count Notice.linkReset) quiet
  | delivered datagram => rfl
  | duplicate => rfl
  | outOfOrder => rfl
  | tooLarge => rfl

theorem Session.notices_takeData (packet : Packet) :
    (session.takeData packet).2.notices.count .linkReset = 0 := by
  unfold Session.takeData
  split
  · rfl
  · have quiet : (Session.acknowledge { session with
        receiver := session.receiver.note packet.header } packet.header.ack).2.notices = [] := by
      unfold Session.acknowledge
      split <;> rfl
    dsimp only
    split
    · rw [quiet]
      rfl
    · rw [Reaction.append_def, quiet]
      exact Session.notices_takeFragment _ _

/-- Of all that arrives, only a reset that is accepted while the link is up announces a reset. -/
theorem Session.notices_take (event : Framer.Event) :
    (session.take event).2.notices.count .linkReset =
      if session.acceptsReset event && session.handshake.isUp then 1 else 0 := by
  cases accepted : session.acceptsReset event with
  | true =>
    obtain ⟨peer, taken⟩ := session.take_of_acceptsReset accepted
    rw [taken, Bool.true_and]
    dsimp only [Session.restart]
    split <;> rfl
  | false =>
    rw [Bool.false_and]
    cases event with
    | packet packet =>
      rw [Session.take, Session.takePacket]
      cases kind : packet.header.code.kind with
      | data => exact session.notices_takeData packet
      | reset =>
        simp only [session.takeReset_of_not_acceptsReset kind accepted]
        rfl
      | resetAck =>
        simp only [(session.streams_takeAnswer packet).2.2]
        rfl
    | checksumMismatch header => rfl
    | invalidHeader => rfl

theorem Session.notices_takeAll (events : List Framer.Event) :
    (session.takeAll events).2.notices.count .linkReset =
      (session.resetsAmong events).countP (·.handshake.isUp) := by
  induction events generalizing session with
  | nil => rfl
  | cons event events ih =>
    have first : (session.take event).2.notices.count .linkReset =
        (if session.acceptsReset event then [session] else []).countP (·.handshake.isUp) := by
      rw [session.notices_take event]
      cases session.acceptsReset event <;> cases up : session.handshake.isUp <;> simp [up]
    rw [Session.resetsAmong, List.countP_append, ← first, ← ih (session.take event).1,
      ← List.count_append]
    rfl

theorem Session.notices_receive (chunk : Bytes) :
    (session.notices (.receive chunk)).count .linkReset =
      (session.resets (.receive chunk)).countP (·.handshake.isUp) := by
  let fed := { session with framer := (session.framer.feed chunk).1 }
  have quiet : (fed.takeAll (session.framer.feed chunk).2).1.watchFramer.2.notices = [] := by
    unfold Session.watchFramer
    split
    · rfl
    · split <;> rfl
  show (((fed.takeAll (session.framer.feed chunk).2).2 ++
    (fed.takeAll (session.framer.feed chunk).2).1.watchFramer.2).notices).count .linkReset = _
  rw [Reaction.append_def, quiet, List.append_nil]
  exact fed.notices_takeAll _

theorem Session.announced (input : Session.Input) : (session.notices input).count .linkReset =
    (session.resets input).countP (·.handshake.isUp) := by
  cases input with
  | askReset =>
    rw [Session.notices, Session.resets, Session.askReset, Session.restart]
    cases up : session.handshake.isUp <;> simp [up]
  | receive chunk => exact session.notices_receive chunk
  | elapsed countdown =>
    cases countdown with
    | txTimeout =>
      rw [Session.notices, Session.elapsed]
      split <;> rfl
    | _ => rfl
  | depart =>
    rw [Session.notices]
    split
    · rename_i departure next
      have quiet : departure.reaction.notices = [] := by
        cases (Session.departs_of_next next).2 <;> rfl
      rw [quiet]
      rfl
    all_goals rfl
  | _ => rfl

theorem Session.resetsAmong_mem_between {state : Session} {events : List Framer.Event}
    (member : state ∈ session.resetsAmong events) : state ∈ session.between events := by
  induction events generalizing session with
  | nil => cases member
  | cons event events ih =>
    rcases List.mem_append.mp member with here | later
    · split at here
      · exact List.mem_singleton.mp here ▸ List.mem_cons_self ..
      · cases here
    · exact List.mem_cons_of_mem _ (ih _ later)

end packets

section steps

variable {settings : Settings} {session after : Session}

/-- A reset starts both streams afresh and keeps what is queued. -/
theorem Session.fresh_restart (room : session.receiver.maxDatagram = settings.maxDatagram)
    (handshake : Handshake) : (session.restart handshake).1.Fresh settings ∧
      (session.restart handshake).1.sender.queue = session.sender.queue :=
  ⟨⟨congrArg Receiver.new room, ⟨rfl, rfl, rfl, rfl, rfl, rfl, rfl⟩⟩, rfl⟩

theorem Session.Fresh.poised (fresh : session.Fresh settings) : session.Poised settings :=
  ⟨congrArg Receiver.maxDatagram fresh.receiver, fun _ => fresh⟩

/-- What leaves the streams alone, and does not take the link down. -/
theorem Session.Poised.of_streams (poised : session.Poised settings)
    (receiver : after.receiver = session.receiver) (sender : after.sender = session.sender)
    (down : after.handshake.isUp = false → session.handshake.isUp = false) :
    after.Poised settings where
  room := receiver ▸ poised.room
  fresh := fun nowDown => ⟨receiver ▸ (poised.fresh (down nowDown)).receiver,
    sender ▸ (poised.fresh (down nowDown)).sender⟩

theorem Session.maxDatagram_takeData (packet : Packet) :
    (session.takeData packet).1.receiver.maxDatagram = session.receiver.maxDatagram := by
  unfold Session.takeData
  split
  · rfl
  · let noted := { session with receiver := session.receiver.note packet.header }
    have kept : ((noted.acknowledge packet.header.ack).1.heed packet.header.code.error).receiver =
        noted.receiver :=
      ((noted.acknowledge packet.header.ack).1.profile_heed packet.header.code.error).2.trans
        (noted.profile_acknowledge packet.header.ack).2.2
    have room : noted.receiver.maxDatagram = session.receiver.maxDatagram := rfl
    dsimp only
    split
    · exact (congrArg Receiver.maxDatagram kept).trans room
    · rename_i fragment carried
      have taken := congrArg Profile.maxDatagram (Session.profile_takeFragment
        ((noted.acknowledge packet.header.ack).1.heed packet.header.code.error) fragment).1
      exact taken.trans ((congrArg Receiver.maxDatagram kept).trans room)

theorem Session.Poised.take (poised : session.Poised settings) (event : Framer.Event) :
    (session.take event).1.Poised settings := by
  have damage : ∀ error, (session.noteDamage error).Poised settings := by
    intro error
    unfold Session.noteDamage
    split
    · rename_i up
      exact ⟨poised.room, fun down => absurd up (ne_true_of_eq_false down)⟩
    · exact poised
  cases event with
  | packet packet =>
    rw [Session.take, Session.takePacket]
    cases kind : packet.header.code.kind with
    | data =>
      dsimp only
      refine ⟨(Session.maxDatagram_takeData packet).trans poised.room, fun down => ?_⟩
      rw [(session.sameLink_takeData packet).handshake] at down
      rw [session.takeData_of_down down]
      exact poised.fresh down
    | reset =>
      cases accepted : session.acceptsReset (.packet packet) with
      | true =>
        obtain ⟨peer, taken⟩ := session.take_of_acceptsReset accepted
        rw [Session.take, Session.takePacket, kind] at taken
        obtain ⟨fresh, _⟩ := Session.fresh_restart poised.room (session.handshake.onReset peer)
        simp only [taken]
        exact Session.Fresh.poised ⟨fresh.receiver, fresh.sender⟩
      | false => simpa only [session.takeReset_of_not_acceptsReset kind accepted] using poised
    | resetAck =>
      obtain ⟨receiver, sender, _⟩ := session.streams_takeAnswer packet
      exact poised.of_streams receiver sender session.down_of_takeAnswer
  | checksumMismatch header => exact damage .checksum
  | invalidHeader => exact damage .header

theorem Session.Poised.of_mem_between {events : List Framer.Event} {state : Session}
    (poised : session.Poised settings) (member : state ∈ session.between events) :
    state.Poised settings := by
  induction events generalizing session with
  | nil => exact List.mem_singleton.mp member ▸ poised
  | cons event events ih =>
    rcases List.mem_cons.mp member with rfl | later
    · exact poised
    · exact ih (poised.take event) later

theorem Session.Poised.takeAll (poised : session.Poised settings) (events : List Framer.Event) :
    (session.takeAll events).1.Poised settings := by
  induction events generalizing session with
  | nil => exact poised
  | cons event events ih => exact ih (poised.take event)

theorem Session.Poised.elapsed (poised : session.Poised settings) (countdown : Countdown) :
    (session.elapsed countdown).1.Poised settings := by
  cases countdown with
  | txTimeout =>
    refine ⟨?_, fun down => ?_⟩
    · unfold Session.elapsed
      dsimp only
      split <;> exact poised.room
    · have before : session.handshake.isUp = false := by
        unfold Session.elapsed at down
        dsimp only at down
        split at down <;> exact down
      have idle : session.sender.timeOut? = none := by
        rw [Sender.timeOut?, (poised.fresh before).sender.outstanding, Option.map_none]
      simp only [Session.elapsed, idle]
      exact ⟨(poised.fresh before).receiver, (poised.fresh before).sender⟩
  | ackDelay =>
    refine ⟨poised.room, fun down => ?_⟩
    have fresh := poised.fresh down
    have same : session.sender.ackOverdue = session.sender := by
      rw [Sender.ackOverdue, fresh.sender.acknowledgement]
    simp only [Session.elapsed, same]
    exact ⟨fresh.receiver, fresh.sender⟩
  | resetRetry =>
    refine poised.of_streams rfl rfl fun down => ?_
    have retried : session.handshake.onRetry?.getD session.handshake = session.handshake ∨
        session.handshake.stage = .awaiting := by
      unfold Handshake.onRetry?
      split
      · exact Or.inr (by assumption)
      all_goals exact Or.inl rfl
    rcases retried with same | awaiting
    · simpa only [Session.elapsed, same] using down
    · exact congrArg Handshake.Stage.isUp awaiting
  | rxTimeout => exact poised.of_streams rfl rfl id

theorem Session.Poised.next (poised : session.Poised settings) {departure : Session.Departure}
    (next : session.next = .ok (some departure)) : departure.session.Poised settings := by
  cases (Session.departs_of_next next).2 with
  | reset announcing =>
    have fresh := poised.fresh (congrArg Handshake.Stage.isUp announcing)
    exact ⟨poised.room, fun _ => ⟨fresh.receiver, { fresh.sender with }⟩⟩
  | answer answering => exact ⟨poised.room, fun down => by cases down⟩
  | data up sending =>
    refine ⟨poised.room, fun down => ?_⟩
    exact absurd (congrArg Handshake.Stage.isUp up) (ne_true_of_eq_false down)

theorem Session.Poised.perform {input : Session.Input} (poised : session.Poised settings)
    (performed : session.perform input = .ok after) : after.Poised settings := by
  cases input with
  | submit datagram =>
    rcases Session.of_perform_submit performed with rfl | submitted
    · exact poised
    · obtain ⟨queue, _, rfl⟩ := Session.eq_of_submit submitted
      exact ⟨poised.room, fun down =>
        ⟨(poised.fresh down).receiver, { (poised.fresh down).sender with }⟩⟩
  | reportError error =>
    cases performed
    unfold Session.reportError
    split
    · exact poised
    · exact ⟨poised.room, fun down =>
        ⟨(poised.fresh down).receiver, { (poised.fresh down).sender with }⟩⟩
  | closeIntake => cases performed; exact poised.of_streams rfl rfl id
  | askReset => cases performed; exact (Session.fresh_restart poised.room _).1.poised
  | receive chunk =>
    cases performed
    obtain ⟨armed, received⟩ := session.receive_eq chunk
    rw [received]
    exact (poised.takeAll _).of_streams rfl rfl id
  | elapsed countdown => cases performed; exact poised.elapsed countdown
  | depart =>
    rcases Session.of_perform_depart performed with ⟨_, rfl⟩ | ⟨departure, next, rfl⟩
    · exact poised
    · exact poised.next next
  | sendDone result =>
    cases performed
    exact ⟨poised.room, fun down =>
      ⟨(poised.fresh down).receiver, { (poised.fresh down).sender with }⟩⟩

theorem Session.Poised.of_mem_during {input : Session.Input} {state : Session}
    (poised : session.Poised settings) (member : state ∈ session.during input) :
    state.Poised settings := by
  cases input with
  | receive chunk =>
    have fed : Session.Poised settings
        { session with framer := (session.framer.feed chunk).1 } := poised.of_streams rfl rfl id
    exact fed.of_mem_between member
  | _ => exact List.mem_singleton.mp member ▸ poised

theorem Session.Poised.of_mem_states {inputs : List Session.Input} {state : Session}
    (poised : session.Poised settings) (reached : state ∈ session.states inputs) :
    state.Poised settings := by
  induction inputs generalizing session with
  | nil => exact List.mem_singleton.mp reached ▸ poised
  | cons input inputs ih =>
    rw [Session.states] at reached
    rcases List.mem_append.mp reached with here | later
    · exact poised.of_mem_during here
    · cases performed : session.perform input with
      | error => rw [performed] at later; cases later
      | ok after =>
        rw [performed] at later
        exact ih (poised.perform performed) later

theorem Session.poised_ofSettings (made : Session.ofSettings settings = .ok session) :
    session.Poised settings := by
  obtain ⟨sender, parameters, opened, _, rfl⟩ := Session.of_ofSettings made
  obtain ⟨queue, _, rfl⟩ := Sender.of_ofCapacity opened
  exact ⟨rfl, fun _ => ⟨rfl, ⟨rfl, rfl, rfl, rfl, rfl, rfl, rfl⟩⟩⟩

theorem Session.Poised.resetsCleanly (poised : session.Poised settings) :
    session.ResetsCleanly settings where
  down := poised.fresh
  asked := Session.fresh_restart poised.room _
  reset := by
    intro event accepted
    obtain ⟨peer, taken⟩ := session.take_of_acceptsReset accepted
    obtain ⟨fresh, queue⟩ := Session.fresh_restart poised.room (session.handshake.onReset peer)
    rw [taken]
    exact ⟨⟨fresh.receiver, fresh.sender⟩, rfl, queue⟩
  answered := by
    intro event accepted
    obtain ⟨packet, taken, down, up⟩ := session.take_of_acceptsAnswer accepted
    obtain ⟨receiver, sender, _⟩ := session.streams_takeAnswer packet
    have fresh := poised.fresh down
    refine ⟨?_, up, ?_⟩ <;> rw [taken]
    · exact ⟨receiver ▸ fresh.receiver, sender ▸ fresh.sender⟩
    · rw [sender]
  refused := by
    intro packet kind refused
    rw [Session.take, Session.takePacket, kind]
    exact session.takeReset_of_not_acceptsReset kind refused
  announced := session.announced
  nothingLost := by
    intro input state hit lossy
    have reached : state ∈ session.during input := by
      cases input with
      | askReset => exact hit
      | receive chunk => exact Session.resetsAmong_mem_between _ hit
      | _ => cases hit
    by_contra down
    obtain ⟨receiver, sender⟩ :=
      (poised.of_mem_during reached).fresh (Bool.eq_false_iff.mpr down)
    rcases lossy with numbered | expecting | waiting | begun
    · exact numbered sender.nextSeq
    · exact expecting (congrArg Receiver.expected receiver)
    · rw [sender.outstanding] at waiting
      cases waiting
    · exact begun (congrArg Receiver.assembly receiver)

/-- Whatever is done to a new session, and also between the packets of a chunk: its streams are
fresh whenever the link is down, and after every reset and every answer to one. No reset touches
what is queued. Each reset while the link is up is announced once, and no other one loses
anything. -/
theorem Session.resetsCleanly_of_states (made : Session.ofSettings settings = .ok session)
    {inputs : List Session.Input} {state : Session} (reached : state ∈ session.states inputs) :
    state.ResetsCleanly settings :=
  ((Session.poised_ofSettings made).of_mem_states reached).resetsCleanly

end steps

/-- A datagram leaves once this side's reset is answered, and the peer asks for a reset before it
acknowledges that. -/
def interruptedInputs : List Session.Input :=
  [.askReset, .depart, .sendDone (.ok ()), .receive serialAnswer.encode, .submit [1, 2], .depart]

theorem resetsCleanly_while_sending : ∃ session state,
    Session.ofSettings .serialLine = .ok session ∧ state ∈ session.states interruptedInputs ∧
      state.sender.outstanding.isSome = true ∧ state.acceptsReset (.packet serialReset) = true ∧
      (state.take (.packet serialReset)).2.notices = [.linkReset] ∧
      state.ResetsCleanly .serialLine := by
  have made := Session.ofSettings_ofValid _ Settings.check_serialLine
  have reaches : ((Session.ofValid _ Settings.check_serialLine).states interruptedInputs).any
      (fun state => state.sender.outstanding.isSome && state.acceptsReset (.packet serialReset) &&
        (state.take (.packet serialReset)).2.notices = [.linkReset]) = true := by decide +kernel
  obtain ⟨state, reached, holds⟩ := List.any_eq_true.mp reaches
  rw [Bool.and_eq_true, Bool.and_eq_true, decide_eq_true_iff] at holds
  obtain ⟨⟨waiting, accepted⟩, announced⟩ := holds
  exact ⟨_, state, made, reached, waiting, accepted, announced,
    Session.resetsCleanly_of_states made reached⟩

end DatagramLink
