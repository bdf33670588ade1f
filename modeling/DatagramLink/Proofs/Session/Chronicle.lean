import DatagramLink.Proofs.Session.Departures
import DatagramLink.Proofs.Session.FreshStart

namespace DatagramLink

/-- What has come of what was done to a session. No operation reads it. -/
inductive Session.Occurrence where
  | queued (datagram : Bytes)
  /-- The last packet of the front datagram is acknowledged. -/
  | completed
  /-- A reset, of either side: both streams start over. -/
  | restarted
  /-- A fragment that was next in line. -/
  | accepted
  /-- The fragment accepted last came once more. -/
  | repeated
  /-- There is a condition to report to the peer, or none after all. -/
  | noted (error : ErrorCode)
  /-- A data packet left. -/
  | sent (packet : Packet)
  /-- No further datagrams are taken over. -/
  | closed
  deriving DecidableEq

/-- What comes of a fragment. -/
def Verdict.occurrences : Verdict → List Session.Occurrence
  | .buffered | .delivered _ => [.accepted]
  | .duplicate => [.repeated]
  | .outOfOrder => [.noted .order]
  | .tooLarge => [.accepted, .noted .outOfMemory]

/-- What comes of an acknowledgement. -/
def Coverage.occurrences : Coverage → List Session.Occurrence
  | .datagramCompleted => [.completed]
  | .nothingOutstanding | .notAcked | .packetAcked => []

/-- While the link is down there is nobody to report damage to. -/
def Session.damageDone (session : Session) (error : ErrorCode) : List Session.Occurrence :=
  if session.handshake.isUp then [.noted error] else []

/-- What came of a data packet: what it acknowledges, and then what it carries. -/
def Session.outcomes (session : Session) (packet : Packet) : List Session.Occurrence :=
  if !session.handshake.isUp || packet.header.flags.reset then []
  else (session.sender.acknowledge packet.header.ack).1.occurrences ++
    match Fragment.ofPacket? packet with
    | none => []
    | some fragment => (session.receiver.accept fragment).1.occurrences

/-- What comes of an event of the framer. -/
def Session.occurrencesOf (session : Session) : Framer.Event → List Session.Occurrence
  | .checksumMismatch _ => session.damageDone .checksum
  | .invalidHeader => session.damageDone .header
  | .packet packet =>
    match packet.header.code.kind with
    | .reset => if session.acceptsReset (.packet packet) then [.restarted] else []
    | .resetAck => []
    | .data => session.outcomes packet

/-- What comes of all events of a chunk, in order. -/
def Session.occurrencesAmong (session : Session) : List Framer.Event → List Session.Occurrence
  | [] => []
  | event :: events =>
    session.occurrencesOf event ++ (session.take event).1.occurrencesAmong events

/-- What comes of this when it is done to the session, in the order it happens. -/
def Session.occurrences (session : Session) : Session.Input → List Session.Occurrence
  | .submit datagram =>
    match session.submit datagram with
    | .error _ => []
    | .ok _ => [.queued datagram]
  | .reportError error => if error = .timeout then [] else [.noted error]
  | .closeIntake => [.closed]
  | .askReset => [.restarted]
  | .receive chunk => session.occurrencesAmong (session.framer.feed chunk).2
  | .depart =>
    match session.next with
    | .error _ | .ok none => []
    | .ok (some departure) =>
      if departure.packet.header.code.kind = .data then [.sent departure.packet] else []
  | .elapsed _ | .sendDone _ => []

/-- A session and what came of all that was done to it, the latest first. -/
structure Chronicle where
  session : Session
  past : List Session.Occurrence

/-- A session with nothing behind it. -/
def Chronicle.start (session : Session) : Chronicle := ⟨session, []⟩

/-- One thing is done to the session, and recorded. -/
def Chronicle.perform (chronicle : Chronicle) (input : Session.Input) : Except Fault Chronicle :=
  (chronicle.session.perform input).map fun after =>
    ⟨after, (chronicle.session.occurrences input).reverse ++ chronicle.past⟩

/-- One thing after another is done to the session, and recorded. -/
def Chronicle.run (chronicle : Chronicle) : List Session.Input → Except Fault Chronicle
  | [] => .ok chronicle
  | input :: inputs => (chronicle.perform input).bind fun after => after.run inputs

theorem Chronicle.perform_eq {chronicle : Chronicle} {input : Session.Input} {after : Session}
    (performed : chronicle.session.perform input = .ok after) :
    chronicle.perform input =
      .ok ⟨after, (chronicle.session.occurrences input).reverse ++ chronicle.past⟩ := by
  rw [Chronicle.perform, performed]
  rfl

/-- The record leaves the run alone. -/
theorem Chronicle.session_run (chronicle : Chronicle) (inputs : List Session.Input) :
    (chronicle.run inputs).map Chronicle.session = chronicle.session.run inputs := by
  induction inputs generalizing chronicle with
  | nil => rfl
  | cons input inputs ih =>
    rw [Chronicle.run, Session.run]
    cases performed : chronicle.session.perform input with
    | error fault =>
      rw [Chronicle.perform, performed]
      rfl
    | ok after =>
      rw [Chronicle.perform_eq performed]
      exact ih ⟨after, _⟩

/-- The small steps that all inputs are made of, and what comes of each. -/
inductive Session.Goes (session : Session) : List Session.Occurrence → Session → Prop
  | quiet {after : Session} {outstanding : Option Outstanding} {acknowledgement : Acknowledgement}
      {busy : Bool} (receiver : after.receiver.expected = session.receiver.expected)
      (sender : after.sender = { session.sender with outstanding, acknowledgement, busy })
      (due : session.sender.acknowledgement = .due → acknowledgement = .due)
      (intake : after.accepting = session.accepting)
      (up : session.handshake.isUp = true → after.handshake.isUp = true) : session.Goes [] after
  | queued {after : Session} {datagram : Bytes} (submitted : session.submit datagram = .ok after) :
      session.Goes [.queued datagram] after
  | noted (error : ErrorCode) :
      session.Goes [.noted error] { session with sender := session.sender.setReport error }
  | restarted {after : Session} (receiver : after.receiver = session.receiver.restart)
      (sender : after.sender = session.sender.rewind)
      (intake : after.accepting = session.accepting) : session.Goes [.restarted] after
  | acknowledged {limit : Nat} {queue : List Bytes}
      (regular : session.sender.course.Regular limit queue) (ack : UInt8) :
      session.Goes (session.sender.acknowledge ack).1.occurrences (session.acknowledge ack).1
  | took (fragment : Fragment) :
      session.Goes (session.receiver.accept fragment).1.occurrences
        (session.takeFragment fragment).1
  | sent {emission : Sender.Emission} {sender : Sender} (up : session.handshake.isUp = true)
      (sending : session.sender.next session.receiver.expected session.payloadLimit =
        .ok (some (emission, sender))) :
      session.Goes [.sent emission.packet] (session.departData emission sender).session
  | closed : session.Goes [.closed] session.closeIntake

/-- Small steps one after another. -/
inductive Session.Leads (session : Session) : List Session.Occurrence → Session → Prop
  | nowhere : session.Leads [] session
  | on {middle after : Session} {first new : List Session.Occurrence} :
      session.Leads first middle → middle.Goes new after → session.Leads (first ++ new) after

section steps

variable {settings : Settings} {session middle after : Session}
  {first second : List Session.Occurrence}

theorem Session.Leads.trans (leads : session.Leads first middle)
    (further : middle.Leads second after) : session.Leads (first ++ second) after := by
  induction further with
  | nowhere => rwa [List.append_nil]
  | on _ goes ih =>
    rw [← List.append_assoc]
    exact .on ih goes

theorem Session.Goes.leads (goes : session.Goes first after) : session.Leads first after :=
  .on .nowhere goes

/-- Nothing of interest happens if both streams and the handshake stay as they are. -/
theorem Session.Goes.same (receiver : after.receiver.expected = session.receiver.expected)
    (sender : after.sender = session.sender) (intake : after.accepting = session.accepting)
    (up : session.handshake.isUp = true → after.handshake.isUp = true) : session.Goes [] after :=
  .quiet receiver sender id intake up

theorem Session.leads_noteDamage (session : Session) (error : ErrorCode) :
    session.Leads (session.damageDone error) (session.noteDamage error) := by
  unfold Session.damageDone Session.noteDamage
  split
  · exact Session.Goes.leads (.noted error)
  · exact .nowhere

theorem Session.goes_heed (session : Session) (error : ErrorCode) :
    session.Goes [] (session.heed error) := by
  unfold Session.heed
  split
  · cases held : session.sender.outstanding with
    | none =>
      simp only [Sender.resend?, held, Option.map_none, Option.getD_none]
      exact .same rfl rfl rfl id
    | some packet =>
      simp only [Sender.resend?, held, Option.map_some, Option.getD_some]
      exact .quiet rfl rfl id rfl id
  · exact .same rfl rfl rfl id

theorem Session.leads_takeData (sane : session.profile.Sane settings) (packet : Packet) :
    session.Leads (session.outcomes packet) (session.takeData packet).1 := by
  unfold Session.outcomes Session.takeData
  split
  · exact .nowhere
  · obtain ⟨queue, regular⟩ := sane.sender
    let noted := { session with receiver := session.receiver.note packet.header }
    have start : session.Leads [] noted := Session.Goes.leads (.same rfl rfl rfl id)
    have still : noted.sender.course.Regular session.payloadLimit queue := regular
    have acknowledged := Session.Goes.acknowledged still packet.header.ack
    have heard := (start.on acknowledged).on (Session.goes_heed _ packet.header.code.error)
    rw [List.append_nil, List.nil_append] at heard
    cases carried : Fragment.ofPacket? packet with
    | none =>
      rw [List.append_nil]
      exact heard
    | some fragment =>
      have receiver : ((noted.acknowledge packet.header.ack).1.heed
          packet.header.code.error).receiver = session.receiver.note packet.header :=
        (Session.profile_heed _ _).2.trans (noted.profile_acknowledge _).2.2
      have took := heard.on (.took fragment)
      rw [receiver, Receiver.accept_note] at took
      exact took

theorem Session.leads_take (sane : session.profile.Sane settings) (event : Framer.Event) :
    session.Leads (session.occurrencesOf event) (session.take event).1 := by
  cases event with
  | checksumMismatch header => exact session.leads_noteDamage .checksum
  | invalidHeader => exact session.leads_noteDamage .header
  | packet packet =>
    rw [Session.take, Session.takePacket, Session.occurrencesOf]
    cases kind : packet.header.code.kind with
    | data => exact Session.leads_takeData sane packet
    | resetAck =>
      obtain ⟨receiver, sender, _⟩ := session.streams_takeAnswer packet
      have intake : (session.takeAnswer packet).1.accepting = session.accepting := by
        unfold Session.takeAnswer
        split
        · rfl
        · split <;> rfl
      refine Session.Goes.leads
        (.same (congrArg Receiver.expected receiver) sender intake fun up => ?_)
      by_contra down
      rw [session.down_of_takeAnswer (Bool.eq_false_iff.mpr down)] at up
      cases up
    | reset =>
      dsimp only
      split
      · rename_i accepted
        obtain ⟨peer, taken⟩ := session.take_of_acceptsReset accepted
        rw [Session.take, Session.takePacket, kind] at taken
        dsimp only at taken
        rw [taken]
        exact Session.Goes.leads (.restarted rfl rfl rfl)
      · rename_i refused
        rw [session.takeReset_of_not_acceptsReset kind (Bool.eq_false_iff.mpr refused)]
        exact .nowhere

theorem Session.leads_takeAll (sane : session.profile.Sane settings) (events : List Framer.Event) :
    session.Leads (session.occurrencesAmong events) (session.takeAll events).1 := by
  induction events generalizing session with
  | nil => exact .nowhere
  | cons event events ih => exact (Session.leads_take sane event).trans (ih sane.take)

theorem Session.goes_elapsed (session : Session) (countdown : Countdown) :
    session.Goes [] (session.elapsed countdown).1 := by
  cases countdown with
  | txTimeout =>
    unfold Session.elapsed
    dsimp only
    split
    · rename_i timedOut
      obtain ⟨packet, _, same⟩ := Option.map_eq_some_iff.mp timedOut
      cases same
      exact .quiet rfl rfl id rfl id
    · exact .same rfl rfl rfl id
  | ackDelay =>
    cases owed : session.sender.acknowledgement with
    | owed =>
      have same : session.sender.ackOverdue = { session.sender with acknowledgement := .due } := by
        rw [Sender.ackOverdue, owed]
      exact .quiet rfl same (fun _ => rfl) rfl id
    | settled =>
      have same : session.sender.ackOverdue = session.sender := by rw [Sender.ackOverdue, owed]
      exact .same rfl same rfl id
    | due =>
      have same : session.sender.ackOverdue = session.sender := by rw [Sender.ackOverdue, owed]
      exact .same rfl same rfl id
  | resetRetry =>
    refine .same rfl rfl rfl fun up => ?_
    have kept : session.handshake.onRetry? = none := by
      unfold Handshake.isUp at up
      unfold Handshake.onRetry?
      cases stage : session.handshake.stage with
      | awaiting =>
        rw [stage] at up
        cases up
      | _ => rfl
    simp only [Session.elapsed, kept, Option.getD_none]
    exact up
  | rxTimeout => exact .same rfl rfl rfl id

theorem Session.leads_depart (performed : session.perform .depart = .ok after) :
    session.Leads (session.occurrences .depart) after := by
  rw [Session.occurrences]
  rcases Session.of_perform_depart performed with ⟨silent, rfl⟩ | ⟨departure, next, rfl⟩
  · rw [silent]
    exact .nowhere
  · rw [next]
    cases (Session.departs_of_next next).2 with
    | reset announcing =>
      have down : session.handshake.isUp = false := congrArg Handshake.Stage.isUp announcing
      exact Session.Goes.leads (.quiet rfl rfl id rfl fun up => absurd down (ne_false_of_eq_true up))
    | answer answering => exact Session.Goes.leads (.quiet rfl rfl id rfl fun _ => rfl)
    | @data emission sender up sending =>
      have data : (session.departData emission sender).packet.header.code.kind = .data :=
        (Sender.kind_of_next sending).1
      dsimp only
      rw [if_pos data]
      exact Session.Goes.leads (.sent (congrArg Handshake.Stage.isUp up) sending)

/-- Whatever is done, it leads step by step to what comes of it. -/
theorem Session.leads_perform {input : Session.Input} (sane : session.Sane settings)
    (performed : session.perform input = .ok after) :
    session.Leads (session.occurrences input) after := by
  cases input with
  | submit datagram =>
    rw [Session.perform] at performed
    rw [Session.occurrences]
    cases submitted : session.submit datagram with
    | error refusal =>
      rw [submitted] at performed
      cases performed
      exact .nowhere
    | ok taken =>
      rw [submitted] at performed
      cases performed
      exact Session.Goes.leads (.queued submitted)
  | reportError error =>
    cases performed
    rw [Session.occurrences, Session.reportError]
    split
    · exact .nowhere
    · exact Session.Goes.leads (.noted error)
  | closeIntake => cases performed; exact Session.Goes.closed.leads
  | askReset => cases performed; exact Session.Goes.leads (.restarted rfl rfl rfl)
  | receive chunk =>
    cases performed
    obtain ⟨armed, received⟩ := session.receive_eq chunk
    have taken := Session.leads_takeAll sane.profile (session.framer.feed chunk).2
    rw [Session.occurrences, received, ← List.append_nil (session.occurrencesAmong _)]
    exact taken.on (.same rfl rfl rfl id)
  | elapsed countdown => cases performed; exact (session.goes_elapsed countdown).leads
  | depart => exact Session.leads_depart performed
  | sendDone result => cases performed; exact Session.Goes.leads (.quiet rfl rfl id rfl id)

end steps

/-- A session that is sane, and that while it is up knows what its peer can receive. -/
structure Session.Sound (settings : Settings) (session : Session) : Prop where
  sane : session.Sane settings
  acquainted : ∃ peer : LinkParameters, peer.rxMtu.toNat ≠ 0 ∧ session.Acquainted peer

section sound

variable {settings : Settings} {session : Session}

theorem Session.sound_ofSettings (made : Session.ofSettings settings = .ok session) :
    session.Sound settings := by
  obtain ⟨sender, parameters, _, _, rfl⟩ := Session.of_ofSettings made
  exact ⟨Session.sane_ofSettings made, { parameters with rxMtu := 1 }, Nat.one_ne_zero, .of_down rfl⟩

/-- What can be received never exceeds what a length field can say. -/
theorem Session.Sound.next_ok (sound : session.Sound settings) :
    ∃ departure?, session.next = .ok departure? := by
  obtain ⟨peer, _, acquainted⟩ := sound.acquainted
  refine sound.sane.profile.next_ok_of_small fun up => ?_
  rw [acquainted.agreed up]
  exact Nat.lt_of_le_of_lt (Nat.min_le_right _ _) peer.rxMtu.toNat_lt

theorem Session.Sound.perform (sound : session.Sound settings) (input : Session.Input) :
    ∃ after, session.perform input = .ok after ∧ after.Sound settings := by
  obtain ⟨after, performed⟩ := Session.perform_ok sound.next_ok input
  obtain ⟨peer, receives, acquainted⟩ := sound.acquainted
  exact ⟨after, performed, sound.sane.of_perform performed,
    Session.acquainted_perform receives acquainted performed⟩

end sound

section laws

variable {settings : Settings} (law : Session → List Session.Occurrence → Prop)

theorem Session.Leads.keeps
    (step : ∀ {session after : Session} {new past : List Session.Occurrence},
      session.Goes new after → law session past → law after (new.reverse ++ past))
    {session after : Session} {new past : List Session.Occurrence} (leads : session.Leads new after)
    (holds : law session past) : law after (new.reverse ++ past) := by
  induction leads with
  | nowhere => exact holds
  | on _ goes ih =>
    rw [List.reverse_append, List.append_assoc]
    exact step goes ih

/-- A law that every small step keeps holds after every run, and every run ends. -/
theorem Chronicle.run_keeps
    (step : ∀ {session after : Session} {new past : List Session.Occurrence},
      session.Goes new after → law session past → law after (new.reverse ++ past))
    (chronicle : Chronicle) (sound : chronicle.session.Sound settings)
    (holds : law chronicle.session chronicle.past) (inputs : List Session.Input) :
    ∃ after, chronicle.run inputs = .ok after ∧ after.session.Sound settings ∧
      law after.session after.past := by
  induction inputs generalizing chronicle with
  | nil => exact ⟨chronicle, rfl, sound, holds⟩
  | cons input inputs ih =>
    obtain ⟨session, performed, soundAfter⟩ := sound.perform input
    have kept := (Session.leads_perform sound.sane performed).keeps law step holds
    obtain ⟨after, ran, result⟩ := ih ⟨session, _⟩ soundAfter kept
    refine ⟨after, ?_, result⟩
    rw [Chronicle.run, Chronicle.perform_eq performed]
    exact ran

end laws

end DatagramLink
