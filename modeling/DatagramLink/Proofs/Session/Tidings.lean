import DatagramLink.Proofs.Session.Chronicle

namespace DatagramLink

/-- The condition that was noted, if one was. -/
def Session.Occurrence.error? : Session.Occurrence → Option ErrorCode
  | .noted error => some error
  | .queued _ | .completed | .restarted | .accepted | .repeated | .sent _ | .closed => none

/-- Whatever was to be told before that is told, or void. -/
def Session.Occurrence.settles : Session.Occurrence → Bool
  | .sent _ | .restarted => true
  | .queued _ | .completed | .accepted | .repeated | .noted _ | .closed => false

/-- What happened since the last data packet or reset. Here and below, the latest comes first. -/
def Session.news (past : List Session.Occurrence) : List Session.Occurrence :=
  past.takeWhile (!·.settles)

/-- What has come of the session since the last reset, latest first. -/
def Session.sinceRestart (past : List Session.Occurrence) : List Session.Occurrence :=
  past.takeWhile (· ≠ .restarted)

/-- How many fragments were accepted since the last reset. -/
def Session.arrivals (past : List Session.Occurrence) : Nat :=
  (Session.sinceRestart past).count .accepted

/-- The condition that is to be reported. A later one replaces an earlier one. -/
def Session.condition (past : List Session.Occurrence) : ErrorCode :=
  ((Session.news past).findSome? Session.Occurrence.error?).getD .none

section records

variable {past : List Session.Occurrence} {occurrence : Session.Occurrence}

theorem Session.news_cons (unsettled : occurrence.settles = false) :
    Session.news (occurrence :: past) = occurrence :: Session.news past := by
  rw [Session.news, List.takeWhile_cons, unsettled]
  rfl

theorem Session.sinceRestart_cons (goesOn : occurrence ≠ .restarted) :
    Session.sinceRestart (occurrence :: past) = occurrence :: Session.sinceRestart past := by
  rw [Session.sinceRestart, List.takeWhile_cons, if_pos (decide_eq_true goesOn)]
  rfl

theorem Session.arrivals_cons (goesOn : occurrence ≠ .restarted) :
    Session.arrivals (occurrence :: past) =
      Session.arrivals past + if occurrence = .accepted then 1 else 0 := by
  rw [Session.arrivals, Session.sinceRestart_cons goesOn, List.count_cons]
  simp only [beq_iff_eq, Session.arrivals]

theorem Session.condition_cons (unsettled : occurrence.settles = false) :
    Session.condition (occurrence :: past) =
      occurrence.error?.getD (Session.condition past) := by
  rw [Session.condition, Session.news_cons unsettled, List.findSome?_cons]
  cases occurrence.error? <;> rfl

end records

/-- What every data packet has told, as of when it left. Nothing is left out between one data packet
and the next, and the first one after a reset tells what happened since that. -/
def Session.Told (past : List Session.Occurrence) : Prop :=
  ∀ later packet before, past = later ++ .sent packet :: before →
    packet.header.ack = UInt8.ofNat (Session.arrivals before) ∧
      packet.header.code.error = Session.condition before

theorem Session.told_nil : Session.Told [] := by
  intro later packet before same
  cases later <;> cases same

theorem Session.Told.cons {past : List Session.Occurrence} {occurrence : Session.Occurrence}
    (told : Session.Told past)
    (tells : ∀ packet, occurrence = .sent packet →
      packet.header.ack = UInt8.ofNat (Session.arrivals past) ∧
        packet.header.code.error = Session.condition past) :
    Session.Told (occurrence :: past) := by
  intro later packet before same
  cases later with
  | nil =>
    obtain ⟨sent, rfl⟩ := List.cons.inj same
    exact tells packet sent
  | cons latest later => exact told later packet before (List.cons.inj same).2

/-- A session has in store what its past calls for. -/
structure Session.Tells (session : Session) (past : List Session.Occurrence) : Prop where
  expected : session.receiver.expected = UInt8.ofNat (Session.arrivals past)
  report : session.sender.report = Session.condition past
  due : .repeated ∈ Session.news past → session.sender.acknowledgement = .due
  /-- A link on which a data packet was sent stays up until the next reset. -/
  up : (∃ packet, .sent packet ∈ Session.sinceRestart past) → session.handshake.isUp = true
  told : Session.Told past

section steps

variable {session after : Session} {past new : List Session.Occurrence}

theorem Session.Tells.quiet (tells : session.Tells past)
    (expected : after.receiver.expected = session.receiver.expected)
    (report : after.sender.report = session.sender.report)
    (due : session.sender.acknowledgement = .due → after.sender.acknowledgement = .due)
    (up : session.handshake.isUp = true → after.handshake.isUp = true) : after.Tells past where
  expected := expected.trans tells.expected
  report := report.trans tells.report
  due := fun again => due (tells.due again)
  up := fun sent => up (tells.up sent)
  told := tells.told

/-- Something happens that settles nothing: what is to be told changes accordingly. -/
theorem Session.Tells.add {occurrence : Session.Occurrence} (tells : session.Tells past)
    (unsettled : occurrence.settles = false)
    (expected : after.receiver.expected =
      session.receiver.expected + if occurrence = .accepted then 1 else 0)
    (report : after.sender.report = occurrence.error?.getD session.sender.report)
    (due : occurrence = .repeated ∨ session.sender.acknowledgement = .due →
      after.sender.acknowledgement = .due)
    (up : after.handshake = session.handshake) : after.Tells (occurrence :: past) := by
  have goesOn : occurrence ≠ .restarted := by
    rintro rfl
    cases unsettled
  have stays : ∀ packet, occurrence ≠ .sent packet := by
    rintro packet rfl
    cases unsettled
  refine ⟨?_, ?_, ?_, ?_, tells.told.cons fun packet sent => absurd sent (stays packet)⟩
  · rw [expected, Session.arrivals_cons goesOn, UInt8.ofNat_add, ← tells.expected]
    split <;> rfl
  · rw [report, Session.condition_cons unsettled, tells.report]
  · rw [Session.news_cons unsettled]
    intro again
    rcases List.mem_cons.mp again with this | before
    · exact due (Or.inl this.symm)
    · exact due (Or.inr (tells.due before))
  · rw [Session.sinceRestart_cons goesOn, up]
    rintro ⟨packet, sent⟩
    rcases List.mem_cons.mp sent with this | before
    · exact absurd this.symm (stays packet)
    · exact tells.up ⟨packet, before⟩

theorem Session.Tells.restart (tells : session.Tells past)
    (receiver : after.receiver = session.receiver.restart)
    (sender : after.sender = session.sender.rewind) : after.Tells (.restarted :: past) := by
  refine ⟨?_, ?_, nofun, nofun, tells.told.cons fun packet sent => by cases sent⟩
  · rw [receiver]
    rfl
  · rw [sender]
    rfl

/-- A data packet tells all there is to tell. -/
theorem Session.Tells.send {emission : Sender.Emission} {sender : Sender}
    (tells : session.Tells past) (up : session.handshake.isUp = true)
    (sending : session.sender.next session.receiver.expected session.payloadLimit =
      .ok (some (emission, sender))) :
    (session.departData emission sender).session.Tells (.sent emission.packet :: past) := by
  have current : emission.packet.header.ack = UInt8.ofNat (Session.arrivals past) :=
    (Sender.kind_of_next sending).2.trans tells.expected
  have reported : emission.packet.header.code.error = Session.condition past :=
    (Sender.told_of_next sending).1.trans tells.report
  refine ⟨?_, ?_, nofun, fun _ => up, tells.told.cons fun packet sent => ?_⟩
  · rw [Session.arrivals_cons (by nofun)]
    exact tells.expected
  · obtain ⟨_, _, _, _, rfl⟩ := Sender.of_next sending
    rfl
  · cases sent
    exact ⟨current, reported⟩

/-- The next fragment is expected exactly when one was accepted. -/
theorem Receiver.expected_of_accept (receiver : Receiver) (fragment : Fragment) :
    (receiver.accept fragment).2.expected = receiver.expected +
      if .accepted ∈ (receiver.accept fragment).1.occurrences then 1 else 0 := by
  by_cases next : fragment.seq = receiver.expected
  · rw [Receiver.expected_accept next, if_pos]
    unfold Receiver.accept Assembly.add
    rw [if_pos next]
    dsimp only
    split
    · exact List.mem_singleton_self _
    · split
      · exact List.mem_cons_self ..
      · split <;> exact List.mem_singleton_self _
  · have refused : .accepted ∉ (if fragment.seq = receiver.expected - 1 then Verdict.duplicate
        else .outOfOrder).occurrences := by
      split <;> nofun
    rw [Receiver.accept_other next, if_neg refused, UInt8.add_zero]

/-- Owing an acknowledgement never puts one off that is due. -/
theorem Session.Tells.oweAck (tells : session.Tells past) : session.oweAck.1.Tells past := by
  unfold Session.oweAck
  split
  · exact tells.quiet rfl rfl (fun _ => rfl) id
  · unfold Sender.owe
    cases owed : session.sender.acknowledgement with
    | settled =>
      refine tells.quiet rfl rfl (fun due => ?_) id
      cases owed.symm.trans due
    | owed => exact tells.quiet rfl rfl id id
    | due => exact tells.quiet rfl rfl id id

theorem Session.Tells.takeFragment (tells : session.Tells past) (fragment : Fragment) :
    (session.takeFragment fragment).1.Tells
      ((session.receiver.accept fragment).1.occurrences.reverse ++ past) := by
  have expected := session.receiver.expected_of_accept fragment
  unfold Session.takeFragment
  generalize session.receiver.accept fragment = result at expected ⊢
  obtain ⟨verdict, receiver⟩ := result
  have accepted (next : receiver.expected = session.receiver.expected + 1) :
      Session.Tells { session with receiver } (.accepted :: past) :=
    tells.add rfl next rfl (fun due => due.resolve_left nofun) rfl
  have stays (other : .accepted ∉ verdict.occurrences) :
      receiver.expected = session.receiver.expected := by
    rw [if_neg other] at expected
    exact expected.trans (UInt8.add_zero _)
  cases verdict with
  | buffered => exact (accepted expected).oweAck
  | delivered datagram => exact (accepted expected).oweAck
  | duplicate =>
    exact tells.add rfl ((stays (by nofun)).trans (UInt8.add_zero _).symm) rfl (fun _ => rfl) rfl
  | outOfOrder =>
    exact tells.add rfl ((stays (by nofun)).trans (UInt8.add_zero _).symm) rfl
      (fun due => due.resolve_left nofun) rfl
  | tooLarge =>
    exact (accepted expected).add rfl (UInt8.add_zero _).symm rfl (fun _ => rfl) rfl

theorem Session.Tells.acknowledge (tells : session.Tells past) (ack : UInt8) :
    (session.acknowledge ack).1.Tells
      ((session.sender.acknowledge ack).1.occurrences.reverse ++ past) := by
  have sender := session.sender_acknowledge ack
  have handshake := (session.sameLink_acknowledge ack).handshake
  have receiver := (session.profile_acknowledge ack).2.2
  have report : (session.sender.acknowledge ack).2.report = session.sender.report ∧
      (session.sender.acknowledge ack).2.acknowledgement = session.sender.acknowledgement := by
    rcases session.sender.of_acknowledge ack with ⟨_, same, _⟩ | ⟨_, _, _, _, _, _, _, _, state⟩
    · rw [same]
      exact ⟨rfl, rfl⟩
    · rw [state]
      exact ⟨rfl, rfl⟩
  rw [← sender] at report
  have kept : (session.acknowledge ack).1.Tells past :=
    tells.quiet (congrArg Receiver.expected receiver) report.1 (fun due => report.2.trans due)
      (fun up => (congrArg Handshake.isUp handshake).trans up)
  cases (session.sender.acknowledge ack).1 with
  | datagramCompleted =>
    exact kept.add rfl (UInt8.add_zero _).symm rfl (fun due => due.resolve_left nofun) rfl
  | nothingOutstanding => exact kept
  | notAcked => exact kept
  | packetAcked => exact kept

theorem Session.Tells.goes (goes : session.Goes new after) (tells : session.Tells past) :
    after.Tells (new.reverse ++ past) := by
  have still : session.receiver.expected = session.receiver.expected + 0 :=
    (UInt8.add_zero _).symm
  cases goes with
  | quiet receiver sender due intake up =>
    exact tells.quiet receiver (by rw [sender]) (fun before => by rw [sender]; exact due before) up
  | queued submitted =>
    obtain ⟨_, _, rfl⟩ := Session.eq_of_submit submitted
    exact tells.add rfl still rfl (fun due => due.resolve_left nofun) rfl
  | noted error => exact tells.add rfl still rfl (fun due => due.resolve_left nofun) rfl
  | restarted receiver sender intake => exact tells.restart receiver sender
  | acknowledged regular ack => exact tells.acknowledge ack
  | took fragment => exact tells.takeFragment fragment
  | sent up sending => exact tells.send up sending
  | closed => exact tells.add rfl still rfl (fun due => due.resolve_left nofun) rfl

end steps

/-- What a session tells its peer, after all that is in its record. -/
structure Chronicle.Candid (chronicle : Chronicle) : Prop where
  told : Session.Told chronicle.past
  up : (∃ packet, .sent packet ∈ Session.sinceRestart chronicle.past) →
    chronicle.session.handshake.isUp = true
  prompt : chronicle.session.handshake.isUp = true → chronicle.session.sender.busy = false →
    Session.condition chronicle.past ≠ .none ∨ .repeated ∈ Session.news chronicle.past →
      ∃ departure, chronicle.session.next = .ok (some departure)

section runs

variable {settings : Settings} {session initial : Session}

/-- News goes out as soon as the link is idle, behind an answer that is still to be sent. -/
theorem Session.Sound.next_of_news (sound : session.Sound settings)
    (up : session.handshake.isUp = true) (idle : session.sender.busy = false)
    (news : session.sender.hasNews = true) :
    ∃ departure, session.next = .ok (some departure) := by
  obtain ⟨departure?, next⟩ := sound.next_ok
  cases departure? with
  | some departure => exact ⟨departure, next⟩
  | none =>
    by_cases answered : session.handshake.stage = .answering
    · rw [Session.next, idle, if_neg Bool.false_ne_true, Handshake.nextPacket?, answered] at next
      cases next
    · have quiet := Session.of_next_none_up (Handshake.Stage.eq_up up answered) idle next
      rw [(Sender.of_next_none idle quiet).1] at news
      cases news

theorem Session.Tells.hasNews {past : List Session.Occurrence} (tells : session.Tells past)
    (owed : Session.condition past ≠ .none ∨ .repeated ∈ Session.news past) :
    session.sender.hasNews = true := by
  rw [Sender.hasNews, Bool.or_eq_true, decide_eq_true_iff, decide_eq_true_iff, tells.report]
  rcases owed with condition | again
  · exact Or.inr condition
  · exact Or.inl (tells.due again)

/-- Whatever is done to a new session and whatever bytes arrive: a data packet carries the number of
fragments accepted since the last reset and the condition noted last since the data packet before
it. While the link is up, a condition that is not told yet, or a fragment that came again since, is
enough for a packet to be there when the link is idle. -/
theorem Session.candid_of_run (made : Session.ofSettings settings = .ok initial)
    (inputs : List Session.Input) :
    ∃ after, (Chronicle.start initial).run inputs = .ok after ∧ after.Candid := by
  have start : initial.Tells [] := by
    obtain ⟨sender, _, opened, _, rfl⟩ := Session.of_ofSettings made
    obtain ⟨_, _, rfl⟩ := Sender.of_ofCapacity opened
    exact ⟨rfl, rfl, nofun, nofun, Session.told_nil⟩
  obtain ⟨after, ran, sound, tells⟩ :=
    Chronicle.run_keeps Session.Tells (fun goes tells => tells.goes goes) (.start initial)
      (Session.sound_ofSettings made) start inputs
  exact ⟨after, ran, tells.told, tells.up,
    fun up idle owed => sound.next_of_news up idle (tells.hasNews owed)⟩

end runs

/-- A fragment is accepted and acknowledged. It comes again, the application reports a condition, and
once more it comes, damaged. -/
def reportedInputs : List Session.Input :=
  [.receive serialReset.encode, .depart, .sendDone (.ok ()), .receive (firstFragment [9]).encode,
    .depart, .sendDone (.ok ()), .receive (firstFragment [9]).encode, .reportError .busy,
    .receive ((firstFragment [9]).encode.dropLast ++ [0])]

theorem candid_after_damage : ∃ initial after departure,
    Session.ofSettings .serialLine = .ok initial ∧
      (Chronicle.start initial).run reportedInputs = .ok after ∧
      after.past = [.noted .checksum, .noted .busy, .repeated, .sent firstAck, .accepted,
        .restarted] ∧
      after.session.next = .ok (some departure) ∧ after.Candid := by
  have made := Session.ofSettings_ofValid _ Settings.check_serialLine
  obtain ⟨after, ran, candid⟩ := Session.candid_of_run made reportedInputs
  have records : ((Chronicle.start (Session.ofValid _ Settings.check_serialLine)).run
      reportedInputs).map (fun after =>
        (after.past, after.session.handshake.isUp, after.session.sender.busy)) =
      .ok ([.noted .checksum, .noted .busy, .repeated, .sent firstAck, .accepted, .restarted],
        true, false) := by decide +kernel
  rw [ran] at records
  obtain ⟨past, state⟩ := Prod.mk.inj (Except.ok.inj records)
  obtain ⟨up, idle⟩ := Prod.mk.inj state
  have owed : Session.condition after.past ≠ .none ∨ .repeated ∈ Session.news after.past := by
    rw [past]
    exact Or.inl (by decide)
  obtain ⟨departure, next⟩ := candid.prompt up idle owed
  exact ⟨_, after, departure, made, ran, past, next, candid⟩

end DatagramLink
