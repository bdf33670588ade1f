import DatagramLink.Proofs.Session.Chronicle

namespace DatagramLink

/-- All that speaks against taking a datagram over. The first reason is the one that is given. -/
def Session.objections (session : Session) (datagram : Bytes) : List Refusal :=
  (if session.accepting then [] else [.shuttingDown datagram]) ++
    (if datagram ≠ [] then [] else [.empty]) ++
    (if datagram.length ≤ session.settings.maxDatagram then []
      else [.tooLarge datagram session.settings.maxDatagram]) ++
    if session.sender.queue.toList.length < session.settings.queueLength then []
      else [.queueFull datagram]

/-- What a session with these settings does with a datagram it is given. -/
structure Session.Weighs (settings : Settings) (session : Session) (datagram : Bytes) : Prop where
  taken_iff : (∃ after, session.submit datagram = .ok after) ↔
    session.accepting = true ∧ datagram ≠ [] ∧ datagram.length ≤ settings.maxDatagram ∧
      session.sender.queue.toList.length < settings.queueLength
  taken : ∀ after, session.submit datagram = .ok after →
    ∃ queue, after = { session with sender := { session.sender with queue } } ∧
      queue.toList = session.sender.queue.toList ++ [datagram] ∧
      queue.capacity = session.sender.queue.capacity
  refused : ∀ refusal, session.submit datagram = .error refusal →
    (session.objections datagram).head? = some refusal ∧
      session.perform (.submit datagram) = .ok session ∧
      refusal.datagram? = if refusal = .empty then none else some datagram

section submit

variable {settings : Settings} {session : Session} {datagram : Bytes} {refusal : Refusal}

theorem Session.objections_eq_nil_iff : session.objections datagram = [] ↔
    session.accepting = true ∧ datagram ≠ [] ∧
      datagram.length ≤ session.settings.maxDatagram ∧
      session.sender.queue.toList.length < session.settings.queueLength := by
  simp only [Session.objections, List.append_eq_nil_iff, ite_eq_left_iff, List.cons_ne_nil,
    imp_false, Bool.not_eq_true, Bool.not_eq_false, not_not, and_assoc]

/-- Only what is empty has nothing to give back. -/
theorem Session.datagram?_of_mem_objections (objects : refusal ∈ session.objections datagram) :
    refusal.datagram? = if refusal = .empty then none else some datagram := by
  simp only [Session.objections, List.mem_append, List.mem_ite_nil_left, List.mem_singleton]
    at objects
  rcases objects with ((⟨_, rfl⟩ | ⟨_, rfl⟩) | ⟨_, rfl⟩) | ⟨_, rfl⟩ <;> rfl

variable {queue : List Bytes}

theorem Session.submit_of_welcome (holds : session.sender.queue.Holds queue)
    (capacity : session.sender.queue.capacity = session.settings.queueLength)
    (welcome : session.objections datagram = []) :
    ∃ after, session.sender.queue.push datagram = .ok after ∧
      session.submit datagram = .ok { session with
        sender := { session.sender with queue := after } } := by
  obtain ⟨accepts, nonempty, fits, room⟩ := Session.objections_eq_nil_iff.mp welcome
  rw [holds.toList_eq, ← capacity] at room
  obtain ⟨after, pushed, _⟩ := holds.push datagram room
  have queued : session.sender.enqueue datagram = .ok { session.sender with queue := after } := by
    rw [Sender.enqueue, pushed]
    rfl
  refine ⟨after, pushed, ?_⟩
  simp only [Session.submit, accepts, nonempty, queued, Nat.not_lt.mpr fits, Bool.not_true,
    Bool.false_eq_true, if_false]

/-- The reasons are looked at in the order of `Session.objections`. -/
theorem Session.submit_of_objection (holds : session.sender.queue.Holds queue)
    (capacity : session.sender.queue.capacity = session.settings.queueLength)
    (first : (session.objections datagram).head? = some refusal) :
    session.submit datagram = .error refusal := by
  unfold Session.objections at first
  unfold Session.submit
  by_cases accepts : session.accepting = true
  case neg =>
    rw [if_neg accepts] at first
    rw [Bool.eq_false_iff.mpr accepts, Bool.not_false, if_pos rfl]
    cases first
    rfl
  rw [if_pos accepts, List.nil_append] at first
  rw [accepts, Bool.not_true, if_neg Bool.false_ne_true]
  by_cases empty : datagram = []
  case pos =>
    rw [if_neg (not_not.mpr empty)] at first
    rw [if_pos empty]
    cases first
    rfl
  rw [if_pos empty, List.nil_append] at first
  rw [if_neg empty]
  by_cases fits : datagram.length ≤ session.settings.maxDatagram
  case neg =>
    rw [if_neg fits] at first
    rw [if_pos (Nat.not_le.mp fits)]
    cases first
    rfl
  rw [if_pos fits, List.nil_append] at first
  rw [if_neg (Nat.not_lt.mpr fits)]
  by_cases room : session.sender.queue.toList.length < session.settings.queueLength
  case pos =>
    rw [if_pos room] at first
    cases first
  rw [if_neg room] at first
  cases first
  rw [holds.toList_eq, ← capacity] at room
  have full : queue.length = session.sender.queue.capacity := by
    have bound := holds.count_le
    rw [← holds.length_eq] at bound
    omega
  rw [Sender.enqueue, holds.push_full datagram full]
  rfl

theorem Session.Sane.weighs (sane : session.Sane settings) (datagram : Bytes) :
    session.Weighs settings datagram := by
  obtain ⟨queue, regular⟩ := sane.profile.sender
  have holds : session.sender.queue.Holds queue := regular.holds
  have same : session.settings = settings := sane.profile.settings_eq
  have capacity : session.sender.queue.capacity = session.settings.queueLength := by
    rw [same]
    exact sane.profile.capacity
  cases reasons : session.objections datagram with
  | nil =>
    obtain ⟨slots, pushed, submitted⟩ := Session.submit_of_welcome holds capacity reasons
    refine ⟨?_, fun after taken => ?_, fun refusal refused => ?_⟩
    · rw [← same]
      exact ⟨fun _ => Session.objections_eq_nil_iff.mp reasons, fun _ => ⟨_, submitted⟩⟩
    · cases submitted.symm.trans taken
      refine ⟨slots, rfl, ?_, BoundedQueue.capacity_push pushed⟩
      rw [(holds.of_push pushed).toList_eq, holds.toList_eq]
    · cases submitted.symm.trans refused
  | cons reason others =>
    have first : (session.objections datagram).head? = some reason := by
      rw [reasons]
      rfl
    have submitted := Session.submit_of_objection holds capacity first
    refine ⟨?_, fun after taken => ?_, fun refusal refused => ?_⟩
    · rw [← same, ← Session.objections_eq_nil_iff, reasons]
      refine ⟨fun ⟨after, taken⟩ => ?_, nofun⟩
      cases submitted.symm.trans taken
    · cases submitted.symm.trans taken
    · cases submitted.symm.trans refused
      refine ⟨first, ?_, Session.datagram?_of_mem_objections (List.mem_of_mem_head? first)⟩
      rw [Session.perform, submitted]

end submit

/-- The datagram that was taken over, if one was. -/
def Session.Occurrence.datagram? : Session.Occurrence → Option Bytes
  | .queued datagram => some datagram
  | .completed | .restarted | .accepted | .repeated | .noted _ | .sent _ | .closed => none

/-- The datagrams that were taken over, the earliest first. -/
def Session.takenOver (past : List Session.Occurrence) : List Bytes :=
  past.reverse.filterMap Session.Occurrence.datagram?

/-- They are completed in the order in which they were taken over. -/
def Session.inCustody (past : List Session.Occurrence) : List Bytes :=
  (Session.takenOver past).drop (past.count .completed)

/-- The queue holds what was taken over and is not completed. -/
structure Session.Custody (session : Session) (past : List Session.Occurrence) : Prop where
  completed_le : past.count .completed ≤ (Session.takenOver past).length
  holds : session.sender.queue.Holds (Session.inCustody past)

section records

variable {past : List Session.Occurrence}

theorem Session.takenOver_append (new past : List Session.Occurrence) :
    Session.takenOver (new ++ past) = Session.takenOver past ++ Session.takenOver new := by
  simp only [Session.takenOver, List.reverse_append, List.filterMap_append]

theorem Session.takenOver_completed (past : List Session.Occurrence) :
    Session.takenOver (.completed :: past) = Session.takenOver past :=
  (Session.takenOver_append [.completed] past).trans (List.append_nil _)

theorem Session.inCustody_completed (past : List Session.Occurrence) :
    Session.inCustody (.completed :: past) = (Session.inCustody past).tail := by
  rw [Session.inCustody, Session.inCustody, Session.takenOver_completed, List.count_cons_self,
    List.tail_drop]

/-- Without new datagrams, what is in custody only becomes less, from the front. -/
theorem Session.inCustody_append {new : List Session.Occurrence}
    (nothing : Session.takenOver new = []) :
    Session.inCustody (new ++ past) = (Session.inCustody past).drop (new.count .completed) := by
  rw [Session.inCustody, Session.inCustody, Session.takenOver_append, nothing, List.append_nil,
    List.count_append, List.drop_drop, Nat.add_comm]

end records

section steps

variable {session after : Session} {past new : List Session.Occurrence}

theorem Session.Custody.congr (custody : session.Custody past)
    (queue : after.sender.queue = session.sender.queue) (nothing : Session.takenOver new = [])
    (uncompleted : new.count .completed = 0) : after.Custody (new ++ past) := by
  refine ⟨?_, ?_⟩
  · rw [Session.takenOver_append, nothing, List.append_nil, List.count_append, uncompleted,
      Nat.zero_add]
    exact custody.completed_le
  · rw [Session.inCustody_append nothing, uncompleted, List.drop_zero, queue]
    exact custody.holds

theorem Session.Custody.submit {datagram : Bytes} (custody : session.Custody past)
    (submitted : session.submit datagram = .ok after) :
    after.Custody (.queued datagram :: past) := by
  obtain ⟨queue, pushed, rfl⟩ := Session.eq_of_submit submitted
  have taken : Session.takenOver (.queued datagram :: past) =
      Session.takenOver past ++ [datagram] := Session.takenOver_append [.queued datagram] past
  have count : (Session.Occurrence.queued datagram :: past).count .completed =
      past.count .completed := List.count_cons_of_ne (by nofun)
  refine ⟨?_, ?_⟩
  · rw [taken, count, List.length_append]
    exact Nat.le_add_right_of_le custody.completed_le
  · rw [Session.inCustody, taken, count, List.drop_append_of_le_length custody.completed_le]
    exact custody.holds.of_push pushed

/-- The front datagram leaves the queue just when it is completed. -/
theorem Sender.queue_acknowledge {sender : Sender} {limit : Nat} {queue : List Bytes}
    (regular : sender.course.Regular limit queue) (ack : UInt8) :
    (sender.acknowledge ack).1 = .datagramCompleted ∧ queue ≠ [] ∧
        (sender.acknowledge ack).2.queue = sender.queue.pop.2 ∨
      (sender.acknowledge ack).1.occurrences = [] ∧
        (sender.acknowledge ack).2.queue = sender.queue := by
  unfold Sender.acknowledge
  split
  · exact Or.inr ⟨rfl, rfl⟩
  · rename_i packet held
    split
    · exact Or.inr ⟨rfl, rfl⟩
    · dsimp only
      split
      · exact Or.inr ⟨rfl, rfl⟩
      · exact Or.inl ⟨rfl, (regular.busy _ _ _ (Sender.extent_of_outstanding held)).1, rfl⟩

theorem Session.Custody.acknowledge {limit : Nat} {queue : List Bytes}
    (custody : session.Custody past) (regular : session.sender.course.Regular limit queue)
    (ack : UInt8) : (session.acknowledge ack).1.Custody
      ((session.sender.acknowledge ack).1.occurrences.reverse ++ past) := by
  have sender := session.sender_acknowledge ack
  rcases Sender.queue_acknowledge regular ack with ⟨completed, waiting, popped⟩ | ⟨incomplete, kept⟩
  · have held : queue = Session.inCustody past :=
      regular.holds.toList_eq.symm.trans custody.holds.toList_eq
    have more : past.count .completed < (Session.takenOver past).length := by
      rwa [held, Session.inCustody, ne_eq, List.drop_eq_nil_iff, Nat.not_le] at waiting
    rw [completed]
    show (session.acknowledge ack).1.Custody (.completed :: past)
    refine ⟨?_, ?_⟩
    · rw [Session.takenOver_completed, List.count_cons_self]
      exact more
    · rw [Session.inCustody_completed, sender, popped]
      exact custody.holds.pop.2.2
  · rw [incomplete]
    exact custody.congr ((congrArg Sender.queue sender).trans kept) rfl rfl

theorem Verdict.occurrences_quiet (verdict : Verdict) :
    Session.takenOver verdict.occurrences.reverse = [] ∧
      verdict.occurrences.reverse.count .completed = 0 := by
  cases verdict <;> exact ⟨rfl, rfl⟩

theorem Session.Custody.goes (goes : session.Goes new after) (custody : session.Custody past) :
    after.Custody (new.reverse ++ past) := by
  cases goes with
  | quiet receiver sender due intake up => exact custody.congr (by rw [sender]) rfl rfl
  | queued submitted => exact custody.submit submitted
  | noted error => exact custody.congr rfl rfl rfl
  | restarted receiver sender intake => exact custody.congr (by rw [sender]; rfl) rfl rfl
  | acknowledged regular ack => exact custody.acknowledge regular ack
  | took fragment =>
    obtain ⟨nothing, uncompleted⟩ := Verdict.occurrences_quiet (session.receiver.accept fragment).1
    exact custody.congr (congrArg (fun profile => profile.course.queue)
      (session.profile_takeFragment fragment).1) nothing uncompleted
  | sent up sending => exact custody.congr (Sender.queue_next sending) rfl rfl
  | closed => exact custody.congr rfl rfl rfl

theorem Session.accepting_takeFragment (session : Session) (fragment : Fragment) :
    (session.takeFragment fragment).1.accepting = session.accepting := by
  have owed (receiver : Receiver) :
      (Session.oweAck { session with receiver }).1.accepting = session.accepting := by
    unfold Session.oweAck
    split <;> rfl
  unfold Session.takeFragment
  generalize session.receiver.accept fragment = result
  obtain ⟨verdict, receiver⟩ := result
  cases verdict with
  | buffered => exact owed receiver
  | delivered datagram => exact owed receiver
  | duplicate => rfl
  | outOfOrder => rfl
  | tooLarge => rfl

/-- The intake is closed by request only, and for good. -/
theorem Session.Goes.accepting_iff (goes : session.Goes new after) :
    after.accepting = true ↔ session.accepting = true ∧ .closed ∉ new := by
  cases goes with
  | quiet receiver sender due intake up => simp [intake]
  | queued submitted =>
    obtain ⟨_, _, rfl⟩ := Session.eq_of_submit submitted
    simp
  | noted error => simp
  | restarted receiver sender intake => simp [intake]
  | acknowledged regular ack =>
    have intake : (session.acknowledge ack).1.accepting = session.accepting := by
      unfold Session.acknowledge
      split <;> rfl
    cases coverage : (session.sender.acknowledge ack).1 <;> simp [intake, Coverage.occurrences]
  | took fragment =>
    have intake := session.accepting_takeFragment fragment
    cases verdict : (session.receiver.accept fragment).1 <;> simp [intake, Verdict.occurrences]
  | sent up sending => simp [Session.departData]
  | closed => simp [Session.closeIntake]

theorem Session.Goes.takenOver_eq_nil (goes : session.Goes new after)
    (shut : session.accepting = false) : Session.takenOver new.reverse = [] := by
  cases goes with
  | queued submitted =>
    rw [Session.submit, shut] at submitted
    cases submitted
  | quiet => rfl
  | noted error => rfl
  | restarted => rfl
  | acknowledged regular ack => cases (session.sender.acknowledge ack).1 <;> rfl
  | took fragment => exact (Verdict.occurrences_quiet _).1
  | sent => rfl
  | closed => rfl

end steps

/-- What a session with these settings does with datagrams, after all that is in its record. -/
structure Chronicle.Conserves (settings : Settings) (chronicle : Chronicle) : Prop where
  settings_eq : chronicle.session.settings = settings
  weighs : ∀ datagram, chronicle.session.Weighs settings datagram
  accepts_iff : chronicle.session.accepting = true ↔ .closed ∉ chronicle.past
  completed_le : chronicle.past.count .completed ≤ (Session.takenOver chronicle.past).length
  held : chronicle.session.sender.queue.toList = Session.inCustody chronicle.past
  /-- Once nothing more is accepted the queue only becomes shorter, from the front. -/
  shrinks : chronicle.session.accepting = false → ∀ later,
    ∃ final, chronicle.session.run later = .ok final ∧ final.accepting = false ∧
      final.sender.queue.toList <:+ chronicle.session.sender.queue.toList

section runs

variable {settings : Settings} {initial : Session}

theorem Session.custody_ofSettings (made : Session.ofSettings settings = .ok initial) :
    initial.Custody [] := by
  obtain ⟨sender, _, opened, _, rfl⟩ := Session.of_ofSettings made
  obtain ⟨queue, slots, rfl⟩ := Sender.of_ofCapacity opened
  exact ⟨Nat.le_refl _, (BoundedQueue.holds_ofCapacity slots).2⟩

theorem Session.Custody.shrinks {session : Session} {past : List Session.Occurrence}
    (custody : session.Custody past) (sound : session.Sound settings)
    (shut : session.accepting = false) (later : List Session.Input) :
    ∃ final, session.run later = .ok final ∧ final.accepting = false ∧
      final.sender.queue.toList <:+ session.sender.queue.toList := by
  -- nothing is taken over from here on, so what is completed is all that changes the custody
  let law (session : Session) (new : List Session.Occurrence) : Prop :=
    session.accepting = false ∧ Session.takenOver new = [] ∧ session.Custody (new ++ past)
  have step {session after : Session} {first new : List Session.Occurrence}
      (goes : session.Goes first after) (holds : law session new) :
      law after (first.reverse ++ new) := by
    obtain ⟨shut, nothing, custody⟩ := holds
    refine ⟨?_, ?_, ?_⟩
    · rw [← Bool.not_eq_true, goes.accepting_iff, shut]
      exact fun ⟨accepts, _⟩ => Bool.false_ne_true accepts
    · rw [Session.takenOver_append, nothing, goes.takenOver_eq_nil shut]
      rfl
    · rw [List.append_assoc]
      exact custody.goes goes
  obtain ⟨after, ran, _, closed, nothing, kept⟩ :=
    Chronicle.run_keeps law step (.start session) sound ⟨shut, rfl, custody⟩ later
  refine ⟨after.session, ?_, closed, ?_⟩
  · have same := Chronicle.session_run (.start session) later
    rw [ran] at same
    exact same.symm
  · rw [kept.holds.toList_eq, custody.holds.toList_eq, Session.inCustody_append nothing]
    exact List.drop_suffix _ _

/-- Whatever is done to a new session and whatever bytes arrive: it takes over a datagram just if
nothing speaks against it, and otherwise stays as it is, gives the first reason and the datagram
back. Its queue holds what it has taken over, in order, without the datagrams that are completed. -/
theorem Session.conserves_of_run (made : Session.ofSettings settings = .ok initial)
    (inputs : List Session.Input) :
    ∃ after, (Chronicle.start initial).run inputs = .ok after ∧ after.Conserves settings := by
  let law (session : Session) (past : List Session.Occurrence) : Prop :=
    session.Custody past ∧ (session.accepting = true ↔ .closed ∉ past)
  have step {session after : Session} {new past : List Session.Occurrence}
      (goes : session.Goes new after) (holds : law session past) :
      law after (new.reverse ++ past) := by
    obtain ⟨custody, accepts⟩ := holds
    refine ⟨custody.goes goes, ?_⟩
    rw [goes.accepting_iff, accepts, List.mem_append, List.mem_reverse, not_or, and_comm]
  have start : law initial [] := by
    refine ⟨Session.custody_ofSettings made, ?_⟩
    obtain ⟨_, _, _, _, rfl⟩ := Session.of_ofSettings made
    exact ⟨nofun, fun _ => rfl⟩
  obtain ⟨after, ran, sound, custody, accepts⟩ :=
    Chronicle.run_keeps law step (.start initial) (Session.sound_ofSettings made) start inputs
  exact ⟨after, ran, sound.sane.profile.settings_eq, sound.sane.weighs, accepts,
    custody.completed_le, custody.holds.toList_eq, custody.shrinks sound⟩

end runs

/-- The second datagram finds no room until the first is acknowledged, a reset interferes, and a
third one comes too late. -/
def crowdedInputs : List Session.Input :=
  [.receive serialReset.encode, .submit [1, 2], .submit [3], .depart, .sendDone (.ok ()), .depart,
    .sendDone (.ok ()), .receive firstAck.encode, .submit [3], .askReset, .closeIntake, .submit [4]]

theorem conserves_when_crowded : ∃ initial after,
    Session.ofSettings { Settings.serialLine with queueLength := 1 } = .ok initial ∧
      (Chronicle.start initial).run crowdedInputs = .ok after ∧
      after.past = [.closed, .restarted, .queued [3], .completed, .sent (firstFragment [1, 2]),
        .queued [1, 2], .restarted] ∧
      after.session.sender.queue.toList = [[3]] ∧
      after.Conserves { Settings.serialLine with queueLength := 1 } := by
  have made := Session.ofSettings_ofValid { Settings.serialLine with queueLength := 1 } rfl
  obtain ⟨after, ran, conserves⟩ := Session.conserves_of_run made crowdedInputs
  have records : ((Chronicle.start (Session.ofValid
      { Settings.serialLine with queueLength := 1 } rfl)).run crowdedInputs).map
        Chronicle.past = .ok [.closed, .restarted, .queued [3], .completed,
          .sent (firstFragment [1, 2]), .queued [1, 2], .restarted] := by decide +kernel
  rw [ran] at records
  have past := Except.ok.inj records
  refine ⟨_, after, made, ran, past, ?_, conserves⟩
  rw [conserves.held, past]
  rfl

end DatagramLink
