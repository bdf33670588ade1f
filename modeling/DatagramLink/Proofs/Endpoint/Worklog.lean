import DatagramLink.Proofs.Endpoint.Interplay
import DatagramLink.Proofs.Session.Custody

namespace DatagramLink

/-- What is on record of a worker and its session. -/
inductive Worklog.Entry where
  /-- Something came of the session. -/
  | came (occurrence : Session.Occurrence)
  /-- The worker turned to a signal at this time. -/
  | took (signal : Signal) (now : Nat)
  /-- The worker is done with the signal, or with its start, and waits for the next or stops. -/
  | finished (stops : Bool)
  /-- The worker stopped instead of waiting on, at this time. -/
  | gaveUp (now : Nat)
  | brokeDown

/-- An endpoint with a record of the signals that its worker handles one after another and of
what comes of the session meanwhile. -/
structure Worklog where
  play : Interplay
  /-- The record, latest first. -/
  entries : List Worklog.Entry

/-- What may come next. -/
inductive Worklog.Event where
  | move (move : Interplay.Move)
  /-- The link signals that a send is done, whether it has been given a packet or not. -/
  | sendDone (result : Except SendFailure Unit)

/-- What a signal means for the session. -/
def Interplay.inputOf? (play : Interplay) : Signal → Option Session.Input
  | .received bytes => some (.receive bytes)
  | .sendDone result => some (.sendDone result)
  | .expired expiry =>
    if (play.endpoint.timers.accept expiry).1 then some (.elapsed expiry.kind) else none
  | .work | .reset | .shutdown => none

/-- What the worker does to the session when it goes on by itself. -/
def Interplay.workInput? (play : Interplay) : Option Session.Input :=
  match play.stage with
  | .waiting => play.endpoint.inbox.head?.bind play.inputOf?
  | .asking => some .askReset
  | .looking => some .depart
  | .obeying .. | .telling .. | .handing _ | .reviewing | .failing => none

/-- What a move does to the session. -/
def Interplay.input? (play : Interplay) : Interplay.Move → Option Session.Input
  | .work => play.workInput?
  | .accept .complete => some (.sendDone (.ok ()))
  | .submit datagram => some (.submit datagram)
  | .reportError error => some (.reportError error)
  | .closeIntake => some .closeIntake
  | .answer _ | .accept .pending | .report _ | .receive _ | .post _ | .askReset | .ring _ | .elapse
  | .pass _ | .overrun => none

/-- What is on record of the worker when it goes on by itself and gets to another state. -/
def Interplay.workRecord? (play after : Interplay) : Option Worklog.Entry :=
  match play.stage with
  | .waiting => play.endpoint.inbox.head?.map (Worklog.Entry.took · play.now)
  | .reviewing => some (.finished (!after.endpoint.running))
  | .failing => some .brokeDown
  | .asking | .looking | .obeying .. | .telling .. | .handing _ => none

/-- What a move adds to the record of the worker. -/
def Interplay.record? (play after : Interplay) : Interplay.Move → Option Worklog.Entry
  | .work => play.workRecord? after
  | .overrun => some (.gaveUp play.now)
  | .answer _ | .accept _ | .report _ | .receive _ | .submit _ | .reportError _ | .closeIntake
  | .post _ | .askReset | .ring _ | .elapse | .pass _ => none

/-- What comes of the session with this input, if there is one. -/
def Session.occurrencesIf (session : Session) (input? : Option Session.Input) :
    List Session.Occurrence :=
  match input? with
  | none => []
  | some input => session.occurrences input

/-- Nothing is on record when the endpoint starts. -/
def Worklog.start (endpoint : Endpoint) : Worklog := ⟨.start endpoint, []⟩

/-- The next state with its record, if this can come next. -/
def Worklog.step? (log : Worklog) : Worklog.Event → Option Worklog
  | .move move => (log.play.step? move).map fun after =>
    let came := log.play.endpoint.session.occurrencesIf (log.play.input? move)
    ⟨after, came.reverse.map .came ++ ((log.play.record? after move).toList ++ log.entries)⟩
  | .sendDone result => some { log with play := log.play.post (.sendDone result) }

/-- The record after all this, if each event can come when it does. -/
def Worklog.run? (log : Worklog) : List Worklog.Event → Option Worklog
  | [] => some log
  | event :: events => (log.step? event).bind fun after => after.run? events

/-- The session is as before, or as this makes it. -/
def Session.Performs (session after : Session) : Option Session.Input → Prop
  | none => after = session
  | some input => session.perform input = .ok after

/-- A request to shut down is on its way. -/
def Interplay.Heralds (play : Interplay) : Prop :=
  .shutdown ∈ play.endpoint.inbox ∨ .shutdown ∈ play.unposted

/-- When the worker turned to a request to shut down, if that is what the entry says. -/
def Worklog.Entry.shutdown? : Worklog.Entry → Option Nat
  | .took .shutdown now => some now
  | .came _ | .took .. | .finished _ | .gaveUp _ | .brokeDown => none

/-- Where a worker is: at a signal, waiting for one, about to break down, or done for good. -/
inductive Worklog.Standing where
  | handling | waiting | failing | stopped
  deriving DecidableEq

/-- Where a worker that has not stopped is. -/
def Interplay.Stage.standing : Interplay.Stage → Worklog.Standing
  | .waiting => .waiting
  | .failing => .failing
  | .asking | .obeying .. | .telling .. | .looking | .handing _ | .reviewing => .handling

/-- The worker stays at what it does, or keeps waiting. -/
structure Interplay.GoesOn (play after : Interplay) : Prop where
  standing_eq : after.stage.standing = play.stage.standing
  running_eq : after.endpoint.running = play.endpoint.running
  deadline_eq : after.endpoint.deadline = play.endpoint.deadline
  /-- Nothing comes in any more once it has stopped. -/
  inbox_eq : play.endpoint.running = false → after.endpoint.inbox = play.endpoint.inbox

/-- The worker turns to this signal. -/
structure Interplay.Takes (play : Interplay) (signal : Signal) (after : Interplay) : Prop where
  awake : after.stage.standing = .handling
  running_eq : after.endpoint.running = play.endpoint.running
  deadline_eq : after.endpoint.deadline = play.endpoint.deadline.or
    ((Worklog.Entry.took signal play.now).shutdown?.bind
      play.endpoint.session.settings.drainTimeout.after?)
  /-- If there is a time to stop at, it is known. -/
  told : signal = .shutdown → after.endpoint.deadline.isSome = true
  inbox_eq : after.endpoint.inbox = play.endpoint.inbox
  unposted_eq : after.unposted = play.unposted

/-- What a step of an endpoint means for its worker and the record: it takes a signal, is done
with it and stops or waits for the next, or gives up waiting. Whatever else happens neither
moves the deadline nor stops the worker. -/
inductive Interplay.Turns (play : Interplay) (input? : Option Session.Input) :
    Option Worklog.Entry → Interplay → Prop
  | goesOn {after : Interplay} (goes : play.GoesOn after)
      (heralds : after.Heralds → play.Heralds ∨ input? = some .closeIntake) :
      play.Turns input? none after
  | takes {signal : Signal} {inbox : List Signal} {after : Interplay}
      (waiting : play.stage = .waiting) (oldest : play.endpoint.inbox = signal :: inbox)
      (takes : Interplay.Takes { play with endpoint := { play.endpoint with inbox } } signal
        after) :
      play.Turns input? (some (.took signal play.now)) after
  | falters {inbox : List Signal} (waiting : play.stage = .waiting)
      (oldest : play.endpoint.inbox = .shutdown :: inbox) (first : play.endpoint.deadline = none)
      (beyond : play.endpoint.session.settings.drainTimeout.after? play.now = none) :
      play.Turns input? (some (.took .shutdown play.now))
        { play with endpoint := { play.endpoint with inbox }, stage := .failing }
  | stops (reviewing : play.stage = .reviewing) (running : play.endpoint.running = true)
      (drained : (play.endpoint.deadline.isSome && play.endpoint.session.isDrained) = true) :
      play.Turns input? (some (.finished true)) { play.halt with stage := .waiting }
  | waits (reviewing : play.stage = .reviewing) (running : play.endpoint.running = true)
      (more : (play.endpoint.deadline.isSome && play.endpoint.session.isDrained) = false) :
      play.Turns input? (some (.finished false)) { play with stage := .waiting }
  | givesUp (waiting : play.stage = .waiting) (overdue : play.endpoint.isOverdue play.now = true) :
      play.Turns input? (some (.gaveUp play.now)) play.halt
  | breaksDown (failing : play.stage = .failing) (running : play.endpoint.running = true) :
      play.Turns input? (some .brokeDown) { play.halt with stage := .waiting }

section inversion

variable {play after : Interplay}

/-- The worker turns to the signal that waited longest. -/
theorem Interplay.turns_of_take {signal : Signal} {inbox : List Signal}
    (waiting : play.stage = .waiting) (oldest : play.endpoint.inbox = signal :: inbox) :
    let picked := { play with endpoint := { play.endpoint with inbox } }
    play.endpoint.session.Performs (picked.take signal).endpoint.session (play.inputOf? signal) ∧
      play.Turns (play.inputOf? signal) (some (.took signal play.now)) (picked.take signal) := by
  intro picked
  have unset : picked.endpoint.deadline = picked.endpoint.deadline.or none := Option.or_none.symm
  have takes : ∀ input? after, picked.Takes signal after →
      play.Turns input? (some (.took signal play.now)) after := fun _ _ => .takes waiting oldest
  cases signal with
  | received bytes => exact ⟨rfl, takes _ _ ⟨rfl, rfl, unset, Signal.noConfusion, rfl, rfl⟩⟩
  | sendDone result => exact ⟨rfl, takes _ _ ⟨rfl, rfl, unset, Signal.noConfusion, rfl, rfl⟩⟩
  | expired expiry =>
    simp only [Interplay.take, Interplay.inputOf?]
    split
    · exact ⟨rfl, takes _ _ ⟨rfl, rfl, unset, Signal.noConfusion, rfl, rfl⟩⟩
    · exact ⟨rfl, takes _ _ ⟨rfl, rfl, unset, Signal.noConfusion, rfl, rfl⟩⟩
  | work => exact ⟨rfl, takes _ _ ⟨rfl, rfl, unset, Signal.noConfusion, rfl, rfl⟩⟩
  | reset => exact ⟨rfl, takes _ _ ⟨rfl, rfl, unset, Signal.noConfusion, rfl, rfl⟩⟩
  | shutdown =>
    cases ends : picked.endpoint.drainEnd? picked.now with
    | some deadline =>
      simp only [Interplay.take, ends]
      exact ⟨rfl, takes _ _ ⟨rfl, rfl, ends.symm, fun _ => rfl, rfl, rfl⟩⟩
    | none =>
      obtain ⟨first, never⟩ := Option.or_eq_none_iff.mp ends
      simp only [Interplay.take, ends]
      exact ⟨rfl, .falters waiting oldest first never⟩

/-- Nothing changes that the worker goes by when it waits for a signal. -/
theorem Interplay.turns_of_stage {stage : Interplay.Stage} {input? : Option Session.Input}
    (before : play.stage = stage) (waiting : after.stage.standing = stage.standing)
    (same : after.endpoint.running = play.endpoint.running ∧
      after.endpoint.deadline = play.endpoint.deadline ∧
      after.endpoint.inbox = play.endpoint.inbox ∧ after.unposted = play.unposted) :
    play.Turns input? none after := by
  obtain ⟨running, deadline, inbox, unposted⟩ := same
  refine .goesOn ⟨by rw [before, waiting], running, deadline, fun _ => inbox⟩ fun heralds => ?_
  rw [Interplay.Heralds, inbox, unposted] at heralds
  exact Or.inl heralds

/-- The endpoint once these signals have come in, and perhaps some countdowns have run out. -/
def Endpoint.Receives (endpoint after : Endpoint) (signals : List Signal) : Prop :=
  ∃ timers, after = { endpoint with
    timers, inbox := if endpoint.running then endpoint.inbox ++ signals else endpoint.inbox }

theorem Endpoint.receives_post (endpoint : Endpoint) (signal : Signal) :
    endpoint.Receives (endpoint.post signal) [signal] := ⟨endpoint.timers, endpoint.post_eq signal⟩

theorem Endpoint.Receives.session_eq {endpoint after : Endpoint} {signals : List Signal}
    (receives : endpoint.Receives after signals) : after.session = endpoint.session := by
  obtain ⟨timers, same⟩ := receives
  rw [same]

theorem Interplay.goesOn_of_receives {signals : List Signal}
    (receives : play.endpoint.Receives after.endpoint signals)
    (waiting : after.stage.standing = play.stage.standing) : play.GoesOn after := by
  obtain ⟨timers, same⟩ := receives
  refine ⟨waiting, by rw [same], by rw [same], fun stopped => ?_⟩
  rw [same]
  exact if_neg (ne_true_of_eq_false stopped)

theorem Endpoint.Receives.mem {endpoint after : Endpoint} {signals : List Signal}
    (receives : endpoint.Receives after signals) {signal : Signal} (came : signal ∈ after.inbox) :
    signal ∈ endpoint.inbox ∨ signal ∈ signals := by
  obtain ⟨timers, same⟩ := receives
  rw [same] at came
  dsimp only at came
  split at came
  · exact List.mem_append.mp came
  · exact Or.inl came

/-- Signals come in, none of which asks to shut down. -/
theorem Interplay.turns_of_receives {signals : List Signal} {input? : Option Session.Input}
    (receives : play.endpoint.Receives after.endpoint signals) (others : .shutdown ∉ signals)
    (waiting : after.stage.standing = play.stage.standing)
    (unposted : after.unposted = play.unposted) : play.Turns input? none after := by
  refine .goesOn (Interplay.goesOn_of_receives receives waiting) fun heralds => Or.inl ?_
  rcases heralds with came | left
  · exact Or.inl ((receives.mem came).resolve_right others)
  · exact Or.inr (unposted ▸ left)

theorem Interplay.turns_of_post (play : Interplay) {signal : Signal} (other : .shutdown ∉ [signal])
    {input? : Option Session.Input} : play.Turns input? none (play.post signal) :=
  Interplay.turns_of_receives (play.endpoint.receives_post signal) other rfl rfl

/-- A call of the application asks to shut down only if it closes the intake. -/
theorem Interplay.turns_of_call (play : Interplay) (session : Session) {wakeup : Wakeup}
    {input? : Option Session.Input} (closes : wakeup = .work ∨ input? = some .closeIntake) :
    play.Turns input? none (play.call session wakeup) := by
  refine .goesOn ⟨rfl, rfl, rfl, fun _ => rfl⟩ fun heralds => ?_
  rcases heralds with came | left
  · exact Or.inl (Or.inl came)
  · rcases List.mem_append.mp left with before | new
    · exact Or.inl (Or.inr before)
    · refine Or.inr (closes.resolve_left fun work => ?_)
      rw [work] at new
      cases List.mem_singleton.mp new

/-- The signal of a call comes in. -/
theorem Interplay.turns_of_wakeup (play : Interplay) {wakeup : Wakeup} {index : Nat}
    (left : play.unposted[index]? = some wakeup) {input? : Option Session.Input} :
    play.Turns input? none
      { play.post wakeup.signal with unposted := play.unposted.eraseIdx index } := by
  have receives := play.endpoint.receives_post wakeup.signal
  refine .goesOn (Interplay.goesOn_of_receives receives rfl) fun heralds => Or.inl ?_
  rcases heralds with came | still
  · rcases receives.mem came with before | new
    · exact Or.inl before
    · cases wakeup with
      | work => cases List.mem_singleton.mp new
      | shutdown => exact Or.inr (List.mem_of_getElem? left)
  · exact Or.inr (List.mem_of_mem_eraseIdx still)

theorem Interplay.turns_of_work (worked : play.work? = some after)
    (idle : play.endpoint.running = false → play.stage.standing = .waiting)
    (sendable : ∃ departure?, play.endpoint.session.next = .ok departure?) :
    play.endpoint.session.Performs after.endpoint.session play.workInput? ∧
      play.Turns play.workInput? (play.workRecord? after) after := by
  have running : play.stage.standing ≠ .waiting → play.endpoint.running = true := fun awake =>
    eq_true_of_ne_false fun stopped => awake (idle stopped)
  cases stage : play.stage with
  | waiting =>
    simp only [Interplay.work?, stage] at worked
    simp only [Interplay.workInput?, Interplay.workRecord?, stage]
    split at worked
    · cases worked
    · rename_i signal inbox oldest
      cases worked
      rw [oldest]
      exact Interplay.turns_of_take stage oldest
  | asking =>
    simp only [Interplay.work?, stage] at worked
    cases worked
    simp only [Interplay.workInput?, Interplay.workRecord?, stage]
    exact ⟨rfl, Interplay.turns_of_stage stage rfl ⟨rfl, rfl, rfl, rfl⟩⟩
  | obeying orders errand =>
    simp only [Interplay.workInput?, Interplay.workRecord?, stage]
    cases orders with
    | nil =>
      cases errand with
      | tell notices timeouts =>
        simp only [Interplay.work?, stage] at worked
        cases worked
        exact ⟨rfl, Interplay.turns_of_stage stage rfl ⟨rfl, rfl, rfl, rfl⟩⟩
      | hand packet =>
        simp only [Interplay.work?, stage] at worked
        cases worked
        exact ⟨rfl, Interplay.turns_of_stage stage rfl ⟨rfl, rfl, rfl, rfl⟩⟩
    | cons order orders =>
      simp only [Interplay.work?, stage] at worked
      cases worked
      obtain ⟨timers, obeyed⟩ := play.endpoint.obey_eq play.now order
      have same : (play.obey order).endpoint = { play.endpoint with timers } := obeyed
      exact ⟨(congrArg Endpoint.session same :), Interplay.turns_of_stage stage rfl
        ⟨(congrArg Endpoint.running same :), (congrArg Endpoint.deadline same :),
          (congrArg Endpoint.inbox same :), rfl⟩⟩
  | telling notices timeouts =>
    simp only [Interplay.workInput?, Interplay.workRecord?, stage]
    cases notices with
    | cons notice notices =>
      simp only [Interplay.work?, stage] at worked
      cases worked
      exact ⟨rfl, Interplay.turns_of_stage stage rfl ⟨rfl, rfl, rfl, rfl⟩⟩
    | nil =>
      cases timeouts with
      | none =>
        simp only [Interplay.work?, stage] at worked
        cases worked
        exact ⟨rfl, Interplay.turns_of_stage stage rfl ⟨rfl, rfl, rfl, rfl⟩⟩
      | some timeouts =>
        simp only [Interplay.work?, stage] at worked
        cases worked
  | looking =>
    obtain ⟨departure?, next⟩ := sendable
    simp only [Interplay.work?, stage, next] at worked
    simp only [Interplay.workInput?, Interplay.workRecord?, stage, Session.Performs,
      Session.perform, next]
    cases departure? with
    | none =>
      cases worked
      exact ⟨rfl, Interplay.turns_of_stage stage rfl ⟨rfl, rfl, rfl, rfl⟩⟩
    | some departure =>
      cases worked
      exact ⟨rfl, Interplay.turns_of_stage stage rfl ⟨rfl, rfl, rfl, rfl⟩⟩
  | handing reported =>
    simp only [Interplay.work?, stage] at worked
    cases worked
  | reviewing =>
    have awake := running (by rw [stage]; decide)
    simp only [Interplay.work?, stage] at worked
    cases worked
    simp only [Interplay.workInput?, Interplay.workRecord?, stage]
    cases checked : play.endpoint.deadline.isSome && play.endpoint.session.isDrained with
    | true => exact ⟨rfl, .stops stage awake checked⟩
    | false =>
      simp only [Bool.false_eq_true, if_false, awake, Bool.not_true]
      exact ⟨rfl, .waits stage awake checked⟩
  | failing =>
    have awake := running (by rw [stage]; decide)
    simp only [Interplay.work?, stage] at worked
    cases worked
    simp only [Interplay.workInput?, Interplay.workRecord?, stage]
    exact ⟨rfl, .breaksDown stage awake⟩

/-- All that a move can do. -/
theorem Interplay.turns_of_step {move : Interplay.Move} (stepped : play.step? move = some after)
    (idle : play.endpoint.running = false → play.stage.standing = .waiting)
    (sendable : ∃ departure?, play.endpoint.session.next = .ok departure?) :
    play.endpoint.session.Performs after.endpoint.session (play.input? move) ∧
      play.Turns (play.input? move) (play.record? after move) after := by
  cases move with
  | work => exact Interplay.turns_of_work stepped idle sendable
  | answer givesUp =>
    simp only [Interplay.step?] at stepped
    split at stepped
    · rename_i told
      cases givesUp <;> cases stepped
      · exact ⟨rfl, Interplay.turns_of_stage told rfl ⟨rfl, rfl, rfl, rfl⟩⟩
      · exact ⟨rfl, Interplay.turns_of_stage told rfl ⟨rfl, rfl, rfl, rfl⟩⟩
    · cases stepped
  | accept acceptance =>
    simp only [Interplay.step?] at stepped
    split at stepped <;> cases stepped
    · rename_i handing
      exact ⟨rfl, Interplay.turns_of_stage handing rfl ⟨rfl, rfl, rfl, rfl⟩⟩
    · rename_i handing
      exact ⟨rfl, Interplay.turns_of_stage handing rfl ⟨rfl, rfl, rfl, rfl⟩⟩
  | report result =>
    simp only [Interplay.step?] at stepped
    split at stepped <;> cases stepped
    have other : Signal.shutdown ∉ [Signal.sendDone result] := by simp
    refine ⟨play.endpoint.session_post _,
      Interplay.turns_of_receives (play.endpoint.receives_post _) other ?_ rfl⟩
    dsimp only
    split
    · rename_i handing
      exact (congrArg Interplay.Stage.standing handing).symm
    · rfl
  | receive bytes =>
    cases stepped
    have other : .shutdown ∉ [Signal.received bytes] := by simp
    exact ⟨play.endpoint.session_post _, play.turns_of_post other⟩
  | submit datagram =>
    simp only [Interplay.step?] at stepped
    simp only [Interplay.input?, Session.Performs, Session.perform]
    cases submitted : play.endpoint.session.submit datagram with
    | error refusal =>
      rw [submitted] at stepped
      cases stepped
      exact ⟨rfl, .goesOn ⟨rfl, rfl, rfl, fun _ => rfl⟩ Or.inl⟩
    | ok session =>
      rw [submitted] at stepped
      cases stepped
      exact ⟨rfl, play.turns_of_call session (Or.inl rfl)⟩
  | reportError error =>
    cases stepped
    exact ⟨rfl, play.turns_of_call _ (Or.inl rfl)⟩
  | closeIntake =>
    cases stepped
    exact ⟨rfl, play.turns_of_call _ (Or.inr rfl)⟩
  | post index =>
    simp only [Interplay.step?] at stepped
    split at stepped <;> cases stepped
    rename_i wakeup left
    exact ⟨play.endpoint.session_post _, play.turns_of_wakeup left⟩
  | askReset =>
    cases stepped
    have other : .shutdown ∉ [Signal.reset] := by simp
    exact ⟨play.endpoint.session_post _, play.turns_of_post other⟩
  | ring expiry =>
    simp only [Interplay.step?] at stepped
    split at stepped <;> cases stepped
    have other : .shutdown ∉ [Signal.expired expiry] := by simp
    exact ⟨play.endpoint.session_post _, play.turns_of_post other⟩
  | elapse =>
    cases stepped
    have receives : play.endpoint.Receives play.elapse.endpoint
        ((play.endpoint.timers.elapse play.now).1.map .expired) := ⟨_, Endpoint.foldl_post _ _⟩
    have others : .shutdown ∉ (play.endpoint.timers.elapse play.now).1.map Signal.expired := by simp
    exact ⟨receives.session_eq, Interplay.turns_of_receives receives others rfl rfl⟩
  | pass ticks =>
    cases stepped
    exact ⟨rfl, .goesOn ⟨rfl, rfl, rfl, fun _ => rfl⟩ Or.inl⟩
  | overrun =>
    simp only [Interplay.step?] at stepped
    split at stepped <;> cases stepped
    rename_i overdue
    exact ⟨rfl, .givesUp overdue.1 overdue.2⟩

/-- All that an event can do, with what it leaves on record. -/
theorem Worklog.turns_of_step {log after : Worklog} {event : Worklog.Event}
    (stepped : log.step? event = some after)
    (idle : log.play.endpoint.running = false → log.play.stage.standing = .waiting)
    (sendable : ∃ departure?, log.play.endpoint.session.next = .ok departure?) :
    ∃ input? new?,
      log.play.endpoint.session.Performs after.play.endpoint.session input? ∧
      log.play.Turns input? new? after.play ∧
      after.entries =
        (log.play.endpoint.session.occurrencesIf input?).reverse.map .came ++
          (new?.toList ++ log.entries) := by
  cases event with
  | move move =>
    obtain ⟨play, moved, same⟩ := Option.map_eq_some_iff.mp stepped
    cases same
    obtain ⟨performs, turns⟩ := Interplay.turns_of_step moved idle sendable
    exact ⟨_, _, performs, turns, rfl⟩
  | sendDone result =>
    cases stepped
    have other : Signal.shutdown ∉ [Signal.sendDone result] := by simp
    exact ⟨none, none, log.play.endpoint.session_post _, log.play.turns_of_post other, rfl⟩

end inversion

end DatagramLink
