import DatagramLink.Endpoint.Work
import DatagramLink.Proofs.Session.Inputs

namespace DatagramLink

/-- What is on record about an endpoint. -/
inductive Deed where
  /-- A countdown was started; its message will say this. -/
  | started (expiry : Expiry)
  /-- A countdown without a delay was to be started. -/
  | skipped (countdown : Countdown)
  | stopped (countdown : Countdown)
  /-- The message of a countdown counted. The session was told, and it said how many times in a row
  the outstanding packet has timed out, if it has. -/
  | passedOn (expiry : Expiry) (timeouts : Option UInt32)
  /-- A packet is outstanding from now on. -/
  | outstanding
  /-- No packet is outstanding any more. -/
  | settled
  /-- The application did something to the session. -/
  | called
  /-- The worker begins to send what there is to send. -/
  | sending
  /-- The link was called with a packet. -/
  | handed (packet : Packet)
  deriving DecidableEq

/-- What is to be done once the countdowns are set. -/
inductive Interplay.Errand where
  | tell (notices : List Notice) (timeouts : Option UInt32)
  | hand (packet : Packet)
  deriving DecidableEq

/-- What the worker of an endpoint is about to do. -/
inductive Interplay.Stage where
  | waiting
  | asking
  | obeying (orders : List CountdownOrder) (errand : Interplay.Errand)
  /-- The application is told, and then asked whether it gives up if there was a timeout. -/
  | telling (notices : List Notice) (timeouts : Option UInt32)
  | looking
  /-- The link has the packet, and has not said what becomes of it. It may have signalled that the
  send is done. -/
  | handing (reported : Bool)
  | reviewing
  /-- The worker breaks down, since the clock cannot tell when to stop at the latest. -/
  | failing
  deriving DecidableEq

/-- A signal that a call of the application leaves after it has changed the session. -/
inductive Wakeup where
  | work
  | shutdown
  deriving DecidableEq

/-- The signal that a call leaves. -/
def Wakeup.signal : Wakeup → Signal
  | .work => .work
  | .shutdown => .shutdown

/-- An endpoint step by step, with all that may come between its steps. The worker handles
signals and hands packets to the link; the link, the application and the clock do not wait for
it. The message of a countdown may come in at any time after its start, also when it was stopped
long ago. -/
structure Interplay where
  endpoint : Endpoint
  now : Nat
  stage : Interplay.Stage
  /-- The calls of the application that have not left their signal yet. -/
  unposted : List Wakeup
  /-- How many packets the link has that it has neither called complete nor signalled as done. -/
  unreported : Nat
  /-- The record, latest first. -/
  history : List Deed

/-- What comes next, from any side. -/
inductive Interplay.Move where
  /-- The worker goes on. -/
  | work
  /-- The application says whether it gives up after a timeout. -/
  | answer (givesUp : Bool)
  /-- The link says what becomes of the packet it was handed. -/
  | accept (acceptance : Acceptance)
  /-- The link signals that a send is done. -/
  | report (result : Except SendFailure Unit)
  | receive (bytes : Bytes)
  | submit (datagram : Bytes)
  | reportError (error : ErrorCode)
  | closeIntake
  /-- A call of the application leaves its signal. -/
  | post (index : Nat)
  | askReset
  /-- The message of a countdown comes in, late or once more. -/
  | ring (expiry : Expiry)
  /-- The messages of all countdowns that have run out come in. -/
  | elapse
  | pass (ticks : Nat)
  /-- The drain timeout is over. -/
  | overrun

/-- What a step means for the outstanding packet. -/
def Deed.ofChange (before after : Sender) : List Deed :=
  match before.outstanding, after.outstanding with
  | none, some _ => [.outstanding]
  | some _, none => [.settled]
  | none, none | some _, some _ => []

/-- What is on record of an order, carried out by an endpoint that is like this now. -/
def Deed.ofOrder (endpoint : Endpoint) : CountdownOrder → Deed
  | .stop countdown => .stopped countdown
  | .start countdown =>
    match endpoint.session.settings.delay countdown with
    | none => .skipped countdown
    | some _ => .started ⟨countdown, (endpoint.timers.get countdown).generation⟩

section steps

variable (play : Interplay)

/-- The session becomes another. -/
def Interplay.become (session : Session) : Interplay :=
  { play with
    endpoint := { play.endpoint with session }
    history := Deed.ofChange play.endpoint.session.sender session.sender ++ play.history }

/-- A signal comes in, unless the worker has stopped. -/
def Interplay.post (signal : Signal) : Interplay :=
  { play with endpoint := play.endpoint.post signal }

/-- A call of the application changes the session at once and leaves its signal a little later.
-/
def Interplay.call (session : Session) (wakeup : Wakeup) : Interplay :=
  { play.become session with
    unposted := play.unposted ++ [wakeup]
    history := .called :: (play.become session).history }

/-- The worker carries out an order of the session. -/
def Interplay.obey (order : CountdownOrder) : Interplay :=
  let endpoint := play.endpoint.obey play.now order
  { play with endpoint, history := .ofOrder endpoint order :: play.history }

/-- The worker stops, and all countdowns with it. -/
def Interplay.halt : Interplay :=
  { play with
    endpoint := play.endpoint.stop
    history := Countdown.all.reverse.map Deed.stopped ++ play.history }

/-- The messages of all countdowns that have run out come in. -/
def Interplay.elapse : Interplay :=
  let (expiries, timers) := play.endpoint.timers.elapse play.now
  { play with
    endpoint := (expiries.map Signal.expired).foldl Endpoint.post { play.endpoint with timers } }

/-- The worker begins to send. -/
def Interplay.search : Interplay :=
  { play with stage := .looking, history := .sending :: play.history }

/-- The worker does what a step of the session asks for. -/
def Interplay.react (reaction : Reaction) : Interplay :=
  { play with stage := .obeying reaction.orders (.tell reaction.notices reaction.timeouts) }

/-- The worker turns to a signal. -/
def Interplay.take : Signal → Interplay
  | .received bytes =>
    let (session, reaction) := play.endpoint.session.receive bytes
    (play.become session).react reaction
  | .sendDone result => (play.become (play.endpoint.session.sendDone result)).search
  | .expired expiry =>
    let (current, timers) := play.endpoint.timers.accept expiry
    if current then
      let (session, reaction) := play.endpoint.session.elapsed expiry.kind
      { play with
        endpoint := { play.endpoint with session, timers }
        history := .passedOn expiry reaction.timeouts :: play.history }.react reaction
    else play.search
  | .work => play.search
  | .reset => { play with stage := .asking }
  | .shutdown =>
    match play.endpoint.drainEnd? play.now with
    | some deadline =>
      { play with endpoint := { play.endpoint with deadline := some deadline } }.search
    | none => { play with stage := .failing }

/-- The worker goes on by itself, unless it waits for somebody. -/
def Interplay.work? : Option Interplay :=
  match play.stage with
  | .waiting =>
    match play.endpoint.inbox with
    | [] => none
    | signal :: inbox => some ({ play with endpoint := { play.endpoint with inbox } }.take signal)
  | .asking =>
    let (session, reaction) := play.endpoint.session.askReset
    some ((play.become session).react reaction)
  | .obeying (order :: orders) errand =>
    some { play.obey order with stage := .obeying orders errand }
  | .obeying [] (.tell notices timeouts) => some { play with stage := .telling notices timeouts }
  | .obeying [] (.hand packet) =>
    some { play with
      stage := .handing false
      unreported := play.unreported + 1
      history := .handed packet :: play.history }
  | .telling (_ :: notices) timeouts => some { play with stage := .telling notices timeouts }
  | .telling [] none => some play.search
  | .telling [] (some _) | .handing _ => none
  | .looking =>
    match play.endpoint.session.next with
    | .error _ => some { play.halt with stage := .reviewing }
    | .ok none => some { play with stage := .reviewing }
    | .ok (some departure) =>
      some { play.become departure.session with
        stage := .obeying departure.reaction.orders (.hand departure.packet) }
  | .reviewing =>
    let drained := play.endpoint.deadline.isSome && play.endpoint.session.isDrained
    some { if drained then play.halt else play with stage := .waiting }
  | .failing => some { play.halt with stage := .waiting }

/-- The next state, if this can come next. -/
def Interplay.step? : Interplay.Move → Option Interplay
  | .work => play.work?
  | .answer givesUp =>
    match play.stage with
    | .telling [] (some _) => some (if givesUp then { play with stage := .asking } else play.search)
    | _ => none
  | .accept acceptance =>
    match play.stage, acceptance with
    | .handing false, .complete =>
      some { play.become (play.endpoint.session.sendDone (.ok ())) with
        stage := .looking, unreported := play.unreported - 1 }
    | .handing _, .pending => some { play with stage := .reviewing }
    | _, _ => none
  | .report result =>
    match play.unreported with
    | 0 => none
    | unreported + 1 =>
      some { play.post (.sendDone result) with
        unreported
        stage := if play.stage = .handing false then .handing true else play.stage }
  | .receive bytes => some (play.post (.received bytes))
  | .submit datagram =>
    match play.endpoint.session.submit datagram with
    | .error _ => some play
    | .ok session => some (play.call session .work)
  | .reportError error => some (play.call (play.endpoint.session.reportError error) .work)
  | .closeIntake => some (play.call play.endpoint.session.closeIntake .shutdown)
  | .post index =>
    match play.unposted[index]? with
    | none => none
    | some wakeup =>
      some { play.post wakeup.signal with unposted := play.unposted.eraseIdx index }
  | .askReset => some (play.post .reset)
  | .ring expiry =>
    if .started expiry ∈ play.history then some (play.post (.expired expiry)) else none
  | .elapse => some play.elapse
  | .pass ticks => some { play with now := play.now + ticks }
  | .overrun =>
    if play.stage = .waiting ∧ play.endpoint.isOverdue play.now then some play.halt else none

end steps

/-- The state after these moves, if each of them can come when it does. -/
def Interplay.run? (play : Interplay) : List Interplay.Move → Option Interplay
  | [] => some play
  | move :: moves => (play.step? move).bind fun after => after.run? moves

/-- An endpoint as it starts. -/
def Interplay.start (endpoint : Endpoint) : Interplay := ⟨endpoint, 0, .asking, [], 0, []⟩

/-- What the application does to a session by itself. -/
inductive Session.Calls (session : Session) : Session → Prop
  | submit {datagram : Bytes} {after : Session} (submitted : session.submit datagram = .ok after) :
      session.Calls after
  | reportError (error : ErrorCode) : session.Calls (session.reportError error)
  | closeIntake : session.Calls session.closeIntake

/-- The steps that the worker takes and those that the others take, each with what it needs. -/
inductive Interplay.Steps (play : Interplay) : Interplay → Prop
  | takes {signal : Signal} {inbox : List Signal} (waiting : play.stage = .waiting)
      (oldest : play.endpoint.inbox = signal :: inbox) :
      play.Steps ({ play with endpoint := { play.endpoint with inbox } }.take signal)
  | asks (asking : play.stage = .asking) :
      play.Steps ((play.become play.endpoint.session.askReset.1).react
        play.endpoint.session.askReset.2)
  | obeys {order : CountdownOrder} {orders : List CountdownOrder} {errand : Interplay.Errand}
      (obeying : play.stage = .obeying (order :: orders) errand) :
      play.Steps { play.obey order with stage := .obeying orders errand }
  | tells {notices : List Notice} {timeouts : Option UInt32}
      (ready : play.stage = .obeying [] (.tell notices timeouts) ∨
        ∃ notice, play.stage = .telling (notice :: notices) timeouts) :
      play.Steps { play with stage := .telling notices timeouts }
  | hands {packet : Packet} (ready : play.stage = .obeying [] (.hand packet)) :
      play.Steps { play with
        stage := .handing false
        unreported := play.unreported + 1
        history := .handed packet :: play.history }
  | searches {timeouts : Option UInt32} (told : play.stage = .telling [] timeouts) :
      play.Steps play.search
  | givesUp {timeouts : Option UInt32} (told : play.stage = .telling [] timeouts) :
      play.Steps { play with stage := .asking }
  | fails {fault : Fault} (looking : play.stage = .looking)
      (next : play.endpoint.session.next = .error fault) :
      play.Steps { play.halt with stage := .reviewing }
  | rests (looking : play.stage = .looking) (next : play.endpoint.session.next = .ok none) :
      play.Steps { play with stage := .reviewing }
  | finds {departure : Session.Departure} (looking : play.stage = .looking)
      (next : play.endpoint.session.next = .ok (some departure)) :
      play.Steps { play.become departure.session with
        stage := .obeying departure.reaction.orders (.hand departure.packet) }
  | stops (reviewing : play.stage = .reviewing) : play.Steps { play.halt with stage := .waiting }
  | waits (reviewing : play.stage = .reviewing) : play.Steps { play with stage := .waiting }
  | breaksDown (failing : play.stage = .failing) : play.Steps { play.halt with stage := .waiting }
  | completes (handing : play.stage = .handing false) :
      play.Steps { play.become (play.endpoint.session.sendDone (.ok ())) with
        stage := .looking, unreported := play.unreported - 1 }
  | pends {reported : Bool} (handing : play.stage = .handing reported) :
      play.Steps { play with stage := .reviewing }
  | reports {result : Except SendFailure Unit} {unreported : Nat}
      (owed : play.unreported = unreported + 1) :
      play.Steps { play.post (.sendDone result) with
        unreported
        stage := if play.stage = .handing false then .handing true else play.stage }
  | receives {bytes : Bytes} : play.Steps (play.post (.received bytes))
  | calls {session : Session} {wakeup : Wakeup} (called : play.endpoint.session.Calls session) :
      play.Steps (play.call session wakeup)
  | posts {wakeup : Wakeup} {unposted : List Wakeup} :
      play.Steps { play.post wakeup.signal with unposted }
  | resets : play.Steps (play.post .reset)
  | rings {expiry : Expiry} (started : .started expiry ∈ play.history) :
      play.Steps (play.post (.expired expiry))
  | elapses : play.Steps play.elapse
  | stays : play.Steps play
  | passes {ticks : Nat} : play.Steps { play with now := play.now + ticks }
  | overruns (waiting : play.stage = .waiting) : play.Steps play.halt

section calls

variable {session after : Session}

theorem Session.Calls.perform (called : session.Calls after) :
    ∃ input, session.perform input = .ok after := by
  cases called with
  | @submit datagram _ submitted => exact ⟨.submit datagram, Session.perform_submit submitted⟩
  | reportError error => exact ⟨.reportError error, rfl⟩
  | closeIntake => exact ⟨.closeIntake, rfl⟩

/-- The application touches what is queued, the error to report, and whether more is accepted. -/
theorem Session.Calls.eq (called : session.Calls after) :
    ∃ queue report accepting,
      after = { session with accepting, sender := { session.sender with queue, report } } := by
  cases called with
  | submit submitted =>
    obtain ⟨queue, _, rfl⟩ := Session.eq_of_submit submitted
    exact ⟨queue, _, _, rfl⟩
  | reportError error =>
    unfold Session.reportError
    split <;> exact ⟨_, _, _, rfl⟩
  | closeIntake => exact ⟨_, _, _, rfl⟩

end calls

section posting

variable (endpoint : Endpoint)

/-- Orders concern the countdowns only. -/
theorem Endpoint.obey_eq (now : Nat) (order : CountdownOrder) :
    ∃ timers, endpoint.obey now order = { endpoint with timers } := by
  unfold Endpoint.obey
  split
  · exact ⟨_, rfl⟩
  · split <;> exact ⟨_, rfl⟩

theorem Endpoint.post_eq (signal : Signal) : endpoint.post signal = { endpoint with
    inbox := if endpoint.running then endpoint.inbox ++ [signal] else endpoint.inbox } := by
  unfold Endpoint.post
  split
  · rfl
  · rfl

theorem Endpoint.session_post (signal : Signal) :
    (endpoint.post signal).session = endpoint.session := by
  rw [endpoint.post_eq]

theorem Endpoint.foldl_post (signals : List Signal) :
    signals.foldl Endpoint.post endpoint = { endpoint with
      inbox := if endpoint.running then endpoint.inbox ++ signals else endpoint.inbox } := by
  induction signals generalizing endpoint with
  | nil =>
    rw [List.append_nil, ite_self]
    rfl
  | cons signal signals ih =>
    rw [List.foldl_cons, ih, endpoint.post_eq]
    cases endpoint.running with
    | true => simp only [if_true, List.append_assoc, List.singleton_append]
    | false => rfl

end posting

section inversion

variable {play after : Interplay}

theorem Interplay.steps_of_work (worked : play.work? = some after) : play.Steps after := by
  unfold Interplay.work? at worked
  split at worked
  · rename_i waiting
    split at worked
    · cases worked
    · rename_i oldest
      cases worked
      exact .takes waiting oldest
  · cases worked
    exact .asks (by assumption)
  · cases worked
    exact .obeys (by assumption)
  · cases worked
    exact .tells (Or.inl (by assumption))
  · cases worked
    exact .hands (by assumption)
  · cases worked
    exact .tells (Or.inr ⟨_, by assumption⟩)
  · cases worked
    exact .searches (by assumption)
  · cases worked
  · cases worked
  · rename_i looking
    split at worked <;> cases worked
    · exact .fails looking (by assumption)
    · exact .rests looking (by assumption)
    · exact .finds looking (by assumption)
  · rename_i reviewing
    cases worked
    split
    · exact .stops reviewing
    · exact .waits reviewing
  · cases worked
    exact .breaksDown (by assumption)

theorem Interplay.steps_of_step {move : Interplay.Move} (stepped : play.step? move = some after) :
    play.Steps after := by
  cases move with
  | work => exact Interplay.steps_of_work stepped
  | answer givesUp =>
    unfold Interplay.step? at stepped
    dsimp only at stepped
    split at stepped
    · rename_i told
      cases givesUp <;> cases stepped
      · exact .searches told
      · exact .givesUp told
    · cases stepped
  | accept acceptance =>
    unfold Interplay.step? at stepped
    dsimp only at stepped
    split at stepped <;> cases stepped
    · exact .completes (by assumption)
    · exact .pends (by assumption)
  | report result =>
    unfold Interplay.step? at stepped
    dsimp only at stepped
    split at stepped <;> cases stepped
    exact .reports (by assumption)
  | receive bytes => cases stepped; exact .receives
  | submit datagram =>
    unfold Interplay.step? at stepped
    dsimp only at stepped
    split at stepped <;> cases stepped
    · exact .stays
    · exact .calls (.submit (by assumption))
  | reportError error => cases stepped; exact .calls (.reportError error)
  | closeIntake => cases stepped; exact .calls .closeIntake
  | post index =>
    unfold Interplay.step? at stepped
    dsimp only at stepped
    split at stepped <;> cases stepped
    exact .posts
  | askReset => cases stepped; exact .resets
  | ring expiry =>
    unfold Interplay.step? at stepped
    dsimp only at stepped
    split at stepped <;> cases stepped
    exact .rings (by assumption)
  | elapse => cases stepped; exact .elapses
  | pass ticks => cases stepped; exact .passes
  | overrun =>
    unfold Interplay.step? at stepped
    dsimp only at stepped
    split at stepped <;> cases stepped
    rename_i overdue
    exact .overruns overdue.1

/-- What every step keeps holds after every run. -/
theorem Interplay.of_run {holds : Interplay → Prop}
    (keeps : ∀ play after : Interplay, holds play → play.Steps after → holds after)
    {moves : List Interplay.Move} (before : holds play) (ran : play.run? moves = some after) :
    holds after := by
  induction moves generalizing play with
  | nil => cases ran; exact before
  | cons move moves ih =>
    obtain ⟨middle, stepped, later⟩ := Option.bind_eq_some_iff.mp ran
    exact ih (keeps play middle before (Interplay.steps_of_step stepped)) later

end inversion

theorem Endpoint.of_create {settings : Settings} {endpoint : Endpoint}
    (created : Endpoint.create settings = .ok endpoint) :
    ∃ valid, endpoint = ⟨.ofValid settings valid, .new, [], none, true⟩ := by
  unfold Endpoint.create at created
  split at created
  · cases created
  · cases created
    exact ⟨_, rfl⟩

end DatagramLink
