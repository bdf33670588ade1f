import DatagramLink.Proofs.Line.Basic
import DatagramLink.Proofs.Session.Diligence

namespace DatagramLink

/-- The session agrees with the countdowns that run, and nothing it owes or waits for is stalled. -/
structure Session.Timely (session : Session) (running : Countdown → Bool) : Prop where
  txTimeout : running .txTimeout = session.txArmed
  outstanding_of_armed : session.txArmed = true → session.sender.outstanding.isSome = true
  outstanding : ∀ packet, session.sender.outstanding = some packet →
    running .txTimeout = true ∨ packet.resend = true
  ackDelay : running .ackDelay = session.ackArmed
  /-- Either the sender says that it owes an acknowledgement, or the last one that went out is not
  up to date. -/
  unacknowledged : session.sender.acknowledgement ≠ .settled ∨
      session.sender.sentAck ≠ session.receiver.expected →
    session.sender.acknowledgement = .due ∨ running .ackDelay = true
  rxTimeout : running .rxTimeout = !session.framer.isWaiting
  resetRetry : running .resetRetry = true ↔ session.handshake.stage = .awaiting
  down : session.handshake.isUp = false →
    session.handshake.stage = .announcing ∨ running .resetRetry = true

section runs

variable {settings : Settings} {session after : Session} {running now : Countdown → Bool}

theorem Session.Diligent.timely (diligent : session.Diligent)
    (watching : session.rxArmed = !session.framer.isWaiting) :
    session.Timely session.counting where
  txTimeout := rfl
  outstanding_of_armed := diligent.watched
  outstanding := diligent.recovers
  ackDelay := rfl
  unacknowledged := by
    intro unacknowledged
    cases owed : session.sender.acknowledgement with
    | settled =>
      rcases unacknowledged with owes | behind
      · exact absurd owed owes
      · exact absurd (diligent.told owed) behind
    | owed => exact Or.inr (diligent.heldBack owed)
    | due => exact Or.inl rfl
  rxTimeout := watching
  resetRetry := decide_eq_true_iff
  down := by
    have awake := diligent.awake
    unfold Handshake.isUp
    cases stage : session.handshake.stage with
    | dormant => exact absurd stage awake
    | announcing => exact fun _ => Or.inl rfl
    | awaiting => exact fun _ => Or.inr (decide_eq_true stage)
    | answering => exact fun down => by cases down
    | up => exact fun down => by cases down

/-- A run keeps all of it together, whatever happens. -/
theorem Session.Diligent.attend (diligent : session.Diligent) (room : settings.payloadLimit ≠ 0)
    (sane : session.Sane settings) (watching : session.rxArmed = !session.framer.isWaiting)
    {inputs : List Session.Input}
    (attended : session.attend session.counting inputs = .ok (after, now)) :
    after.Timely now := by
  induction inputs generalizing session with
  | nil =>
    cases attended
    exact diligent.timely watching
  | cons input inputs ih =>
    rw [Session.attend] at attended
    cases performed : session.perform input with
    | error => rw [performed] at attended; cases attended
    | ok middle =>
      rw [performed] at attended
      dsimp only [Except.bind] at attended
      rw [Session.counting_perform performed] at attended
      exact ih (diligent.perform room sane performed) (sane.of_perform performed)
        (Session.rxArmed_perform watching performed) attended

/-- Whatever is done to a session after its first reset, in any order and as often as one likes:
whoever obeys its orders has the right countdowns running. A countdown may even elapse late, when it
does not run any more. -/
theorem Session.timely_of_attend {inputs : List Session.Input}
    (room : settings.payloadLimit ≠ 0) (made : Session.ofSettings settings = .ok session)
    (attended : session.attend (fun _ => false) (.askReset :: inputs) = .ok (after, now)) :
    after.Timely now := by
  have sane := Session.sane_ofSettings made
  have asked : session.perform .askReset = .ok session.askReset.1 := rfl
  obtain ⟨sender, parameters, _, _, new⟩ := Session.of_ofSettings made
  have stopped : (fun _ => false) = session.counting := by
    rw [new]
    funext countdown
    cases countdown <;> rfl
  have watching : session.rxArmed = !session.framer.isWaiting := by
    rw [new]
    rfl
  have limit : session.payloadLimit ≠ 0 := by
    rw [new]
    exact room
  have diligent : session.askReset.1.Diligent := {
    awake := fun dormant => by cases dormant
    limit
    watched := fun armed => by cases armed
    recovers := fun packet held => by cases held
    told := fun _ => rfl
    heldBack := fun held => by cases held }
  rw [stopped, Session.attend, asked] at attended
  dsimp only [Except.bind] at attended
  rw [Session.counting_perform asked] at attended
  exact diligent.attend room (sane.of_perform asked) (Session.rxArmed_perform watching asked)
    attended

/-- The link comes up and a datagram leaves; then part of a packet arrives. -/
def waitingInputs : List Session.Input :=
  [.receive serialReset.encode, .depart, .sendDone (.ok ()), .submit [1], .depart, .receive preamble]

theorem timely_while_waiting : ∃ session after now,
    Session.ofSettings .serialLine = .ok session ∧
      session.attend (fun _ => false) (.askReset :: waitingInputs) = .ok (after, now) ∧
      after.Timely now ∧ now .txTimeout = true ∧ now .rxTimeout = true := by
  have made := Session.ofSettings_ofValid _ Settings.check_serialLine
  have ends : ((Session.ofValid _ Settings.check_serialLine).attend (fun _ => false)
      (.askReset :: waitingInputs)).map (fun (_, now) => (now .txTimeout, now .rxTimeout)) =
        .ok (true, true) := by decide +kernel
  cases attended : (Session.ofValid _ Settings.check_serialLine).attend (fun _ => false)
      (.askReset :: waitingInputs) with
  | error => rw [attended] at ends; cases ends
  | ok result =>
    obtain ⟨after, now⟩ := result
    rw [attended] at ends
    obtain ⟨tx, rx⟩ := Prod.mk.inj (Except.ok.inj ends)
    exact ⟨_, after, now, made, attended, Session.timely_of_attend (by decide) made attended, tx, rx⟩

/-- Without room for payload in a packet, an empty packet is outstanding, no countdown runs for it,
and it is not to be sent again. -/
theorem not_always_timely : ∃ session after now,
    Session.ofSettings { Settings.serialLine with linkMtu := 14 } = .ok session ∧
      session.attend (fun _ => false) (.askReset :: waitingInputs) = .ok (after, now) ∧
      ¬ after.Timely now := by
  have ends : ((Session.ofSettings { Settings.serialLine with linkMtu := 14 }).bind fun session =>
      (session.attend (fun _ => false) (.askReset :: waitingInputs)).map fun (after, now) =>
        (after.sender.outstanding.map (·.resend), now .txTimeout)) = .ok (some false, false) := by
    decide +kernel
  cases made : Session.ofSettings { Settings.serialLine with linkMtu := 14 } with
  | error => rw [made] at ends; cases ends
  | ok session =>
    rw [made] at ends
    dsimp only [Except.bind] at ends
    cases attended : session.attend (fun _ => false) (.askReset :: waitingInputs) with
    | error => rw [attended] at ends; cases ends
    | ok result =>
      obtain ⟨after, now⟩ := result
      rw [attended] at ends
      obtain ⟨waits, stopped⟩ := Prod.mk.inj (Except.ok.inj ends)
      obtain ⟨packet, held, forgotten⟩ := Option.map_eq_some_iff.mp waits
      refine ⟨session, after, now, rfl, attended, fun timely => ?_⟩
      rcases timely.outstanding packet held with running | again
      · cases running.symm.trans stopped
      · cases again.symm.trans forgotten

end runs

end DatagramLink
