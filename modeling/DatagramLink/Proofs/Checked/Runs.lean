import DatagramLink.Proofs.Checked.Session
import DatagramLink.Proofs.Line.Basic
import DatagramLink.Proofs.Session.Timeouts

namespace DatagramLink

/-- The states of a session while it handles this. -/
def Session.during (session : Session) : Session.Input → List Session
  | .receive chunk =>
    Session.between { session with framer := (session.framer.feed chunk).1 }
      (session.framer.feed chunk).2
  | .submit _ | .reportError _ | .closeIntake | .askReset | .elapsed _ | .depart | .sendDone _ =>
    [session]

/-- All states that a session goes through. -/
def Session.states (session : Session) : List Session.Input → List Session
  | [] => [session]
  | input :: inputs => session.during input ++
    match session.perform input with
    | .error _ => []
    | .ok after => after.states inputs

/-- No chunk is longer than what a buffer of bytes may hold. -/
def Session.Input.Moderate : Session.Input → Prop
  | .receive chunk => chunk.length < 2 ^ 63
  | .submit _ | .reportError _ | .closeIntake | .askReset | .elapsed _ | .depart | .sendDone _ =>
    True

instance (input : Session.Input) : Decidable input.Moderate :=
  match input with
  | .receive chunk => inferInstanceAs (Decidable (chunk.length < 2 ^ 63))
  | .submit _ | .reportError _ | .closeIntake | .askReset | .elapsed _ | .depart | .sendDone _ =>
    inferInstanceAs (Decidable True)

section runs

variable {settings : Settings} {session : Session}

theorem Session.moderate_of_states {inputs : List Session.Input}
    (moderate : ∀ state ∈ session.states inputs, state.Moderate) : session.Moderate := by
  cases inputs with
  | nil => exact moderate session (List.mem_singleton_self session)
  | cons input inputs =>
    have first := fun state member => moderate state (List.mem_append_left _ member)
    cases input with
    | receive chunk =>
      obtain ⟨assembly, queued⟩ := first _ (Session.mem_between_self _ _)
      exact ⟨assembly, queued⟩
    | _ => exact first session (List.mem_singleton_self session)

/-- What leaves the framer alone leaves its buffers alone. -/
theorem BufferedSession.Agrees.of_framer {after : Session} {framer : BufferedFramer}
    (agrees : BufferedSession.Agrees ⟨session, framer⟩) (same : after.framer = session.framer) :
    BufferedSession.Agrees ⟨after, framer⟩ := by
  rw [BufferedSession.Agrees, same]
  exact agrees

theorem BufferedSession.performChecked_eq (valid : settings.check = .ok ())
    (sane : session.Sane settings) {framer : BufferedFramer}
    (agrees : BufferedSession.Agrees ⟨session, framer⟩) (moderate : session.Moderate)
    {input : Session.Input} (short : input.Moderate)
    (during : ∀ state ∈ session.during input, state.Moderate)
    (few : input = .elapsed .txTimeout → session.sender.outstanding.isSome = true →
      session.sender.timeouts.toNat + 1 < 2 ^ 32)
    {after : Session} (performed : session.perform input = .ok after) :
    ∃ framerAfter, BufferedSession.performChecked ⟨session, framer⟩ input =
        .ok ⟨after, framerAfter⟩ ∧
      BufferedSession.Agrees ⟨after, framerAfter⟩ := by
  cases input with
  | submit datagram =>
    simp only [BufferedSession.performChecked, Session.submitChecked_eq valid sane.profile,
      Checked.ok_bind]
    cases submitted : session.submit datagram with
    | error refusal =>
      simp only [Session.perform, submitted] at performed
      cases performed
      exact ⟨framer, rfl, agrees⟩
    | ok queued =>
      cases (Session.perform_submit submitted).symm.trans performed
      exact ⟨framer, rfl, agrees.of_framer (Session.framer_submit submitted)⟩
  | reportError error =>
    cases performed
    have same : (session.reportError error).framer = session.framer := by
      unfold Session.reportError
      split <;> rfl
    exact ⟨framer, rfl, agrees.of_framer same⟩
  | closeIntake =>
    cases performed
    exact ⟨framer, rfl, agrees⟩
  | askReset =>
    cases performed
    exact ⟨framer, rfl, agrees⟩
  | receive chunk =>
    cases performed
    obtain ⟨framerAfter, received, agreesAfter⟩ :=
      BufferedSession.receiveChecked_eq valid sane agrees short during
    refine ⟨framerAfter, ?_, agreesAfter⟩
    rw [BufferedSession.performChecked, received]
    rfl
  | elapsed countdown =>
    cases performed
    obtain ⟨framerAfter, elapsed, agreesAfter⟩ := BufferedSession.elapsedChecked_eq agrees
      fun same => few (congrArg Session.Input.elapsed same)
    refine ⟨framerAfter, ?_, agreesAfter⟩
    rw [BufferedSession.performChecked, elapsed]
    rfl
  | depart =>
    obtain ⟨departure?, next⟩ := sane.profile.next_ok valid
    simp only [BufferedSession.performChecked, Session.nextChecked_eq sane.profile moderate next,
      Checked.ok_bind]
    cases departure? with
    | none =>
      simp only [Session.perform, next] at performed
      cases performed
      exact ⟨framer, rfl, agrees⟩
    | some departure =>
      cases (Session.perform_depart next).symm.trans performed
      exact ⟨framer, rfl, agrees.of_framer (Session.framer_next next)⟩
  | sendDone result =>
    cases performed
    exact ⟨framer, rfl, agrees⟩

theorem Session.Sane.runChecked_eq (valid : settings.check = .ok ()) (sane : session.Sane settings)
    {framer : BufferedFramer} (agrees : BufferedSession.Agrees ⟨session, framer⟩)
    {before : Nat} (counted : session.sender.timeouts = .ofNat before)
    {inputs : List Session.Input} (short : ∀ input ∈ inputs, input.Moderate)
    (moderate : ∀ state ∈ session.states inputs, state.Moderate)
    (few : ∀ lapses ∈ session.lapses before inputs, lapses < 2 ^ 32) :
    ∃ last framerLast, session.run inputs = .ok last ∧
      BufferedSession.runChecked ⟨session, framer⟩ inputs = .ok ⟨last, framerLast⟩ := by
  induction inputs generalizing session framer before with
  | nil => exact ⟨session, framer, rfl, rfl⟩
  | cons input inputs ih =>
    obtain ⟨after, performed, saneAfter⟩ := sane.perform valid input
    obtain ⟨shortInput, shortInputs⟩ := List.forall_mem_cons.mp short
    have here := Session.moderate_of_states moderate
    rw [Session.states, performed, List.forall_mem_append] at moderate
    obtain ⟨during, later⟩ := moderate
    rw [Session.lapses, performed, List.forall_mem_cons] at few
    obtain ⟨_, fewLater⟩ := few
    have room : input = .elapsed .txTimeout → session.sender.outstanding.isSome = true →
        session.sender.timeouts.toNat + 1 < 2 ^ 32 := by
      rintro rfl held
      cases performed
      have next := fewLater _ (Session.mem_lapses_self ..)
      rw [Session.lapsesAfter_elapsed before held] at next
      rw [counted, UInt32.toNat_ofNat']
      omega
    obtain ⟨framerAfter, checked, agreesAfter⟩ := BufferedSession.performChecked_eq valid sane
      agrees here shortInput during room performed
    obtain ⟨last, framerLast, ran, ranChecked⟩ := ih saneAfter agreesAfter
      (Session.timeouts_lapsesAfter counted performed) shortInputs later fewLater
    refine ⟨last, framerLast, ?_, ?_⟩
    · rw [Session.run, performed]
      exact ran
    · rw [BufferedSession.runChecked, checked]
      exact ranChecked

/-- A session with valid settings is made without a trap, and whatever is then done to it, no step
traps: it ends in the state that it has for numbers without bounds. All that is taken for granted is
that no buffer reaches `2 ^ 63` bytes and that no packet times out `2 ^ 32` times in a row. -/
theorem Session.never_traps (valid : settings.check = .ok ()) :
    let machine : BufferedSession := ⟨Session.ofValid settings valid, .new settings.rxMtu⟩
    BufferedSession.ofSettingsChecked settings = .ok machine ∧
      ∀ inputs : List Session.Input, (∀ input ∈ inputs, input.Moderate) →
        (∀ state ∈ (Session.ofValid settings valid).states inputs, state.Moderate) →
        (∀ lapses ∈ (Session.ofValid settings valid).lapses 0 inputs, lapses < 2 ^ 32) →
        ∃ last framer, (Session.ofValid settings valid).run inputs = .ok last ∧
          machine.runChecked inputs = .ok ⟨last, framer⟩ := by
  intro machine
  obtain ⟨_, _, _, _, made⟩ := Session.of_ofValid settings valid
  have fresh : (Session.ofValid settings valid).framer = .new settings.rxMtu := by
    rw [made]
  have agrees : machine.Agrees := by
    rw [BufferedSession.Agrees, fresh]
    exact BufferedFramer.holds_new settings.rxMtu
  refine ⟨?_, fun _ short moderate few => ?_⟩
  · rw [BufferedSession.ofSettingsChecked, Session.ofSettingsChecked_eq valid]
    rfl
  · exact (Session.sane_ofValid valid).runChecked_eq valid agrees (Session.timeouts_ofValid valid)
      short moderate few

end runs

/-- Settings that break the rules may trap at once. -/
example : BufferedSession.ofSettingsChecked { Settings.serialLine with rxMtu := 65536 } =
    .error (.tooLarge 65536) := rfl

/-- The answer arrives between stray bytes, the first fragment is sent twice, and a reset of a peer
that nobody asked for takes it back. -/
def strayInputs : List Session.Input :=
  [.submit [1, 2, 3], .askReset, .depart, .sendDone (.error .closed),
    .receive ([0x68] ++ serialAnswer.encode ++ [0x68, 0x43, 0xff]), .depart, .elapsed .txTimeout,
    .sendDone (.ok ()), .depart, .elapsed .rxTimeout, .receive serialReset.encode,
    .elapsed .txTimeout]

theorem never_traps_between_stray_bytes :
    let start := Session.ofValid .serialLine Settings.check_serialLine
    let machine : BufferedSession := ⟨start, .new Settings.serialLine.rxMtu⟩
    (∀ input ∈ strayInputs, input.Moderate) ∧ (∀ state ∈ start.states strayInputs, state.Moderate) ∧
      (∀ lapses ∈ start.lapses 0 strayInputs, lapses < 2 ^ 32) ∧
      ∃ last framer, start.run strayInputs = .ok last ∧
        machine.runChecked strayInputs = .ok ⟨last, framer⟩ := by
  intro start machine
  have short : ∀ input ∈ strayInputs, input.Moderate := by decide
  have moderate : ∀ state ∈ start.states strayInputs, state.Moderate := by decide +kernel
  have few : ∀ lapses ∈ start.lapses 0 strayInputs, lapses < 2 ^ 32 := by decide +kernel
  have runs := (Session.never_traps Settings.check_serialLine).2 strayInputs short moderate few
  exact ⟨short, moderate, few, runs⟩

end DatagramLink
