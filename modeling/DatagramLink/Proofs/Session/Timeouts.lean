import DatagramLink.Proofs.Session.Undergoing

namespace DatagramLink

section timeouts

variable {session after : Session}

theorem Sender.timeouts_of_map {before after : Sender}
    (same : after.outstanding.map (·.timeouts) = before.outstanding.map (·.timeouts)) :
    after.timeouts = before.timeouts :=
  congrArg (Option.getD · 0) same

theorem Sender.timeouts_of_outstanding {sender : Sender} {packet : Outstanding}
    (held : sender.outstanding = some packet) : packet.timeouts = sender.timeouts := by
  rw [Sender.timeouts, held]
  rfl

/-- A packet that goes out has timed out as often as before; a new one has not. -/
theorem Sender.timeouts_of_next {sender after : Sender} {ack : UInt8} {limit : Nat}
    {emission : Sender.Emission} (sending : sender.next ack limit = .ok (some (emission, after)))
    {packet : Outstanding} (held : after.outstanding = some packet) :
    packet.timeouts = sender.timeouts := by
  rcases Sender.next_cases sending with sent | ⟨before, _, outstanding, _, sent⟩ |
    ⟨_, idle, _, sent⟩
  · obtain ⟨_, _, rfl⟩ := Sender.of_emit sent
    exact Sender.timeouts_of_outstanding held
  · obtain ⟨_, _, rfl⟩ := Sender.of_emit sent
    cases held
    have same : before.timeouts = sender.timeouts := Sender.timeouts_of_outstanding outstanding
    exact same
  · obtain ⟨_, _, rfl⟩ := Sender.of_emit sent
    cases held
    rw [Sender.timeouts, idle]
    rfl

theorem Session.outstanding_elapsed (session : Session) {countdown : Countdown}
    (other : countdown ≠ .txTimeout) :
    (session.elapsed countdown).1.sender.outstanding = session.sender.outstanding := by
  obtain ⟨outstanding, _, same, kept⟩ := session.sender_elapsed countdown
  rw [same]
  exact kept other

/-- Only the countdown for it makes a packet time out. -/
theorem Session.timeouts_perform {input : Session.Input} (elapsed : input ≠ .elapsed .txTimeout)
    (performed : session.perform input = .ok after) {packet : Outstanding}
    (held : after.sender.outstanding = some packet) :
    packet.timeouts = session.sender.timeouts := by
  cases input with
  | submit datagram =>
    rcases Session.of_perform_submit performed with rfl | submitted
    · exact Sender.timeouts_of_outstanding held
    · obtain ⟨queue, _, rfl⟩ := Session.eq_of_submit submitted
      exact Sender.timeouts_of_outstanding held
  | reportError error =>
    cases performed
    unfold Session.reportError at held
    split at held <;> exact Sender.timeouts_of_outstanding held
  | closeIntake => cases performed; exact Sender.timeouts_of_outstanding held
  | askReset => cases performed; cases held
  | receive chunk =>
    cases performed
    rcases (session.undergoes_receive chunk).timeouts_eq with idle | same
    · cases idle.symm.trans held
    · exact (Sender.timeouts_of_outstanding held).trans (Sender.timeouts_of_map same)
  | elapsed countdown =>
    cases performed
    have other : countdown ≠ .txTimeout := fun same => elapsed (congrArg Session.Input.elapsed same)
    exact Sender.timeouts_of_outstanding ((session.outstanding_elapsed other).symm.trans held)
  | depart =>
    rcases Session.of_perform_depart performed with ⟨_, rfl⟩ | ⟨departure, next, rfl⟩
    · exact Sender.timeouts_of_outstanding held
    · cases (Session.departs_of_next next).2 with
      | reset => exact Sender.timeouts_of_outstanding held
      | answer => exact Sender.timeouts_of_outstanding held
      | data up sending => exact Sender.timeouts_of_next sending held
  | sendDone result => cases performed; exact Sender.timeouts_of_outstanding held

/-- What the session says of a timeout: the outstanding packet has timed out once more. -/
theorem Session.timeouts_elapsed (session : Session) :
    (session.elapsed .txTimeout).2.timeouts =
        session.sender.outstanding.map (·.timeouts + 1) ∧
      (session.elapsed .txTimeout).1.sender.outstanding.map (·.timeouts) =
        session.sender.outstanding.map (·.timeouts + 1) := by
  unfold Session.elapsed Sender.timeOut?
  cases held : session.sender.outstanding with
  | none =>
    refine ⟨rfl, ?_⟩
    simp only [Option.map_none]
    rw [held]
    rfl
  | some packet => exact ⟨rfl, rfl⟩

/-- How many times in a row the outstanding packet has timed out after this, if it was so many times
before. -/
def Session.lapsesAfter (before : Nat) (input : Session.Input) (after : Session) : Nat :=
  match after.sender.outstanding, input with
  | none, _ => 0
  | some _, .elapsed .txTimeout => before + 1
  | some _, _ => before

/-- How many times in a row the outstanding packet has timed out, at each point of a run. -/
def Session.lapses (session : Session) (before : Nat) : List Session.Input → List Nat
  | [] => [before]
  | input :: inputs => before ::
    match session.perform input with
    | .error _ => []
    | .ok after => after.lapses (Session.lapsesAfter before input after) inputs

theorem Session.mem_lapses_self (session : Session) (before : Nat) (inputs : List Session.Input) :
    before ∈ session.lapses before inputs := by
  cases inputs <;> exact List.mem_cons_self ..

theorem Session.lapsesAfter_elapsed (before : Nat) (held : session.sender.outstanding.isSome = true) :
    Session.lapsesAfter before (.elapsed .txTimeout) (session.elapsed .txTimeout).1 = before + 1 := by
  have again := congrArg Option.isSome session.timeouts_elapsed.2
  rw [Option.isSome_map, Option.isSome_map, held] at again
  obtain ⟨packet, still⟩ := Option.isSome_iff_exists.mp again
  simp only [Session.lapsesAfter, still]

/-- The sender counts them in 32 bits. -/
theorem Session.timeouts_lapsesAfter {before : Nat} (counted : session.sender.timeouts = .ofNat before)
    {input : Session.Input} (performed : session.perform input = .ok after) :
    after.sender.timeouts = .ofNat (Session.lapsesAfter before input after) := by
  unfold Session.lapsesAfter
  split
  · rename_i idle
    rw [Sender.timeouts, idle]
    rfl
  · rename_i packet held
    cases performed
    have again := session.timeouts_elapsed.2
    rw [held] at again
    obtain ⟨earlier, first, same⟩ := Option.map_eq_some_iff.mp again.symm
    rw [← Sender.timeouts_of_outstanding held, UInt32.ofNat_add, ← counted,
      ← Sender.timeouts_of_outstanding first]
    exact same.symm
  · rename_i packet held other
    rw [← Sender.timeouts_of_outstanding held, ← counted]
    exact Session.timeouts_perform other performed held

theorem Session.timeouts_ofValid {settings : Settings} (valid : settings.check = .ok ()) :
    (Session.ofValid settings valid).sender.timeouts = .ofNat 0 := by
  obtain ⟨sender, parameters, opened, _, made⟩ := Session.of_ofValid settings valid
  obtain ⟨queue, _, rfl⟩ := Sender.of_ofCapacity opened
  rw [made]
  rfl

end timeouts

end DatagramLink
