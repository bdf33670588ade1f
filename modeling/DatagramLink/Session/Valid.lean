import DatagramLink.Session.Basic

namespace DatagramLink

theorem Settings.of_check {settings : Settings} (valid : settings.check = .ok ()) :
    settings.payloadLimit ≠ 0 ∧ settings.payloadLimit ≤ 65535 ∧
      settings.rxMtu ≠ 0 ∧ settings.rxMtu ≤ 65535 ∧
      settings.queueLength ≠ 0 ∧ settings.queueLength ≤ 127 ∧ settings.maxDatagram ≠ 0 ∧
      settings.txTimeout.nanoseconds ≠ 0 ∧ settings.txTimeout.milliseconds ≤ 65535 ∧
      settings.resetRetry.nanoseconds ≠ 0 := by
  unfold Settings.check at valid
  repeat' split at valid
  all_goals first | omega | cases valid

theorem Session.ofSettings_of_valid {settings : Settings} (valid : settings.check = .ok ()) :
    ∃ session, Session.ofSettings settings = .ok session := by
  obtain ⟨_, _, _, rxMtu, queueLength, _, _, _, timeout, _⟩ := Settings.of_check valid
  have rxFits : settings.rxMtu < UInt16.size := Nat.lt_succ_of_le rxMtu
  have timeoutFits : settings.txTimeout.milliseconds < UInt16.size := Nat.lt_succ_of_le timeout
  simp only [Session.ofSettings, Sender.ofCapacity, BoundedQueue.ofCapacity, if_neg queueLength,
    Settings.parameters, narrow16_eq_ok rxFits, narrow16_eq_ok timeoutFits]
  exact ⟨_, rfl⟩

/-- The session that settings which pass their check give. -/
def Session.ofValid (settings : Settings) (valid : settings.check = .ok ()) : Session :=
  match made : Session.ofSettings settings with
  | .ok session => session
  | .error _ => absurd (Session.ofSettings_of_valid valid) (by simp [made])

end DatagramLink
