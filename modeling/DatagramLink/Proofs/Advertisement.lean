import DatagramLink.Session.Valid

namespace DatagramLink

/-- The parameters say what the settings are. Of the timeout a fraction of a millisecond is lost,
which is all of it if there is nothing else. -/
structure Settings.Advertises (settings : Settings) (parameters : LinkParameters) : Prop where
  version_eq : parameters.version = .current
  rxMtu_eq : parameters.rxMtu.toNat = settings.rxMtu
  rxMtu_pos : 1 ≤ settings.rxMtu
  rxMtu_le : settings.rxMtu ≤ 65535
  window_eq : parameters.window = 1
  timeout_le : parameters.timeoutMilliseconds.toNat ≤ 65535
  timeout_floor : 1000000 * parameters.timeoutMilliseconds.toNat ≤ settings.txTimeout.nanoseconds
  timeout_close : settings.txTimeout.nanoseconds <
    1000000 * parameters.timeoutMilliseconds.toNat + 1000000
  timeout_pos_iff : 1 ≤ parameters.timeoutMilliseconds.toNat ↔
    1000000 ≤ settings.txTimeout.nanoseconds

section parameters

variable {settings : Settings} {here peer : LinkParameters}

theorem Settings.parameters_eq_ok (rxMtu : settings.rxMtu < UInt16.size)
    (timeout : settings.txTimeout.milliseconds < UInt16.size) :
    settings.parameters = .ok ⟨.current, .ofNatLT settings.rxMtu rxMtu, 1,
      .ofNatLT settings.txTimeout.milliseconds timeout⟩ := by
  simp only [Settings.parameters, narrow16_eq_ok rxMtu, narrow16_eq_ok timeout]
  rfl

theorem Settings.parameters_of_check (valid : settings.check = .ok ()) :
    ∃ parameters, settings.parameters = .ok parameters ∧ settings.Advertises parameters := by
  obtain ⟨_, _, rxMtu, rxMtuLe, _, _, _, _, timeoutLe, _⟩ := Settings.of_check valid
  have rxMtuFits : settings.rxMtu < UInt16.size := Nat.lt_succ_of_le rxMtuLe
  have timeoutFits : settings.txTimeout.milliseconds < UInt16.size := Nat.lt_succ_of_le timeoutLe
  refine ⟨_, Settings.parameters_eq_ok rxMtuFits timeoutFits, rfl, UInt16.toNat_ofNatLT,
    Nat.pos_of_ne_zero rxMtu, rxMtuLe, rfl, ?_, ?_, ?_, ?_⟩
  all_goals
    simp only [UInt16.toNat_ofNatLT, Duration.milliseconds] at timeoutLe ⊢
    omega

theorem Settings.advertises_of_parameters (valid : settings.check = .ok ())
    (advertised : settings.parameters = .ok here) : settings.Advertises here := by
  obtain ⟨parameters, made, advertises⟩ := Settings.parameters_of_check valid
  cases made.symm.trans advertised
  exact advertises

theorem LinkParameters.checkPeer_eq_ok (version : peer.version.major = here.version.major)
    (window : peer.window = 1) (receives : peer.rxMtu ≠ 0) : here.checkPeer peer = .ok () := by
  simp only [LinkParameters.checkPeer, version, window, receives, ne_eq, not_true, if_false]

/-- What an end advertises is accepted by all ends of the same version. -/
theorem Settings.Advertises.checkPeer (advertises : settings.Advertises peer)
    (version : here.version = .current) : here.checkPeer peer = .ok () := by
  refine LinkParameters.checkPeer_eq_ok ?_ advertises.window_eq fun zero => ?_
  · rw [version, advertises.version_eq]
  · have positive := advertises.rxMtu_pos
    rw [← advertises.rxMtu_eq, zero] at positive
    exact absurd positive (by decide)

end parameters

/-- Settings that pass their check leave room for payload, can be advertised as they are, and get
along with any others. What cannot be advertised does not pass. -/
theorem Settings.advertised_of_check (settings : Settings) :
    (settings.check = .ok () →
      1 ≤ settings.payloadLimit ∧ settings.payloadLimit ≤ 65535 ∧
      ∃ here, settings.parameters = .ok here ∧ settings.Advertises here ∧
        ∀ (other : Settings) (peer : LinkParameters), other.check = .ok () →
          other.parameters = .ok peer →
            here.checkPeer peer = .ok () ∧ peer.checkPeer here = .ok ()) ∧
    ∀ fault, settings.parameters = .error fault → ∃ error, settings.check = .error error := by
  refine ⟨fun valid => ?_, fun fault unfit => ?_⟩
  · obtain ⟨here, made, advertises⟩ := Settings.parameters_of_check valid
    obtain ⟨room, limit, _⟩ := Settings.of_check valid
    refine ⟨Nat.pos_of_ne_zero room, limit, here, made, advertises, fun other peer ok theirs => ?_⟩
    have others := Settings.advertises_of_parameters ok theirs
    exact ⟨others.checkPeer advertises.version_eq, advertises.checkPeer others.version_eq⟩
  · cases checked : settings.check with
    | error error => exact ⟨error, rfl⟩
    | ok =>
      obtain ⟨here, made, _⟩ := Settings.parameters_of_check checked
      cases made.symm.trans unfit

/-- Settings with the largest numbers that pass their check. -/
def Settings.utmost : Settings :=
  { Settings.serialLine with
    linkMtu := 65549, rxMtu := 65535, txTimeout := ⟨65535999999, by decide⟩ }

/-- They get along with a common serial line, and one byte more to receive could not be
advertised. -/
theorem advertised_at_the_limits :
    (Settings.utmost.check = .ok () ∧ Settings.utmost.payloadLimit = 65535 ∧
      ∃ here, Settings.utmost.parameters = .ok here ∧ Settings.utmost.Advertises here ∧
        here.checkPeer ⟨.current, 1024, 1, 1000⟩ = .ok () ∧
        LinkParameters.checkPeer ⟨.current, 1024, 1, 1000⟩ here = .ok ()) ∧
    ∃ error, Settings.check { Settings.utmost with rxMtu := 65536 } = .error error := by
  have valid : Settings.utmost.check = .ok () := rfl
  have advertised : Settings.serialLine.parameters = .ok ⟨.current, 1024, 1, 1000⟩ := rfl
  have unfit : Settings.parameters { Settings.utmost with rxMtu := 65536 } =
      .error (.exceeds16Bits 65536) := rfl
  obtain ⟨_, _, here, made, advertises, accepted⟩ :=
    Settings.utmost.advertised_of_check.1 valid
  exact ⟨⟨valid, rfl, here, made, advertises, accepted .serialLine _ rfl advertised⟩,
    (Settings.advertised_of_check { Settings.utmost with rxMtu := 65536 }).2 _ unfit⟩

/-- Half a millisecond passes the check, although its message asks for a whole one at least, and is
advertised as none. -/
theorem advertises_no_timeout : ∃ (settings : Settings) (here : LinkParameters),
    settings.txTimeout = .ofMicroseconds 500 ∧ settings.check = .ok () ∧
      settings.parameters = .ok here ∧ ¬ 1 ≤ here.timeoutMilliseconds.toNat ∧
      SettingsError.txTimeoutOutOfRange.message = "tx timeout must be between 1 and 65535 ms" :=
  ⟨{ Settings.serialLine with txTimeout := .ofMicroseconds 500 }, ⟨.current, 1024, 1, 0⟩, rfl, rfl, rfl,
    by decide, rfl⟩

end DatagramLink
