import DatagramLink.Proofs.Sender.Consistency
import DatagramLink.Proofs.Sender.Load

namespace DatagramLink

section next

variable {sender after : Sender} {ack : UInt8} {cut limit : Nat} {queue : List Bytes}
  {emission : Sender.Emission}

/-- There is a packet exactly if the check said so. -/
theorem Sender.isSome_of_next {result : Option (Sender.Emission × Sender)}
    (sending : sender.next ack limit = .ok result) : result.isSome = sender.isReady := by
  cases busy : sender.busy with
  | true =>
    simp only [Sender.next, busy, if_true] at sending
    cases sending
    rw [Sender.isReady, busy]
    rfl
  | false =>
    rw [Sender.isReady, busy, Bool.not_false, Bool.true_and]
    cases result with
    | some sent => exact (Sender.next_settles sending).1.symm
    | none =>
      obtain ⟨silent, once, left⟩ := Sender.of_next_none busy sending
      unfold Sender.wantsLink
      split
      · rename_i packet held
        rw [once packet held, silent]
        rfl
      · rename_i idle
        rw [left idle, silent]
        rfl

/-- A retransmission repeats payload. -/
theorem Sender.payload_of_again {packet : Outstanding} (regular : sender.course.Regular cut queue)
    (positive : 0 < cut) (held : sender.outstanding = some packet) (again : packet.resend = true)
    (sending : sender.next ack limit = .ok (some (emission, after))) :
    emission.packet.payload ≠ [] := by
  rcases Sender.next_causes sending with ⟨_, once, _⟩ | ⟨other, payload, same, _, slice, sent⟩ |
    ⟨_, idle, _, _⟩
  · cases again.symm.trans (once packet held)
  · cases held.symm.trans same
    obtain ⟨_, nonempty, _⟩ := regular.outstanding positive held
    obtain ⟨within, _, whole⟩ := Sender.heldPayload_ok regular held
    cases whole.symm.trans slice
    rw [(Sender.emit_packet sent).2.2.2.2.2, ← List.length_pos_iff, List.length_take,
      List.length_drop]
    omega
  · cases held.symm.trans idle

/-- A new packet carries at least one byte. -/
theorem Sender.payload_of_unsent {unsent : Bytes} (regular : sender.course.Regular cut queue)
    (positive : 0 < limit) (idle : sender.outstanding = none)
    (left : sender.unsent? = some unsent)
    (sending : sender.next ack limit = .ok (some (emission, after))) :
    emission.packet.payload ≠ [] := by
  simp only [Sender.next, idle, left] at sending
  split at sending
  · cases sending
  · obtain ⟨_, inside, _, _, _, payload, _⟩ := Sender.course_first
      (regular.of_idle (Sender.extent_of_idle idle) limit) idle left sending
    rw [payload, ← List.length_pos_iff, List.length_take, List.length_drop]
    omega

/-- Payload goes before news. -/
theorem Sender.of_empty_payload (regular : sender.course.Regular cut queue) (whole : 0 < cut)
    (positive : 0 < limit) (sending : sender.next ack limit = .ok (some (emission, after)))
    (empty : emission.packet.payload = []) :
    sender.hasNews = true ∧
      (∀ packet, sender.outstanding = some packet → packet.resend = false) ∧
      (sender.outstanding = none → sender.unsent? = none) := by
  have once (packet : Outstanding) (held : sender.outstanding = some packet) :
      packet.resend = false := by
    by_contra again
    exact Sender.payload_of_again regular whole held (Bool.of_not_eq_false again) sending empty
  have spent (idle : sender.outstanding = none) : sender.unsent? = none := by
    by_contra more
    obtain ⟨unsent, left⟩ := Option.ne_none_iff_exists'.mp more
    exact Sender.payload_of_unsent regular positive idle left sending empty
  refine ⟨?_, once, spent⟩
  rcases Sender.next_causes sending with ⟨news, _⟩ | ⟨packet, _, held, again, _⟩ |
    ⟨unsent, idle, left, _⟩
  · exact news
  · cases again.symm.trans (once packet held)
  · cases left.symm.trans (spent idle)

end next

/-- What was written agrees with the check that came before it and with the one that comes next. -/
structure FlaggedSender.Agrees (sender : FlaggedSender) (buffer : Bytes)
    (emission : Option Sender.Emission) (bytes : Bytes) (after : FlaggedSender) : Prop where
  ready : emission.isSome = true ↔ sender.isReady = true
  silent : emission = none → bytes = buffer ∧ after = sender
  written : ∀ sent, emission = some sent → bytes = buffer ++ sent.packet.encode
  /-- It goes out for the sake of what it tells, and no payload could have carried that. -/
  empty : ∀ sent, emission = some sent → sent.packet.payload = [] →
    (sender.ackDue = true ∨ sender.report ≠ .none) ∧
      ¬(sender.outstanding.isSome = true ∧ sender.resendPending = true) ∧
      ¬(sender.outstanding = none ∧ sender.hasUnsent = true)
  settled : emission.isSome = true → (after.setBusy false).isReady = false

section writing

variable {sender : Sender} {cut : Nat} {queue datagrams : List Bytes} {deeds : List Sender.Deed}

theorem Sender.flagged_agrees (results : sender.course.Results cut queue datagrams deeds)
    {limit : Nat} (positive : 0 < limit) (small : limit < UInt16.size) (ack : UInt8)
    (buffer : Bytes) :
    ∃ emission bytes after, sender.flagged.write ack limit buffer = .ok (emission, bytes, after) ∧
      sender.flagged.Agrees buffer emission bytes after := by
  obtain ⟨result, sending⟩ := Sender.next_ok_of_results results small ack
  have ready : result.isSome = true ↔ sender.flagged.isReady = true := by
    rw [sender.flagged_isReady, Sender.isSome_of_next sending]
  rw [sender.flagged_write, sending]
  cases result with
  | none =>
    refine ⟨none, buffer, sender.flagged, rfl, {
      ready, silent := fun _ => ⟨rfl, rfl⟩, written := ?written, empty := ?empty, settled := nofun }⟩
    case written =>
      intro sent same
      cases same
    case empty =>
      intro sent same
      cases same
  | some result =>
    obtain ⟨emission, after⟩ := result
    refine ⟨some emission, buffer ++ emission.packet.encode, after.flagged, rfl, {
      ready, silent := nofun, written := ?written, empty := ?empty, settled := fun _ => ?settled }⟩
    case written =>
      intro sent same
      cases same
      rfl
    case empty =>
      intro sent same empty
      cases same
      obtain ⟨news, once, spent⟩ :=
        Sender.of_empty_payload results.regular results.positive positive sending empty
      refine ⟨?_, ?_, ?_⟩
      · simpa only [Sender.hasNews, Sender.flagged, Bool.or_eq_true, decide_eq_true_eq] using news
      · rintro ⟨_, pending⟩
        cases held : sender.outstanding with
        | none => cases pending.symm.trans (Sender.flagged_idle held).2.1
        | some packet =>
          cases pending.symm.trans ((Sender.flagged_held held).2.trans (once packet held))
      · rintro ⟨idle, unsent⟩
        rw [sender.flagged_hasUnsent, spent (Option.map_eq_none_iff.mp idle)] at unsent
        cases unsent
    case settled =>
      have same : after.flagged.setBusy false = (after.setBusy false).flagged := rfl
      rw [same, (after.setBusy false).flagged_isReady]
      exact (Sender.next_settles sending).2

end writing

/-- Whatever was done to a new sender, it writes a packet exactly if it is ready, and after that it
is not ready until something else happens. -/
theorem FlaggedSender.writes_when_ready {capacity : Nat} {initial : FlaggedSender}
    (made : FlaggedSender.ofCapacity capacity = .ok initial) {inputs : List Sender.Input}
    (proper : ∀ input ∈ inputs, input.Proper) :
    ∃ answers sender,
      Sender.Input.serve FlaggedSender.perform initial inputs = .ok (answers, sender) ∧
        (∀ ack limit buffer, 0 < limit → limit < UInt16.size →
          ∃ emission bytes after, sender.write ack limit buffer = .ok (emission, bytes, after) ∧
            sender.Agrees buffer emission bytes after) ∧
        ∃ first model, Sender.ofCapacity capacity = .ok first ∧
          Sender.Input.serve Sender.perform first inputs = .ok (answers, model) ∧
          sender = model.flagged := by
  obtain ⟨first, answers, stint, opened, served, laidOpen, cut, queue, results⟩ :=
    FlaggedSender.reaches made proper
  refine ⟨answers, stint.sender.flagged, laidOpen, ?_, first, stint.sender, opened, served, rfl⟩
  exact fun ack limit buffer positive small =>
    Sender.flagged_agrees results positive small ack buffer

/-- An acknowledgement is due while a packet is outstanding and more payload is left. -/
theorem writes_due_acknowledgement :
    let inputs : List Sender.Input := [.enqueue [1, 2, 3], .next 0 2, .setBusy false, .owe true]
    ∃ initial answers sender emission bytes after, FlaggedSender.ofCapacity 1 = .ok initial ∧
      (∀ input ∈ inputs, input.Proper) ∧
      Sender.Input.serve FlaggedSender.perform initial inputs = .ok (answers, sender) ∧
      sender.write 9 5 [7] = .ok (some emission, bytes, after) ∧
      sender.Agrees [7] (some emission) bytes after ∧
      sender.hasUnsent = true ∧ emission.packet.payload = [] ∧ after.sentAck = 9 := by
  intro inputs
  have proper : ∀ input ∈ inputs, input.Proper := by decide
  have leads : ((FlaggedSender.ofCapacity 1).bind fun initial =>
      (Sender.Input.serve FlaggedSender.perform initial inputs).bind fun served =>
        (served.2.write 9 5 [7]).map fun wrote =>
          (served.2.hasUnsent, wrote.1.map (·.packet.payload), wrote.2.2.sentAck)) =
      .ok (true, some [], 9) := by decide +kernel
  cases made : FlaggedSender.ofCapacity 1 with
  | error => rw [made] at leads; cases leads
  | ok initial =>
    obtain ⟨answers, sender, served, writes, _⟩ := FlaggedSender.writes_when_ready made proper
    obtain ⟨emission, bytes, after, wrote, agrees⟩ := writes 9 5 [7] (by decide) (by decide)
    rw [made, Except.bind, served, Except.bind, wrote] at leads
    obtain ⟨unsent, rest⟩ := Prod.mk.inj (Except.ok.inj leads)
    obtain ⟨payload, acked⟩ := Prod.mk.inj rest
    obtain ⟨sent, rfl, empty⟩ := Option.map_eq_some_iff.mp payload
    exact ⟨initial, answers, sender, sent, bytes, after, rfl, proper, served, wrote, agrees,
      unsent, empty, acked⟩

end DatagramLink
