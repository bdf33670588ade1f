import DatagramLink.Proofs.Sender.Flags

namespace DatagramLink

/-- How the fields of a sender fit together. Without an outstanding packet all that was sent is
acknowledged, and what is queued has something left to send. -/
structure FlaggedSender.Consistent (sender : FlaggedSender) : Prop where
  within : sender.sent ≤ sender.frontLength ∧ sender.acked ≤ sender.frontLength
  empty : sender.queue.isEmpty = true → sender.sent = 0 ∧ sender.acked = 0
  held : ∀ packet, sender.outstanding = some packet →
    sender.queue.isEmpty = false ∧ 1 ≤ packet.length ∧ sender.nextSeq = packet.seq + 1 ∧
      sender.sent = sender.acked + packet.length ∧
      packet.flags = ⟨sender.sent < sender.frontLength, false⟩
  free : sender.outstanding = none →
    sender.sent = sender.acked ∧ sender.resendPending = false ∧ sender.timeouts = 0 ∧
      (sender.queue.isEmpty = false → sender.sent < sender.frontLength)
  due : sender.ackDue = true → sender.ackPending = true

section fields

variable {sender : Sender} {limit : Nat} {queue : List Bytes}

theorem Sender.frontLength_flagged (holds : sender.queue.Holds queue) :
    sender.flagged.frontLength = (queue.headD []).length := by
  have front : sender.flagged.queue.front? = queue.head? := holds.front?_eq
  rw [FlaggedSender.frontLength, front]
  cases queue <;> rfl

theorem Sender.isEmpty_flagged (holds : sender.queue.Holds queue) :
    sender.flagged.queue.isEmpty = true ↔ queue = [] := by
  have empty : sender.flagged.queue.isEmpty = queue.isEmpty := holds.isEmpty_eq
  rw [empty, List.isEmpty_iff]

/-- The outstanding packet is what was sent last of the front datagram. -/
theorem Course.Regular.outstanding {packet : Outstanding}
    (regular : sender.course.Regular limit queue) (positive : 0 < limit)
    (held : sender.outstanding = some packet) :
    queue ≠ [] ∧ 1 ≤ packet.length ∧ sender.nextSeq = packet.seq + 1 ∧
      sender.sent = sender.acked + packet.length ∧
      sender.sent ≤ (queue.headD []).length ∧
      packet.flags = ⟨sender.sent < (queue.headD []).length, false⟩ := by
  obtain ⟨waiting, number, length, flags, sent⟩ :=
    regular.busy _ _ _ (Sender.extent_of_outstanding held)
  have inside : sender.acked < (queue.headD []).length := regular.within_of_ne_nil waiting
  have extent : packet.length = min limit ((queue.headD []).length - sender.acked) := length
  have level : sender.sent = sender.acked + packet.length := sent
  have more : sender.acked + limit < (queue.headD []).length ↔
      sender.sent < (queue.headD []).length := by omega
  refine ⟨waiting, by omega, number, level, by omega, ?_⟩
  simp only [flags, ← more]
  rfl

theorem Course.Regular.acked_le (regular : sender.course.Regular limit queue) :
    sender.acked ≤ (queue.headD []).length := by
  rcases regular.within with zero | inside
  · have start : sender.acked = 0 := zero
    omega
  · exact Nat.le_of_lt inside

theorem Sender.flagged_consistent (regular : sender.course.Regular limit queue)
    (positive : 0 < limit) : sender.flagged.Consistent := by
  have front := Sender.frontLength_flagged regular.holds
  have empty := Sender.isEmpty_flagged regular.holds
  have acked := regular.acked_le
  have level : sender.outstanding = none → sender.sent = sender.acked :=
    fun idle => regular.idle (Sender.extent_of_idle idle)
  refine {
    within := ⟨?sent, front ▸ acked⟩, empty := ?empty, held := ?held, free := ?free, due := ?due }
  case sent =>
    rw [front]
    show sender.sent ≤ _
    cases held : sender.outstanding with
    | none =>
      have same := level held
      omega
    | some packet => exact (regular.outstanding positive held).2.2.2.2.1
  case empty =>
    intro nothing
    cases empty.mp nothing
    have unacked : sender.acked = 0 := Nat.le_zero.mp acked
    exact ⟨regular.sent_eq_zero, unacked⟩
  case held =>
    intro packet held
    obtain ⟨original, same, rfl⟩ := Option.map_eq_some_iff.mp held
    obtain ⟨waiting, length, number, sent, _, flags⟩ := regular.outstanding positive same
    refine ⟨Bool.eq_false_iff.mpr (mt empty.mp waiting), length, number, sent, ?_⟩
    rw [front]
    exact flags
  case free =>
    intro nothing
    have idle : sender.outstanding = none := Option.map_eq_none_iff.mp nothing
    obtain ⟨_, pending, timeouts⟩ := Sender.flagged_idle idle
    refine ⟨level idle, pending, timeouts, fun waiting => ?_⟩
    -- all that was sent is acknowledged, and the front datagram is not acknowledged to its end
    have inside : sender.acked < (queue.headD []).length :=
      regular.within_of_ne_nil (mt empty.mpr (Bool.eq_false_iff.mp waiting))
    have same := level idle
    rw [front]
    show sender.sent < _
    omega
  case due =>
    simp only [Sender.flagged, decide_eq_true_eq]
    intro due
    rw [due]
    decide

end fields

/-- Whatever is done to a new sender, its fields fit together, and it is the one that keeps its
flags with the outstanding packet, laid open. -/
theorem FlaggedSender.consistent_of_inputs {capacity : Nat} {initial : FlaggedSender}
    (made : FlaggedSender.ofCapacity capacity = .ok initial) {inputs : List Sender.Input}
    (proper : ∀ input ∈ inputs, input.Proper) :
    ∃ answers sender,
      Sender.Input.serve FlaggedSender.perform initial inputs = .ok (answers, sender) ∧
        sender.Consistent ∧
        ∃ first model, Sender.ofCapacity capacity = .ok first ∧
          Sender.Input.serve Sender.perform first inputs = .ok (answers, model) ∧
          sender = model.flagged := by
  obtain ⟨first, answers, stint, opened, served, laidOpen, limit, queue, results⟩ :=
    FlaggedSender.reaches made proper
  exact ⟨answers, stint.sender.flagged, laidOpen,
    Sender.flagged_consistent results.regular results.positive,
    first, stint.sender, opened, served, rfl⟩

/-- The last fragment of a datagram timed out twice while an acknowledgement is due. -/
theorem consistent_after_timeouts :
    let inputs : List Sender.Input := [
      .enqueue [1, 2, 3], .enqueue [4], .next 0 2, .setBusy false, .acknowledge 1, .next 9 7,
      .timeOut, .owe true, .timeOut]
    ∃ initial answers sender, FlaggedSender.ofCapacity 2 = .ok initial ∧
      (∀ input ∈ inputs, input.Proper) ∧
      Sender.Input.serve FlaggedSender.perform initial inputs = .ok (answers, sender) ∧
      sender.Consistent ∧ sender.outstanding = some ⟨1, 1, .clear⟩ ∧
      (sender.sent, sender.acked, sender.timeouts) = (3, 2, 2) ∧
      (sender.resendPending, sender.ackPending, sender.ackDue) = (true, true, true) := by
  intro inputs
  have proper : ∀ input ∈ inputs, input.Proper := by decide
  have leads : ((FlaggedSender.ofCapacity 2).bind fun initial =>
      Sender.Input.serve FlaggedSender.perform initial inputs).map (fun (_, sender) =>
        (sender.outstanding, (sender.sent, sender.acked, sender.timeouts),
          (sender.resendPending, sender.ackPending, sender.ackDue))) =
      .ok (some ⟨1, 1, .clear⟩, (3, 2, 2), (true, true, true)) := by decide +kernel
  cases made : FlaggedSender.ofCapacity 2 with
  | error => rw [made] at leads; cases leads
  | ok initial =>
    obtain ⟨answers, sender, served, consistent, _⟩ :=
      FlaggedSender.consistent_of_inputs made proper
    rw [made, Except.bind, served] at leads
    obtain ⟨outstanding, rest⟩ := Prod.mk.inj (Except.ok.inj leads)
    obtain ⟨counts, flags⟩ := Prod.mk.inj rest
    exact ⟨initial, answers, sender, rfl, proper, served, consistent, outstanding, counts, flags⟩

end DatagramLink
