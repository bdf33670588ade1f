import DatagramLink.Proofs.Sender.Emission

namespace DatagramLink

/-- The bytes queued that are not acknowledged. -/
def Sender.unacknowledged (sender : Sender) : Nat :=
  sender.queue.toList.flatten.length - sender.acked

/-- Nothing is outstanding that would have to be acknowledged before the next packet. -/
def Sender.isFree (sender : Sender) : Bool :=
  (sender.outstanding.map (·.resend)).getD true

/-- How much a sender still has to do. A byte that is not acknowledged counts three. A packet
that can be sent counts two: one for sending it, and one for the acknowledgement that this makes
the peer owe. An error to report counts three, since it may make the peer send its outstanding
packet once more. -/
def Sender.load (sender : Sender) : Nat :=
  3 * sender.unacknowledged + (if sender.isFree then 2 else 0) +
    (if sender.acknowledgement = .due then 1 else 0) + (if sender.report = .none then 0 else 3)

section sending

variable {sender after : Sender} {ack : UInt8} {limit : Nat} {emission : Sender.Emission}

/-- Sending tells all there is to tell, and acknowledges nothing. -/
theorem Sender.told_of_next (sending : sender.next ack limit = .ok (some (emission, after))) :
    emission.packet.header.code.error = sender.report ∧
      after.load = 3 * sender.unacknowledged + (if after.isFree then 2 else 0) := by
  obtain ⟨⟨_, _, _, built⟩, _, _, _, rfl⟩ := Sender.of_next sending
  exact ⟨congrArg PacketCode.error (Packet.of_build built).2.1, rfl⟩

/-- Either there was news, or a packet could be sent and is outstanding now. -/
theorem Sender.free_of_next (sending : sender.next ack limit = .ok (some (emission, after))) :
    sender.hasNews = true ∧ emission.packet.payload = [] ∧
        after.outstanding = sender.outstanding ∧
        (∀ packet, sender.outstanding = some packet → packet.resend = false) ∨
      sender.isFree = true ∧ ∃ packet, after.outstanding = some packet ∧ packet.resend = false ∧
        packet.seq = emission.packet.header.seq := by
  rcases Sender.next_causes sending with ⟨news, once, sent⟩ | ⟨packet, _, held, again, _, sent⟩ |
    ⟨_, idle, _, sent⟩
  · have empty := (Sender.emit_packet sent).2.2.2.2.2
    obtain ⟨_, _, rfl⟩ := Sender.of_emit sent
    exact Or.inl ⟨news, empty, rfl, once⟩
  · have seq := (Sender.emit_packet sent).2.2.2.2.1
    obtain ⟨_, _, rfl⟩ := Sender.of_emit sent
    have free : sender.isFree = true := by
      rw [Sender.isFree, held]
      exact again
    exact Or.inr ⟨free, _, rfl, rfl, seq.symm⟩
  · have seq := (Sender.emit_packet sent).2.2.2.2.1
    obtain ⟨_, _, rfl⟩ := Sender.of_emit sent
    have free : sender.isFree = true := by
      rw [Sender.isFree, idle]
      rfl
    exact Or.inr ⟨free, _, rfl, rfl, seq.symm⟩

/-- What is sent lightens the load by more than the peer may have to do about it. -/
theorem Sender.load_next (sending : sender.next ack limit = .ok (some (emission, after))) :
    after.load + (if emission.packet.payload = [] then 0 else 1) +
      (if emission.packet.header.code.error.asksAgain then 2 else 0) < sender.load := by
  obtain ⟨reported, told⟩ := Sender.told_of_next sending
  have asks : sender.report = .none → sender.report.asksAgain = false := by
    intro nothing
    rw [nothing]
    rfl
  rw [told, reported, Sender.load]
  rcases Sender.free_of_next sending with ⟨news, empty, same, _⟩ | ⟨free, packet, held, once, _⟩
  · have level : after.isFree = sender.isFree := by
      rw [Sender.isFree, same]
      rfl
    have cause : sender.acknowledgement = .due ∨ sender.report ≠ .none := by
      simpa only [Sender.hasNews, Bool.or_eq_true, decide_eq_true_eq] using news
    rw [level, if_pos empty]
    by_cases none : sender.report = .none
    · have due := cause.resolve_right (not_not.mpr none)
      rw [asks none, if_pos due]
      simp only [Bool.false_eq_true, if_false]
      omega
    · rw [if_neg none]
      split_ifs <;> omega
  · have taken : after.isFree = false := by
      rw [Sender.isFree, held]
      exact once
    rw [free, taken]
    by_cases none : sender.report = .none
    · rw [asks none]
      simp only [Bool.false_eq_true, if_false, if_true]
      split_ifs <;> omega
    · rw [if_neg none]
      simp only [Bool.false_eq_true, if_false, if_true]
      split_ifs <;> omega

end sending

section arrival

variable (sender : Sender)

theorem Sender.load_owe : (sender.owe true).load ≤ sender.load + 1 := by
  have owed : (sender.owe true).load =
      3 * sender.unacknowledged + (if sender.isFree then 2 else 0) + 1 +
        (if sender.report = .none then 0 else 3) := rfl
  rw [owed, Sender.load]
  omega

theorem Sender.load_resend : (sender.resend?.getD sender).load ≤ sender.load + 2 := by
  cases held : sender.outstanding with
  | none =>
    simp only [Sender.resend?, held, Option.map_none, Option.getD_none]
    exact Nat.le_add_right ..
  | some packet =>
    simp only [Sender.resend?, held, Option.map_some, Option.getD_some, Sender.load,
      Sender.unacknowledged, Sender.isFree, if_true]
    omega

/-- An acknowledgement that counts takes more off the load than the next packet adds. -/
theorem Sender.load_acknowledge {limit : Nat} {queue : List Bytes}
    (regular : sender.course.Regular limit queue) (room : limit ≠ 0) (ack : UInt8) :
    (sender.acknowledge ack).2.load ≤ sender.load := by
  unfold Sender.acknowledge
  split
  · exact Nat.le_refl _
  · rename_i packet held
    split
    · exact Nat.le_refl _
    · obtain ⟨waiting, _, length, _, _⟩ := regular.busy _ _ _ (Sender.extent_of_outstanding held)
      have holds : sender.queue.Holds queue := regular.holds
      have inside : sender.acked < (queue.headD []).length := regular.within_of_ne_nil waiting
      have extent : packet.length = min limit ((queue.headD []).length - sender.acked) := length
      have whole : queue.flatten.length =
          (queue.headD []).length + queue.tail.flatten.length := by
        cases queue with
        | nil => exact absurd rfl waiting
        | cons front rest => simp only [List.flatten_cons, List.length_append, List.headD_cons,
            List.tail_cons]
      dsimp only
      split
      · simp only [Sender.load, Sender.unacknowledged, Sender.isFree, holds.toList_eq,
          Option.map_none, Option.getD_none, if_true]
        omega
      · simp only [Sender.load, Sender.unacknowledged, Sender.isFree, holds.toList_eq,
          holds.pop.2.2.toList_eq, Option.map_none, Option.getD_none, if_true, Nat.sub_zero]
        omega

/-- What the header of a packet of the peer does. -/
def Sender.hear (sender : Sender) (header : Header) : Sender :=
  let acknowledged := (sender.acknowledge header.ack).2
  if header.code.error.asksAgain then acknowledged.resend?.getD acknowledged else acknowledged

theorem Sender.load_hear {limit : Nat} {queue : List Bytes}
    (regular : sender.course.Regular limit queue) (room : limit ≠ 0) (header : Header) :
    (sender.hear header).load ≤ sender.load + if header.code.error.asksAgain then 2 else 0 := by
  have acknowledged := sender.load_acknowledge regular room header.ack
  unfold Sender.hear
  dsimp only
  split
  · exact Nat.le_trans (Sender.load_resend _) (Nat.add_le_add_right acknowledged 2)
  · exact acknowledged

/-- A packet that is still outstanding was not acknowledged, and if it was to be sent again, it
still is. -/
theorem Sender.of_hear (header : Header) :
    (sender.hear header).acknowledgement = sender.acknowledgement ∧
      ∀ packet, (sender.hear header).outstanding = some packet →
        ∃ before, sender.outstanding = some before ∧ header.ack ≠ before.seq + 1 ∧
          (before.resend = true → packet.resend = true) := by
  have acknowledged : (sender.acknowledge header.ack).2.acknowledgement = sender.acknowledgement ∧
      ∀ packet, (sender.acknowledge header.ack).2.outstanding = some packet →
        sender.outstanding = some packet ∧ header.ack ≠ packet.seq + 1 := by
    unfold Sender.acknowledge
    split
    · rename_i nothing
      exact ⟨rfl, fun packet held => by cases nothing.symm.trans held⟩
    · rename_i outstanding held
      split
      · rename_i uncovered
        refine ⟨rfl, fun packet same => ?_⟩
        cases held.symm.trans same
        exact ⟨held, uncovered⟩
      · dsimp only
        split <;> exact ⟨rfl, fun packet impossible => by cases impossible⟩
  obtain ⟨owed, kept⟩ := acknowledged
  unfold Sender.hear
  dsimp only
  generalize (sender.acknowledge header.ack).2 = middle at owed kept
  split
  · cases held : middle.outstanding with
    | none =>
      simp only [Sender.resend?, held, Option.map_none, Option.getD_none]
      exact ⟨owed, fun packet impossible => by cases impossible⟩
    | some before =>
      obtain ⟨outstanding, uncovered⟩ := kept before held
      simp only [Sender.resend?, held, Option.map_some, Option.getD_some]
      refine ⟨owed, fun packet same => ?_⟩
      cases same
      exact ⟨before, outstanding, uncovered, fun _ => rfl⟩
  · refine ⟨owed, fun packet held => ?_⟩
    obtain ⟨outstanding, uncovered⟩ := kept packet held
    exact ⟨packet, outstanding, uncovered, fun again => again⟩

end arrival

section quiet

variable {sender : Sender} {ack : UInt8} {limit : Nat}

/-- A sender that has nothing to send while its link is idle. -/
theorem Sender.of_next_none (idle : sender.busy = false)
    (quiet : sender.next ack limit = .ok none) :
    sender.hasNews = false ∧
      (∀ packet, sender.outstanding = some packet → packet.resend = false) ∧
      (sender.outstanding = none → sender.unsent? = none) := by
  have emits {sender : Sender} {ack seq : UInt8} {flags : Flags} {payload : Bytes} {again : Bool} :
      sender.emit ack flags seq payload again ≠ .ok none := by
    unfold Sender.emit
    cases Packet.build flags ⟨.data, sender.report⟩ ack seq payload <;> nofun
  have news (silent : sender.emitNews ack = .ok none) : sender.hasNews = false := by
    unfold Sender.emitNews at silent
    split at silent
    · exact absurd silent emits
    · rename_i silence
      exact Bool.eq_false_iff.mpr silence
  unfold Sender.next at quiet
  rw [idle] at quiet
  simp only [Bool.false_eq_true, if_false] at quiet
  split at quiet
  · rename_i packet held
    split at quiet
    · unfold Sender.emitAgain at quiet
      cases cut : sender.heldPayload packet with
      | error => rw [cut] at quiet; cases quiet
      | ok payload => rw [cut] at quiet; exact absurd quiet emits
    · rename_i once
      refine ⟨news quiet, fun other same => ?_, fun nothing => by cases held.symm.trans nothing⟩
      cases held.symm.trans same
      exact Bool.eq_false_iff.mpr once
  · rename_i nothing
    split at quiet
    · exact absurd quiet emits
    · rename_i left
      exact ⟨news quiet, (fun packet held => by cases nothing.symm.trans held), fun _ => left⟩

/-- Nothing is queued if nothing is outstanding and nothing is left to send. -/
theorem Course.Regular.eq_nil_of_unsent {queue : List Bytes}
    (regular : sender.course.Regular limit queue) (nothing : sender.outstanding = none)
    (left : sender.unsent? = none) : queue = [] := by
  by_contra waiting
  have level : sender.sent = sender.acked :=
    regular.idle (by simp only [Sender.course, nothing, Option.map_none])
  have front : sender.queue.front? = some (queue.headD []) := regular.front?_eq waiting
  have inside : sender.acked < (queue.headD []).length := regular.within_of_ne_nil waiting
  rw [Sender.unsent?, front] at left
  simp only [level, if_pos inside] at left
  cases left

end quiet

end DatagramLink
