import DatagramLink.Proofs.QueueContents
import DatagramLink.Receiver
import DatagramLink.Sender

namespace DatagramLink

/-- What an outstanding packet is, without what was done about it since. -/
def Outstanding.extent (packet : Outstanding) : UInt8 × Nat × Flags :=
  (packet.seq, packet.length, packet.flags)

/-- The course of a sender: what is queued and how far the front datagram has come.
Retransmissions, timeouts, reports and acknowledgements owed to the peer do not touch it. -/
structure Course where
  queue : BoundedQueue Bytes
  nextSeq : UInt8
  sent : Nat
  acked : Nat
  outstanding : Option (UInt8 × Nat × Flags)

/-- The course that this sender has taken. -/
def Sender.course (sender : Sender) : Course where
  queue := sender.queue
  nextSeq := sender.nextSeq
  sent := sender.sent
  acked := sender.acked
  outstanding := sender.outstanding.map Outstanding.extent

/-- The number of the packet that is outstanding or comes next, and where its payload starts in the
front datagram. -/
structure Cursor where
  seq : UInt8
  acked : Nat

/-- The first byte of the front datagram, under the first number. -/
def Cursor.start : Cursor := ⟨0, 0⟩

/-- The fragment that is outstanding, or else the next one. -/
def Course.cursor (course : Course) : Cursor where
  seq := (course.outstanding.map (·.1)).getD course.nextSeq
  acked := course.acked

/-- The fragment that stands at the cursor. -/
structure Cursor.Yields (cursor : Cursor) (limit : Nat) (front : Bytes) (fragment : Fragment) :
    Prop where
  nonempty : front ≠ []
  seq_eq : fragment.seq = cursor.seq
  unfinished_eq : fragment.unfinished = decide (cursor.acked + limit < front.length)
  bytes_eq : fragment.bytes = (front.drop cursor.acked).take limit

/-- The queue holds these datagrams, none of them empty, and all that was sent was cut with this
payload limit. -/
structure Course.Regular (course : Course) (limit : Nat) (queue : List Bytes) : Prop where
  holds : course.queue.Holds queue
  nonempty : ∀ datagram ∈ queue, datagram ≠ []
  within : course.acked = 0 ∨ course.acked < (queue.headD []).length
  idle : course.outstanding = none → course.sent = course.acked
  busy : ∀ seq length flags, course.outstanding = some (seq, length, flags) →
    queue ≠ [] ∧ course.nextSeq = seq + 1 ∧
      length = min limit ((queue.headD []).length - course.acked) ∧
      flags = ⟨course.acked + limit < (queue.headD []).length, false⟩ ∧
      course.sent = course.acked + length

theorem Sender.of_enqueue {sender after : Sender} {datagram : Bytes}
    (queued : sender.enqueue datagram = .ok after) :
    ∃ queue, sender.queue.push datagram = .ok queue ∧ after = { sender with queue } := by
  unfold Sender.enqueue at queued
  cases pushed : sender.queue.push datagram with
  | error => rw [pushed] at queued; cases queued
  | ok queue => rw [pushed] at queued; cases queued; exact ⟨queue, rfl, rfl⟩

theorem Sender.of_ofCapacity {capacity : Nat} {sender : Sender}
    (made : Sender.ofCapacity capacity = .ok sender) :
    ∃ queue, (BoundedQueue.ofCapacity capacity : Except Fault (BoundedQueue Bytes)) = .ok queue ∧
      sender = {
        queue, nextSeq := 0, sentAck := 0, sent := 0, acked := 0, outstanding := none
        acknowledgement := .settled, report := .none, busy := false } := by
  unfold Sender.ofCapacity at made
  cases opened : (BoundedQueue.ofCapacity capacity : Except Fault (BoundedQueue Bytes)) with
  | error => rw [opened] at made; cases made
  | ok queue => rw [opened] at made; cases made; exact ⟨queue, rfl, rfl⟩

section bookkeeping

variable (sender : Sender)

theorem Sender.course_owe (immediate : Bool) : (sender.owe immediate).course = sender.course := by
  unfold Sender.owe
  split
  · rfl
  · split <;> rfl

theorem Sender.course_ackOverdue : sender.ackOverdue.course = sender.course := by
  unfold Sender.ackOverdue
  split <;> rfl

theorem Sender.course_resend : (sender.resend?.getD sender).course = sender.course := by
  cases held : sender.outstanding with
  | none => simp only [Sender.resend?, held, Option.map_none, Option.getD_none]
  | some packet =>
    simp only [Sender.resend?, Sender.course, held, Option.map_some, Option.getD_some,
      Outstanding.extent]

theorem Sender.course_of_timeOut {sender after : Sender} {timeouts : UInt32}
    (timedOut : sender.timeOut? = some (timeouts, after)) : after.course = sender.course := by
  obtain ⟨packet, held, same⟩ := Option.map_eq_some_iff.mp timedOut
  cases same
  simp only [Sender.course, held, Option.map_some, Outstanding.extent]

/-- Sending the outstanding packet again only takes note that it was. -/
theorem Sender.course_sentAgain {sender : Sender} {packet : Outstanding}
    (held : sender.outstanding = some packet) :
    Sender.course { sender with outstanding := some { packet with resend := false } } =
      sender.course := by
  simp only [Sender.course, held, Option.map_some, Outstanding.extent]

end bookkeeping

theorem Course.Regular.within_of_ne_nil {course : Course} {limit : Nat} {queue : List Bytes}
    (regular : course.Regular limit queue) (waiting : queue ≠ []) :
    course.acked < (queue.headD []).length := by
  cases queue with
  | nil => exact absurd rfl waiting
  | cons front rest =>
    have positive := List.length_pos_iff.mpr (regular.nonempty front (List.mem_cons_self ..))
    rcases regular.within with zero | inside
    · simpa only [zero, List.headD_cons] using positive
    · exact inside

theorem Sender.regular_ofCapacity {capacity limit : Nat} {sender : Sender}
    (made : Sender.ofCapacity capacity = .ok sender) :
    sender.course.Regular limit [] ∧ sender.course.cursor = .start := by
  obtain ⟨queue, opened, rfl⟩ := Sender.of_ofCapacity made
  refine ⟨⟨(BoundedQueue.holds_ofCapacity opened).2, ?_, Or.inl rfl, fun _ => rfl, ?_⟩, rfl⟩
  · intro datagram member
    cases member
  · intro seq length flags held
    cases held

theorem Sender.regular_enqueue {sender after : Sender} {limit : Nat} {queue : List Bytes}
    {datagram : Bytes} (regular : sender.course.Regular limit queue) (nonempty : datagram ≠ [])
    (queued : sender.enqueue datagram = .ok after) :
    after.course.Regular limit (queue ++ [datagram]) ∧
      after.course.cursor = sender.course.cursor := by
  obtain ⟨slots, pushed, rfl⟩ := Sender.of_enqueue queued
  refine ⟨⟨regular.holds.of_push pushed, ?_, ?_, regular.idle, ?_⟩, rfl⟩
  · intro other member
    rcases List.mem_append.mp member with old | new
    · exact regular.nonempty other old
    · rwa [List.mem_singleton.mp new]
  · rcases regular.within with zero | inside
    · exact Or.inl zero
    · cases queue with
      | nil => exact absurd inside (Nat.not_lt_zero _)
      | cons => exact Or.inr inside
  · intro seq length flags held
    obtain ⟨waiting, rest⟩ := regular.busy seq length flags held
    cases queue with
    | nil => exact absurd rfl waiting
    | cons => exact ⟨by simp, rest⟩

/-- Starting over loses what was sent of the front datagram, and nothing else. The payload limit
may be another one from then on. -/
theorem Sender.regular_rewind {sender : Sender} {limit next : Nat} {queue : List Bytes}
    (regular : sender.course.Regular limit queue) :
    sender.rewind.course.Regular next queue ∧ sender.rewind.course.cursor = .start := by
  refine ⟨⟨regular.holds, regular.nonempty, Or.inl rfl, fun _ => rfl, ?_⟩, rfl⟩
  intro seq length flags held
  cases held

theorem Course.Regular.front?_eq {course : Course} {limit : Nat} {queue : List Bytes}
    (regular : course.Regular limit queue) (waiting : queue ≠ []) :
    course.queue.front? = some (queue.headD []) := by
  rw [regular.holds.front?_eq]
  cases queue with
  | nil => exact absurd rfl waiting
  | cons front rest => rfl

theorem Sender.extent_of_outstanding {sender : Sender} {packet : Outstanding}
    (held : sender.outstanding = some packet) :
    sender.course.outstanding = some (packet.seq, packet.length, packet.flags) := by
  simp only [Sender.course, held, Option.map_some, Outstanding.extent]

theorem Sender.extent_of_idle {sender : Sender} (idle : sender.outstanding = none) :
    sender.course.outstanding = none := by
  simp only [Sender.course, idle, Option.map_none]

/-- An acknowledgement either says nothing new, or it is the one the outstanding packet waits for. -/
theorem Sender.of_acknowledge (sender : Sender) (ack : UInt8) :
    ((sender.acknowledge ack).1 = .nothingOutstanding ∨ (sender.acknowledge ack).1 = .notAcked) ∧
        (sender.acknowledge ack).2 = sender ∧
        (∀ packet, sender.outstanding = some packet → ack ≠ packet.seq + 1) ∨
      ((sender.acknowledge ack).1 = .packetAcked ∨
          (sender.acknowledge ack).1 = .datagramCompleted) ∧
        ∃ packet queue sent acked, sender.outstanding = some packet ∧ ack = packet.seq + 1 ∧
          (queue = sender.queue ∨ queue = sender.queue.pop.2) ∧
          (sender.acknowledge ack).2 = { sender with queue, sent, acked, outstanding := none } := by
  unfold Sender.acknowledge
  split
  · rename_i idle
    refine Or.inl ⟨Or.inl rfl, rfl, fun packet held => ?_⟩
    cases idle.symm.trans held
  · rename_i packet held
    split
    · rename_i other
      refine Or.inl ⟨Or.inr rfl, rfl, fun same again => ?_⟩
      cases held.symm.trans again
      exact other
    · rename_i covers
      have covered : ack = packet.seq + 1 := Decidable.not_not.mp covers
      dsimp only
      split
      · exact Or.inr ⟨Or.inl rfl, packet, _, _, _, held, covered, Or.inl rfl, rfl⟩
      · exact Or.inr ⟨Or.inr rfl, packet, _, _, _, held, covered, Or.inr rfl, rfl⟩

/-- What an acknowledgement does to the course. It counts only if it is the number right after the
cursor's, and then it moves the cursor on, to the next datagram if this one is complete. -/
theorem Sender.course_acknowledge {sender after : Sender} {limit : Nat} {queue : List Bytes}
    {ack : UInt8} {coverage : Coverage} (regular : sender.course.Regular limit queue)
    (acknowledged : sender.acknowledge ack = (coverage, after)) :
    after.course = sender.course ∨
      ack = sender.course.cursor.seq + 1 ∧ queue ≠ [] ∧
        if sender.acked + limit < (queue.headD []).length then
          after.course.Regular limit queue ∧ after.course.cursor = ⟨ack, sender.acked + limit⟩
        else after.course.Regular limit queue.tail ∧ after.course.cursor = ⟨ack, 0⟩ := by
  unfold Sender.acknowledge at acknowledged
  split at acknowledged
  · cases acknowledged
    exact Or.inl rfl
  · rename_i packet held
    split at acknowledged
    · cases acknowledged
      exact Or.inl rfl
    · rename_i covers
      have covered : ack = packet.seq + 1 := Decidable.not_not.mp covers
      obtain ⟨waiting, nextSeq, length, _, sent⟩ :=
        regular.busy _ _ _ (Sender.extent_of_outstanding held)
      have atCursor : sender.course.cursor.seq = packet.seq := by
        simp only [Course.cursor, Sender.extent_of_outstanding held, Option.map_some,
          Option.getD_some]
      have front : sender.queue.front? = some (queue.headD []) := regular.front?_eq waiting
      have inside : sender.acked < (queue.headD []).length := regular.within_of_ne_nil waiting
      have number : sender.nextSeq = ack := nextSeq.trans covered.symm
      have extent : packet.length = min limit ((queue.headD []).length - sender.acked) := length
      rw [front, Option.map_some, Option.getD_some] at acknowledged
      refine Or.inr ⟨by rw [atCursor, covered], waiting, ?_⟩
      -- the packet that is covered was cut with this limit
      by_cases more : sender.acked + limit < (queue.headD []).length
      · have cut : packet.length = limit := by omega
        rw [cut, if_pos more] at acknowledged
        cases acknowledged
        rw [if_pos more]
        refine ⟨⟨regular.holds, regular.nonempty, Or.inr more, ?_, ?_⟩, ?_⟩
        · intro _
          exact sent.trans (congrArg _ cut)
        · intro seq length flags outstanding
          cases outstanding
        · simp only [Course.cursor, Sender.course, Option.map_none, Option.getD_none, number]
      · have cut : ¬ sender.acked + packet.length < (queue.headD []).length := by omega
        rw [if_neg cut] at acknowledged
        cases acknowledged
        rw [if_neg more]
        refine ⟨⟨regular.holds.pop.2.2, ?_, Or.inl rfl, fun _ => rfl, ?_⟩, ?_⟩
        · exact fun datagram member => regular.nonempty datagram (List.mem_of_mem_tail member)
        · intro seq length flags outstanding
          cases outstanding
        · simp only [Course.cursor, Sender.course, Option.map_none, Option.getD_none, number]

section capacity

theorem Sender.capacity_ofCapacity {capacity : Nat} {sender : Sender}
    (made : Sender.ofCapacity capacity = .ok sender) : sender.queue.capacity = capacity := by
  obtain ⟨queue, opened, rfl⟩ := Sender.of_ofCapacity made
  exact (BoundedQueue.holds_ofCapacity opened).1

theorem Sender.capacity_enqueue {sender after : Sender} {datagram : Bytes}
    (queued : sender.enqueue datagram = .ok after) :
    after.queue.capacity = sender.queue.capacity := by
  obtain ⟨slots, pushed, rfl⟩ := Sender.of_enqueue queued
  exact BoundedQueue.capacity_push pushed

theorem Sender.capacity_acknowledge (sender : Sender) (ack : UInt8) :
    (sender.acknowledge ack).2.queue.capacity = sender.queue.capacity := by
  rcases sender.of_acknowledge ack with ⟨_, same, _⟩ | ⟨_, _, _, _, _, _, _, slots, state⟩
  · rw [same]
  · rw [state]
    rcases slots with rfl | rfl
    · rfl
    · exact sender.queue.capacity_pop

end capacity

end DatagramLink
