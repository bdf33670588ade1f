import DatagramLink.Proofs.Checked.Queue
import DatagramLink.Proofs.Sender.Emission

namespace DatagramLink

section receiver

/-- Adds the payload of a packet, which must not be empty. -/
def Receiver.acceptChecked (receiver : Receiver) (seq : UInt8) (unfinished : Bool)
    (payload : Bytes) : Checked (Verdict × Receiver) := do
  Checked.require (payload ≠ [])
  if seq = receiver.expected then
    let receiver := { receiver with expected := receiver.expected + 1 }
    let cleared : Assembly := if unfinished then .discarding else .collecting []
    match receiver.assembly with
    | .discarding => return (.buffered, { receiver with assembly := cleared })
    | .collecting soFar =>
      let size ← Checked.add soFar.length payload.length
      if receiver.maxDatagram < size then
        return (.tooLarge, { receiver with assembly := cleared })
      else if unfinished then
        return (.buffered, { receiver with assembly := .collecting (soFar ++ payload) })
      else return (.delivered (soFar ++ payload), { receiver with assembly := .collecting [] })
  else if seq = receiver.expected - 1 then return (.duplicate, receiver)
  else return (.outOfOrder, receiver)

theorem Receiver.acceptChecked_eq {receiver : Receiver} (fragment : Fragment)
    (small : receiver.assembly.size + fragment.bytes.length < 2 ^ 64) :
    receiver.acceptChecked fragment.seq fragment.unfinished fragment.bytes =
      .ok (receiver.accept fragment) := by
  rw [Receiver.acceptChecked, Checked.require_eq_ok fragment.bytes_ne_nil, Checked.ok_bind]
  unfold Receiver.accept
  split
  · cases collected : receiver.assembly with
    | discarding => rfl
    | collecting soFar =>
      rw [collected] at small
      have size : soFar.length + fragment.bytes.length < 2 ^ 64 := small
      simp only [Checked.add_eq_ok size, Checked.ok_bind, Assembly.add]
      split
      · rfl
      · split <;> rfl
  · split <;> rfl

end receiver

section sender

/-- A new sender, on the machine. -/
def Sender.ofCapacityChecked (capacity : Nat) : Checked Sender := do
  let queue ← BoundedQueue.ofCapacityChecked capacity
  return {
    queue, nextSeq := 0, sentAck := 0, sent := 0, acked := 0, outstanding := none
    acknowledgement := .settled, report := .none, busy := false }

/-- Queues a datagram behind the others. -/
def Sender.enqueueChecked (sender : Sender) (datagram : Bytes) : Checked (Except Bytes Sender) := do
  match ← sender.queue.pushChecked datagram with
  | .error returned => return .error returned
  | .ok queue => return .ok { sender with queue }

/-- Counts acknowledged bytes against the front datagram, and drops it when all are there. -/
def Sender.acknowledgeChecked (sender : Sender) (ack : UInt8) : Checked (Coverage × Sender) :=
  match sender.outstanding with
  | none => return (.nothingOutstanding, sender)
  | some packet =>
    if ack ≠ packet.seq + 1 then return (.notAcked, sender)
    else do
      let acked ← Checked.add sender.acked packet.length
      let front ← sender.queue.frontChecked
      if acked < (front.map List.length).getD 0 then
        return (.packetAcked, { sender with outstanding := none, acked })
      else
        let (_, queue) ← sender.queue.popChecked
        return (.datagramCompleted,
          { sender with outstanding := none, sent := 0, acked := 0, queue })

/-- Counts one more timeout of the outstanding packet. -/
def Sender.timeOutChecked? (sender : Sender) : Checked (Option (UInt32 × Sender)) :=
  match sender.outstanding with
  | none => return none
  | some packet => do
    let timeouts ← Checked.count packet.timeouts
    return some (timeouts,
      { sender with outstanding := some { packet with resend := true, timeouts } })

/-- The front datagram, if something is left to send of it. -/
def Sender.unsentChecked? (sender : Sender) : Checked (Option Bytes) := do
  match ← sender.queue.frontChecked with
  | none => return none
  | some datagram => return if sender.sent < datagram.length then some datagram else none

/-- The payload of the outstanding packet. -/
def Sender.heldPayloadChecked (sender : Sender) (packet : Outstanding) : Checked Bytes := do
  match ← sender.queue.frontChecked with
  | none => return []
  | some datagram =>
    let stop ← Checked.add sender.acked packet.length
    Checked.range datagram sender.acked stop

/-- Writes a data packet, whose length has to fit into its field. -/
def Sender.emitChecked (sender : Sender) (ack : UInt8) (flags : Flags) (seq : UInt8)
    (payload : Bytes) (retransmission : Bool) :
    Checked (Option (Sender.Emission × Sender)) := do
  let length ← Checked.narrow16 payload.length
  return some (⟨⟨⟨flags, ⟨.data, sender.report⟩, ack, seq, length⟩, payload⟩, retransmission⟩,
    { sender with sentAck := ack, acknowledgement := .settled, report := .none, busy := true })

/-- Writes a packet without payload if there is something to tell. -/
def Sender.emitNewsChecked (sender : Sender) (ack : UInt8) :
    Checked (Option (Sender.Emission × Sender)) :=
  if sender.hasNews then sender.emitChecked ack .clear sender.sentSeq [] false else return none

/-- Cuts the next fragment out of the front datagram. -/
def Sender.emitFragmentChecked (sender : Sender) (ack : UInt8) (limit : Nat) (datagram : Bytes) :
    Checked (Option (Sender.Emission × Sender)) := do
  let remaining ← Checked.sub datagram.length sender.sent
  let length := min remaining limit
  let stop ← Checked.add sender.sent length
  let payload ← Checked.range datagram sender.sent stop
  let flags : Flags := ⟨length < remaining, false⟩
  let sent ← Checked.add sender.sent length
  -- how much of the datagram is left goes into the log
  let _ ← Checked.sub remaining length
  let after := { sender with
    nextSeq := sender.nextSeq + 1, sent
    outstanding := some { seq := sender.nextSeq, length, flags } }
  after.emitChecked ack flags sender.nextSeq payload false

/-- Cuts the outstanding fragment out of the front datagram once more. -/
def Sender.emitAgainChecked (sender : Sender) (ack : UInt8) (packet : Outstanding) :
    Checked (Option (Sender.Emission × Sender)) := do
  let payload ← sender.heldPayloadChecked packet
  let after := { sender with outstanding := some { packet with resend := false } }
  after.emitChecked ack packet.flags packet.seq payload true

/-- The packet that goes out next, if there is one. -/
def Sender.nextChecked (sender : Sender) (ack : UInt8) (limit : Nat) :
    Checked (Option (Sender.Emission × Sender)) :=
  if sender.busy then return none
  else match sender.outstanding with
    | some packet =>
      if packet.resend then sender.emitAgainChecked ack packet else sender.emitNewsChecked ack
    | none => do
      match ← sender.unsentChecked? with
      | some datagram => sender.emitFragmentChecked ack limit datagram
      | none => sender.emitNewsChecked ack

variable {sender : Sender} {limit : Nat} {queue : List Bytes}

theorem Sender.ofCapacityChecked_eq {capacity : Nat}
    (made : Sender.ofCapacity capacity = .ok sender) :
    Sender.ofCapacityChecked capacity = .ok sender := by
  unfold Sender.ofCapacity at made
  cases opened : (BoundedQueue.ofCapacity capacity : Except Fault (BoundedQueue Bytes)) with
  | error => rw [opened] at made; cases made
  | ok queue =>
    rw [opened] at made
    cases made
    rw [Sender.ofCapacityChecked, BoundedQueue.ofCapacityChecked_eq opened]
    rfl

theorem Sender.enqueueChecked_eq (holds : sender.queue.Holds queue)
    (small : sender.queue.capacity < 2 ^ 63) (datagram : Bytes) :
    sender.enqueueChecked datagram = .ok (sender.enqueue datagram) := by
  rw [Sender.enqueueChecked, holds.pushChecked_eq small, Checked.ok_bind, Sender.enqueue]
  cases sender.queue.push datagram <;> rfl

theorem Sender.timeOutChecked?_eq (few : sender.timeouts.toNat + 1 < 2 ^ 32) :
    sender.timeOutChecked? = .ok sender.timeOut? := by
  unfold Sender.timeOutChecked? Sender.timeOut?
  cases held : sender.outstanding with
  | none => rfl
  | some packet =>
    have counted : packet.timeouts.toNat + 1 < 2 ^ 32 := by
      simpa only [Sender.timeouts, held, Option.map_some, Option.getD_some] using few
    simp only [Checked.count_eq_ok counted]
    rfl

theorem Course.Regular.length_front_lt {course : Course} (regular : course.Regular limit queue)
    (short : ∀ datagram ∈ queue, datagram.length < 2 ^ 63) : (queue.headD []).length < 2 ^ 63 := by
  cases queue with
  | nil => exact Nat.two_pow_pos 63
  | cons front rest => exact short front (List.mem_cons_self ..)

theorem Sender.acknowledgeChecked_eq (regular : sender.course.Regular limit queue)
    (small : sender.queue.capacity < 2 ^ 63) (short : ∀ datagram ∈ queue, datagram.length < 2 ^ 63)
    (ack : UInt8) : sender.acknowledgeChecked ack = .ok (sender.acknowledge ack) := by
  have holds : sender.queue.Holds queue := regular.holds
  have front := regular.length_front_lt short
  unfold Sender.acknowledgeChecked Sender.acknowledge
  cases held : sender.outstanding with
  | none => rfl
  | some packet =>
    obtain ⟨bound, _⟩ := Sender.heldPayload_ok regular held
    have acked : sender.acked + packet.length < 2 ^ 64 := by omega
    dsimp only
    split
    · rfl
    · simp only [Checked.add_eq_ok acked, holds.frontChecked_eq, holds.popChecked_eq small,
        Checked.ok_bind]
      split <;> rfl

/-- What is cut to fit a packet also fits the length field. -/
theorem Sender.emitChecked_eq {ack seq : UInt8} {flags : Flags} {payload : Bytes} {again : Bool}
    {result : Option (Sender.Emission × Sender)}
    (sending : sender.emit ack flags seq payload again = .ok result) :
    sender.emitChecked ack flags seq payload again = .ok result := by
  unfold Sender.emit Packet.build at sending
  cases narrowed : DatagramLink.narrow16 payload.length with
  | error => rw [narrowed] at sending; cases sending
  | ok length =>
    rw [narrowed] at sending
    cases sending
    rw [Sender.emitChecked, Checked.narrow16_eq_ok narrowed]
    rfl

theorem Sender.emitNewsChecked_eq {ack : UInt8} {result : Option (Sender.Emission × Sender)}
    (sending : sender.emitNews ack = .ok result) : sender.emitNewsChecked ack = .ok result := by
  unfold Sender.emitNews at sending
  unfold Sender.emitNewsChecked
  split
  · rename_i news
    rw [if_pos news] at sending
    exact Sender.emitChecked_eq sending
  · rename_i quiet
    rw [if_neg quiet] at sending
    cases sending
    rfl

theorem Sender.emitFragmentChecked_eq {ack : UInt8} {datagram : Bytes}
    {result : Option (Sender.Emission × Sender)} (left : sender.sent < datagram.length)
    (short : datagram.length < 2 ^ 63)
    (sending : sender.emitFragment ack limit (datagram.drop sender.sent) = .ok result) :
    sender.emitFragmentChecked ack limit datagram = .ok result := by
  have remaining : sender.sent ≤ datagram.length := Nat.le_of_lt left
  have inside : sender.sent + min (datagram.length - sender.sent) limit ≤ datagram.length := by
    omega
  have stop : sender.sent + min (datagram.length - sender.sent) limit < 2 ^ 64 := by omega
  have part : min (datagram.length - sender.sent) limit ≤ datagram.length - sender.sent :=
    Nat.min_le_left _ _
  have payload : (datagram.drop sender.sent).take (min (datagram.length - sender.sent) limit) =
      (datagram.drop sender.sent).take limit := by
    rw [Nat.min_comm, ← List.length_drop, ← List.take_eq_take_min]
  have length : ((datagram.drop sender.sent).take limit).length =
      min (datagram.length - sender.sent) limit := by
    rw [List.length_take, List.length_drop, Nat.min_comm]
  simp only [Sender.emitFragment, length, List.length_drop] at sending
  simp only [Sender.emitFragmentChecked, Checked.sub_eq_ok remaining, Checked.ok_bind,
    Checked.add_eq_ok stop, Checked.range_eq_ok (Nat.le_add_right _ _) inside,
    Checked.sub_eq_ok part, Nat.add_sub_cancel_left, payload]
  exact Sender.emitChecked_eq sending

theorem Sender.emitAgainChecked_eq {packet : Outstanding} {ack : UInt8}
    (regular : sender.course.Regular limit queue) (held : sender.outstanding = some packet)
    (short : ∀ datagram ∈ queue, datagram.length < 2 ^ 63)
    {result : Option (Sender.Emission × Sender)}
    (sending : sender.emitAgain ack packet = .ok result) :
    sender.emitAgainChecked ack packet = .ok result := by
  have holds : sender.queue.Holds queue := regular.holds
  have front := regular.length_front_lt short
  obtain ⟨waiting, _⟩ := regular.busy _ _ _ (Sender.extent_of_outstanding held)
  have first : sender.queue.front? = some (queue.headD []) := regular.front?_eq waiting
  obtain ⟨bound, _, payload⟩ := Sender.heldPayload_ok regular held
  have stop : sender.acked + packet.length < 2 ^ 64 := by omega
  rw [Sender.emitAgain, payload] at sending
  simp only [Sender.emitAgainChecked, Sender.heldPayloadChecked, holds.frontChecked_eq, first,
    Checked.ok_bind, Checked.add_eq_ok stop, Checked.range_eq_ok (Nat.le_add_right _ _) bound,
    Nat.add_sub_cancel_left]
  exact Sender.emitChecked_eq sending

theorem Sender.nextChecked_eq (regular : sender.course.Regular limit queue)
    (short : ∀ datagram ∈ queue, datagram.length < 2 ^ 63)
    {ack : UInt8} {result : Option (Sender.Emission × Sender)}
    (sending : sender.next ack limit = .ok result) :
    sender.nextChecked ack limit = .ok result := by
  have holds : sender.queue.Holds queue := regular.holds
  unfold Sender.next at sending
  unfold Sender.nextChecked
  by_cases busy : sender.busy = true
  · rw [if_pos busy] at sending ⊢
    cases sending
    rfl
  · rw [if_neg busy] at sending ⊢
    cases held : sender.outstanding with
    | some packet =>
      rw [held] at sending
      dsimp only at sending ⊢
      split at sending
      · rename_i again
        rw [if_pos again]
        exact Sender.emitAgainChecked_eq regular held short sending
      · rename_i quiet
        rw [if_neg quiet]
        exact Sender.emitNewsChecked_eq sending
    | none =>
      rw [held] at sending
      simp only [Sender.unsentChecked?, Sender.unsent?, holds.frontChecked_eq,
        holds.front?_eq] at sending ⊢
      cases queue with
      | nil => exact Sender.emitNewsChecked_eq sending
      | cons datagram rest =>
        simp only [List.head?_cons, Checked.ok_bind] at sending ⊢
        by_cases left : sender.sent < datagram.length
        · rw [if_pos left] at sending ⊢
          exact Sender.emitFragmentChecked_eq left (short datagram (List.mem_cons_self ..)) sending
        · rw [if_neg left] at sending ⊢
          exact Sender.emitNewsChecked_eq sending

end sender

end DatagramLink
