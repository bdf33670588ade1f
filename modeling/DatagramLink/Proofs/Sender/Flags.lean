import DatagramLink.Proofs.Sender.Stint

namespace DatagramLink

/-- What is known of the outstanding packet itself. -/
structure Unacknowledged where
  seq : UInt8
  length : Nat
  flags : Flags
  deriving DecidableEq

/-- The sender with its flags kept apart: whether the outstanding packet is to be sent again and
how often it timed out stand beside it and not in it, and so do an acknowledgement that is
pending and one that is due. -/
structure FlaggedSender where
  queue : BoundedQueue Bytes
  nextSeq : UInt8
  sentAck : UInt8
  sent : Nat
  acked : Nat
  outstanding : Option Unacknowledged
  resendPending : Bool
  timeouts : UInt32
  ackPending : Bool
  ackDue : Bool
  report : ErrorCode
  busy : Bool
  deriving DecidableEq

/-- What goes into the next packet besides the acknowledgement and the report. -/
structure FlaggedSender.Load where
  flags : Flags
  seq : UInt8
  payload : Bytes
  retransmission : Bool

/-- What a sender says to what is done to it. -/
inductive Sender.Answer where
  | done
  /-- A full queue hands the datagram back. -/
  | queued (returned : Option Bytes)
  | wrote (emission : Option Sender.Emission) (bytes : Bytes)
  | covered (coverage : Coverage)
  | resends (asked : Bool)
  | timedOut (times : Option UInt32)
  deriving DecidableEq

namespace FlaggedSender

/-- A sender at the start of its stream, with room for so many datagrams. -/
def ofCapacity (capacity : Nat) : Except Fault FlaggedSender := do
  let queue ← BoundedQueue.ofCapacity capacity
  return {
    queue, nextSeq := 0, sentAck := 0, sent := 0, acked := 0, outstanding := none
    resendPending := false, timeouts := 0, ackPending := false, ackDue := false, report := .none
    busy := false }

/-- The length of the front datagram, or 0 if nothing is queued. -/
def frontLength (sender : FlaggedSender) : Nat := (sender.queue.front?.map List.length).getD 0

/-- The number of the packet with payload that was numbered last. -/
def sentSeq (sender : FlaggedSender) : UInt8 := sender.nextSeq - 1

/-- Queues a datagram, or gives it back. -/
def enqueue (sender : FlaggedSender) (datagram : Bytes) : Except Bytes FlaggedSender := do
  let queue ← sender.queue.push datagram
  return { sender with queue }

/-- The link has taken a packet, or is ready for the next one. -/
def setBusy (sender : FlaggedSender) (busy : Bool) : FlaggedSender := { sender with busy }

/-- Notes the condition that the next packet reports. -/
def setReport (sender : FlaggedSender) (report : ErrorCode) : FlaggedSender :=
  { sender with report }

/-- The peer is owed an acknowledgement, at once or when there is something to send. -/
def owe (sender : FlaggedSender) (immediate : Bool) : FlaggedSender :=
  let sender := { sender with ackPending := true }
  if immediate then { sender with ackDue := true } else sender

/-- The acknowledgement that is pending has waited long enough. -/
def ackOverdue (sender : FlaggedSender) : FlaggedSender :=
  if sender.ackPending then { sender with ackDue := true } else sender

/-- The peer said which packet it expects next. Only the one behind the outstanding packet
counts. -/
def acknowledge (sender : FlaggedSender) (ack : UInt8) : Coverage × FlaggedSender :=
  match sender.outstanding with
  | none => (.nothingOutstanding, sender)
  | some packet =>
    if ack ≠ packet.seq + 1 then (.notAcked, sender)
    else
      let sender := { sender with
        outstanding := none, resendPending := false, timeouts := 0
        acked := sender.acked + packet.length }
      if sender.acked < sender.frontLength then (.packetAcked, sender)
      else (.datagramCompleted, { sender with queue := sender.queue.pop.2, sent := 0, acked := 0 })

/-- The peer asks for the outstanding packet once more. -/
def resend (sender : FlaggedSender) : Bool × FlaggedSender :=
  if sender.outstanding.isNone then (false, sender)
  else (true, { sender with resendPending := true })

/-- The outstanding packet was not acknowledged in time. One more timeout is counted. -/
def timeOut (sender : FlaggedSender) : Option UInt32 × FlaggedSender :=
  match sender.outstanding with
  | none => (none, sender)
  | some _ =>
    (some (sender.timeouts + 1),
      { sender with timeouts := sender.timeouts + 1, resendPending := true })

/-- Part of the front datagram was not sent yet. -/
def hasUnsent (sender : FlaggedSender) : Bool :=
  (sender.queue.front?.map fun datagram => decide (sender.sent < datagram.length)).getD false

/-- The check that comes before a packet is made. -/
def isReady (sender : FlaggedSender) : Bool :=
  if sender.busy then false
  else if sender.resendPending && sender.outstanding.isSome then true
  else if sender.outstanding.isNone && sender.hasUnsent then true
  else sender.ackDue || sender.report ≠ .none

/-- A packet without payload. -/
def news (sender : FlaggedSender) : Load := ⟨.clear, sender.sentSeq, [], false⟩

/-- The payload of the outstanding packet, cut out of the front datagram again. -/
def heldPayload (sender : FlaggedSender) (packet : Unacknowledged) : Except Fault Bytes :=
  match sender.queue.front? with
  | some datagram => slice datagram sender.acked packet.length
  | none => .ok []

/-- The next part of the front datagram, which becomes outstanding. -/
def nextChunk (sender : FlaggedSender) (limit : Nat) : Except Fault (Load × FlaggedSender) :=
  match sender.queue.front? with
  | none => .ok (sender.news, sender)
  | some datagram => do
    let remaining := datagram.length - sender.sent
    let length := min remaining limit
    let payload ← slice datagram sender.sent length
    let flags : Flags := ⟨length < remaining, false⟩
    return (⟨flags, sender.nextSeq, payload, false⟩,
      { sender with
        nextSeq := sender.nextSeq + 1
        sent := sender.sent + length
        outstanding := some ⟨sender.nextSeq, length, flags⟩ })

/-- What the next packet is made of, once the check has been passed. -/
def choose (sender : FlaggedSender) (limit : Nat) : Except Fault (Load × FlaggedSender) :=
  match sender.outstanding with
  | some packet =>
    if sender.resendPending then do
      let payload ← sender.heldPayload packet
      return (⟨packet.flags, packet.seq, payload, true⟩, { sender with resendPending := false })
    else .ok (sender.news, sender)
  | none => if sender.hasUnsent then sender.nextChunk limit else .ok (sender.news, sender)

/-- Puts a packet behind what is in the buffer. -/
def emit (sender : FlaggedSender) (ack : UInt8) (buffer : Bytes) (load : Load) :
    Except Fault (Option Sender.Emission × Bytes × FlaggedSender) := do
  let packet ← Packet.build load.flags ⟨.data, sender.report⟩ ack load.seq load.payload
  return (some ⟨packet, load.retransmission⟩, buffer ++ packet.encode,
    { sender with
      sentAck := ack, ackPending := false, ackDue := false, report := .none, busy := true })

/-- Writes the next packet, if there is one. -/
def write (sender : FlaggedSender) (ack : UInt8) (limit : Nat) (buffer : Bytes) :
    Except Fault (Option Sender.Emission × Bytes × FlaggedSender) :=
  if sender.isReady then do
    let (load, sender) ← sender.choose limit
    sender.emit ack buffer load
  else .ok (none, buffer, sender)

/-- Back to the start of the stream. What is queued stays, and so does a packet that the link
has. -/
def rewind (sender : FlaggedSender) : FlaggedSender :=
  { sender with
    nextSeq := 0, sentAck := 0, sent := 0, acked := 0, outstanding := none, resendPending := false
    timeouts := 0, ackPending := false, ackDue := false, report := .none }

/-- What a sender answers, and what becomes of it. -/
def perform (sender : FlaggedSender) :
    Sender.Input → Except Fault (Sender.Answer × FlaggedSender)
  | .enqueue datagram =>
    match sender.enqueue datagram with
    | .error returned => .ok (.queued (some returned), sender)
    | .ok after => .ok (.queued none, after)
  | .next ack limit => do
    let (emission, bytes, after) ← sender.write ack limit []
    return (.wrote emission bytes, after)
  | .acknowledge ack => .ok ((sender.acknowledge ack).map .covered id)
  | .owe immediate => .ok (.done, sender.owe immediate)
  | .ackOverdue => .ok (.done, sender.ackOverdue)
  | .resend => .ok (sender.resend.map .resends id)
  | .timeOut => .ok (sender.timeOut.map .timedOut id)
  | .setReport report => .ok (.done, sender.setReport report)
  | .setBusy busy => .ok (.done, sender.setBusy busy)
  | .rewind => .ok (.done, sender.rewind)

end FlaggedSender

/-- The same for the sender that keeps the flags within what they are about. -/
def Sender.perform (sender : Sender) : Sender.Input → Except Fault (Sender.Answer × Sender)
  | .enqueue datagram =>
    match sender.enqueue datagram with
    | .error returned => .ok (.queued (some returned), sender)
    | .ok after => .ok (.queued none, after)
  | .next ack limit => do
    match ← sender.next ack limit with
    | none => return (.wrote none [], sender)
    | some (emission, after) => return (.wrote (some emission) emission.packet.encode, after)
  | .acknowledge ack => .ok ((sender.acknowledge ack).map .covered id)
  | .owe immediate => .ok (.done, sender.owe immediate)
  | .ackOverdue => .ok (.done, sender.ackOverdue)
  | .resend => .ok (.resends sender.resend?.isSome, sender.resend?.getD sender)
  | .timeOut =>
    .ok (.timedOut (sender.timeOut?.map Prod.fst), (sender.timeOut?.map Prod.snd).getD sender)
  | .setReport report => .ok (.done, sender.setReport report)
  | .setBusy busy => .ok (.done, sender.setBusy busy)
  | .rewind => .ok (.done, sender.rewind)

/-- The answers to all that is done, and what that leads to. -/
def Sender.Input.serve {σ : Type} (perform : σ → Sender.Input → Except Fault (Sender.Answer × σ))
    (state : σ) : List Sender.Input → Except Fault (List Sender.Answer × σ)
  | [] => .ok ([], state)
  | input :: inputs => do
    let (answer, middle) ← perform state input
    let (answers, last) ← serve perform middle inputs
    return (answer :: answers, last)

/-- The outstanding packet without the flags that are kept in it. -/
def Outstanding.unacknowledged (packet : Outstanding) : Unacknowledged :=
  ⟨packet.seq, packet.length, packet.flags⟩

/-- The sender with its flags laid open. -/
def Sender.flagged (sender : Sender) : FlaggedSender where
  queue := sender.queue
  nextSeq := sender.nextSeq
  sentAck := sender.sentAck
  sent := sender.sent
  acked := sender.acked
  outstanding := sender.outstanding.map Outstanding.unacknowledged
  resendPending := (sender.outstanding.map (·.resend)).getD false
  timeouts := sender.timeouts
  ackPending := sender.acknowledgement ≠ .settled
  ackDue := sender.acknowledgement = .due
  report := sender.report
  busy := sender.busy

/-- What writing a packet comes to for the sender and for the buffer. -/
def Sender.written (sender : Sender) (buffer : Bytes) :
    Option (Sender.Emission × Sender) → Option Sender.Emission × Bytes × FlaggedSender
  | none => (none, buffer, sender.flagged)
  | some (emission, after) => (some emission, buffer ++ emission.packet.encode, after.flagged)

theorem Sender.flagged_held {sender : Sender} {packet : Outstanding}
    (held : sender.outstanding = some packet) :
    sender.flagged.outstanding = some packet.unacknowledged ∧
      sender.flagged.resendPending = packet.resend := by
  simp only [Sender.flagged, held, Option.map_some, Option.getD_some, and_self]

theorem Sender.flagged_idle {sender : Sender} (idle : sender.outstanding = none) :
    sender.flagged.outstanding = none ∧ sender.flagged.resendPending = false ∧
      sender.flagged.timeouts = 0 := by
  simp only [Sender.flagged, Sender.timeouts, idle, Option.map_none, Option.getD_none, and_self]

section flagged

variable (sender : Sender)

theorem Sender.flagged_owe (immediate : Bool) :
    sender.flagged.owe immediate = (sender.owe immediate).flagged := by
  cases immediate with
  | true => rfl
  | false =>
    simp only [Sender.owe, Bool.false_eq_true, if_false]
    cases owed : sender.acknowledgement <;>
      simp [FlaggedSender.owe, Sender.flagged, Sender.timeouts, owed]

theorem Sender.flagged_ackOverdue : sender.flagged.ackOverdue = sender.ackOverdue.flagged := by
  cases owed : sender.acknowledgement <;>
    simp [FlaggedSender.ackOverdue, Sender.ackOverdue, Sender.flagged, Sender.timeouts, owed]

theorem Sender.flagged_acknowledge (ack : UInt8) :
    sender.flagged.acknowledge ack = (sender.acknowledge ack).map id Sender.flagged := by
  unfold FlaggedSender.acknowledge Sender.acknowledge
  cases held : sender.outstanding with
  | none => simp only [Sender.flagged, held, Option.map_none, Prod.map_apply, id]
  | some packet =>
    simp only [Sender.flagged, held, Option.map_some, Outstanding.unacknowledged,
      FlaggedSender.frontLength]
    by_cases other : ack ≠ packet.seq + 1
    · simp only [if_pos other, Prod.map_apply, id, Sender.flagged, held]
      rfl
    · simp only [if_neg other]
      split <;> rfl

theorem Sender.flagged_resend :
    sender.flagged.resend = (sender.resend?.isSome, (sender.resend?.getD sender).flagged) := by
  unfold FlaggedSender.resend Sender.resend?
  cases held : sender.outstanding with
  | none => simp [Sender.flagged, held]
  | some packet => simp [Sender.flagged, held, Sender.timeouts, Outstanding.unacknowledged]

theorem Sender.flagged_timeOut :
    sender.flagged.timeOut = (sender.timeOut?.map Prod.fst,
      ((sender.timeOut?.map Prod.snd).getD sender).flagged) := by
  unfold FlaggedSender.timeOut Sender.timeOut?
  cases held : sender.outstanding with
  | none => simp [Sender.flagged, held]
  | some packet => simp [Sender.flagged, held, Sender.timeouts, Outstanding.unacknowledged]

theorem Sender.flagged_hasUnsent : sender.flagged.hasUnsent = sender.unsent?.isSome := by
  unfold FlaggedSender.hasUnsent Sender.unsent?
  simp only [Sender.flagged]
  cases sender.queue.front? with
  | none => rfl
  | some datagram =>
    by_cases left : sender.sent < datagram.length
    · simp [left]
    · simp [left]

theorem Sender.flagged_isReady : sender.flagged.isReady = sender.isReady := by
  have unsent := sender.flagged_hasUnsent
  unfold FlaggedSender.isReady Sender.isReady Sender.wantsLink
  rw [unsent]
  cases busy : sender.busy with
  | true => simp [Sender.flagged, busy]
  | false =>
    cases held : sender.outstanding with
    | none => simp [Sender.flagged, busy, held, Sender.hasNews]
    | some packet => simp [Sender.flagged, busy, held, Sender.hasNews]

theorem Sender.flagged_emit {before : Sender} (ack : UInt8) (buffer : Bytes) (flags : Flags)
    (seq : UInt8) (payload : Bytes) (again : Bool) :
    sender.flagged.emit ack buffer ⟨flags, seq, payload, again⟩ =
      (sender.emit ack flags seq payload again).map (before.written buffer) := by
  have report : sender.flagged.report = sender.report := rfl
  unfold FlaggedSender.emit Sender.emit
  rw [report]
  cases Packet.build flags ⟨.data, sender.report⟩ ack seq payload <;> rfl

/-- A retransmission is made of what is held of the outstanding packet. -/
theorem Sender.flagged_choose_again {sender : Sender} {packet : Outstanding} (limit : Nat)
    (held : sender.outstanding = some packet) (again : packet.resend = true) :
    sender.flagged.choose limit = (sender.heldPayload packet).map fun payload =>
      (⟨packet.flags, packet.seq, payload, true⟩,
        Sender.flagged { sender with outstanding := some { packet with resend := false } }) := by
  have payload : sender.flagged.heldPayload packet.unacknowledged = sender.heldPayload packet := rfl
  obtain ⟨outstanding, pending⟩ := Sender.flagged_held held
  simp only [FlaggedSender.choose, outstanding, pending, again, if_true, payload]
  cases sender.heldPayload packet with
  | error => rfl
  | ok bytes => simp [Except.map, Sender.flagged, Sender.timeouts, held, bind, Except.bind, pure,
      Except.pure, Outstanding.unacknowledged]

theorem Sender.of_unsent? {sender : Sender} {unsent : Bytes} (left : sender.unsent? = some unsent) :
    ∃ datagram, sender.queue.front? = some datagram ∧ sender.sent < datagram.length ∧
      unsent = datagram.drop sender.sent := by
  unfold Sender.unsent? at left
  split at left
  · cases left
  · rename_i datagram front
    split at left
    · rename_i more
      cases left
      exact ⟨datagram, front, more, rfl⟩
    · cases left

/-- A new packet is made of the first bytes that were not sent. -/
theorem Sender.flagged_choose_chunk {sender : Sender} {unsent : Bytes} (limit : Nat)
    (idle : sender.outstanding = none) (left : sender.unsent? = some unsent) :
    sender.flagged.choose limit =
      .ok (⟨⟨(unsent.take limit).length < unsent.length, false⟩, sender.nextSeq,
          unsent.take limit, false⟩,
        Sender.flagged { sender with
          nextSeq := sender.nextSeq + 1
          sent := sender.sent + (unsent.take limit).length
          outstanding := some {
            seq := sender.nextSeq, length := (unsent.take limit).length
            flags := ⟨(unsent.take limit).length < unsent.length, false⟩ } }) := by
  obtain ⟨datagram, front, more, rfl⟩ := Sender.of_unsent? left
  have outstanding := (Sender.flagged_idle idle).1
  have unfinished : sender.flagged.hasUnsent = true := by
    rw [sender.flagged_hasUnsent, left, Option.isSome_some]
  have first : sender.flagged.queue.front? = some datagram := front
  have length : ((datagram.drop sender.sent).take limit).length =
      min (datagram.length - sender.sent) limit := by
    rw [List.length_take, List.length_drop, Nat.min_comm]
  have cut : slice datagram sender.sent (min (datagram.length - sender.sent) limit) =
      .ok ((datagram.drop sender.sent).take limit) := by
    rw [slice_eq_ok (by omega), Nat.min_comm, ← List.length_drop, ← List.take_eq_take_min]
  have sent : sender.flagged.sent = sender.sent := rfl
  simp only [FlaggedSender.choose, outstanding, unfinished, if_true, FlaggedSender.nextChunk, first,
    sent, cut, length, List.length_drop]
  simp only [Sender.flagged, Sender.timeouts, idle, Option.map_none, Option.getD_none]
  rfl

theorem Sender.flagged_news (ack : UInt8) (buffer : Bytes) :
    (if sender.hasNews = true then sender.flagged.emit ack buffer sender.flagged.news
      else .ok (none, buffer, sender.flagged)) =
        (sender.emitNews ack).map (sender.written buffer) := by
  unfold Sender.emitNews
  split
  · exact Sender.flagged_emit sender ack buffer .clear sender.sentSeq [] false
  · rfl

/-- Both write the same, whatever is written by then. -/
theorem Sender.flagged_write (ack : UInt8) (limit : Nat) (buffer : Bytes) :
    sender.flagged.write ack limit buffer =
      (sender.next ack limit).map (sender.written buffer) := by
  unfold FlaggedSender.write Sender.next
  rw [sender.flagged_isReady, Sender.isReady, Sender.wantsLink]
  cases busy : sender.busy with
  | true => rfl
  | false =>
    simp only [Bool.not_false, Bool.true_and, Bool.false_eq_true, if_false]
    -- `Sender.next` has no check before its cases, so the check is decided in each of them
    cases held : sender.outstanding with
    | some packet =>
      cases again : packet.resend with
      | true =>
        simp only [again, Bool.true_or, if_true, Sender.flagged_choose_again limit held again,
          Sender.emitAgain]
        cases sender.heldPayload packet with
        | error => rfl
        | ok payload => exact Sender.flagged_emit _ ack buffer packet.flags packet.seq payload true
      | false =>
        obtain ⟨outstanding, pending⟩ := Sender.flagged_held held
        simp only [again, Bool.false_or, FlaggedSender.choose, outstanding, pending,
          Bool.false_eq_true, if_false]
        exact sender.flagged_news ack buffer
    | none =>
      cases left : sender.unsent? with
      | some unsent =>
        simp only [Option.isSome_some, Bool.true_or, if_true,
          Sender.flagged_choose_chunk limit held left, Sender.emitFragment]
        exact Sender.flagged_emit _ ack buffer _ sender.nextSeq (unsent.take limit) false
      | none =>
        have outstanding := (Sender.flagged_idle held).1
        have unfinished : sender.flagged.hasUnsent = false := by
          rw [sender.flagged_hasUnsent, left, Option.isSome_none]
        simp only [Option.isSome_none, Bool.false_or, FlaggedSender.choose, outstanding, unfinished,
          Bool.false_eq_true, if_false]
        exact sender.flagged_news ack buffer

theorem Sender.flagged_enqueue (datagram : Bytes) :
    sender.flagged.enqueue datagram = (sender.enqueue datagram).map Sender.flagged := by
  have queue : sender.flagged.queue = sender.queue := rfl
  unfold FlaggedSender.enqueue Sender.enqueue
  rw [queue]
  cases sender.queue.push datagram <;> rfl

/-- Whatever is done, both answer the same, and the flags stay those of the other sender. -/
theorem Sender.flagged_perform (input : Sender.Input) :
    sender.flagged.perform input = (sender.perform input).map (Prod.map id Sender.flagged) := by
  cases input with
  | enqueue datagram =>
    simp only [FlaggedSender.perform, Sender.perform, sender.flagged_enqueue]
    cases sender.enqueue datagram <;> rfl
  | next ack limit =>
    simp only [FlaggedSender.perform, Sender.perform, sender.flagged_write]
    cases sender.next ack limit with
    | error => rfl
    | ok result =>
      cases result <;> rfl
  | acknowledge ack =>
    simp only [FlaggedSender.perform, Sender.perform, sender.flagged_acknowledge]
    rfl
  | owe immediate =>
    simp only [FlaggedSender.perform, Sender.perform, sender.flagged_owe]
    rfl
  | ackOverdue =>
    simp only [FlaggedSender.perform, Sender.perform, sender.flagged_ackOverdue]
    rfl
  | resend =>
    simp only [FlaggedSender.perform, Sender.perform, sender.flagged_resend]
    rfl
  | timeOut =>
    simp only [FlaggedSender.perform, Sender.perform, sender.flagged_timeOut]
    rfl
  | setReport report => rfl
  | setBusy busy => rfl
  | rewind => rfl

theorem Sender.flagged_serve (inputs : List Sender.Input) :
    Sender.Input.serve FlaggedSender.perform sender.flagged inputs =
      (Sender.Input.serve Sender.perform sender inputs).map (Prod.map id Sender.flagged) := by
  induction inputs generalizing sender with
  | nil => rfl
  | cons input inputs ih =>
    simp only [Sender.Input.serve, sender.flagged_perform]
    cases sender.perform input with
    | error => rfl
    | ok answered =>
      obtain ⟨answer, middle⟩ := answered
      simp only [Except.map, Prod.map_apply, id, bind, Except.bind, ih]
      cases Sender.Input.serve Sender.perform middle inputs <;> rfl

theorem Sender.flagged_ofCapacity (capacity : Nat) :
    FlaggedSender.ofCapacity capacity = (Sender.ofCapacity capacity).map Sender.flagged := by
  unfold FlaggedSender.ofCapacity Sender.ofCapacity
  cases (BoundedQueue.ofCapacity capacity : Except Fault (BoundedQueue Bytes)) <;> rfl

end flagged

section runs

variable {stint after : Stint}

/-- The record that a stint keeps does not change what the sender does. -/
theorem Stint.sender_perform {input : Sender.Input} (performed : stint.perform input = .ok after) :
    ∃ answer, stint.sender.perform input = .ok (answer, after.sender) := by
  cases input with
  | enqueue datagram =>
    simp only [Stint.perform, Sender.perform] at performed ⊢
    cases queued : stint.sender.enqueue datagram with
    | error returned =>
      rw [queued] at performed
      cases performed
      exact ⟨_, rfl⟩
    | ok sender =>
      rw [queued] at performed
      cases performed
      exact ⟨_, rfl⟩
  | next ack limit =>
    simp only [Stint.perform, Sender.perform] at performed ⊢
    cases sending : stint.sender.next ack limit with
    | error fault =>
      rw [sending] at performed
      cases performed
    | ok result =>
      rw [sending] at performed
      cases result with
      | none =>
        cases performed
        exact ⟨_, rfl⟩
      | some sent =>
        cases performed
        exact ⟨_, rfl⟩
  | acknowledge ack | owe immediate | ackOverdue | resend | timeOut | setReport report
  | setBusy busy | rewind =>
    cases performed
    exact ⟨_, rfl⟩

theorem Stint.sender_run {inputs : List Sender.Input} (ran : stint.run inputs = .ok after) :
    ∃ answers, Sender.Input.serve Sender.perform stint.sender inputs =
      .ok (answers, after.sender) := by
  induction inputs generalizing stint with
  | nil =>
    cases ran
    exact ⟨[], rfl⟩
  | cons input inputs ih =>
    rw [Stint.run] at ran
    cases performed : stint.perform input with
    | error fault =>
      rw [performed] at ran
      cases ran
    | ok middle =>
      rw [performed] at ran
      obtain ⟨answer, first⟩ := Stint.sender_perform performed
      obtain ⟨answers, others⟩ := ih ran
      refine ⟨answer :: answers, ?_⟩
      simp only [Sender.Input.serve, first, others, bind, Except.bind, pure, Except.pure]

/-- Whatever is done to a new sender is answered, with its flags kept apart or not, and both answer
the same. -/
theorem FlaggedSender.reaches {capacity : Nat} {initial : FlaggedSender}
    (made : FlaggedSender.ofCapacity capacity = .ok initial) {inputs : List Sender.Input}
    (proper : ∀ input ∈ inputs, input.Proper) :
    ∃ first answers, ∃ stint : Stint, Sender.ofCapacity capacity = .ok first ∧
      Sender.Input.serve Sender.perform first inputs = .ok (answers, stint.sender) ∧
      Sender.Input.serve FlaggedSender.perform initial inputs =
        .ok (answers, stint.sender.flagged) ∧ stint.Steady := by
  rw [Sender.flagged_ofCapacity] at made
  cases opened : Sender.ofCapacity capacity with
  | error fault =>
    rw [opened] at made
    cases made
  | ok first =>
    rw [opened] at made
    cases made
    obtain ⟨stint, ran, steady⟩ := (Stint.steady_ofCapacity opened).run proper
    obtain ⟨answers, served⟩ := Stint.sender_run ran
    have plain : Sender.Input.serve Sender.perform first inputs = .ok (answers, stint.sender) :=
      served
    refine ⟨first, answers, stint, rfl, plain, ?_, steady⟩
    rw [first.flagged_serve, plain]
    rfl

end runs

end DatagramLink
