import DatagramLink.Proofs.Sender.Emission

namespace DatagramLink

/-- What can be done to a sender. -/
inductive Sender.Input where
  | enqueue (datagram : Bytes)
  | next (ack : UInt8) (limit : Nat)
  | acknowledge (ack : UInt8)
  | owe (immediate : Bool)
  | ackOverdue
  | resend
  | timeOut
  | setReport (report : ErrorCode)
  | setBusy (busy : Bool)
  | rewind

/-- Datagrams are not empty, and payloads have a length that a header can declare. -/
def Sender.Input.Proper : Sender.Input → Prop
  | .enqueue datagram => datagram ≠ []
  | .next _ limit => 0 < limit ∧ limit < UInt16.size
  | .acknowledge _ | .owe _ | .ackOverdue | .resend | .timeOut | .setReport _ | .setBusy _
  | .rewind => True

instance : (input : Sender.Input) → Decidable input.Proper
  | .enqueue datagram => inferInstanceAs (Decidable (datagram ≠ []))
  | .next _ limit => inferInstanceAs (Decidable (0 < limit ∧ limit < UInt16.size))
  | .acknowledge _ | .owe _ | .ackOverdue | .resend | .timeOut | .setReport _ | .setBusy _
  | .rewind => .isTrue trivial

/-- What is on record of a sender: the packets it sent, each with the limit of that time, and
what it was told. -/
inductive Sender.Deed where
  | sent (emission : Sender.Emission) (limit : Nat)
  | acknowledged (ack : UInt8)

/-- A sender since it was new or started over last: the datagrams it had to send from then on, and
what came of that, the latest first. -/
structure Stint where
  sender : Sender
  datagrams : List Bytes
  deeds : List Sender.Deed

/-- All that is queued has to be sent. -/
def Stint.start (sender : Sender) : Stint := ⟨sender, sender.queue.toList, []⟩

/-- What becomes of a sender and its record. -/
def Stint.perform (stint : Stint) : Sender.Input → Except Fault Stint
  | .enqueue datagram =>
    match stint.sender.enqueue datagram with
    | .error _ => .ok stint
    | .ok sender => .ok { stint with sender, datagrams := stint.datagrams ++ [datagram] }
  | .next ack limit =>
    match stint.sender.next ack limit with
    | .error fault => .error fault
    | .ok none => .ok stint
    | .ok (some (emission, sender)) =>
      .ok { stint with sender, deeds := .sent emission limit :: stint.deeds }
  | .acknowledge ack =>
    .ok { stint with
      sender := (stint.sender.acknowledge ack).2, deeds := .acknowledged ack :: stint.deeds }
  | .owe immediate => .ok { stint with sender := stint.sender.owe immediate }
  | .ackOverdue => .ok { stint with sender := stint.sender.ackOverdue }
  | .resend => .ok { stint with sender := stint.sender.resend?.getD stint.sender }
  | .timeOut =>
    .ok { stint with sender := (stint.sender.timeOut?.map Prod.snd).getD stint.sender }
  | .setReport report => .ok { stint with sender := stint.sender.setReport report }
  | .setBusy busy => .ok { stint with sender := stint.sender.setBusy busy }
  | .rewind => .ok (.start stint.sender.rewind)

/-- One thing after another is done to the sender. -/
def Stint.run (stint : Stint) : List Sender.Input → Except Fault Stint
  | [] => .ok stint
  | input :: inputs => (stint.perform input).bind fun after => after.run inputs

/-- It has payload, and it is sent for the first time. -/
def Sender.Emission.isFirst (emission : Sender.Emission) : Bool :=
  emission.carriesPayload && !emission.retransmission

/-- The first transmissions of packets with payload, the latest first. -/
def Sender.firsts : List Sender.Deed → List Sender.Emission
  | [] => []
  | .sent emission _ :: earlier =>
    if emission.isFirst then emission :: firsts earlier else firsts earlier
  | .acknowledged _ :: earlier => firsts earlier

/-- The first transmission that still waits for an acknowledgement with just the next number. -/
def Sender.unanswered? : List Sender.Deed → Option Sender.Emission
  | [] => none
  | .sent emission _ :: earlier => if emission.isFirst then some emission else unanswered? earlier
  | .acknowledged ack :: earlier =>
    (unanswered? earlier).filter fun emission => ack ≠ emission.packet.header.seq + 1

/-- The datagrams that packets up to the latest one complete, and what there is of the next one. -/
def Sender.spell : List Sender.Emission → List Bytes × Bytes
  | [] => ([], [])
  | emission :: earlier =>
    let soFar := (spell earlier).2 ++ emission.packet.payload
    if emission.packet.header.flags.unfinished then ((spell earlier).1, soFar)
    else ((spell earlier).1 ++ [soFar], [])

/-- It is the same fragment once more. What it tells the peer besides may be different. -/
structure Packet.Repeats (packet other : Packet) : Prop where
  seq_eq : packet.header.seq = other.header.seq
  flags_eq : packet.header.flags = other.header.flags
  payload_eq : packet.payload = other.payload

/-- What a packet that was asked for with this limit owes to all that was done before it. -/
structure Sender.Emission.Fits (emission : Sender.Emission) (limit : Nat)
    (earlier : List Sender.Deed) : Prop where
  numbered : emission.isFirst →
    emission.packet.header.seq = UInt8.ofNat (Sender.firsts earlier).length
  answered : emission.isFirst → Sender.unanswered? earlier = none
  sized : emission.isFirst →
    if emission.packet.header.flags.unfinished then emission.packet.payload.length = limit
    else emission.packet.payload ≠ [] ∧ emission.packet.payload.length ≤ limit
  repeats : emission.retransmission →
    ∃ first, (Sender.firsts earlier).head? = some first ∧ emission.packet.Repeats first.packet

/-- Every packet fits what was done before it. -/
def Sender.Orderly (deeds : List Sender.Deed) : Prop :=
  ∀ emission limit earlier, .sent emission limit :: earlier <:+ deeds →
    emission.Fits limit earlier

/-- Every packet fits what was done before it, and together the first transmissions spell the
datagrams in order: some of them completely, and of the next one a part that is not all of it. -/
structure Stint.Faithful (stint : Stint) : Prop where
  orderly : Sender.Orderly stint.deeds
  spelled : ∃ rest, stint.datagrams = (Sender.spell (Sender.firsts stint.deeds)).1 ++ rest ∧
    (Sender.spell (Sender.firsts stint.deeds)).2 <+: rest.headD [] ∧
    ((Sender.spell (Sender.firsts stint.deeds)).2 = [] ∨
      (Sender.spell (Sender.firsts stint.deeds)).2.length < (rest.headD []).length)

/-- How much of these datagrams was sent, if so many bytes were sent of the one in front of the
queue. That one stays in the queue until its end is acknowledged. -/
def sentSoFar (removed queue : List Bytes) (sent : Nat) : List Bytes × Bytes :=
  if sent < (queue.headD []).length then (removed, (queue.headD []).take sent)
  else (removed ++ queue.take 1, [])

/-- The course is where these deeds lead to, and the outstanding packet, if there is one, was cut
with this limit. -/
structure Course.Results (course : Course) (limit : Nat) (queue datagrams : List Bytes)
    (deeds : List Sender.Deed) : Prop where
  regular : course.Regular limit queue
  positive : 0 < limit
  small : limit < UInt16.size
  numbered : course.nextSeq = UInt8.ofNat (Sender.firsts deeds).length
  idle : course.outstanding = none → Sender.unanswered? deeds = none
  busy : ∀ seq length flags, course.outstanding = some (seq, length, flags) →
    ∃ first, Sender.unanswered? deeds = some first ∧ (Sender.firsts deeds).head? = some first ∧
      first.packet.header.seq = seq ∧ first.packet.header.flags = flags ∧
      first.packet.payload = ((queue.headD []).drop course.acked).take length
  spelled : ∃ removed, datagrams = removed ++ queue ∧
    Sender.spell (Sender.firsts deeds) = sentSoFar removed queue course.sent
  orderly : Sender.Orderly deeds

section deeds

variable {emission : Sender.Emission} {limit : Nat} {earlier : List Sender.Deed}

theorem Sender.firsts_sent_first (first : emission.isFirst = true) :
    firsts (.sent emission limit :: earlier) = emission :: firsts earlier := by
  rw [firsts, if_pos first]

theorem Sender.firsts_sent_other (other : emission.isFirst = false) :
    firsts (.sent emission limit :: earlier) = firsts earlier := by
  rw [firsts, if_neg (Bool.eq_false_iff.mp other)]

theorem Sender.unanswered?_sent_first (first : emission.isFirst = true) :
    unanswered? (.sent emission limit :: earlier) = some emission := by
  rw [unanswered?, if_pos first]

theorem Sender.unanswered?_sent_other (other : emission.isFirst = false) :
    unanswered? (.sent emission limit :: earlier) = unanswered? earlier := by
  rw [unanswered?, if_neg (Bool.eq_false_iff.mp other)]

theorem Sender.Orderly.sent (orderly : Sender.Orderly earlier) (fits : emission.Fits limit earlier) :
    Sender.Orderly (.sent emission limit :: earlier) := by
  intro other given before suffix
  rcases List.suffix_cons_iff.mp suffix with same | old
  · cases same
    exact fits
  · exact orderly other given before old

theorem Sender.Orderly.acknowledged (orderly : Sender.Orderly earlier) (ack : UInt8) :
    Sender.Orderly (.acknowledged ack :: earlier) := by
  intro other given before suffix
  rcases List.suffix_cons_iff.mp suffix with same | old
  · cases same
  · exact orderly other given before old

end deeds

/-- While nothing is outstanding, the limit may as well be another one. -/
theorem Course.Regular.of_idle {course : Course} {limit : Nat} {queue : List Bytes}
    (regular : course.Regular limit queue) (idle : course.outstanding = none) (other : Nat) :
    course.Regular other queue := by
  refine ⟨regular.holds, regular.nonempty, regular.within, regular.idle, ?_⟩
  intro seq length flags held
  cases idle.symm.trans held

theorem sentSoFar_zero {queue : List Bytes} (nonempty : ∀ datagram ∈ queue, datagram ≠ [])
    (removed : List Bytes) : sentSoFar removed queue 0 = (removed, []) := by
  unfold sentSoFar
  cases queue with
  | nil => simp
  | cons front rest =>
    have positive := List.length_pos_iff.mpr (nonempty front (List.mem_cons_self ..))
    rw [List.headD_cons, if_pos positive, List.take_zero]

section steps

variable {sender after : Sender} {limit : Nat} {queue datagrams : List Bytes}
  {deeds : List Sender.Deed}

/-- While the queue is empty, nothing is sent. -/
theorem Course.Regular.sent_eq_zero {course : Course} (regular : course.Regular limit []) :
    course.sent = 0 := by
  have idle : course.outstanding = none := by
    cases held : course.outstanding with
    | none => rfl
    | some extent =>
      obtain ⟨seq, length, flags⟩ := extent
      exact absurd rfl (regular.busy seq length flags held).1
  rcases regular.within with zero | inside
  · exact (regular.idle idle).trans zero
  · exact absurd inside (Nat.not_lt_zero _)

theorem Sender.results_enqueue {datagram : Bytes}
    (results : sender.course.Results limit queue datagrams deeds) (nonempty : datagram ≠ [])
    (queued : sender.enqueue datagram = .ok after) :
    after.course.Results limit (queue ++ [datagram]) (datagrams ++ [datagram]) deeds := by
  have regular := (Sender.regular_enqueue results.regular nonempty queued).1
  obtain ⟨slots, _, rfl⟩ := Sender.of_enqueue queued
  obtain ⟨removed, same, spelled⟩ := results.spelled
  refine ⟨regular, results.positive, results.small, results.numbered, results.idle, ?_, ?_,
    results.orderly⟩
  · intro seq length flags held
    have waiting := (results.regular.busy seq length flags held).1
    obtain ⟨first, found⟩ := results.busy seq length flags held
    cases queue with
    | nil => exact absurd rfl waiting
    | cons front rest => exact ⟨first, found⟩
  · refine ⟨removed, by rw [same, List.append_assoc], ?_⟩
    cases queue with
    | nil =>
      have start := results.regular.sent_eq_zero
      have startToo : Course.sent (Sender.course { sender with queue := slots }) = 0 := start
      rw [spelled, start, startToo, sentSoFar_zero results.regular.nonempty,
        sentSoFar_zero regular.nonempty]
    | cons front rest => exact spelled

/-- Where the acknowledgement of the outstanding packet leads to: on in the front datagram, or to the
next one if this was the end of it. -/
theorem Sender.course_covered {packet : Outstanding} {ack : UInt8}
    (regular : sender.course.Regular limit queue) (held : sender.outstanding = some packet)
    (covers : ack = packet.seq + 1) :
    (sender.acknowledge ack).2.course.outstanding = none ∧
      (sender.acknowledge ack).2.course.nextSeq = sender.course.nextSeq ∧
      ((sender.acknowledge ack).2.course.Regular limit queue ∧
          (sender.acknowledge ack).2.course.acked = sender.course.sent ∨
        (sender.acknowledge ack).2.course.Regular limit queue.tail ∧
          (sender.acknowledge ack).2.course.acked = 0 ∧
          (queue.headD []).length ≤ sender.course.sent) := by
  have extent := Sender.extent_of_outstanding held
  obtain ⟨waiting, _, length, _, sent⟩ := regular.busy _ _ _ extent
  have inside := regular.within_of_ne_nil waiting
  have idle : (sender.acknowledge ack).2.course.outstanding = none ∧
      (sender.acknowledge ack).2.course.nextSeq = sender.course.nextSeq := by
    rcases sender.of_acknowledge ack with ⟨_, _, unrelated⟩ | ⟨_, _, _, _, _, _, _, _, state⟩
    · exact absurd covers (unrelated packet held)
    · rw [state]
      exact ⟨rfl, rfl⟩
  refine ⟨idle.1, idle.2, ?_⟩
  have acknowledged : sender.acknowledge ack =
      ((sender.acknowledge ack).1, (sender.acknowledge ack).2) := rfl
  have acked : sender.course.acked = sender.acked := rfl
  rcases Sender.course_acknowledge regular acknowledged with unchanged | ⟨_, _, moved⟩
  · rw [unchanged, extent] at idle
    cases idle.1
  · split at moved
    · obtain ⟨after, cursor⟩ := moved
      refine Or.inl ⟨after, (congrArg Cursor.acked cursor).trans ?_⟩
      dsimp only
      omega
    · obtain ⟨after, cursor⟩ := moved
      exact Or.inr ⟨after, congrArg Cursor.acked cursor, by omega⟩

/-- An acknowledgement is counted just if it is the one that is waited for. -/
theorem Sender.results_acknowledge (results : sender.course.Results limit queue datagrams deeds)
    (ack : UInt8) :
    ∃ queue', (sender.acknowledge ack).2.course.Results limit queue' datagrams
      (.acknowledged ack :: deeds) := by
  have orderly := results.orderly.acknowledged ack
  rcases sender.of_acknowledge ack with ⟨_, same, unrelated⟩ | ⟨_, packet, _, _, _, held, covers, _⟩
  · rw [same]
    refine ⟨queue, results.regular, results.positive, results.small, results.numbered, ?_, ?_,
      results.spelled, orderly⟩
    · intro idle
      rw [Sender.unanswered?, results.idle idle]
      rfl
    · intro seq length flags outstanding
      obtain ⟨first, waits, latest, number, rest⟩ := results.busy seq length flags outstanding
      refine ⟨first, ?_, latest, number, rest⟩
      obtain ⟨packet, held, extent⟩ := Option.map_eq_some_iff.mp outstanding
      have other : ack ≠ first.packet.header.seq + 1 := by
        cases extent
        rw [number]
        exact unrelated packet held
      rw [Sender.unanswered?, waits, Option.filter_some, if_pos (decide_eq_true other)]
  · obtain ⟨first, waits, _, number, _⟩ := results.busy _ _ _ (Sender.extent_of_outstanding held)
    obtain ⟨removed, same, spelled⟩ := results.spelled
    obtain ⟨idle, nextSeq, moved⟩ := Sender.course_covered results.regular held covers
    generalize (sender.acknowledge ack).2.course = course at idle nextSeq moved ⊢
    have answered : Sender.unanswered? (.acknowledged ack :: deeds) = none := by
      rw [Sender.unanswered?, waits, Option.filter_some, number, covers]
      simp
    have settled : ∀ {p : Prop} {seq length flags}, course.outstanding = some (seq, length, flags) → p :=
      fun outstanding => nomatch idle.symm.trans outstanding
    rcases moved with ⟨regular, acked⟩ | ⟨regular, acked, whole⟩
    · refine ⟨queue, regular, results.positive, results.small, nextSeq.trans results.numbered,
        fun _ => answered, fun _ _ _ => settled, ⟨removed, same, ?_⟩, orderly⟩
      rw [regular.idle idle, acked]
      exact spelled
    · refine ⟨queue.tail, regular, results.positive, results.small, nextSeq.trans results.numbered,
        fun _ => answered, fun _ _ _ => settled, ⟨removed ++ queue.take 1, ?_, ?_⟩, orderly⟩
      · rw [same, List.append_assoc, ← List.drop_one, List.take_append_drop]
      · rw [regular.idle idle, acked, sentSoFar_zero regular.nonempty]
        exact spelled.trans (if_neg (Nat.not_lt.mpr whole))

/-- A packet that is no first transmission changes only the record. -/
theorem Course.Results.sent_other {course : Course} {emission : Sender.Emission}
    (results : course.Results limit queue datagrams deeds) (other : emission.isFirst = false)
    (repeats : emission.retransmission →
      ∃ first, (Sender.firsts deeds).head? = some first ∧ emission.packet.Repeats first.packet)
    (given : Nat) :
    course.Results limit queue datagrams (.sent emission given :: deeds) := by
  have not : ∀ {p : Prop}, emission.isFirst = true → p :=
    fun first => nomatch other.symm.trans first
  have fits : emission.Fits given deeds := ⟨not, not, not, repeats⟩
  refine ⟨results.regular, results.positive, results.small, ?_, ?_, ?_, ?_, ?_⟩
  · rw [Sender.firsts_sent_other other]
    exact results.numbered
  · rw [Sender.unanswered?_sent_other other]
    exact results.idle
  · rw [Sender.unanswered?_sent_other other, Sender.firsts_sent_other other]
    exact results.busy
  · rw [Sender.firsts_sent_other other]
    exact results.spelled
  · exact results.orderly.sent fits

/-- A new fragment takes up where the ones before it ended. -/
theorem sentSoFar_add {removed : List Bytes} {sent : Nat} (inside : sent < (queue.headD []).length)
    (limit : Nat) :
    sentSoFar removed queue (sent + (((queue.headD []).drop sent).take limit).length) =
      if sent + limit < (queue.headD []).length then
        (removed, (sentSoFar removed queue sent).2 ++ ((queue.headD []).drop sent).take limit)
      else
        (removed ++ [(sentSoFar removed queue sent).2 ++ ((queue.headD []).drop sent).take limit],
          []) := by
  have before : sentSoFar removed queue sent = (removed, (queue.headD []).take sent) :=
    if_pos inside
  have whole : (queue.headD []).take sent ++ ((queue.headD []).drop sent).take limit =
      (queue.headD []).take (sent + limit) := List.take_add.symm
  rw [before, whole, List.length_take, List.length_drop]
  split
  · rename_i more
    rw [sentSoFar, if_pos (by omega), Nat.min_eq_left (by omega)]
  · rename_i ends
    have all : (queue.headD []).take (sent + limit) = queue.headD [] :=
      List.take_of_length_le (Nat.not_lt.mp ends)
    rw [sentSoFar, if_neg (by omega), all]
    cases queue with
    | nil => exact absurd inside (Nat.not_lt_zero _)
    | cons front rest => rfl

/-- A first transmission has the next number, continues what was spelled so far, and nothing before it
is unanswered. -/
theorem Sender.results_first {ack : UInt8} {given : Nat} {emission : Sender.Emission}
    {unsent : Bytes} (results : sender.course.Results limit queue datagrams deeds)
    (positive : 0 < given) (small : given < UInt16.size) (idle : sender.outstanding = none)
    (left : sender.unsent? = some unsent)
    (first : sender.emitFragment ack given unsent = .ok (some (emission, after)))
    (sending : sender.next ack given = .ok (some (emission, after))) :
    after.course.Results given queue datagrams (.sent emission given :: deeds) := by
  have free := Sender.extent_of_idle idle
  -- nothing is outstanding that was cut with another limit
  have regular := results.regular.of_idle free given
  obtain ⟨level, inside, once, seq, flags, payload, course⟩ :=
    Sender.course_first regular idle left first
  have length := congrArg List.length payload
  rw [List.length_take, List.length_drop] at length
  have nonempty : emission.packet.payload ≠ [] := by
    rw [← List.length_pos_iff]
    omega
  have isFirst : emission.isFirst = true := by
    rw [Sender.Emission.isFirst, (Sender.carriesPayload_of_next sending).mpr nonempty, once]
    rfl
  have fits : emission.Fits given deeds := by
    refine ⟨fun _ => seq.trans results.numbered, fun _ => results.idle free, fun _ => ?_,
      fun repeated => nomatch once.symm.trans repeated⟩
    rw [flags]
    split
    · rename_i more
      have more : sender.acked + given < (queue.headD []).length := of_decide_eq_true more
      omega
    · exact ⟨nonempty, by omega⟩
  refine ⟨(Sender.regular_next regular sending).1, positive, small, ?_, ?_, ?_, ?_,
    results.orderly.sent fits⟩
  · rw [course, Sender.firsts_sent_first isFirst, List.length_cons, UInt8.ofNat_add]
    exact congrArg (· + 1) results.numbered
  · rw [course]
    intro idle
    cases idle
  · rw [course, Sender.unanswered?_sent_first isFirst, Sender.firsts_sent_first isFirst]
    intro number length shape outstanding
    cases outstanding
    refine ⟨emission, rfl, rfl, seq, rfl, ?_⟩
    rw [payload, List.length_take]
    exact List.take_eq_take_min
  · obtain ⟨removed, same, spelled⟩ := results.spelled
    have before : sentSoFar removed queue sender.acked =
      (removed, (queue.headD []).take sender.acked) := if_pos inside
    refine ⟨removed, same, ?_⟩
    rw [course, Sender.firsts_sent_first isFirst, Sender.spell, spelled, level, flags, payload]
    refine Eq.trans ?_ (sentSoFar_add inside given).symm
    simp only [before, decide_eq_true_eq]

/-- What a sender emits, whatever the limit is by now, and what comes of it. -/
theorem Sender.results_next {ack : UInt8} {given : Nat} {emission : Sender.Emission}
    (results : sender.course.Results limit queue datagrams deeds) (positive : 0 < given)
    (small : given < UInt16.size)
    (sending : sender.next ack given = .ok (some (emission, after))) :
    ∃ limit', after.course.Results limit' queue datagrams (.sent emission given :: deeds) := by
  have carries := Sender.carriesPayload_of_next sending
  rcases Sender.next_cases sending with news | ⟨packet, payload, held, cut, again⟩ |
    ⟨unsent, idle, left, first⟩
  · obtain ⟨same, _, _, _, _, empty⟩ := Sender.emit_packet news
    obtain ⟨_, once, _⟩ := Sender.of_emit news
    have other : emission.isFirst = false := by
      rw [Sender.Emission.isFirst, Bool.eq_false_iff.mpr fun carried => carries.mp carried empty]
      rfl
    rw [same]
    exact ⟨limit, results.sent_other other (fun repeated => nomatch once.symm.trans repeated) given⟩
  · obtain ⟨same, _, _, flags, seq, bytes⟩ := Sender.emit_packet again
    obtain ⟨_, repeated, _⟩ := Sender.of_emit again
    have other : emission.isFirst = false := by
      rw [Sender.Emission.isFirst, repeated, Bool.not_true, Bool.and_false]
    obtain ⟨first, _, latest, number, sameFlags, content⟩ :=
      results.busy _ _ _ (Sender.extent_of_outstanding held)
    have slice := (Sender.heldPayload_ok results.regular held).2.2.symm.trans cut
    rw [same.trans (Sender.course_sentAgain held)]
    refine ⟨limit, results.sent_other other (fun _ => ⟨first, latest, seq.trans number.symm,
      flags.trans sameFlags.symm, bytes.trans ?_⟩) given⟩
    exact (Except.ok.inj slice).symm.trans content.symm
  · exact ⟨given, Sender.results_first results positive small idle left first sending⟩

/-- The limit counts only for a first transmission. -/
theorem Sender.next_ok_of_results {given : Nat}
    (results : sender.course.Results limit queue datagrams deeds) (small : given < UInt16.size)
    (ack : UInt8) : ∃ result, sender.next ack given = .ok result := by
  cases held : sender.outstanding with
  | none =>
    exact Sender.next_ok (results.regular.of_idle (Sender.extent_of_idle held) given) small ack
  | some packet =>
    obtain ⟨result, sending⟩ := Sender.next_ok results.regular results.small ack
    refine ⟨result, Eq.trans ?_ sending⟩
    simp only [Sender.next, held]

end steps

/-- The deeds of the stint have led to where it is. -/
def Stint.Steady (stint : Stint) : Prop :=
  ∃ limit queue, stint.sender.course.Results limit queue stint.datagrams stint.deeds

section runs

variable {stint : Stint} {capacity : Nat} {initial : Sender}

/-- A sender that has sent nothing has all that is queued before it. -/
theorem Stint.steady_start {sender : Sender} {limit : Nat} {queue : List Bytes}
    (regular : sender.course.Regular limit queue) (idle : sender.course.outstanding = none)
    (number : sender.course.nextSeq = 0) (unsent : sender.course.sent = 0) (positive : 0 < limit)
    (small : limit < UInt16.size) : (Stint.start sender).Steady := by
  have queued : sender.queue.toList = queue := regular.holds.toList_eq
  refine ⟨limit, queue, regular, positive, small, number, fun _ => rfl, ?_,
    ⟨[], queued, ?_⟩, ?_⟩
  · intro seq length flags held
    cases idle.symm.trans held
  · rw [Stint.start, unsent, sentSoFar_zero regular.nonempty]
    rfl
  · intro emission limit earlier suffix
    cases List.suffix_nil.mp suffix

theorem Stint.steady_ofCapacity (made : Sender.ofCapacity capacity = .ok initial) :
    (Stint.start initial).Steady := by
  have regular : initial.course.Regular 1 [] := (Sender.regular_ofCapacity made).1
  obtain ⟨queue, _, rfl⟩ := Sender.of_ofCapacity made
  exact Stint.steady_start regular rfl rfl rfl Nat.one_pos (by decide)

theorem Stint.Steady.rewind (steady : stint.Steady) : (Stint.start stint.sender.rewind).Steady := by
  obtain ⟨limit, queue, results⟩ := steady
  have regular : stint.sender.rewind.course.Regular limit queue :=
    (Sender.regular_rewind results.regular).1
  exact Stint.steady_start regular rfl rfl rfl results.positive results.small

/-- Whatever does not touch the course leaves the record as it is. -/
theorem Stint.Steady.of_course (steady : stint.Steady) {after : Sender}
    (same : after.course = stint.sender.course) : Stint.Steady { stint with sender := after } := by
  obtain ⟨limit, queue, results⟩ := steady
  exact ⟨limit, queue, same ▸ results⟩

/-- Whatever is done to a sender is answered, and its record keeps to the rules. -/
theorem Stint.Steady.perform (steady : stint.Steady) {input : Sender.Input}
    (proper : input.Proper) : ∃ after, stint.perform input = .ok after ∧ after.Steady := by
  cases input with
  | enqueue datagram =>
    cases queued : stint.sender.enqueue datagram with
    | error => exact ⟨stint, by simp only [Stint.perform, queued], steady⟩
    | ok after =>
      obtain ⟨limit, queue, results⟩ := steady
      refine ⟨⟨after, stint.datagrams ++ [datagram], stint.deeds⟩, ?_, limit, queue ++ [datagram],
        Sender.results_enqueue results proper queued⟩
      simp only [Stint.perform, queued]
  | next ack given =>
    obtain ⟨limit, queue, results⟩ := steady
    obtain ⟨result, sending⟩ := Sender.next_ok_of_results results proper.2 ack
    cases result with
    | none => exact ⟨stint, by simp only [Stint.perform, sending], limit, queue, results⟩
    | some result =>
      obtain ⟨emission, after⟩ := result
      obtain ⟨cut, emitted⟩ := Sender.results_next results proper.1 proper.2 sending
      refine ⟨⟨after, stint.datagrams, .sent emission given :: stint.deeds⟩, ?_, cut, queue,
        emitted⟩
      simp only [Stint.perform, sending]
  | acknowledge ack =>
    obtain ⟨limit, queue, results⟩ := steady
    obtain ⟨rest, acknowledged⟩ := Sender.results_acknowledge results ack
    exact ⟨_, rfl, limit, rest, acknowledged⟩
  | owe immediate => exact ⟨_, rfl, steady.of_course (stint.sender.course_owe immediate)⟩
  | ackOverdue => exact ⟨_, rfl, steady.of_course stint.sender.course_ackOverdue⟩
  | resend => exact ⟨_, rfl, steady.of_course stint.sender.course_resend⟩
  | timeOut =>
    refine ⟨_, rfl, steady.of_course ?_⟩
    cases timedOut : stint.sender.timeOut? with
    | none => rfl
    | some result => exact Sender.course_of_timeOut timedOut
  | setReport report => exact ⟨_, rfl, steady.of_course rfl⟩
  | setBusy busy => exact ⟨_, rfl, steady.of_course rfl⟩
  | rewind => exact ⟨_, rfl, steady.rewind⟩

theorem Stint.Steady.run (steady : stint.Steady) {inputs : List Sender.Input}
    (proper : ∀ input ∈ inputs, input.Proper) :
    ∃ after, stint.run inputs = .ok after ∧ after.Steady := by
  induction inputs generalizing stint with
  | nil => exact ⟨stint, rfl, steady⟩
  | cons input inputs ih =>
    obtain ⟨middle, performed, steadyStill⟩ := steady.perform (proper input (List.mem_cons_self ..))
    obtain ⟨after, ran, last⟩ :=
      ih steadyStill fun other member => proper other (List.mem_cons_of_mem _ member)
    refine ⟨after, ?_, last⟩
    rw [Stint.run, performed]
    exact ran

theorem Stint.Steady.faithful (steady : stint.Steady) : stint.Faithful := by
  obtain ⟨limit, queue, results⟩ := steady
  obtain ⟨removed, same, spelled⟩ := results.spelled
  refine ⟨results.orderly, ?_⟩
  rw [spelled, sentSoFar]
  split
  · rename_i inside
    refine ⟨queue, same, List.take_prefix .., Or.inr ?_⟩
    rwa [List.length_take_of_le (Nat.le_of_lt inside)]
  · refine ⟨queue.drop 1, ?_, List.nil_prefix, Or.inl rfl⟩
    rw [same, List.append_assoc, List.take_append_drop]

/-- Whatever is done to a new sender, in any order and with any limits: since it started over last,
it has sent its datagrams faithfully. -/
theorem Stint.faithful_of_run (made : Sender.ofCapacity capacity = .ok initial)
    {inputs : List Sender.Input} (proper : ∀ input ∈ inputs, input.Proper) :
    ∃ stint, (Stint.start initial).run inputs = .ok stint ∧ stint.Faithful := by
  obtain ⟨stint, ran, steady⟩ := (Stint.steady_ofCapacity made).run proper
  exact ⟨stint, ran, steady.faithful⟩

end runs

/-- Two datagrams under changing limits. The first one starts over once, and then its first fragment
is sent twice. -/
theorem faithful_under_changing_limits :
    let inputs : List Sender.Input := [
      .enqueue [1, 2, 3], .enqueue [4], .next 0 1, .acknowledge 1, .setBusy false, .rewind,
      .next 0 2, .timeOut, .setBusy false, .next 0 1, .acknowledge 1, .setBusy false,
      .next 0 9, .acknowledge 2, .setBusy false, .next 0 1]
    ∃ initial stint, Sender.ofCapacity 2 = .ok initial ∧ (∀ input ∈ inputs, input.Proper) ∧
      (Stint.start initial).run inputs = .ok stint ∧ stint.Faithful ∧
      Sender.spell (Sender.firsts stint.deeds) = ([[1, 2, 3], [4]], []) ∧
      stint.deeds.length = 6 := by
  intro inputs
  have proper : ∀ input ∈ inputs, input.Proper := by decide
  have leads : ((Sender.ofCapacity 2).bind fun initial => (Stint.start initial).run inputs).map
      (fun stint => (Sender.spell (Sender.firsts stint.deeds), stint.deeds.length)) =
        .ok (([[1, 2, 3], [4]], []), 6) := by decide +kernel
  cases made : Sender.ofCapacity 2 with
  | error => rw [made] at leads; cases leads
  | ok initial =>
    obtain ⟨stint, ran, faithful⟩ := Stint.faithful_of_run made proper
    rw [made, Except.bind, ran] at leads
    obtain ⟨spelled, count⟩ := Prod.mk.inj (Except.ok.inj leads)
    exact ⟨initial, stint, rfl, proper, ran, faithful, spelled, count⟩

end DatagramLink
