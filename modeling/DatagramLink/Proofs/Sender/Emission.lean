import DatagramLink.Proofs.Sender.Course

namespace DatagramLink

theorem Packet.of_build {flags : Flags} {code : PacketCode} {ack seq : UInt8} {payload : Bytes}
    {packet : Packet} (built : Packet.build flags code ack seq payload = .ok packet) :
    packet.header.flags = flags ∧ packet.header.code = code ∧ packet.header.ack = ack ∧
      packet.header.seq = seq ∧ packet.payload = payload := by
  unfold Packet.build at built
  cases narrowed : narrow16 payload.length with
  | error => rw [narrowed] at built; cases built
  | ok length => rw [narrowed] at built; cases built; exact ⟨rfl, rfl, rfl, rfl, rfl⟩

/-- The three kinds of packets a sender emits, and what calls for each of them. -/
theorem Sender.next_causes {sender after : Sender} {ack : UInt8} {limit : Nat}
    {emission : Sender.Emission}
    (sending : sender.next ack limit = .ok (some (emission, after))) :
    sender.hasNews = true ∧ (∀ packet, sender.outstanding = some packet → packet.resend = false) ∧
      sender.emit ack .clear sender.sentSeq [] false = .ok (some (emission, after)) ∨
    (∃ packet payload, sender.outstanding = some packet ∧ packet.resend = true ∧
      sender.heldPayload packet = .ok payload ∧
      Sender.emit { sender with outstanding := some { packet with resend := false } } ack
        packet.flags packet.seq payload true = .ok (some (emission, after))) ∨
    ∃ unsent, sender.outstanding = none ∧ sender.unsent? = some unsent ∧
      sender.emitFragment ack limit unsent = .ok (some (emission, after)) := by
  unfold Sender.next at sending
  split at sending
  · cases sending
  · split at sending
    · rename_i packet held
      split at sending
      · rename_i again
        obtain ⟨payload, slice, sent⟩ := Sender.of_emitAgain sending
        exact Or.inr (Or.inl ⟨packet, payload, held, again, slice, sent⟩)
      · rename_i once
        obtain ⟨news, sent⟩ := Sender.of_emitNews sending
        refine Or.inl ⟨news, fun other same => ?_, sent⟩
        cases held.symm.trans same
        exact Bool.eq_false_iff.mpr once
    · rename_i idle
      split at sending
      · rename_i unsent left
        exact Or.inr (Or.inr ⟨unsent, idle, left, sending⟩)
      · obtain ⟨news, sent⟩ := Sender.of_emitNews sending
        refine Or.inl ⟨news, fun other same => ?_, sent⟩
        cases idle.symm.trans same

theorem Sender.next_cases {sender after : Sender} {ack : UInt8} {limit : Nat}
    {emission : Sender.Emission}
    (sending : sender.next ack limit = .ok (some (emission, after))) :
    sender.emit ack .clear sender.sentSeq [] false = .ok (some (emission, after)) ∨
    (∃ packet payload, sender.outstanding = some packet ∧ sender.heldPayload packet = .ok payload ∧
      Sender.emit { sender with outstanding := some { packet with resend := false } } ack
        packet.flags packet.seq payload true = .ok (some (emission, after))) ∨
    ∃ unsent, sender.outstanding = none ∧ sender.unsent? = some unsent ∧
      sender.emitFragment ack limit unsent = .ok (some (emission, after)) := by
  rcases Sender.next_causes sending with ⟨_, _, sent⟩ | ⟨packet, payload, held, _, cut, sent⟩ |
    fragment
  · exact Or.inl sent
  · exact Or.inr (Or.inl ⟨packet, payload, held, cut, sent⟩)
  · exact Or.inr (Or.inr fragment)

theorem Sender.emit_packet {sender after : Sender} {ack seq : UInt8} {flags : Flags}
    {payload : Bytes} {again : Bool} {emission : Sender.Emission}
    (sending : sender.emit ack flags seq payload again = .ok (some (emission, after))) :
    after.course = sender.course ∧ emission.packet.header.code.kind = .data ∧
      emission.packet.header.ack = ack ∧ emission.packet.header.flags = flags ∧
      emission.packet.header.seq = seq ∧ emission.packet.payload = payload := by
  obtain ⟨built, _, rfl⟩ := Sender.of_emit sending
  obtain ⟨flags, code, ack, seq, payload⟩ := Packet.of_build built
  exact ⟨rfl, congrArg PacketCode.kind code, ack, flags, seq, payload⟩

/-- Whatever kind of packet is emitted, it tells all there is to tell. -/
theorem Sender.of_next {sender after : Sender} {ack : UInt8} {limit : Nat}
    {emission : Sender.Emission}
    (sending : sender.next ack limit = .ok (some (emission, after))) :
    (∃ flags seq payload,
        Packet.build flags ⟨.data, sender.report⟩ ack seq payload = .ok emission.packet) ∧
      ∃ nextSeq sent outstanding, after = { sender with
        nextSeq, sent, outstanding
        sentAck := ack, acknowledgement := .settled, report := .none, busy := true } := by
  rcases Sender.next_cases sending with news | ⟨_, _, _, _, again⟩ | ⟨_, _, _, first⟩
  · obtain ⟨built, _, same⟩ := Sender.of_emit news
    exact ⟨⟨_, _, _, built⟩, _, _, _, same⟩
  · obtain ⟨built, _, same⟩ := Sender.of_emit again
    exact ⟨⟨_, _, _, built⟩, _, _, _, same⟩
  · obtain ⟨built, _, same⟩ := Sender.of_emit first
    exact ⟨⟨_, _, _, built⟩, _, _, _, same⟩

theorem Sender.queue_next {sender after : Sender} {ack : UInt8} {limit : Nat}
    {emission : Sender.Emission}
    (sending : sender.next ack limit = .ok (some (emission, after))) :
    after.queue = sender.queue := by
  obtain ⟨_, _, _, _, rfl⟩ := Sender.of_next sending
  rfl

/-- Whatever is emitted is a data packet with the acknowledgement it was given. -/
theorem Sender.kind_of_next {sender after : Sender} {ack : UInt8} {limit : Nat}
    {emission : Sender.Emission}
    (sending : sender.next ack limit = .ok (some (emission, after))) :
    emission.packet.header.code.kind = .data ∧ emission.packet.header.ack = ack := by
  obtain ⟨⟨_, _, _, built⟩, _⟩ := Sender.of_next sending
  obtain ⟨_, code, acked, _⟩ := Packet.of_build built
  exact ⟨congrArg PacketCode.kind code, acked⟩

theorem Sender.declared_of_next {sender after : Sender} {ack : UInt8} {limit : Nat}
    {emission : Sender.Emission}
    (sending : sender.next ack limit = .ok (some (emission, after))) :
    emission.packet.header.length.toNat = emission.packet.payload.length := by
  obtain ⟨⟨_, _, _, built⟩, _⟩ := Sender.of_next sending
  exact Packet.length_of_build built

theorem Sender.carriesPayload_of_next {sender after : Sender} {ack : UInt8} {limit : Nat}
    {emission : Sender.Emission}
    (sending : sender.next ack limit = .ok (some (emission, after))) :
    emission.carriesPayload = true ↔ emission.packet.payload ≠ [] := by
  have declared := Sender.declared_of_next sending
  have zero : emission.packet.header.length = 0 ↔ emission.packet.header.length.toNat = 0 :=
    UInt16.toNat_inj.symm
  rw [Sender.Emission.carriesPayload, decide_eq_true_iff, ne_eq, zero, declared,
    List.length_eq_zero_iff]

/-- A packet of the stream never has the reset flag. -/
theorem Sender.unflagged_of_next {sender after : Sender} {ack : UInt8} {limit : Nat}
    {queue : List Bytes} {emission : Sender.Emission}
    (regular : sender.course.Regular limit queue)
    (sending : sender.next ack limit = .ok (some (emission, after))) :
    emission.packet.header.flags.reset = false := by
  rcases Sender.next_cases sending with sent | ⟨packet, _, held, _, sent⟩ | ⟨_, _, _, sent⟩
  · rw [(Sender.emit_packet sent).2.2.2.1]
    rfl
  · obtain ⟨_, _, _, flags, _⟩ := regular.busy _ _ _ (Sender.extent_of_outstanding held)
    rw [(Sender.emit_packet sent).2.2.2.1, flags]
  · rw [(Sender.emit_packet sent).2.2.2.1]

theorem Fragment.of_ofPacket? {packet : Packet} {fragment : Fragment}
    (carried : Fragment.ofPacket? packet = some fragment) :
    fragment.seq = packet.header.seq ∧ fragment.unfinished = packet.header.flags.unfinished ∧
      fragment.bytes = packet.payload := by
  unfold Fragment.ofPacket? at carried
  split at carried
  · cases carried
    exact ⟨rfl, rfl, rfl⟩
  · cases carried

theorem Fragment.ofPacket?_of_nil {packet : Packet} (empty : packet.payload = []) :
    Fragment.ofPacket? packet = none := by
  unfold Fragment.ofPacket?
  exact dif_neg (not_not.mpr empty)

/-- A packet carries no more than one fragment may. -/
theorem Cursor.length_payload_le {cursor : Cursor} {limit : Nat} {front : Bytes} {packet : Packet}
    (yields : ∀ fragment, Fragment.ofPacket? packet = some fragment →
      cursor.Yields limit front fragment) : packet.payload.length ≤ limit := by
  cases carried : Fragment.ofPacket? packet with
  | none =>
    by_cases empty : packet.payload = []
    · rw [empty]
      exact Nat.zero_le limit
    · rw [Fragment.ofPacket?, dif_pos empty] at carried
      cases carried
  | some fragment =>
    rw [← (Fragment.of_ofPacket? carried).2.2, (yields fragment carried).bytes_eq]
    exact List.length_take_le ..

theorem eq_of_slice {bytes part : Bytes} {start length : Nat}
    (cut : slice bytes start length = .ok part) : part = (bytes.drop start).take length := by
  unfold slice at cut
  split at cut
  · cases cut
    rfl
  · cases cut

theorem Course.Regular.front_ne_nil {course : Course} {limit : Nat} {queue : List Bytes}
    (regular : course.Regular limit queue) (waiting : queue ≠ []) : queue.headD [] ≠ [] := by
  cases queue with
  | nil => exact absurd rfl waiting
  | cons front rest => exact regular.nonempty front (List.mem_cons_self ..)

/-- A retransmission repeats the fragment at the cursor. -/
theorem Sender.yields_of_held {sender : Sender} {limit : Nat} {queue : List Bytes}
    {packet : Outstanding} {payload : Bytes} {fragment : Fragment}
    (regular : sender.course.Regular limit queue) (held : sender.outstanding = some packet)
    (cut : sender.heldPayload packet = .ok payload) (seq : fragment.seq = packet.seq)
    (unfinished : fragment.unfinished = packet.flags.unfinished)
    (bytes : fragment.bytes = payload) :
    sender.course.cursor.Yields limit (queue.headD []) fragment := by
  have extent := Sender.extent_of_outstanding held
  obtain ⟨waiting, _, length, flags, _⟩ := regular.busy _ _ _ extent
  have front : sender.queue.front? = some (queue.headD []) := regular.front?_eq waiting
  refine ⟨regular.front_ne_nil waiting, ?_, ?_, ?_⟩
  · simp only [seq, Course.cursor, extent, Option.map_some, Option.getD_some]
  · rw [unfinished, flags]
    rfl
  · have extended : packet.length = min limit ((queue.headD []).drop sender.acked).length := by
      rw [List.length_drop]
      exact length
    simp only [Sender.heldPayload, front] at cut
    rw [bytes, eq_of_slice cut, extended, ← List.take_eq_take_min]
    rfl

theorem Sender.unsent_of_idle {sender : Sender} {limit : Nat} {queue : List Bytes} {unsent : Bytes}
    (regular : sender.course.Regular limit queue) (idle : sender.outstanding = none)
    (left : sender.unsent? = some unsent) :
    queue ≠ [] ∧ sender.sent = sender.acked ∧ unsent = (queue.headD []).drop sender.acked := by
  have level : sender.sent = sender.acked := regular.idle (Sender.extent_of_idle idle)
  have front : sender.queue.front? = queue.head? := regular.holds.front?_eq
  unfold Sender.unsent? at left
  cases queue with
  | nil =>
    rw [front] at left
    cases left
  | cons datagram rest =>
    simp only [front, List.head?_cons] at left
    split at left
    · cases left
      exact ⟨List.cons_ne_nil _ _, level, by rw [level]; rfl⟩
    · cases left

/-- A first transmission: what stands behind the acknowledged part of the front datagram, cut to the
limit, goes out under the next number and is outstanding from then on. -/
theorem Sender.course_first {sender after : Sender} {limit : Nat} {queue : List Bytes} {ack : UInt8}
    {emission : Sender.Emission} {unsent : Bytes} (regular : sender.course.Regular limit queue)
    (idle : sender.outstanding = none) (left : sender.unsent? = some unsent)
    (sending : sender.emitFragment ack limit unsent = .ok (some (emission, after))) :
    sender.course.sent = sender.acked ∧ sender.acked < (queue.headD []).length ∧
      emission.retransmission = false ∧ emission.packet.header.seq = sender.nextSeq ∧
      emission.packet.header.flags = ⟨sender.acked + limit < (queue.headD []).length, false⟩ ∧
      emission.packet.payload = ((queue.headD []).drop sender.acked).take limit ∧
      after.course = { sender.course with
        nextSeq := sender.nextSeq + 1
        sent := sender.acked + emission.packet.payload.length
        outstanding := some (sender.nextSeq, emission.packet.payload.length,
          emission.packet.header.flags) } := by
  obtain ⟨waiting, level, rest⟩ := Sender.unsent_of_idle regular idle left
  obtain ⟨same, _, _, flags, seq, bytes⟩ := Sender.emit_packet sending
  obtain ⟨_, once, _⟩ := Sender.of_emit sending
  have more : ((unsent.take limit).length < unsent.length) =
      (sender.acked + limit < (queue.headD []).length) := by
    rw [List.length_take, rest, List.length_drop]
    exact propext (by omega)
  refine ⟨level, regular.within_of_ne_nil waiting, once, seq, ?_, rest ▸ bytes, ?_⟩
  · simp only [flags, more]
  · rw [same, bytes, flags, Sender.course, level]
    rfl

/-- Emitting leaves the cursor where it is, and the fragment emitted, if there is one, is the one
at the cursor. -/
theorem Sender.regular_next {sender after : Sender} {ack : UInt8} {limit : Nat}
    {queue : List Bytes} {emission : Sender.Emission}
    (regular : sender.course.Regular limit queue)
    (sending : sender.next ack limit = .ok (some (emission, after))) :
    after.course.Regular limit queue ∧ after.course.cursor = sender.course.cursor ∧
      ∀ fragment, Fragment.ofPacket? emission.packet = some fragment →
        sender.course.cursor.Yields limit (queue.headD []) fragment := by
  rcases Sender.next_cases sending with news | ⟨packet, payload, held, cut, again⟩ |
    ⟨unsent, idle, left, first⟩
  · obtain ⟨same, _, _, _, _, empty⟩ := Sender.emit_packet news
    rw [same, Fragment.ofPacket?_of_nil empty]
    exact ⟨regular, rfl, fun fragment carried => by cases carried⟩
  · obtain ⟨same, _, _, flags, seq, bytes⟩ := Sender.emit_packet again
    rw [same.trans (Sender.course_sentAgain held)]
    refine ⟨regular, rfl, fun fragment carried => ?_⟩
    obtain ⟨number, unfinished, content⟩ := Fragment.of_ofPacket? carried
    exact Sender.yields_of_held regular held cut (number.trans seq)
      (unfinished.trans (congrArg Flags.unfinished flags)) (content.trans bytes)
  · obtain ⟨waiting, _, _⟩ := Sender.unsent_of_idle regular idle left
    obtain ⟨_, _, _, seq, flags, payload, course⟩ := Sender.course_first regular idle left first
    have length := congrArg List.length payload
    rw [List.length_take, List.length_drop] at length
    have atCursor : sender.course.cursor = ⟨sender.nextSeq, sender.acked⟩ := by
      simp only [Course.cursor, Sender.extent_of_idle idle, Option.map_none, Option.getD_none]
      rfl
    refine ⟨?_, ?_, fun fragment carried => ?_⟩
    · rw [course]
      refine ⟨regular.holds, regular.nonempty, regular.within, ?_, ?_⟩
      · intro idle
        cases idle
      · intro number size shape outstanding
        cases outstanding
        exact ⟨waiting, rfl, length, flags, rfl⟩
    · rw [course, atCursor]
      rfl
    · obtain ⟨number, unfinished, content⟩ := Fragment.of_ofPacket? carried
      refine ⟨regular.front_ne_nil waiting, ?_, ?_, ?_⟩
      · rw [number, seq, atCursor]
      · rw [unfinished, flags, atCursor]
      · rw [content, payload, atCursor]

theorem Sender.emit_ok {sender : Sender} {ack seq : UInt8} {flags : Flags} {payload : Bytes}
    {again : Bool} (short : payload.length < UInt16.size) :
    ∃ result, sender.emit ack flags seq payload again = .ok result := by
  simp only [Sender.emit, Packet.build, narrow16_eq_ok short]
  exact ⟨_, rfl⟩

/-- The payload that is outstanding is still at the front of the queue. -/
theorem Sender.heldPayload_ok {sender : Sender} {limit : Nat} {queue : List Bytes}
    {packet : Outstanding} (regular : sender.course.Regular limit queue)
    (held : sender.outstanding = some packet) :
    sender.acked + packet.length ≤ (queue.headD []).length ∧ packet.length ≤ limit ∧
      sender.heldPayload packet =
        .ok (((queue.headD []).drop sender.acked).take packet.length) := by
  obtain ⟨waiting, _, length, _, _⟩ := regular.busy _ _ _ (Sender.extent_of_outstanding held)
  have front : sender.queue.front? = some (queue.headD []) := regular.front?_eq waiting
  have inside : sender.acked < (queue.headD []).length := regular.within_of_ne_nil waiting
  have extent : packet.length = min limit ((queue.headD []).length - sender.acked) := length
  have bound : sender.acked + packet.length ≤ (queue.headD []).length := by omega
  refine ⟨bound, by omega, ?_⟩
  simp only [Sender.heldPayload, front, slice_eq_ok bound]

/-- There is always an answer to what comes next, as long as payloads fit into their length
field. -/
theorem Sender.next_ok {sender : Sender} {limit : Nat} {queue : List Bytes}
    (regular : sender.course.Regular limit queue) (small : limit < UInt16.size) (ack : UInt8) :
    ∃ result, sender.next ack limit = .ok result := by
  have news : ∃ result, sender.emitNews ack = .ok result := by
    unfold Sender.emitNews
    split
    · exact Sender.emit_ok (by decide)
    · exact ⟨none, rfl⟩
  unfold Sender.next
  split
  · exact ⟨none, rfl⟩
  · split
    · rename_i packet held
      split
      · obtain ⟨_, within, cut⟩ := Sender.heldPayload_ok regular held
        simp only [Sender.emitAgain, cut]
        refine Sender.emit_ok ?_
        rw [List.length_take]
        omega
      · exact news
    · split
      · refine Sender.emit_ok ?_
        rw [List.length_take]
        omega
      · exact news

end DatagramLink
