import DatagramLink.Proofs.Framing.Grammar
import Mathlib.Data.List.Infix

namespace DatagramLink

/-- Bytes without a start delimiter among them. -/
def Idle (bytes : Bytes) : Prop := ¬ preamble <:+: bytes

instance : DecidablePred Idle := fun bytes => inferInstanceAs (Decidable (¬ preamble <:+: bytes))

theorem Idle.tail {first : UInt8} {rest : Bytes} (idle : Idle (first :: rest)) : Idle rest :=
  fun inside => idle (inside.trans (List.suffix_cons first rest).isInfix)

theorem Idle.not_delimiter {first second : UInt8} {rest : Bytes}
    (idle : Idle (first :: second :: rest)) : ¬ (first = 0x68 ∧ second = 0x43) := by
  rintro ⟨rfl, rfl⟩
  exact idle (List.prefix_append preamble rest).isInfix

theorem Idle.behindDelimiter?_eq {bytes : Bytes} (idle : Idle bytes) :
    behindDelimiter? bytes = none := by
  induction bytes with
  | nil => rfl
  | cons first others ih =>
    cases others with
    | nil => rfl
    | cons second others =>
      rw [behindDelimiter?, if_neg idle.not_delimiter]
      exact ih idle.tail

/-- The first delimiter behind idle bytes is the one that was put there, not one that begins with
the last of them. -/
theorem Idle.behindDelimiter?_append {filler : Bytes} (idle : Idle filler) (rest : Bytes) :
    behindDelimiter? (filler ++ (preamble ++ rest)) = some rest := by
  induction filler with
  | nil => rfl
  | cons first others ih =>
    have later := ih (idle.tail)
    cases others with
    | nil =>
      have notYet : ¬ (first = 0x68 ∧ (0x68 : UInt8) = 0x43) := fun both => by cases both.2
      simp only [List.cons_append, List.nil_append, preamble, behindDelimiter?,
        if_neg notYet] at later ⊢
      exact later
    | cons second others =>
      rw [List.cons_append, List.cons_append, behindDelimiter?, if_neg idle.not_delimiter]
      exact later

/-- The header declares the length of the payload, and the payload is accepted. -/
structure Packet.Framed (packet : Packet) (maxPayload : Nat) : Prop where
  declared : packet.header.length.toNat = packet.payload.length
  fits : packet.payload.length ≤ maxPayload

instance (packet : Packet) (maxPayload : Nat) : Decidable (packet.Framed maxPayload) :=
  decidable_of_iff (packet.header.length.toNat = packet.payload.length ∧
      packet.payload.length ≤ maxPayload)
    ⟨fun ⟨declared, fits⟩ => ⟨declared, fits⟩, fun framed => ⟨framed.declared, framed.fits⟩⟩

theorem Checksum.length_encode (checksum : Checksum) : checksum.encode.length = Checksum.size := rfl

theorem Packet.verdict_footer (packet : Packet) :
    Framer.verdict packet.header.encode packet.header packet.payload packet.footer.encode =
      .packet packet := if_pos rfl

/-- Behind its start delimiter a packet is read to its end, whether its checksum is right or not. -/
theorem Framer.absorbAll_frame {maxPayload : Nat} {raw payload footer unread : Bytes}
    {header : Header} (read : Header.decode raw = .ok (header, unread))
    (rawSize : raw.length = Header.size) (payloadSize : payload.length = header.length.toNat)
    (footerSize : footer.length = Checksum.size) (fits : payload.length ≤ maxPayload)
    (rest : Bytes) :
    Framer.absorbAll maxPayload (.header []) (raw ++ (payload ++ (footer ++ rest))) =
      let (last, events) := Framer.absorbAll maxPayload (.preamble false) rest
      (last, Framer.verdict raw header payload footer :: events) := by
  have whole : ¬ (raw ++ (payload ++ (footer ++ rest))).length < Header.size := by
    rw [List.length_append]
    omega
  have body : ¬ (payload ++ (footer ++ rest)).length <
      header.length.toNat + Checksum.size := by
    simp only [List.length_append]
    omega
  have accepted : ¬ maxPayload < header.length.toNat := by omega
  have behind : payload.length + footer.length = (payload ++ footer).length :=
    List.length_append.symm
  rw [Framer.absorbAll_header, if_neg whole, ← rawSize, List.take_left, List.drop_left,
    Framer.enter_accepted read accepted]
  dsimp only
  rw [Framer.absorbAll_complete maxPayload raw header body]
  simp only [← payloadSize, List.take_left, List.drop_left, Option.toList_none, List.nil_append]
  rw [← footerSize, behind, ← List.append_assoc, List.drop_left, List.take_left]

/-- Behind its start delimiter a packet is read as it was written. -/
theorem Framer.absorbAll_behind {maxPayload : Nat} {packet : Packet}
    (framed : packet.Framed maxPayload) (rest : Bytes) :
    Framer.absorbAll maxPayload (.header [])
        (packet.header.encode ++ (packet.payload ++ (packet.footer.encode ++ rest))) =
      let (last, events) := Framer.absorbAll maxPayload (.preamble false) rest
      (last, .packet packet :: events) := by
  have read := packet.header.decode_encode []
  rw [List.append_nil] at read
  rw [Framer.absorbAll_frame read packet.header.length_encode framed.declared.symm
    packet.footer.length_encode framed.fits, packet.verdict_footer]

/-- Between packets, idle bytes and the packet behind them give just that packet. -/
theorem Framer.absorbAll_encode {maxPayload : Nat} {packet : Packet} {filler : Bytes}
    (framed : packet.Framed maxPayload) (idle : Idle filler) (rest : Bytes) :
    Framer.absorbAll maxPayload (.preamble false) (filler ++ (packet.encode ++ rest)) =
      let (last, events) := Framer.absorbAll maxPayload (.preamble false) rest
      (last, .packet packet :: events) := by
  have written : packet.encode ++ rest = preamble ++ (packet.header.encode ++
      (packet.payload ++ (packet.footer.encode ++ rest))) := by
    simp only [Packet.encode, List.append_assoc]
  rw [written, Framer.absorbAll_found maxPayload (idle.behindDelimiter?_append _)]
  exact Framer.absorbAll_behind framed rest

/-- Idle bytes alone leave nothing behind but perhaps half a delimiter. -/
theorem Framer.absorbAll_idle (maxPayload : Nat) {filler : Bytes} (idle : Idle filler) :
    Framer.absorbAll maxPayload (.preamble false) filler =
      (.preamble (filler.getLast? = some 0x68), []) := by
  have seek := Framer.absorbAll_seek maxPayload false filler
  simp only [Bool.false_eq_true, if_false, idle.behindDelimiter?_eq] at seek
  exact seek

/-- A stream of packets, each with the bytes that follow it, behind some bytes at the start. -/
def padded (lead : Bytes) : List (Packet × Bytes) → Bytes
  | [] => lead
  | (packet, filler) :: others => lead ++ (packet.encode ++ padded filler others)

theorem Framer.absorbAll_padded {maxPayload : Nat} {lead : Bytes} {items : List (Packet × Bytes)}
    (idle : Idle lead) (sound : ∀ item ∈ items, item.1.Framed maxPayload ∧ Idle item.2) :
    ∃ half, Framer.absorbAll maxPayload (.preamble false) (padded lead items) =
      (.preamble half, items.map fun item => .packet item.1) := by
  induction items generalizing lead with
  | nil => exact ⟨_, Framer.absorbAll_idle maxPayload idle⟩
  | cons item others ih =>
    obtain ⟨packet, filler⟩ := item
    obtain ⟨⟨framed, idleBehind⟩, soundOthers⟩ := List.forall_mem_cons.mp sound
    obtain ⟨half, later⟩ := ih idleBehind soundOthers
    refine ⟨half, ?_⟩
    rw [padded, Framer.absorbAll_encode framed idle, later]
    rfl

/-- Wherever the stream is cut, a new framer reports the packets that were put into it, in order and
with nothing between them, and then it looks for the next start delimiter. -/
theorem Framer.feedAll_padded {maxPayload : Nat} {lead : Bytes} {items : List (Packet × Bytes)}
    (idle : Idle lead) (sound : ∀ item ∈ items, item.1.Framed maxPayload ∧ Idle item.2)
    {chunks : List Bytes} (cut : chunks.flatten = padded lead items) :
    ∃ half, (Framer.new maxPayload).feedAll chunks =
      (⟨maxPayload, .preamble half⟩, items.map fun item => .packet item.1) := by
  obtain ⟨half, absorbed⟩ := Framer.absorbAll_padded idle sound
  refine ⟨half, ?_⟩
  have unfinished : (Framer.new maxPayload).phase.Partial := trivial
  rw [Framer.feedAll_eq_absorbAll _ unfinished, cut]
  simp only [Framer.new, absorbed]

/-- Half a delimiter stands before the first packet, whose payload holds a whole one, and the chunks
are cut within the delimiters. -/
theorem feedAll_padded_halves :
    let first : Packet := ⟨⟨⟨true, false⟩, .plain, 0, 0, 3⟩, [0x68, 0x43, 0x68]⟩
    let second : Packet := ⟨⟨.clear, .plain, 0, 1, 0⟩, []⟩
    let items := [(first, [0x43, 0x68, 0x68]), (second, [0x68])]
    let stream := padded [0, 0x68] items
    (Idle [0, 0x68] ∧ ∀ item ∈ items, item.1.Framed 3 ∧ Idle item.2) ∧
      ∃ half, (Framer.new 3).feedAll [stream.take 3, stream.drop 3] =
        (⟨3, .preamble half⟩, [.packet first, .packet second]) := by
  intro first second items stream
  have idle : Idle [0, 0x68] := by decide
  have sound : ∀ item ∈ items, item.1.Framed 3 ∧ Idle item.2 := by decide
  have cut : [stream.take 3, stream.drop 3].flatten = stream := by
    simp only [List.flatten_cons, List.flatten_nil, List.append_nil, List.take_append_drop]
  exact ⟨⟨idle, sound⟩, Framer.feedAll_padded idle sound cut⟩

end DatagramLink
