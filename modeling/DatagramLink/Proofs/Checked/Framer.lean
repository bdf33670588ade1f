import DatagramLink.LinkParameters
import DatagramLink.Proofs.Checked.Basic
import DatagramLink.Proofs.Framing.Buffers

namespace DatagramLink

section records

/-- Reads a header field by field, once there are enough bytes. -/
def Header.decodeChecked (bytes : Bytes) : Checked (Except HeaderError (Header × Bytes)) :=
  if bytes.length < Header.size then return .error (.incomplete bytes.length)
  else do
    let (flagByte, bytes) ← Checked.next8 bytes
    match Flags.ofByte? flagByte with
    | none => return .error (.reservedFlags flagByte)
    | some flags =>
      let (codeByte, bytes) ← Checked.next8 bytes
      match PacketCode.ofByte codeByte with
      | .error error => return .error (.code error)
      | .ok code =>
        let (ack, bytes) ← Checked.next8 bytes
        let (seq, bytes) ← Checked.next8 bytes
        let (length, bytes) ← Checked.next16 bytes
        let (_, bytes) ← Checked.next16 bytes
        return .ok (⟨flags, code, ack, seq, length⟩, bytes)

theorem Header.exists_bytes {bytes : Bytes} (long : ¬ bytes.length < Header.size) :
    ∃ flagByte codeByte ack seq low high first second rest,
      bytes = flagByte :: codeByte :: ack :: seq :: low :: high :: first :: second :: rest := by
  match bytes with
  | flagByte :: codeByte :: ack :: seq :: low :: high :: first :: second :: rest =>
    exact ⟨flagByte, codeByte, ack, seq, low, high, first, second, rest, rfl⟩
  | [] | [_] | [_, _] | [_, _, _] | [_, _, _, _] | [_, _, _, _, _] | [_, _, _, _, _, _]
  | [_, _, _, _, _, _, _] => exact absurd (Nat.le_of_ble_eq_true rfl) long

theorem Header.decodeChecked_eq (bytes : Bytes) :
    Header.decodeChecked bytes = .ok (Header.decode bytes) := by
  unfold Header.decodeChecked
  split
  · rename_i short
    unfold Header.decode
    split
    · simp only [List.length_cons, Header.size] at short
      omega
    · rfl
  · rename_i long
    obtain ⟨flagByte, codeByte, ack, seq, low, high, first, second, rest, rfl⟩ :=
      Header.exists_bytes long
    simp only [Checked.next8, Checked.ok_bind, Header.decode]
    cases Flags.ofByte? flagByte with
    | none => rfl
    | some flags => cases PacketCode.ofByte codeByte <;> rfl

/-- Reads link parameters field by field, each within the bytes that are left. -/
def LinkParameters.decodeChecked (bytes : Bytes) :
    Checked (Except ParametersError (LinkParameters × Bytes)) :=
  if bytes.length < LinkParameters.size then return .error (.incomplete bytes.length)
  else do
    let (major, bytes) ← Checked.next8 bytes
    let (minor, bytes) ← Checked.next8 bytes
    let (patch, bytes) ← Checked.next16 bytes
    let (rxMtu, bytes) ← Checked.next16 bytes
    let (window, bytes) ← Checked.next16 bytes
    let (timeoutMilliseconds, bytes) ← Checked.next16 bytes
    return .ok (⟨⟨major, minor, patch⟩, rxMtu, window, timeoutMilliseconds⟩, bytes)

theorem LinkParameters.decodeChecked_eq (bytes : Bytes) :
    LinkParameters.decodeChecked bytes = .ok (LinkParameters.decode bytes) := by
  unfold LinkParameters.decodeChecked
  split
  · rename_i short
    unfold LinkParameters.decode
    split
    · simp only [List.length_cons, LinkParameters.size] at short
      omega
    · rfl
  · rename_i long
    match bytes with
    | _ :: _ :: _ :: _ :: _ :: _ :: _ :: _ :: _ :: _ :: _ => rfl
    | [] | [_] | [_, _] | [_, _, _] | [_, _, _, _] | [_, _, _, _, _] | [_, _, _, _, _, _]
    | [_, _, _, _, _, _, _] | [_, _, _, _, _, _, _, _] | [_, _, _, _, _, _, _, _, _] =>
      exact absurd (Nat.le_of_ble_eq_true rfl) long

/-- Writes a packet. Its header has to say how long the payload is. -/
def Packet.encodeChecked (packet : Packet) : Checked Bytes := do
  Checked.require (packet.header.length.toNat = packet.payload.length)
  let raw ← Checked.fill Header.size packet.header.encode
  let size ← Checked.add Packet.overhead packet.payload.length
  Checked.fill size
    (preamble ++ raw ++ packet.payload ++ (Checksum.over raw packet.payload).encode)

theorem Packet.encodeChecked_eq {packet : Packet}
    (declared : packet.header.length.toNat = packet.payload.length) :
    packet.encodeChecked = .ok packet.encode := by
  have bound := packet.header.length.toNat_lt
  have overhead : Packet.overhead = 14 := rfl
  have size : packet.encode.length = Packet.overhead + packet.payload.length := by
    rw [packet.length_encode, Nat.add_comm]
  have small : Packet.overhead + packet.payload.length < 2 ^ 64 := by omega
  simp only [Packet.encodeChecked, Checked.require_eq_ok declared,
    Checked.fill_eq_ok packet.header.length_encode, Checked.add_eq_ok small, Checked.ok_bind]
  exact Checked.fill_eq_ok size

end records

namespace BufferedFramer

/-- Looks for the start delimiter. Says how many bytes it looked at, with those before. -/
def seekChecked (framer : BufferedFramer) (looked : Nat) : Bytes → Checked (BufferedFramer × Nat)
  | [] => return (framer, looked)
  | byte :: rest => do
    let looked ← Checked.add looked 1
    let wanted ← Checked.byteAt preamble framer.loc
    if byte = wanted then
      let loc ← Checked.add framer.loc 1
      if loc = preamble.length then return (framer.goTo .header, looked)
      else seekChecked { framer with loc } looked rest
    else
      let first ← Checked.byteAt preamble 0
      if byte = first then seekChecked { framer with loc := 1 } looked rest
      else seekChecked { framer with loc := 0 } looked rest

/-- Writes what is missing of a part of this size over a buffer, from a place on. The bytes have to be
as many as the places. Says where it stops and how many bytes it took. -/
def gatherChecked (size : Nat) (buffer : Bytes) (loc : Nat) (input : Bytes) :
    Checked (Bytes × Nat × Nat) := do
  let missing ← Checked.sub size loc
  let taken := min missing input.length
  let stop ← Checked.add loc taken
  Checked.within loc stop buffer.length
  let bytes ← Checked.range input 0 taken
  Checked.require (bytes.length = stop - loc)
  return (overwrite buffer loc bytes, stop, taken)

/-- The header is complete: goes on to what it declares. -/
def enterChecked (framer : BufferedFramer) : Checked (BufferedFramer × Option Framer.Event) := do
  match ← Header.decodeChecked framer.rawHeader with
  | .error _ => return (framer.goTo .preamble, some .invalidHeader)
  | .ok (header, _) =>
    if framer.maxPayload < header.length.toNat then
      return (framer.goTo .preamble, some .invalidHeader)
    else
      let framer := { framer with header := some header, payload := [] }
      return (framer.goTo (if header.length = 0 then .footer else .payload), none)

/-- A round that takes bytes of a header. -/
def readHeaderChecked (framer : BufferedFramer) (input : Bytes) : Checked Round := do
  let (rawHeader, loc, taken) ← gatherChecked Header.size framer.rawHeader framer.loc input
  let framer := { framer with rawHeader, loc }
  if framer.loc < Header.size then return { framer, taken }
  else
    let (framer, event) ← framer.enterChecked
    return { framer, taken, event }

/-- A payload that is longer than its header says, or that has no header, would trap. -/
def readPayloadChecked (framer : BufferedFramer) (input : Bytes) : Checked Round := do
  let expected := (framer.header.map (·.length.toNat)).getD 0
  let missing ← Checked.sub expected framer.payload.length
  let taken := min missing input.length
  let bytes ← Checked.range input 0 taken
  let framer := { framer with payload := framer.payload ++ bytes }
  return {
    framer := if framer.payload.length = expected then framer.goTo .footer else framer, taken }

/-- A round that takes bytes of a footer. -/
def readFooterChecked (framer : BufferedFramer) (input : Bytes) : Checked Round := do
  let (rawFooter, loc, taken) ← gatherChecked Checksum.size framer.rawFooter framer.loc input
  let framer := { framer with rawFooter, loc }
  if framer.loc < Checksum.size then return { framer, taken }
  else
    let event := framer.header.map fun header =>
      Framer.judge framer.rawHeader header framer.payload framer.rawFooter
    return { framer := { framer with payload := [], header := none }.goTo .preamble, taken, event }

/-- One round of the loop over a chunk. -/
def roundChecked (framer : BufferedFramer) (input : Bytes) : Checked Round :=
  match framer.part with
  | .preamble => do
    let (framer, taken) ← framer.seekChecked 0 input
    return { framer, taken }
  | .header => framer.readHeaderChecked input
  | .payload => framer.readPayloadChecked input
  | .footer => framer.readFooterChecked input

/-- The loop over a chunk. It traps if a round takes nothing, since it would not end. -/
def consumeChecked (framer : BufferedFramer) : Bytes → Checked (BufferedFramer × List Framer.Event)
  | [] => return (framer, [])
  | byte :: others => do
    let round ← framer.roundChecked (byte :: others)
    let rest ← Checked.suffix (byte :: others) round.taken
    if rest.length < (byte :: others).length then
      let (last, events) ← round.framer.consumeChecked rest
      return (last, round.event.toList ++ events)
    else .error .endless
termination_by input => input.length
decreasing_by assumption

/-- What the fields say of the packet at hand. -/
def phase (framer : BufferedFramer) : Framer.Phase :=
  match framer.part, framer.header with
  | .preamble, _ => .preamble (framer.loc = 1)
  | .header, _ => .header (framer.rawHeader.take framer.loc)
  | .payload, some header => .payload framer.rawHeader header framer.payload
  | .footer, some header =>
    .footer framer.rawHeader header framer.payload (framer.rawFooter.take framer.loc)
  | .payload, none | .footer, none => .preamble false

/-- The framer that remembers only what it needs. -/
def view (framer : BufferedFramer) : Framer := ⟨framer.maxPayload, framer.phase⟩

end BufferedFramer

section rounds

variable {framer : BufferedFramer} {maxPayload : Nat} {phase : Framer.Phase} {input : Bytes}

/-- Of the start delimiter one byte at most was seen before. -/
theorem BufferedFramer.seekChecked_eq {looked : Nat} (loc : framer.loc < preamble.length)
    (small : looked + input.length < 2 ^ 64) :
    framer.seekChecked looked input = .ok (framer.seek looked input) := by
  induction input generalizing framer looked with
  | nil => rfl
  | cons byte rest ih =>
    rw [List.length_cons] at small
    have next : looked + 1 + rest.length < 2 ^ 64 := by omega
    have wanted : Checked.byteAt preamble framer.loc = .ok preamble[framer.loc] := dif_pos loc
    have first : Checked.byteAt preamble 0 = .ok 0x68 := rfl
    have place : framer.loc + 1 < 2 ^ 64 := by
      have length : preamble.length = 2 := rfl
      omega
    have head : preamble[0]? = some 0x68 := rfl
    rw [BufferedFramer.seekChecked, BufferedFramer.seek, Checked.add_eq_ok (by omega),
      Checked.ok_bind, wanted, Checked.ok_bind, Checked.add_eq_ok place, Checked.ok_bind, first,
      Checked.ok_bind, List.getElem?_eq_getElem loc, head]
    by_cases found : byte = preamble[framer.loc]
    · rw [if_pos found, if_pos (congrArg some found.symm)]
      by_cases last : framer.loc + 1 = preamble.length
      · rw [if_pos last, if_pos last]
        rfl
      · rw [if_neg last, if_neg last]
        exact ih (Nat.lt_of_le_of_ne loc last) next
    · rw [if_neg found, if_neg fun same => found (Option.some.inj same).symm]
      by_cases begins : byte = 0x68
      · rw [if_pos begins, if_pos (congrArg some begins.symm)]
        exact ih Nat.one_lt_two next
      · rw [if_neg begins, if_neg fun same => begins (Option.some.inj same).symm]
        exact ih Nat.zero_lt_two next

/-- As long as no more was read than there is room for, the rest of the buffer has room for what is
missing. -/
theorem BufferedFramer.gatherChecked_eq {size loc : Nat} {buffer : Bytes} (room : loc ≤ size)
    (whole : buffer.length = size) (small : size < 2 ^ 64) :
    BufferedFramer.gatherChecked size buffer loc input =
      .ok (overwrite buffer loc (input.take (min (size - loc) input.length)),
        loc + min (size - loc) input.length, min (size - loc) input.length) := by
  have taken : min (size - loc) input.length ≤ input.length := Nat.min_le_right _ _
  have stop : loc + min (size - loc) input.length ≤ size := by omega
  have inside : loc + min (size - loc) input.length ≤ buffer.length := whole ▸ stop
  have length : (input.take (min (size - loc) input.length)).length =
      loc + min (size - loc) input.length - loc := by
    rw [List.length_take]
    omega
  simp only [BufferedFramer.gatherChecked, Checked.sub_eq_ok room, Checked.ok_bind,
    Checked.add_eq_ok (Nat.lt_of_le_of_lt stop small),
    Checked.within_eq_ok (Nat.le_add_right _ _) inside,
    Checked.range_eq_ok (Nat.zero_le _) taken, Nat.sub_zero, List.drop_zero,
    Checked.require_eq_ok length]
  rfl

theorem BufferedFramer.enterChecked_eq (framer : BufferedFramer) :
    framer.enterChecked = .ok framer.enter := by
  rw [BufferedFramer.enterChecked, Header.decodeChecked_eq, Checked.ok_bind, BufferedFramer.enter]
  cases Header.decode framer.rawHeader with
  | error error => rfl
  | ok read =>
    obtain ⟨header, rest⟩ := read
    dsimp only
    split <;> rfl

/-- What the fields say of each other keeps every round from trapping. -/
theorem BufferedFramer.Holds.roundChecked_eq (holds : framer.Holds maxPayload phase)
    (small : input.length < 2 ^ 64) : framer.roundChecked input = .ok (framer.round input) := by
  obtain ⟨limit, headerSize, footerSize, keeps, unfinished⟩ := holds
  cases phase with
  | preamble half =>
    obtain ⟨inPreamble, loc, unknown⟩ := keeps
    have seen : framer.loc < preamble.length := loc ▸ half.toNat_lt
    simp only [BufferedFramer.roundChecked, BufferedFramer.round, inPreamble]
    rw [BufferedFramer.seekChecked_eq seen (by omega)]
    rfl
  | header got =>
    obtain ⟨inHeader, loc, unknown, front⟩ := keeps
    have room : framer.loc ≤ Header.size := loc ▸ Nat.le_of_lt unfinished
    simp only [BufferedFramer.roundChecked, BufferedFramer.round, inHeader,
      BufferedFramer.readHeaderChecked, BufferedFramer.readHeader,
      BufferedFramer.gatherChecked_eq room headerSize (by decide), Checked.ok_bind,
      BufferedFramer.enterChecked_eq]
    split <;> rfl
  | payload raw declared got =>
    obtain ⟨inPayload, loc, known, rfl, rfl⟩ := keeps
    have room : framer.payload.length ≤ declared.length.toNat := Nat.le_of_lt unfinished
    have taken := Nat.min_le_right (declared.length.toNat - framer.payload.length) input.length
    simp only [BufferedFramer.roundChecked, BufferedFramer.round, inPayload,
      BufferedFramer.readPayloadChecked, BufferedFramer.readPayload, known, Option.map_some,
      Option.getD_some, Checked.sub_eq_ok room, Checked.ok_bind,
      Checked.range_eq_ok (Nat.zero_le _) taken, Nat.sub_zero, List.drop_zero]
    rfl
  | footer raw declared payload got =>
    obtain ⟨inFooter, loc, known, rfl, rfl, front⟩ := keeps
    have room : framer.loc ≤ Checksum.size := loc ▸ Nat.le_of_lt unfinished
    simp only [BufferedFramer.roundChecked, BufferedFramer.round, inFooter,
      BufferedFramer.readFooterChecked, BufferedFramer.readFooter,
      BufferedFramer.gatherChecked_eq room footerSize (by decide), Checked.ok_bind]
    split <;> rfl

theorem BufferedFramer.Holds.consumeChecked_eq (holds : framer.Holds maxPayload phase)
    (small : input.length < 2 ^ 64) :
    framer.consumeChecked input = .ok (framer.consume input) := by
  fun_induction BufferedFramer.consume framer input generalizing phase with
  | case1 framer =>
    rw [BufferedFramer.consumeChecked]
    rfl
  | case2 framer byte others round progress last events later =>
    rename_i ih
    have follows := holds.round (List.cons_ne_nil byte others)
    have shorter : ((byte :: others).drop round.taken).length < (byte :: others).length := by
      rw [List.length_drop]
      exact Nat.sub_lt (Nat.zero_lt_succ _) progress
    have smaller := Nat.lt_trans shorter small
    rw [BufferedFramer.consumeChecked, holds.roundChecked_eq small, Checked.ok_bind,
      Checked.suffix_eq_ok follows.within, Checked.ok_bind, if_pos shorter,
      ih follows.holds smaller, Checked.ok_bind, later]
    rfl
  | case3 framer byte others round =>
    rename_i idle
    exact absurd (holds.round (List.cons_ne_nil byte others)).progress idle

theorem BufferedFramer.Holds.phase_eq (holds : framer.Holds maxPayload phase) :
    framer.phase = phase := by
  obtain ⟨limit, headerSize, footerSize, keeps, unfinished⟩ := holds
  cases phase with
  | preamble half =>
    obtain ⟨inPreamble, loc, unknown⟩ := keeps
    simp only [BufferedFramer.phase, inPreamble, loc]
    cases half <;> rfl
  | header got =>
    obtain ⟨inHeader, loc, unknown, front⟩ := keeps
    simp only [BufferedFramer.phase, inHeader, loc, ← List.prefix_iff_eq_take.mp front]
  | payload raw declared got =>
    obtain ⟨inPayload, loc, known, rfl, rfl⟩ := keeps
    simp only [BufferedFramer.phase, inPayload, known]
  | footer raw declared payload got =>
    obtain ⟨inFooter, loc, known, rfl, rfl, front⟩ := keeps
    simp only [BufferedFramer.phase, inFooter, known, loc, ← List.prefix_iff_eq_take.mp front]

theorem BufferedFramer.Holds.view_eq {model : Framer}
    (holds : framer.Holds model.maxPayload model.phase) : framer.view = model := by
  rw [BufferedFramer.view, holds.limit, holds.phase_eq]

end rounds

end DatagramLink
