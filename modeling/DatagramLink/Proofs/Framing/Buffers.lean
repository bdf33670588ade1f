import DatagramLink.Proofs.Framing.Calls

namespace DatagramLink

/-- Writes over the bytes of a buffer from a place on. -/
def overwrite (buffer : Bytes) (start : Nat) (bytes : Bytes) : Bytes :=
  buffer.take start ++ bytes ++ buffer.drop (start + bytes.length)

/-- The framer with the buffers it is made of. They have a fixed size, are written over from the
front and are not cleaned, so they hold what earlier packets left there. -/
structure BufferedFramer where
  maxPayload : Nat
  part : Framer.Part
  /-- How many bytes of this part are there. The payload counts its own. -/
  loc : Nat
  rawHeader : Bytes
  header : Option Header
  payload : Bytes
  rawFooter : Bytes
  deriving DecidableEq

/-- Where one round of the loop leads, and how many bytes of the input it took. -/
structure BufferedFramer.Round where
  framer : BufferedFramer
  taken : Nat
  event : Option Framer.Event := none

namespace BufferedFramer

/-- All buffers hold zeros. -/
def new (maxPayload : Nat) : BufferedFramer where
  maxPayload
  part := .preamble
  loc := 0
  rawHeader := List.replicate Header.size 0
  header := none
  payload := []
  rawFooter := List.replicate Checksum.size 0

/-- Not even half a start delimiter is there. -/
def isWaiting (framer : BufferedFramer) : Bool := framer.part = .preamble ∧ framer.loc = 0

/-- Turns to the next part of a packet, from its first byte. -/
def goTo (framer : BufferedFramer) (part : Framer.Part) : BufferedFramer :=
  { framer with part, loc := 0 }

/-- Gives up a partly received packet. The buffers of header and footer stay as they are. -/
def forget (framer : BufferedFramer) : BufferedFramer :=
  { framer with payload := [], header := none }.goTo .preamble

/-- Looks for the start delimiter, byte by byte. What is counted are the bytes taken from the
input. -/
def seek (framer : BufferedFramer) (taken : Nat) : Bytes → BufferedFramer × Nat
  | [] => (framer, taken)
  | byte :: rest =>
    if preamble[framer.loc]? = some byte then
      if framer.loc + 1 = preamble.length then (framer.goTo .header, taken + 1)
      else seek { framer with loc := framer.loc + 1 } (taken + 1) rest
    else if preamble[0]? = some byte then seek { framer with loc := 1 } (taken + 1) rest
    else seek { framer with loc := 0 } (taken + 1) rest

/-- What a complete header leads to. -/
def enter (framer : BufferedFramer) : BufferedFramer × Option Framer.Event :=
  match Header.decode framer.rawHeader with
  | .error _ => (framer.goTo .preamble, some .invalidHeader)
  | .ok (header, _) =>
    if framer.maxPayload < header.length.toNat then (framer.goTo .preamble, some .invalidHeader)
    else
      let framer := { framer with header := some header, payload := [] }
      (framer.goTo (if header.length = 0 then .footer else .payload), none)

/-- A round that takes bytes of a header. -/
def readHeader (framer : BufferedFramer) (input : Bytes) : Round :=
  let taken := min (Header.size - framer.loc) input.length
  let rawHeader := overwrite framer.rawHeader framer.loc (input.take taken)
  let framer := { framer with rawHeader, loc := framer.loc + taken }
  if framer.loc < Header.size then { framer, taken }
  else
    let (framer, event) := framer.enter
    { framer, taken, event }

/-- A round that takes bytes of a payload. -/
def readPayload (framer : BufferedFramer) (input : Bytes) : Round :=
  let expected := (framer.header.map (·.length.toNat)).getD 0
  let taken := min (expected - framer.payload.length) input.length
  let framer := { framer with payload := framer.payload ++ input.take taken }
  { framer := if framer.payload.length = expected then framer.goTo .footer else framer, taken }

/-- A round that takes bytes of a footer, and judges the packet when it is complete. -/
def readFooter (framer : BufferedFramer) (input : Bytes) : Round :=
  let taken := min (Checksum.size - framer.loc) input.length
  let rawFooter := overwrite framer.rawFooter framer.loc (input.take taken)
  let framer := { framer with rawFooter, loc := framer.loc + taken }
  if framer.loc < Checksum.size then { framer, taken }
  else
    let event := framer.header.map fun header =>
      Framer.judge framer.rawHeader header framer.payload framer.rawFooter
    { framer := { framer with payload := [], header := none }.goTo .preamble, taken, event }

/-- One round of the loop over a chunk. -/
def round (framer : BufferedFramer) (input : Bytes) : Round :=
  match framer.part with
  | .preamble =>
    let (framer, taken) := framer.seek 0 input
    { framer, taken }
  | .header => framer.readHeader input
  | .payload => framer.readPayload input
  | .footer => framer.readFooter input

/-- A round that takes nothing would be repeated forever; by `BufferedFramer.Holds.round` there is
none. -/
def consume (framer : BufferedFramer) : Bytes → BufferedFramer × List Framer.Event
  | [] => (framer, [])
  | byte :: others =>
    let round := framer.round (byte :: others)
    if 0 < round.taken then
      let (last, events) := round.framer.consume ((byte :: others).drop round.taken)
      (last, round.event.toList ++ events)
    else (round.framer, round.event.toList)
termination_by input => input.length
decreasing_by
  have shorter : 0 < (framer.round (byte :: others)).taken := by assumption
  simp only [List.length_drop, List.length_cons]
  omega

/-- What a call reports, and what becomes of the framer. -/
def call (framer : BufferedFramer) : Framer.Call → BufferedFramer × List Framer.Event
  | .feed chunk => framer.consume chunk
  | .forget => (framer.forget, [])

/-- The framer after these calls. -/
def after (framer : BufferedFramer) : List Framer.Call → BufferedFramer
  | [] => framer
  | call :: calls => (framer.call call).1.after calls

/-- All that a caller sees of these calls. -/
def observe (framer : BufferedFramer) : List Framer.Call → List Framer.Observation
  | [] => []
  | call :: calls =>
    let (framer, events) := framer.call call
    { events, part := framer.part, isWaiting := framer.isWaiting } :: framer.observe calls

end BufferedFramer

theorem prefix_overwrite {buffer got : Bytes} (front : got <+: buffer) (bytes : Bytes) :
    got ++ bytes <+: overwrite buffer got.length bytes := by
  have same : buffer.take got.length = got := (List.prefix_iff_eq_take.mp front).symm
  rw [overwrite, same]
  exact List.prefix_append _ _

theorem length_overwrite {buffer : Bytes} {start : Nat} {bytes : Bytes}
    (inside : start + bytes.length ≤ buffer.length) :
    (overwrite buffer start bytes).length = buffer.length := by
  simp only [overwrite, List.length_append, List.length_take, List.length_drop]
  omega

/-- What the buffers say of the packet at hand. Whatever else is in them was left behind. -/
def BufferedFramer.Keeps (framer : BufferedFramer) : Framer.Phase → Prop
  | .preamble half =>
    framer.part = .preamble ∧ framer.loc = half.toNat ∧ framer.header = none
  | .header got =>
    framer.part = .header ∧ framer.loc = got.length ∧ framer.header = none ∧
      got <+: framer.rawHeader
  | .payload raw declared got =>
    framer.part = .payload ∧ framer.loc = 0 ∧ framer.header = some declared ∧
      framer.rawHeader = raw ∧ framer.payload = got
  | .footer raw declared payload got =>
    framer.part = .footer ∧ framer.loc = got.length ∧ framer.header = some declared ∧
      framer.rawHeader = raw ∧ framer.payload = payload ∧ got <+: framer.rawFooter

/-- The buffers hold what a framer in this phase remembers. -/
structure BufferedFramer.Holds (framer : BufferedFramer) (maxPayload : Nat)
    (phase : Framer.Phase) : Prop where
  limit : framer.maxPayload = maxPayload
  headerSize : framer.rawHeader.length = Header.size
  footerSize : framer.rawFooter.length = Checksum.size
  keeps : framer.Keeps phase
  unfinished : phase.Partial

/-- The round leads where the stretch leads, and gets there by taking some of the input. -/
structure BufferedFramer.Round.Follows (round : BufferedFramer.Round) (maxPayload : Nat)
    (input : Bytes) (stretch : Framer.Stretch) : Prop where
  holds : round.framer.Holds maxPayload stretch.phase
  event : round.event = stretch.event
  progress : 0 < round.taken
  within : round.taken ≤ input.length
  rest : input.drop round.taken = stretch.rest

section rounds

variable {framer : BufferedFramer} {maxPayload : Nat} {input : Bytes}

/-- Of the start delimiter one byte at most was seen before. -/
theorem BufferedFramer.seek_cons {half : Bool} (taken : Nat) (byte : UInt8) (rest : Bytes)
    (loc : framer.loc = half.toNat) :
    framer.seek taken (byte :: rest) =
      if (half && byte == 0x43) = true then (framer.goTo .header, taken + 1)
      else BufferedFramer.seek { framer with loc := (byte == 0x68).toNat } (taken + 1) rest := by
  have first : preamble[0]? = some byte ↔ (byte == 0x68) = true := by
    rw [beq_iff_eq]
    exact ⟨fun same => (Option.some.inj same).symm, fun same => congrArg some same.symm⟩
  have second : preamble[1]? = some byte ↔ (byte == 0x43) = true := by
    rw [beq_iff_eq]
    exact ⟨fun same => (Option.some.inj same).symm, fun same => congrArg some same.symm⟩
  rw [BufferedFramer.seek, loc]
  cases half with
  | false =>
    by_cases begins : (byte == 0x68) = true
    · rw [Bool.toNat_false, if_pos (first.mpr begins), begins]
      rfl
    · rw [Bool.toNat_false, if_neg (mt first.mp begins), if_neg (mt first.mp begins),
        eq_false_of_ne_true begins]
      rfl
  | true =>
    by_cases ends : (byte == 0x43) = true
    · rw [Bool.toNat_true, if_pos (second.mpr ends), ends]
      rfl
    · rw [Bool.toNat_true, if_neg (mt second.mp ends), Bool.true_and, if_neg ends]
      by_cases begins : (byte == 0x68) = true
      · rw [if_pos (first.mpr begins), begins]
        rfl
      · rw [if_neg (mt first.mp begins), eq_false_of_ne_true begins]
        rfl

theorem BufferedFramer.seek_eq {half : Bool} (taken : Nat) (input : Bytes)
    (keeps : framer.Keeps (.preamble half)) :
    ∃ part loc more, framer.seek taken input = ({ framer with part, loc }, taken + more) ∧
      more ≤ input.length ∧ input.drop more = (Framer.seek half input).2 ∧
      BufferedFramer.Keeps { framer with part, loc } (Framer.seek half input).1 := by
  induction input generalizing framer half taken with
  | nil => exact ⟨framer.part, framer.loc, 0, rfl, Nat.le_refl _, rfl, keeps⟩
  | cons byte rest ih =>
    obtain ⟨inPreamble, loc, unknown⟩ := keeps
    have nextKeeps : BufferedFramer.Keeps { framer with loc := (byte == 0x68).toNat }
        (.preamble (byte == 0x68)) := ⟨inPreamble, rfl, unknown⟩
    rw [BufferedFramer.seek_cons taken byte rest loc, Framer.seek]
    split
    · exact ⟨.header, 0, 1, rfl, Nat.succ_le_succ (Nat.zero_le _), rfl, rfl, rfl, unknown,
        List.nil_prefix⟩
    · obtain ⟨part, loc, more, sought, within, left, keeps⟩ :=
        ih (taken + 1) nextKeeps
      refine ⟨part, loc, more + 1, ?_, Nat.succ_le_succ within, left, keeps⟩
      rw [sought, Nat.add_assoc, Nat.add_comm 1 more]

theorem BufferedFramer.Holds.readPreamble {half : Bool}
    (holds : framer.Holds maxPayload (.preamble half)) (nonempty : input ≠ []) :
    (framer.round input).Follows maxPayload input
      (Framer.advance maxPayload (.preamble half) input) := by
  obtain ⟨part, loc, taken, sought, within, left, keeps⟩ :=
    BufferedFramer.seek_eq 0 input holds.keeps
  obtain ⟨byte, others, rfl⟩ := List.exists_cons_of_ne_nil nonempty
  have shorter := Framer.seek_rest_lt half byte others
  rw [← left, List.length_drop] at shorter
  have progress : 0 < taken := by omega
  rw [Nat.zero_add] at sought
  simp only [BufferedFramer.round, holds.keeps.1, sought, Framer.advance]
  exact ⟨⟨holds.limit, holds.headerSize, holds.footerSize, keeps, Framer.partial_seek half _⟩, rfl,
    progress, within, left⟩

/-- As long as bytes of a part are missing, the next ones go behind those that are there. -/
theorem gather_overwrite {buffer got : Bytes} {size : Nat} (bufferSize : buffer.length = size)
    (front : got <+: buffer) (room : got.length < size) (nonempty : input ≠ []) :
    let taken := min (size - got.length) input.length
    let next := overwrite buffer got.length (input.take taken)
    (0 < taken ∧ taken ≤ input.length ∧ input.drop taken = input.drop (size - got.length)) ∧
      (got ++ input.take (size - got.length)).length = got.length + taken ∧
      next.length = size ∧ got ++ input.take (size - got.length) <+: next ∧
      (¬ got.length + taken < size → next = got ++ input.take (size - got.length)) := by
  intro taken next
  have available := List.length_pos_iff.mpr nonempty
  have cut : input.take taken = input.take (size - got.length) := List.take_eq_take_min.symm
  have length : (input.take taken).length = taken := by
    rw [List.length_take]
    omega
  have nextSize : next.length = size := by
    rw [← bufferSize]
    exact length_overwrite (by omega)
  have behind : got ++ input.take taken <+: next := prefix_overwrite front _
  rw [← cut]
  refine ⟨⟨by omega, Nat.min_le_right _ _, List.drop_eq_drop_min.symm⟩, ?_, nextSize, behind,
    fun full => ?_⟩
  · rw [List.length_append, length]
  · refine (behind.eq_of_length ?_).symm
    rw [List.length_append, length]
    omega

theorem BufferedFramer.holds_enter (limit : framer.maxPayload = maxPayload)
    (headerSize : framer.rawHeader.length = Header.size)
    (footerSize : framer.rawFooter.length = Checksum.size) (unknown : framer.header = none) :
    framer.enter.1.Holds maxPayload (Framer.enter maxPayload framer.rawHeader).1 ∧
      framer.enter.2 = (Framer.enter maxPayload framer.rawHeader).2 := by
  have unfinished := Framer.partial_enter maxPayload framer.rawHeader
  simp only [BufferedFramer.enter, Framer.enter, limit] at unfinished ⊢
  cases read : Header.decode framer.rawHeader with
  | error error => exact ⟨⟨limit, headerSize, footerSize, ⟨rfl, rfl, unknown⟩, trivial⟩, rfl⟩
  | ok result =>
    obtain ⟨header, others⟩ := result
    simp only [read] at unfinished ⊢
    split
    · exact ⟨⟨limit, headerSize, footerSize, ⟨rfl, rfl, unknown⟩, trivial⟩, rfl⟩
    · rename_i accepted
      rw [if_neg accepted] at unfinished
      split
      · exact ⟨⟨rfl, headerSize, footerSize, ⟨rfl, rfl, rfl, rfl, rfl, List.nil_prefix⟩,
          Nat.zero_lt_succ _⟩, rfl⟩
      · rename_i nonempty
        rw [if_neg nonempty] at unfinished
        exact ⟨⟨rfl, headerSize, footerSize, ⟨rfl, rfl, rfl, rfl, rfl⟩, unfinished⟩, rfl⟩

theorem BufferedFramer.Holds.readHeader {got : Bytes}
    (holds : framer.Holds maxPayload (.header got)) (nonempty : input ≠ []) :
    (framer.round input).Follows maxPayload input
      (Framer.advance maxPayload (.header got) input) := by
  obtain ⟨limit, headerSize, footerSize, ⟨inHeader, loc, unknown, front⟩, room⟩ := holds
  obtain ⟨⟨progress, within, rest⟩, length, nextSize, behind, full⟩ :=
    gather_overwrite headerSize front room nonempty
  simp only [BufferedFramer.round, inHeader, BufferedFramer.readHeader, loc, Framer.advance, length]
  split
  · rename_i short
    exact ⟨⟨limit, nextSize, footerSize, ⟨rfl, length.symm, unknown, behind⟩,
      lt_of_eq_of_lt length short⟩, rfl, progress, within, rest⟩
  · rename_i complete
    let filled : BufferedFramer :=
      { framer with
        part := .header
        loc := got.length + min (Header.size - got.length) input.length
        rawHeader := got ++ input.take (Header.size - got.length) }
    rw [full complete] at nextSize ⊢
    have filledLimit : filled.maxPayload = maxPayload := limit
    obtain ⟨holds, event⟩ := BufferedFramer.holds_enter filledLimit nextSize footerSize unknown
    exact ⟨holds, event, progress, within, rest⟩

theorem BufferedFramer.Holds.readPayload {raw got : Bytes} {declared : Header}
    (holds : framer.Holds maxPayload (.payload raw declared got)) (nonempty : input ≠ []) :
    (framer.round input).Follows maxPayload input
      (Framer.advance maxPayload (.payload raw declared got) input) := by
  obtain ⟨limit, headerSize, footerSize, ⟨inPayload, loc, known, rfl, rfl⟩, room⟩ := holds
  have missing : framer.payload.length < declared.length.toNat := room
  have available := List.length_pos_iff.mpr nonempty
  let taken := min (declared.length.toNat - framer.payload.length) input.length
  have progress : 0 < taken := by omega
  have within : taken ≤ input.length := Nat.min_le_right _ _
  have cut : input.take taken = input.take (declared.length.toNat - framer.payload.length) :=
    List.take_eq_take_min.symm
  have rest : input.drop taken = input.drop (declared.length.toNat - framer.payload.length) :=
    List.drop_eq_drop_min.symm
  have length : (framer.payload ++ input.take taken).length = framer.payload.length + taken := by
    rw [List.length_append, List.length_take, Nat.min_eq_left within]
  simp only [BufferedFramer.round, inPayload, BufferedFramer.readPayload, known, Option.map_some,
    Option.getD_some, Framer.advance, ← cut]
  by_cases full : (framer.payload ++ input.take taken).length = declared.length.toNat
  · rw [if_pos full, if_neg (Nat.not_lt.mpr (Nat.le_of_eq full.symm))]
    exact ⟨⟨limit, headerSize, footerSize, ⟨rfl, rfl, rfl, rfl, rfl, List.nil_prefix⟩,
      Nat.zero_lt_succ _⟩, rfl, progress, within, rest⟩
  · have short : (framer.payload ++ input.take taken).length < declared.length.toNat := by omega
    rw [if_neg full, if_pos short]
    exact ⟨⟨limit, headerSize, footerSize, ⟨rfl, loc, rfl, rfl, rfl⟩, short⟩, rfl, progress, within,
      rest⟩

theorem BufferedFramer.Holds.readFooter {raw payload got : Bytes} {declared : Header}
    (holds : framer.Holds maxPayload (.footer raw declared payload got)) (nonempty : input ≠ []) :
    (framer.round input).Follows maxPayload input
      (Framer.advance maxPayload (.footer raw declared payload got) input) := by
  obtain ⟨limit, headerSize, footerSize, ⟨inFooter, loc, known, rfl, rfl, front⟩, room⟩ := holds
  obtain ⟨⟨progress, within, rest⟩, length, nextSize, behind, full⟩ :=
    gather_overwrite footerSize front room nonempty
  simp only [BufferedFramer.round, inFooter, BufferedFramer.readFooter, loc, Framer.advance, length]
  split
  · rename_i short
    exact ⟨⟨limit, headerSize, nextSize, ⟨rfl, length.symm, known, rfl, rfl, behind⟩,
      lt_of_eq_of_lt length short⟩, rfl, progress, within, rest⟩
  · rename_i complete
    rw [full complete] at nextSize ⊢
    rw [known]
    exact ⟨⟨limit, headerSize, nextSize, ⟨rfl, rfl, rfl⟩, trivial⟩, rfl, progress, within, rest⟩

/-- Every round takes some of its input and leads where the framer goes that remembers just what it
needs. -/
theorem BufferedFramer.Holds.round {phase : Framer.Phase} (holds : framer.Holds maxPayload phase)
    (nonempty : input ≠ []) :
    (framer.round input).Follows maxPayload input (Framer.advance maxPayload phase input) := by
  cases phase with
  | preamble half => exact holds.readPreamble nonempty
  | header got => exact holds.readHeader nonempty
  | payload raw declared got => exact holds.readPayload nonempty
  | footer raw declared payload got => exact holds.readFooter nonempty

theorem BufferedFramer.Holds.consume {phase : Framer.Phase} (holds : framer.Holds maxPayload phase)
    (input : Bytes) :
    (framer.consume input).1.Holds maxPayload (Framer.readAll maxPayload phase input).1 ∧
      (framer.consume input).2 = (Framer.readAll maxPayload phase input).2 := by
  fun_induction Framer.readAll maxPayload phase input generalizing framer with
  | case1 phase =>
    rw [BufferedFramer.consume]
    exact ⟨holds, rfl⟩
  | case2 phase byte rest stretch last events read =>
    rename_i ih
    have follows : (framer.round (byte :: rest)).Follows maxPayload (byte :: rest) stretch :=
      holds.round (List.cons_ne_nil _ _)
    obtain ⟨lastHolds, same⟩ := ih follows.holds
    rw [BufferedFramer.consume]
    simp only [if_pos follows.progress, follows.rest, follows.event]
    rw [read] at lastHolds same
    exact ⟨lastHolds, congrArg (stretch.event.toList ++ ·) same⟩

end rounds

section calls

variable {framer : BufferedFramer} {model : Framer}

theorem BufferedFramer.holds_new (maxPayload : Nat) :
    (BufferedFramer.new maxPayload).Holds maxPayload (.preamble false) :=
  ⟨rfl, List.length_replicate, List.length_replicate, ⟨rfl, rfl, rfl⟩, trivial⟩

theorem BufferedFramer.Holds.part_eq {maxPayload : Nat} {phase : Framer.Phase}
    (holds : framer.Holds maxPayload phase) : framer.part = phase.part := by
  have keeps := holds.keeps
  cases phase <;> exact keeps.1

theorem BufferedFramer.Holds.isWaiting_iff {maxPayload : Nat} {phase : Framer.Phase}
    (holds : framer.Holds maxPayload phase) :
    framer.isWaiting = true ↔ phase = .preamble false := by
  have part := holds.part_eq
  have keeps := holds.keeps
  simp only [BufferedFramer.isWaiting, decide_eq_true_eq, part]
  cases phase with
  | preamble half =>
    obtain ⟨_, loc, _⟩ := keeps
    rw [loc]
    cases half <;> simp [Framer.Phase.part]
  | header got => simp [Framer.Phase.part]
  | payload raw declared got => simp [Framer.Phase.part]
  | footer raw declared payload got => simp [Framer.Phase.part]

theorem BufferedFramer.Holds.forget {maxPayload : Nat} {phase : Framer.Phase}
    (holds : framer.Holds maxPayload phase) : framer.forget.Holds maxPayload (.preamble false) :=
  ⟨holds.limit, holds.headerSize, holds.footerSize, ⟨rfl, rfl, rfl⟩, trivial⟩

theorem BufferedFramer.Holds.call (holds : framer.Holds model.maxPayload model.phase)
    (call : Framer.Call) :
    (framer.call call).1.Holds (model.call call).1.maxPayload (model.call call).1.phase ∧
      (framer.call call).2 = (model.call call).2 := by
  cases call with
  | feed chunk => exact holds.consume chunk
  | forget => exact ⟨holds.forget, rfl⟩

theorem BufferedFramer.Holds.after (holds : framer.Holds model.maxPayload model.phase)
    (calls : List Framer.Call) :
    (framer.after calls).Holds (model.after calls).maxPayload (model.after calls).phase := by
  induction calls generalizing framer model with
  | nil => exact holds
  | cons call calls ih => exact ih (holds.call call).1

theorem BufferedFramer.Holds.observe (holds : framer.Holds model.maxPayload model.phase)
    (calls : List Framer.Call) : framer.observe calls = model.observe calls := by
  induction calls generalizing framer model with
  | nil => rfl
  | cons call calls ih =>
    obtain ⟨next, events⟩ := holds.call call
    have waiting : (framer.call call).1.isWaiting = (model.call call).1.isWaiting := by
      rw [Bool.eq_iff_iff, next.isWaiting_iff, Framer.isWaiting, decide_eq_true_eq]
    simp only [BufferedFramer.observe, Framer.observe, events, next.part_eq, waiting, ih next]

/-- What buffers that keep the same packet hold besides cannot be seen. -/
theorem BufferedFramer.Holds.observe_congr {other : BufferedFramer} {maxPayload : Nat}
    {phase : Framer.Phase} (holds : framer.Holds maxPayload phase)
    (otherHolds : other.Holds maxPayload phase) (calls : List Framer.Call) :
    framer.observe calls = other.observe calls := by
  let model : Framer := ⟨maxPayload, phase⟩
  have here : framer.Holds model.maxPayload model.phase := holds
  have there : other.Holds model.maxPayload model.phase := otherHolds
  rw [here.observe, there.observe]

theorem BufferedFramer.Holds.consume_eq_absorbAll {maxPayload : Nat} {phase : Framer.Phase}
    (holds : framer.Holds maxPayload phase) (input : Bytes) :
    (framer.consume input).1.Holds maxPayload (Framer.absorbAll maxPayload phase input).1 ∧
      (framer.consume input).2 = (Framer.absorbAll maxPayload phase input).2 := by
  rw [← Framer.readAll_eq_absorbAll maxPayload holds.unfinished]
  exact holds.consume input

theorem BufferedFramer.observe_eq (maxPayload : Nat) (calls : List Framer.Call) :
    (BufferedFramer.new maxPayload).observe calls = (Framer.new maxPayload).observe calls := by
  have holds : (BufferedFramer.new maxPayload).Holds (Framer.new maxPayload).maxPayload
      (Framer.new maxPayload).phase := BufferedFramer.holds_new maxPayload
  exact holds.observe calls

end calls

/-- A framer that waits for a start delimiter cannot be told from a new one, whatever earlier calls
left in its buffers. It waits when a packet was forgotten, and with every event that it raises,
within a chunk too: the rest of the chunk is read as a new framer reads it. -/
theorem BufferedFramer.as_new (maxPayload : Nat) (earlier : List Framer.Call) :
    let fresh := BufferedFramer.new maxPayload
    let framer := fresh.after earlier
    (framer.isWaiting = true → ∀ later, framer.observe later = fresh.observe later) ∧
      (framer.forget.isWaiting = true ∧
        ∀ later, framer.forget.observe later = fresh.observe later) ∧
      (∀ chunk early event late, (framer.consume chunk).2 = early ++ event :: late →
        ∃ first rest, chunk = first ++ rest ∧
          (framer.consume first).2 = early ++ [event] ∧
          (framer.consume first).1.isWaiting = true ∧
          late = (fresh.consume rest).2 ∧
          ∀ later, (framer.consume chunk).1.observe later =
            (fresh.consume rest).1.observe later) ∧
      ∀ calls, fresh.observe calls = (Framer.new maxPayload).observe calls := by
  intro fresh framer
  let model := (Framer.new maxPayload).after earlier
  have waits : fresh.Holds maxPayload (.preamble false) := BufferedFramer.holds_new maxPayload
  have holds : framer.Holds model.maxPayload model.phase :=
    BufferedFramer.Holds.after waits earlier
  rw [(Framer.reached_after maxPayload earlier).2] at holds
  refine ⟨fun waiting => ?_, ⟨holds.forget.isWaiting_iff.mpr rfl, holds.forget.observe_congr waits⟩,
    fun chunk early event late raised => ?_, BufferedFramer.observe_eq maxPayload⟩
  · have waitsToo := holds
    rw [holds.isWaiting_iff.mp waiting] at waitsToo
    exact waitsToo.observe_congr waits
  · obtain ⟨chunkHolds, chunkEvents⟩ := holds.consume_eq_absorbAll chunk
    rw [chunkEvents] at raised
    obtain ⟨first, rest, rfl, read⟩ := Framer.absorbAll_raised raised
    obtain ⟨firstHolds, firstEvents⟩ := holds.consume_eq_absorbAll first
    obtain ⟨restHolds, restEvents⟩ := waits.consume_eq_absorbAll rest
    rw [Framer.absorbAll_append, read] at chunkHolds raised
    rw [read] at firstHolds firstEvents
    refine ⟨first, rest, rfl, firstEvents, firstHolds.isWaiting_iff.mpr rfl, ?_,
      chunkHolds.observe_congr restHolds⟩
    rw [restEvents]
    simpa using raised.symm

/-- A packet with a wrong checksum and one that was forgotten in the midst of its payload leave
their headers and a footer behind. -/
theorem as_new_with_leftovers :
    let wrong := preamble ++ Header.encode ⟨.clear, .plain, 5, 6, 1⟩ ++ [7, 8, 9, 10, 11]
    let begun := preamble ++ Header.encode ⟨.clear, .plain, 12, 13, 2⟩ ++ [14]
    let fresh := BufferedFramer.new 2
    let framer := fresh.after [.feed (wrong ++ begun), .forget]
    (framer.isWaiting = true ∧
        framer.rawHeader = Header.encode ⟨.clear, .plain, 12, 13, 2⟩ ∧
        framer.rawFooter = [8, 9, 10, 11]) ∧
      ∀ later, framer.observe later = fresh.observe later := by
  intro wrong begun fresh framer
  have leftovers : framer.isWaiting = true ∧
      framer.rawHeader = Header.encode ⟨.clear, .plain, 12, 13, 2⟩ ∧
      framer.rawFooter = [8, 9, 10, 11] := by decide +kernel
  obtain ⟨asNew, _, _, _⟩ := BufferedFramer.as_new 2 [.feed (wrong ++ begun), .forget]
  exact ⟨leftovers, asNew leftovers.1⟩

end DatagramLink
