import DatagramLink.Framer

namespace DatagramLink

/-- The phase still misses at least one byte. -/
def Framer.Phase.Partial : Framer.Phase → Prop
  | .preamble _ => True
  | .header got => got.length < Header.size
  | .payload _ declared got => got.length < declared.length.toNat
  | .footer _ _ _ got => got.length < Checksum.size

/-- Reads one byte. -/
def Framer.absorb (maxPayload : Nat) (phase : Framer.Phase) (byte : UInt8) :
    Framer.Phase × Option Framer.Event :=
  match phase with
  | .preamble half => (if half && byte == 0x43 then .header [] else .preamble (byte == 0x68), none)
  | .header got =>
    if got.length + 1 < Header.size then (.header (got ++ [byte]), none)
    else Framer.enter maxPayload (got ++ [byte])
  | .payload raw header got =>
    if got.length + 1 < header.length.toNat then (.payload raw header (got ++ [byte]), none)
    else (.footer raw header (got ++ [byte]) [], none)
  | .footer raw header payload got =>
    if got.length + 1 < Checksum.size then (.footer raw header payload (got ++ [byte]), none)
    else (.preamble false, some (Framer.judge raw header payload (got ++ [byte])))

/-- Reads bytes one at a time. This does not see where a chunk ends. -/
def Framer.absorbAll (maxPayload : Nat) (phase : Framer.Phase) :
    Bytes → Framer.Phase × List Framer.Event
  | [] => (phase, [])
  | byte :: rest =>
    let (next, event) := Framer.absorb maxPayload phase byte
    let (last, events) := Framer.absorbAll maxPayload next rest
    (last, event.toList ++ events)

theorem Framer.absorbAll_append (maxPayload : Nat) (phase : Framer.Phase) (first second : Bytes) :
    Framer.absorbAll maxPayload phase (first ++ second) =
      let (middle, early) := Framer.absorbAll maxPayload phase first
      let (last, late) := Framer.absorbAll maxPayload middle second
      (last, early ++ late) := by
  induction first generalizing phase with
  | nil => rfl
  | cons byte rest ih =>
    simp only [List.cons_append, Framer.absorbAll, ih, List.append_assoc]

theorem Framer.partial_enter (maxPayload : Nat) (raw : Bytes) :
    (Framer.enter maxPayload raw).1.Partial := by
  unfold Framer.enter
  split
  · exact trivial
  · rename_i header _ _
    split
    · exact trivial
    · split
      · exact Nat.zero_lt_succ _
      · rename_i nonempty
        exact Nat.pos_of_ne_zero fun empty => nonempty (UInt16.toNat_inj.mp empty)

theorem Framer.partial_absorb (maxPayload : Nat) (phase : Framer.Phase) (byte : UInt8) :
    (Framer.absorb maxPayload phase byte).1.Partial := by
  cases phase with
  | preamble half =>
    simp only [Framer.absorb]
    split
    · exact Nat.zero_lt_succ _
    · exact trivial
  | header got =>
    simp only [Framer.absorb]
    split
    · rename_i short
      simpa only [Framer.Phase.Partial, List.length_append, List.length_singleton] using short
    · exact Framer.partial_enter _ _
  | payload raw header got =>
    simp only [Framer.absorb]
    split
    · rename_i short
      simpa only [Framer.Phase.Partial, List.length_append, List.length_singleton] using short
    · exact Nat.zero_lt_succ _
  | footer raw header payload got =>
    simp only [Framer.absorb]
    split
    · rename_i short
      simpa only [Framer.Phase.Partial, List.length_append, List.length_singleton] using short
    · exact trivial

theorem Framer.partial_seek (half : Bool) (input : Bytes) :
    (Framer.seek half input).1.Partial := by
  fun_induction Framer.seek half input with
  | case1 => exact trivial
  | case2 => exact Nat.zero_lt_succ _
  | case3 _ _ _ _ ih => exact ih

theorem Framer.readAll_nil (maxPayload : Nat) (phase : Framer.Phase) :
    Framer.readAll maxPayload phase [] = (phase, []) := by
  rw [Framer.readAll]

/-- Reading goes on where a stretch ends, also if there is nothing to read. -/
theorem Framer.readAll_advance (maxPayload : Nat) {phase : Framer.Phase}
    (unfinished : phase.Partial) (input : Bytes) :
    Framer.readAll maxPayload phase input =
      let stretch := Framer.advance maxPayload phase input
      let (last, events) := Framer.readAll maxPayload stretch.phase stretch.rest
      (last, stretch.event.toList ++ events) := by
  cases input with
  | cons byte rest => rw [Framer.readAll]
  | nil =>
    have still : Framer.advance maxPayload phase [] = { phase, rest := [] } := by
      cases phase with
      | preamble half => rfl
      | header got =>
        have room : got.length < Header.size := unfinished
        simp only [Framer.advance, List.take_nil, List.append_nil, List.drop_nil, if_pos room]
      | payload raw header got =>
        have room : got.length < header.length.toNat := unfinished
        simp only [Framer.advance, List.take_nil, List.append_nil, List.drop_nil, if_pos room]
      | footer raw header payload got =>
        have room : got.length < Checksum.size := unfinished
        simp only [Framer.advance, List.take_nil, List.append_nil, List.drop_nil, if_pos room]
    simp only [still, Framer.readAll_nil, Option.toList_none, List.nil_append]

theorem gather_more {got : Bytes} {size : Nat} (byte : UInt8) (rest : Bytes)
    (short : got.length + 1 < size) :
    got ++ (byte :: rest).take (size - got.length) =
        got ++ [byte] ++ rest.take (size - (got ++ [byte]).length) ∧
      (byte :: rest).drop (size - got.length) = rest.drop (size - (got ++ [byte]).length) := by
  have missing : size - got.length = size - (got ++ [byte]).length + 1 := by
    simp only [List.length_append, List.length_singleton]
    omega
  rw [missing, List.take_succ_cons, List.drop_succ_cons, List.append_assoc, List.singleton_append]
  exact ⟨rfl, rfl⟩

theorem gather_last {got : Bytes} {size : Nat} (byte : UInt8) (rest : Bytes)
    (room : got.length < size) (last : ¬ got.length + 1 < size) :
    got ++ (byte :: rest).take (size - got.length) = got ++ [byte] ∧
      (byte :: rest).drop (size - got.length) = rest ∧ ¬ (got ++ [byte]).length < size := by
  have missing : size - got.length = 1 := by omega
  rw [missing, List.length_append, List.length_singleton]
  exact ⟨rfl, rfl, last⟩

/-- A stretch that goes beyond its first byte is that byte and the stretch behind it. -/
theorem Framer.readAll_cons (maxPayload : Nat) {phase : Framer.Phase}
    (unfinished : phase.Partial) (byte : UInt8) (rest : Bytes) :
    Framer.readAll maxPayload phase (byte :: rest) =
      let (next, event) := Framer.absorb maxPayload phase byte
      let (last, events) := Framer.readAll maxPayload next rest
      (last, event.toList ++ events) := by
  have later := Framer.readAll_advance maxPayload (Framer.partial_absorb maxPayload phase byte) rest
  rw [Framer.readAll_advance maxPayload unfinished]
  cases phase with
  | preamble half =>
    simp only [Framer.absorb, Framer.advance, Framer.seek] at later ⊢
    split
    · rfl
    · rename_i other
      rw [if_neg other] at later
      simp only [later, Option.toList_none, List.nil_append]
  | header got =>
    simp only [Framer.absorb] at later ⊢
    by_cases short : got.length + 1 < Header.size
    · obtain ⟨taken, left⟩ := gather_more byte rest short
      rw [if_pos short] at later ⊢
      simp only [later, Framer.advance, taken, left, Option.toList_none, List.nil_append]
    · obtain ⟨taken, left, full⟩ := gather_last byte rest unfinished short
      rw [if_neg short]
      simp only [Framer.advance, taken, left, if_neg full]
  | payload raw header got =>
    simp only [Framer.absorb] at later ⊢
    by_cases short : got.length + 1 < header.length.toNat
    · obtain ⟨taken, left⟩ := gather_more byte rest short
      rw [if_pos short] at later ⊢
      simp only [later, Framer.advance, taken, left, Option.toList_none, List.nil_append]
    · obtain ⟨taken, left, full⟩ := gather_last byte rest unfinished short
      rw [if_neg short]
      simp only [Framer.advance, taken, left, if_neg full]
  | footer raw header payload got =>
    simp only [Framer.absorb] at later ⊢
    by_cases short : got.length + 1 < Checksum.size
    · obtain ⟨taken, left⟩ := gather_more byte rest short
      rw [if_pos short] at later ⊢
      simp only [later, Framer.advance, taken, left, Option.toList_none, List.nil_append]
    · obtain ⟨taken, left, full⟩ := gather_last byte rest unfinished short
      rw [if_neg short]
      simp only [Framer.advance, taken, left, if_neg full]

theorem Framer.readAll_eq_absorbAll (maxPayload : Nat) {phase : Framer.Phase}
    (unfinished : phase.Partial) (input : Bytes) :
    Framer.readAll maxPayload phase input = Framer.absorbAll maxPayload phase input := by
  induction input generalizing phase with
  | nil => exact Framer.readAll_nil _ _
  | cons byte rest ih =>
    rw [Framer.readAll_cons _ unfinished]
    simp only [Framer.absorbAll, ih (Framer.partial_absorb _ _ _)]

theorem Framer.partial_absorbAll (maxPayload : Nat) {phase : Framer.Phase}
    (unfinished : phase.Partial) (input : Bytes) :
    (Framer.absorbAll maxPayload phase input).1.Partial := by
  induction input generalizing phase with
  | nil => exact unfinished
  | cons byte rest ih => exact ih (Framer.partial_absorb _ _ _)

theorem Framer.feed_eq_absorbAll {framer : Framer} (unfinished : framer.phase.Partial)
    (chunk : Bytes) :
    framer.feed chunk =
      let (phase, events) := Framer.absorbAll framer.maxPayload framer.phase chunk
      ({ framer with phase }, events) := by
  rw [Framer.feed, Framer.readAll_eq_absorbAll _ unfinished]

/-- Takes in several chunks, one after another. -/
def Framer.feedAll (framer : Framer) : List Bytes → Framer × List Framer.Event
  | [] => (framer, [])
  | chunk :: chunks =>
    let (framer, early) := framer.feed chunk
    let (framer, late) := framer.feedAll chunks
    (framer, early ++ late)

/-- Where the chunks are cut makes no difference. -/
theorem Framer.feedAll_eq_absorbAll (framer : Framer) (unfinished : framer.phase.Partial)
    (chunks : List Bytes) :
    framer.feedAll chunks =
      let (phase, events) := Framer.absorbAll framer.maxPayload framer.phase chunks.flatten
      ({ framer with phase }, events) := by
  induction chunks generalizing framer with
  | nil => rfl
  | cons chunk chunks ih =>
    have still := Framer.partial_absorbAll framer.maxPayload unfinished chunk
    simp only [Framer.feedAll, Framer.feed_eq_absorbAll unfinished]
    rw [ih _ still]
    simp only [List.flatten_cons, Framer.absorbAll_append]

section exactness

/-- A payload that is read in full has the length that its header declares. -/
def Framer.Phase.Exact : Framer.Phase → Prop
  | .footer _ declared got _ => got.length = declared.length.toNat
  | .preamble _ | .header _ | .payload .. => True

theorem Framer.exact_enter (maxPayload : Nat) (raw : Bytes) :
    (Framer.enter maxPayload raw).1.Exact ∧
      ∀ packet, (Framer.enter maxPayload raw).2 ≠ some (.packet packet) := by
  unfold Framer.enter
  split
  · exact ⟨trivial, fun packet same => by cases same⟩
  · split
    · exact ⟨trivial, fun packet same => by cases same⟩
    · split
      · rename_i empty
        exact ⟨(congrArg UInt16.toNat empty).symm, fun packet same => by cases same⟩
      · exact ⟨trivial, fun packet same => by cases same⟩

theorem Framer.exact_absorb (maxPayload : Nat) {phase : Framer.Phase} (unfinished : phase.Partial)
    (whole : phase.Exact) (byte : UInt8) :
    (Framer.absorb maxPayload phase byte).1.Exact ∧
      ∀ packet, (Framer.absorb maxPayload phase byte).2 = some (.packet packet) →
        packet.payload.length = packet.header.length.toNat := by
  cases phase with
  | preamble half =>
    simp only [Framer.absorb]
    split <;> exact ⟨trivial, fun packet same => by cases same⟩
  | header got =>
    simp only [Framer.absorb]
    split
    · exact ⟨trivial, fun packet same => by cases same⟩
    · obtain ⟨entered, quiet⟩ := Framer.exact_enter maxPayload (got ++ [byte])
      exact ⟨entered, fun packet same => absurd same (quiet packet)⟩
  | payload raw header got =>
    have room : got.length < header.length.toNat := unfinished
    simp only [Framer.absorb]
    split
    · exact ⟨trivial, fun packet same => by cases same⟩
    · have full : (got ++ [byte]).length = header.length.toNat := by
        rw [List.length_append, List.length_singleton]
        omega
      exact ⟨full, fun packet same => by cases same⟩
  | footer raw header payload got =>
    simp only [Framer.absorb]
    split
    · exact ⟨whole, fun packet same => by cases same⟩
    · refine ⟨trivial, fun packet same => ?_⟩
      unfold Framer.judge at same
      split at same
      · cases same
        exact whole
      · cases same

theorem Framer.exact_absorbAll (maxPayload : Nat) {phase : Framer.Phase}
    (unfinished : phase.Partial) (whole : phase.Exact) (input : Bytes) :
    (Framer.absorbAll maxPayload phase input).1.Exact ∧
      ∀ packet, .packet packet ∈ (Framer.absorbAll maxPayload phase input).2 →
        packet.payload.length = packet.header.length.toNat := by
  induction input generalizing phase with
  | nil => exact ⟨whole, fun packet member => by cases member⟩
  | cons byte rest ih =>
    obtain ⟨next, event⟩ := Framer.exact_absorb maxPayload unfinished whole byte
    obtain ⟨last, events⟩ := ih (Framer.partial_absorb maxPayload phase byte) next
    refine ⟨last, fun packet member => ?_⟩
    simp only [Framer.absorbAll, List.mem_append, Option.mem_toList] at member
    rcases member with here | later
    · exact event packet here
    · exact events packet later

end exactness

end DatagramLink
