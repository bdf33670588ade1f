import DatagramLink.Proofs.Framing.Calls
import DatagramLink.Proofs.Framing.Padding

namespace DatagramLink

/-- The most bytes it takes from here until the framer waits, if no packet can start in them. -/
def Framer.Phase.due (maxPayload : Nat) : Framer.Phase → Nat
  | .preamble half => if half then maxPayload + 13 else 0
  | .header got => Header.size - got.length + maxPayload + Checksum.size
  | .payload _ declared got => declared.length.toNat - got.length + Checksum.size
  | .footer _ _ _ got => Checksum.size - got.length

section silence

variable {maxPayload : Nat} {phase : Framer.Phase} {byte : UInt8}

theorem Framer.Phase.due_le (within : phase.Within maxPayload) :
    phase.due maxPayload ≤ maxPayload + 13 := by
  cases phase with
  | preamble half => cases half <;> simp [Framer.Phase.due]
  | header got => simp only [Framer.Phase.due, Header.size, Checksum.size]; omega
  | payload raw header got =>
    have accepted : header.length.toNat ≤ maxPayload := within
    simp only [Framer.Phase.due, Checksum.size]
    omega
  | footer raw header payload got => simp only [Framer.Phase.due, Checksum.size]; omega

theorem Framer.Phase.eq_of_due_eq_zero (unfinished : phase.Partial)
    (waits : phase.due maxPayload = 0) : phase = .preamble false := by
  cases phase with
  | preamble half =>
    cases half with
    | false => rfl
    | true => cases waits
  | header got =>
    simp only [Framer.Phase.due, Checksum.size] at waits
    omega
  | payload raw header got =>
    simp only [Framer.Phase.due, Checksum.size] at waits
    omega
  | footer raw header payload got =>
    have room : got.length < Checksum.size := unfinished
    simp only [Framer.Phase.due] at waits
    omega

theorem Framer.due_enter (maxPayload : Nat) (raw : Bytes) :
    Framer.enter maxPayload raw = (.preamble false, some .invalidHeader) ∨
      (Framer.enter maxPayload raw).2 = none ∧
        (Framer.enter maxPayload raw).1.due maxPayload ≤ maxPayload + Checksum.size := by
  unfold Framer.enter
  split
  · exact .inl rfl
  · split
    · exact .inl rfl
    · rename_i accepted
      refine .inr ?_
      split
      · exact ⟨rfl, Nat.le_add_left _ _⟩
      · refine ⟨rfl, ?_⟩
        simp only [Framer.Phase.due, List.length_nil]
        omega

/-- A byte that cannot start a packet leaves a framer waiting that waited. Otherwise it either comes
closer to that or gets there with an event. -/
theorem Framer.due_absorb (unfinished : phase.Partial) (silent : byte ≠ 0x68) :
    (phase = .preamble false ∧ Framer.absorb maxPayload phase byte = (.preamble false, none)) ∨
      ((Framer.absorb maxPayload phase byte).2 = none ∧
        (Framer.absorb maxPayload phase byte).1.due maxPayload < phase.due maxPayload) ∨
      ∃ event, Framer.absorb maxPayload phase byte = (.preamble false, some event) := by
  cases phase with
  | preamble half =>
    have other : (byte == 0x68) = false := beq_false_of_ne silent
    cases half with
    | false => exact .inl ⟨rfl, by simp [Framer.absorb, other]⟩
    | true =>
      refine .inr (.inl ⟨rfl, ?_⟩)
      simp only [Framer.absorb, other]
      split
      · simp only [Framer.Phase.due, Header.size, Checksum.size, List.length_nil, if_true]
        omega
      · exact Nat.zero_lt_succ _
  | header got =>
    have room : got.length < Header.size := unfinished
    simp only [Framer.absorb]
    split
    · refine .inr (.inl ⟨rfl, ?_⟩)
      simp only [Framer.Phase.due, List.length_append, List.length_singleton]
      omega
    · rcases Framer.due_enter maxPayload (got ++ [byte]) with refused | ⟨quiet, closer⟩
      · exact .inr (.inr ⟨_, refused⟩)
      · refine .inr (.inl ⟨quiet, Nat.lt_of_le_of_lt closer ?_⟩)
        simp only [Framer.Phase.due]
        omega
  | payload raw header got =>
    have room : got.length < header.length.toNat := unfinished
    simp only [Framer.absorb]
    split
    · refine .inr (.inl ⟨rfl, ?_⟩)
      simp only [Framer.Phase.due, List.length_append, List.length_singleton]
      omega
    · refine .inr (.inl ⟨rfl, ?_⟩)
      simp only [Framer.Phase.due, List.length_nil]
      omega
  | footer raw header payload got =>
    have room : got.length < Checksum.size := unfinished
    simp only [Framer.absorb]
    split
    · refine .inr (.inl ⟨rfl, ?_⟩)
      simp only [Framer.Phase.due, List.length_append, List.length_singleton]
      omega
    · exact .inr (.inr ⟨_, rfl⟩)

theorem Framer.absorbAll_silent (maxPayload : Nat) {idle : Bytes} (silent : 0x68 ∉ idle) :
    Framer.absorbAll maxPayload (.preamble false) idle = (.preamble false, []) := by
  induction idle with
  | nil => rfl
  | cons byte rest ih =>
    obtain ⟨here, behind⟩ := not_or.mp (mt List.mem_cons.mpr silent)
    have other : (byte == 0x68) = false := beq_false_of_ne fun same => here same.symm
    simp only [Framer.absorbAll, Framer.absorb, Bool.false_and, Bool.false_eq_true, if_false, other,
      ih behind, Option.toList_none, List.append_nil]

/-- By the time its due bytes are read, the framer waits, and it raised one event at most. -/
theorem Framer.absorbAll_due (unfinished : phase.Partial) {idle : Bytes} (silent : 0x68 ∉ idle)
    (enough : phase.due maxPayload ≤ idle.length) :
    ∃ events, Framer.absorbAll maxPayload phase idle = (.preamble false, events) ∧
      events.length ≤ 1 := by
  induction idle generalizing phase with
  | nil =>
    rw [Framer.Phase.eq_of_due_eq_zero unfinished (Nat.eq_zero_of_le_zero enough)]
    exact ⟨[], rfl, Nat.zero_le _⟩
  | cons byte rest ih =>
    obtain ⟨here, behind⟩ := not_or.mp (mt List.mem_cons.mpr silent)
    have other : byte ≠ 0x68 := fun same => here same.symm
    rcases @Framer.due_absorb maxPayload phase byte unfinished other with
      ⟨rfl, stays⟩ | ⟨quiet, closer⟩ | ⟨event, ends⟩
    · exact ⟨[], Framer.absorbAll_silent maxPayload silent, Nat.zero_le _⟩
    · rw [List.length_cons] at enough
      obtain ⟨events, last, few⟩ := ih (Framer.partial_absorb maxPayload phase byte) behind
        (by omega)
      refine ⟨events, ?_, few⟩
      simp only [Framer.absorbAll, quiet, last, Option.toList_none, List.nil_append]
    · refine ⟨[event], ?_, Nat.le_refl _⟩
      simp only [Framer.absorbAll, ends, Framer.absorbAll_silent maxPayload behind,
        Option.toList_some, List.append_nil]

/-- What is left of an earlier packet ends with the first `maxPayload + 13` bytes. -/
theorem Framer.Reached.settles {framer : Framer} (reached : framer.Reached) {idle : Bytes}
    (silent : 0x68 ∉ idle) (enough : framer.maxPayload + 13 ≤ idle.length) :
    let early := (framer.feed (idle.take (framer.maxPayload + 13))).2
    early.length ≤ 1 ∧
      Framer.absorbAll framer.maxPayload framer.phase idle = (.preamble false, early) := by
  have due : framer.phase.due framer.maxPayload ≤
      (idle.take (framer.maxPayload + 13)).length := by
    rw [List.length_take, Nat.min_eq_left enough]
    exact Framer.Phase.due_le reached.within
  obtain ⟨events, waits, few⟩ := Framer.absorbAll_due reached.unfinished
    (fun inside => silent (List.mem_of_mem_take inside)) due
  have behind : 0x68 ∉ idle.drop (framer.maxPayload + 13) :=
    fun inside => silent (List.mem_of_mem_drop inside)
  have whole := Framer.absorbAll_append framer.maxPayload framer.phase
    (idle.take (framer.maxPayload + 13)) (idle.drop (framer.maxPayload + 13))
  rw [List.take_append_drop, waits] at whole
  simp only [Framer.absorbAll_silent _ behind, List.append_nil] at whole
  rw [Framer.feed_eq_absorbAll reached.unfinished, waits]
  exact ⟨few, whole⟩

end silence

/-- However a framer was used before, `maxPayload + 13` bytes that cannot start a packet end what it
was in the midst of, with one event at most. From then on it is like new: more such bytes raise
nothing, and the packet behind them is found, wherever the stream is cut. -/
theorem Framer.resynchronizes (maxPayload : Nat) (calls : List Framer.Call) {idle : Bytes}
    (silent : 0x68 ∉ idle) (enough : maxPayload + 13 ≤ idle.length) :
    let framer := (Framer.new maxPayload).after calls
    let early := (framer.feed (idle.take (maxPayload + 13))).2
    early.length ≤ 1 ∧
      (∀ chunks : List Bytes, chunks.flatten = idle →
        framer.feedAll chunks = (Framer.new maxPayload, early)) ∧
      ∀ (packet : Packet) (chunks : List Bytes), packet.Framed maxPayload →
        chunks.flatten = idle ++ packet.encode →
          framer.feedAll chunks = (Framer.new maxPayload, early ++ [.packet packet]) := by
  intro framer early
  obtain ⟨reached, limit⟩ : framer.Reached ∧ framer.maxPayload = maxPayload :=
    Framer.reached_after maxPayload calls
  obtain ⟨few, settled⟩ := reached.settles silent (limit.symm ▸ enough)
  rw [limit] at few settled
  refine ⟨few, fun chunks cut => ?_, fun packet chunks framed cut => ?_⟩
  · rw [Framer.feedAll_eq_absorbAll _ reached.unfinished, cut, limit, settled, Framer.new]
  · have nothing : Idle [] := by decide
    have found := Framer.absorbAll_encode framed nothing []
    rw [List.nil_append, List.append_nil] at found
    rw [Framer.feedAll_eq_absorbAll _ reached.unfinished, cut, limit, Framer.absorbAll_append,
      settled]
    simp only [found, Framer.absorbAll]
    rfl

/-- The longest way: the first idle byte completes a start delimiter, and what follows reads as a
header that declares all that is accepted. The last of the `2 + 13` bytes ends its footer. -/
theorem resynchronizes_the_longest_way :
    let idle : Bytes := [0x43, 0, 0, 0, 0, 2, 0, 0, 0, 1, 1, 0, 0, 0, 0]
    let packet : Packet := ⟨⟨.clear, .plain, 0, 1, 1⟩, [7]⟩
    let mismatch : Framer.Event := .checksumMismatch ⟨.clear, .plain, 0, 0, 2⟩
    let framer := (Framer.new 2).after [.feed [0x68]]
    (0x68 ∉ idle ∧ 2 + 13 ≤ idle.length ∧ packet.Framed 2) ∧
      (framer.feed (idle.take 14)).2 = [] ∧
      ∀ chunks : List Bytes, chunks.flatten = idle ++ packet.encode →
        framer.feedAll chunks = (Framer.new 2, [mismatch, .packet packet]) := by
  intro idle packet mismatch framer
  have silent : 0x68 ∉ idle := by decide
  have enough : 2 + 13 ≤ idle.length := by decide
  have framed : packet.Framed 2 := by decide
  have fresh : (Framer.new 2).phase.Partial := trivial
  have half : framer = ⟨2, .preamble true⟩ :=
    congrArg Prod.fst (Framer.feed_eq_absorbAll fresh [0x68])
  have unfinished : framer.phase.Partial := half ▸ trivial
  have early : (framer.feed (idle.take (2 + 13))).2 = [mismatch] := by
    rw [Framer.feed_eq_absorbAll unfinished, half]
    decide +kernel
  obtain ⟨_, _, found⟩ := Framer.resynchronizes 2 [.feed [0x68]] silent enough
  refine ⟨⟨silent, enough, framed⟩, ?_, fun chunks cut => ?_⟩
  · rw [Framer.feed_eq_absorbAll unfinished, half]
    decide
  · rw [found packet chunks framed cut]
    exact congrArg (fun events => (Framer.new 2, events ++ [.packet packet])) early

end DatagramLink
