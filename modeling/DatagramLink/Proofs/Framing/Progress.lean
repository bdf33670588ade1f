import DatagramLink.Proofs.Framing.Buffers

namespace DatagramLink

/-- Where the loop over a chunk stands between two rounds. -/
structure BufferedFramer.Standing where
  framer : BufferedFramer
  /-- The part of the chunk that is not read yet. -/
  rest : Bytes
  events : List Framer.Event
  deriving DecidableEq

namespace BufferedFramer

/-- Another round if input is left, whether it takes some of it or not. -/
def Standing.next (standing : Standing) : Standing :=
  if standing.rest = [] then standing
  else
    let round := standing.framer.round standing.rest
    { framer := round.framer
      rest := standing.rest.drop round.taken
      events := standing.events ++ round.event.toList }

/-- The loop over a chunk after so many rounds. Nothing here makes it end: a round that takes
nothing would be repeated for ever. -/
def standing (framer : BufferedFramer) (chunk : Bytes) : Nat → Standing
  | 0 => { framer, rest := chunk, events := [] }
  | rounds + 1 => (framer.standing chunk rounds).next

/-- What the fields say of each other between any two rounds. -/
def Coherent (framer : BufferedFramer) (maxPayload : Nat) : Prop :=
  match framer.part with
  | .preamble => framer.header = none ∧ framer.loc ≤ 1
  | .header => framer.header = none ∧ framer.loc ≤ 7
  | .payload => ∃ declared, framer.header = some declared ∧
      declared.length.toNat ≤ maxPayload ∧ framer.payload.length < declared.length.toNat
  | .footer => ∃ declared, framer.header = some declared ∧
      declared.length.toNat ≤ maxPayload ∧ framer.payload.length = declared.length.toNat ∧
        framer.loc ≤ 3

end BufferedFramer

section stretches

theorem Framer.seek_first (half : Bool) (input : Bytes) :
    ∃ first, input = first ++ (Framer.seek half input).2 ∧
      Framer.seek half first = ((Framer.seek half input).1, []) := by
  fun_induction Framer.seek half input with
  | case1 half => exact ⟨[], rfl, rfl⟩
  | case2 half byte rest found =>
    refine ⟨[byte], rfl, ?_⟩
    rw [Framer.seek, if_pos found]
  | case3 half byte rest other ih =>
    obtain ⟨first, whole, sought⟩ := ih
    refine ⟨byte :: first, congrArg (byte :: ·) whole, ?_⟩
    rw [Framer.seek, if_neg other, sought]

/-- A stretch does not look beyond the bytes that it takes. -/
theorem Framer.advance_first (maxPayload : Nat) (phase : Framer.Phase) (input : Bytes) :
    let stretch := Framer.advance maxPayload phase input
    ∃ first, input = first ++ stretch.rest ∧
      Framer.advance maxPayload phase first = { stretch with rest := [] } := by
  intro stretch
  cases phase with
  | preamble half =>
    obtain ⟨first, whole, sought⟩ := Framer.seek_first half input
    refine ⟨first, whole, ?_⟩
    simp only [stretch, Framer.advance, sought]
  | header got =>
    refine ⟨input.take (Header.size - got.length), ?_, ?_⟩
    · simp only [stretch, Framer.advance]
      split <;> exact (List.take_append_drop _ _).symm
    · simp only [stretch, Framer.advance, List.take_take, Nat.min_self, List.drop_take_self]
      split <;> rfl
  | payload raw declared got =>
    refine ⟨input.take (declared.length.toNat - got.length), ?_, ?_⟩
    · simp only [stretch, Framer.advance]
      split <;> exact (List.take_append_drop _ _).symm
    · simp only [stretch, Framer.advance, List.take_take, Nat.min_self, List.drop_take_self]
      split <;> rfl
  | footer raw declared payload got =>
    refine ⟨input.take (Checksum.size - got.length), ?_, ?_⟩
    · simp only [stretch, Framer.advance]
      split <;> exact (List.take_append_drop _ _).symm
    · simp only [stretch, Framer.advance, List.take_take, Nat.min_self, List.drop_take_self]
      split <;> rfl

/-- What a stretch does is what a chunk would do that ends with it. -/
theorem Framer.Reached.feed_stretch {framer : Framer} (reached : framer.Reached) (input : Bytes) :
    let stretch := Framer.advance framer.maxPayload framer.phase input
    ∃ first, input = first ++ stretch.rest ∧
      framer.feed first = ({ framer with phase := stretch.phase }, stretch.event.toList) := by
  intro stretch
  obtain ⟨first, whole, ends⟩ := Framer.advance_first framer.maxPayload framer.phase input
  refine ⟨first, whole, ?_⟩
  rw [Framer.feed, Framer.readAll_advance _ reached.unfinished, ends]
  simp only [Framer.readAll_nil, List.append_nil]
  rfl

theorem Framer.Reached.feed_append {framer : Framer} (reached : framer.Reached)
    (first second : Bytes) :
    framer.feed (first ++ second) =
      let (middle, early) := framer.feed first
      let (last, late) := middle.feed second
      (last, early ++ late) := by
  have between := (reached.feed first).unfinished
  rw [Framer.feed_eq_absorbAll reached.unfinished] at between ⊢
  rw [Framer.feed_eq_absorbAll reached.unfinished, Framer.absorbAll_append]
  simp only [Framer.feed_eq_absorbAll between]

end stretches

/-- The buffers keep a packet that calls lead to. -/
structure BufferedFramer.Serves (framer : BufferedFramer) (model : Framer) : Prop where
  holds : framer.Holds model.maxPayload model.phase
  reached : model.Reached

section rounds

variable {framer : BufferedFramer} {model : Framer} {input : Bytes}

theorem BufferedFramer.serves_after (maxPayload : Nat) (calls : List Framer.Call) :
    ((BufferedFramer.new maxPayload).after calls).Serves ((Framer.new maxPayload).after calls) := by
  have fresh : (BufferedFramer.new maxPayload).Holds (Framer.new maxPayload).maxPayload
      (Framer.new maxPayload).phase := BufferedFramer.holds_new maxPayload
  exact ⟨fresh.after calls, (Framer.reached_after maxPayload calls).1⟩

/-- Between two rounds the buffers are those of a framer that was fed what is read by then. -/
theorem BufferedFramer.Serves.round (serves : framer.Serves model) (nonempty : input ≠ []) :
    ∃ first, input = first ++ input.drop (framer.round input).taken ∧
      (framer.round input).framer.Serves (model.feed first).1 ∧
      (framer.round input).event.toList = (model.feed first).2 := by
  obtain ⟨first, whole, fed⟩ := serves.reached.feed_stretch input
  obtain ⟨holds, event, _, _, rest⟩ := serves.holds.round nonempty
  have still := serves.reached.feed first
  refine ⟨first, rest ▸ whole, ⟨?_, still⟩, ?_⟩
  · rw [fed]
    exact holds
  · rw [fed, event]

theorem BufferedFramer.Serves.coherent (serves : framer.Serves model) :
    framer.Coherent model.maxPayload := by
  obtain ⟨⟨_, _, _, keeps, _⟩, unfinished, whole, within⟩ := serves
  cases here : model.phase with
  | preamble half =>
    rw [here] at keeps
    obtain ⟨part, loc, unknown⟩ := keeps
    rw [BufferedFramer.Coherent, part]
    exact ⟨unknown, loc ▸ half.toNat_le⟩
  | header got =>
    rw [here] at keeps unfinished
    obtain ⟨part, loc, unknown, _⟩ := keeps
    have room : framer.loc < Header.size := loc ▸ unfinished
    rw [BufferedFramer.Coherent, part]
    exact ⟨unknown, Nat.le_of_lt_succ room⟩
  | payload raw declared got =>
    rw [here] at keeps unfinished within
    obtain ⟨part, _, known, _, rfl⟩ := keeps
    rw [BufferedFramer.Coherent, part]
    exact ⟨declared, known, within, unfinished⟩
  | footer raw declared payload got =>
    rw [here] at keeps unfinished whole within
    obtain ⟨part, loc, known, _, rfl, _⟩ := keeps
    have room : framer.loc < Checksum.size := loc ▸ unfinished
    rw [BufferedFramer.Coherent, part]
    exact ⟨declared, known, within, whole, Nat.le_of_lt_succ room⟩

theorem BufferedFramer.consume_round (nonempty : input ≠ [])
    (progress : 0 < (framer.round input).taken) :
    framer.consume input =
      let round := framer.round input
      let (last, events) := round.framer.consume (input.drop round.taken)
      (last, round.event.toList ++ events) := by
  obtain ⟨byte, others, rfl⟩ := List.exists_cons_of_ne_nil nonempty
  rw [BufferedFramer.consume, if_pos progress]

end rounds

/-- The loop over a chunk after some rounds. It is bound for the result of the whole chunk, and came
closer to it with each round. -/
structure BufferedFramer.Standing.Underway (standing : BufferedFramer.Standing)
    (start : BufferedFramer) (model : Framer) (chunk : Bytes) (rounds : Nat) : Prop where
  fed : ∃ read, chunk = read ++ standing.rest ∧ standing.framer.Serves (model.feed read).1 ∧
    standing.events = (model.feed read).2
  outcome : start.consume chunk =
    let (last, late) := standing.framer.consume standing.rest
    (last, standing.events ++ late)
  closer : standing.rest = [] ∨ standing.rest.length + rounds ≤ chunk.length

section loop

variable {framer : BufferedFramer} {model : Framer} {chunk : Bytes} {rounds : Nat}

theorem BufferedFramer.Standing.Underway.next {standing : BufferedFramer.Standing}
    (reached : model.Reached) (underway : standing.Underway framer model chunk rounds) :
    standing.next.Underway framer model chunk (rounds + 1) := by
  obtain ⟨⟨read, whole, serves, raised⟩, outcome, closer⟩ := underway
  rw [BufferedFramer.Standing.next]
  split
  · rename_i finished
    exact ⟨⟨read, whole, serves, raised⟩, outcome, .inl finished⟩
  · rename_i nonempty
    have follows := serves.holds.round nonempty
    have progress := follows.progress
    have within := follows.within
    obtain ⟨first, ahead, after, event⟩ := serves.round nonempty
    refine ⟨⟨read ++ first, ?_, ?_, ?_⟩, ?_, ?_⟩
    · rw [List.append_assoc, ← ahead, ← whole]
    · rw [reached.feed_append]
      exact after
    · simp only [reached.feed_append, raised, event]
    · -- `consume` gives up after a round that takes nothing; this one takes something
      rw [outcome, BufferedFramer.consume_round nonempty progress]
      simp only [List.append_assoc]
    · have behind := closer.resolve_left nonempty
      refine .inr ?_
      rw [List.length_drop]
      omega

theorem BufferedFramer.Serves.underway (serves : framer.Serves model) (chunk : Bytes)
    (rounds : Nat) :
    (framer.standing chunk rounds).Underway framer model chunk rounds := by
  induction rounds with
  | zero =>
    have nothing : model.feed [] = (model, []) := by rw [Framer.feed, Framer.readAll_nil]
    exact ⟨⟨[], rfl, nothing ▸ serves, nothing ▸ rfl⟩, rfl, .inr (Nat.le_refl _)⟩
  | succ rounds ih => exact ih.next serves.reached

/-- As many rounds as there are bytes are enough. -/
theorem BufferedFramer.Serves.standing_length (serves : framer.Serves model) (chunk : Bytes) :
    framer.standing chunk chunk.length =
      ⟨(framer.consume chunk).1, [], (framer.consume chunk).2⟩ := by
  obtain ⟨_, outcome, closer⟩ := serves.underway chunk chunk.length
  have finished : (framer.standing chunk chunk.length).rest = [] := by
    rcases closer with finished | behind
    · exact finished
    · exact List.length_eq_zero_iff.mp (by omega)
  rw [finished, BufferedFramer.consume] at outcome
  simp only [outcome, List.append_nil, ← finished]

end loop

/-- Whatever was fed and forgotten before: as long as input is left, the next round over a chunk
takes one byte of it at least and no more than there are, so the loop has its result after as many
rounds as the chunk has bytes, or fewer. The fields are coherent all the way, and each round is a
stretch of the framer that remembers just what it needs. -/
theorem BufferedFramer.rounds_progress (maxPayload : Nat) (calls : List Framer.Call)
    (chunk : Bytes) :
    let framer := (BufferedFramer.new maxPayload).after calls
    let model := (Framer.new maxPayload).after calls
    (∀ rounds,
      let standing := framer.standing chunk rounds
      let taken := (standing.framer.round standing.rest).taken
      standing.framer.Coherent maxPayload ∧
        (standing.rest ≠ [] → 0 < taken ∧ taken ≤ standing.rest.length) ∧
        ∃ read, chunk = read ++ standing.rest ∧ standing.events = (model.feed read).2 ∧
          (standing.rest ≠ [] →
            (Framer.advance maxPayload (model.feed read).1.phase standing.rest).rest =
              standing.rest.drop taken)) ∧
      framer.standing chunk chunk.length =
        ⟨(framer.consume chunk).1, [], (framer.consume chunk).2⟩ := by
  intro framer model
  have serves : framer.Serves model := BufferedFramer.serves_after maxPayload calls
  refine ⟨fun rounds => ?_, serves.standing_length chunk⟩
  intro standing taken
  obtain ⟨⟨read, whole, here, raised⟩, _, _⟩ := serves.underway chunk rounds
  have limit : (model.feed read).1.maxPayload = maxPayload :=
    (Framer.reached_after maxPayload calls).2
  have coherent := here.coherent
  rw [limit] at coherent
  refine ⟨coherent, fun nonempty => ?_, read, whole, raised, fun nonempty => ?_⟩
  · have follows := here.holds.round nonempty
    exact ⟨follows.progress, follows.within⟩
  · rw [← limit]
    exact (here.holds.round nonempty).rest.symm

/-- A header that declares no payload leads past the payload, which would have nothing to take. -/
theorem rounds_progress_without_payload :
    let framer := (BufferedFramer.new 2).after [.feed [0x68, 1], .forget, .feed [0x68]]
    let chunk := 0x43 :: Header.encode ⟨.clear, .plain, 1, 2, 0⟩ ++ [3, 4, 5, 6, 0x68]
    let standing := framer.standing chunk 2
    let taken := (standing.framer.round standing.rest).taken
    (standing.framer.part = .footer ∧ standing.rest = [3, 4, 5, 6, 0x68] ∧ taken = 4) ∧
      standing.framer.Coherent 2 ∧ 0 < taken ∧
      framer.standing chunk 14 = ⟨(framer.consume chunk).1, [], (framer.consume chunk).2⟩ := by
  intro framer chunk standing taken
  have passed : standing.framer.part = .footer ∧ standing.rest = [3, 4, 5, 6, 0x68] ∧
      taken = 4 := by decide +kernel
  obtain ⟨progress, finished⟩ :=
    BufferedFramer.rounds_progress 2 [.feed [0x68, 1], .forget, .feed [0x68]] chunk
  obtain ⟨coherent, takes, _⟩ := progress 2
  have left : standing.rest ≠ [] := passed.2.1 ▸ List.cons_ne_nil _ _
  exact ⟨passed, coherent, (takes left).1, finished⟩

end DatagramLink
