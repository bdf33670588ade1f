import DatagramLink.Proofs.Framing.Damaged
import DatagramLink.Proofs.Line.Delivery

namespace DatagramLink

/-- The bytes that may arrive for a packet. -/
inductive Packet.ArrivesAs (packet : Packet) (maxPayload : Nat) : Bytes → Prop
  | intact : packet.ArrivesAs maxPayload packet.encode
  /-- Some bits of one byte of a data packet are flipped. Payload is not escaped, so the bytes must
  not set a packet free that hides in it. -/
  | damaged (index : Nat) {mask : UInt8} (data : packet.IsData) (flips : mask ≠ 0)
      (contained :
        packet.containsDamage maxPayload (flipByte packet.encode (index, mask)) = true) :
      packet.ArrivesAs maxPayload (flipByte packet.encode (index, mask))

/-- The framer has read what comes before these bytes in `wire`, from a point between packets. What
comes behind them is the rest. -/
def Framer.Expects (framer : Framer) (wire bytes rest : Bytes) : Prop :=
  ∃ half got, wire = got ++ (bytes ++ rest) ∧
    framer.phase = (Framer.absorbAll framer.maxPayload (.preamble half) got).1

/-- Bytes arrive, whatever they are. -/
def Terminal.takeBytes (here : Terminal) (bytes : Bytes) : Terminal :=
  let (session, reaction) := here.session.receive bytes
  { here with session, delivered := here.delivered ++ reaction.datagrams }

/-- Bytes arrive at this end. With the last of its bytes, a packet is no longer in flight. -/
def Line.takeBytes (line : Line) (side : Side) (bytes : Bytes) (last : Bool) : Line :=
  let gone (there : Terminal) : Terminal :=
    if last then { there with inFlight := there.inFlight.tail } else there
  match side with
  | .a => ⟨line.a.takeBytes bytes, gone line.b⟩
  | .b => ⟨gone line.a, line.b.takeBytes bytes⟩

/-- Runs of the line in which the oldest packet arrives, in any number of chunks and perhaps
damaged, at a framer that looks for a packet. Between the chunks anything else may happen. -/
inductive Line.Conveys (start : Line) : Line → Prop
  | start : start.Conveys start
  | move {line after : Line} {side : Side} {move : Terminal.Move} :
      start.Conveys line → (∀ bytes, move ≠ .arrive bytes) → line.Orderly side move →
      line.step? side move = some after → start.Conveys after
  | arrive {line : Line} {side : Side} {packet : Packet} {others : List Packet}
      {wire bytes rest : Bytes} :
      start.Conveys line → (line.get side.other).inFlight = packet :: others →
      packet.ArrivesAs (line.get side).session.framer.maxPayload wire →
      (line.get side).session.framer.Expects wire bytes rest →
      start.Conveys (line.takeBytes side bytes (rest = []))

section swap

/-- The other end comes first. -/
def Line.swap (line : Line) : Line := ⟨line.b, line.a⟩

variable {line : Line} {side : Side}

theorem Line.step?_swap (move : Terminal.Move) :
    line.swap.step? side.other move = (line.step? side move).map Line.swap := by
  cases side with
  | a => rw [Line.step?, Option.map_map]; rfl
  | b => rw [Line.step?, Option.map_map]; rfl

theorem Line.orderly_swap {move : Terminal.Move} :
    line.swap.Orderly side.other move ↔ line.Orderly side move := by
  cases side <;> exact Iff.rfl

end swap

section arrivals

variable {framer : Framer} {wire bytes rest : Bytes}

theorem Framer.events_append (maxPayload : Nat) (phase : Framer.Phase) (first second : Bytes) :
    (Framer.absorbAll maxPayload phase (first ++ second)).2 =
      (Framer.absorbAll maxPayload phase first).2 ++
        (Framer.absorbAll maxPayload (Framer.absorbAll maxPayload phase first).1 second).2 :=
  congrArg Prod.snd (Framer.absorbAll_append maxPayload phase first second)

/-- What the framer reports for these bytes is a part of what it reports for the whole packet. -/
theorem Framer.Expects.reports (expects : framer.Expects wire bytes rest) :
    ∃ half got, wire = got ++ bytes ++ rest ∧
      (framer.feed bytes).2 <:+
        (Framer.absorbAll framer.maxPayload (.preamble half) (got ++ bytes)).2 ∧
      (framer.feed bytes).2 <:+: (Framer.absorbAll framer.maxPayload (.preamble half) wire).2 := by
  obtain ⟨half, got, split, phase⟩ := expects
  have unfinished : framer.phase.Partial := by
    have start : (Framer.Phase.preamble half).Partial := trivial
    rw [phase]
    exact Framer.partial_absorbAll framer.maxPayload start got
  have fed : (framer.feed bytes).2 =
      (Framer.absorbAll framer.maxPayload framer.phase bytes).2 := by
    rw [Framer.feed_eq_absorbAll unfinished]
  have part : (framer.feed bytes).2 <:+
      (Framer.absorbAll framer.maxPayload (.preamble half) (got ++ bytes)).2 := by
    rw [Framer.events_append, ← phase, ← fed]
    exact List.suffix_append _ _
  rw [← List.append_assoc] at split
  refine ⟨half, got, split, part, ?_⟩
  rw [split, Framer.events_append]
  exact part.isInfix.trans (List.prefix_append _ _).isInfix

/-- Only the last bytes of a sound packet complete it. -/
theorem Framer.Expects.packets_of_framed {packet : Packet}
    (expects : framer.Expects packet.encode bytes rest)
    (framed : packet.Framed framer.maxPayload) :
    (framer.feed bytes).2.filterMap Framer.Event.packet? = [] ∨
      rest = [] ∧ (framer.feed bytes).2.filterMap Framer.Event.packet? = [packet] := by
  obtain ⟨half, got, split, part, whole⟩ := expects.reports
  by_cases last : rest = []
  · rw [Framer.absorbAll_intact framed] at whole
    rcases List.sublist_singleton.mp whole.sublist with quiet | one
    · rw [quiet]
      exact Or.inl rfl
    · rw [one]
      exact Or.inr ⟨last, rfl⟩
  · rw [Framer.absorbAll_unfinished framed half split last, List.suffix_nil] at part
    rw [part]
    exact Or.inl rfl

theorem Framer.Expects.packets_of_harmless (expects : framer.Expects wire bytes rest)
    (harmless : Harmless framer.maxPayload wire) :
    (framer.feed bytes).2.filterMap Framer.Event.packet? = [] := by
  obtain ⟨half, got, _, _, whole⟩ := expects.reports
  refine List.filterMap_eq_nil_iff.mpr fun event member => ?_
  cases event with
  | packet packet => exact absurd (whole.subset member) (harmless half packet)
  | checksumMismatch header => rfl
  | invalidHeader => rfl

end arrivals

/-- Both lanes are sound. -/
structure Line.Sound (line : Line) : Prop where
  lane : ∃ limit removed handed, line.lane.Sound False False limit removed handed
  back : ∃ limit removed handed, line.swap.lane.Sound False False limit removed handed

section sound

variable {line after : Line} {side : Side} {move : Terminal.Move}

theorem Line.Sound.swap (sound : line.Sound) : line.swap.Sound := ⟨sound.back, sound.lane⟩

theorem Line.sound_resting_both {a b : Settings} (validA : a.check = .ok ())
    (validB : b.check = .ok ()) : (Line.resting validA validB).Sound := by
  obtain ⟨limit, lane⟩ := Line.sound_resting validA validB False.elim
  obtain ⟨backLimit, back⟩ := Line.sound_resting validB validA False.elim
  exact ⟨⟨limit, 0, false, lane⟩, ⟨backLimit, 0, false, back⟩⟩

theorem Line.Sound.step (sound : line.Sound) (orderly : line.Orderly side move)
    (stepped : line.step? side move = some after) : after.Sound := by
  have swapped : line.swap.step? side.other move = some after.swap := by
    rw [Line.step?_swap, stepped]
    rfl
  obtain ⟨⟨limit, removed, handed, lane⟩, ⟨backLimit, backRemoved, backHanded, back⟩⟩ := sound
  refine ⟨⟨limit, ?_⟩, ⟨backLimit, ?_⟩⟩
  · exact Line.sound_step lane stepped fun ask up => ⟨not_false, orderly ask up⟩
  · refine Line.sound_step back swapped fun ask up => ⟨not_false, ?_⟩
    exact (Line.orderly_swap.mpr orderly) ask up

theorem Line.Reaches.sound_both {start : Line} (run : Line.Reaches Line.Orderly start line)
    (sound : start.Sound) : line.Sound := by
  induction run with
  | start => exact sound
  | next _ orderly stepped ih => exact ih.step orderly stepped

/-- An intact packet is either read in full, or there is no packet in it for the framer. -/
theorem Line.Sound.framed (sound : line.Sound) {packet : Packet}
    (sent : packet ∈ line.a.inFlight) :
    packet.Framed line.b.session.framer.maxPayload ∨
      ¬ packet.IsData ∧ Harmless line.b.session.framer.maxPayload packet.encode := by
  obtain ⟨limit, removed, handed, lane⟩ := sound.lane
  obtain ⟨_, _, _, back⟩ := sound.back
  have accepts : line.b.session.framer.maxPayload = line.b.session.handshake.here.rxMtu.toNat :=
    lane.accepts
  have cut := lane.cut packet sent
  by_cases fits : packet.payload.length ≤ line.b.session.framer.maxPayload
  · exact Or.inl ⟨cut.declared, fits⟩
  · have other : ¬ packet.IsData := by
      intro data
      have within := cut.within data
      have bound : limit ≤ line.b.session.handshake.here.rxMtu.toNat := by
        rw [lane.limit_eq]
        exact Nat.min_le_right _ _
      omega
    refine Or.inr ⟨other, ?_⟩
    exact LinkParameters.harmless back.version (back.told packet sent other) cut.declared
      (Nat.not_le.mp fits)

/-- Of all that may arrive for a packet, only its own last bytes can complete it. -/
theorem Line.Sound.reports (sound : line.Sound) {packet : Packet} {wire bytes rest : Bytes}
    (sent : packet ∈ line.a.inFlight)
    (arrives : packet.ArrivesAs line.b.session.framer.maxPayload wire)
    (expects : line.b.session.framer.Expects wire bytes rest) :
    (line.b.session.framer.feed bytes).2.filterMap Framer.Event.packet? = [] ∨
      wire = packet.encode ∧ rest = [] ∧
        (line.b.session.framer.feed bytes).2.filterMap Framer.Event.packet? = [packet] := by
  cases arrives with
  | intact =>
    rcases sound.framed sent with framed | ⟨_, harmless⟩
    · exact (expects.packets_of_framed framed).imp_right fun ⟨last, one⟩ => ⟨rfl, last, one⟩
    · exact Or.inl (expects.packets_of_harmless harmless)
  | damaged index data flips contained =>
    have framed := (sound.framed sent).resolve_right fun other => other.1 data
    have off := offs_flipByte packet.encode_ne_nil index flips
    have harmless := packet.harmless_of_containsDamage framed off contained
    exact Or.inl (expects.packets_of_harmless harmless)

theorem Terminal.arrive?_eq {here there : Terminal} {bytes : Bytes} {left : List Packet}
    (arrived : stillInFlight?
      ((here.session.framer.feed bytes).2.filterMap Framer.Event.packet?) there.inFlight =
        some left) :
    here.arrive? there bytes = some (here.takeBytes bytes, { there with inFlight := left }) := by
  simp only [Terminal.arrive?, arrived]
  rfl

/-- Whatever arrives, it is a move of the line, and perhaps the loss of the packet. -/
theorem Line.Sound.takeBytes (sound : line.Sound) {packet : Packet} {others : List Packet}
    {wire bytes rest : Bytes} (flight : line.a.inFlight = packet :: others)
    (arrives : packet.ArrivesAs line.b.session.framer.maxPayload wire)
    (expects : line.b.session.framer.Expects wire bytes rest) :
    (line.takeBytes .b bytes (rest = [])).Sound := by
  have sent : packet ∈ line.a.inFlight := by
    rw [flight]
    exact List.mem_cons_self ..
  have arrival : ∀ {line after : Line} {bytes : Bytes}, line.Sound →
      line.step? .b (.arrive bytes) = some after → after.Sound :=
    fun sound stepped => sound.step (fun ask => by cases ask) stepped
  rcases sound.reports sent arrives expects with quiet | ⟨_, last, one⟩
  · have arrived : stillInFlight? ((line.b.session.framer.feed bytes).2.filterMap
        Framer.Event.packet?) line.a.inFlight = some line.a.inFlight := by
      rw [quiet, stillInFlight?]
    have stepped : line.step? .b (.arrive bytes) = some ⟨line.a, line.b.takeBytes bytes⟩ :=
      congrArg (Option.map _) (Terminal.arrive?_eq arrived)
    have taken := arrival sound stepped
    by_cases last : rest = []
    · -- nothing came of the packet, so it is lost
      have lost : (Line.mk line.a (line.b.takeBytes bytes)).step? .a .lose =
          some (line.takeBytes .b bytes true) := rfl
      rw [decide_eq_true last]
      exact taken.step (fun ask => by cases ask) lost
    · rw [decide_eq_false last]
      exact taken
  · have arrived : stillInFlight? ((line.b.session.framer.feed bytes).2.filterMap
        Framer.Event.packet?) line.a.inFlight = some others := by
      rw [one, flight, stillInFlight?, if_pos rfl, stillInFlight?]
    have stepped : line.step? .b (.arrive bytes) =
        some ⟨{ line.a with inFlight := others }, line.b.takeBytes bytes⟩ :=
      congrArg (Option.map _) (Terminal.arrive?_eq arrived)
    have same : line.takeBytes .b bytes (rest = []) =
        ⟨{ line.a with inFlight := others }, line.b.takeBytes bytes⟩ := by
      simp only [Line.takeBytes, last, decide_true, if_true, flight, List.tail_cons]
    rw [same]
    exact arrival sound stepped

/-- The run lemma. -/
theorem Line.Conveys.sound {start : Line} (run : start.Conveys line) (sound : start.Sound) :
    line.Sound := by
  induction run with
  | start => exact sound
  | move _ _ orderly stepped ih => exact ih.step orderly stepped
  | @arrive line side packet others wire bytes rest _ flight arrives expects ih =>
    cases side with
    | b => exact ih.takeBytes flight arrives expects
    | a =>
      have swapped := ih.swap.takeBytes flight arrives expects
      exact swapped.swap

end sound

section bitErrors

variable {a b : Settings} (validA : a.check = .ok ()) (validB : b.check = .ok ())

/-- Packets may be damaged in one byte each, whatever was sent and received before. No datagram that
is delivered is another than one that was accepted, and the bytes of a damaged packet deliver
nothing and leave both streams as they are. -/
theorem Line.delivered_despite_damage {start line : Line}
    (before : Line.Reaches Line.Orderly (Line.resting validA validB) start)
    (run : start.Conveys line) :
    (∀ datagram ∈ line.b.delivered, datagram ∈ line.a.accepted) ∧
      ∀ packet others wire bytes rest, line.a.inFlight = packet :: others →
        packet.ArrivesAs line.b.session.framer.maxPayload wire → wire ≠ packet.encode →
        line.b.session.framer.Expects wire bytes rest →
        (line.b.takeBytes bytes).delivered = line.b.delivered ∧
          (line.b.takeBytes bytes).session.profile = line.b.session.profile := by
  have sound := run.sound (before.sound_both (Line.sound_resting_both validA validB))
  obtain ⟨limit, removed, handed, lane⟩ := sound.lane
  refine ⟨lane.accepted_of_delivered, ?_⟩
  intro packet others wire bytes rest flight arrives other expects
  have sent : packet ∈ line.a.inFlight := by
    rw [flight]
    exact List.mem_cons_self ..
  have quiet := (sound.reports sent arrives expects).resolve_right fun whole => other whole.1
  obtain ⟨profile, datagrams⟩ := line.b.session.profile_receive bytes
  constructor
  · show line.b.delivered ++ (line.b.session.receive bytes).2.datagrams = line.b.delivered
    rw [datagrams, Session.datagrams_takeAll_of_nil quiet, List.append_nil]
  · exact profile.trans (Session.profile_takeAll_of_nil quiet)

end bitErrors

section runs

/-- What happens on a line where packets arrive in one piece. -/
inductive Conveyance where
  | act (side : Side) (move : Terminal.Move)
  /-- The oldest packet arrives at this end as it was sent. -/
  | intact (side : Side)
  /-- The oldest packet arrives at end `b` with one bit flipped. -/
  | flipped (index bit : Nat)
  deriving DecidableEq

/-- It flips a bit. -/
def Conveyance.isFlip : Conveyance → Bool
  | .flipped _ _ => true
  | .act _ _ | .intact _ => false

/-- Flips one bit of one byte. -/
def flipBit (bytes : Bytes) (index bit : Nat) : Bytes :=
  flipByte bytes (index, 1 <<< UInt8.ofNat bit)

/-- The next state, if this can happen. Only data packets from end `a` are damaged, and no
packet is lost. -/
def Line.convey? (line : Line) : Conveyance → Option Line
  | .act _ (.arrive _) | .act _ .lose => none
  | .act side move => line.step? side move
  | .intact side =>
    match (line.get side.other).inFlight with
    | [] => none
    | packet :: _ => some (line.takeBytes side packet.encode true)
  | .flipped index bit =>
    match line.a.inFlight with
    | [] => none
    | packet :: _ =>
      if packet.IsData ∧ index < packet.encode.length ∧ bit < 8 then
        some (line.takeBytes .b (flipBit packet.encode index bit) true)
      else none

/-- A flipped bit sets nothing free. -/
def Line.Contained (line : Line) : Conveyance → Prop
  | .flipped index bit => ∀ packet ∈ line.a.inFlight.head?,
    packet.containsDamage line.b.session.framer.maxPayload (flipBit packet.encode index bit) = true
  | .act _ _ | .intact _ => True

/-- Packets arrive at a framer that looks for one. -/
def Line.Awaited (line : Line) : Conveyance → Prop
  | .intact side => ∃ half, (line.get side).session.framer.phase = .preamble half
  | .flipped _ _ => ∃ half, line.b.session.framer.phase = .preamble half
  | .act _ _ => True

/-- Resets are asked for in an orderly way. -/
def Line.Settles (line : Line) : Conveyance → Prop
  | .act side move => line.Orderly side move
  | .intact _ | .flipped _ _ => True

instance (line : Line) (conveyance : Conveyance) : Decidable (line.Contained conveyance) :=
  match conveyance with
  | .flipped _ _ => inferInstanceAs (Decidable (∀ _ ∈ _, _ = true))
  | .act _ _ | .intact _ => inferInstanceAs (Decidable True)

instance (line : Line) (conveyance : Conveyance) : Decidable (line.Awaited conveyance) :=
  match conveyance with
  | .intact _ | .flipped _ _ => inferInstanceAs (Decidable (∃ _ : Bool, _ = _))
  | .act _ _ => inferInstanceAs (Decidable True)

instance (line : Line) (conveyance : Conveyance) : Decidable (line.Settles conveyance) :=
  match conveyance with
  | .act side move => inferInstanceAs (Decidable (line.Orderly side move))
  | .intact _ | .flipped _ _ => inferInstanceAs (Decidable True)

/-- The state after all this, if each of it is allowed and can happen. -/
def Line.conveyAll? (allowed : Line → Conveyance → Prop)
    [∀ line conveyance, Decidable (allowed line conveyance)] (line : Line) :
    List Conveyance → Option Line
  | [] => some line
  | conveyance :: conveyances =>
    if allowed line conveyance then
      (line.convey? conveyance).bind (·.conveyAll? allowed conveyances)
    else none

/-- All three conditions under which damage does no harm. -/
def Line.Cautious (line : Line) (conveyance : Conveyance) : Prop :=
  line.Contained conveyance ∧ line.Awaited conveyance ∧ line.Settles conveyance

instance (line : Line) (conveyance : Conveyance) : Decidable (line.Cautious conveyance) :=
  inferInstanceAs (Decidable (_ ∧ _ ∧ _))

theorem Framer.expects_whole {framer : Framer} {half : Bool} (phase : framer.phase = .preamble half)
    (wire : Bytes) : framer.Expects wire wire [] :=
  ⟨half, [], (List.append_nil wire).symm, phase⟩

theorem Line.Conveys.convey {start line after : Line} {conveyance : Conveyance}
    (run : start.Conveys line) (cautious : line.Cautious conveyance)
    (conveyed : line.convey? conveyance = some after) : start.Conveys after := by
  obtain ⟨contained, awaited, settles⟩ := cautious
  cases conveyance with
  | act side move =>
    cases move with
    | arrive => cases conveyed
    | lose => cases conveyed
    | submit | reportError | closeIntake | depart | sendDone | elapsed | askReset =>
      exact run.move (fun _ same => by cases same) settles conveyed
  | intact side =>
    obtain ⟨half, phase⟩ := awaited
    simp only [Line.convey?] at conveyed
    split at conveyed
    · cases conveyed
    · rename_i packet others flight
      cases conveyed
      exact run.arrive flight .intact (Framer.expects_whole phase _)
  | flipped index bit =>
    obtain ⟨half, phase⟩ := awaited
    simp only [Line.convey?] at conveyed
    split at conveyed
    · cases conveyed
    · rename_i packet others flight
      split at conveyed
      · rename_i sound
        obtain ⟨data, _, bound⟩ := sound
        cases conveyed
        have flips : ∀ bit < 8, (1 : UInt8) <<< UInt8.ofNat bit ≠ 0 := by decide
        have sent : (line.get Side.b.other).inFlight = packet :: others := flight
        have held := contained packet (by rw [flight]; rfl)
        exact run.arrive sent (.damaged index data (flips bit bound) held)
          (Framer.expects_whole phase _)
      · cases conveyed

theorem Line.Conveys.all {start line after : Line} {conveyances : List Conveyance}
    (run : start.Conveys line)
    (conveyed : line.conveyAll? Line.Cautious conveyances = some after) : start.Conveys after := by
  induction conveyances generalizing line with
  | nil =>
    cases conveyed
    exact run
  | cons conveyance conveyances ih =>
    unfold Line.conveyAll? at conveyed
    split at conveyed
    · rename_i cautious
      obtain ⟨next, first, rest⟩ := Option.bind_eq_some_iff.mp conveyed
      exact ih (run.convey cautious first) rest
    · cases conveyed

end runs

section witnesses

/-- A packet leaves and its send is done. -/
def departs (side : Side) : List Conveyance := [.act side .depart, .act side (.sendDone (.ok ()))]

/-- End `a` asks for a reset, and both ends come up. -/
def comesUp : List Conveyance :=
  [.act .a .askReset] ++ departs .a ++ [.intact .b] ++ departs .b ++ [.intact .a]

/-- A bit of the payload is flipped, and the packet is sent again. -/
def repeatedConveyances : List Conveyance :=
  comesUp ++ [.act .a (.submit [1, 2, 3])] ++ departs .a ++ [.flipped 11 5] ++ departs .b ++
    [.intact .a] ++ departs .a ++ [.intact .b]

theorem delivered_despite_damage_once :
    ∃ line, (Line.resting Settings.check_serialLine Settings.check_serialLine).conveyAll?
        Line.Cautious repeatedConveyances = some line ∧ line.b.delivered = [[1, 2, 3]] ∧
      (∀ datagram ∈ line.b.delivered, datagram ∈ line.a.accepted) ∧
      ∀ packet others wire bytes rest, line.a.inFlight = packet :: others →
        packet.ArrivesAs line.b.session.framer.maxPayload wire → wire ≠ packet.encode →
        line.b.session.framer.Expects wire bytes rest →
        (line.b.takeBytes bytes).delivered = line.b.delivered ∧
          (line.b.takeBytes bytes).session.profile = line.b.session.profile := by
  have final : ((Line.resting Settings.check_serialLine Settings.check_serialLine).conveyAll?
      Line.Cautious repeatedConveyances).map (·.b.delivered) = some [[1, 2, 3]] := by
    decide +kernel
  obtain ⟨line, run, delivered⟩ := Option.map_eq_some_iff.mp final
  exact ⟨line, run, delivered, Line.delivered_despite_damage Settings.check_serialLine
    Settings.check_serialLine .start (Line.Conveys.all .start run)⟩

/-- Both ends are up, and both framers wait for a packet. -/
def Line.InSync (line : Line) : Prop :=
  (line.a.session.handshake.isUp = true ∧ line.a.session.framer.isWaiting = true) ∧
    line.b.session.handshake.isUp = true ∧ line.b.session.framer.isWaiting = true

instance (line : Line) : Decidable line.InSync := inferInstanceAs (Decidable (_ ∧ _))

/-- After one bit was flipped, and nothing else was damaged or lost, only datagrams that were
accepted are delivered. -/
def DeliveredDespiteFlip (allowed : Line → Conveyance → Prop)
    [∀ line conveyance, Decidable (allowed line conveyance)] : Prop :=
  ∀ {a b : Settings} (validA : a.check = .ok ()) (validB : b.check = .ok ()) {start line : Line}
    {before after : List Conveyance}, (∀ conveyance ∈ before, conveyance.isFlip = false) →
    (Line.resting validA validB).conveyAll? Line.Cautious before = some start → start.InSync →
    start.conveyAll? allowed after = some line → after.countP Conveyance.isFlip = 1 →
    ∀ datagram ∈ line.b.delivered, datagram ∈ line.a.accepted

theorem not_delivered_of_run {allowed : Line → Conveyance → Prop}
    [∀ line conveyance, Decidable (allowed line conveyance)] {settings : Settings}
    (valid : settings.check = .ok ()) (after : List Conveyance) (datagram : Bytes)
    (one : after.countP Conveyance.isFlip = 1)
    (final : ((Line.resting valid valid).conveyAll? Line.Cautious comesUp).any (fun start =>
      start.InSync ∧ (start.conveyAll? allowed after).any fun line =>
        datagram ∈ line.b.delivered ∧ datagram ∉ line.a.accepted) = true) :
    ¬ DeliveredDespiteFlip allowed := by
  intro claim
  have intact : ∀ conveyance ∈ comesUp, conveyance.isFlip = false := by decide
  obtain ⟨start, before, inside⟩ := (Option.any_eq_true _ _).mp final
  obtain ⟨inSync, reached⟩ := of_decide_eq_true inside
  obtain ⟨line, run, wrong⟩ := (Option.any_eq_true _ _).mp reached
  obtain ⟨delivered, unsent⟩ := of_decide_eq_true wrong
  exact unsent (claim valid valid intact before inSync run one datagram delivered)

/-- The datagram is itself a packet. Without its own start delimiter, the packet that carries it is
skipped up to that one. -/
def hiddenPacket : Bytes := (firstFragment [9]).encode

/-- One datagram is sent, and a bit of its start delimiter is flipped. -/
def skippingConveyances : List Conveyance :=
  [.act .a (.submit hiddenPacket)] ++ departs .a ++ [.flipped 0 0]

/-- The header declares 48 bytes instead of 32. The rest of them is the beginning of the packet that
comes next, so the framer looks for a delimiter in the midst of that packet. -/
def swallowingConveyances : List Conveyance :=
  [.act .a (.submit (List.replicate 6 0 ++ hiddenPacket ++ List.replicate 11 0))] ++
    departs .a ++ [.flipped 6 4, .act .a (.elapsed .txTimeout)] ++ departs .a ++ [.intact .b]

/-- End `b` asks for a reset four times, each time before the answer to the last one has arrived.
Acknowledgements of what was sent before a reset count for what is sent after it, and as the second
half of a datagram is dropped, another datagram comes behind its first half. -/
def outpacedConveyances : List Conveyance :=
  let asks : List Conveyance := .act .b .askReset :: departs .b
  let answers : List Conveyance := .intact .a :: departs .a ++ departs .a
  let goesOn : List Conveyance := .intact .a :: departs .a
  let takes : List Conveyance := .intact .b :: departs .b
  [[1], [2], [3, 4], [5]].map (fun datagram => .act .a (.submit datagram)) ++
    asks ++ asks ++ answers ++ [.intact .b] ++ takes ++ asks ++
    answers ++ goesOn ++ [.intact .b] ++ takes ++ takes ++ asks ++
    answers ++ goesOn ++ goesOn ++ [.intact .b] ++ takes ++ takes ++ [.flipped 10 0] ++
    answers ++ goesOn ++ goesOn ++ List.replicate 4 (.intact .b)

/-- Each of the conditions is needed: one flipped bit is enough to deliver something that was never
accepted if the flip sets a packet free, or if the next packet does not wait until the framer is
ready for it, or if there are resets on a line that is not settled. -/
theorem not_delivered_despite_flip :
    ¬ DeliveredDespiteFlip (fun line conveyance =>
      line.Awaited conveyance ∧ line.Settles conveyance) ∧
    ¬ DeliveredDespiteFlip (fun line conveyance =>
      line.Contained conveyance ∧ line.Settles conveyance) ∧
    ¬ DeliveredDespiteFlip (fun line conveyance =>
      line.Contained conveyance ∧ line.Awaited conveyance) := by
  refine ⟨?_, ?_, ?_⟩
  · exact not_delivered_of_run Settings.check_serialLine skippingConveyances [9] rfl
      (by decide +kernel)
  · exact not_delivered_of_run Settings.check_serialLine swallowingConveyances [9] rfl
      (by decide +kernel)
  · exact not_delivered_of_run Settings.check_narrowLine outpacedConveyances [3, 5] rfl
      (by decide +kernel)

end witnesses

end DatagramLink
