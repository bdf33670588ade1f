import DatagramLink.Damage
import DatagramLink.LinkParameters
import DatagramLink.Proofs.Framing.Detection
import DatagramLink.Proofs.Framing.Padding

namespace DatagramLink

/-- No packet is found in these bytes, even if half a start delimiter came before them. -/
def Harmless (maxPayload : Nat) (wire : Bytes) : Prop :=
  ∀ half packet,
    Framer.Event.packet packet ∉ (Framer.absorbAll maxPayload (.preamble half) wire).2

/-- A whole packet stands at the beginning of these bytes: start delimiter, readable header, as much
payload as it declares and the framer accepts, and behind it the right checksum. -/
def beginsPacket (maxPayload : Nat) (bytes : Bytes) : Bool :=
  let raw := (bytes.drop preamble.length).take Header.size
  let body := bytes.drop (preamble.length + Header.size)
  bytes.take preamble.length = preamble ∧ (Header.decode raw).toOption.any fun (header, _) =>
    let payload := body.take header.length.toNat
    payload.length = header.length.toNat ∧ header.length.toNat ≤ maxPayload ∧
      (body.drop header.length.toNat).take Checksum.size = le32 (crc32 (preamble ++ raw ++ payload))

/-- A whole packet stands somewhere in these bytes. -/
def holdsPacket (maxPayload : Nat) (bytes : Bytes) : Bool := bytes.tails.any (beginsPacket maxPayload)

/-- Whether the damage can set no packet free that hides in these bytes. Without its start delimiter,
all of the packet is searched for another one, and half a delimiter may have come before it. Behind
a header that is refused, the rest is searched. Behind one that declares less than there is, a
packet ends too early, and what is left of the payload is searched. One that declares more waits for
more than there is. -/
def Packet.containsDamage (packet : Packet) (maxPayload : Nat) (wire : Bytes) : Bool :=
  let body := wire.drop (preamble.length + Header.size)
  if wire.take preamble.length = preamble then
    match Header.decode ((wire.drop preamble.length).take Header.size) with
    | .error _ => !holdsPacket maxPayload body
    | .ok (header, _) =>
      let length := header.length.toNat
      if maxPayload < length then !holdsPacket maxPayload body
      else if length < packet.payload.length then
        !beginsPacket maxPayload wire && !holdsPacket maxPayload (body.drop (length + Checksum.size))
      else true
  else !holdsPacket maxPayload (0x68 :: wire)

theorem offs_flipByte {bytes : Bytes} (nonempty : bytes ≠ []) (index : Nat) {mask : UInt8}
    (flips : mask ≠ 0) : OneByteOff bytes (flipByte bytes (index, mask)) := by
  refine OneByteOff.modify ?_ (Nat.mod_lt index (List.length_pos_iff.mpr nonempty))
  intro byte same
  refine flips (UInt8.xor_right_inj byte |>.mp ?_)
  rw [← same, UInt8.xor_zero]

theorem Packet.encode_ne_nil (packet : Packet) : packet.encode ≠ [] := List.cons_ne_nil _ _

section reading

variable {maxPayload : Nat} {packet : Packet}

/-- A packet is found only where there are as many bytes as it has. -/
theorem Reading.length_encode_le {stream : Bytes}
    (found : .packet packet ∈ (Reading.of maxPayload stream).events) :
    packet.encode.length ≤ stream.length := by
  fun_induction Reading.of maxPayload stream with
  | case1 => cases found
  | case2 => cases found
  | case3 stream rest delimiter long _ raw body error refused ih =>
    have shorter := length_behindDelimiter delimiter
    have later := ih ((List.mem_cons.mp found).resolve_left fun same => by cases same)
    simp only [body, List.length_drop] at later
    omega
  | case4 stream rest delimiter long _ raw body header _ read length large ih =>
    have shorter := length_behindDelimiter delimiter
    have later := ih ((List.mem_cons.mp found).resolve_left fun same => by cases same)
    simp only [body, List.length_drop] at later
    omega
  | case5 => cases found
  | case6 stream rest delimiter long _ raw body header _ read length fits whole ih =>
    have shorter := length_delimiter_le delimiter
    have bodySize : body.length = rest.length - Header.size := List.length_drop
    rcases List.mem_cons.mp found with here | behind
    · unfold Framer.verdict at here
      split at here
      · cases here
        have payloadSize : (body.take length).length = length := List.length_take_of_le (by omega)
        simp only [Packet.length_encode, payloadSize, Packet.overhead]
        omega
      · cases here
    · have later := ih behind
      simp only [List.length_drop] at later
      omega

theorem Framer.length_encode_le {stream : Bytes}
    (found : .packet packet ∈ (Framer.absorbAll maxPayload (.preamble false) stream).2) :
    packet.encode.length ≤ stream.length := by
  obtain ⟨events, _⟩ := Framer.absorbAll_eq_reading maxPayload stream
  rw [events] at found
  exact Reading.length_encode_le found

/-- Half a delimiter before the first byte of another makes no difference. -/
theorem Framer.absorbAll_half (maxPayload : Nat) (half : Bool) (rest : Bytes) :
    Framer.absorbAll maxPayload (.preamble half) (0x68 :: rest) =
      Framer.absorbAll maxPayload (.preamble false) (0x68 :: rest) := by
  cases half <;> rfl

theorem Framer.absorbAll_intact (framed : packet.Framed maxPayload) (half : Bool) :
    Framer.absorbAll maxPayload (.preamble half) packet.encode =
      (.preamble false, [.packet packet]) := by
  have idle : Idle [] := by decide
  have read := Framer.absorbAll_encode framed idle []
  rw [List.nil_append, List.append_nil] at read
  exact (Framer.absorbAll_half maxPayload half _).trans read

/-- A packet is not found before its last byte is there. -/
theorem Framer.absorbAll_unfinished (framed : packet.Framed maxPayload) (half : Bool)
    {got rest : Bytes} (split : packet.encode = got ++ rest) (more : rest ≠ []) :
    (Framer.absorbAll maxPayload (.preamble half) got).2 = [] := by
  cases got with
  | nil => rfl
  | cons first got =>
    have begins : first = 0x68 := (List.cons.inj split).1.symm
    subst begins
    rw [Framer.absorbAll_half]
    have whole := congrArg Prod.snd (Framer.absorbAll_intact framed false)
    rw [split, Framer.absorbAll_append] at whole
    cases early : (Framer.absorbAll maxPayload (.preamble false) (0x68 :: got)).2 with
    | nil => rfl
    | cons event others =>
      simp only [early, List.cons_append] at whole
      have found : .packet packet ∈
          (Framer.absorbAll maxPayload (.preamble false) (0x68 :: got)).2 := by
        rw [early, (List.cons.inj whole).1]
        exact List.mem_cons_self ..
      have enough := Framer.length_encode_le found
      have left := List.length_pos_iff.mpr more
      rw [split, List.length_append] at enough
      omega

end reading

section hidden

variable {maxPayload : Nat} {stream : Bytes}

theorem suffix_of_behindDelimiter {rest : Bytes} (found : behindDelimiter? stream = some rest) :
    preamble ++ rest <:+ stream := by
  induction stream with
  | nil => cases found
  | cons first later ih =>
    cases later with
    | nil => cases found
    | cons second tail =>
      rw [behindDelimiter?] at found
      split at found
      · rename_i delimiter
        cases found
        rw [delimiter.1, delimiter.2]
        exact List.suffix_refl _
      · exact (ih found).trans (List.suffix_cons ..)

theorem holdsPacket_of_suffix {part : Bytes} (behind : part <:+ stream)
    (holds : holdsPacket maxPayload part = true) : holdsPacket maxPayload stream = true := by
  obtain ⟨start, inside, begins⟩ := List.any_eq_true.mp holds
  refine List.any_eq_true.mpr ⟨start, ?_, begins⟩
  exact (List.mem_tails _ _).mpr (((List.mem_tails _ _).mp inside).trans behind)

theorem holdsPacket_of_begins (begins : beginsPacket maxPayload stream = true) :
    holdsPacket maxPayload stream = true :=
  List.any_eq_true.mpr ⟨stream, (List.mem_tails _ _).mpr (List.suffix_refl _), begins⟩

/-- What the framer accepts at a start delimiter is a packet that stands there. -/
theorem beginsPacket_of_verdict {rest unread : Bytes} {header : Header} {packet : Packet}
    (read : Header.decode (rest.take Header.size) = .ok (header, unread))
    (fits : ¬ maxPayload < header.length.toNat)
    (whole : ¬ (rest.drop Header.size).length < header.length.toNat + Checksum.size)
    (accepted : Framer.verdict (rest.take Header.size) header
      ((rest.drop Header.size).take header.length.toNat)
      (((rest.drop Header.size).drop header.length.toNat).take Checksum.size) = .packet packet) :
    beginsPacket maxPayload (preamble ++ rest) = true := by
  have behind : (preamble ++ rest).drop (preamble.length + Header.size) =
      rest.drop Header.size := by
    rw [← List.drop_drop, List.drop_left]
  have size : ((rest.drop Header.size).take header.length.toNat).length =
      header.length.toNat := List.length_take_of_le (by omega)
  unfold Framer.verdict at accepted
  split at accepted
  · rename_i sound
    simp only [beginsPacket, List.take_left, List.drop_left, behind, read]
    exact decide_eq_true ⟨trivial, decide_eq_true ⟨size, Nat.not_lt.mp fits, sound⟩⟩
  · cases accepted

theorem Reading.holdsPacket_of_found {packet : Packet}
    (found : .packet packet ∈ (Reading.of maxPayload stream).events) :
    holdsPacket maxPayload stream = true := by
  fun_induction Reading.of maxPayload stream with
  | case1 => cases found
  | case2 => cases found
  | case3 stream rest delimiter long _ raw body error refused ih =>
    have later := ih ((List.mem_cons.mp found).resolve_left fun same => by cases same)
    have behind := (List.suffix_append preamble rest).trans (suffix_of_behindDelimiter delimiter)
    exact holdsPacket_of_suffix ((List.drop_suffix _ _).trans behind) later
  | case4 stream rest delimiter long _ raw body header _ read length large ih =>
    have later := ih ((List.mem_cons.mp found).resolve_left fun same => by cases same)
    have behind := (List.suffix_append preamble rest).trans (suffix_of_behindDelimiter delimiter)
    exact holdsPacket_of_suffix ((List.drop_suffix _ _).trans behind) later
  | case5 => cases found
  | case6 stream rest delimiter long _ raw body header _ read length fits whole ih =>
    have stands := suffix_of_behindDelimiter delimiter
    rcases List.mem_cons.mp found with here | later
    · have begins := beginsPacket_of_verdict read fits whole here.symm
      exact holdsPacket_of_suffix stands (holdsPacket_of_begins begins)
    · have behind := (List.suffix_append preamble rest).trans stands
      exact holdsPacket_of_suffix
        ((List.drop_suffix _ _).trans ((List.drop_suffix _ _).trans behind)) (ih later)

theorem Framer.holdsPacket_of_found {packet : Packet}
    (found : .packet packet ∈ (Framer.absorbAll maxPayload (.preamble false) stream).2) :
    holdsPacket maxPayload stream = true := by
  obtain ⟨events, _⟩ := Framer.absorbAll_eq_reading maxPayload stream
  rw [events] at found
  exact Reading.holdsPacket_of_found found

/-- Half a delimiter may stand before the bytes. -/
theorem Framer.holdsPacket_of_half {packet : Packet} {half : Bool}
    (found : .packet packet ∈ (Framer.absorbAll maxPayload (.preamble half) stream).2) :
    holdsPacket maxPayload (0x68 :: stream) = true := by
  cases half with
  | false => exact holdsPacket_of_suffix (List.suffix_cons ..) (Framer.holdsPacket_of_found found)
  | true =>
    -- the half delimiter is the state of a framer that has read it
    have before : .packet packet ∈
        (Framer.absorbAll maxPayload (.preamble false) (0x68 :: stream)).2 := found
    exact Framer.holdsPacket_of_found before

end hidden

section stretches

variable {maxPayload : Nat} {rest unread : Bytes} {header : Header} {packet : Packet}

theorem delimiter_append_drop {wire : Bytes} (delimiter : wire.take preamble.length = preamble) :
    preamble ++ wire.drop preamble.length = wire :=
  (congrArg (· ++ _) delimiter.symm).trans (List.take_append_drop _ wire)

/-- Half a delimiter before a whole one makes no difference. -/
theorem Framer.absorbAll_delimited {wire : Bytes} (half : Bool)
    (delimiter : wire.take preamble.length = preamble) :
    Framer.absorbAll maxPayload (.preamble half) wire =
      Framer.absorbAll maxPayload (.header []) (wire.drop preamble.length) := by
  have parts := delimiter_append_drop delimiter
  generalize wire.drop preamble.length = rest at parts ⊢
  subst parts
  cases half <;> rfl

/-- Behind a header that is refused, the search goes on. -/
theorem Framer.holdsPacket_of_refused
    (refused : Framer.enter maxPayload (rest.take Header.size) =
      (.preamble false, some .invalidHeader))
    (found : .packet packet ∈ (Framer.absorbAll maxPayload (.header []) rest).2) :
    holdsPacket maxPayload (rest.drop Header.size) = true := by
  rw [Framer.absorbAll_header] at found
  split at found
  · cases found
  · rw [refused] at found
    exact Framer.holdsPacket_of_found ((List.mem_cons.mp found).resolve_left fun same => by
      cases same)

/-- Behind a header that is accepted, there is a packet or the search goes on, provided there is as
much as it declares. -/
theorem Framer.found_of_accepted
    (read : Header.decode (rest.take Header.size) = .ok (header, unread))
    (fits : ¬ maxPayload < header.length.toNat)
    (found : .packet packet ∈ (Framer.absorbAll maxPayload (.header []) rest).2) :
    ¬ (rest.drop Header.size).length < header.length.toNat + Checksum.size ∧
      (beginsPacket maxPayload (preamble ++ rest) = true ∨
        holdsPacket maxPayload
          ((rest.drop Header.size).drop (header.length.toNat + Checksum.size)) = true) := by
  rw [Framer.absorbAll_header, Framer.enter_accepted read fits] at found
  split at found
  · cases found
  · by_cases whole : (rest.drop Header.size).length < header.length.toNat + Checksum.size
    · obtain ⟨phase, _, unfinished⟩ :=
        Framer.absorbAll_incomplete maxPayload (rest.take Header.size) header whole
      dsimp only at found
      rw [unfinished] at found
      cases found
    · dsimp only at found
      rw [Framer.absorbAll_complete maxPayload _ header whole] at found
      refine ⟨whole, (List.mem_cons.mp found).imp ?_ Framer.holdsPacket_of_found⟩
      exact fun here => beginsPacket_of_verdict read fits whole here.symm

end stretches

section checksum

variable {maxPayload : Nat} {packet : Packet} {wire : Bytes}

/-- The checksum in the damaged bytes is not the one of the damaged bytes. -/
theorem OneByteOff.verdict_eq {raw payload footer : Bytes} (header : Header)
    (off : OneByteOff packet.encode (preamble ++ raw ++ payload ++ footer))
    (rawSize : raw.length = Header.size) (payloadSize : payload.length = packet.payload.length) :
    Framer.verdict raw header payload footer = .checksumMismatch header := by
  rw [Framer.verdict_eq]
  refine if_neg fun sound => ?_
  have covered : (preamble ++ packet.header.encode ++ packet.payload).length =
      (preamble ++ raw ++ payload).length := by
    simp only [List.length_append, Header.length_encode, rawSize, payloadSize]
  rcases off.of_append covered with ⟨inside, same⟩ | ⟨same, inFooter⟩
  · rw [sound] at same
    have checksums := congrArg Checksum.decode? same
    rw [Checksum.decode?_encode, Checksum.decode?_encode] at checksums
    exact inside.crc32_ne (congrArg Checksum.value (Option.some.inj checksums))
  · have unchanged : packet.footer.encode = footer := by
      rw [sound, Checksum.over, ← same]
      rfl
    rw [unchanged] at inFooter
    exact inFooter.crc32_ne rfl

/-- A damaged byte that leaves the frame alone is noticed when the packet ends. -/
theorem OneByteOff.harmless_of_frame {header : Header} {unread : Bytes}
    (off : OneByteOff packet.encode wire) (framed : packet.Framed maxPayload)
    (delimiter : wire.take preamble.length = preamble)
    (read : Header.decode ((wire.drop preamble.length).take Header.size) = .ok (header, unread))
    (length : header.length.toNat = packet.payload.length) : Harmless maxPayload wire := by
  have size := off.length_eq
  rw [Packet.length_encode, Packet.overhead] at size
  let rest := wire.drop preamble.length
  let raw := rest.take Header.size
  let body := rest.drop Header.size
  let payload := body.take packet.payload.length
  let footer := body.drop packet.payload.length
  have frame : rest = raw ++ (payload ++ (footer ++ [])) := by
    rw [List.append_nil, List.take_append_drop, List.take_append_drop]
  have rawSize : raw.length = Header.size := by
    simp only [raw, rest, List.length_take, List.length_drop]
    omega
  have payloadSize : payload.length = packet.payload.length := by
    simp only [payload, body, rest, List.length_take, List.length_drop]
    omega
  have footerSize : footer.length = Checksum.size := by
    simp only [footer, body, rest, List.length_drop]
    omega
  have verdict : Framer.verdict raw header payload footer = .checksumMismatch header := by
    refine OneByteOff.verdict_eq header ?_ rawSize payloadSize
    rw [List.append_assoc, List.append_assoc, ← List.append_nil footer, ← frame,
      delimiter_append_drop delimiter]
    exact off
  intro half other found
  have fits : payload.length ≤ maxPayload := payloadSize ▸ framed.fits
  rw [Framer.absorbAll_delimited half delimiter, show wire.drop preamble.length = _ from frame,
    Framer.absorbAll_frame read rawSize (payloadSize.trans length.symm) footerSize fits,
    verdict] at found
  cases List.mem_singleton.mp found

/-- Damage that is contained is harmless, whatever the payload holds. -/
theorem Packet.harmless_of_containsDamage (framed : packet.Framed maxPayload)
    (off : OneByteOff packet.encode wire)
    (contained : packet.containsDamage maxPayload wire = true) : Harmless maxPayload wire := by
  intro half other found
  have size := off.length_eq
  rw [Packet.length_encode] at size
  have body : wire.drop (preamble.length + Header.size) =
      (wire.drop preamble.length).drop Header.size := List.drop_drop.symm
  simp only [Packet.containsDamage, body] at contained
  split at contained
  · rename_i delimiter
    rw [Framer.absorbAll_delimited half delimiter] at found
    split at contained
    · rename_i error unreadable
      have refused : Framer.enter maxPayload ((wire.drop preamble.length).take Header.size) =
          (.preamble false, some .invalidHeader) := by
        simp only [Framer.enter, unreadable]
      rw [Framer.holdsPacket_of_refused refused found] at contained
      cases contained
    · rename_i header unread read
      split at contained
      · rename_i large
        have refused : Framer.enter maxPayload ((wire.drop preamble.length).take Header.size) =
            (.preamble false, some .invalidHeader) := by
          simp only [Framer.enter, read, if_pos large]
        rw [Framer.holdsPacket_of_refused refused found] at contained
        cases contained
      · rename_i fits
        obtain ⟨whole, hidden⟩ := Framer.found_of_accepted read fits found
        simp only [List.length_drop, Packet.overhead] at whole size
        split at contained
        · obtain ⟨here, later⟩ := Bool.and_eq_true_iff.mp contained
          rcases hidden with begins | holds
          · rw [delimiter_append_drop delimiter] at begins
            rw [begins] at here
            cases here
          · rw [holds] at later
            cases later
        · rename_i much
          have length : header.length.toNat = packet.payload.length := by omega
          have harmless := off.harmless_of_frame framed delimiter read length
          rw [← Framer.absorbAll_delimited half delimiter] at found
          exact harmless half other found
  · rw [Framer.holdsPacket_of_half found] at contained
    cases contained

end checksum

section idle

variable {maxPayload : Nat} {packet : Packet} {wire : Bytes}

theorem length_le_of_beginsPacket {bytes : Bytes} (begins : beginsPacket maxPayload bytes = true) :
    preamble <+: bytes ∧ Packet.overhead ≤ bytes.length := by
  obtain ⟨delimiter, stands⟩ := of_decide_eq_true begins
  refine ⟨List.prefix_iff_eq_take.mpr delimiter.symm, ?_⟩
  obtain ⟨⟨header, unread⟩, _, framed⟩ := (Option.any_eq_true _ _).mp stands
  obtain ⟨_, _, footer⟩ := of_decide_eq_true framed
  have size := congrArg List.length footer
  simp only [List.length_take, List.length_drop, le32, List.length_cons, List.length_nil] at size
  simp only [Packet.overhead, Checksum.size] at size ⊢
  omega

/-- Where there is no start delimiter with room for a header and a checksum behind it, there is no
packet. -/
theorem holdsPacket_append_of_idle {front back : Bytes} (idle : Idle front)
    (short : back.length ≤ Header.size + Checksum.size) :
    holdsPacket maxPayload (front ++ back) = false := by
  refine List.any_eq_false.mpr fun start inside begins => ?_
  obtain ⟨⟨rest, delimiter⟩, long⟩ := length_le_of_beginsPacket begins
  obtain ⟨before, split⟩ := (List.mem_tails _ _).mp inside
  have sizes := congrArg List.length split
  simp only [List.length_append] at sizes
  simp only [Packet.overhead] at long
  have within : before ++ preamble <+: front := by
    have both : before ++ preamble <+: front ++ back := by
      rw [← split, ← delimiter, ← List.append_assoc]
      exact List.prefix_append ..
    refine List.prefix_of_prefix_length_le both (List.prefix_append ..) ?_
    simp only [List.length_append]
    omega
  exact idle ((List.suffix_append before preamble).isInfix.trans within.isInfix)

/-- Damage behind the start delimiter is contained if the payload holds no other one, unless the
header now declares less payload than there is. -/
theorem Packet.containsDamage_of_idle (framed : packet.Framed maxPayload)
    (off : OneByteOff packet.encode wire) (idle : Idle packet.payload)
    (delimiter : wire.take preamble.length = preamble)
    (enough : ∀ header unread,
      Header.decode ((wire.drop preamble.length).take Header.size) = .ok (header, unread) →
      packet.payload.length ≤ header.length.toNat) :
    packet.containsDamage maxPayload wire = true := by
  have quiet : holdsPacket maxPayload (packet.payload ++ packet.footer.encode) = false :=
    holdsPacket_append_of_idle idle (Nat.le_add_left Checksum.size Header.size)
  -- either the header is damaged or what comes behind it
  have place : holdsPacket maxPayload (wire.drop (preamble.length + Header.size)) = false ∨
      Header.decode ((wire.drop preamble.length).take Header.size) = .ok (packet.header, []) := by
    have size := off.length_eq
    rw [Packet.length_encode, Packet.overhead] at size
    have covered : (preamble ++ packet.header.encode).length =
        (wire.take (preamble.length + Header.size)).length := by
      simp only [List.length_append, List.length_take, Header.length_encode]
      omega
    rw [Packet.encode, List.append_assoc,
      ← List.take_append_drop (preamble.length + Header.size) wire] at off
    rcases off.of_append covered with ⟨_, body⟩ | ⟨front, _⟩
    · exact Or.inl (body ▸ quiet)
    · refine Or.inr ?_
      have raw : (wire.drop preamble.length).take Header.size = packet.header.encode := by
        rw [List.take_drop, ← front, List.drop_left]
      rw [raw]
      simpa only [List.append_nil] using packet.header.decode_encode []
  simp only [Packet.containsDamage, if_pos delimiter]
  split
  · rename_i error unreadable
    rw [place.resolve_right fun read => by rw [unreadable] at read; cases read]
    rfl
  · rename_i header unread read
    have declared := enough header unread read
    split
    · rename_i large
      have refused : holdsPacket maxPayload (wire.drop (preamble.length + Header.size)) = false := by
        refine place.resolve_right fun same => ?_
        rw [read] at same
        cases same
        exact absurd framed.fits (by rw [← framed.declared]; exact Nat.not_le.mpr large)
      rw [refused]
      rfl
    · rw [if_neg (Nat.not_lt.mpr declared)]

/-- Damage to the start delimiter is contained if there is no other one before the checksum. -/
theorem Packet.containsDamage_of_lost (lost : wire.take preamble.length ≠ preamble)
    (idle : Idle (0x68 :: wire.take (wire.length - Checksum.size))) :
    packet.containsDamage maxPayload wire = true := by
  have short : (wire.drop (wire.length - Checksum.size)).length ≤ Header.size + Checksum.size := by
    simp only [List.length_drop, Header.size, Checksum.size]
    omega
  have quiet : holdsPacket maxPayload (0x68 :: wire) = false := by
    have parts : holdsPacket maxPayload (_ ++ _) = false := holdsPacket_append_of_idle idle short
    rwa [List.cons_append, List.take_append_drop] at parts
  simp only [Packet.containsDamage, if_neg lost, quiet, Bool.not_false]

/-- No flipped bit of a packet with one byte of payload sets anything free. -/
example :
    let packet : Packet := ⟨⟨.clear, .plain, 0, 0, 1⟩, [9]⟩
    ∀ index < packet.encode.length, ∀ bit < 8, packet.containsDamage 1024
      (flipByte packet.encode (index, 1 <<< UInt8.ofNat bit)) = true := by
  decide +kernel

end idle

/-- Link parameters in a packet that is too large for the framer are no packet to it either: there
are too few bytes behind their first one. -/
theorem LinkParameters.harmless {maxPayload : Nat} {parameters : LinkParameters} {packet : Packet}
    (version : parameters.version = .current) (carried : packet.payload = parameters.encode)
    (declared : packet.header.length.toNat = packet.payload.length)
    (large : maxPayload < packet.payload.length) : Harmless maxPayload packet.encode := by
  obtain ⟨tail, body, size⟩ : ∃ tail, packet.payload ++ packet.footer.encode = 1 :: tail ∧
      tail.length < Packet.overhead := by
    refine ⟨(packet.payload ++ packet.footer.encode).tail, ?_, ?_⟩
    · rw [carried]
      exact congrArg (· :: _) (congrArg ProtocolVersion.major version)
    · rw [List.length_tail, List.length_append, carried, parameters.length_encode,
        packet.footer.length_encode]
      decide
  have written : packet.encode = preamble ++ (packet.header.encode ++ (1 :: tail)) := by
    rw [Packet.encode, List.append_assoc, body, List.append_assoc]
  have refused : Framer.enter maxPayload packet.header.encode =
      (.preamble false, some .invalidHeader) := by
    have read := packet.header.decode_encode []
    rw [List.append_nil] at read
    simp only [Framer.enter, read]
    exact if_pos (declared ▸ large)
  have long : ¬ (packet.header.encode ++ 1 :: tail).length < Header.size := by
    rw [List.length_append, Header.length_encode]
    omega
  intro half other found
  have seek : Framer.absorbAll maxPayload (.preamble half) packet.encode =
      Framer.absorbAll maxPayload (.header []) (packet.header.encode ++ 1 :: tail) := by
    rw [written]
    cases half <;> rfl
  rw [seek, Framer.absorbAll_header, if_neg long, ← packet.header.length_encode, List.take_left,
    List.drop_left, refused] at found
  have inTail : .packet other ∈ (Framer.absorbAll maxPayload (.preamble false) tail).2 :=
    (List.mem_cons.mp found).resolve_left fun same => by cases same
  have enough := Framer.length_encode_le inTail
  rw [Packet.length_encode] at enough
  omega

end DatagramLink
