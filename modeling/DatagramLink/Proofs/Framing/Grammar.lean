import DatagramLink.Proofs.Framing.Bytewise

namespace DatagramLink

/-- What follows the first start delimiter, if there is one. -/
def behindDelimiter? : Bytes → Option Bytes
  | first :: second :: rest =>
    if first = 0x68 ∧ second = 0x43 then some rest else behindDelimiter? (second :: rest)
  | _ => none

theorem length_delimiter_le {stream rest : Bytes} (found : behindDelimiter? stream = some rest) :
    preamble.length + rest.length ≤ stream.length := by
  induction stream with
  | nil => cases found
  | cons first later ih =>
    cases later with
    | nil => cases found
    | cons second tail =>
      rw [behindDelimiter?] at found
      split at found
      · cases found
        exact Nat.le_of_eq (Nat.add_comm ..)
      · exact Nat.le_succ_of_le (ih found)

theorem length_behindDelimiter {stream rest : Bytes} (found : behindDelimiter? stream = some rest) :
    rest.length < stream.length :=
  Nat.lt_of_lt_of_le (Nat.lt_add_of_pos_left (Nat.zero_lt_succ _)) (length_delimiter_le found)

/-- What a byte stream says when it is read as a whole: packets between bytes that belong to
none. This reading knows nothing of phases and chunks. -/
structure Reading where
  events : List Framer.Event
  /-- The bytes at the end that may still become a packet. -/
  leftover : Bytes
  deriving DecidableEq, Repr

/-- A reading of what follows, behind an event. -/
def Reading.after (event : Framer.Event) (reading : Reading) : Reading :=
  { reading with events := event :: reading.events }

/-- A packet is sound if its footer holds, low byte first, the CRC-32 of the start delimiter, the
header as it was received, and the payload. -/
def Framer.verdict (raw : Bytes) (header : Header) (payload footer : Bytes) : Framer.Event :=
  if footer = le32 (crc32 ([0x68, 0x43] ++ raw ++ payload)) then .packet ⟨header, payload⟩
  else .checksumMismatch header

/-- Reads a stream from a point between packets. A header that cannot be read, or that declares too
much payload, is the end of its packet. -/
def Reading.of (maxPayload : Nat) (stream : Bytes) : Reading :=
  match found : behindDelimiter? stream with
  | none => ⟨[], if stream.getLast? = some 0x68 then [0x68] else []⟩
  | some rest =>
    if rest.length < Header.size then ⟨[], preamble ++ rest⟩
    else
      have := length_behindDelimiter found
      let raw := rest.take Header.size
      let body := rest.drop Header.size
      match Header.decode raw with
      | .error _ => (Reading.of maxPayload body).after .invalidHeader
      | .ok (header, _) =>
        let length := header.length.toNat
        if maxPayload < length then (Reading.of maxPayload body).after .invalidHeader
        else if body.length < length + Checksum.size then ⟨[], preamble ++ rest⟩
        else
          (Reading.of maxPayload (body.drop (length + Checksum.size))).after
            (Framer.verdict raw header (body.take length)
              ((body.drop length).take Checksum.size))
termination_by stream.length
decreasing_by all_goals simp only [List.length_drop]; omega

theorem ofLe32_le32 (word : UInt32) :
    ofLe32 (UInt8.ofNat word.toNat) (UInt8.ofNat (word.toNat / 256))
      (UInt8.ofNat (word.toNat / 65536)) (UInt8.ofNat (word.toNat / 16777216)) = word := by
  apply UInt32.toNat_inj.mp
  have bound := word.toNat_lt
  simp only [ofLe32, UInt32.toNat_ofNat', UInt8.toNat_ofNat']
  omega

theorem Checksum.decode?_encode (checksum : Checksum) :
    Checksum.decode? checksum.encode = some checksum := by
  simp only [Checksum.encode, le32, Checksum.decode?, ofLe32_le32]

theorem Checksum.encode_of_decode? {footer : Bytes} {checksum : Checksum}
    (decoded : Checksum.decode? footer = some checksum) : checksum.encode = footer := by
  unfold Checksum.decode? at decoded
  split at decoded
  · cases decoded
    exact le32_ofLe32 _ _ _ _
  · cases decoded

/-- The footer of a sound packet is the encoding of the checksum that a sender computes. -/
theorem Framer.verdict_eq (raw : Bytes) (header : Header) (payload footer : Bytes) :
    Framer.verdict raw header payload footer =
      if footer = (Checksum.over raw payload).encode then .packet ⟨header, payload⟩
      else .checksumMismatch header := rfl

theorem Framer.judge_eq_verdict (raw : Bytes) (header : Header) (payload footer : Bytes) :
    Framer.judge raw header payload footer = Framer.verdict raw header payload footer := by
  rw [Framer.verdict_eq]
  unfold Framer.judge
  by_cases sound : footer = (Checksum.over raw payload).encode
  · subst footer
    rw [Checksum.decode?_encode, if_pos rfl, if_pos]
    simp only [Option.any_some, Checksum.verify, decide_true]
  · rw [if_neg sound, if_neg]
    cases decoded : Checksum.decode? footer with
    | none => exact Bool.false_ne_true
    | some checksum =>
      intro verified
      refine sound ?_
      rw [← Checksum.encode_of_decode? decoded, of_decide_eq_true verified]

theorem behindDelimiter?_cons_of_ne {first : UInt8} (other : first ≠ 0x68) (rest : Bytes) :
    behindDelimiter? (first :: rest) = behindDelimiter? rest := by
  cases rest with
  | nil => rfl
  | cons second rest =>
    rw [behindDelimiter?, if_neg]
    exact fun delimiter => other delimiter.1

theorem getLast?_cons_of_ne {first : UInt8} (other : first ≠ 0x68) (rest : Bytes) :
    (first :: rest).getLast? = some 0x68 ↔ rest.getLast? = some 0x68 := by
  cases rest with
  | nil => simpa using other
  | cons second rest => rw [List.getLast?_cons_cons]

/-- Before the start delimiter nothing happens. Half a delimiter at the start counts. -/
theorem Framer.absorbAll_seek (maxPayload : Nat) (half : Bool) (stream : Bytes) :
    let whole := if half then 0x68 :: stream else stream
    Framer.absorbAll maxPayload (.preamble half) stream =
      match behindDelimiter? whole with
      | none => (.preamble (whole.getLast? = some 0x68), [])
      | some rest => Framer.absorbAll maxPayload (.header []) rest := by
  induction stream generalizing half with
  | nil => cases half <;> rfl
  | cons byte rest ih =>
    have later := ih (byte == 0x68)
    simp only [Framer.absorbAll, Framer.absorb, Option.toList_none, List.nil_append]
    by_cases delimiter : half = true ∧ byte = 0x43
    · obtain ⟨rfl, rfl⟩ := delimiter
      rfl
    · have skipped : (half && byte == 0x43) = false := by simpa using delimiter
      have found : behindDelimiter? (if half then 0x68 :: byte :: rest else byte :: rest) =
          behindDelimiter? (if (byte == 0x68) = true then 0x68 :: rest else rest) := by
        have dropped : behindDelimiter? (if half then 0x68 :: byte :: rest else byte :: rest) =
            behindDelimiter? (byte :: rest) := by
          cases half with
          | false => rfl
          | true => exact if_neg fun both => delimiter ⟨rfl, both.2⟩
        rw [dropped]
        by_cases first : byte = 0x68
        · subst byte
          rfl
        · rw [behindDelimiter?_cons_of_ne first, if_neg (by simpa using first)]
      have ends : (if half then 0x68 :: byte :: rest else byte :: rest).getLast? = some 0x68 ↔
          (if (byte == 0x68) = true then 0x68 :: rest else rest).getLast? = some 0x68 := by
        have same : (if half then 0x68 :: byte :: rest else byte :: rest).getLast? =
            (byte :: rest).getLast? := by
          cases half with
          | false => rfl
          | true => exact List.getLast?_cons_cons
        rw [same]
        by_cases first : byte = 0x68
        · subst byte
          rfl
        · rw [getLast?_cons_of_ne first, if_neg (by simpa using first)]
      simp only [skipped, Bool.false_eq_true, if_false, later, found, ends]

theorem Framer.absorbAll_found (maxPayload : Nat) {stream rest : Bytes}
    (found : behindDelimiter? stream = some rest) :
    Framer.absorbAll maxPayload (.preamble false) stream =
      Framer.absorbAll maxPayload (.header []) rest := by
  have seek := Framer.absorbAll_seek maxPayload false stream
  simp only [Bool.false_eq_true, if_false, found] at seek
  exact seek

/-- A phase that gathers bytes stays until it has them all. -/
theorem Framer.absorbAll_gather (maxPayload : Nat) (wrap : Bytes → Framer.Phase) {size : Nat}
    (ending : Bytes → Framer.Phase × Option Framer.Event)
    (absorb : ∀ got byte, Framer.absorb maxPayload (wrap got) byte =
      if got.length + 1 < size then (wrap (got ++ [byte]), none) else ending (got ++ [byte]))
    (got input : Bytes) (room : got.length < size) :
    Framer.absorbAll maxPayload (wrap got) input =
      if got.length + input.length < size then (wrap (got ++ input), [])
      else
        let (next, event) := ending (got ++ input.take (size - got.length))
        let (last, events) :=
          Framer.absorbAll maxPayload next (input.drop (size - got.length))
        (last, event.toList ++ events) := by
  induction input generalizing got with
  | nil => simp only [Framer.absorbAll, List.length_nil, Nat.add_zero, if_pos room, List.append_nil]
  | cons byte rest ih =>
    by_cases short : got.length + 1 < size
    · obtain ⟨taken, left⟩ := gather_more byte rest short
      have length : (got ++ [byte]).length + rest.length = got.length + (byte :: rest).length := by
        simp only [List.length_append, List.length_cons, List.length_nil]
        omega
      simp only [Framer.absorbAll, absorb, if_pos short]
      rw [ih (got ++ [byte]) (by simpa using short), length, taken, left]
      simp only [Option.toList_none, List.nil_append, List.append_assoc, List.singleton_append]
    · obtain ⟨taken, left, _⟩ := gather_last byte rest room short
      rw [if_neg (by simp only [List.length_cons]; omega), taken, left]
      simp only [Framer.absorbAll, absorb, if_neg short]

theorem Framer.absorbAll_header (maxPayload : Nat) (input : Bytes) :
    Framer.absorbAll maxPayload (.header []) input =
      if input.length < Header.size then (.header input, [])
      else
        let (next, event) := Framer.enter maxPayload (input.take Header.size)
        let (last, events) := Framer.absorbAll maxPayload next (input.drop Header.size)
        (last, event.toList ++ events) := by
  have gather := Framer.absorbAll_gather maxPayload .header (Framer.enter maxPayload)
    (fun _ _ => rfl) [] input (Nat.zero_lt_succ _)
  simpa only [List.length_nil, Nat.zero_add, Nat.sub_zero, List.nil_append] using gather

theorem Framer.absorbAll_payload (maxPayload : Nat) (raw : Bytes) (header : Header)
    (nonempty : 0 < header.length.toNat) (input : Bytes) :
    Framer.absorbAll maxPayload (.payload raw header []) input =
      if input.length < header.length.toNat then (.payload raw header input, [])
      else Framer.absorbAll maxPayload (.footer raw header (input.take header.length.toNat) [])
        (input.drop header.length.toNat) := by
  have gather := Framer.absorbAll_gather maxPayload (.payload raw header)
    (fun got => (.footer raw header got [], none)) (fun _ _ => rfl) [] input nonempty
  simpa only [List.length_nil, Nat.zero_add, Nat.sub_zero, List.nil_append, Option.toList_none]
    using gather

theorem Framer.absorbAll_footer (maxPayload : Nat) (raw : Bytes) (header : Header)
    (payload input : Bytes) :
    Framer.absorbAll maxPayload (.footer raw header payload []) input =
      if input.length < Checksum.size then (.footer raw header payload input, [])
      else
        let (last, events) :=
          Framer.absorbAll maxPayload (.preamble false) (input.drop Checksum.size)
        (last, Framer.verdict raw header payload (input.take Checksum.size) :: events) := by
  have gather := Framer.absorbAll_gather maxPayload (.footer raw header payload)
    (fun got => (.preamble false, some (Framer.judge raw header payload got)))
    (fun _ _ => rfl) [] input (Nat.zero_lt_succ _)
  simpa only [List.length_nil, Nat.zero_add, Nat.sub_zero, List.nil_append,
    Framer.judge_eq_verdict, Option.toList_some, List.singleton_append] using gather

/-- An empty payload has no phase of its own. -/
def Framer.afterHeader (raw : Bytes) (header : Header) : Framer.Phase :=
  if header.length = 0 then .footer raw header [] [] else .payload raw header []

theorem Framer.enter_accepted {maxPayload : Nat} {raw unread : Bytes} {header : Header}
    (read : Header.decode raw = .ok (header, unread)) (fits : ¬ maxPayload < header.length.toNat) :
    Framer.enter maxPayload raw = (Framer.afterHeader raw header, none) := by
  simp only [Framer.enter, read, Framer.afterHeader]
  rw [if_neg fits]
  split <;> rfl

theorem Framer.absorbAll_incomplete (maxPayload : Nat) (raw : Bytes) (header : Header)
    {body : Bytes} (short : body.length < header.length.toNat + Checksum.size) :
    ∃ phase, phase ≠ .preamble false ∧
      Framer.absorbAll maxPayload (Framer.afterHeader raw header) body = (phase, []) := by
  unfold Framer.afterHeader
  by_cases empty : header.length = 0
  · rw [empty, UInt16.toNat_zero, Nat.zero_add] at short
    rw [if_pos empty, Framer.absorbAll_footer, if_pos short]
    exact ⟨_, by simp, rfl⟩
  · have nonempty : 0 < header.length.toNat :=
      Nat.pos_of_ne_zero fun zero => empty (UInt16.toNat_inj.mp zero)
    rw [if_neg empty, Framer.absorbAll_payload _ _ _ nonempty]
    split
    · exact ⟨_, by simp, rfl⟩
    · rw [Framer.absorbAll_footer, if_pos (by simp only [List.length_drop]; omega)]
      exact ⟨_, by simp, rfl⟩

theorem Framer.absorbAll_complete (maxPayload : Nat) (raw : Bytes) (header : Header)
    {body : Bytes} (whole : ¬ body.length < header.length.toNat + Checksum.size) :
    Framer.absorbAll maxPayload (Framer.afterHeader raw header) body =
      let length := header.length.toNat
      let (last, events) :=
        Framer.absorbAll maxPayload (.preamble false) (body.drop (length + Checksum.size))
      (last, Framer.verdict raw header (body.take length)
        ((body.drop length).take Checksum.size) :: events) := by
  unfold Framer.afterHeader
  by_cases empty : header.length = 0
  · rw [empty, UInt16.toNat_zero, Nat.zero_add] at whole
    rw [if_pos empty, Framer.absorbAll_footer, if_neg whole]
    simp only [empty, UInt16.toNat_zero, Nat.zero_add, List.take_zero, List.drop_zero]
  · have nonempty : 0 < header.length.toNat :=
      Nat.pos_of_ne_zero fun zero => empty (UInt16.toNat_inj.mp zero)
    rw [if_neg empty, Framer.absorbAll_payload _ _ _ nonempty, if_neg (by omega),
      Framer.absorbAll_footer, if_neg (by simp only [List.length_drop]; omega)]
    simp only [List.drop_drop]

/-- From a point between packets, the framer reads what the whole stream says. -/
theorem Framer.absorbAll_eq_reading (maxPayload : Nat) (stream : Bytes) :
    let (phase, events) := Framer.absorbAll maxPayload (.preamble false) stream
    let reading := Reading.of maxPayload stream
    events = reading.events ∧ (phase = .preamble false ↔ reading.leftover = []) := by
  fun_induction Reading.of maxPayload stream with
  | case1 stream found =>
    have seek := Framer.absorbAll_seek maxPayload false stream
    simp only [Bool.false_eq_true, if_false, found] at seek
    rw [seek]
    refine ⟨rfl, ?_⟩
    by_cases half : stream.getLast? = some 0x68 <;> simp [half]
  | case2 stream rest found short =>
    rw [Framer.absorbAll_found maxPayload found, Framer.absorbAll_header, if_pos short]
    exact ⟨rfl, by simp [preamble]⟩
  | case3 stream rest found long _ raw body error refused ih =>
    have enter : Framer.enter maxPayload raw = (.preamble false, some .invalidHeader) := by
      simp only [Framer.enter, refused]
    rw [Framer.absorbAll_found maxPayload found, Framer.absorbAll_header, if_neg long, enter]
    exact ⟨congrArg _ ih.1, ih.2⟩
  | case4 stream rest found long _ raw body header _ read length large ih =>
    have enter : Framer.enter maxPayload raw = (.preamble false, some .invalidHeader) := by
      simp only [Framer.enter, read]
      exact if_pos large
    rw [Framer.absorbAll_found maxPayload found, Framer.absorbAll_header, if_neg long, enter]
    exact ⟨congrArg _ ih.1, ih.2⟩
  | case5 stream rest found long _ raw body header _ read length fits short =>
    obtain ⟨phase, inside, absorbed⟩ :=
      Framer.absorbAll_incomplete maxPayload raw header short
    rw [Framer.absorbAll_found maxPayload found, Framer.absorbAll_header, if_neg long,
      Framer.enter_accepted read fits]
    simp only [body] at absorbed
    simp only [absorbed]
    exact ⟨rfl, by simp [inside, preamble]⟩
  | case6 stream rest found long _ raw body header _ read length fits whole ih =>
    have absorbed := Framer.absorbAll_complete maxPayload raw header whole
    rw [Framer.absorbAll_found maxPayload found, Framer.absorbAll_header, if_neg long,
      Framer.enter_accepted read fits]
    simp only [body] at absorbed
    simp only [absorbed]
    exact ⟨congrArg (List.cons _) ih.1, ih.2⟩

/-- Wherever the stream is cut, the framer finds the packets that are in it, and it waits for the
next one exactly if nothing of a packet is left over. -/
theorem Framer.feedAll_eq_reading (maxPayload : Nat) (chunks : List Bytes) :
    let (framer, events) := (Framer.new maxPayload).feedAll chunks
    let reading := Reading.of maxPayload chunks.flatten
    events = reading.events ∧ (framer.isWaiting = true ↔ reading.leftover = []) := by
  have reading := Framer.absorbAll_eq_reading maxPayload chunks.flatten
  have unfinished : (Framer.new maxPayload).phase.Partial := trivial
  rw [Framer.feedAll_eq_absorbAll _ unfinished]
  exact ⟨reading.1, decide_eq_true_iff.trans reading.2⟩

/-- A packet between stray bytes, once as it was sent and once with its last bit flipped, and the
start of another. -/
def strayStream : List Bytes :=
  [[0x00, 0x68, 0x68], [0x43, 0, 0, 0, 0, 2, 0, 0, 0, 1], [], [2, 0x11, 0x52, 0xfc, 0xa0, 0x43],
    [0x68, 0x43, 0, 0, 0, 0, 2, 0, 0, 0, 1, 2, 0x11, 0x52, 0xfc, 0x20, 0x68], [0x43, 0]]

theorem reading_of_strayStream :
    let header : Header := ⟨.clear, .plain, 0, 0, 2⟩
    let reading := Reading.of 2 strayStream.flatten
    reading.events = [.packet ⟨header, [1, 2]⟩, .checksumMismatch header] ∧
      reading.leftover ≠ [] := by
  intro header reading
  have fed : ((Framer.new 2).feedAll strayStream).2 =
      [.packet ⟨header, [1, 2]⟩, .checksumMismatch header] := by decide +kernel
  have partway : ((Framer.new 2).feedAll strayStream).1.isWaiting = false := by decide +kernel
  obtain ⟨events, waits⟩ := Framer.feedAll_eq_reading 2 strayStream
  refine ⟨events.symm.trans fed, fun empty => ?_⟩
  exact absurd (waits.mpr empty) (ne_true_of_eq_false partway)

end DatagramLink
