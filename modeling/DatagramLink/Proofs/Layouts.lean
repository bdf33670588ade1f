import DatagramLink.Proofs.Checked.Framer

namespace DatagramLink

/-- A record of `size` bytes. Byte strings that meet `Accepted` begin with one, and `canonical` is
how the bytes of a record that was read are written again. -/
structure FixedLayout {α ε : Type} (encode : α → Bytes) (decode : Bytes → Except ε (α × Bytes))
    (size : Nat) (Accepted : Bytes → Prop) (canonical : Bytes → Bytes) : Prop where
  accepts_iff : ∀ bytes, (∃ value rest, decode bytes = .ok (value, rest)) ↔ Accepted bytes
  leaves : ∀ bytes value rest, decode bytes = .ok (value, rest) → rest = bytes.drop size
  restores : ∀ bytes value rest, decode bytes = .ok (value, rest) →
    encode value = canonical (bytes.take size)
  undoes : ∀ value rest, decode (encode value ++ rest) = .ok (value, rest)

/-- No reserved flag is set. -/
def Flags.Known (byte : UInt8) : Prop := byte.toNat < 4

/-- The kind in the high nibble, the reported condition in the low one. -/
def PacketCode.Known (byte : UInt8) : Prop :=
  byte.toNat / 16 ≤ 2 ∧ (byte.toNat % 16 ≤ 6 ∨ byte.toNat % 16 = 15)

/-- The byte strings that begin with a header. -/
structure Header.Accepted (bytes : Bytes) : Prop where
  complete : 8 ≤ bytes.length
  flags : Flags.Known bytes[0]
  code : PacketCode.Known bytes[1]

section codes

theorem Flags.ofByte?_cases (byte : UInt8) :
    (∃ flags, Flags.ofByte? byte = some flags ∧ flags.toByte = byte) ∧ Flags.Known byte ∨
      Flags.ofByte? byte = none ∧ ¬ Flags.Known byte := by
  simp only [Flags.ofByte?, Flags.Known, ← UInt8.toNat_inj]
  split
  case h_5 => exact Or.inr ⟨rfl, by grind⟩
  all_goals
    rename_i value
    exact Or.inl ⟨⟨_, rfl, value.symm⟩, by omega⟩

theorem PacketKind.ofByte_cases (nibble : UInt8) :
    (∃ kind, PacketKind.ofByte nibble = .ok kind ∧ kind.toByte = nibble) ∧ nibble.toNat ≤ 2 ∨
      PacketKind.ofByte nibble = .error (.unknownKind nibble) ∧ ¬ nibble.toNat ≤ 2 := by
  simp only [PacketKind.ofByte, ← UInt8.toNat_inj]
  split
  case h_4 => exact Or.inr ⟨rfl, by grind⟩
  all_goals
    rename_i value
    exact Or.inl ⟨⟨_, rfl, value.symm⟩, by omega⟩

theorem ErrorCode.ofByte_cases (nibble : UInt8) :
    (∃ error, ErrorCode.ofByte nibble = .ok error ∧ error.toByte = nibble) ∧
        (nibble.toNat ≤ 6 ∨ nibble.toNat = 15) ∨
      ErrorCode.ofByte nibble = .error (.unknownError nibble) ∧
        ¬ (nibble.toNat ≤ 6 ∨ nibble.toNat = 15) := by
  simp only [ErrorCode.ofByte, ← UInt8.toNat_inj]
  split
  case h_9 => exact Or.inr ⟨rfl, by grind⟩
  all_goals
    rename_i value
    exact Or.inl ⟨⟨_, rfl, value.symm⟩, by omega⟩

theorem nibbles_eq {byte high low : UInt8} (highEq : high = byte / 16) (lowEq : low = byte % 16) :
    high * 16 + low = byte := by
  apply UInt8.toNat_inj.mp
  have bound := byte.toNat_lt
  have sixteen : (16 : UInt8).toNat = 16 := rfl
  rw [highEq, lowEq, UInt8.toNat_add, UInt8.toNat_mul, UInt8.toNat_div, UInt8.toNat_mod, sixteen]
  omega

/-- A code is read from just the bytes with two known nibbles, and is written as it was. -/
theorem PacketCode.ofByte_cases (byte : UInt8) :
    (∃ code, PacketCode.ofByte byte = .ok code ∧ code.toByte = byte) ∧ PacketCode.Known byte ∨
      (∃ error, PacketCode.ofByte byte = .error error) ∧ ¬ PacketCode.Known byte := by
  have high : (byte / 16).toNat = byte.toNat / 16 := UInt8.toNat_div ..
  have low : (byte % 16).toNat = byte.toNat % 16 := UInt8.toNat_mod ..
  have kinds := PacketKind.ofByte_cases (byte / 16)
  have errors := ErrorCode.ofByte_cases (byte % 16)
  rw [high] at kinds
  rw [low] at errors
  unfold PacketCode.ofByte PacketCode.Known
  rcases kinds with ⟨⟨kind, readKind, sameKind⟩, knownKind⟩ | ⟨refused, unknown⟩
  · rcases errors with ⟨⟨error, readError, sameError⟩, knownError⟩ | ⟨refused, unknown⟩
    · rw [readKind, readError]
      exact Or.inl ⟨⟨⟨kind, error⟩, rfl, nibbles_eq sameKind sameError⟩, knownKind, knownError⟩
    · rw [readKind, refused]
      exact Or.inr ⟨⟨_, rfl⟩, fun known => unknown known.2⟩
  · rw [refused]
    exact Or.inr ⟨⟨_, rfl⟩, fun known => unknown known.1⟩

end codes

section header

theorem Header.of_decode {bytes rest : Bytes} {header : Header}
    (read : Header.decode bytes = .ok (header, rest)) :
    Header.Accepted bytes ∧ rest = bytes.drop Header.size ∧
      header.encode = (bytes.take Header.size).take 6 ++ [0, 0] := by
  unfold Header.decode at read
  split at read
  · rename_i flagByte codeByte ack seq low high first second others
    rcases Flags.ofByte?_cases flagByte with ⟨⟨flags, readFlags, sameFlags⟩, knownFlags⟩ |
      ⟨refused, _⟩
    · rcases PacketCode.ofByte_cases codeByte with ⟨⟨code, readCode, sameCode⟩, knownCode⟩ |
        ⟨⟨error, refused⟩, _⟩
      · simp only [readFlags, readCode] at read
        cases read
        refine ⟨⟨by simp only [List.length_cons]; omega, knownFlags, knownCode⟩, rfl, ?_⟩
        simp only [Header.encode, sameFlags, sameCode, le16_ofLe16]
        rfl
      · simp only [readFlags, refused] at read
        cases read
    · simp only [refused] at read
      cases read
  · cases read

theorem Header.Accepted.decode {bytes : Bytes} (accepted : Header.Accepted bytes) :
    ∃ header rest, Header.decode bytes = .ok (header, rest) := by
  obtain ⟨flagByte, codeByte, ack, seq, low, high, first, second, rest, rfl⟩ :=
    Header.exists_bytes (Nat.not_lt.mpr accepted.complete)
  rcases Flags.ofByte?_cases flagByte with ⟨⟨flags, readFlags, _⟩, _⟩ | ⟨_, unknown⟩
  · rcases PacketCode.ofByte_cases codeByte with ⟨⟨code, readCode, _⟩, _⟩ | ⟨_, unknown⟩
    · simp only [Header.decode, readFlags, readCode]
      exact ⟨_, _, rfl⟩
    · exact absurd accepted.code unknown
  · exact absurd accepted.flags unknown

theorem Header.layout_exact :
    FixedLayout Header.encode Header.decode Header.size Header.Accepted
      fun raw => raw.take 6 ++ [0, 0] where
  accepts_iff bytes := by
    constructor
    · rintro ⟨header, rest, read⟩
      exact (Header.of_decode read).1
    · exact Header.Accepted.decode
  leaves _ _ _ read := (Header.of_decode read).2.1
  restores _ _ _ read := (Header.of_decode read).2.2
  undoes := Header.decode_encode

end header

section parameters

theorem LinkParameters.of_decode {bytes rest : Bytes} {parameters : LinkParameters}
    (read : LinkParameters.decode bytes = .ok (parameters, rest)) :
    bytes = parameters.encode ++ rest := by
  unfold LinkParameters.decode at read
  split at read
  · cases read
    simp only [LinkParameters.encode, le16_ofLe16]
    rfl
  · cases read

theorem LinkParameters.exists_decode {bytes : Bytes}
    (complete : LinkParameters.size ≤ bytes.length) :
    ∃ parameters rest, LinkParameters.decode bytes = .ok (parameters, rest) := by
  match bytes with
  | _ :: _ :: _ :: _ :: _ :: _ :: _ :: _ :: _ :: _ :: _ => exact ⟨_, _, rfl⟩
  | [] | [_] | [_, _] | [_, _, _] | [_, _, _, _] | [_, _, _, _, _] | [_, _, _, _, _, _]
  | [_, _, _, _, _, _, _] | [_, _, _, _, _, _, _, _] | [_, _, _, _, _, _, _, _, _] =>
    exact absurd (Nat.le_of_ble_eq_true rfl) (Nat.not_lt.mpr complete)

theorem LinkParameters.layout_exact :
    FixedLayout LinkParameters.encode LinkParameters.decode LinkParameters.size
      (fun bytes => LinkParameters.size ≤ bytes.length) id where
  accepts_iff bytes := by
    constructor
    · rintro ⟨parameters, rest, read⟩
      rw [LinkParameters.of_decode read, List.length_append, parameters.length_encode]
      omega
    · exact LinkParameters.exists_decode
  leaves bytes parameters rest read := by
    rw [LinkParameters.of_decode read, List.drop_left' parameters.length_encode]
  restores bytes parameters rest read := by
    rw [LinkParameters.of_decode read, List.take_left' parameters.length_encode, id]
  undoes := LinkParameters.decode_encode

end parameters

/-- A header is read from eight bytes with known flags and a known code, and only its reserved word
may be another one when it is written; parameters are read from any ten bytes and are written as
they were. What follows is left alone, and whatever is written can be read. -/
theorem layouts_exact :
    FixedLayout Header.encode Header.decode 8 Header.Accepted (fun raw => raw.take 6 ++ [0, 0]) ∧
      FixedLayout LinkParameters.encode LinkParameters.decode 10 (fun bytes => 10 ≤ bytes.length)
        id :=
  ⟨Header.layout_exact, LinkParameters.layout_exact⟩

/-- The reserved word is read whatever it is, and written as zero. -/
example : (Header.decode [1, 0x26, 5, 4, 3, 0, 0xff, 0xff, 9]).map
    (fun (header, rest) => (header.encode, rest)) = .ok ([1, 0x26, 5, 4, 3, 0, 0, 0], [9]) := by
  decide

end DatagramLink
