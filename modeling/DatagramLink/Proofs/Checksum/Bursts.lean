import DatagramLink.Proofs.Checksum.Bits
import DatagramLink.Proofs.Framing.Grammar

namespace DatagramLink

/-- The bytes with the bits set in `errors` flipped. -/
def corrupt (bytes errors : Bytes) : Bytes := List.zipWith (· ^^^ ·) bytes errors

/-- What a pattern of flipped bits leaves in an empty register. -/
def Crc32.remainder (errors : Bytes) : UInt32 := errors.foldl Crc32.absorb 0

section linear

variable {bytes errors : Bytes}

theorem corrupt_append {moreBytes moreErrors : Bytes} (length : errors.length = bytes.length) :
    corrupt (bytes ++ moreBytes) (errors ++ moreErrors) =
      corrupt bytes errors ++ corrupt moreBytes moreErrors :=
  List.zipWith_append length.symm

theorem Crc32.absorb_xor (first second : UInt32) (byte error : UInt8) :
    Crc32.absorb (first ^^^ second) (byte ^^^ error) =
      Crc32.absorb first byte ^^^ Crc32.absorb second error := by
  have regroup : first ^^^ second ^^^ (byte ^^^ error).toUInt32 =
      first ^^^ byte.toUInt32 ^^^ (second ^^^ error.toUInt32) := by
    rw [UInt8.toUInt32_xor, UInt32.xor_assoc, UInt32.xor_assoc, ← UInt32.xor_assoc second,
      UInt32.xor_comm second, UInt32.xor_assoc]
  rw [Crc32.absorb, regroup, Crc32.repeat_shift_xor, Crc32.absorb, Crc32.absorb]

theorem Crc32.foldl_absorb_corrupt (length : errors.length = bytes.length)
    (first second : UInt32) :
    (corrupt bytes errors).foldl Crc32.absorb (first ^^^ second) =
      bytes.foldl Crc32.absorb first ^^^ errors.foldl Crc32.absorb second := by
  induction bytes generalizing errors first second with
  | nil =>
    cases List.length_eq_zero_iff.mp length
    rfl
  | cons byte bytes ih =>
    cases errors with
    | nil => cases length
    | cons error errors =>
      have step : corrupt (byte :: bytes) (error :: errors) =
          (byte ^^^ error) :: corrupt bytes errors := rfl
      rw [step, List.foldl_cons, Crc32.absorb_xor, ih (Nat.succ.inj length)]
      rfl

/-- Flipping the bits of a word flips the bits of its value. -/
theorem ofLe32_xor (b₀ b₁ b₂ b₃ e₀ e₁ e₂ e₃ : UInt8) :
    ofLe32 (b₀ ^^^ e₀) (b₁ ^^^ e₁) (b₂ ^^^ e₂) (b₃ ^^^ e₃) =
      ofLe32 b₀ b₁ b₂ b₃ ^^^ ofLe32 e₀ e₁ e₂ e₃ := by
  have sum : [b₀ ^^^ e₀, b₁ ^^^ e₁, b₂ ^^^ e₂, b₃ ^^^ e₃].foldl Crc32.absorb (0 ^^^ 0) =
      [b₀, b₁, b₂, b₃].foldl Crc32.absorb 0 ^^^ [e₀, e₁, e₂, e₃].foldl Crc32.absorb 0 :=
    @Crc32.foldl_absorb_corrupt [b₀, b₁, b₂, b₃] [e₀, e₁, e₂, e₃] rfl 0 0
  rw [Crc32.foldl_absorb_word, Crc32.foldl_absorb_word, Crc32.foldl_absorb_word,
    ← Crc32.repeat_shift_xor, UInt32.zero_xor, UInt32.zero_xor, UInt32.zero_xor,
    UInt32.zero_xor] at sum
  exact Crc32.repeat_shift_injective 32 sum

theorem Crc32.crc32_corrupt (length : errors.length = bytes.length) :
    crc32 (corrupt bytes errors) = crc32 bytes ^^^ Crc32.remainder errors := by
  have sum := Crc32.foldl_absorb_corrupt length 0xFFFFFFFF 0
  rw [UInt32.xor_zero] at sum
  rw [crc32, crc32, Crc32.remainder, sum, UInt32.not_xor]

end linear

section codewords

variable {header payload headerErrors payloadErrors footerErrors : Bytes}

theorem Checksum.over_corrupt (headerLength : headerErrors.length = header.length)
    (payloadLength : payloadErrors.length = payload.length) :
    (Checksum.over (corrupt header headerErrors) (corrupt payload payloadErrors)).value =
      (Checksum.over header payload).value ^^^ Crc32.remainder (headerErrors ++ payloadErrors) := by
  -- the start delimiter is covered, and never damaged
  have whole : preamble ++ corrupt header headerErrors ++ corrupt payload payloadErrors =
      corrupt (preamble ++ (header ++ payload)) ([0, 0] ++ (headerErrors ++ payloadErrors)) := by
    have delimiter : corrupt (preamble ++ (header ++ payload))
        ([0, 0] ++ (headerErrors ++ payloadErrors)) =
          preamble ++ corrupt (header ++ payload) (headerErrors ++ payloadErrors) := rfl
    rw [delimiter, corrupt_append headerLength, List.append_assoc]
  have length : ([0, 0] ++ (headerErrors ++ payloadErrors)).length =
      (preamble ++ (header ++ payload)).length := by
    rw [List.length_append, List.length_append, List.length_append, List.length_append,
      headerLength, payloadLength]
    rfl
  rw [Checksum.over, Checksum.over, whole, Crc32.crc32_corrupt length, List.append_assoc]
  rfl

/-- The checksum itself may be damaged too: damage goes unnoticed just when the flipped bits, those
of the checksum at the end, have remainder zero. -/
theorem Checksum.verify_corrupt (headerLength : headerErrors.length = header.length)
    (payloadLength : payloadErrors.length = payload.length)
    (footerLength : footerErrors.length = Checksum.size) :
    ∃ footer,
      Checksum.decode? (corrupt (Checksum.over header payload).encode footerErrors) =
          some footer ∧
        (Checksum.verify (corrupt header headerErrors) (corrupt payload payloadErrors) footer ↔
          Crc32.remainder (headerErrors ++ payloadErrors ++ footerErrors) = 0) := by
  obtain ⟨e₀, e₁, e₂, e₃, rfl⟩ : ∃ e₀ e₁ e₂ e₃, footerErrors = [e₀, e₁, e₂, e₃] := by
    match footerErrors, footerLength with
    | [e₀, e₁, e₂, e₃], _ => exact ⟨e₀, e₁, e₂, e₃, rfl⟩
  generalize checksum : Checksum.over header payload = right
  obtain ⟨value⟩ := right
  have read : Checksum.decode? (corrupt (le32 value) [e₀, e₁, e₂, e₃]) =
      some ⟨value ^^^ ofLe32 e₀ e₁ e₂ e₃⟩ := by
    have sum : Checksum.decode? (corrupt (le32 value) [e₀, e₁, e₂, e₃]) = some ⟨_⟩ := rfl
    rw [sum, ofLe32_xor, ofLe32_le32]
  refine ⟨⟨value ^^^ ofLe32 e₀ e₁ e₂ e₃⟩, read, ?_⟩
  have remainder : Crc32.remainder (headerErrors ++ payloadErrors ++ [e₀, e₁, e₂, e₃]) =
      Nat.repeat Crc32.shift 32
        (Crc32.remainder (headerErrors ++ payloadErrors) ^^^ ofLe32 e₀ e₁ e₂ e₃) := by
    rw [Crc32.remainder, List.foldl_append, Crc32.foldl_absorb_word]
    rfl
  have computed := Checksum.over_corrupt headerLength payloadLength
  rw [checksum] at computed
  rw [Checksum.verify, decide_eq_true_iff, remainder]
  constructor
  · intro same
    have values := computed.symm.trans (congrArg Checksum.value same)
    rw [UInt32.xor_right_inj] at values
    rw [values, UInt32.xor_self, Crc32.repeat_shift_zero]
  · intro zero
    have same := UInt32.xor_eq_zero_iff.mp (Crc32.repeat_shift_eq_zero zero)
    rw [same] at computed
    exact congrArg Checksum.mk computed

end codewords

section bursts

variable {bits : List Bool}

theorem Crc32.foldl_absorbBit_clear (clear : true ∉ bits) (register : UInt32) :
    bits.foldl Crc32.absorbBit register = Nat.repeat Crc32.shift bits.length register := by
  induction bits generalizing register with
  | nil => rfl
  | cons bit rest ih =>
    rw [List.mem_cons, not_or] at clear
    obtain ⟨bitClear, restClear⟩ := clear
    cases bit with
    | true => exact absurd rfl bitClear
    | false =>
      have step : Crc32.absorbBit register false = Crc32.shift register :=
        congrArg Crc32.shift UInt32.xor_zero
      rw [List.foldl_cons, step, ih restClear, Crc32.repeat_shift_shift]
      rfl

/-- Some bits are flipped, and all that are lie within `width` consecutive ones. -/
structure IsBurst (width : Nat) (errors : Bytes) : Prop where
  nonzero : ∃ index : Nat, (bitsOf errors)[index]? = some true
  within : ∃ start, ∀ index : Nat, (bitsOf errors)[index]? = some true →
    start ≤ index ∧ index < start + width

/-- Clear bits, the window with the flipped ones, and clear bits again. -/
theorem IsBurst.window {width : Nat} {errors : Bytes} (burst : IsBurst width errors) :
    ∃ front window back, bitsOf errors = front ++ window ++ back ∧ true ∉ front ∧ true ∉ back ∧
      window.length ≤ width ∧ true ∈ window := by
  obtain ⟨⟨index, flipped⟩, start, within⟩ := burst
  generalize bitsOf errors = bits at flipped within
  have frontClear : true ∉ bits.take start := by
    intro member
    obtain ⟨place, bound, found⟩ := List.mem_iff_getElem.mp member
    rw [List.length_take] at bound
    rw [List.getElem_take] at found
    have late := (within place (List.getElem?_eq_some_iff.mpr ⟨by omega, found⟩)).1
    omega
  have backClear : true ∉ (bits.drop start).drop width := by
    intro member
    rw [List.drop_drop] at member
    obtain ⟨place, bound, found⟩ := List.mem_iff_getElem.mp member
    rw [List.length_drop] at bound
    rw [List.getElem_drop] at found
    have early := (within _ (List.getElem?_eq_some_iff.mpr ⟨by omega, found⟩)).2
    omega
  have cut : bits = bits.take start ++ (bits.drop start).take width ++
      (bits.drop start).drop width := by
    rw [List.append_assoc, List.take_append_drop, List.take_append_drop]
  refine ⟨_, _, _, cut, frontClear, backClear, List.length_take_le _ _, ?_⟩
  have member : true ∈ bits := List.mem_of_getElem? flipped
  rw [cut, List.mem_append, List.mem_append] at member
  rcases member with (inFront | inWindow) | inBack
  · exact absurd inFront frontClear
  · exact inWindow
  · exact absurd inBack backClear

theorem IsBurst.remainder_ne_zero {errors : Bytes} (burst : IsBurst 32 errors) :
    Crc32.remainder errors ≠ 0 := by
  obtain ⟨front, window, back, cut, frontClear, backClear, fits, flipped⟩ := burst.window
  intro zero
  rw [Crc32.remainder, Crc32.foldl_absorb_eq, cut, List.foldl_append, List.foldl_append,
    Crc32.foldl_absorbBit_clear frontClear, Crc32.repeat_shift_zero,
    Crc32.foldl_absorbBit_clear backClear, Crc32.foldl_absorbBit fits, UInt32.zero_xor] at zero
  -- neither the bits behind the window nor the steps of the window itself take anything away
  have empty := Crc32.repeat_shift_eq_zero (Crc32.repeat_shift_eq_zero zero)
  have small : ofBits window < UInt32.size :=
    Nat.lt_of_lt_of_le (ofBits_lt window) (Nat.pow_le_pow_right (by decide) fits)
  have value := congrArg UInt32.toNat empty
  rw [UInt32.toNat_ofNat_of_lt' small] at value
  exact (ofBits_eq_zero_iff window).mp value flipped

variable {header payload headerErrors payloadErrors footerErrors : Bytes}

/-- A burst of up to 32 bits is noticed wherever it hits, be it across the borders of header, payload
and checksum. -/
theorem Checksum.verify_burst (headerLength : headerErrors.length = header.length)
    (payloadLength : payloadErrors.length = payload.length)
    (footerLength : footerErrors.length = Checksum.size)
    (burst : IsBurst 32 (headerErrors ++ payloadErrors ++ footerErrors)) :
    ∃ footer,
      Checksum.decode? (corrupt (Checksum.over header payload).encode footerErrors) =
          some footer ∧
        Checksum.verify (corrupt header headerErrors) (corrupt payload payloadErrors) footer =
          false := by
  obtain ⟨footer, read, unnoticed⟩ :=
    Checksum.verify_corrupt headerLength payloadLength footerLength
  refine ⟨footer, read, Bool.eq_false_iff.mpr fun verified => ?_⟩
  exact burst.remainder_ne_zero (unnoticed.mp verified)

/-- The last bit of the payload and all but the last of the checksum. -/
theorem Checksum.verify_burst_across_border :
    IsBurst 32 ([0, 0, 0, 0, 0, 0, 0, 0] ++ [0, 0, 0x80] ++ [0xFF, 0xFF, 0xFF, 0x7F]) ∧
    ∃ footer,
      Checksum.decode? (corrupt (Checksum.over [0, 0, 0, 0, 3, 0, 0, 0] [1, 2, 3]).encode
          [0xFF, 0xFF, 0xFF, 0x7F]) = some footer ∧
        Checksum.verify (corrupt [0, 0, 0, 0, 3, 0, 0, 0] [0, 0, 0, 0, 0, 0, 0, 0])
          (corrupt [1, 2, 3] [0, 0, 0x80]) footer = false := by
  have place : ∀ index < 120,
      (bitsOf ([0, 0, 0, 0, 0, 0, 0, 0] ++ [0, 0, 0x80] ++ [0xFF, 0xFF, 0xFF, 0x7F]))[index]? =
          some true → 87 ≤ index ∧ index < 87 + 32 := by decide +kernel
  have burst : IsBurst 32
      ([0, 0, 0, 0, 0, 0, 0, 0] ++ [0, 0, 0x80] ++ [0xFF, 0xFF, 0xFF, 0x7F]) := by
    refine ⟨⟨87, by decide +kernel⟩, 87, fun index flipped => ?_⟩
    obtain ⟨bound, -⟩ := List.getElem?_eq_some_iff.mp flipped
    exact place index bound flipped
  exact ⟨burst, Checksum.verify_burst rfl rfl rfl burst⟩

end bursts

end DatagramLink
