import DatagramLink.Packet
import Mathlib.Data.Nat.Bitwise
import Mathlib.Logic.Function.Basic

namespace DatagramLink

theorem Crc32.shift_of_odd {register : UInt32} (odd : register.toNat % 2 = 1) :
    Crc32.shift register = (register >>> 1) ^^^ 0xEDB88320 := by
  refine if_pos (UInt32.toNat_inj.mp ?_)
  rw [UInt32.toNat_and, UInt32.toNat_one, Nat.and_one_is_mod, odd]

theorem Crc32.shift_of_even {register : UInt32} (even : register.toNat % 2 = 0) :
    Crc32.shift register = register >>> 1 := by
  refine if_neg fun odd => ?_
  have low := congrArg UInt32.toNat odd
  rw [UInt32.toNat_and, UInt32.toNat_one, Nat.and_one_is_mod, even] at low
  cases low

theorem toNat_halve (register : UInt32) : (register >>> 1).toNat = register.toNat / 2 := by
  rw [UInt32.toNat_shiftRight]
  exact Nat.shiftRight_eq_div_pow register.toNat 1

theorem halve_inj {first second : UInt32} (parity : first.toNat % 2 = second.toNat % 2)
    (same : first >>> 1 = second >>> 1) : first = second := by
  have halves := congrArg UInt32.toNat same
  rw [toNat_halve, toNat_halve] at halves
  exact UInt32.toNat_inj.mp (by omega)

/-- The highest bit after a step tells the lowest one before it. -/
theorem Crc32.shift_parity_ne {odd even : UInt32} (isOdd : odd.toNat % 2 = 1)
    (isEven : even.toNat % 2 = 0) : Crc32.shift odd ≠ Crc32.shift even := by
  intro same
  have top := congrArg (fun register : UInt32 => register.toNat.testBit 31) same
  have oddBound : odd.toNat / 2 < 2 ^ 31 := by
    have bound := odd.toNat_lt
    omega
  have evenBound : even.toNat / 2 < 2 ^ 31 := by
    have bound := even.toNat_lt
    omega
  simp only [Crc32.shift_of_odd isOdd, Crc32.shift_of_even isEven, UInt32.toNat_xor, toNat_halve,
    Nat.testBit_xor, Nat.testBit_lt_two_pow oddBound, Nat.testBit_lt_two_pow evenBound] at top
  revert top
  decide

theorem Crc32.shift_injective : Function.Injective Crc32.shift := by
  intro first second same
  rcases Nat.mod_two_eq_zero_or_one first.toNat with even | odd
  · rcases Nat.mod_two_eq_zero_or_one second.toNat with evenToo | oddToo
    · rw [Crc32.shift_of_even even, Crc32.shift_of_even evenToo] at same
      exact halve_inj (even.trans evenToo.symm) same
    · exact absurd same.symm (Crc32.shift_parity_ne oddToo even)
  · rcases Nat.mod_two_eq_zero_or_one second.toNat with evenToo | oddToo
    · exact absurd same (Crc32.shift_parity_ne odd evenToo)
    · rw [Crc32.shift_of_odd odd, Crc32.shift_of_odd oddToo] at same
      exact halve_inj (odd.trans oddToo.symm) (UInt32.xor_left_inj _ |>.mp same)

theorem Crc32.repeat_shift_injective (steps : Nat) :
    Function.Injective (Nat.repeat Crc32.shift steps) := by
  induction steps with
  | zero => exact fun _ _ same => same
  | succ steps ih => exact fun _ _ same => ih (Crc32.shift_injective same)

theorem Crc32.absorb_left_injective (byte : UInt8) :
    Function.Injective (Crc32.absorb · byte) := by
  intro first second same
  exact UInt32.xor_left_inj _ |>.mp (Crc32.repeat_shift_injective 8 same)

theorem Crc32.absorb_right_injective (register : UInt32) :
    Function.Injective (Crc32.absorb register) := by
  intro first second same
  have wide := UInt32.xor_right_inj _ |>.mp (Crc32.repeat_shift_injective 8 same)
  have narrow := congrArg UInt32.toNat wide
  rw [UInt8.toNat_toUInt32, UInt8.toNat_toUInt32] at narrow
  exact UInt8.toNat_inj.mp narrow

/-- Registers that differ still differ after any bytes. -/
theorem Crc32.foldl_absorb_injective (bytes : Bytes) :
    Function.Injective fun register => bytes.foldl Crc32.absorb register := by
  induction bytes with
  | nil => exact fun _ _ same => same
  | cons byte rest ih => exact fun _ _ same => Crc32.absorb_left_injective byte (ih same)

/-- Two byte strings that differ in one byte and no other. -/
inductive OneByteOff : Bytes → Bytes → Prop
  | here {byte other : UInt8} (different : byte ≠ other) (rest : Bytes) :
      OneByteOff (byte :: rest) (other :: rest)
  | there (byte : UInt8) {bytes others : Bytes} :
      OneByteOff bytes others → OneByteOff (byte :: bytes) (byte :: others)

variable {bytes others : Bytes}

theorem OneByteOff.length_eq (off : OneByteOff bytes others) : bytes.length = others.length := by
  induction off with
  | here different rest => rfl
  | there byte off ih => rw [List.length_cons, List.length_cons, ih]

/-- The byte is in the first part or in the second. -/
theorem OneByteOff.of_append {front otherFront back otherBack : Bytes}
    (off : OneByteOff (front ++ back) (otherFront ++ otherBack))
    (length : front.length = otherFront.length) :
    OneByteOff front otherFront ∧ back = otherBack ∨
      front = otherFront ∧ OneByteOff back otherBack := by
  induction front generalizing otherFront with
  | nil =>
    cases List.length_eq_zero_iff.mp length.symm
    exact Or.inr ⟨rfl, off⟩
  | cons byte front ih =>
    cases otherFront with
    | nil => cases length
    | cons other otherFront =>
      have same := Nat.succ.inj length
      rw [List.cons_append, List.cons_append] at off
      generalize whole : front ++ back = rest at off
      generalize otherWhole : otherFront ++ otherBack = otherRest at off
      cases off with
      | here different =>
        obtain ⟨rfl, rfl⟩ := List.append_inj (whole.trans otherWhole.symm) same
        exact Or.inl ⟨.here different front, rfl⟩
      | there _ off =>
        subst whole otherWhole
        rcases ih off same with ⟨first, rfl⟩ | ⟨rfl, second⟩
        · exact Or.inl ⟨.there byte first, rfl⟩
        · exact Or.inr ⟨rfl, second⟩

theorem OneByteOff.modify {change : UInt8 → UInt8} (changes : ∀ byte, byte ≠ change byte)
    {index : Nat} (inside : index < bytes.length) :
    OneByteOff bytes (bytes.modify index change) := by
  induction bytes generalizing index with
  | nil => cases inside
  | cons byte rest ih =>
    cases index with
    | zero => exact .here (changes byte) rest
    | succ index => exact .there byte (ih (Nat.lt_of_succ_lt_succ inside))

theorem OneByteOff.crc32_ne (off : OneByteOff bytes others) : crc32 bytes ≠ crc32 others := by
  have registers : ∀ register, bytes.foldl Crc32.absorb register ≠
      others.foldl Crc32.absorb register := by
    induction off with
    | here different rest =>
      intro register same
      have after := Crc32.foldl_absorb_injective rest same
      exact different (Crc32.absorb_right_injective register after)
    | there byte off ih => exact fun register => ih (Crc32.absorb register byte)
  exact fun same => registers _ (UInt32.not_inj.mp same)

end DatagramLink
