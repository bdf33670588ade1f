import DatagramLink.Proofs.Checksum.Bursts
import Mathlib.Dynamics.PeriodicPts.Defs
import Mathlib.Tactic.NormNum.Prime

namespace DatagramLink

/-- The register that stands for the polynomial 1. Its bits are in reverse order. -/
def Crc32.one : UInt32 := 0x80000000

/-- The coefficients of the polynomial that the register stands for, constant term first. -/
def Crc32.coefficients (register : UInt32) : List Bool :=
  ((List.range 32).map register.toNat.testBit).reverse

/-- The product of the polynomial with these coefficients, constant term first, and the register. -/
def Crc32.multiple : List Bool → UInt32 → UInt32
  | [], _ => 0
  | bit :: rest, register =>
    (if bit then register else 0) ^^^ multiple rest (Crc32.shift register)

/-- The product of the two polynomials that the registers stand for, modulo that of the
checksum. -/
def Crc32.times (first second : UInt32) : UInt32 :=
  Crc32.multiple (Crc32.coefficients first) second

/-- The power of the unknown whose exponent has these binary digits, lowest first. -/
def Crc32.power : List Bool → UInt32
  | [] => Crc32.one
  | bit :: rest =>
    let square := Crc32.times (power rest) (power rest)
    if bit then Crc32.shift square else square

section products

theorem Crc32.repeat_shift_add (steps more : Nat) (register : UInt32) :
    Nat.repeat Crc32.shift (steps + more) register =
      Nat.repeat Crc32.shift steps (Nat.repeat Crc32.shift more register) := by
  induction steps with
  | zero => rw [Nat.zero_add]; rfl
  | succ steps ih => rw [Nat.succ_add, Nat.repeat, ih]; rfl

theorem Crc32.repeat_shift_ite (steps : Nat) (bit : Bool) (register : UInt32) :
    Nat.repeat Crc32.shift steps (if bit then register else 0) =
      if bit then Nat.repeat Crc32.shift steps register else 0 := by
  cases bit with
  | false => exact Crc32.repeat_shift_zero steps
  | true => rfl

/-- Steps that are taken of a product may as well be taken of its second factor. -/
theorem Crc32.repeat_shift_multiple (steps : Nat) (bits : List Bool) (register : UInt32) :
    Nat.repeat Crc32.shift steps (Crc32.multiple bits register) =
      Crc32.multiple bits (Nat.repeat Crc32.shift steps register) := by
  induction bits generalizing register with
  | nil => exact Crc32.repeat_shift_zero steps
  | cons bit rest ih =>
    rw [Crc32.multiple, Crc32.multiple, Crc32.repeat_shift_xor, Crc32.repeat_shift_ite, ih,
      Crc32.repeat_shift_shift]
    rfl

theorem Crc32.multiple_concat (bits : List Bool) (bit : Bool) (register : UInt32) :
    Crc32.multiple (bits ++ [bit]) register =
      Crc32.multiple bits register ^^^
        if bit then Nat.repeat Crc32.shift bits.length register else 0 := by
  induction bits generalizing register with
  | nil =>
    show (if bit then register else 0) ^^^ 0 = 0 ^^^ if bit then register else 0
    exact UInt32.xor_comm _ _
  | cons first rest ih =>
    rw [List.cons_append, Crc32.multiple, Crc32.multiple, ih, UInt32.xor_assoc, List.length_cons,
      Crc32.repeat_shift_shift]

theorem Crc32.foldl_absorbBit_xor (bits : List Bool) (first second : UInt32) :
    bits.foldl Crc32.absorbBit (first ^^^ second) =
      Nat.repeat Crc32.shift bits.length first ^^^ bits.foldl Crc32.absorbBit second := by
  induction bits generalizing first second with
  | nil => rfl
  | cons bit rest ih =>
    rw [List.foldl_cons, Crc32.absorbBit, UInt32.xor_assoc, Crc32.shift_xor, ih,
      Crc32.repeat_shift_shift]
    rfl

/-- Bits that come in one after another make up a multiple of the unknown's highest power. -/
theorem Crc32.shift_multiple_reverse (bits : List Bool) :
    Crc32.shift (Crc32.multiple bits.reverse 1) = bits.foldl Crc32.absorbBit 0 := by
  induction bits with
  | nil => rfl
  | cons bit rest ih =>
    have added : Crc32.absorbBit 0 bit = Crc32.shift (if bit then 1 else 0) ^^^ 0 := by
      cases bit <;> rfl
    have moved := Crc32.repeat_shift_ite rest.length bit 1
    rw [List.reverse_cons, Crc32.multiple_concat, List.length_reverse, Crc32.shift_xor, ih,
      ← moved, List.foldl_cons, added, Crc32.foldl_absorbBit_xor, Crc32.repeat_shift_shift,
      UInt32.xor_comm]
    rfl

theorem Crc32.times_one (register : UInt32) : Crc32.times register Crc32.one = register := by
  let bits := (List.range 32).map register.toNat.testBit
  have length : bits.length = 32 := by rw [List.length_map, List.length_range]
  have value : UInt32.ofNat (ofBits bits) = register := by
    rw [ofBits_testBit, Nat.mod_eq_of_lt register.toNat_lt, UInt32.ofNat_toNat]
  have unit : Nat.repeat Crc32.shift 31 Crc32.one = 1 := by decide +kernel
  -- at the low end of the register, the coefficients are its bits
  have taken := Crc32.shift_multiple_reverse bits
  rw [Crc32.foldl_absorbBit (Nat.le_of_eq length), length, value, UInt32.zero_xor] at taken
  apply Crc32.repeat_shift_injective 31
  apply Crc32.shift_injective
  rw [Crc32.times, Crc32.repeat_shift_multiple, unit]
  exact taken

/-- Any number of steps is a product. -/
theorem Crc32.repeat_shift_eq_times (steps : Nat) (register : UInt32) :
    Nat.repeat Crc32.shift steps register =
      Crc32.times register (Nat.repeat Crc32.shift steps Crc32.one) := by
  have whole := congrArg (Nat.repeat Crc32.shift steps) (Crc32.times_one register)
  rw [Crc32.times, Crc32.repeat_shift_multiple] at whole
  exact whole.symm

theorem Crc32.power_eq (bits : List Bool) :
    Crc32.power bits = Nat.repeat Crc32.shift (ofBits bits) Crc32.one := by
  induction bits with
  | nil => rfl
  | cons bit rest ih =>
    have square : Crc32.times (Crc32.power rest) (Crc32.power rest) =
        Nat.repeat Crc32.shift (2 * ofBits rest) Crc32.one := by
      rw [ih, ← Crc32.repeat_shift_eq_times, ← Crc32.repeat_shift_add, Nat.two_mul]
    rw [Crc32.power, square, ofBits]
    cases bit with
    | false => rw [Bool.toNat_false, Nat.zero_add]; rfl
    | true => rw [Bool.toNat_true, Nat.add_comm]; rfl

/-- A number of steps, one product for each binary digit. -/
theorem Crc32.repeat_shift_eq_power {steps : Nat} (small : steps < 2 ^ 32) (register : UInt32) :
    Nat.repeat Crc32.shift steps register =
      Crc32.times register (Crc32.power ((List.range 32).map steps.testBit)) := by
  rw [Crc32.repeat_shift_eq_times, Crc32.power_eq, ofBits_testBit, Nat.mod_eq_of_lt small]

end products

section period

theorem Crc32.iterate_shift (steps : Nat) (register : UInt32) :
    Crc32.shift^[steps] register = Nat.repeat Crc32.shift steps register := by
  induction steps with
  | zero => rfl
  | succ steps ih => rw [Function.iterate_succ_apply', ih]; rfl

/-- The number of registers but zero. -/
def Crc32.period : Nat := 2 ^ 32 - 1

theorem Crc32.prime_of_dvd_period {p : Nat} (prime : p.Prime) (divides : p ∣ Crc32.period) :
    p ∈ [3, 5, 17, 257, 65537] := by
  have factors : Crc32.period = 3 * 5 * 17 * 257 * 65537 := by decide
  rw [factors] at divides
  have same {q : Nat} (primeToo : q.Prime) : p ∣ q → p = q :=
    (Nat.prime_dvd_prime_iff_eq prime primeToo).mp
  rcases prime.dvd_mul.mp divides with divides | last
  · rcases prime.dvd_mul.mp divides with divides | last
    · rcases prime.dvd_mul.mp divides with divides | last
      · rcases prime.dvd_mul.mp divides with first | last
        · simp [same (by norm_num) first]
        · simp [same (by norm_num) last]
      · simp [same (by norm_num) last]
    · simp [same (by norm_num) last]
  · simp [same (by norm_num) last]

theorem Crc32.isPeriodicPt_period (register : UInt32) :
    Function.IsPeriodicPt Crc32.shift Crc32.period register := by
  have whole : Crc32.power ((List.range 32).map Crc32.period.testBit) = Crc32.one := by
    decide +kernel
  rw [Function.IsPeriodicPt, Function.IsFixedPt, Crc32.iterate_shift,
    Crc32.repeat_shift_eq_power (by decide), whole, Crc32.times_one]

/-- A single bit does not come back any earlier. -/
theorem Crc32.minimalPeriod_shift : Function.minimalPeriod Crc32.shift 1 = Crc32.period := by
  obtain ⟨rest, same⟩ := (Crc32.isPeriodicPt_period 1).minimalPeriod_dvd
  by_contra shorter
  have several : rest ≠ 1 := by
    rintro rfl
    exact shorter (same.trans (Nat.mul_one _)).symm
  obtain ⟨p, prime, divides⟩ := Nat.exists_prime_and_dvd several
  have member := Crc32.prime_of_dvd_period prime (same ▸ Dvd.dvd.mul_left divides _)
  -- the bit would come back after a part of the period that a prime divides out
  obtain ⟨others, restEq⟩ := divides
  have part : Function.minimalPeriod Crc32.shift 1 * others = Crc32.period / p := by
    rw [same, restEq, Nat.mul_left_comm, Nat.mul_div_cancel_left _ prime.pos]
  have back : Function.IsPeriodicPt Crc32.shift (Crc32.period / p) 1 :=
    Function.isPeriodicPt_iff_minimalPeriod_dvd.mpr ⟨others, part.symm⟩
  have small : Crc32.period / p < 2 ^ 32 :=
    Nat.lt_of_le_of_lt (Nat.div_le_self _ _) (by decide)
  rw [Function.IsPeriodicPt, Function.IsFixedPt, Crc32.iterate_shift,
    Crc32.repeat_shift_eq_power small] at back
  have never : ∀ p ∈ [3, 5, 17, 257, 65537],
      Crc32.times 1 (Crc32.power ((List.range 32).map (Crc32.period / p).testBit)) ≠ 1 := by
    decide +kernel
  exact never p member back

theorem Crc32.repeat_shift_ne {steps : Nat} (positive : 0 < steps) (short : steps < Crc32.period) :
    Nat.repeat Crc32.shift steps 1 ≠ 1 := by
  rw [← Crc32.minimalPeriod_shift] at short
  rw [← Crc32.iterate_shift]
  exact Function.not_isPeriodicPt_of_pos_of_lt_minimalPeriod (Nat.ne_of_gt positive) short

end period

section pairs

variable {errors : Bytes}

/-- Clear bits with two flipped ones among them. -/
theorem exists_pair_of_count {bits : List Bool} (two : bits.count true = 2) :
    ∃ front between back, bits = front ++ true :: (between ++ true :: back) ∧
      true ∉ front ∧ true ∉ between ∧ true ∉ back := by
  have flipped : true ∈ bits := List.count_pos_iff.mp (by omega)
  obtain ⟨front, rest, rfl, frontClear⟩ := List.eq_append_cons_of_mem flipped
  rw [List.count_append, List.count_eq_zero.mpr frontClear, List.count_cons_self] at two
  have more : true ∈ rest := List.count_pos_iff.mp (by omega)
  obtain ⟨between, back, rfl, betweenClear⟩ := List.eq_append_cons_of_mem more
  rw [List.count_append, List.count_eq_zero.mpr betweenClear, List.count_cons_self] at two
  have backClear : true ∉ back := List.count_eq_zero.mp (by omega)
  exact ⟨front, between, back, rfl, frontClear, betweenClear, backClear⟩

/-- Two flipped bits that are less than the period apart. -/
theorem Crc32.remainder_ne_zero_of_count (two : (bitsOf errors).count true = 2)
    (short : 8 * errors.length ≤ Crc32.period) : Crc32.remainder errors ≠ 0 := by
  obtain ⟨front, between, back, cut, frontClear, betweenClear, backClear⟩ :=
    exists_pair_of_count two
  have length := length_bitsOf errors
  rw [cut, List.length_append, List.length_cons, List.length_append, List.length_cons] at length
  have first : Crc32.absorbBit 0 true = Crc32.shift 1 := rfl
  have second (register : UInt32) :
      Crc32.absorbBit register true = Crc32.shift (register ^^^ 1) := rfl
  intro zero
  rw [Crc32.remainder, Crc32.foldl_absorb_eq, cut, List.foldl_append, List.foldl_cons,
    List.foldl_append, List.foldl_cons, Crc32.foldl_absorbBit_clear frontClear,
    Crc32.repeat_shift_zero, first, Crc32.foldl_absorbBit_clear betweenClear,
    Crc32.repeat_shift_shift, second, Crc32.foldl_absorbBit_clear backClear] at zero
  -- the first bit has come to where the second one is
  have met := @Crc32.repeat_shift_eq_zero 1 _ (Crc32.repeat_shift_eq_zero zero)
  exact Crc32.repeat_shift_ne (Nat.succ_pos _) (by omega) (UInt32.xor_eq_zero_iff.mp met)

variable {header payload headerErrors payloadErrors footerErrors : Bytes}

/-- Any two flipped bits of a packet are noticed, however long it is. -/
theorem Checksum.verify_pair (headerSize : header.length = Header.size)
    (payloadSize : payload.length < UInt16.size)
    (headerLength : headerErrors.length = header.length)
    (payloadLength : payloadErrors.length = payload.length)
    (footerLength : footerErrors.length = Checksum.size)
    (two : (bitsOf (headerErrors ++ payloadErrors ++ footerErrors)).count true = 2) :
    ∃ footer,
      Checksum.decode? (corrupt (Checksum.over header payload).encode footerErrors) =
          some footer ∧
        Checksum.verify (corrupt header headerErrors) (corrupt payload payloadErrors) footer =
          false := by
  obtain ⟨footer, read, unnoticed⟩ :=
    Checksum.verify_corrupt headerLength payloadLength footerLength
  have short : 8 * (headerErrors ++ payloadErrors ++ footerErrors).length ≤ Crc32.period := by
    rw [List.length_append, List.length_append, headerLength, payloadLength, footerLength,
      headerSize]
    rw [UInt16.size] at payloadSize
    rw [Header.size, Checksum.size, Crc32.period]
    omega
  refine ⟨footer, read, Bool.eq_false_iff.mpr fun verified => ?_⟩
  exact Crc32.remainder_ne_zero_of_count two short (unnoticed.mp verified)

/-- The first bit of the header and the last one of the checksum. -/
theorem Checksum.verify_pair_far_apart :
    (bitsOf ([1, 0, 0, 0, 0, 0, 0, 0] ++ [0, 0, 0] ++ [0, 0, 0, 0x80])).count true = 2 ∧
    ∃ footer,
      Checksum.decode? (corrupt (Checksum.over [0, 0, 0, 0, 3, 0, 0, 0] [1, 2, 3]).encode
          [0, 0, 0, 0x80]) = some footer ∧
        Checksum.verify (corrupt [0, 0, 0, 0, 3, 0, 0, 0] [1, 0, 0, 0, 0, 0, 0, 0])
          (corrupt [1, 2, 3] [0, 0, 0]) footer = false := by
  have two : (bitsOf ([1, 0, 0, 0, 0, 0, 0, 0] ++ [0, 0, 0] ++ [0, 0, 0, 0x80])).count true = 2 := by
    decide +kernel
  exact ⟨two, Checksum.verify_pair rfl (by decide) rfl rfl rfl two⟩

end pairs

end DatagramLink
