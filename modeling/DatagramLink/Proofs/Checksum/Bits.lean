import DatagramLink.Proofs.Framing.Detection

namespace DatagramLink

section linear

theorem Crc32.shift_xor (first second : UInt32) :
    Crc32.shift (first ^^^ second) = Crc32.shift first ^^^ Crc32.shift second := by
  have parity : (first ^^^ second).toNat % 2 = (first.toNat + second.toNat) % 2 := by
    rw [UInt32.toNat_xor, Nat.xor_mod_two_eq]
  rcases Nat.mod_two_eq_zero_or_one first.toNat with even | odd
  · rcases Nat.mod_two_eq_zero_or_one second.toNat with evenToo | oddToo
    · rw [Crc32.shift_of_even (by omega), Crc32.shift_of_even even, Crc32.shift_of_even evenToo,
        UInt32.shiftRight_xor]
    · rw [Crc32.shift_of_odd (by omega), Crc32.shift_of_even even, Crc32.shift_of_odd oddToo,
        UInt32.shiftRight_xor, UInt32.xor_assoc]
  · rcases Nat.mod_two_eq_zero_or_one second.toNat with evenToo | oddToo
    · rw [Crc32.shift_of_odd (by omega), Crc32.shift_of_odd odd, Crc32.shift_of_even evenToo,
        UInt32.shiftRight_xor, UInt32.xor_assoc, UInt32.xor_assoc, UInt32.xor_comm (second >>> 1)]
    · -- the polynomial comes in twice
      have cancel (left right poly : UInt32) :
          left ^^^ poly ^^^ (right ^^^ poly) = left ^^^ right := by
        rw [UInt32.xor_assoc, UInt32.xor_comm right, ← UInt32.xor_assoc poly, UInt32.xor_self,
          UInt32.zero_xor]
      rw [Crc32.shift_of_even (by omega), Crc32.shift_of_odd odd, Crc32.shift_of_odd oddToo,
        UInt32.shiftRight_xor, cancel]

theorem Crc32.repeat_shift_xor (steps : Nat) (first second : UInt32) :
    Nat.repeat Crc32.shift steps (first ^^^ second) =
      Nat.repeat Crc32.shift steps first ^^^ Nat.repeat Crc32.shift steps second := by
  induction steps with
  | zero => rfl
  | succ steps ih => rw [Nat.repeat, ih, Crc32.shift_xor]; rfl

theorem Crc32.repeat_shift_zero (steps : Nat) : Nat.repeat Crc32.shift steps 0 = 0 := by
  induction steps with
  | zero => rfl
  | succ steps ih => rw [Nat.repeat, ih]; rfl

theorem Crc32.repeat_shift_eq_zero {steps : Nat} {register : UInt32}
    (zero : Nat.repeat Crc32.shift steps register = 0) : register = 0 :=
  Crc32.repeat_shift_injective steps (zero.trans (Crc32.repeat_shift_zero steps).symm)

theorem Crc32.repeat_shift_shift (steps : Nat) (register : UInt32) :
    Nat.repeat Crc32.shift steps (Crc32.shift register) =
      Nat.repeat Crc32.shift (steps + 1) register := by
  induction steps with
  | zero => rfl
  | succ steps ih => rw [Nat.repeat, ih]; rfl

end linear

section bits

/-- The bits of a byte string in the order they enter the register: byte by byte, lowest bit
first. -/
def bitsOf (bytes : Bytes) : List Bool :=
  bytes.flatMap fun byte => (List.range 8).map byte.toNat.testBit

/-- The number with these binary digits, lowest first. -/
def ofBits : List Bool → Nat
  | [] => 0
  | bit :: rest => bit.toNat + 2 * ofBits rest

/-- The register after one more bit. -/
def Crc32.absorbBit (register : UInt32) (bit : Bool) : UInt32 :=
  Crc32.shift (register ^^^ bit.toUInt32)

theorem length_bitsOf (bytes : Bytes) : (bitsOf bytes).length = 8 * bytes.length := by
  induction bytes with
  | nil => rfl
  | cons byte rest ih =>
    have split : bitsOf (byte :: rest) = (List.range 8).map byte.toNat.testBit ++ bitsOf rest := rfl
    rw [split, List.length_append, ih, List.length_map, List.length_range, List.length_cons]
    omega

theorem ofBits_lt (bits : List Bool) : ofBits bits < 2 ^ bits.length := by
  induction bits with
  | nil => exact Nat.one_pos
  | cons bit rest ih =>
    have small := bit.toNat_lt
    rw [ofBits, List.length_cons, Nat.pow_succ]
    omega

theorem ofBits_append (first second : List Bool) :
    ofBits (first ++ second) = ofBits first + 2 ^ first.length * ofBits second := by
  induction first with
  | nil => rw [List.nil_append, ofBits, List.length_nil, Nat.pow_zero]; omega
  | cons bit rest ih =>
    rw [List.cons_append, ofBits, ofBits, ih, List.length_cons, Nat.pow_succ, Nat.mul_add,
      Nat.mul_right_comm, Nat.mul_comm 2 (2 ^ rest.length * _), Nat.add_assoc,
      Nat.mul_right_comm]

theorem ofBits_eq_zero_iff (bits : List Bool) : ofBits bits = 0 ↔ true ∉ bits := by
  induction bits with
  | nil => exact ⟨fun _ => List.not_mem_nil, fun _ => rfl⟩
  | cons bit rest ih =>
    rw [ofBits, List.mem_cons, not_or, ← ih]
    cases bit with
    | false => simp
    | true => simp

theorem ofBits_testBit (width n : Nat) :
    ofBits ((List.range width).map n.testBit) = n % 2 ^ width := by
  induction width generalizing n with
  | zero => rw [Nat.pow_zero, Nat.mod_one]; rfl
  | succ width ih =>
    have tail : (List.range width).map (n.testBit ∘ Nat.succ) =
        (List.range width).map (n / 2).testBit :=
      List.map_congr_left fun index _ => Nat.testBit_succ n index
    have low : (n.testBit 0).toNat = n % 2 := by
      rw [Nat.testBit_zero]
      rcases Nat.mod_two_eq_zero_or_one n with even | odd
      · rw [even]; rfl
      · rw [odd]; rfl
    rw [List.range_succ_eq_map, List.map_cons, List.map_map, tail, ofBits, ih, low, Nat.pow_succ,
      Nat.mul_comm (2 ^ width), Nat.mod_mul]

theorem bitsOf_append (first second : Bytes) :
    bitsOf (first ++ second) = bitsOf first ++ bitsOf second :=
  List.flatMap_append

theorem ofBits_bitsOf_singleton (byte : UInt8) : ofBits (bitsOf [byte]) = byte.toNat := by
  have bound := byte.toNat_lt
  rw [bitsOf, List.flatMap_singleton, ofBits_testBit]
  exact Nat.mod_eq_of_lt bound

theorem ofBits_bitsOf_cons (byte : UInt8) (rest : Bytes) :
    ofBits (bitsOf (byte :: rest)) = byte.toNat + 256 * ofBits (bitsOf rest) := by
  have split : bitsOf (byte :: rest) = bitsOf [byte] ++ bitsOf rest := bitsOf_append [byte] rest
  have length : (bitsOf [byte]).length = 8 := length_bitsOf [byte]
  rw [split, ofBits_append, ofBits_bitsOf_singleton, length]
  rfl

end bits

section register

variable {bits : List Bool}

/-- As long as the register is not longer than they are, the bits can all be put in before the first
step. -/
theorem Crc32.foldl_absorbBit (fits : bits.length ≤ 32) (register : UInt32) :
    bits.foldl Crc32.absorbBit register =
      Nat.repeat Crc32.shift bits.length (register ^^^ UInt32.ofNat (ofBits bits)) := by
  induction bits generalizing register with
  | nil => exact (UInt32.xor_zero (a := register)).symm
  | cons bit rest ih =>
    have restFits : rest.length ≤ 32 := Nat.le_of_succ_le fits
    have small : ofBits (bit :: rest) < UInt32.size :=
      Nat.lt_of_lt_of_le (ofBits_lt (bit :: rest)) (Nat.pow_le_pow_right (by decide) fits)
    rw [ofBits] at small
    have value : (UInt32.ofNat (2 * ofBits rest)).toNat = 2 * ofBits rest :=
      UInt32.toNat_ofNat_of_lt' (by omega)
    have whole : UInt32.ofNat (ofBits (bit :: rest)) =
        bit.toUInt32 ^^^ UInt32.ofNat (2 * ofBits rest) := by
      cases bit with
      | false =>
        rw [ofBits, Bool.toNat_false, Nat.zero_add]
        exact UInt32.zero_xor.symm
      | true =>
        have wholeValue : (UInt32.ofNat (1 + 2 * ofBits rest)).toNat = 1 + 2 * ofBits rest :=
          UInt32.toNat_ofNat_of_lt' small
        apply UInt32.toNat_inj.mp
        rw [UInt32.toNat_xor, value, ofBits, Bool.toNat_true, wholeValue, Nat.xor_comm,
          Nat.add_comm]
        exact (Nat.xor_one_of_even (even_two_mul _)).symm
    have half : Crc32.shift (UInt32.ofNat (2 * ofBits rest)) = UInt32.ofNat (ofBits rest) := by
      have halved : (UInt32.ofNat (ofBits rest)).toNat = ofBits rest :=
        UInt32.toNat_ofNat_of_lt' (by omega)
      rw [Crc32.shift_of_even (by omega)]
      apply UInt32.toNat_inj.mp
      rw [toNat_halve, value, halved]
      omega
    rw [List.foldl_cons, ih restFits, Crc32.absorbBit, whole, List.length_cons,
      ← Crc32.repeat_shift_shift, ← UInt32.xor_assoc, Crc32.shift_xor (register ^^^ _), half]

theorem Crc32.absorb_eq_foldl_absorbBit (register : UInt32) (byte : UInt8) :
    Crc32.absorb register byte = (bitsOf [byte]).foldl Crc32.absorbBit register := by
  have length : (bitsOf [byte]).length = 8 := length_bitsOf [byte]
  have wide : byte.toUInt32 = UInt32.ofNat (ofBits (bitsOf [byte])) := by
    rw [ofBits_bitsOf_singleton]
    have fits : byte.toNat < UInt32.size := Nat.lt_trans byte.toNat_lt (by decide)
    exact UInt32.toNat_inj.mp (UInt32.toNat_ofNat_of_lt' fits).symm
  rw [Crc32.foldl_absorbBit (by omega), length, ← wide]
  rfl

theorem Crc32.foldl_absorb_eq (bytes : Bytes) (register : UInt32) :
    bytes.foldl Crc32.absorb register = (bitsOf bytes).foldl Crc32.absorbBit register := by
  induction bytes generalizing register with
  | nil => rfl
  | cons byte rest ih =>
    have split : bitsOf (byte :: rest) = bitsOf [byte] ++ bitsOf rest := bitsOf_append [byte] rest
    rw [List.foldl_cons, ih, Crc32.absorb_eq_foldl_absorbBit, split, List.foldl_append]

/-- Four bytes are taken in like the word they make up. -/
theorem Crc32.foldl_absorb_word (b₀ b₁ b₂ b₃ : UInt8) (register : UInt32) :
    [b₀, b₁, b₂, b₃].foldl Crc32.absorb register =
      Nat.repeat Crc32.shift 32 (register ^^^ ofLe32 b₀ b₁ b₂ b₃) := by
  have length : (bitsOf [b₀, b₁, b₂, b₃]).length = 32 := length_bitsOf [b₀, b₁, b₂, b₃]
  have word : UInt32.ofNat (ofBits (bitsOf [b₀, b₁, b₂, b₃])) = ofLe32 b₀ b₁ b₂ b₃ := by
    have nothing : ofBits (bitsOf []) = 0 := rfl
    rw [ofBits_bitsOf_cons, ofBits_bitsOf_cons, ofBits_bitsOf_cons, ofBits_bitsOf_cons, nothing,
      ofLe32]
    congr 1
    omega
  rw [Crc32.foldl_absorb_eq, Crc32.foldl_absorbBit (by omega), length, word]

end register

end DatagramLink
