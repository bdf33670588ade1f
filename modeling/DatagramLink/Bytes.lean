namespace DatagramLink

/-- A string of bytes, in the order they travel. -/
abbrev Bytes := List UInt8

/-- A size computation that has no answer. -/
inductive Fault where
  | sliceOutOfRange (start length available : Nat)
  | exceeds16Bits (value : Nat)
  | noCapacity
  deriving DecidableEq, Repr

/-- The `length` bytes from `start` on, provided they are all there. -/
def slice (bytes : Bytes) (start length : Nat) : Except Fault Bytes :=
  if start + length ≤ bytes.length then .ok ((bytes.drop start).take length)
  else .error (.sliceOutOfRange start length bytes.length)

theorem slice_eq_ok {bytes : Bytes} {start length : Nat} (bound : start + length ≤ bytes.length) :
    slice bytes start length = .ok ((bytes.drop start).take length) := if_pos bound

/-- A 16-bit number is refused only when it does not fit. -/
def narrow16 (n : Nat) : Except Fault UInt16 :=
  if fits : n < UInt16.size then .ok (UInt16.ofNatLT n fits) else .error (.exceeds16Bits n)

theorem narrow16_eq_ok {n : Nat} (fits : n < UInt16.size) :
    narrow16 n = .ok (UInt16.ofNatLT n fits) := dif_pos fits

theorem toNat_of_narrow16 {n : Nat} {word : UInt16} (narrowed : narrow16 n = .ok word) :
    word.toNat = n := by
  unfold narrow16 at narrowed
  split at narrowed
  · cases narrowed
    rfl
  · cases narrowed

/-- Low byte first. -/
def le16 (word : UInt16) : Bytes :=
  [UInt8.ofNat word.toNat, UInt8.ofNat (word.toNat / 256)]

/-- The 16-bit word of two bytes, low byte first. -/
def ofLe16 (low high : UInt8) : UInt16 := UInt16.ofNat (low.toNat + 256 * high.toNat)

theorem ofLe16_bytes (word : UInt16) :
    ofLe16 (UInt8.ofNat word.toNat) (UInt8.ofNat (word.toNat / 256)) = word := by
  apply UInt16.toNat_inj.mp
  have bound := word.toNat_lt
  simp only [ofLe16, UInt16.toNat_ofNat', UInt8.toNat_ofNat']
  omega

theorem le16_ofLe16 (low high : UInt8) : le16 (ofLe16 low high) = [low, high] := by
  have lowBound := low.toNat_lt
  have highBound := high.toNat_lt
  have whole : (ofLe16 low high).toNat = low.toNat + 256 * high.toNat := by
    simp only [ofLe16, UInt16.toNat_ofNat']
    omega
  simp only [le16, whole, List.cons.injEq, and_true]
  constructor <;> apply UInt8.toNat_inj.mp <;> simp only [UInt8.toNat_ofNat'] <;> omega

/-- The four bytes of a 32-bit word, low byte first. -/
def le32 (word : UInt32) : Bytes :=
  [UInt8.ofNat word.toNat, UInt8.ofNat (word.toNat / 256), UInt8.ofNat (word.toNat / 65536),
    UInt8.ofNat (word.toNat / 16777216)]

/-- The 32-bit word of four bytes, low byte first. -/
def ofLe32 (b₀ b₁ b₂ b₃ : UInt8) : UInt32 :=
  UInt32.ofNat (b₀.toNat + 256 * b₁.toNat + 65536 * b₂.toNat + 16777216 * b₃.toNat)

theorem le32_ofLe32 (b₀ b₁ b₂ b₃ : UInt8) : le32 (ofLe32 b₀ b₁ b₂ b₃) = [b₀, b₁, b₂, b₃] := by
  have h₀ := b₀.toNat_lt
  have h₁ := b₁.toNat_lt
  have h₂ := b₂.toNat_lt
  have h₃ := b₃.toNat_lt
  have whole : (ofLe32 b₀ b₁ b₂ b₃).toNat =
      b₀.toNat + 256 * b₁.toNat + 65536 * b₂.toNat + 16777216 * b₃.toNat := by
    simp only [ofLe32, UInt32.toNat_ofNat']
    omega
  simp only [le32, whole, List.cons.injEq, and_true]
  refine ⟨?_, ?_, ?_, ?_⟩ <;> apply UInt8.toNat_inj.mp <;> simp only [UInt8.toNat_ofNat'] <;> omega

/-- The byte string in consecutive chunks of `size` bytes, the last one possibly shorter. Size 0
asks for everything in one chunk. -/
def chunksOf (size : Nat) (bytes : Bytes) : List Bytes :=
  if size = 0 ∨ bytes.drop size = [] then [bytes]
  else bytes.take size :: chunksOf size (bytes.drop size)
termination_by bytes.length
decreasing_by
  rename_i more
  simp only [not_or, List.drop_eq_nil_iff, Nat.not_le] at more
  simp only [List.length_drop]
  omega

theorem flatten_chunksOf (size : Nat) (bytes : Bytes) : (chunksOf size bytes).flatten = bytes := by
  fun_induction chunksOf size bytes with
  | case1 => simp
  | case2 bytes _ ih => simp [ih]

/-- The digits of `n` in the given base, filled up with zeros on the left. -/
def positional (base width n : Nat) : String :=
  let digits := Nat.toDigits base n
  String.ofList (List.replicate (width - digits.length) '0' ++ digits)

end DatagramLink
