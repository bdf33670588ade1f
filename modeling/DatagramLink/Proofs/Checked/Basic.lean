import DatagramLink.Bytes
import Mathlib.Algebra.Group.Nat.Defs
import Mathlib.Data.List.Basic

namespace DatagramLink

/-- Why a machine stops. A size has 64 bits and a counter 32, an index or a range has to lie
within what it is taken from, and an assertion has to be true. -/
inductive Trap where
  | overflow (value : Nat)
  | underflow (value subtracted : Nat)
  | divisionByZero
  | outOfRange (index size : Nat)
  | tooLarge (value : Nat)
  | assertion
  /-- A loop that does not come closer to its end. -/
  | endless
  deriving DecidableEq, Repr

/-- What a computation of the machine comes to. -/
abbrev Checked (α : Type) := Except Trap α

namespace Checked

/-- A sum of two sizes. -/
def add (first second : Nat) : Checked Nat :=
  if first + second < 2 ^ 64 then .ok (first + second) else .error (.overflow (first + second))

/-- One more on a counter of 32 bits. -/
def count (counter : UInt32) : Checked UInt32 :=
  if counter.toNat + 1 < 2 ^ 32 then .ok (counter + 1) else .error (.overflow (counter.toNat + 1))

/-- A difference of two sizes, which is never negative. -/
def sub (value subtracted : Nat) : Checked Nat :=
  if subtracted ≤ value then .ok (value - subtracted) else .error (.underflow value subtracted)

/-- A remainder. -/
def rem (value modulus : Nat) : Checked Nat :=
  if modulus = 0 then .error .divisionByZero else .ok (value % modulus)

/-- A size as a word of 16 bits. -/
def narrow16 (value : Nat) : Checked UInt16 :=
  match DatagramLink.narrow16 value with
  | .ok word => .ok word
  | .error _ => .error (.tooLarge value)

/-- An assertion. -/
def require (condition : Prop) [Decidable condition] : Checked Unit :=
  if condition then .ok () else .error .assertion

/-- The element at an index. -/
def read {α : Type} (slots : Array α) (index : Nat) : Checked α :=
  if inside : index < slots.size then .ok slots[index] else .error (.outOfRange index slots.size)

/-- Writes an element over the one at an index. -/
def write {α : Type} (slots : Array α) (index : Nat) (element : α) : Checked (Array α) :=
  if index < slots.size then .ok (slots.setIfInBounds index element)
  else .error (.outOfRange index slots.size)

/-- The byte at an index. -/
def byteAt (bytes : Bytes) (index : Nat) : Checked UInt8 :=
  if inside : index < bytes.length then .ok bytes[index]
  else .error (.outOfRange index bytes.length)

/-- The places from `start` to before `stop` are places of a buffer of this size. -/
def within (start stop size : Nat) : Checked Unit :=
  if stop < start then .error (.underflow stop start)
  else if size < stop then .error (.outOfRange stop size)
  else .ok ()

/-- The bytes from `start` to before `stop`. -/
def range (bytes : Bytes) (start stop : Nat) : Checked Bytes := do
  within start stop bytes.length
  return (bytes.drop start).take (stop - start)

/-- The bytes from an index on. -/
def suffix (bytes : Bytes) (start : Nat) : Checked Bytes :=
  if bytes.length < start then .error (.outOfRange start bytes.length) else .ok (bytes.drop start)

/-- Takes the next byte out of a buffer that is read. -/
def next8 : Bytes → Checked (UInt8 × Bytes)
  | byte :: rest => .ok (byte, rest)
  | [] => .error (.outOfRange 0 0)

/-- Takes the next two bytes out, low byte first. -/
def next16 : Bytes → Checked (UInt16 × Bytes)
  | low :: high :: rest => .ok (ofLe16 low high, rest)
  | short => .error (.outOfRange 1 short.length)

/-- Puts bytes into an empty buffer of this size. -/
def fill (size : Nat) (bytes : Bytes) : Checked Bytes :=
  if bytes.length ≤ size then .ok (bytes ++ List.replicate (size - bytes.length) 0)
  else .error (.outOfRange bytes.length size)

section

variable {α : Type}

@[simp] theorem ok_bind {β : Type} (value : α) (next : α → Checked β) :
    ((.ok value : Checked α) >>= next) = next value := rfl

theorem add_eq_ok {first second : Nat} (small : first + second < 2 ^ 64) :
    add first second = .ok (first + second) := if_pos small

theorem count_eq_ok {counter : UInt32} (small : counter.toNat + 1 < 2 ^ 32) :
    count counter = .ok (counter + 1) := if_pos small

theorem sub_eq_ok {value subtracted : Nat} (enough : subtracted ≤ value) :
    sub value subtracted = .ok (value - subtracted) := if_pos enough

theorem rem_eq_ok {value modulus : Nat} (positive : 0 < modulus) :
    rem value modulus = .ok (value % modulus) := if_neg (Nat.ne_of_gt positive)

theorem narrow16_eq_ok {value : Nat} {word : UInt16}
    (fits : DatagramLink.narrow16 value = .ok word) : narrow16 value = .ok word := by
  rw [narrow16, fits]

theorem require_eq_ok {condition : Prop} [Decidable condition] (holds : condition) :
    require condition = .ok () := if_pos holds

theorem read_eq_ok {slots : Array α} {index : Nat} (inside : index < slots.size) :
    read slots index = .ok slots[index] := dif_pos inside

theorem write_eq_ok {slots : Array α} {index : Nat} (inside : index < slots.size) (element : α) :
    write slots index element = .ok (slots.setIfInBounds index element) := if_pos inside

theorem within_eq_ok {start stop size : Nat} (order : start ≤ stop) (inside : stop ≤ size) :
    within start stop size = .ok () := by
  rw [within, if_neg (Nat.not_lt.mpr order), if_neg (Nat.not_lt.mpr inside)]

theorem range_eq_ok {bytes : Bytes} {start stop : Nat} (order : start ≤ stop)
    (inside : stop ≤ bytes.length) :
    range bytes start stop = .ok ((bytes.drop start).take (stop - start)) := by
  rw [range, within_eq_ok order inside]
  rfl

theorem suffix_eq_ok {bytes : Bytes} {start : Nat} (inside : start ≤ bytes.length) :
    suffix bytes start = .ok (bytes.drop start) := if_neg (Nat.not_lt.mpr inside)

theorem fill_eq_ok {size : Nat} {bytes : Bytes} (full : bytes.length = size) :
    fill size bytes = .ok bytes := by
  rw [fill, if_pos (Nat.le_of_eq full), full, Nat.sub_self, List.replicate_zero, List.append_nil]

end

end Checked

end DatagramLink
