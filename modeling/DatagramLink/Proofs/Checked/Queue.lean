import DatagramLink.Proofs.Checked.Basic
import DatagramLink.Proofs.QueueContents

namespace DatagramLink

variable {α : Type}

/-- An empty queue. It has at least one slot. -/
def BoundedQueue.ofCapacityChecked (capacity : Nat) : Checked (BoundedQueue α) := do
  Checked.require (0 < capacity)
  return ⟨Array.replicate capacity none, 0, 0⟩

/-- Writes an element into the slot behind the last one, which is asserted to be free. -/
def BoundedQueue.pushChecked (queue : BoundedQueue α) (element : α) :
    Checked (Except α (BoundedQueue α)) :=
  if queue.isFull then return .error element
  else do
    let place ← Checked.add queue.front queue.count
    let index ← Checked.rem place queue.capacity
    let occupant ← Checked.read queue.slots index
    Checked.require (occupant.isNone = true)
    let slots ← Checked.write queue.slots index (some element)
    let count ← Checked.add queue.count 1
    return .ok { queue with slots, count }

/-- Reads the slot in front. -/
def BoundedQueue.frontChecked (queue : BoundedQueue α) : Checked (Option α) :=
  if queue.isEmpty then return none else Checked.read queue.slots queue.front

/-- Clears the slot in front and moves on, around the end. -/
def BoundedQueue.popChecked (queue : BoundedQueue α) : Checked (Option α × BoundedQueue α) :=
  if queue.isEmpty then return (none, queue)
  else do
    let element ← Checked.read queue.slots queue.front
    let slots ← Checked.write queue.slots queue.front none
    let place ← Checked.add queue.front 1
    let front ← Checked.rem place queue.capacity
    let count ← Checked.sub queue.count 1
    return (element, { slots, front, count })

theorem BoundedQueue.ofCapacityChecked_eq {capacity : Nat} {queue : BoundedQueue α}
    (made : BoundedQueue.ofCapacity capacity = .ok queue) :
    BoundedQueue.ofCapacityChecked capacity = .ok queue := by
  unfold BoundedQueue.ofCapacity at made
  split at made
  · cases made
  · rename_i positive
    cases made
    rw [BoundedQueue.ofCapacityChecked, Checked.require_eq_ok (Nat.pos_of_ne_zero positive)]
    rfl

section contents

variable {queue : BoundedQueue α} {elements : List α}

theorem BoundedQueue.Holds.frontChecked_eq (holds : queue.Holds elements) :
    queue.frontChecked = .ok queue.front? := by
  have inside : queue.front < queue.slots.size := holds.front_lt
  unfold BoundedQueue.frontChecked BoundedQueue.front?
  split
  · rfl
  · rw [Checked.read_eq_ok inside, Array.getElem?_eq_getElem inside]
    rfl

theorem BoundedQueue.Holds.pushChecked_eq (holds : queue.Holds elements)
    (small : queue.capacity < 2 ^ 63) (element : α) :
    queue.pushChecked element = .ok (queue.push element) := by
  have front := holds.front_lt
  have bound := holds.count_le
  unfold BoundedQueue.pushChecked BoundedQueue.push
  by_cases full : queue.isFull = true
  · rw [if_pos full, if_pos full]
    rfl
  · rw [if_neg full, if_neg full]
    have room : queue.count < queue.capacity := by
      have other : queue.count ≠ queue.capacity := by
        simpa only [BoundedQueue.isFull, beq_iff_eq] using full
      omega
    have inside : (queue.front + queue.count) % queue.capacity < queue.slots.size :=
      Nat.mod_lt _ (Nat.zero_lt_of_lt front)
    -- behind the last element there is none
    have free : queue.slots[(queue.front + queue.count) % queue.capacity] = none := by
      have slot := holds.slot_eq queue.count room
      rw [BoundedQueue.slot?, Array.getElem?_eq_getElem inside, Option.join_some,
        List.getElem?_eq_none (Nat.le_of_eq holds.length_eq)] at slot
      exact slot
    simp only [Checked.add_eq_ok (show queue.front + queue.count < 2 ^ 64 by omega),
      Checked.rem_eq_ok (Nat.zero_lt_of_lt front), Checked.read_eq_ok inside, Checked.ok_bind,
      free, Option.isNone_none, Checked.require_eq_ok, Checked.write_eq_ok inside,
      Checked.add_eq_ok (show queue.count + 1 < 2 ^ 64 by omega)]
    rfl

theorem BoundedQueue.Holds.popChecked_eq (holds : queue.Holds elements)
    (small : queue.capacity < 2 ^ 63) : queue.popChecked = .ok queue.pop := by
  have front := holds.front_lt
  have inside : queue.front < queue.slots.size := front
  unfold BoundedQueue.popChecked BoundedQueue.pop
  by_cases empty : queue.isEmpty = true
  · rw [if_pos empty, if_pos empty]
    rfl
  · rw [if_neg empty, if_neg empty]
    have occupied : 1 ≤ queue.count := by
      have positive : queue.count ≠ 0 := by
        simpa only [BoundedQueue.isEmpty, beq_iff_eq] using empty
      omega
    have first : queue.front? = queue.slots[queue.front] := by
      rw [BoundedQueue.front?, if_neg empty, Array.getElem?_eq_getElem inside, Option.join_some]
    simp only [Checked.read_eq_ok inside, Checked.write_eq_ok inside, Checked.ok_bind,
      Checked.add_eq_ok (show queue.front + 1 < 2 ^ 64 by omega),
      Checked.rem_eq_ok (Nat.zero_lt_of_lt front), Checked.sub_eq_ok occupied, first]
    rfl

end contents

end DatagramLink
