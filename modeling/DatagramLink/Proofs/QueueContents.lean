import DatagramLink.BoundedQueue
import Mathlib.Data.List.Basic

namespace DatagramLink

variable {α : Type}

/-- The slots from the front on hold these elements in turn, and the slots behind them are free. -/
structure BoundedQueue.Holds (queue : BoundedQueue α) (elements : List α) : Prop where
  front_lt : queue.front < queue.capacity
  length_eq : elements.length = queue.count
  count_le : queue.count ≤ queue.capacity
  slot_eq : ∀ offset, offset < queue.capacity → queue.slot? offset = elements[offset]?

theorem BoundedQueue.capacity_push {queue after : BoundedQueue α} {element : α}
    (pushed : queue.push element = .ok after) : after.capacity = queue.capacity := by
  unfold BoundedQueue.push at pushed
  split at pushed
  · cases pushed
  · cases pushed
    exact Array.size_setIfInBounds

theorem BoundedQueue.capacity_pop (queue : BoundedQueue α) :
    queue.pop.2.capacity = queue.capacity := by
  unfold BoundedQueue.pop
  split
  · rfl
  · exact Array.size_setIfInBounds

theorem wrapped_eq {front offset capacity : Nat} (inside : front < capacity)
    (within : offset ≤ capacity) :
    (front + offset) % capacity =
      if front + offset < capacity then front + offset else front + offset - capacity := by
  split
  · exact Nat.mod_eq_of_lt (by assumption)
  · rw [Nat.mod_eq_sub_mod (by omega)]
    exact Nat.mod_eq_of_lt (by omega)

theorem wrapped_inj {front first second capacity : Nat} (inside : front < capacity)
    (firstWithin : first < capacity) (secondWithin : second < capacity)
    (same : (front + first) % capacity = (front + second) % capacity) : first = second := by
  rw [wrapped_eq inside (Nat.le_of_lt firstWithin), wrapped_eq inside (Nat.le_of_lt secondWithin)] at same
  split at same <;> split at same <;> omega

theorem filterMap_getElem?_range (elements : List α) :
    (List.range elements.length).filterMap (elements[·]?) = elements := by
  induction elements with
  | nil => rfl
  | cons first rest ih =>
    rw [List.length_cons, List.range_succ_eq_map, List.filterMap_cons, List.filterMap_map]
    simpa using ih

theorem BoundedQueue.Holds.toList_eq {queue : BoundedQueue α} {elements : List α}
    (holds : queue.Holds elements) : queue.toList = elements := by
  have slots : ∀ offset ∈ List.range queue.count, queue.slot? offset = elements[offset]? := by
    intro offset member
    exact holds.slot_eq offset (Nat.lt_of_lt_of_le (List.mem_range.mp member) holds.count_le)
  unfold BoundedQueue.toList
  rw [List.filterMap_congr slots, ← holds.length_eq, filterMap_getElem?_range]

theorem BoundedQueue.holds_ofCapacity {capacity : Nat} {queue : BoundedQueue α}
    (made : BoundedQueue.ofCapacity capacity = .ok queue) :
    queue.capacity = capacity ∧ queue.Holds [] := by
  unfold BoundedQueue.ofCapacity at made
  split at made
  · cases made
  · rename_i positive
    cases made
    refine ⟨Array.size_replicate, ?_, rfl, Nat.zero_le _, ?_⟩
    · simpa only [BoundedQueue.capacity, Array.size_replicate] using Nat.pos_of_ne_zero positive
    · intro offset _
      simp only [BoundedQueue.slot?, Array.getElem?_replicate, List.getElem?_nil]
      split <;> rfl

theorem BoundedQueue.Holds.isEmpty_eq {queue : BoundedQueue α} {elements : List α}
    (holds : queue.Holds elements) : queue.isEmpty = elements.isEmpty := by
  unfold BoundedQueue.isEmpty
  rw [← holds.length_eq]
  cases elements <;> rfl

theorem BoundedQueue.Holds.front?_eq {queue : BoundedQueue α} {elements : List α}
    (holds : queue.Holds elements) : queue.front? = elements.head? := by
  have first := holds.slot_eq 0 (Nat.zero_lt_of_lt holds.front_lt)
  rw [BoundedQueue.slot?, Nat.add_zero, Nat.mod_eq_of_lt holds.front_lt] at first
  unfold BoundedQueue.front?
  rw [holds.isEmpty_eq, first]
  cases elements <;> rfl

/-- A queue with a free slot takes the element in behind all others. -/
theorem BoundedQueue.Holds.push {queue : BoundedQueue α} {elements : List α}
    (holds : queue.Holds elements) (element : α) (room : elements.length < queue.capacity) :
    ∃ after, queue.push element = .ok after ∧ after.capacity = queue.capacity ∧
      after.Holds (elements ++ [element]) := by
  have notFull : queue.isFull = false := by
    simp only [BoundedQueue.isFull, beq_eq_false_iff_ne, ← holds.length_eq]
    omega
  simp only [BoundedQueue.push, notFull, Bool.false_eq_true, if_false]
  refine ⟨_, rfl, Array.size_setIfInBounds, ?_, ?_, ?_, ?_⟩
  · simpa only [BoundedQueue.capacity, Array.size_setIfInBounds] using holds.front_lt
  · simp only [List.length_append, List.length_singleton, holds.length_eq]
  · simp only [BoundedQueue.capacity, Array.size_setIfInBounds, ← holds.length_eq] at room ⊢
    omega
  · intro offset within
    simp only [BoundedQueue.capacity, Array.size_setIfInBounds] at within
    have old := holds.slot_eq offset within
    simp only [BoundedQueue.slot?, BoundedQueue.capacity, Array.size_setIfInBounds,
      Array.getElem?_setIfInBounds] at old ⊢
    rw [← holds.length_eq]
    by_cases last : offset = elements.length
    · subst offset
      simp [Nat.mod_lt _ (Nat.zero_lt_of_lt within)]
    · rw [if_neg, old, List.getElem?_append]
      · split
        · rfl
        · rw [List.getElem?_eq_none (by omega), List.getElem?_eq_none (by simp; omega)]
      · intro same
        exact last (wrapped_inj holds.front_lt room within same).symm

theorem BoundedQueue.Holds.push_full {queue : BoundedQueue α} {elements : List α}
    (holds : queue.Holds elements) (element : α) (full : elements.length = queue.capacity) :
    queue.push element = .error element := by
  simp only [BoundedQueue.push, BoundedQueue.isFull, ← holds.length_eq, full, beq_self_eq_true,
    if_true]

theorem BoundedQueue.Holds.of_push {queue after : BoundedQueue α} {elements : List α}
    {element : α} (holds : queue.Holds elements) (pushed : queue.push element = .ok after) :
    after.Holds (elements ++ [element]) := by
  by_cases room : elements.length < queue.capacity
  · obtain ⟨other, made, _, holdsAfter⟩ := holds.push element room
    cases made.symm.trans pushed
    exact holdsAfter
  · have bound := holds.count_le
    have full : elements.length = queue.capacity := by
      rw [holds.length_eq] at room ⊢
      omega
    cases (holds.push_full element full).symm.trans pushed

/-- Taking the front element out leaves the others in order. An empty queue stays as it is. -/
theorem BoundedQueue.Holds.pop {queue : BoundedQueue α} {elements : List α}
    (holds : queue.Holds elements) :
    queue.pop.1 = elements.head? ∧ queue.pop.2.capacity = queue.capacity ∧
      queue.pop.2.Holds elements.tail := by
  unfold BoundedQueue.pop
  rw [holds.isEmpty_eq]
  cases elements with
  | nil => exact ⟨rfl, rfl, holds⟩
  | cons first rest =>
    have positive : 0 < queue.capacity := Nat.zero_lt_of_lt holds.front_lt
    have length := holds.length_eq
    have bound := holds.count_le
    rw [List.length_cons] at length
    rw [List.isEmpty_cons, if_neg Bool.false_ne_true]
    refine ⟨holds.front?_eq, Array.size_setIfInBounds, ?_, ?_, ?_, ?_⟩
    · simpa only [BoundedQueue.capacity, Array.size_setIfInBounds] using Nat.mod_lt _ positive
    · simp only [List.tail_cons]
      omega
    · simp only [BoundedQueue.capacity, Array.size_setIfInBounds] at bound ⊢
      omega
    · intro offset within
      simp only [BoundedQueue.capacity, Array.size_setIfInBounds] at within
      have index : ((queue.front + 1) % queue.capacity + offset) % queue.capacity =
          (queue.front + (offset + 1)) % queue.capacity := by
        rw [Nat.mod_add_mod, Nat.add_assoc, Nat.add_comm 1 offset]
      simp only [BoundedQueue.slot?, BoundedQueue.capacity, Array.size_setIfInBounds,
        Array.getElem?_setIfInBounds] at index ⊢
      rw [index, List.tail_cons]
      by_cases last : offset + 1 = queue.slots.size
      · have again : (queue.front + (offset + 1)) % queue.slots.size = queue.front := by
          rw [last, Nat.add_mod_right]
          exact Nat.mod_eq_of_lt holds.front_lt
        have inside : queue.front < queue.slots.size := holds.front_lt
        rw [again, if_pos rfl, if_pos inside, List.getElem?_eq_none]
        · rfl
        · simp only [BoundedQueue.capacity] at bound
          omega
      · have next : offset + 1 < queue.capacity := by
          simp only [BoundedQueue.capacity]
          omega
        have old := holds.slot_eq (offset + 1) next
        rw [List.getElem?_cons_succ] at old
        rw [if_neg]
        · exact old
        · intro same
          have start : queue.front = (queue.front + 0) % queue.capacity :=
            (Nat.mod_eq_of_lt holds.front_lt).symm
          cases wrapped_inj holds.front_lt positive next (start.symm.trans same)

end DatagramLink
