import DatagramLink.Proofs.QueueContents

namespace DatagramLink

variable {α : Type}

/-- What can be asked of a queue. -/
inductive BoundedQueue.Call (α : Type) where
  | push (element : α)
  | pop
  | front
  | count
  | isEmpty
  | isFull
  | capacity

/-- What a queue answers to a call. -/
inductive BoundedQueue.Answer (α : Type) where
  | accepted
  /-- There is no room, so the element is handed back. -/
  | returned (element : α)
  | element (element? : Option α)
  | number (value : Nat)
  | truth (holds : Bool)
  deriving DecidableEq

/-- The answer to a call, and the queue after it. -/
def BoundedQueue.call (queue : BoundedQueue α) :
    BoundedQueue.Call α → BoundedQueue.Answer α × BoundedQueue α
  | .push element =>
    match queue.push element with
    | .ok after => (.accepted, after)
    | .error returned => (.returned returned, queue)
  | .pop => (.element queue.pop.1, queue.pop.2)
  | .front => (.element queue.front?, queue)
  | .count => (.number queue.count, queue)
  | .isEmpty => (.truth queue.isEmpty, queue)
  | .isFull => (.truth queue.isFull, queue)
  | .capacity => (.number queue.capacity, queue)

/-- The same on a plain list, which never gets longer than the capacity. -/
def BoundedQueue.Call.onList (capacity : Nat) (elements : List α) :
    BoundedQueue.Call α → BoundedQueue.Answer α × List α
  | .push element =>
    if elements.length = capacity then (.returned element, elements)
    else (.accepted, elements ++ [element])
  | .pop => (.element elements.head?, elements.tail)
  | .front => (.element elements.head?, elements)
  | .count => (.number elements.length, elements)
  | .isEmpty => (.truth elements.isEmpty, elements)
  | .isFull => (.truth (elements.length = capacity), elements)
  | .capacity => (.number capacity, elements)

/-- The answers to calls that are made one after the other, and where they lead. -/
def BoundedQueue.Call.serve {σ : Type} (answer : σ → Call α → Answer α × σ) (state : σ) :
    List (Call α) → List (Answer α) × σ
  | [] => ([], state)
  | call :: calls =>
    let (first, next) := answer state call
    let (others, last) := serve answer next calls
    (first :: others, last)

/-- The slots in use are the counted ones from the front on, around the end if need be. -/
structure BoundedQueue.Compact (queue : BoundedQueue α) : Prop where
  front_lt : queue.front < queue.capacity
  count_le : queue.count ≤ queue.capacity
  occupied_iff : ∀ index, index < queue.capacity →
    (queue.slots[index]?.join.isSome = true ↔
      ∃ offset, offset < queue.count ∧ (queue.front + offset) % queue.capacity = index)

theorem exists_wrapped {front index capacity : Nat} (inside : front < capacity)
    (within : index < capacity) :
    ∃ offset, offset < capacity ∧ (front + offset) % capacity = index := by
  by_cases ahead : front ≤ index
  · refine ⟨index - front, by omega, ?_⟩
    rw [Nat.add_sub_cancel' ahead, Nat.mod_eq_of_lt within]
  · -- before the front, hence once around the end
    refine ⟨index + capacity - front, by omega, ?_⟩
    rw [wrapped_eq inside (by omega), if_neg (by omega)]
    omega

section contents

variable {queue : BoundedQueue α} {elements : List α}

theorem BoundedQueue.Holds.slot_isSome_iff (holds : queue.Holds elements) {offset : Nat}
    (within : offset < queue.capacity) :
    (queue.slot? offset).isSome = true ↔ offset < queue.count := by
  rw [holds.slot_eq offset within, ← holds.length_eq, Option.isSome_iff_ne_none, ne_eq,
    List.getElem?_eq_none_iff, Nat.not_le]

theorem BoundedQueue.Holds.compact (holds : queue.Holds elements) : queue.Compact := by
  refine ⟨holds.front_lt, holds.count_le, fun index within => ?_⟩
  constructor
  · intro occupied
    obtain ⟨offset, inside, rfl⟩ := exists_wrapped holds.front_lt within
    exact ⟨offset, (holds.slot_isSome_iff inside).mp occupied, rfl⟩
  · rintro ⟨offset, counted, rfl⟩
    have bound := holds.count_le
    exact (holds.slot_isSome_iff (by omega)).mpr counted

theorem BoundedQueue.Holds.isFull_eq (holds : queue.Holds elements) :
    queue.isFull = decide (elements.length = queue.capacity) := by
  rw [BoundedQueue.isFull, holds.length_eq]
  rfl

/-- A call is answered as by the list that the queue holds, and leads to what the list becomes. -/
theorem BoundedQueue.Holds.call (holds : queue.Holds elements) (call : BoundedQueue.Call α) :
    (queue.call call).1 = (call.onList queue.capacity elements).1 ∧
      (queue.call call).2.Holds (call.onList queue.capacity elements).2 ∧
      (queue.call call).2.capacity = queue.capacity := by
  cases call with
  | push element =>
    simp only [BoundedQueue.call, BoundedQueue.Call.onList]
    by_cases full : elements.length = queue.capacity
    · rw [holds.push_full element full, if_pos full]
      exact ⟨rfl, holds, rfl⟩
    · have bound := holds.count_le
      have length := holds.length_eq
      obtain ⟨after, pushed, same, holdsAfter⟩ := holds.push element (by omega)
      rw [pushed, if_neg full]
      exact ⟨rfl, holdsAfter, same⟩
  | pop =>
    obtain ⟨first, same, rest⟩ := holds.pop
    exact ⟨congrArg _ first, rest, same⟩
  | front => exact ⟨congrArg _ holds.front?_eq, holds, rfl⟩
  | count => exact ⟨congrArg _ holds.length_eq.symm, holds, rfl⟩
  | isEmpty => exact ⟨congrArg _ holds.isEmpty_eq, holds, rfl⟩
  | isFull => exact ⟨congrArg _ holds.isFull_eq, holds, rfl⟩
  | capacity => exact ⟨rfl, holds, rfl⟩

theorem BoundedQueue.Holds.serve (holds : queue.Holds elements)
    (calls : List (BoundedQueue.Call α)) :
    let served := BoundedQueue.Call.serve BoundedQueue.call queue calls
    let expected := BoundedQueue.Call.serve (Call.onList queue.capacity) elements calls
    served.1 = expected.1 ∧ served.2.Holds expected.2 ∧ served.2.capacity = queue.capacity := by
  induction calls generalizing queue elements with
  | nil => exact ⟨rfl, holds, rfl⟩
  | cons call calls ih =>
    obtain ⟨answer, holdsNext, same⟩ := holds.call call
    obtain ⟨answers, holdsLast, still⟩ := ih holdsNext
    rw [same] at answers holdsLast still
    exact ⟨congrArg₂ List.cons answer answers, holdsLast, still⟩

end contents

/-- Whatever is called on a new queue, in whatever order, it answers as a list does that is kept
within the capacity, and uses the slots from its front on that this list needs. -/
theorem BoundedQueue.answers_as_list {capacity : Nat} (positive : 0 < capacity)
    (calls : List (BoundedQueue.Call α)) :
    ∃ queue, BoundedQueue.ofCapacity capacity = .ok queue ∧
      let served := BoundedQueue.Call.serve BoundedQueue.call queue calls
      let expected := BoundedQueue.Call.serve (Call.onList capacity) [] calls
      served.1 = expected.1 ∧ served.2.toList = expected.2 ∧ expected.2.length ≤ capacity ∧
        served.2.count = expected.2.length ∧ served.2.capacity = capacity ∧ served.2.Compact := by
  have made : BoundedQueue.ofCapacity capacity =
      .ok (⟨Array.replicate capacity none, 0, 0⟩ : BoundedQueue α) := if_neg (by omega)
  obtain ⟨size, empty⟩ := BoundedQueue.holds_ofCapacity made
  obtain ⟨answers, holds, same⟩ := empty.serve calls
  rw [size] at answers holds same
  have bound := holds.count_le
  have length := holds.length_eq
  exact ⟨_, made, answers, holds.toList_eq, by omega, length.symm, same, holds.compact⟩

/-- Two slots: a third element is handed back, and then the front goes around the end. -/
theorem answers_as_list_around_end :
    let calls : List (BoundedQueue.Call Nat) :=
      [.push 1, .push 2, .push 3, .pop, .push 4, .isFull, .pop, .front, .pop, .pop, .count]
    0 < 2 ∧ ∃ queue, BoundedQueue.ofCapacity 2 = .ok queue ∧
      (BoundedQueue.Call.serve BoundedQueue.call queue calls).1 =
        [.accepted, .accepted, .returned 3, .element (some 1), .accepted, .truth true,
          .element (some 2), .element (some 4), .element (some 4), .element none, .number 0] ∧
      (BoundedQueue.Call.serve BoundedQueue.call queue calls).2.Compact := by
  intro calls
  obtain ⟨queue, made, answers, _, _, _, _, compact⟩ :=
    BoundedQueue.answers_as_list (show 0 < 2 by decide) calls
  exact ⟨by decide, queue, made, answers.trans (by decide), compact⟩

end DatagramLink
