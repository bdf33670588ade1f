import DatagramLink.Bytes

namespace DatagramLink

/-- A first-in-first-out queue in a fixed number of slots, addressed by a front index and a
count that wrap around the end. It never grows. -/
structure BoundedQueue (α : Type) where
  slots : Array (Option α)
  front : Nat
  count : Nat
  deriving DecidableEq, Repr

variable {α : Type}

/-- A queue without any slot is refused. -/
def BoundedQueue.ofCapacity (capacity : Nat) : Except Fault (BoundedQueue α) :=
  if capacity = 0 then .error .noCapacity else .ok ⟨Array.replicate capacity none, 0, 0⟩

/-- The number of slots, used or not. -/
def BoundedQueue.capacity (queue : BoundedQueue α) : Nat := queue.slots.size

/-- Nothing is queued. -/
def BoundedQueue.isEmpty (queue : BoundedQueue α) : Bool := queue.count == 0

/-- Every slot is in use, so the next element is handed back. -/
def BoundedQueue.isFull (queue : BoundedQueue α) : Bool := queue.count == queue.capacity

/-- The element `offset` places behind the front. -/
def BoundedQueue.slot? (queue : BoundedQueue α) (offset : Nat) : Option α :=
  queue.slots[(queue.front + offset) % queue.capacity]?.join

/-- The waiting elements, front first. -/
def BoundedQueue.toList (queue : BoundedQueue α) : List α :=
  (List.range queue.count).filterMap queue.slot?

/-- A full queue hands the element back. -/
def BoundedQueue.push (queue : BoundedQueue α) (element : α) : Except α (BoundedQueue α) :=
  if queue.isFull then .error element
  else
    let index := (queue.front + queue.count) % queue.capacity
    .ok { queue with
      slots := queue.slots.setIfInBounds index (some element)
      count := queue.count + 1 }

/-- The element that leaves next, which stays where it is. -/
def BoundedQueue.front? (queue : BoundedQueue α) : Option α :=
  if queue.isEmpty then none else queue.slots[queue.front]?.join

/-- Takes the front element out and clears its slot. -/
def BoundedQueue.pop (queue : BoundedQueue α) : Option α × BoundedQueue α :=
  if queue.isEmpty then (none, queue)
  else
    (queue.front?,
      { slots := queue.slots.setIfInBounds queue.front none
        front := (queue.front + 1) % queue.capacity
        count := queue.count - 1 })

end DatagramLink
