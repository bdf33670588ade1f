import DatagramLink.Proofs.Receiver.Uptake
import DatagramLink.Proofs.Sender.Course

namespace DatagramLink

theorem successor_ne (n : UInt8) : n + 1 ≠ n := by
  intro same
  have wrapped := congrArg UInt8.toNat same
  have bound := n.toNat_lt
  simp only [UInt8.toNat_add, UInt8.reduceToNat] at wrapped
  omega

theorem predecessor_ne (n : UInt8) : n - 1 ≠ n := by
  intro same
  refine successor_ne (n - 1) ?_
  rw [UInt8.sub_add_cancel]
  exact same.symm

/-- The receiver keeps step with the cursor of the sender: it is waiting for the fragment at the
cursor, or it has taken it and the sender need not know yet. The flag says that the front datagram
was taken in full, so it was handed over if it fits into the room there is. -/
inductive Tracking (room limit : Nat) (cursor : Cursor) (front : Bytes) (uptake : Uptake)
    (fragments : List Fragment) (acks : List UInt8) : Bool → Prop
  | waiting {stale current : List Fragment}
      (within : cursor.acked = 0 ∨ cursor.acked < front.length)
      (expected : uptake.expected = cursor.seq)
      (assembly : uptake.assembly = .upTo room (front.take cursor.acked))
      (split : fragments = stale ++ current)
      (old : ∀ fragment ∈ stale, fragment.seq = cursor.seq - 1)
      (new : ∀ fragment ∈ current, cursor.Yields limit front fragment)
      (uncovered : ∀ ack ∈ acks, ack = cursor.seq) :
      Tracking room limit cursor front uptake fragments acks false
  | taken {early late : List UInt8}
      (within : cursor.acked = 0 ∨ cursor.acked < front.length) (nonempty : front ≠ [])
      (expected : uptake.expected = cursor.seq + 1)
      (assembly : uptake.assembly = .upTo room
        (if cursor.acked + limit < front.length then front.take (cursor.acked + limit) else []))
      (repeated : ∀ fragment ∈ fragments, cursor.Yields limit front fragment)
      (split : acks = early ++ late)
      (uncovered : ∀ ack ∈ early, ack = cursor.seq)
      (covering : ∀ ack ∈ late, ack = cursor.seq + 1) :
      Tracking room limit cursor front uptake fragments acks
        (decide (front.length ≤ cursor.acked + limit))

variable {room limit : Nat} {cursor : Cursor} {front : Bytes} {uptake : Uptake}
  {fragments : List Fragment} {acks : List UInt8} {handed : Bool}

/-- A receiver that starts over waits for a sender that starts over. -/
theorem Tracking.fresh (new : ∀ fragment ∈ fragments, Cursor.start.Yields limit front fragment)
    (uncovered : ∀ ack ∈ acks, ack = 0) :
    Tracking room limit .start front .start fragments acks false := by
  have empty : Uptake.start.assembly = .upTo room (front.take Cursor.start.acked) :=
    (Assembly.upTo_nil room).symm
  refine .waiting (Or.inl rfl) rfl empty (List.nil_append _).symm ?_ new uncovered
  intro fragment member
  cases member

/-- Losses on the way do no harm. -/
theorem Tracking.lose (tracking : Tracking room limit cursor front uptake fragments acks handed)
    {fewerFragments : List Fragment} {fewerAcks : List UInt8}
    (lostFragments : fewerFragments.Sublist fragments) (lostAcks : fewerAcks.Sublist acks) :
    Tracking room limit cursor front uptake fewerFragments fewerAcks handed := by
  cases tracking with
  | waiting within expected assembly split old new uncovered =>
    subst split
    obtain ⟨stale, current, rfl, lostStale, lostCurrent⟩ := List.sublist_append_iff.mp lostFragments
    exact .waiting within expected assembly rfl
      (fun fragment member => old fragment (lostStale.subset member))
      (fun fragment member => new fragment (lostCurrent.subset member))
      (fun ack member => uncovered ack (lostAcks.subset member))
  | taken within nonempty expected assembly repeated split uncovered covering =>
    subst split
    obtain ⟨early, late, rfl, lostEarly, lostLate⟩ := List.sublist_append_iff.mp lostAcks
    exact .taken within nonempty expected assembly
      (fun fragment member => repeated fragment (lostFragments.subset member)) rfl
      (fun ack member => uncovered ack (lostEarly.subset member))
      (fun ack member => covering ack (lostLate.subset member))

/-- The sender sends the fragment at the cursor, for the first time or again. -/
theorem Tracking.emit (tracking : Tracking room limit cursor front uptake fragments acks handed)
    {emitted : List Fragment} (atCursor : ∀ fragment ∈ emitted, cursor.Yields limit front fragment) :
    Tracking room limit cursor front uptake (fragments ++ emitted) acks handed := by
  cases tracking with
  | waiting within expected assembly split old new uncovered =>
    subst split
    refine .waiting within expected assembly (List.append_assoc ..) old ?_ uncovered
    intro fragment member
    exact (List.mem_append.mp member).elim (new fragment) (atCursor fragment)
  | taken within nonempty expected assembly repeated split uncovered covering =>
    refine .taken within nonempty expected assembly ?_ split uncovered covering
    intro fragment member
    exact (List.mem_append.mp member).elim (repeated fragment) (atCursor fragment)

/-- The receiver says which number it expects next. -/
theorem Tracking.reply (tracking : Tracking room limit cursor front uptake fragments acks handed) :
    Tracking room limit cursor front uptake fragments (acks ++ [uptake.expected]) handed := by
  cases tracking with
  | waiting within expected assembly split old new uncovered =>
    refine .waiting within expected assembly split old new ?_
    intro ack member
    rcases List.mem_append.mp member with sent | last
    · exact uncovered ack sent
    · rw [List.mem_singleton.mp last, expected]
  | taken within nonempty expected assembly repeated split uncovered covering =>
    subst split
    refine .taken within nonempty expected assembly repeated (List.append_assoc ..) uncovered ?_
    intro ack member
    rcases List.mem_append.mp member with sent | last
    · exact covering ack sent
    · rw [List.mem_singleton.mp last, expected]

/-- A datagram comes to the front of an empty queue. -/
theorem Tracking.enqueue (tracking : Tracking room limit cursor [] receiver fragments acks handed)
    (datagram : Bytes) : Tracking room limit cursor datagram receiver fragments acks handed := by
  cases tracking with
  | @waiting stale current within expected assembly split old new uncovered =>
    have atStart : cursor.acked = 0 := within.resolve_right (Nat.not_lt_zero _)
    have empty : current = [] :=
      List.eq_nil_iff_forall_not_mem.mpr fun fragment member => (new fragment member).nonempty rfl
    refine .waiting (Or.inl atStart) expected ?_ split old ?_ uncovered
    · rw [assembly, atStart]
      rfl
    · intro fragment member
      rw [empty] at member
      cases member
  | taken within nonempty => exact absurd rfl nonempty

/-- The fragment a receiver waits for extends what it has collected. -/
theorem Cursor.Yields.extend {fragment : Fragment} (yields : cursor.Yields limit front fragment) :
    front.take cursor.acked ++ fragment.bytes = front.take (cursor.acked + limit) := by
  rw [yields.bytes_eq, List.take_add]

/-- The fragment a receiver waits for arrives. -/
theorem Cursor.Yields.accept_eq {receiver : Receiver} {fragment : Fragment}
    (yields : cursor.Yields limit front fragment) (next : fragment.seq = receiver.expected)
    (assembly : receiver.assembly = .upTo receiver.maxDatagram (front.take cursor.acked)) :
    (receiver.accept fragment).2.uptake = ⟨receiver.expected + 1, .upTo receiver.maxDatagram
        (if cursor.acked + limit < front.length then front.take (cursor.acked + limit) else [])⟩ ∧
      (receiver.accept fragment).1.datagrams =
        if cursor.acked + limit < front.length then [] else fitting receiver.maxDatagram [front] := by
  obtain ⟨after, handed⟩ :=
    Assembly.add_upTo receiver.maxDatagram (front.take cursor.acked) fragment
  rw [yields.extend, yields.unfinished_eq] at after handed
  simp only [Receiver.accept, if_pos next, assembly, Receiver.uptake, after, handed]
  by_cases more : cursor.acked + limit < front.length
  · simp only [more, decide_true, if_true, and_self]
  · have whole : front.take (cursor.acked + limit) = front :=
      List.take_of_length_le (Nat.not_lt.mp more)
    simp only [more, decide_false, Bool.false_eq_true, if_false, whole, Assembly.upTo_nil, and_self]

/-- The fragment at the cursor is taken in, or it was taken in before. -/
theorem Tracking.welcome {receiver : Receiver} {fragment : Fragment}
    (tracking : Tracking receiver.maxDatagram limit cursor front receiver.uptake fragments acks
      handed)
    (yields : cursor.Yields limit front fragment) (fits : front.length ≤ receiver.maxDatagram) :
    receiver.Welcomes fragment := by
  cases tracking with
  | waiting within expected assembly split old new uncovered =>
    have next : fragment.seq = receiver.expected := yields.seq_eq.trans expected.symm
    have short : (front.take cursor.acked).length ≤ receiver.maxDatagram :=
      Nat.le_trans (List.length_take_le' ..) fits
    have collected : receiver.assembly = .collecting (front.take cursor.acked) :=
      assembly.trans (if_pos short)
    have whole : (front.take cursor.acked).length + fragment.bytes.length ≤
        receiver.maxDatagram := by
      rw [← List.length_append, yields.extend]
      exact Nat.le_trans (List.length_take_le' ..) fits
    have verdict : (receiver.accept fragment).1 = .buffered ∨
        ∃ datagram, (receiver.accept fragment).1 = .delivered datagram := by
      simp only [Receiver.accept, if_pos next, collected, Assembly.add,
        if_neg (Nat.not_lt.mpr whole)]
      split
      · exact Or.inl rfl
      · exact Or.inr ⟨_, rfl⟩
    refine ⟨(Receiver.expected_accept next).trans (congrArg (· + 1) next.symm), ?_, ?_⟩
    · intro refused
      rcases verdict with same | ⟨datagram, same⟩ <;> cases same.symm.trans refused
    · intro refused
      rcases verdict with same | ⟨datagram, same⟩ <;> cases same.symm.trans refused
  | taken within nonempty expected assembly repeated split uncovered covering =>
    have after : receiver.expected = fragment.seq + 1 := by
      rw [yields.seq_eq]
      exact expected
    have other : fragment.seq ≠ receiver.expected := by
      rw [after]
      exact (successor_ne fragment.seq).symm
    have last : fragment.seq = receiver.expected - 1 := by
      rw [after, UInt8.add_sub_cancel]
    have verdict : (receiver.accept fragment).1 = .duplicate := by
      simp only [Receiver.accept, if_neg other, if_pos last]
    refine ⟨?_, fun refused => ?_, fun refused => ?_⟩
    · rw [(Receiver.accept_of_ne other).1, after]
    · cases verdict.symm.trans refused
    · cases verdict.symm.trans refused

/-- A fragment arrives. It completes the front datagram at most once while the cursor stays. -/
theorem Tracking.accept {receiver : Receiver} {fragment : Fragment}
    (tracking : Tracking receiver.maxDatagram limit cursor front receiver.uptake
      (fragment :: fragments) acks handed) :
    ∃ later, Tracking receiver.maxDatagram limit cursor front (receiver.accept fragment).2.uptake
        fragments acks later ∧
      ((receiver.accept fragment).1.datagrams = fitting receiver.maxDatagram [front] ∧
          front ≠ [] ∧ handed = false ∧ later = true ∨
        (receiver.accept fragment).1.datagrams = [] ∧ later = handed) := by
  have rest := tracking.lose (List.sublist_cons_self ..) (List.Sublist.refl acks)
  by_cases next : fragment.seq = receiver.expected
  · cases tracking with
    | taken within nonempty expected assembly repeated split uncovered covering =>
      -- what is still on its way was taken before, and the receiver waits for the number after it
      have number := (repeated fragment (List.mem_cons_self ..)).seq_eq
      rw [next] at number
      exact absurd (expected.symm.trans number) (successor_ne cursor.seq)
    | @waiting stale current within expected assembly split old new uncovered =>
      cases stale with
      | cons first others =>
        rw [List.cons_append] at split
        cases split
        -- numbers in flight differ by one at most, so an old fragment is not next in line
        have number := old fragment (List.mem_cons_self ..)
        rw [next] at number
        exact absurd (number.symm.trans expected) (predecessor_ne cursor.seq)
      | nil =>
        rw [List.nil_append] at split
        subst split
        have yields := new fragment (List.mem_cons_self ..)
        obtain ⟨moved, quiet⟩ := yields.accept_eq next assembly
        have after : receiver.expected + 1 = cursor.seq + 1 := congrArg (· + 1) expected
        have repeated := fun other member => new other (List.mem_cons_of_mem fragment member)
        have noneLate : ∀ ack ∈ ([] : List UInt8), ack = cursor.seq + 1 := by
          intro ack member
          cases member
        refine ⟨decide (front.length ≤ cursor.acked + limit), ?_, ?_⟩
        · refine .taken within yields.nonempty ?_ ?_ repeated (List.append_nil acks).symm uncovered
            noneLate
          · rw [moved]
            exact after
          · rw [moved]
        · rw [quiet]
          split
          · rename_i more
            exact Or.inr ⟨rfl, decide_eq_false (Nat.not_le.mpr more)⟩
          · rename_i last
            exact Or.inl ⟨rfl, yields.nonempty, rfl, decide_eq_true (Nat.not_lt.mp last)⟩
  · obtain ⟨same, quiet⟩ := Receiver.accept_of_ne next
    rw [same]
    exact ⟨handed, rest, Or.inr ⟨quiet, rfl⟩⟩

/-- The acknowledgement of the fragment at the cursor arrives. It was handed over in full if
nothing of the datagram is left, and the receiver already waits for what comes next. -/
theorem Tracking.acknowledge {ack : UInt8}
    (tracking : Tracking room limit cursor front uptake fragments (ack :: acks) handed)
    (covers : ack = cursor.seq + 1) :
    if cursor.acked + limit < front.length then
      handed = false ∧
        Tracking room limit ⟨ack, cursor.acked + limit⟩ front uptake fragments acks false
    else
      handed = true ∧ ∀ next, Tracking room limit ⟨ack, 0⟩ next uptake fragments acks false := by
  cases tracking with
  | waiting within expected assembly split old new uncovered =>
    have number := uncovered ack (List.mem_cons_self ..)
    exact absurd (covers.symm.trans number) (successor_ne cursor.seq)
  | @taken early late within nonempty expected assembly repeated split uncovered covering =>
    cases early with
    | cons first others =>
      rw [List.cons_append] at split
      cases split
      have number := uncovered ack (List.mem_cons_self ..)
      exact absurd (covers.symm.trans number) (successor_ne cursor.seq)
    | nil =>
      rw [List.nil_append] at split
      subst split
      have old : ∀ fragment ∈ fragments, fragment.seq = ack - 1 := by
        intro fragment member
        rw [(repeated fragment member).seq_eq, covers, UInt8.add_sub_cancel]
      have later : ∀ other ∈ acks, other = ack := by
        intro other member
        rw [covers]
        exact covering other (List.mem_cons_of_mem _ member)
      have nothing : ∀ next seq acked fragment, fragment ∈ ([] : List Fragment) →
          Cursor.Yields ⟨seq, acked⟩ limit next fragment := by
        intro _ _ _ fragment member
        cases member
      rw [← covers] at expected
      by_cases more : cursor.acked + limit < front.length
      · rw [if_pos more] at assembly ⊢
        exact ⟨decide_eq_false (Nat.not_le.mpr more), .waiting (Or.inr more) expected assembly
          (List.append_nil _).symm old (nothing _ _ _) later⟩
      · rw [if_neg more] at assembly ⊢
        exact ⟨decide_eq_true (Nat.not_lt.mp more), fun next => .waiting (Or.inl rfl) expected
          assembly (List.append_nil _).symm old (nothing _ _ _) later⟩

end DatagramLink
