import DatagramLink.Bytes
import Mathlib.Data.List.Basic

namespace DatagramLink

/-- The first datagram as often as the first count says, then the second, and so on. -/
def repeated (counts : List Nat) (datagrams : List Bytes) : List Bytes :=
  (List.zipWith List.replicate counts datagrams).flatten

section repeated

variable {counts : List Nat} {datagrams : List Bytes}

theorem repeated_append (within : counts.length ≤ datagrams.length) (more : List Bytes) :
    repeated counts (datagrams ++ more) = repeated counts datagrams := by
  induction counts generalizing datagrams with
  | nil => rfl
  | cons count counts ih =>
    cases datagrams with
    | nil => cases within
    | cons first rest =>
      have later := ih (Nat.le_of_succ_le_succ within)
      simp only [repeated, List.cons_append, List.zipWith_cons_cons, List.flatten_cons] at later ⊢
      rw [later]

theorem repeated_concat {count : Nat} {datagram : Bytes}
    (next : datagrams[counts.length]? = some datagram) :
    repeated (counts ++ [count]) datagrams =
      repeated counts datagrams ++ List.replicate count datagram := by
  induction counts generalizing datagrams with
  | nil =>
    cases datagrams with
    | nil => cases next
    | cons first rest =>
      cases next
      simp only [repeated, List.nil_append, List.zipWith_cons_cons, List.zipWith_nil_left,
        List.flatten_cons, List.flatten_nil, List.append_nil]
  | cons first counts ih =>
    cases datagrams with
    | nil => cases next
    | cons head rest =>
      have later := ih next
      simp only [repeated, List.cons_append, List.zipWith_cons_cons, List.flatten_cons] at later ⊢
      rw [later, List.append_assoc]

theorem sublist_repeated (positive : ∀ count ∈ counts, 1 ≤ count) :
    (datagrams.take counts.length).Sublist (repeated counts datagrams) := by
  induction counts generalizing datagrams with
  | nil => exact List.nil_sublist _
  | cons count counts ih =>
    obtain ⟨once, others⟩ := List.forall_mem_cons.mp positive
    cases datagrams with
    | nil => exact List.nil_sublist _
    | cons first rest =>
      have single : [first].Sublist (List.replicate count first) :=
        List.replicate_sublist_replicate first |>.mpr once
      exact single.append (ih others)

theorem mem_of_mem_repeated {datagram : Bytes} (member : datagram ∈ repeated counts datagrams) :
    datagram ∈ datagrams := by
  induction counts generalizing datagrams with
  | nil => cases member
  | cons count counts ih =>
    cases datagrams with
    | nil => cases member
    | cons first rest =>
      rcases List.mem_append.mp member with here | later
      · rw [List.eq_of_mem_replicate here]
        exact List.mem_cons_self ..
      · exact List.mem_cons_of_mem _ (ih later)

theorem exists_concat_of_length {removed : Nat} (more : counts.length = removed + 1) :
    ∃ init last, counts = init ++ [last] ∧ init.length = removed := by
  rcases counts.eq_nil_or_concat with rfl | ⟨init, last, split⟩
  · cases more
  · rw [List.concat_eq_append] at split
    rw [split, List.length_append, List.length_singleton] at more
    exact ⟨init, last, split, Nat.succ.inj more⟩

end repeated

/-- Every datagram handed over was accepted, in this order and each at least once, up to the ones
removed and perhaps the next. The flag says that the next one was handed over for sure. On a steady
line each was handed over just once. -/
structure Ledger (steady : Prop) (accepted : List Bytes) (removed : Nat) (handed : Bool)
    (delivered : List Bytes) : Prop where
  removed_le : removed ≤ accepted.length
  counted : ∃ counts : List Nat, (∀ count ∈ counts, 1 ≤ count) ∧
    counts.length ≤ accepted.length ∧ delivered = repeated counts accepted ∧
    (counts.length = removed ∧ handed = false ∨ counts.length = removed + 1)
  once : steady → delivered = accepted.take (removed + handed.toNat)

variable {steady : Prop} {accepted delivered : List Bytes} {removed : Nat} {handed : Bool}

theorem ledger_empty : Ledger steady [] 0 false [] where
  removed_le := Nat.le_refl 0
  counted := ⟨[], (fun _ member => by cases member), Nat.le_refl 0, rfl, Or.inl ⟨rfl, rfl⟩⟩
  once := fun _ => rfl

theorem Ledger.handed_le (ledger : Ledger steady accepted removed handed delivered) :
    removed + handed.toNat ≤ accepted.length := by
  obtain ⟨counts, _, bound, _, level⟩ := ledger.counted
  cases handed with
  | false => exact ledger.removed_le
  | true =>
    rcases level with ⟨_, no⟩ | more
    · cases no
    · exact more ▸ bound

theorem Ledger.accept (ledger : Ledger steady accepted removed handed delivered)
    (datagram : Bytes) : Ledger steady (accepted ++ [datagram]) removed handed delivered := by
  have short := ledger.handed_le
  obtain ⟨within, ⟨counts, positive, bound, delivery, level⟩, once⟩ := ledger
  refine ⟨?_, ⟨counts, positive, ?_, ?_, level⟩, fun still => ?_⟩
  · rw [List.length_append]
    omega
  · rw [List.length_append]
    omega
  · rw [delivery, repeated_append bound]
  · rw [once still, List.take_append_of_le_length short]

/-- The receiving end hands the next datagram over. -/
theorem Ledger.hand (ledger : Ledger steady accepted removed false delivered) {datagram : Bytes}
    (next : accepted[removed]? = some datagram) :
    Ledger steady accepted removed true (delivered ++ [datagram]) := by
  obtain ⟨within, ⟨counts, positive, bound, delivery, level⟩, once⟩ := ledger
  obtain ⟨inside, _⟩ := List.getElem?_eq_some_iff.mp next
  refine ⟨within, ?_, fun still => ?_⟩
  · rcases level with ⟨equal, _⟩ | more
    · subst equal
      refine ⟨counts ++ [1], ?_, ?_, ?_, Or.inr List.length_append⟩
      · exact List.forall_mem_append.mpr ⟨positive, List.forall_mem_singleton.mpr (Nat.le_refl 1)⟩
      · rw [List.length_append]
        exact inside
      · rw [delivery, repeated_concat next]
        rfl
    · -- the next datagram was handed over before, and the sending end could not know
      obtain ⟨counts, last, rfl, rfl⟩ := exists_concat_of_length more
      rw [List.length_append, List.length_singleton] at bound
      obtain ⟨others, _⟩ := List.forall_mem_append.mp positive
      refine ⟨counts ++ [last + 1], ?_, ?_, ?_, Or.inr List.length_append⟩
      · exact List.forall_mem_append.mpr
          ⟨others, List.forall_mem_singleton.mpr (Nat.succ_le_succ (Nat.zero_le last))⟩
      · rw [List.length_append]
        exact bound
      · rw [delivery, repeated_concat next, repeated_concat next, List.append_assoc,
          ← List.replicate_succ']
  · rw [once still, Bool.toNat_false, Bool.toNat_true, Nat.add_zero, List.take_add_one, next]
    rfl

/-- What was handed over last is the datagram that the sending end has not removed yet. -/
theorem Ledger.getLast?_eq (ledger : Ledger steady accepted removed true delivered)
    {datagram : Bytes} (next : accepted[removed]? = some datagram) :
    delivered.getLast? = some datagram := by
  obtain ⟨_, ⟨counts, positive, _, delivery, level⟩, _⟩ := ledger
  have more : counts.length = removed + 1 := level.resolve_left fun no => by cases no.2
  obtain ⟨counts, last, rfl, rfl⟩ := exists_concat_of_length more
  have once := (List.forall_mem_append.mp positive).2 last (List.mem_singleton_self last)
  obtain ⟨fewer, rfl⟩ := Nat.exists_eq_add_of_le' once
  rw [delivery, repeated_concat next, List.replicate_succ', ← List.append_assoc,
    List.getLast?_concat]

/-- The sending end removes a datagram that was handed over. -/
theorem Ledger.remove (ledger : Ledger steady accepted removed true delivered) :
    Ledger steady accepted (removed + 1) false delivered := by
  obtain ⟨within, ⟨counts, positive, bound, delivery, level⟩, once⟩ := ledger
  have more : counts.length = removed + 1 := level.resolve_left fun no => by cases no.2
  exact ⟨more ▸ bound, ⟨counts, positive, bound, delivery, Or.inl ⟨more, rfl⟩⟩, once⟩

/-- When the streams start over, it is forgotten whether the next datagram was handed over. -/
theorem Ledger.forget (ledger : Ledger steady accepted removed handed delivered) {later : Bool}
    (forgets : later = handed ∨ ¬ steady ∧ later = false) :
    Ledger steady accepted removed later delivered := by
  rcases forgets with rfl | ⟨restless, rfl⟩
  · exact ledger
  · obtain ⟨within, ⟨counts, positive, bound, delivery, level⟩, _⟩ := ledger
    refine ⟨within, ⟨counts, positive, bound, delivery, ?_⟩, fun still => absurd still restless⟩
    exact level.imp_left fun equal => ⟨equal.1, rfl⟩

end DatagramLink
