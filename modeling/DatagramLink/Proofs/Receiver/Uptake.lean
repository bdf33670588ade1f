import DatagramLink.Receiver

namespace DatagramLink

/-- How far a receiver has come: the number it expects and what it has collected of a datagram.
What the peer said last does not count. -/
structure Uptake where
  expected : UInt8
  assembly : Assembly

/-- How far this receiver has come. -/
def Receiver.uptake (receiver : Receiver) : Uptake where
  expected := receiver.expected
  assembly := receiver.assembly

/-- The start of the peer's stream. -/
def Uptake.start : Uptake := ⟨0, .collecting []⟩

/-- The datagram that is handed over, if one is complete. -/
def Verdict.datagrams : Verdict → List Bytes
  | .delivered datagram => [datagram]
  | .buffered | .duplicate | .outOfOrder | .tooLarge => []

/-- What a packet of the stream does to a receiver: the datagrams it completes, and the receiver
after that. -/
def Receiver.takeIn (receiver : Receiver) (packet : Packet) : List Bytes × Receiver :=
  match Fragment.ofPacket? packet with
  | none => ([], receiver.note packet.header)
  | some fragment =>
    let (verdict, receiver) := (receiver.note packet.header).accept fragment
    (verdict.datagrams, receiver)

theorem Receiver.maxDatagram_accept (receiver : Receiver) (fragment : Fragment) :
    (receiver.accept fragment).2.maxDatagram = receiver.maxDatagram := by
  unfold Receiver.accept
  split
  · rfl
  · split <;> rfl

/-- A fragment that is not next in line is turned away, and the receiver stays as it is. -/
theorem Receiver.accept_other {receiver : Receiver} {fragment : Fragment}
    (other : fragment.seq ≠ receiver.expected) :
    receiver.accept fragment =
      (if fragment.seq = receiver.expected - 1 then .duplicate else .outOfOrder, receiver) := by
  rw [Receiver.accept, if_neg other]
  split <;> rfl

theorem Receiver.accept_of_ne {receiver : Receiver} {fragment : Fragment}
    (other : fragment.seq ≠ receiver.expected) :
    (receiver.accept fragment).2 = receiver ∧ (receiver.accept fragment).1.datagrams = [] := by
  rw [Receiver.accept_other other]
  refine ⟨rfl, ?_⟩
  dsimp only
  split <;> rfl

theorem Receiver.expected_accept {receiver : Receiver} {fragment : Fragment}
    (next : fragment.seq = receiver.expected) :
    (receiver.accept fragment).2.expected = receiver.expected + 1 := by
  unfold Receiver.accept
  rw [if_pos next]

/-- What the peer said before does not matter. -/
theorem Receiver.accept_note (receiver : Receiver) (header : Header) (fragment : Fragment) :
    (receiver.note header).accept fragment =
      ((receiver.accept fragment).1, (receiver.accept fragment).2.note header) := by
  unfold Receiver.accept Receiver.note
  dsimp only
  split
  · rfl
  · split <;> rfl

/-- The fragment is the next one, or it was taken in just before, and there is room for it. -/
structure Receiver.Welcomes (receiver : Receiver) (fragment : Fragment) : Prop where
  expected : (receiver.accept fragment).2.expected = fragment.seq + 1
  ordered : (receiver.accept fragment).1 ≠ .outOfOrder
  fits : (receiver.accept fragment).1 ≠ .tooLarge

theorem Receiver.Welcomes.note {receiver : Receiver} {fragment : Fragment}
    (welcome : receiver.Welcomes fragment) (header : Header) :
    (receiver.note header).Welcomes fragment := by
  refine ⟨?_, ?_, ?_⟩ <;> rw [receiver.accept_note]
  · exact welcome.expected
  · exact welcome.ordered
  · exact welcome.fits

/-- What a receiver with this much room holds after these bytes of a datagram. -/
def Assembly.upTo (room : Nat) (bytes : Bytes) : Assembly :=
  if bytes.length ≤ room then .collecting bytes else .discarding

theorem Assembly.upTo_nil (room : Nat) : Assembly.upTo room [] = .collecting [] :=
  if_pos (Nat.zero_le room)

/-- The datagrams that a receiver with this much room hands over. -/
def fitting (room : Nat) (datagrams : List Bytes) : List Bytes :=
  datagrams.filter (·.length ≤ room)

theorem fitting_of_le {room : Nat} {datagrams : List Bytes}
    (small : ∀ datagram ∈ datagrams, datagram.length ≤ room) :
    fitting room datagrams = datagrams :=
  List.filter_eq_self.mpr fun datagram member => decide_eq_true (small datagram member)

/-- What is made of the next fragment of a datagram depends only on the bytes of it so far: the first
fragment that does not fit is reported, and the rest is dropped. -/
theorem Assembly.upTo_add (room : Nat) (soFar : Bytes) (fragment : Fragment) :
    (Assembly.upTo room soFar).add room fragment =
      (if (soFar ++ fragment.bytes).length ≤ room then
          if fragment.unfinished then .buffered else .delivered (soFar ++ fragment.bytes)
        else if soFar.length ≤ room then .tooLarge
        else .buffered,
        if fragment.unfinished then .upTo room (soFar ++ fragment.bytes) else .collecting []) := by
  have length : (soFar ++ fragment.bytes).length = soFar.length + fragment.bytes.length :=
    List.length_append
  by_cases before : soFar.length ≤ room
  · by_cases now : soFar.length + fragment.bytes.length ≤ room
    · simp only [Assembly.upTo, if_pos before, Assembly.add, if_neg (Nat.not_lt.mpr now), length,
        if_pos now]
      cases fragment.unfinished <;> rfl
    · simp only [Assembly.upTo, if_pos before, Assembly.add, if_pos (Nat.not_le.mp now), length,
        if_neg now]
  · have after : ¬ soFar.length + fragment.bytes.length ≤ room := by omega
    simp only [Assembly.upTo, if_neg before, Assembly.add, length, if_neg after]

/-- The datagram that a fragment completes is handed over if it fits; one that does not fit is
discarded, whether this fragment or an earlier one was too much. -/
theorem Assembly.add_upTo (room : Nat) (soFar : Bytes) (fragment : Fragment) :
    let whole := soFar ++ fragment.bytes
    ((Assembly.upTo room soFar).add room fragment).2 =
        (if fragment.unfinished then .upTo room whole else .collecting []) ∧
      ((Assembly.upTo room soFar).add room fragment).1.datagrams =
        if fragment.unfinished then [] else fitting room [whole] := by
  intro whole
  rw [Assembly.upTo_add]
  refine ⟨rfl, ?_⟩
  dsimp only
  by_cases fits : whole.length ≤ room
  · rw [if_pos fits, fitting_of_le (List.forall_mem_singleton.mpr fits)]
    cases fragment.unfinished <;> rfl
  · have large : fitting room [whole] = [] := by
      simp only [fitting, List.filter_cons, decide_eq_false fits, Bool.false_eq_true, if_false,
        List.filter_nil]
    rw [if_neg fits, large, ite_self]
    split <;> rfl

end DatagramLink
