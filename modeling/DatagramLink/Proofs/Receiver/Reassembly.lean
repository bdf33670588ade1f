import DatagramLink.Proofs.Receiver.Uptake
import Mathlib.Data.List.SplitBy

namespace DatagramLink

/-- A fragment and what the receiver made of it. -/
structure Receipt where
  fragment : Fragment
  verdict : Verdict
  deriving DecidableEq

/-- The fragment was next in line, whatever became of its datagram. -/
def Verdict.isAccepted : Verdict → Bool
  | .buffered | .delivered _ | .tooLarge => true
  | .duplicate | .outOfOrder => false

/-- The fragment was next in line. -/
def Receipt.isAccepted (receipt : Receipt) : Bool := receipt.verdict.isAccepted

/-- What the fragments of a group carry together. -/
def Receipt.content (group : List Receipt) : Bytes := group.flatMap (·.fragment.bytes)

/-- Receives fragments one after the other. -/
def Receiver.acceptAll (receiver : Receiver) : List Fragment → List Receipt × Receiver
  | [] => ([], receiver)
  | fragment :: fragments =>
    let (verdict, receiver) := receiver.accept fragment
    let (receipts, receiver) := receiver.acceptAll fragments
    (⟨fragment, verdict⟩ :: receipts, receiver)

/-- What may become of the accepted fragments of one datagram. -/
inductive Receipt.Reassembled (room : Nat) : List Receipt → Prop where
  /-- The datagram goes on, and there was room for all of it so far. -/
  | ongoing {group : List Receipt}
      (unfinished : ∀ receipt ∈ group, receipt.fragment.unfinished = true)
      (buffered : ∀ receipt ∈ group, receipt.verdict = .buffered)
      (fits : (content group).length ≤ room) : Reassembled room group
  | delivered {group : List Receipt} {last : Receipt}
      (unfinished : ∀ receipt ∈ group, receipt.fragment.unfinished = true)
      (finished : last.fragment.unfinished = false)
      (buffered : ∀ receipt ∈ group, receipt.verdict = .buffered)
      (fits : (content (group ++ [last])).length ≤ room)
      (whole : last.verdict = .delivered (content (group ++ [last]))) :
      Reassembled room (group ++ [last])
  /-- One fragment crosses the limit. What is before and behind it is only buffered. -/
  | tooLarge {early late : List Receipt} {crossing : Receipt}
      (before : (content early).length ≤ room)
      (crosses : room < (content (early ++ [crossing])).length)
      (found : crossing.verdict = .tooLarge)
      (buffered : ∀ receipt ∈ early ++ late, receipt.verdict = .buffered) :
      Reassembled room (early ++ crossing :: late)

/-- The last fragment of the group, and no other, ends the datagram. -/
inductive Receipt.Complete : List Receipt → Prop where
  | intro {group : List Receipt} {last : Receipt}
      (unfinished : ∀ receipt ∈ group, receipt.fragment.unfinished = true)
      (finished : last.fragment.unfinished = false) : Complete (group ++ [last])

/-- The accepted fragments in groups: those of the complete datagrams, and those of the datagram
that the receiver is at. -/
structure Receiver.Progress (receiver : Receiver) (room : Nat) (complete : List (List Receipt))
    (current : List Receipt) : Prop where
  maxDatagram_eq : receiver.maxDatagram = room
  expected_eq : receiver.expected = UInt8.ofNat (complete.flatten ++ current).length
  assembly_eq : receiver.assembly = .upTo room (Receipt.content current)
  unfinished : ∀ receipt ∈ current, receipt.fragment.unfinished = true
  reassembled : Receipt.Reassembled room current
  before : ∀ group ∈ complete, Receipt.Complete group ∧ Receipt.Reassembled room group

theorem Receipt.content_concat (group : List Receipt) (receipt : Receipt) :
    content (group ++ [receipt]) = content group ++ receipt.fragment.bytes := by
  simp only [content, List.flatMap_append, List.flatMap_singleton]

theorem Receiver.acceptAll_concat (receiver : Receiver) (fragments : List Fragment)
    (next : Fragment) :
    receiver.acceptAll (fragments ++ [next]) =
      ((receiver.acceptAll fragments).1 ++
          [⟨next, ((receiver.acceptAll fragments).2.accept next).1⟩],
        ((receiver.acceptAll fragments).2.accept next).2) := by
  induction fragments generalizing receiver with
  | nil => rfl
  | cons fragment fragments ih =>
    simp only [List.cons_append, Receiver.acceptAll, ih]

theorem Assembly.size_upTo_le (room : Nat) (bytes : Bytes) : (Assembly.upTo room bytes).size ≤ room := by
  unfold Assembly.upTo
  split
  · assumption
  · exact Nat.zero_le room

/-- The next fragment of a datagram that is not complete fits in with those before it. -/
theorem Receipt.Reassembled.add {room : Nat} {group : List Receipt} {receipt : Receipt}
    (reassembled : Reassembled room group)
    (unfinished : ∀ receipt ∈ group, receipt.fragment.unfinished = true)
    (verdict : receipt.verdict =
      ((Assembly.upTo room (content group)).add room receipt.fragment).1) :
    Reassembled room (group ++ [receipt]) := by
  rw [Assembly.upTo_add, ← content_concat] at verdict
  cases reassembled with
  | ongoing _ buffered fits =>
    by_cases more : (content (group ++ [receipt])).length ≤ room
    · rw [if_pos more] at verdict
      cases ends : receipt.fragment.unfinished with
      | true =>
        rw [ends, if_pos rfl] at verdict
        refine .ongoing ?_ ?_ more
        · exact List.forall_mem_append.mpr ⟨unfinished, List.forall_mem_singleton.mpr ends⟩
        · exact List.forall_mem_append.mpr ⟨buffered, List.forall_mem_singleton.mpr verdict⟩
      | false =>
        rw [ends, if_neg Bool.false_ne_true] at verdict
        exact .delivered unfinished ends buffered more verdict
    · rw [if_neg more, if_pos fits] at verdict
      refine .tooLarge fits (Nat.not_le.mp more) verdict ?_
      rwa [List.append_nil]
  | @delivered group last _ finished =>
    have goesOn := unfinished last (List.mem_append_right _ (List.mem_singleton_self last))
    cases finished.symm.trans goesOn
  | @tooLarge early late crossing before crosses found buffered =>
    -- what crossed the limit once stays beyond it
    have beyond : ∀ others, ¬ (content (early ++ crossing :: others)).length ≤ room := by
      intro others
      have split : content (early ++ crossing :: others) =
          content (early ++ [crossing]) ++ content others := by simp [content]
      rw [split, List.length_append]
      omega
    rw [List.append_assoc, List.cons_append] at verdict ⊢
    rw [if_neg (beyond _), if_neg (beyond _)] at verdict
    refine .tooLarge before crosses found ?_
    rw [← List.append_assoc]
    exact List.forall_mem_append.mpr ⟨buffered, List.forall_mem_singleton.mpr verdict⟩

theorem Receiver.progress_new (room : Nat) : (Receiver.new room).Progress room [] [] where
  maxDatagram_eq := rfl
  expected_eq := rfl
  assembly_eq := (Assembly.upTo_nil room).symm
  unfinished := fun _ member => nomatch member
  reassembled := .ongoing (fun _ member => nomatch member) (fun _ member => nomatch member)
    (Nat.zero_le room)
  before := fun _ member => nomatch member

section progress

variable {receiver : Receiver} {room : Nat} {complete : List (List Receipt)}
  {current : List Receipt}

/-- The fragment that is next in line is accepted, as one more of the current group. -/
theorem Receiver.Progress.accept (progress : receiver.Progress room complete current)
    {next : Fragment} (inLine : next.seq = receiver.expected) :
    (receiver.accept next).1.isAccepted = true ∧
      ∃ complete' current', complete'.flatten ++ current' =
          complete.flatten ++ current ++ [⟨next, (receiver.accept next).1⟩] ∧
        (receiver.accept next).2.Progress room complete' current' := by
  have accepted : receiver.accept next =
      (((Assembly.upTo room (Receipt.content current)).add room next).1,
        { receiver with
          expected := receiver.expected + 1
          assembly := ((Assembly.upTo room (Receipt.content current)).add room next).2 }) := by
    rw [Receiver.accept, if_pos inLine, progress.assembly_eq, progress.maxDatagram_eq]
  generalize whose : (⟨next, (receiver.accept next).1⟩ : Receipt) = receipt
  have same : receipt.fragment = next := by rw [← whose]
  have given : receipt.verdict = (receiver.accept next).1 := by rw [← whose]
  rw [accepted, ← same] at given
  rw [accepted, ← same, ← given]
  have reassembled := progress.reassembled.add progress.unfinished given
  have count : receiver.expected + 1 =
      UInt8.ofNat (complete.flatten ++ current ++ [receipt]).length := by
    rw [List.length_append, List.length_singleton, UInt8.ofNat_add, progress.expected_eq]
    rfl
  refine ⟨?_, ?_⟩
  · rw [given, Assembly.upTo_add]
    dsimp only
    split
    · split <;> rfl
    · split <;> rfl
  rw [Assembly.upTo_add, ← Receipt.content_concat]
  cases ends : receipt.fragment.unfinished with
  | true =>
    rw [List.append_assoc] at count
    refine ⟨complete, current ++ [receipt], (List.append_assoc ..).symm, progress.maxDatagram_eq,
      count, rfl, ?_, reassembled, progress.before⟩
    exact List.forall_mem_append.mpr ⟨progress.unfinished, List.forall_mem_singleton.mpr ends⟩
  | false =>
    have regrouped : (complete ++ [current ++ [receipt]]).flatten ++ [] =
        complete.flatten ++ current ++ [receipt] := by simp
    have start := Receiver.progress_new room
    refine ⟨complete ++ [current ++ [receipt]], [], regrouped, progress.maxDatagram_eq,
      regrouped ▸ count, start.assembly_eq, start.unfinished, start.reassembled, ?_⟩
    refine List.forall_mem_append.mpr ⟨progress.before, List.forall_mem_singleton.mpr ?_⟩
    exact ⟨.intro progress.unfinished ends, reassembled⟩

end progress

theorem Receiver.progress_acceptAll (room : Nat) (fragments : List Fragment) :
    ∃ complete current,
      ((Receiver.new room).acceptAll fragments).1.filter Receipt.isAccepted =
          complete.flatten ++ current ∧
        ((Receiver.new room).acceptAll fragments).2.Progress room complete current := by
  induction fragments using List.reverseRecOn with
  | nil => exact ⟨[], [], rfl, Receiver.progress_new room⟩
  | append_singleton fragments next ih =>
    obtain ⟨complete, current, accepted, progress⟩ := ih
    rw [Receiver.acceptAll_concat, List.filter_append, accepted]
    generalize ((Receiver.new room).acceptAll fragments).2 = receiver at progress
    by_cases inLine : next.seq = receiver.expected
    · obtain ⟨taken, complete', current', grouped, after⟩ := progress.accept inLine
      have kept : Receipt.isAccepted ⟨next, (receiver.accept next).1⟩ = true := taken
      refine ⟨complete', current', ?_, after⟩
      rw [grouped, List.filter_cons_of_pos kept, List.filter_nil]
    · have turnedAway : Receipt.isAccepted ⟨next, (receiver.accept next).1⟩ = false := by
        rw [Receiver.accept_other inLine]
        unfold Receipt.isAccepted
        dsimp only
        split <;> rfl
      refine ⟨complete, current, ?_, ?_⟩
      · rw [List.filter_cons_of_neg (Bool.eq_false_iff.mp turnedAway), List.filter_nil,
          List.append_nil]
      · rw [Receiver.accept_other inLine]
        exact progress

/-- The fragments in groups, each up to the one that ends its datagram. -/
def Receipt.groups (receipts : List Receipt) : List (List Receipt) :=
  receipts.splitBy fun earlier _ => earlier.fragment.unfinished

theorem Receipt.isChain_of_unfinished {group : List Receipt}
    (unfinished : ∀ receipt ∈ group, receipt.fragment.unfinished = true) :
    group.IsChain fun earlier _ => earlier.fragment.unfinished = true :=
  (List.pairwise_of_forall_mem_list fun receipt member _ _ => unfinished receipt member).isChain

theorem Receipt.groups_append {group : List Receipt} (complete : Complete group)
    (others : List Receipt) : groups (group ++ others) = group :: groups others := by
  obtain ⟨unfinished, finished⟩ := complete
  rename_i group last
  have linked : (group ++ [last]).IsChain fun earlier _ => earlier.fragment.unfinished = true := by
    refine List.isChain_append.mpr
      ⟨isChain_of_unfinished unfinished, List.isChain_singleton last, ?_⟩
    exact fun receipt member _ _ => unfinished receipt (List.mem_of_mem_getLast? member)
  have ended : ∀ receipt ∈ (group ++ [last]).getLast?, ∀ other ∈ others.head?,
      receipt.fragment.unfinished = false := by
    intro receipt member _ _
    rw [List.getLast?_concat] at member
    cases member
    exact finished
  rw [groups, List.splitBy_append ended, List.splitBy_of_isChain (by simp) linked]
  rfl

/-- What is behind the complete groups is the last group. -/
theorem Receipt.mem_groups {complete : List (List Receipt)} {current group : List Receipt}
    (closed : ∀ group ∈ complete, Complete group)
    (unfinished : ∀ receipt ∈ current, receipt.fragment.unfinished = true)
    (member : group ∈ groups (complete.flatten ++ current)) : group ∈ complete ∨ group = current := by
  induction complete with
  | nil =>
    have linked := isChain_of_unfinished unfinished
    by_cases empty : current = []
    · rw [empty] at member
      cases member
    · rw [List.flatten_nil, List.nil_append, groups, List.splitBy_of_isChain empty linked] at member
      exact Or.inr (List.mem_singleton.mp member)
  | cons first rest ih =>
    rw [List.flatten_cons, List.append_assoc,
      groups_append (closed first (List.mem_cons_self ..))] at member
    rcases List.mem_cons.mp member with rfl | later
    · exact Or.inl (List.mem_cons_self ..)
    · rcases ih (fun group inside => closed group (List.mem_cons_of_mem _ inside)) later with
        inside | last
      · exact Or.inl (List.mem_cons_of_mem _ inside)
      · exact Or.inr last

/-- Whatever fragments come: a fragment is accepted just if its number is how many were accepted
before, and one that is not leaves the receiver as it is. The accepted ones, in groups up to those
that end a datagram, are reassembled group by group, and never more bytes are held than there is room
for. -/
theorem Receiver.reassembles (room : Nat) (fragments : List Fragment) :
    let receiver := ((Receiver.new room).acceptAll fragments).2
    let accepted := ((Receiver.new room).acceptAll fragments).1.filter Receipt.isAccepted
    (∀ next : Fragment,
      if next.seq = UInt8.ofNat accepted.length then
        (receiver.accept next).1.isAccepted = true ∧
          (receiver.accept next).2.expected = UInt8.ofNat (accepted.length + 1)
      else
        receiver.accept next =
          (if next.seq = UInt8.ofNat accepted.length - 1 then .duplicate else .outOfOrder,
            receiver)) ∧
      (∀ group ∈ Receipt.groups accepted, Receipt.Reassembled room group) ∧
      receiver.assembly.size ≤ room := by
  intro receiver accepted
  obtain ⟨complete, current, grouped, progress⟩ := Receiver.progress_acceptAll room fragments
  have expected : receiver.expected = UInt8.ofNat accepted.length :=
    progress.expected_eq.trans (congrArg (UInt8.ofNat ·.length) grouped.symm)
  refine ⟨fun next => ?_, fun group member => ?_, ?_⟩
  · split
    · rename_i number
      have inLine := number.trans expected.symm
      refine ⟨(progress.accept inLine).1, ?_⟩
      rw [Receiver.expected_accept inLine, expected, UInt8.ofNat_add]
      rfl
    · rename_i number
      rw [← expected] at number ⊢
      exact Receiver.accept_other number
  · have closed : ∀ group ∈ complete, Receipt.Complete group := fun group inside =>
      (progress.before group inside).1
    have member : group ∈ Receipt.groups (complete.flatten ++ current) := grouped ▸ member
    rcases Receipt.mem_groups closed progress.unfinished member with inside | rfl
    · exact (progress.before group inside).2
    · exact progress.reassembled
  · exact progress.assembly_eq ▸ Assembly.size_upTo_le room (Receipt.content current)

/-- The second fragment is too much, and comes twice. The next datagram does not suffer from that. -/
example : ((Receiver.new 2).acceptAll [
    ⟨0, true, [1], by decide⟩, ⟨1, true, [2, 3], by decide⟩, ⟨1, true, [2, 3], by decide⟩,
    ⟨2, false, [4], by decide⟩, ⟨3, false, [5], by decide⟩]).1.map Receipt.verdict =
      [.buffered, .tooLarge, .duplicate, .buffered, .delivered [5]] := by decide

end DatagramLink
