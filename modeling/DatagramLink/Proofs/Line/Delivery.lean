import DatagramLink.Proofs.Line.Coherence

namespace DatagramLink

section boot

variable {a b : Settings} (validA : a.check = .ok ()) (validB : b.check = .ok ())

/-- Exactly once and in order: what end `b` has delivered is what end `a` has removed from its
queue, and perhaps the datagram in front of the queue, whose acknowledgement is on its way. -/
theorem Line.delivered_once_in_order (fits : a.maxDatagram ≤ b.maxDatagram) {line : Line}
    (run : Line.Reaches (fun _ _ move => move ≠ .askReset) (Line.started validA validB) line) :
    line.b.delivered <+: line.a.accepted ∧
      line.a.session.sender.queue.toList = line.a.accepted.drop line.a.removed ∧
      (line.b.delivered.length = line.a.removed ∨
        line.b.delivered.length = line.a.removed + 1) := by
  obtain ⟨limit, _, _, started⟩ := Line.coherent_started validA validB fits
  obtain ⟨removed, handed, coherent⟩ : ∃ removed handed, line.lane.Coherent True limit removed handed :=
    run.coherent (fun _ _ other => absurd rfl other) started
  obtain ⟨count, queued⟩ := coherent.removed_eq
  have once : line.b.delivered = line.a.accepted.take (removed + handed.toNat) :=
    coherent.ledger.once trivial
  have length : line.b.delivered.length = removed + handed.toNat := by
    rw [once, List.length_take]
    exact Nat.min_eq_left coherent.ledger.handed_le
  rw [count]
  refine ⟨?_, queued, ?_⟩
  · rw [once]
    exact List.take_prefix _ _
  · rw [length]
    cases handed with
    | false => exact Or.inl rfl
    | true => exact Or.inr rfl

/-- Both ends ask for a reset at once, a reset is repeated, and so is the packet with the datagram,
whose acknowledgement is late. -/
def bootMoves : List (Side × Terminal.Move) :=
  [(.a, .submit [1, 2, 3]), (.a, .depart), (.b, .depart), (.a, .sendDone (.ok ())),
    (.a, .elapsed .resetRetry), (.a, .depart), (.a, .sendDone (.ok ())), (.b, .sendDone (.ok ())),
    (.b, .arrive serialReset.encode), (.b, .depart), (.a, .arrive serialReset.encode),
    (.a, .depart), (.a, .sendDone (.ok ())), (.b, .sendDone (.ok ())), (.a, .depart),
    (.a, .sendDone (.ok ())), (.a, .elapsed .txTimeout), (.a, .depart),
    (.b, .arrive serialReset.encode), (.b, .depart), (.b, .sendDone (.ok ())),
    (.b, .arrive (serialAnswer.encode ++ (firstFragment [1, 2, 3]).encode)), (.b, .depart),
    (.b, .sendDone (.ok ())), (.b, .arrive (firstFragment [1, 2, 3]).encode), (.b, .depart),
    (.a, .arrive (serialAnswer.encode ++ serialAnswer.encode ++ firstAck.encode))]

theorem delivered_once_after_boot :
    ∃ line, (Line.started Settings.check_serialLine Settings.check_serialLine).run?
        (fun _ _ move => move ≠ .askReset) bootMoves = some line ∧
      line.b.delivered = [[1, 2, 3]] ∧ line.b.delivered <+: line.a.accepted ∧
      line.a.session.sender.queue.toList = line.a.accepted.drop line.a.removed ∧
      (line.b.delivered.length = line.a.removed ∨
        line.b.delivered.length = line.a.removed + 1) := by
  have final : ((Line.started Settings.check_serialLine Settings.check_serialLine).run?
      (fun _ _ move => move ≠ .askReset) bootMoves).map (·.b.delivered) = some [[1, 2, 3]] := by
    decide +kernel
  obtain ⟨line, run, delivered⟩ := Option.map_eq_some_iff.mp final
  exact ⟨line, run, delivered, Line.delivered_once_in_order Settings.check_serialLine
    Settings.check_serialLine (Nat.le_refl _) (Line.Reaches.run .start run)⟩

end boot

section resets

/-- An end that is up asks for a reset only while the line is settled. -/
def Line.Orderly (line : Line) (side : Side) (move : Terminal.Move) : Prop :=
  move = .askReset → (line.get side).session.handshake.isUp = true → line.Settled side

variable {a b : Settings} (validA : a.check = .ok ()) (validB : b.check = .ok ())

/-- Whatever the resets, if an end that is up asks for one only while the line is settled: no
datagram that was removed as acknowledged is lost, and nothing is delivered that was not
accepted. -/
theorem Line.removed_delivered (fits : a.maxDatagram ≤ b.maxDatagram) {line : Line}
    (run : Line.Reaches Line.Orderly (Line.resting validA validB) line) :
    (line.a.accepted.take line.a.removed).Sublist line.b.delivered ∧
      line.a.session.sender.queue.toList = line.a.accepted.drop line.a.removed ∧
      ∀ datagram ∈ line.b.delivered, datagram ∈ line.a.accepted := by
  obtain ⟨limit, resting⟩ := Line.coherent_resting validA validB fits
  obtain ⟨removed, handed, coherent⟩ : ∃ removed handed,
      line.lane.Coherent False limit removed handed :=
    run.coherent (fun _ _ orderly up => ⟨not_false, orderly rfl up⟩) resting
  obtain ⟨count, queued⟩ := coherent.removed_eq
  obtain ⟨counts, positive, _, delivery, level⟩ := coherent.ledger.counted
  have delivered : line.b.delivered = repeated counts line.a.accepted := delivery
  rw [count, delivered]
  refine ⟨?_, queued, fun datagram member => mem_of_mem_repeated member⟩
  have enough : removed ≤ counts.length := by omega
  exact (List.take_sublist_take_left enough).trans (sublist_repeated positive)

instance (line : Line) (side : Side) (move : Terminal.Move) :
    Decidable (line.Orderly side move) :=
  inferInstanceAs (Decidable (move = .askReset → (line.get side).session.handshake.isUp = true →
    DatagramLink.Settled (line.get side.other).session.handshake.stage (line.get side).inFlight
      (line.get side.other).inFlight))

/-- The acknowledgement of a datagram is on its way when the link is reset. -/
def orderlyMoves : List (Side × Terminal.Move) :=
  [(.a, .submit [1]), (.a, .askReset), (.a, .depart), (.a, .sendDone (.ok ())),
    (.b, .arrive serialReset.encode), (.b, .depart), (.b, .sendDone (.ok ())),
    (.a, .arrive serialAnswer.encode), (.a, .depart), (.a, .sendDone (.ok ())),
    (.b, .arrive (firstFragment [1]).encode), (.b, .depart), (.b, .sendDone (.ok ())),
    (.a, .askReset), (.a, .depart), (.a, .sendDone (.ok ())),
    (.b, .arrive serialReset.encode), (.b, .depart), (.b, .sendDone (.ok ())),
    (.a, .arrive firstAck.encode), (.a, .arrive serialAnswer.encode), (.a, .depart),
    (.a, .sendDone (.ok ())), (.b, .arrive (firstFragment [1]).encode), (.b, .depart),
    (.a, .arrive firstAck.encode)]

theorem removed_delivered_twice :
    ∃ line, (Line.resting Settings.check_serialLine Settings.check_serialLine).run? Line.Orderly
        orderlyMoves = some line ∧
      line.a.removed = 1 ∧ line.b.delivered = [[1], [1]] ∧
      (line.a.accepted.take line.a.removed).Sublist line.b.delivered ∧
      line.a.session.sender.queue.toList = line.a.accepted.drop line.a.removed ∧
      ∀ datagram ∈ line.b.delivered, datagram ∈ line.a.accepted := by
  have final : ((Line.resting Settings.check_serialLine Settings.check_serialLine).run?
      Line.Orderly orderlyMoves).map (fun line => (line.a.removed, line.b.delivered)) =
        some (1, [[1], [1]]) := by
    decide +kernel
  obtain ⟨line, run, same⟩ := Option.map_eq_some_iff.mp final
  exact ⟨line, run, congrArg Prod.fst same, congrArg Prod.snd same,
    Line.removed_delivered Settings.check_serialLine Settings.check_serialLine (Nat.le_refl _)
      (Line.Reaches.run .start run)⟩

/-- Whether a countdown has been started and not been stopped. -/
def Session.isRunning (session : Session) : Countdown → Bool
  | .txTimeout => session.txArmed
  | .ackDelay => session.ackArmed
  | .resetRetry => session.handshake.stage = .awaiting
  | .rxTimeout => session.rxArmed

/-- Moves on a line that loses packets but does not damage them. -/
def Line.isFaithful (line : Line) (side : Side) : Terminal.Move → Bool
  | .submit _ | .depart | .sendDone _ | .lose | .askReset => true
  | .arrive bytes => (line.get side.other).inFlight.head?.map Packet.encode = some bytes
  | .elapsed countdown => (line.get side).session.isRunning countdown
  | .reportError _ | .closeIntake => false

/-- A reset is repeated, and answered twice. The second answer is taken for the answer to a later
reset, and with it the acknowledgement of a datagram for that of the next one. -/
def staleMoves : List (Side × Terminal.Move) :=
  [(.a, .submit [1]), (.a, .submit [2]), (.a, .askReset), (.a, .depart), (.a, .sendDone (.ok ())),
    (.a, .askReset), (.a, .depart), (.a, .sendDone (.ok ())),
    (.b, .arrive serialReset.encode), (.b, .depart), (.b, .sendDone (.ok ())),
    (.b, .arrive serialReset.encode), (.b, .depart), (.b, .sendDone (.ok ())),
    (.a, .arrive serialAnswer.encode), (.a, .depart), (.a, .sendDone (.ok ())),
    (.b, .arrive (firstFragment [1]).encode), (.b, .depart), (.b, .sendDone (.ok ())),
    (.a, .askReset), (.a, .depart), (.a, .sendDone (.ok ())),
    (.a, .arrive serialAnswer.encode), (.a, .depart), (.a, .sendDone (.ok ())),
    (.a, .arrive firstAck.encode),
    (.b, .arrive serialReset.encode), (.b, .depart), (.b, .sendDone (.ok ())),
    (.b, .arrive (firstFragment [1]).encode), (.b, .depart), (.b, .sendDone (.ok ())),
    (.a, .askReset), (.a, .depart), (.a, .sendDone (.ok ())),
    (.a, .arrive serialAnswer.encode), (.a, .depart), (.a, .sendDone (.ok ())),
    (.a, .arrive firstAck.encode)]

theorem acknowledged_datagram_lost :
    ∃ line, Line.Reaches (fun line side move => line.isFaithful side move = true)
        (Line.resting Settings.check_serialLine Settings.check_serialLine) line ∧
      line.a.accepted.take line.a.removed = [[1], [2]] ∧ line.b.delivered = [[1], [1]] := by
  have final : ((Line.resting Settings.check_serialLine Settings.check_serialLine).run?
      (fun line side move => line.isFaithful side move = true) staleMoves).map
        (fun line => (line.a.accepted.take line.a.removed, line.b.delivered)) =
          some ([[1], [2]], [[1], [1]]) := by
    decide +kernel
  obtain ⟨line, run, same⟩ := Option.map_eq_some_iff.mp final
  exact ⟨line, Line.Reaches.run .start run, Prod.mk.inj same⟩

/-- A line that carries one byte of payload at a time. -/
def Settings.narrowLine : Settings :=
  { Settings.serialLine with linkMtu := 1 + Packet.overhead, rxMtu := 10, maxDatagram := 2 }

theorem Settings.check_narrowLine : Settings.narrowLine.check = .ok () := rfl

/-- In the end a reset is lost, and a stale answer is taken for its answer. The receiving end goes
on with the first half of one datagram where the sending end starts with the next. -/
def splicingMoves : List (Side × Terminal.Move) :=
  let handshake := (Session.ofValid _ Settings.check_narrowLine).handshake
  let sends (side : Side) : List (Side × Terminal.Move) :=
    [(side, .depart), (side, .sendDone (.ok ()))]
  let takes (side : Side) (packet : Packet) : List (Side × Terminal.Move) :=
    [(side, .arrive packet.encode)]
  let asks : List (Side × Terminal.Move) := (.a, .askReset) :: sends .a
  let answers : List (Side × Terminal.Move) := takes .b (handshake.packet .reset) ++ sends .b
  let begins (byte : UInt8) : List (Side × Terminal.Move) :=
    takes .b ⟨⟨⟨true, false⟩, .plain, 0, 0, 1⟩, [byte]⟩
  let ends (byte : UInt8) : List (Side × Terminal.Move) :=
    takes .b ⟨⟨⟨false, false⟩, .plain, 0, 1, 1⟩, [byte]⟩
  let acked (ack : UInt8) : List (Side × Terminal.Move) :=
    takes .a ⟨⟨.clear, .plain, ack, 255, 0⟩, []⟩
  let comesUp : List (Side × Terminal.Move) := takes .a (handshake.packet .resetAck) ++ sends .a
  [(.a, .submit [1, 2]), (.a, .submit [3, 4])] ++ asks ++ asks ++ answers ++ answers ++
    comesUp ++ asks ++ begins 1 ++ sends .b ++ answers ++
    comesUp ++ begins 1 ++ sends .b ++ acked 1 ++ sends .a ++ asks ++ ends 2 ++ sends .b ++
    answers ++ comesUp ++ begins 1 ++ sends .b ++ acked 1 ++ sends .a ++ [(.a, .lose)] ++
    acked 2 ++ asks ++ [(.a, .lose)] ++ comesUp ++ begins 3 ++ acked 1 ++ sends .a ++ ends 4

theorem unsent_datagram_delivered :
    ∃ line, Line.Reaches (fun line side move => line.isFaithful side move = true)
        (Line.resting Settings.check_narrowLine Settings.check_narrowLine) line ∧
      line.a.accepted = [[1, 2], [3, 4]] ∧ line.b.delivered = [[1, 2], [1, 4]] := by
  have final : ((Line.resting Settings.check_narrowLine Settings.check_narrowLine).run?
      (fun line side move => line.isFaithful side move = true) splicingMoves).map
        (fun line => (line.a.accepted, line.b.delivered)) =
          some ([[1, 2], [3, 4]], [[1, 2], [1, 4]]) := by
    decide +kernel
  obtain ⟨line, run, same⟩ := Option.map_eq_some_iff.mp final
  exact ⟨line, Line.Reaches.run .start run, Prod.mk.inj same⟩

/-- If an end may ask for a reset at any time, a datagram may be lost although it was acknowledged,
and one may be delivered that was never accepted. -/
theorem not_always_delivered :
    (¬ ∀ {a b : Settings} (validA : a.check = .ok ()) (validB : b.check = .ok ()),
      10 ≤ a.rxMtu → 10 ≤ b.rxMtu → a.maxDatagram ≤ b.maxDatagram → ∀ line,
      Line.Reaches (fun line side move => line.isFaithful side move = true)
        (Line.resting validA validB) line →
      ∀ datagram ∈ line.a.accepted.take line.a.removed, datagram ∈ line.b.delivered) ∧
    ¬ ∀ {a b : Settings} (validA : a.check = .ok ()) (validB : b.check = .ok ()),
      10 ≤ a.rxMtu → 10 ≤ b.rxMtu → a.maxDatagram ≤ b.maxDatagram → ∀ line,
      Line.Reaches (fun line side move => line.isFaithful side move = true)
        (Line.resting validA validB) line →
      ∀ datagram ∈ line.b.delivered, datagram ∈ line.a.accepted := by
  constructor
  · intro always
    obtain ⟨line, run, removed, delivered⟩ := acknowledged_datagram_lost
    have lost := always Settings.check_serialLine Settings.check_serialLine (by decide) (by decide)
      (Nat.le_refl _) line run [2]
    rw [removed, delivered] at lost
    exact absurd (lost (by decide)) (by decide)
  · intro always
    obtain ⟨line, run, accepted, delivered⟩ := unsent_datagram_delivered
    have spliced := always Settings.check_narrowLine Settings.check_narrowLine (by decide)
      (by decide) (Nat.le_refl _) line run [1, 4]
    rw [accepted, delivered] at spliced
    exact absurd (spliced (by decide)) (by decide)

end resets

end DatagramLink
