import DatagramLink.Handshake

namespace DatagramLink

/-- What can be done to a handshake. -/
inductive Handshake.Input where
  | announce
  | takeReset (peer : LinkParameters)
  | takeAnswer (peer : LinkParameters)
  | retry
  /-- The waiting packet is taken out, if there is one. -/
  | depart

/-- What came of it. An answer that does not count, and a retry of nothing, leave no trace. -/
inductive Handshake.Deed where
  | announced
  | resetTaken
  | answerTaken
  | retried
  | handedOut (kind : PacketKind)
  deriving DecidableEq

/-- Whatever was handed out before that is overtaken. -/
def Handshake.Deed.overtakes : Handshake.Deed → Bool
  | .announced | .resetTaken | .answerTaken | .retried => true
  | .handedOut _ => false

/-- A handshake since it was new, and what came of all that was done to it, the latest first. -/
structure Negotiation where
  handshake : Handshake
  deeds : List Handshake.Deed

/-- A new handshake, and nothing on record. -/
def Negotiation.start (here : LinkParameters) : Negotiation := ⟨.new here, []⟩

/-- What becomes of a handshake and its record. What does not count is not recorded. -/
def Negotiation.perform (negotiation : Negotiation) : Handshake.Input → Negotiation
  | .announce => ⟨negotiation.handshake.announce, .announced :: negotiation.deeds⟩
  | .takeReset peer => ⟨negotiation.handshake.onReset peer, .resetTaken :: negotiation.deeds⟩
  | .takeAnswer peer =>
    match negotiation.handshake.onAnswer? peer with
    | none => negotiation
    | some handshake => ⟨handshake, .answerTaken :: negotiation.deeds⟩
  | .retry =>
    match negotiation.handshake.onRetry? with
    | none => negotiation
    | some handshake => ⟨handshake, .retried :: negotiation.deeds⟩
  | .depart =>
    match negotiation.handshake.nextPacket? with
    | none => negotiation
    | some (packet, handshake) =>
      ⟨handshake, .handedOut packet.header.code.kind :: negotiation.deeds⟩

/-- One thing after another is done to the handshake. -/
def Negotiation.run (negotiation : Negotiation) (inputs : List Handshake.Input) : Negotiation :=
  inputs.foldl Negotiation.perform negotiation

/-- A reset was handed out that nothing has overtaken. -/
def Negotiation.asks (negotiation : Negotiation) : Bool :=
  (negotiation.deeds.takeWhile (!·.overtakes)).contains (.handedOut .reset)

/-- The stage tells whether an answer is asked for, and whether anything has happened at all. -/
structure Negotiation.Told (negotiation : Negotiation) : Prop where
  dormant : negotiation.handshake.stage = .dormant ↔ negotiation.deeds = []
  awaiting : negotiation.handshake.stage = .awaiting ↔ negotiation.asks = true

section steps

variable {negotiation : Negotiation}

theorem Negotiation.told_start (here : LinkParameters) : (Negotiation.start here).Told where
  dormant := ⟨fun _ => rfl, fun _ => rfl⟩
  awaiting := ⟨nofun, nofun⟩

/-- After what overtakes everything, nothing is asked for until the next packet. -/
theorem Negotiation.told_of_overtaken {handshake : Handshake} {deed : Handshake.Deed}
    (overtakes : deed.overtakes = true) (begun : handshake.stage ≠ .dormant)
    (settled : handshake.stage ≠ .awaiting) (deeds : List Handshake.Deed) :
    Negotiation.Told ⟨handshake, deed :: deeds⟩ where
  dormant := ⟨fun dormant => absurd dormant begun, nofun⟩
  awaiting := by
    refine ⟨fun awaits => absurd awaits settled, fun asks => ?_⟩
    rw [Negotiation.asks, List.takeWhile_cons, overtakes] at asks
    cases asks

theorem Negotiation.Told.perform (told : negotiation.Told) (input : Handshake.Input) :
    (negotiation.perform input).Told := by
  cases input with
  | announce => exact Negotiation.told_of_overtaken rfl (by nofun) (by nofun) _
  | takeReset peer => exact Negotiation.told_of_overtaken rfl (by nofun) (by nofun) _
  | takeAnswer peer =>
    unfold Negotiation.perform Handshake.onAnswer?
    cases stage : negotiation.handshake.stage with
    | dormant => exact Negotiation.told_of_overtaken rfl (by nofun) (by nofun) _
    | awaiting => exact Negotiation.told_of_overtaken rfl (by nofun) (by nofun) _
    | announcing => exact told
    | answering => exact told
    | up => exact told
  | retry =>
    unfold Negotiation.perform Handshake.onRetry?
    cases stage : negotiation.handshake.stage with
    | awaiting => exact Negotiation.told_of_overtaken rfl (by nofun) (by nofun) _
    | dormant => exact told
    | announcing => exact told
    | answering => exact told
    | up => exact told
  | depart =>
    unfold Negotiation.perform Handshake.nextPacket?
    cases stage : negotiation.handshake.stage with
    | announcing =>
      have asks : Negotiation.asks ⟨{ negotiation.handshake with stage := .awaiting },
          .handedOut .reset :: negotiation.deeds⟩ = true := by
        simp [Negotiation.asks, Handshake.Deed.overtakes]
      exact ⟨⟨nofun, nofun⟩, ⟨fun _ => asks, fun _ => rfl⟩⟩
    | answering =>
      have unasked : negotiation.asks = false := by
        rw [← Bool.not_eq_true, ← told.awaiting, stage]
        nofun
      have still : Negotiation.asks ⟨{ negotiation.handshake with stage := .up },
          .handedOut .resetAck :: negotiation.deeds⟩ = negotiation.asks := rfl
      exact ⟨⟨nofun, nofun⟩,
        ⟨nofun, fun asks => absurd (still.symm.trans asks) (ne_true_of_eq_false unasked)⟩⟩
    | dormant => exact told
    | awaiting => exact told
    | up => exact told

theorem Negotiation.Told.run (told : negotiation.Told) (inputs : List Handshake.Input) :
    (negotiation.run inputs).Told := by
  induction inputs generalizing negotiation with
  | nil => exact told
  | cons input inputs ih => exact ih (told.perform input)

end steps

theorem Handshake.onAnswer?_isSome_iff (handshake : Handshake) (peer : LinkParameters) :
    (handshake.onAnswer? peer).isSome = true ↔
      handshake.stage = .dormant ∨ handshake.stage = .awaiting := by
  unfold Handshake.onAnswer?
  cases handshake.stage <;> simp

/-- An answer that counts brings the link up. -/
theorem Handshake.isUp_of_onAnswer? {handshake after : Handshake} {peer : LinkParameters}
    (answered : handshake.onAnswer? peer = some after) :
    handshake.isUp = false ∧ after = { handshake with stage := .up, peer := some peer } := by
  unfold Handshake.onAnswer? at answered
  unfold Handshake.isUp
  cases stage : handshake.stage <;> rw [stage] at answered <;> cases answered <;> exact ⟨rfl, rfl⟩

/-- Whatever was done to a new handshake, an answer counts just if a reset is handed out that nothing
has overtaken, or else as the first thing that happens at all. It brings the link up, and an answer
that does not count changes nothing. -/
theorem Negotiation.answer_counts_iff (here peer : LinkParameters) (inputs : List Handshake.Input) :
    let negotiation := (Negotiation.start here).run inputs
    ((negotiation.handshake.onAnswer? peer).isSome = true ↔
        negotiation.asks = true ∨ negotiation.deeds = []) ∧
      (∀ after, negotiation.handshake.onAnswer? peer = some after →
        negotiation.handshake.isUp = false ∧ after.isUp = true ∧ after.peer = some peer) ∧
      (negotiation.handshake.onAnswer? peer = none →
        negotiation.perform (.takeAnswer peer) = negotiation) := by
  intro negotiation
  have told : negotiation.Told := (Negotiation.told_start here).run inputs
  refine ⟨?_, fun after answered => ?_, fun ignored => ?_⟩
  · rw [Handshake.onAnswer?_isSome_iff, told.dormant, told.awaiting, or_comm]
  · obtain ⟨down, rfl⟩ := Handshake.isUp_of_onAnswer? answered
    exact ⟨down, rfl, rfl⟩
  · rw [Negotiation.perform, ignored]

/-- Nothing was asked for, and the answer brings the link up all the same. -/
theorem answer_counts_unasked :
    let negotiation := Negotiation.start ⟨.current, 1024, 1, 1000⟩
    negotiation.asks = false ∧
      (negotiation.handshake.onAnswer? ⟨.current, 512, 1, 1000⟩).map Handshake.isUp = some true := by
  decide

end DatagramLink
