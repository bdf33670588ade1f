import DatagramLink.Proofs.Negotiation

namespace DatagramLink

/-- Whether the link is up, as a handshake with flags keeps it. -/
inductive LinkState where
  | resetting
  | up
  deriving DecidableEq, Repr

/-- A handshake whose flags stand side by side: whether the link is up, the control packet that waits
to be sent, and whether a reset was sent that is not answered yet. Most of their combinations are
never reached, see `FlaggedHandshake.coherent_serve`. -/
structure FlaggedHandshake where
  state : LinkState
  here : LinkParameters
  peer : Option LinkParameters
  pending : Option PacketKind
  awaitsAnswer : Bool
  deriving DecidableEq, Repr

/-- What a handshake says to what is done to it. -/
inductive Handshake.Answer where
  /-- The link was in this state before. -/
  | was (state : LinkState)
  /-- Whether an answer of the peer counted, or a reset is sent again. -/
  | said (yes : Bool)
  /-- The kind of packet that was taken out, and its bytes. -/
  | wrote (kind : Option PacketKind) (bytes : Bytes)
  deriving DecidableEq, Repr

namespace FlaggedHandshake

/-- A handshake where nothing has happened yet. It counts as down without a reset on its way. -/
def new (here : LinkParameters) : FlaggedHandshake := ⟨.resetting, here, none, none, false⟩

/-- The link is down. -/
def isResetting (handshake : FlaggedHandshake) : Bool := handshake.state = .resetting

/-- Starts a reset from this side. -/
def announce (handshake : FlaggedHandshake) : LinkState × FlaggedHandshake :=
  (handshake.state,
    { handshake with state := .resetting, pending := some .reset, awaitsAnswer := false })

/-- The peer started a reset, which is to be answered. -/
def onReset (handshake : FlaggedHandshake) (peer : LinkParameters) : LinkState × FlaggedHandshake :=
  (handshake.state,
    { handshake with
      peer := some peer, state := .up, pending := some .resetAck, awaitsAnswer := false })

/-- Only what waits to be sent is checked here, not whether a reset was sent at all. -/
def onAnswer (handshake : FlaggedHandshake) (peer : LinkParameters) : Bool × FlaggedHandshake :=
  if !handshake.isResetting || handshake.pending.isSome then (false, handshake)
  else (true, { handshake with peer := some peer, state := .up, awaitsAnswer := false })

/-- The reset was not answered in time. -/
def onRetry (handshake : FlaggedHandshake) : Bool × FlaggedHandshake :=
  if !handshake.isResetting || !handshake.awaitsAnswer then (false, handshake)
  else (true, { handshake with pending := some .reset, awaitsAnswer := false })

/-- Puts the packet that waits behind what is in the buffer. -/
def write (handshake : FlaggedHandshake) (buffer : Bytes) :
    Except Fault (Option PacketKind × Bytes × FlaggedHandshake) :=
  match handshake.pending with
  | none => .ok (none, buffer, handshake)
  | some kind => do
    let handshake := { handshake with pending := none }
    let handshake := if kind = .reset then { handshake with awaitsAnswer := true } else handshake
    let flags : Flags := if kind = .reset then ⟨false, true⟩ else .clear
    let packet ← Packet.build flags ⟨kind, .none⟩ 0 0 handshake.here.encode
    return (some kind, buffer ++ packet.encode, handshake)

/-- What a handshake answers, and what becomes of it. -/
def perform (handshake : FlaggedHandshake) :
    Handshake.Input → Except Fault (Handshake.Answer × FlaggedHandshake)
  | .announce => .ok (handshake.announce.map .was id)
  | .takeReset peer => .ok ((handshake.onReset peer).map .was id)
  | .takeAnswer peer => .ok ((handshake.onAnswer peer).map .said id)
  | .retry => .ok (handshake.onRetry.map .said id)
  | .depart => do
    let (kind, bytes, after) ← handshake.write []
    return (.wrote kind bytes, after)

/-- The answers to all that is done, and what that leads to. -/
def serve (handshake : FlaggedHandshake) :
    List Handshake.Input → Except Fault (List Handshake.Answer × FlaggedHandshake)
  | [] => .ok ([], handshake)
  | input :: inputs => do
    let (answer, middle) ← handshake.perform input
    let (answers, last) ← middle.serve inputs
    return (answer :: answers, last)

/-- What the flags of a handshake that was once new are like. -/
structure Coherent (handshake : FlaggedHandshake) : Prop where
  /-- A reset waits or has been sent only while the link is down. -/
  down : handshake.pending = some .reset ∨ handshake.awaitsAnswer = true →
    handshake.state = .resetting
  /-- An answer waits only while the link is up. -/
  up : handshake.pending = some .resetAck → handshake.state = .up
  /-- Nothing waits beside a reset that was sent. -/
  alone : handshake.awaitsAnswer = true → handshake.pending = none
  /-- Data packets are none of its business. -/
  control : handshake.pending ≠ some .data

end FlaggedHandshake

/-- The state of the link at a stage. -/
def Handshake.Stage.state (stage : Handshake.Stage) : LinkState :=
  if stage.isUp then .up else .resetting

/-- The control packet that waits at a stage. -/
def Handshake.Stage.pending : Handshake.Stage → Option PacketKind
  | .announcing => some .reset
  | .answering => some .resetAck
  | .dormant | .awaiting | .up => none

/-- The handshake with its flags laid open. -/
def Handshake.flagged (handshake : Handshake) : FlaggedHandshake where
  state := handshake.stage.state
  here := handshake.here
  peer := handshake.peer
  pending := handshake.stage.pending
  awaitsAnswer := handshake.stage = .awaiting

/-- The same for the handshake that keeps its stage only. -/
def Handshake.perform (handshake : Handshake) : Handshake.Input → Handshake.Answer × Handshake
  | .announce => (.was handshake.stage.state, handshake.announce)
  | .takeReset peer => (.was handshake.stage.state, handshake.onReset peer)
  | .takeAnswer peer =>
    (.said (handshake.onAnswer? peer).isSome, (handshake.onAnswer? peer).getD handshake)
  | .retry => (.said handshake.onRetry?.isSome, handshake.onRetry?.getD handshake)
  | .depart =>
    match handshake.nextPacket? with
    | none => (.wrote none [], handshake)
    | some (packet, after) => (.wrote (some packet.header.code.kind) packet.encode, after)

/-- The answers to all that is done, and what that leads to. -/
def Handshake.serve (handshake : Handshake) :
    List Handshake.Input → List Handshake.Answer × Handshake
  | [] => ([], handshake)
  | input :: inputs =>
    let (answer, middle) := handshake.perform input
    let (answers, last) := middle.serve inputs
    (answer :: answers, last)

section flagged

variable (handshake : Handshake)

theorem Handshake.flagged_new (here : LinkParameters) :
    FlaggedHandshake.new here = (Handshake.new here).flagged := rfl

theorem Handshake.flagged_onAnswer (peer : LinkParameters) :
    handshake.flagged.onAnswer peer = ((handshake.onAnswer? peer).isSome,
      ((handshake.onAnswer? peer).getD handshake).flagged) := by
  unfold FlaggedHandshake.onAnswer Handshake.onAnswer?
  obtain ⟨stage, here, known⟩ := handshake
  cases stage <;> rfl

theorem Handshake.flagged_onRetry :
    handshake.flagged.onRetry = (handshake.onRetry?.isSome,
      (handshake.onRetry?.getD handshake).flagged) := by
  unfold FlaggedHandshake.onRetry Handshake.onRetry?
  obtain ⟨stage, here, known⟩ := handshake
  cases stage <;> rfl

theorem Handshake.flagged_write (buffer : Bytes) :
    handshake.flagged.write buffer = .ok (match handshake.nextPacket? with
      | none => (none, buffer, handshake.flagged)
      | some (packet, after) =>
        (some packet.header.code.kind, buffer ++ packet.encode, after.flagged)) := by
  obtain ⟨stage, here, known⟩ := handshake
  cases stage <;> rfl

/-- One thing is done to both. -/
theorem Handshake.flagged_perform (input : Handshake.Input) :
    handshake.flagged.perform input =
      .ok ((handshake.perform input).map id Handshake.flagged) := by
  cases input with
  | announce => rfl
  | takeReset peer => rfl
  | takeAnswer peer =>
    rw [FlaggedHandshake.perform, handshake.flagged_onAnswer]
    rfl
  | retry =>
    rw [FlaggedHandshake.perform, handshake.flagged_onRetry]
    rfl
  | depart =>
    simp only [FlaggedHandshake.perform, Handshake.perform, handshake.flagged_write]
    cases handshake.nextPacket? <;> rfl

/-- Nothing can be seen of the difference: whatever is done to it, the handshake with flags gives the
same answers and is the other one with its flags laid open. -/
theorem Handshake.flagged_serve (inputs : List Handshake.Input) :
    handshake.flagged.serve inputs = .ok ((handshake.serve inputs).map id Handshake.flagged) := by
  induction inputs generalizing handshake with
  | nil => rfl
  | cons input inputs ih =>
    simp only [FlaggedHandshake.serve, handshake.flagged_perform, Handshake.serve, bind,
      Except.bind, Prod.map_snd, ih]
    rfl

/-- The record that a negotiation keeps does not change what the handshake does. -/
theorem Negotiation.handshake_perform (negotiation : Negotiation) (input : Handshake.Input) :
    (negotiation.perform input).handshake = (negotiation.handshake.perform input).2 := by
  cases input with
  | announce => rfl
  | takeReset peer => rfl
  | takeAnswer peer =>
    simp only [Negotiation.perform, Handshake.perform]
    cases negotiation.handshake.onAnswer? peer <;> rfl
  | retry =>
    simp only [Negotiation.perform, Handshake.perform]
    cases negotiation.handshake.onRetry? <;> rfl
  | depart =>
    simp only [Negotiation.perform, Handshake.perform]
    cases negotiation.handshake.nextPacket? <;> rfl

theorem Negotiation.handshake_run (negotiation : Negotiation) (inputs : List Handshake.Input) :
    (negotiation.run inputs).handshake = (negotiation.handshake.serve inputs).2 := by
  induction inputs generalizing negotiation with
  | nil => rfl
  | cons input inputs ih =>
    have later := ih (negotiation.perform input)
    rw [negotiation.handshake_perform] at later
    exact later

/-- A new handshake with flags answers everything that is done to it, and what becomes of it is what
becomes of the other one. -/
theorem FlaggedHandshake.serve_new (here : LinkParameters) (inputs : List Handshake.Input) :
    ∃ answers, (FlaggedHandshake.new here).serve inputs =
      .ok (answers, ((Negotiation.start here).run inputs).handshake.flagged) := by
  refine ⟨((Handshake.new here).serve inputs).1, ?_⟩
  rw [Handshake.flagged_new, Handshake.flagged_serve, Negotiation.handshake_run]
  rfl

end flagged

/-- The flags are coherent just if they are those of a stage. -/
theorem FlaggedHandshake.coherent_iff {handshake : FlaggedHandshake} :
    handshake.Coherent ↔ ∃ plain : Handshake, plain.flagged = handshake := by
  constructor
  · obtain ⟨state, here, peer, pending, awaits⟩ := handshake
    rintro ⟨down, up, alone, control⟩
    cases state with
    | resetting =>
      rcases pending with _ | _ | _ | _
      · cases awaits with
        | false => exact ⟨⟨.dormant, here, peer⟩, rfl⟩
        | true => exact ⟨⟨.awaiting, here, peer⟩, rfl⟩
      · exact absurd rfl control
      · cases awaits with
        | false => exact ⟨⟨.announcing, here, peer⟩, rfl⟩
        | true => cases alone rfl
      · cases up rfl
    | up =>
      rcases pending with _ | _ | _ | _
      · cases awaits with
        | false => exact ⟨⟨.up, here, peer⟩, rfl⟩
        | true => cases down (Or.inr rfl)
      · exact absurd rfl control
      · cases down (Or.inl rfl)
      · cases awaits with
        | false => exact ⟨⟨.answering, here, peer⟩, rfl⟩
        | true => cases alone rfl
  · rintro ⟨⟨stage, here, peer⟩, rfl⟩
    cases stage with
    | dormant => exact ⟨nofun, nofun, nofun, nofun⟩
    | announcing => exact ⟨fun _ => rfl, nofun, nofun, nofun⟩
    | awaiting => exact ⟨fun _ => rfl, nofun, fun _ => rfl, nofun⟩
    | answering => exact ⟨nofun, fun _ => rfl, nofun, nofun⟩
    | up => exact ⟨nofun, nofun, nofun, nofun⟩

/-- Whatever was done to a new handshake, its flags are coherent. -/
theorem FlaggedHandshake.coherent_serve {here : LinkParameters} {inputs : List Handshake.Input}
    {answers : List Handshake.Answer} {last : FlaggedHandshake}
    (served : (FlaggedHandshake.new here).serve inputs = .ok (answers, last)) : last.Coherent := by
  obtain ⟨same, reached⟩ := FlaggedHandshake.serve_new here inputs
  cases served.symm.trans reached
  exact FlaggedHandshake.coherent_iff.mpr ⟨_, rfl⟩

/-- An answer counts just if a reset was handed out that nothing has overtaken, or nothing was done
at all yet. -/
theorem FlaggedHandshake.counts_iff_asked (here peer : LinkParameters)
    (inputs : List Handshake.Input) :
    ∃ answers last, (FlaggedHandshake.new here).serve inputs = .ok (answers, last) ∧
      ((last.onAnswer peer).1 = true ↔ ((Negotiation.start here).run inputs).asks = true ∨
        ((Negotiation.start here).run inputs).deeds = []) := by
  obtain ⟨answers, served⟩ := FlaggedHandshake.serve_new here inputs
  have told := (Negotiation.told_start here).run inputs
  refine ⟨answers, _, served, ?_⟩
  rw [Handshake.flagged_onAnswer, Handshake.onAnswer?_isSome_iff, told.dormant, told.awaiting,
    or_comm]

end DatagramLink
