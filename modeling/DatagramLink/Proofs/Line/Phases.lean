import DatagramLink.Proofs.Line.Flight

namespace DatagramLink

/-- Two streams that start together, one at either end. The flag is what an end may forget when it
starts over. -/
structure Streams {σ τ : Type} (start : σ) (peerStart : τ) where
  InStep : σ → List Packet → τ → List Packet → Bool → Prop
  Early : Packet → Prop
  PeerEarly : Packet → Prop
  fresh : ∀ {out back : List Packet}, (∀ packet ∈ out, ¬ packet.IsReset → Early packet) →
    (∀ packet ∈ back, ¬ packet.IsReset → PeerEarly packet) →
    InStep start out peerStart back false
  lose : ∀ {here : σ} {there : τ} {out fewer back fewerBack : List Packet} {handed : Bool},
    InStep here out there back handed → fewer.Sublist out → fewerBack.Sublist back →
    InStep here fewer there fewerBack handed
  /-- A reset carries nothing of a stream. -/
  sendResets : ∀ {here : σ} {there : τ} {out resets back : List Packet} {handed : Bool},
    InStep here out there back handed → (∀ packet ∈ resets, packet.IsReset) →
    InStep here (out ++ resets) there back handed
  peerSendResets : ∀ {here : σ} {there : τ} {out back resets : List Packet} {handed : Bool},
    InStep here out there back handed → (∀ packet ∈ resets, packet.IsReset) →
    InStep here out there (back ++ resets) handed

/-- The same streams seen from the other end. -/
def Streams.mirror {σ τ : Type} {start : σ} {peerStart : τ} (streams : Streams start peerStart) :
    Streams peerStart start where
  InStep := fun here out there back => streams.InStep there back here out
  Early := streams.PeerEarly
  PeerEarly := streams.Early
  fresh := fun early peerEarly => streams.fresh peerEarly early
  lose := fun inStep lost peerLost => streams.lose inStep peerLost lost
  sendResets := streams.peerSendResets
  peerSendResets := streams.sendResets

/-- One end of the line: how far its handshake is, the state of its stream, and the packets it sent
that are in flight. -/
structure Stance (σ : Type) where
  stage : Handshake.Stage
  state : σ
  flight : List Packet

/-- Nothing of the handshake is left on the line, apart from resets that the other end sent and that
were not answered. -/
structure Settled (peerStage : Handshake.Stage) (flight peerFlight : List Packet) : Prop where
  data : ∀ packet ∈ flight, packet.IsData
  peerData : ∀ packet ∈ peerFlight, packet.IsData ∨ peerStage.isUp = false ∧ packet.IsReset
  answered : peerStage ≠ .answering

instance (peerStage : Handshake.Stage) (flight peerFlight : List Packet) :
    Decidable (Settled peerStage flight peerFlight) :=
  decidable_of_iff
    ((∀ packet ∈ flight, packet.IsData) ∧
      (∀ packet ∈ peerFlight, packet.IsData ∨ peerStage.isUp = false ∧ packet.IsReset) ∧
      peerStage ≠ .answering)
    ⟨fun ⟨data, peerData, answered⟩ => ⟨data, peerData, answered⟩,
      fun settled => ⟨settled.data, settled.peerData, settled.answered⟩⟩

section phases

variable {σ τ : Type} {start : σ} {peerStart : τ}

/-- Where the two ends are with their handshake. If the line is steady, no end asks for a reset
while it is up. -/
inductive Phase (streams : Streams start peerStart) (steady : Prop) :
    Stance σ → Stance τ → Bool → Prop
  /-- Both are up. Resets in flight are left over from the start, and they do no harm. -/
  | joined {here : Stance σ} {there : Stance τ} {handed : Bool}
      (up : here.stage.isUp = true) (peerUp : there.stage.isUp = true)
      (order : Segmented [Packet.IsReset, fun packet => ¬ packet.IsReset] here.flight)
      (peerOrder : Segmented [Packet.IsReset, fun packet => ¬ packet.IsReset] there.flight)
      (untouched : ∀ packet ∈ there.flight, packet.IsReset → here.state = start)
      (peerUntouched : ∀ packet ∈ here.flight, packet.IsReset → there.state = peerStart)
      (inStep : streams.InStep here.state here.flight there.state there.flight handed) :
      Phase streams steady here there handed
  /-- This end starts over, and the other end goes on with what was sent before that. -/
  | left {here : Stance σ} {there : Stance τ} {handed : Bool} {old : σ} {back : List Packet}
      (restless : ¬ steady) (down : here.stage.isUp = false) (fresh : here.state = start)
      (peerUp : there.stage = .up)
      (order : Segmented [Packet.IsData, Packet.IsReset] here.flight)
      (peerOrder : Segmented [Packet.IsData] there.flight)
      (inStep : streams.InStep old here.flight there.state back handed) :
      Phase streams steady here there handed
  | peerLeft {here : Stance σ} {there : Stance τ} {handed : Bool} {old : τ} {out : List Packet}
      (restless : ¬ steady) (up : here.stage = .up) (peerDown : there.stage.isUp = false)
      (peerFresh : there.state = peerStart)
      (order : Segmented [Packet.IsData] here.flight)
      (peerOrder : Segmented [Packet.IsData, Packet.IsReset] there.flight)
      (inStep : streams.InStep here.state out old there.flight handed) :
      Phase streams steady here there handed
  /-- Both are down. -/
  | apart {here : Stance σ} {there : Stance τ}
      (down : here.stage.isUp = false) (peerDown : there.stage.isUp = false)
      (fresh : here.state = start) (peerFresh : there.state = peerStart)
      (order : Segmented [Packet.IsData, Packet.IsReset] here.flight)
      (peerOrder : Segmented [Packet.IsData, Packet.IsReset] there.flight) :
      Phase streams steady here there false
  /-- This end has answered a reset, and the other end does not know yet. -/
  | joining {here : Stance σ} {there : Stance τ}
      (up : here.stage.isUp = true) (peerDown : there.stage.isUp = false)
      (fresh : here.state = start) (peerFresh : there.state = peerStart)
      (order : Segmented [Packet.IsData, Packet.IsReset,
        fun packet => ¬ packet.IsReset ∧ streams.Early packet] here.flight)
      (peerOrder : Segmented [Packet.IsReset] there.flight) :
      Phase streams steady here there false
  | peerJoining {here : Stance σ} {there : Stance τ}
      (down : here.stage.isUp = false) (peerUp : there.stage.isUp = true)
      (fresh : here.state = start) (peerFresh : there.state = peerStart)
      (order : Segmented [Packet.IsReset] here.flight)
      (peerOrder : Segmented [Packet.IsData, Packet.IsReset,
        fun packet => ¬ packet.IsReset ∧ streams.PeerEarly packet] there.flight) :
      Phase streams steady here there false

variable {streams : Streams start peerStart} {steady : Prop} {here : Stance σ} {there : Stance τ}
  {handed : Bool}

theorem Phase.mirror (phase : Phase streams steady here there handed) :
    Phase streams.mirror steady there here handed := by
  cases phase with
  | joined up peerUp order peerOrder untouched peerUntouched inStep =>
    exact .joined peerUp up peerOrder order peerUntouched untouched inStep
  | left restless down fresh peerUp order peerOrder inStep =>
    exact .peerLeft restless peerUp down fresh peerOrder order inStep
  | peerLeft restless up peerDown peerFresh order peerOrder inStep =>
    exact .left restless peerDown peerFresh up peerOrder order inStep
  | apart down peerDown fresh peerFresh order peerOrder =>
    exact .apart peerDown down peerFresh fresh peerOrder order
  | joining up peerDown fresh peerFresh order peerOrder =>
    exact .peerJoining peerDown up peerFresh fresh peerOrder order
  | peerJoining down peerUp fresh peerFresh order peerOrder =>
    exact .joining peerUp down peerFresh fresh peerOrder order

/-- Losses on the way do no harm. -/
theorem Phase.lose (phase : Phase streams steady here there handed) {fewer peerFewer : List Packet}
    (lost : fewer.Sublist here.flight) (peerLost : peerFewer.Sublist there.flight) :
    Phase streams steady { here with flight := fewer } { there with flight := peerFewer }
      handed := by
  cases phase with
  | joined up peerUp order peerOrder untouched peerUntouched inStep =>
    have untouchedStill : ∀ packet ∈ peerFewer, packet.IsReset → here.state = start :=
      fun packet member => untouched packet (peerLost.subset member)
    have peerUntouchedStill : ∀ packet ∈ fewer, packet.IsReset → there.state = peerStart :=
      fun packet member => peerUntouched packet (lost.subset member)
    have kept := streams.lose inStep lost peerLost
    exact .joined up peerUp (order.sublist lost) (peerOrder.sublist peerLost) untouchedStill
      peerUntouchedStill kept
  | left restless down fresh peerUp order peerOrder inStep =>
    have kept := streams.lose inStep lost (List.Sublist.refl _)
    exact .left restless down fresh peerUp (order.sublist lost) (peerOrder.sublist peerLost) kept
  | peerLeft restless up peerDown peerFresh order peerOrder inStep =>
    have kept := streams.lose inStep (List.Sublist.refl _) peerLost
    exact .peerLeft restless up peerDown peerFresh (order.sublist lost)
      (peerOrder.sublist peerLost) kept
  | apart down peerDown fresh peerFresh order peerOrder =>
    exact .apart down peerDown fresh peerFresh (order.sublist lost) (peerOrder.sublist peerLost)
  | joining up peerDown fresh peerFresh order peerOrder =>
    exact .joining up peerDown fresh peerFresh (order.sublist lost) (peerOrder.sublist peerLost)
  | peerJoining down peerUp fresh peerFresh order peerOrder =>
    exact .peerJoining down peerUp fresh peerFresh (order.sublist lost)
      (peerOrder.sublist peerLost)

/-- The streams may change to others that ask for less. -/
theorem Phase.mono {others : Streams start peerStart}
    (phase : Phase streams steady here there handed)
    (inStep : ∀ {here out there back handed}, streams.InStep here out there back handed →
      others.InStep here out there back handed)
    (early : ∀ {packet}, streams.Early packet → others.Early packet)
    (peerEarly : ∀ {packet}, streams.PeerEarly packet → others.PeerEarly packet) :
    Phase others steady here there handed := by
  cases phase with
  | joined up peerUp order peerOrder untouched peerUntouched kept =>
    exact .joined up peerUp order peerOrder untouched peerUntouched (inStep kept)
  | left restless down fresh peerUp order peerOrder kept =>
    exact .left restless down fresh peerUp order peerOrder (inStep kept)
  | peerLeft restless up peerDown peerFresh order peerOrder kept =>
    exact .peerLeft restless up peerDown peerFresh order peerOrder (inStep kept)
  | apart down peerDown fresh peerFresh order peerOrder =>
    exact .apart down peerDown fresh peerFresh order peerOrder
  | joining up peerDown fresh peerFresh order peerOrder =>
    exact .joining up peerDown fresh peerFresh (order.widen [Packet.IsData, Packet.IsReset]
      fun _ other => ⟨other.1, early other.2⟩) peerOrder
  | peerJoining down peerUp fresh peerFresh order peerOrder =>
    exact .peerJoining down peerUp fresh peerFresh order (peerOrder.widen
      [Packet.IsData, Packet.IsReset] fun _ other => ⟨other.1, peerEarly other.2⟩)

/-- While both ends are up they keep step, and it does not matter what may happen later. -/
theorem Phase.inStep {other : Prop} (phase : Phase streams steady here there handed)
    (up : here.stage.isUp = true) (peerUp : there.stage.isUp = true) :
    streams.InStep here.state here.flight there.state there.flight handed ∧
      Phase streams other here there handed := by
  cases phase with
  | joined _ _ order peerOrder untouched peerUntouched inStep =>
    exact ⟨inStep, .joined up peerUp order peerOrder untouched peerUntouched inStep⟩
  | left _ down => exact absurd down (ne_false_of_eq_true up)
  | peerLeft _ _ peerDown => exact absurd peerDown (ne_false_of_eq_true peerUp)
  | apart down => exact absurd down (ne_false_of_eq_true up)
  | joining _ peerDown => exact absurd peerDown (ne_false_of_eq_true peerUp)
  | peerJoining down => exact absurd down (ne_false_of_eq_true up)

theorem Phase.start_of_down (phase : Phase streams steady here there handed)
    (down : here.stage.isUp = false) : here.state = start := by
  cases phase with
  | joined up => exact absurd down (ne_false_of_eq_true up)
  | left _ _ fresh => exact fresh
  | peerLeft _ up => rw [up] at down; cases down
  | apart _ _ fresh => exact fresh
  | joining up => exact absurd down (ne_false_of_eq_true up)
  | peerJoining _ _ fresh => exact fresh

/-- An end that is down and stays down may send resets. -/
theorem Phase.stayDown (phase : Phase streams steady here there handed)
    (down : here.stage.isUp = false) {stage : Handshake.Stage} (still : stage.isUp = false)
    {sent : List Packet} (resets : ∀ packet ∈ sent, packet.IsReset) :
    Phase streams steady { here with stage, flight := here.flight ++ sent } there handed := by
  cases phase with
  | joined up => exact absurd down (ne_false_of_eq_true up)
  | left restless _ fresh peerUp order peerOrder inStep =>
    exact .left restless still fresh peerUp (order.append [Packet.IsData] resets) peerOrder
      (streams.sendResets inStep resets)
  | peerLeft _ up => rw [up] at down; cases down
  | apart _ peerDown fresh peerFresh order peerOrder =>
    exact .apart still peerDown fresh peerFresh (order.append [Packet.IsData] resets) peerOrder
  | joining up => exact absurd down (ne_false_of_eq_true up)
  | peerJoining _ peerUp fresh peerFresh order peerOrder =>
    exact .peerJoining still peerUp fresh peerFresh (order.append [] resets) peerOrder

/-- An end that is up sends an answer, or a packet of its stream once the answer is out. -/
theorem Phase.send (phase : Phase streams steady here there handed) {packet : Packet}
    (up : here.stage.isUp = true) (other : ¬ packet.IsReset)
    (data : here.stage = .up → packet.IsData) (early : here.state = start → streams.Early packet)
    (emit : ∀ {peer back handed}, streams.InStep here.state here.flight peer back handed →
      streams.InStep here.state (here.flight ++ [packet]) peer back handed) :
    Phase streams steady { here with stage := .up, flight := here.flight ++ [packet] } there
      handed := by
  cases phase with
  | joined _ peerUp order peerOrder untouched peerUntouched inStep =>
    refine .joined rfl peerUp ?_ peerOrder untouched ?_ (emit inStep)
    · exact order.append [Packet.IsReset] (List.forall_mem_singleton.mpr other)
    · intro sent member reset
      rcases List.mem_append.mp member with old | new
      · exact peerUntouched sent old reset
      · rw [List.mem_singleton.mp new] at reset
        exact absurd reset other
  | left _ down => exact absurd down (ne_false_of_eq_true up)
  | peerLeft restless upright peerDown peerFresh order peerOrder inStep =>
    refine .peerLeft restless rfl peerDown peerFresh ?_ peerOrder inStep
    exact order.append [] (List.forall_mem_singleton.mpr (data upright))
  | apart down => exact absurd down (ne_false_of_eq_true up)
  | joining _ peerDown fresh peerFresh order peerOrder =>
    refine .joining rfl peerDown fresh peerFresh ?_ peerOrder
    exact order.append [Packet.IsData, Packet.IsReset]
      (List.forall_mem_singleton.mpr ⟨other, early fresh⟩)
  | peerJoining down => exact absurd down (ne_false_of_eq_true up)

/-- An end that is up asks for a reset while the line is settled. -/
theorem Phase.ask (phase : Phase streams steady here there handed) (restless : ¬ steady)
    (up : here.stage.isUp = true) (settled : Settled there.stage here.flight there.flight) :
    ∃ later, (later = handed ∨ ¬ steady ∧ later = false) ∧
      Phase streams steady { here with stage := .announcing, state := start } there later := by
  have order := segmented_singleton_iff.mpr settled.data
  cases phase with
  | joined _ peerUp _ _ _ _ inStep =>
    have done := Handshake.Stage.eq_up peerUp settled.answered
    have peerOrder : Segmented [Packet.IsData] there.flight := by
      refine segmented_singleton_iff.mpr fun packet member => ?_
      rcases settled.peerData packet member with data | ⟨down, _⟩
      · exact data
      · exact absurd down (ne_false_of_eq_true peerUp)
    exact ⟨handed, Or.inl rfl,
      .left restless rfl rfl done (order.extend [Packet.IsReset]) peerOrder inStep⟩
  | left _ down => exact absurd down (ne_false_of_eq_true up)
  | peerLeft _ _ peerDown peerFresh _ peerOrder _ =>
    exact ⟨false, Or.inr ⟨restless, rfl⟩,
      .apart rfl peerDown rfl peerFresh (order.extend [Packet.IsReset]) peerOrder⟩
  | apart down => exact absurd down (ne_false_of_eq_true up)
  | joining _ peerDown _ peerFresh _ peerOrder =>
    exact ⟨false, Or.inl rfl, .apart rfl peerDown rfl peerFresh (order.extend [Packet.IsReset])
      (.skip peerOrder)⟩
  | peerJoining down => exact absurd down (ne_false_of_eq_true up)

/-- A reset of the other end arrives. -/
theorem Phase.takeReset {peerStage : Handshake.Stage} {peer : τ} {packet : Packet}
    {rest : List Packet}
    (phase : Phase streams steady here ⟨peerStage, peer, packet :: rest⟩ handed)
    (reset : packet.IsReset) :
    ∃ later, (later = handed ∨ ¬ steady ∧ later = false) ∧
      Phase streams steady { here with stage := .answering, state := start }
        ⟨peerStage, peer, rest⟩ later := by
  have gone : rest.Sublist (packet :: rest) := List.sublist_cons_self ..
  cases phase with
  | joined _ peerUp order peerOrder untouched peerUntouched inStep =>
    -- a reset that is still in flight from the start finds this end at the start
    have fresh := untouched packet (List.mem_cons_self ..) reset
    rw [fresh] at inStep
    have kept := streams.lose inStep (List.Sublist.refl _) gone
    exact ⟨handed, Or.inl rfl, .joined rfl peerUp order (peerOrder.sublist gone)
      (fun _ _ _ => rfl) peerUntouched kept⟩
  | left _ _ _ _ _ peerOrder =>
    have data := segmented_singleton_iff.mp peerOrder packet (List.mem_cons_self ..)
    exact absurd reset data.not_isReset
  | peerLeft restless _ peerDown peerFresh order peerOrder =>
    cases peerOrder with
    | take data => exact absurd reset data.not_isReset
    | skip resets =>
      exact ⟨false, Or.inr ⟨restless, rfl⟩, .joining rfl peerDown rfl peerFresh
        (order.extend _) (resets.sublist gone)⟩
  | apart _ peerDown _ peerFresh order peerOrder =>
    cases peerOrder with
    | take data => exact absurd reset data.not_isReset
    | skip resets =>
      exact ⟨false, Or.inl rfl, .joining rfl peerDown rfl peerFresh (order.extend _)
        (resets.sublist gone)⟩
  | joining _ peerDown _ peerFresh order peerOrder =>
    exact ⟨false, Or.inl rfl, .joining rfl peerDown rfl peerFresh order (peerOrder.sublist gone)⟩
  | peerJoining _ peerUp _ peerFresh order peerOrder =>
    cases peerOrder with
    | take data => exact absurd reset data.not_isReset
    | skip later =>
      have peerOrder := later.sublist gone
      have resets := segmented_singleton_iff.mp order
      have peerEarly : ∀ sent ∈ rest, ¬ sent.IsReset → streams.PeerEarly sent := by
        intro sent member other
        obtain ⟨kind, listed, fits⟩ := peerOrder.exists_of_mem member
        rcases List.mem_cons.mp listed with rfl | early
        · exact absurd fits other
        · rw [List.mem_singleton.mp early] at fits
          exact fits.2
      have atStart : peer = peerStart := peerFresh
      have inStep : streams.InStep start here.flight peer rest false := by
        rw [atStart]
        exact streams.fresh (fun sent member other => absurd (resets sent member) other) peerEarly
      exact ⟨false, Or.inl rfl, .joined rfl peerUp (order.extend _)
        (peerOrder.widen [Packet.IsReset] fun _ other => other.1) (fun _ _ _ => rfl)
        (fun _ _ _ => peerFresh) inStep⟩

/-- The answer of the other end arrives. -/
theorem Phase.takeAnswer {peerStage : Handshake.Stage} {peer : τ} {packet : Packet}
    {rest : List Packet}
    (phase : Phase streams steady here ⟨peerStage, peer, packet :: rest⟩ handed)
    (down : here.stage.isUp = false) (answer : packet.header.code.kind = .resetAck) :
    Phase streams steady { here with stage := .up } ⟨peerStage, peer, rest⟩ handed := by
  have notData : ¬ packet.IsData := fun data => by cases data.symm.trans answer
  have notReset : ¬ packet.IsReset := fun reset => by cases reset.symm.trans answer
  cases phase with
  | joined up => exact absurd down (ne_false_of_eq_true up)
  | left _ _ _ _ _ peerOrder =>
    exact absurd (segmented_singleton_iff.mp peerOrder packet (List.mem_cons_self ..)) notData
  | peerLeft _ up => rw [up] at down; cases down
  | apart _ _ _ _ _ peerOrder =>
    obtain ⟨kind, listed, fits⟩ := peerOrder.exists_of_mem (List.mem_cons_self ..)
    rcases List.mem_cons.mp listed with rfl | last
    · exact absurd fits notData
    · rw [List.mem_singleton.mp last] at fits
      exact absurd fits notReset
  | joining up => exact absurd down (ne_false_of_eq_true up)
  | peerJoining _ peerUp fresh peerFresh order peerOrder =>
    cases peerOrder with
    | take data => exact absurd data notData
    | skip later =>
      cases later with
      | take reset => exact absurd reset notReset
      | skip last =>
        have resets := segmented_singleton_iff.mp order
        have behind : ∀ sent ∈ rest, ¬ sent.IsReset ∧ streams.PeerEarly sent := fun sent member =>
          segmented_singleton_iff.mp last sent (List.mem_cons_of_mem _ member)
        have peerOrder : Segmented [fun packet => ¬ packet.IsReset] rest :=
          segmented_singleton_iff.mpr fun sent member => (behind sent member).1
        have atStart : peer = peerStart := peerFresh
        have inStep : streams.InStep here.state here.flight peer rest false := by
          rw [fresh, atStart]
          exact streams.fresh (fun sent member other => absurd (resets sent member) other)
            (fun sent member _ => (behind sent member).2)
        exact .joined rfl peerUp (order.extend _) (.skip peerOrder) (fun _ _ _ => fresh)
          (fun _ _ _ => peerFresh) inStep

/-- A packet of the stream arrives, and moves this end on. -/
theorem Phase.takeData {others : Streams start peerStart} {peerStage : Handshake.Stage} {peer : τ}
    {packet : Packet} {rest : List Packet} {state : σ} {result : Bool → Prop}
    (phase : Phase streams steady here ⟨peerStage, peer, packet :: rest⟩ handed)
    (up : here.stage.isUp = true) (data : packet.IsData)
    (advance : ∀ {out peer}, streams.InStep here.state out peer (packet :: rest) handed →
      ∃ later, result later ∧ others.InStep state out peer rest later) :
    ∃ later, result later ∧
      Phase others steady { here with state } ⟨peerStage, peer, rest⟩ later := by
  cases phase with
  | joined _ peerUp order peerOrder untouched peerUntouched inStep =>
    obtain ⟨later, fits, moved⟩ := advance inStep
    -- a packet of the stream is behind all resets
    have noReset : ∀ sent ∈ rest, ¬ sent.IsReset := by
      cases peerOrder with
      | take reset => exact absurd reset data.not_isReset
      | skip last =>
        exact fun sent member =>
          segmented_singleton_iff.mp last sent (List.mem_cons_of_mem _ member)
    exact ⟨later, fits, .joined up peerUp order (.skip (segmented_singleton_iff.mpr noReset))
      (fun sent member reset => absurd reset (noReset sent member)) peerUntouched moved⟩
  | left _ down => exact absurd down (ne_false_of_eq_true up)
  | peerLeft restless upright peerDown peerFresh order peerOrder inStep =>
    obtain ⟨later, fits, moved⟩ := advance inStep
    exact ⟨later, fits, .peerLeft restless upright peerDown peerFresh order
      (peerOrder.sublist (List.sublist_cons_self ..)) moved⟩
  | apart down => exact absurd down (ne_false_of_eq_true up)
  | joining _ _ _ _ _ peerOrder =>
    have reset := segmented_singleton_iff.mp peerOrder packet (List.mem_cons_self ..)
    exact absurd reset data.not_isReset
  | peerJoining down => exact absurd down (ne_false_of_eq_true up)

end phases

end DatagramLink
