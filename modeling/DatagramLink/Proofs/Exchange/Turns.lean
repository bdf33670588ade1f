import DatagramLink.Proofs.Exchange.ComingUp
import DatagramLink.Proofs.Line.Introductions

namespace DatagramLink

/-- The sides take turns, beginning with this one, once for each size. The side whose turn it is
sends its next packet, if it has one, and the packet arrives in chunks of that size. -/
def Exchange.takeTurns (exchange : Exchange) (side : Side) :
    List Nat → Except Fault (List Transfer × Exchange)
  | [] => .ok ([], exchange)
  | size :: sizes => do
    let (first, exchange) ← exchange.turn (fun _ => ⟨.harmless, size⟩) 1 0 side
    let (others, exchange) ← exchange.takeTurns side.other sizes
    return (first ++ others, exchange)

section arrivals

variable {session : Session}

theorem Session.datagrams_takeAll_append (session : Session) (first second : List Framer.Event) :
    (session.takeAll (first ++ second)).2.datagrams =
      (session.takeAll first).2.datagrams ++
        ((session.takeAll first).1.takeAll second).2.datagrams := by
  induction first generalizing session with
  | nil => rfl
  | cons event events ih =>
    have rest := ih (session.take event).1
    simp only [List.cons_append, Session.takeAll, Reaction.datagrams_append] at rest ⊢
    rw [rest, List.append_assoc]

/-- Several chunks deliver what the packets in them deliver. -/
theorem Session.datagrams_receiveAll (session : Session) (chunks : List Bytes) :
    (session.receiveAll chunks).2.reaction.datagrams =
      (session.takeAll (session.framer.feedAll chunks).2).2.datagrams := by
  induction chunks generalizing session with
  | nil => rfl
  | cons chunk chunks ih =>
    obtain ⟨armed, received⟩ := session.receive_eq chunk
    have rest := ih (session.receive chunk).1
    have first : (session.receive chunk).2.datagrams =
        (session.takeAll (session.framer.feed chunk).2).2.datagrams := by
      have behind := session.takeAll_behind (session.framer.feed chunk).1 session.rxArmed
        (session.framer.feed chunk).2
      rw [(session.profile_receive chunk).2]
      exact congrArg (fun result => result.2.datagrams) behind
    rw [session.framer_receive, received, Session.takeAll_behind] at rest
    have split : (session.receiveAll (chunk :: chunks)).2.reaction.datagrams =
        (session.receive chunk).2.datagrams ++
          ((session.receive chunk).1.receiveAll chunks).2.reaction.datagrams :=
      Reaction.datagrams_append _ _
    have events : (session.framer.feedAll (chunk :: chunks)).2 =
        (session.framer.feed chunk).2 ++ ((session.framer.feed chunk).1.feedAll chunks).2 := rfl
    rw [split, first, events, Session.datagrams_takeAll_append, received, rest]

/-- A packet that fits arrives as the packet it is, and leaves the framer looking for the next. -/
theorem Session.receiveAll_packet {packet : Packet} {chunks : List Bytes}
    (framed : packet.Framed session.framer.maxPayload)
    (waiting : session.framer.isWaiting = true) (arrives : chunks.flatten = packet.encode) :
    (∃ armed, (session.receiveAll chunks).1 =
        (session.takePacket packet).1.behind session.framer armed) ∧
      (session.receiveAll chunks).2.reaction.datagrams =
        (session.takePacket packet).2.datagrams := by
  have phase : session.framer.phase = .preamble false := of_decide_eq_true waiting
  have unfinished : session.framer.phase.Partial := by
    rw [phase]
    exact trivial
  have fed : session.framer.feedAll chunks = (session.framer, [.packet packet]) := by
    rw [Framer.feedAll_eq_absorbAll _ unfinished, arrives, phase, Framer.absorbAll_intact framed]
    simp only [← phase]
  have single : session.takeAll [.packet packet] =
      ((session.takePacket packet).1, (session.takePacket packet).2 ++ {}) := rfl
  obtain ⟨armed, received⟩ := session.receiveAll_eq chunks
  have delivered := session.datagrams_receiveAll chunks
  rw [fed, single] at received delivered
  rw [Reaction.append_empty] at delivered
  exact ⟨⟨armed, received⟩, delivered⟩

end arrivals

/-- Two ends that get along: they know of each other what there is to know, and both are idle and
look for the start of a packet. -/
structure Exchange.Able (settings : Side → Settings) (parameters : Side → LinkParameters)
    (exchange : Exchange) : Prop where
  valid : ∀ side, (settings side).check = .ok ()
  room : ∀ side, LinkParameters.size ≤ (settings side).rxMtu
  advertised : ∀ side, (settings side).parameters = .ok (parameters side)
  sane : ∀ side, (exchange.get side).Sane (settings side)
  acquainted : ∀ side, (exchange.get side).Acquainted (parameters side.other)
  waiting : ∀ side, (exchange.get side).framer.isWaiting = true
  idle : ∀ side, (exchange.get side).sender.busy = false

section turns

variable {settings : Side → Settings} {parameters : Side → LinkParameters} {exchange : Exchange}
  {side : Side} {departure : Session.Departure}

theorem Exchange.Able.here (able : exchange.Able settings parameters) (side : Side) :
    (exchange.get side).handshake.here = parameters side := by
  have advertised := (able.sane side).profile.here.symm.trans (able.advertised side)
  exact Except.ok.inj advertised

theorem Exchange.Able.maxPayload (able : exchange.Able settings parameters) (side : Side) :
    (exchange.get side).framer.maxPayload = (settings side).rxMtu :=
  (able.sane side).profile.maxPayload

/-- An end that is up sends as much as its link carries and the peer accepts. -/
theorem Exchange.Able.payloadLimit (able : exchange.Able settings parameters) {side : Side}
    (up : (exchange.get side).handshake.isUp = true) :
    (exchange.get side).payloadLimit =
        min (settings side).payloadLimit (settings side.other).rxMtu ∧
      1 ≤ (exchange.get side).payloadLimit := by
  have agreed := (able.acquainted side).agreed up
  have settings_eq : (exchange.get side).settings = settings side :=
    (able.sane side).profile.settings_eq
  rw [settings_eq, (Settings.of_parameters (able.advertised side.other)).2.1] at agreed
  have carries : (settings side).payloadLimit ≠ 0 := (Settings.of_check (able.valid side)).1
  have accepts : 10 ≤ (settings side.other).rxMtu := able.room side.other
  exact ⟨agreed, by omega⟩

/-- Whatever an end sends, the other end can read. -/
theorem Exchange.Able.framed (able : exchange.Able settings parameters)
    (next : (exchange.get side).next = .ok (some departure)) :
    departure.packet.Framed (exchange.get side.other).framer.maxPayload ∧
      (departure.packet.header.code.kind ≠ .data →
        departure.packet.payload = (parameters side).encode) := by
  obtain ⟨queue, regular, _⟩ := (able.sane side).profile.regular
  have here := able.here side
  have room := able.room side.other
  have sends := Session.sends next
  rw [able.maxPayload side.other]
  generalize departure.packet = packet at sends ⊢
  generalize departure.session.profile = after at sends
  cases sends with
  | reset stage => exact ⟨⟨rfl, room⟩, fun _ => congrArg LinkParameters.encode here⟩
  | answer stage => exact ⟨⟨rfl, room⟩, fun _ => congrArg LinkParameters.encode here⟩
  | @data emission sender stage sending =>
    have short := Cursor.length_payload_le (Sender.regular_next regular sending).2.2
    have agreed := (able.acquainted side).agreed (congrArg Handshake.Stage.isUp stage)
    have advertised := (Settings.of_parameters (able.advertised side.other)).2.1
    have limit : (exchange.get side).profile.payloadLimit = (exchange.get side).payloadLimit := rfl
    have fits : emission.packet.payload.length ≤ (settings side.other).rxMtu := by omega
    exact ⟨⟨Sender.declared_of_next sending, fits⟩,
      fun other => absurd (Sender.kind_of_next sending).1 other⟩

/-- One turn of an end that has something to send. -/
theorem Exchange.Able.transfer (able : exchange.Able settings parameters)
    (next : (exchange.get side).next = .ok (some departure)) (size : Nat) :
    ∃ arrival after,
      exchange.transfer side ⟨.harmless, size⟩ = .ok (some
        (⟨side, departure.packet.encode, departure.reaction, some arrival⟩, after)) ∧
      arrival.reaction.datagrams =
        ((exchange.get side.other).takePacket departure.packet).2.datagrams ∧
      after.Able settings parameters ∧
      after.get side = departure.session.sendDone (.ok ()) ∧
      ∃ armed, after.get side.other =
        ((exchange.get side.other).takePacket departure.packet).1.behind
          (exchange.get side.other).framer armed := by
  obtain ⟨after, transferred, sent, received⟩ := Exchange.transfer_eq next size
  obtain ⟨framed, told⟩ := able.framed next
  obtain ⟨⟨armed, taken⟩, delivered⟩ :=
    Session.receiveAll_packet framed (able.waiting side.other) (flatten_chunksOf size _)
  rw [taken] at received
  have departs := Session.perform_depart next
  have done : departure.session.perform (.sendDone (.ok ())) =
      .ok (departure.session.sendDone (.ok ())) := rfl
  have saneHere : (after.get side).Sane (settings side) := by
    rw [sent]
    exact ((able.sane side).of_perform departs).of_perform done
  have saneThere : (after.get side.other).Sane (settings side.other) := by
    have moved :
        (((exchange.get side.other).behind (exchange.get side.other).framer armed).takePacket
          departure.packet).1 = ((exchange.get side.other).takePacket departure.packet).1.behind
            (exchange.get side.other).framer armed :=
      congrArg Prod.fst (Session.takePacket_behind ..)
    rw [received, ← moved]
    have before : ((exchange.get side.other).behind (exchange.get side.other).framer armed).Sane
        (settings side.other) := (able.sane side.other).of_framer (able.sane side.other).profile rfl
    refine before.of_framer (before.profile.takes (Session.takes _ _)) ?_
    rw [moved]
    rfl
  have acquaintedHere : (after.get side).Acquainted (parameters side.other) := by
    rw [sent]
    exact { (able.acquainted side).next next with }
  have acquaintedThere : (after.get side.other).Acquainted (parameters side) := by
    have taken := (Side.other_other side ▸ able.acquainted side.other).takePacket told
    rw [received]
    exact { taken with }
  have framerHere : (after.get side).framer = (exchange.get side).framer := by
    rw [sent]
    exact Session.framer_next next
  have framerThere : (after.get side.other).framer = (exchange.get side.other).framer := by
    rw [received]
    rfl
  have idleThere : (after.get side.other).sender.busy = false := by
    rw [received]
    exact (Session.busy_takePacket _ _).trans (able.idle side.other)
  refine ⟨_, after, transferred, delivered, ?_, sent, armed, received⟩
  refine ⟨able.valid, able.room, able.advertised, side.forall_of saneHere saneThere, ?_, ?_, ?_⟩
  · refine side.forall_of acquaintedHere ?_
    rw [Side.other_other]
    exact acquaintedThere
  · exact side.forall_of (framerHere ▸ able.waiting side) (framerThere ▸ able.waiting side.other)
  · exact side.forall_of (sent ▸ rfl) idleThere

theorem Exchange.takeTurns_of_none (quiet : (exchange.get side).next = .ok none) (size : Nat)
    (sizes : List Nat) :
    exchange.takeTurns side (size :: sizes) = exchange.takeTurns side.other sizes := by
  have early : ¬ 1 ≤ 0 := by decide
  have turn : exchange.turn (fun _ => ⟨.harmless, size⟩) 1 0 side = .ok ([], exchange) := by
    simp only [Exchange.turn, Exchange.transfer, quiet, if_neg early]
  rw [Exchange.takeTurns, turn]
  cases rest : exchange.takeTurns side.other sizes with
  | error fault => simp only [bind, Except.bind, rest]
  | ok result => simp only [bind, Except.bind, rest, List.nil_append, pure, Except.pure]

theorem Exchange.takeTurns_of_quiet (quiet : ∀ side, (exchange.get side).next = .ok none)
    (side : Side) (sizes : List Nat) : exchange.takeTurns side sizes = .ok ([], exchange) := by
  induction sizes generalizing side with
  | nil => rfl
  | cons size sizes ih => rw [Exchange.takeTurns_of_none (quiet side), ih]

theorem Exchange.takeTurns_of_transfer {transfer : Transfer} {after last : Exchange} {size : Nat}
    {sizes : List Nat} {others : List Transfer}
    (first : exchange.transfer side ⟨.harmless, size⟩ = .ok (some (transfer, after)))
    (rest : after.takeTurns side.other sizes = .ok (others, last)) :
    exchange.takeTurns side (size :: sizes) = .ok (transfer :: others, last) := by
  have early : ¬ 1 ≤ 0 := by decide
  have turn : exchange.turn (fun _ => ⟨.harmless, size⟩) 1 0 side = .ok ([transfer], after) := by
    simp only [Exchange.turn, first, if_neg early]
  rw [Exchange.takeTurns, turn]
  simp only [bind, Except.bind, rest, List.cons_append, List.nil_append, pure, Except.pure]

end turns

end DatagramLink
