import DatagramLink.Proofs.Session.Acquaintance
import DatagramLink.Proofs.Session.Diligence

namespace DatagramLink

/-- The sender after things that arriving packets may do to it, one after another. -/
inductive Sender.Undergoes (sender : Sender) : Sender → Prop
  | nothing : sender.Undergoes sender
  | acknowledge {after : Sender} (ack : UInt8) :
      sender.Undergoes after → sender.Undergoes (after.acknowledge ack).2
  | resend {after : Sender} :
      sender.Undergoes after → sender.Undergoes (after.resend?.getD after)
  | owe {after : Sender} (immediate : Bool) :
      sender.Undergoes after → sender.Undergoes (after.owe immediate)
  | report {after : Sender} {error : ErrorCode} (travels : error ≠ .timeout) :
      sender.Undergoes after → sender.Undergoes (after.setReport error)
  | rewind {after : Sender} : sender.Undergoes after → sender.Undergoes after.rewind

theorem Sender.Undergoes.trans {sender middle after : Sender} (first : sender.Undergoes middle)
    (second : middle.Undergoes after) : sender.Undergoes after := by
  induction second with
  | nothing => exact first
  | acknowledge ack _ ih => exact .acknowledge ack ih
  | resend _ ih => exact .resend ih
  | owe immediate _ ih => exact .owe immediate ih
  | report travels _ ih => exact .report travels ih
  | rewind _ ih => exact .rewind ih

section sessions

variable (session : Session)

theorem Session.undergoes_acknowledge (ack : UInt8) :
    session.sender.Undergoes (session.acknowledge ack).1.sender := by
  have start : session.sender.Undergoes session.sender := .nothing
  have acknowledges := Sender.Undergoes.acknowledge ack start
  unfold Session.acknowledge
  split <;> rename_i acknowledged <;> rw [acknowledged] at acknowledges <;> exact acknowledges

theorem Session.undergoes_heed (error : ErrorCode) :
    session.sender.Undergoes (session.heed error).sender := by
  unfold Session.heed
  split
  · exact .resend .nothing
  · exact .nothing

theorem Session.undergoes_oweAck : session.sender.Undergoes session.oweAck.1.sender := by
  unfold Session.oweAck
  split
  · exact .owe true .nothing
  · exact .owe false .nothing

theorem Session.undergoes_takeFragment (fragment : Fragment) :
    session.sender.Undergoes (session.takeFragment fragment).1.sender := by
  unfold Session.takeFragment
  generalize session.receiver.accept fragment = result
  obtain ⟨verdict, receiver⟩ := result
  have owes := Session.undergoes_oweAck { session with receiver }
  cases verdict with
  | buffered => exact owes
  | delivered datagram => exact owes
  | duplicate => exact .owe true .nothing
  | outOfOrder => exact .report (by decide) .nothing
  | tooLarge => exact .owe true (.report (by decide) .nothing)

theorem Session.undergoes_takeData (packet : Packet) :
    session.sender.Undergoes (session.takeData packet).1.sender := by
  unfold Session.takeData
  split
  · exact .nothing
  · have heeds := (Session.undergoes_acknowledge
      { session with receiver := session.receiver.note packet.header } packet.header.ack).trans
        (Session.undergoes_heed _ packet.header.code.error)
    dsimp only
    split
    · exact heeds
    · exact heeds.trans (Session.undergoes_takeFragment _ _)

theorem Session.undergoes_noteDamage {error : ErrorCode} (travels : error ≠ .timeout) :
    session.sender.Undergoes (session.noteDamage error).sender := by
  unfold Session.noteDamage
  split
  · exact .report travels .nothing
  · exact .nothing

theorem Session.undergoes_take (event : Framer.Event) :
    session.sender.Undergoes (session.take event).1.sender := by
  cases event with
  | checksumMismatch header => exact session.undergoes_noteDamage (by decide)
  | invalidHeader => exact session.undergoes_noteDamage (by decide)
  | packet packet =>
    rw [Session.take, Session.takePacket]
    cases packet.header.code.kind with
    | data => exact session.undergoes_takeData packet
    | reset =>
      simp only [Session.takeReset]
      split
      · exact .nothing
      · split
        · exact .nothing
        · exact .rewind .nothing
    | resetAck =>
      simp only [Session.takeAnswer]
      split
      · exact .nothing
      · split <;> exact .nothing

theorem Session.undergoes_takeAll (events : List Framer.Event) :
    session.sender.Undergoes (session.takeAll events).1.sender := by
  induction events generalizing session with
  | nil => exact .nothing
  | cons event events ih => exact (session.undergoes_take event).trans (ih _)

theorem Session.undergoes_receive (chunk : Bytes) :
    session.sender.Undergoes (session.receive chunk).1.sender := by
  have taken := Session.undergoes_takeAll
    { session with framer := (session.framer.feed chunk).1 } (session.framer.feed chunk).2
  unfold Session.receive Session.watchFramer
  dsimp only
  split
  · exact taken
  · split <;> exact taken

end sessions

section laws

variable {sender after : Sender}

/-- A timeout is never reported, so nothing that arrives makes it one. -/
theorem Sender.Undergoes.report_ne (undergoes : sender.Undergoes after)
    (travels : sender.report ≠ .timeout) : after.report ≠ .timeout := by
  induction undergoes with
  | nothing => exact travels
  | @acknowledge middle ack _ ih =>
    unfold Sender.acknowledge
    split
    · exact ih
    · split
      · exact ih
      · dsimp only
        split <;> exact ih
  | @resend middle _ ih =>
    cases held : middle.outstanding with
    | none => simpa only [Sender.resend?, held, Option.map_none, Option.getD_none] using ih
    | some packet => simpa only [Sender.resend?, held, Option.map_some, Option.getD_some] using ih
  | owe immediate _ ih =>
    unfold Sender.owe
    split
    · exact ih
    · split <;> exact ih
  | report travels => exact travels
  | rewind => exact fun timeout => by cases timeout

/-- Nothing that arrives makes the link busy or idle. -/
theorem Sender.Undergoes.busy_eq (undergoes : sender.Undergoes after) :
    after.busy = sender.busy := by
  induction undergoes with
  | nothing => rfl
  | acknowledge ack _ ih => exact (Sender.busy_acknowledge _ ack).trans ih
  | @resend middle _ ih =>
    cases held : middle.outstanding with
    | none => simpa only [Sender.resend?, held, Option.map_none, Option.getD_none] using ih
    | some packet => simpa only [Sender.resend?, held, Option.map_some, Option.getD_some] using ih
  | owe immediate _ ih => exact (Sender.busy_owe _ immediate).trans ih
  | report _ _ ih => exact ih
  | rewind _ ih => exact ih

/-- An outstanding packet does not time out by what arrives, and none becomes outstanding. -/
theorem Sender.Undergoes.timeouts_eq (undergoes : sender.Undergoes after) :
    after.outstanding = none ∨
      after.outstanding.map (·.timeouts) = sender.outstanding.map (·.timeouts) := by
  induction undergoes with
  | nothing => exact Or.inr rfl
  | @acknowledge middle ack _ ih =>
    rcases middle.of_acknowledge ack with ⟨_, same, _⟩ | ⟨_, _, _, _, _, _, _, _, state⟩
    · rwa [same]
    · exact Or.inl (by rw [state])
  | @resend middle _ ih =>
    cases held : middle.outstanding with
    | none => exact Or.inl (by simp only [Sender.resend?, held, Option.map_none, Option.getD_none])
    | some packet =>
      rw [held] at ih
      simpa only [Sender.resend?, held, Option.map_some, Option.getD_some, reduceCtorEq,
        false_or] using ih
  | @owe middle immediate _ ih =>
    have same : (middle.owe immediate).outstanding = middle.outstanding := by
      unfold Sender.owe
      split
      · rfl
      · split <;> rfl
    rwa [same]
  | report _ _ ih => exact ih
  | rewind _ ih => exact Or.inl rfl

end laws

section countdowns

variable (session : Session) (countdown : Countdown)

/-- A countdown that has run out leaves all of the sender alone but the outstanding packet, which
only the countdown for it makes time out, and the acknowledgement that is owed. -/
theorem Session.sender_elapsed : ∃ outstanding acknowledgement,
    (session.elapsed countdown).1.sender = { session.sender with outstanding, acknowledgement } ∧
      (countdown ≠ .txTimeout → outstanding = session.sender.outstanding) := by
  cases countdown with
  | txTimeout =>
    unfold Session.elapsed
    dsimp only
    split
    · rename_i timedOut
      obtain ⟨packet, _, same⟩ := Option.map_eq_some_iff.mp timedOut
      cases same
      exact ⟨_, _, rfl, fun other => absurd rfl other⟩
    · exact ⟨_, _, rfl, fun _ => rfl⟩
  | ackDelay =>
    show ∃ outstanding acknowledgement,
      session.sender.ackOverdue = { session.sender with outstanding, acknowledgement } ∧ _
    unfold Sender.ackOverdue
    split <;> exact ⟨_, _, rfl, fun _ => rfl⟩
  | resetRetry => exact ⟨_, _, rfl, fun _ => rfl⟩
  | rxTimeout => exact ⟨_, _, rfl, fun _ => rfl⟩

end countdowns

section departure

variable {session : Session}

/-- Only an idle link is given a packet, which makes it busy. -/
theorem Session.busy_of_next {departure : Session.Departure}
    (next : session.next = .ok (some departure)) :
    session.sender.busy = false ∧ departure.session.sender.busy = true := by
  obtain ⟨idle, departs⟩ := Session.departs_of_next next
  refine ⟨idle, ?_⟩
  cases departs with
  | reset => rfl
  | answer => rfl
  | data up sending =>
    obtain ⟨_, _, _, _, rfl⟩ := Sender.of_next sending
    rfl

theorem Session.next_of_busy (busy : session.sender.busy = true) : session.next = .ok none := by
  rw [Session.next, if_pos busy]

end departure

end DatagramLink
