import DatagramLink.Session.Basic

namespace DatagramLink

/-- A packet that leaves, and the session and its reaction after that. -/
structure Session.Departure where
  packet : Packet
  session : Session
  reaction : Reaction
  deriving DecidableEq, Repr

/-- A handshake packet leaves. A reset is repeated until it is answered. -/
def Session.departHandshake (session : Session) (packet : Packet) (handshake : Handshake) :
    Session.Departure where
  packet
  session := { session with handshake, sender := session.sender.setBusy true }
  reaction := { orders := if packet.header.code.kind = .reset then [.start .resetRetry] else [] }

/-- Payload needs a countdown. A retransmission the peer asked for does not restart one that runs.
An acknowledgement that was held back goes along. -/
def Session.departData (session : Session) (emission : Sender.Emission) (sender : Sender) :
    Session.Departure :=
  let countdown := emission.carriesPayload && !(emission.retransmission && session.txArmed)
  { packet := emission.packet
    session := { session with sender, txArmed := session.txArmed || countdown, ackArmed := false }
    reaction := { orders :=
      (if countdown then [.start .txTimeout] else []) ++
        (if session.ackArmed then [.stop .ackDelay] else []) } }

/-- The next packet, if there is one and the link is idle. -/
def Session.next (session : Session) : Except Fault (Option Session.Departure) :=
  if session.sender.busy then .ok none
  else match session.handshake.nextPacket? with
    | some (packet, handshake) => .ok (some (session.departHandshake packet handshake))
    | none =>
      if !session.handshake.isUp then .ok none
      else match session.sender.next session.receiver.expected session.payloadLimit with
        | .error fault => .error fault
        | .ok none => .ok none
        | .ok (some (emission, sender)) => .ok (some (session.departData emission sender))

/-- The ways in which a packet leaves. -/
inductive Session.Departs (session : Session) : Session.Departure → Prop
  | reset (announcing : session.handshake.stage = .announcing) :
      session.Departs (session.departHandshake (session.handshake.packet .reset)
        { session.handshake with stage := .awaiting })
  | answer (answering : session.handshake.stage = .answering) :
      session.Departs (session.departHandshake (session.handshake.packet .resetAck)
        { session.handshake with stage := .up })
  | data {emission : Sender.Emission} {sender : Sender} (up : session.handshake.stage = .up)
      (sending : session.sender.next session.receiver.expected session.payloadLimit =
        .ok (some (emission, sender))) :
      session.Departs (session.departData emission sender)

/-- Only an idle link is given a packet. -/
theorem Session.departs_of_next {session : Session} {departure : Session.Departure}
    (next : session.next = .ok (some departure)) :
    session.sender.busy = false ∧ session.Departs departure := by
  unfold Session.next at next
  split at next
  · cases next
  · rename_i idle
    refine ⟨Bool.eq_false_iff.mpr idle, ?_⟩
    split at next
    · rename_i waiting
      unfold Handshake.nextPacket? at waiting
      split at waiting
      · cases waiting
        cases next
        exact .reset (by assumption)
      · cases waiting
        cases next
        exact .answer (by assumption)
      · cases waiting
      · cases waiting
      · cases waiting
    · rename_i nothing
      split at next
      · cases next
      · rename_i live
        have up : session.handshake.stage.isUp = true := by
          simpa only [Handshake.isUp, Bool.not_eq_true', Bool.not_eq_false] using live
        have answered : session.handshake.stage ≠ .answering := by
          intro answering
          rw [Handshake.nextPacket?, answering] at nothing
          cases nothing
        split at next
        · cases next
        · cases next
        · cases next
          exact .data (Handshake.Stage.eq_up up answered) (by assumption)

/-- How many packets can leave before anything else happens. -/
def Session.backlog (session : Session) : Nat :=
  (if session.handshake.hasPacket then 1 else 0) + (if session.sender.wantsLink then 1 else 0)

theorem Session.backlog_le (session : Session) : session.backlog ≤ 2 := by
  unfold Session.backlog
  split <;> split <;> decide

/-- Every packet that leaves makes the backlog smaller, also once its send is done. -/
theorem Session.backlog_next_lt {session : Session} {departure : Session.Departure}
    (next : session.next = .ok (some departure)) (result : Except SendFailure Unit) :
    (departure.session.sendDone result).backlog < session.backlog := by
  have wants : (session.sender.setBusy true |>.setBusy false).wantsLink =
      session.sender.wantsLink := rfl
  cases (Session.departs_of_next next).2 with
  | reset announcing =>
    have waits : session.handshake.hasPacket = true := by simp [Handshake.hasPacket, announcing]
    simp only [Session.backlog, Session.sendDone, Session.departHandshake, waits, wants]
    simp [Handshake.hasPacket]
  | answer answering =>
    have waits : session.handshake.hasPacket = true := by simp [Handshake.hasPacket, answering]
    simp only [Session.backlog, Session.sendDone, Session.departHandshake, waits, wants]
    simp [Handshake.hasPacket]
  | @data emission sender _ sending =>
    obtain ⟨before, after⟩ := Sender.next_settles sending
    have same : (sender.setBusy false).wantsLink = sender.wantsLink := rfl
    simp only [Session.backlog, Session.sendDone, Session.departData, same, before, after,
      if_true, Bool.false_eq_true, if_false]
    exact Nat.lt_succ_self _

end DatagramLink
