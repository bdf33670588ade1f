import DatagramLink.Proofs.Line.Lane
import DatagramLink.Proofs.Line.Moves

namespace DatagramLink

/-- The lane from end `a` to end `b`. -/
def Line.lane (line : Line) : Lane where
  sender := line.a.session.profile
  out := line.a.inFlight
  accepted := line.a.accepted
  receiver := line.b.session.profile
  back := line.b.inFlight
  delivered := line.b.delivered

/-- This end finds the line settled. -/
def Line.Settled (line : Line) (side : Side) : Prop :=
  DatagramLink.Settled (line.get side.other).session.handshake.stage (line.get side).inFlight
    (line.get side.other).inFlight

variable {ample steady : Prop} {limit removed : Nat} {handed : Bool}

section arrivals

variable {session : Session} {out back left : List Packet} {accepted delivered : List Bytes}
  {peer : Profile} {events : List Framer.Event}

theorem Lane.Sound.takeAll
    (sound : Lane.Sound ⟨session.profile, out, accepted, peer, back, delivered⟩ ample steady
      limit removed handed)
    (arrived : stillInFlight? (events.filterMap Framer.Event.packet?) back = some left) :
    ∃ removed handed, Lane.Sound ⟨(session.takeAll events).1.profile, out, accepted, peer, left,
      delivered⟩ ample steady limit removed handed := by
  induction events generalizing session back removed handed with
  | nil =>
    rw [List.filterMap_nil, stillInFlight?] at arrived
    cases arrived
    exact ⟨removed, handed, sound⟩
  | cons event events ih =>
    cases event with
    | packet packet =>
      obtain ⟨later, sublist, others⟩ := of_stillInFlight?_cons arrived
      have next := sound.lose (List.Sublist.refl out) sublist
      obtain ⟨removed, handed, taken⟩ := next.take (session.takes packet)
      exact ih taken others
    | checksumMismatch header =>
      rw [← session.profile_noteDamage .checksum] at sound
      exact ih sound arrived
    | invalidHeader =>
      rw [← session.profile_noteDamage .header] at sound
      exact ih sound arrived

theorem Lane.Sound.peerTakeAll
    (sound : Lane.Sound ⟨peer, out, accepted, session.profile, back, delivered⟩ ample steady
      limit removed handed)
    (arrived : stillInFlight? (events.filterMap Framer.Event.packet?) out = some left) :
    ∃ later, Lane.Sound ⟨peer, left, accepted, (session.takeAll events).1.profile, back,
      delivered ++ (session.takeAll events).2.datagrams⟩ ample steady limit removed later := by
  induction events generalizing session out delivered handed with
  | nil =>
    rw [List.filterMap_nil, stillInFlight?] at arrived
    cases arrived
    exact ⟨handed, (List.append_nil delivered).symm ▸ sound⟩
  | cons event events ih =>
    cases event with
    | packet packet =>
      obtain ⟨later, sublist, others⟩ := of_stillInFlight?_cons arrived
      have next := sound.lose sublist (List.Sublist.refl back)
      obtain ⟨handed, taken⟩ := next.peerTake (session.takes packet)
      obtain ⟨handed, after⟩ := ih taken others
      rw [List.append_assoc, ← Reaction.datagrams_append] at after
      exact ⟨handed, after⟩
    | checksumMismatch header =>
      rw [← session.profile_noteDamage .checksum] at sound
      obtain ⟨handed, after⟩ := ih sound arrived
      exact ⟨handed, after⟩
    | invalidHeader =>
      rw [← session.profile_noteDamage .header] at sound
      obtain ⟨handed, after⟩ := ih sound arrived
      exact ⟨handed, after⟩

end arrivals

section moves

variable {here there hereAfter thereAfter : Terminal} {move : Terminal.Move}

/-- Whatever the sending end does keeps the lane sound. -/
theorem Lane.Sound.step
    (sound : Lane.Sound ⟨here.session.profile, here.inFlight, here.accepted,
      there.session.profile, there.inFlight, there.delivered⟩ ample steady limit removed handed)
    (does : here.Does there move hereAfter thereAfter)
    (settled : move = .askReset → here.session.handshake.stage.isUp = true →
      ¬ steady ∧ Settled there.session.handshake.stage here.inFlight there.inFlight) :
    ∃ removed handed, Lane.Sound ⟨hereAfter.session.profile, hereAfter.inFlight,
      hereAfter.accepted, thereAfter.session.profile, thereAfter.inFlight,
      thereAfter.delivered⟩ ample steady limit removed handed := by
  cases does with
  | quiet same =>
    rw [← same] at sound
    exact ⟨removed, handed, sound⟩
  | submit submitted => exact ⟨removed, handed, sound.submit submitted⟩
  | send sends => exact ⟨removed, handed, sound.send sends⟩
  | retry awaiting again =>
    simp only [again]
    exact ⟨removed, handed, sound.retry awaiting⟩
  | ask asked =>
    obtain ⟨later, after⟩ := sound.ask (settled rfl)
    simp only [asked]
    exact ⟨removed, later, after⟩
  | lose =>
    exact ⟨removed, handed, sound.lose (List.tail_sublist _) (List.Sublist.refl _)⟩
  | arrive same arrived taken =>
    rw [← same] at sound
    simp only [taken]
    exact sound.takeAll arrived

/-- Whatever the receiving end does keeps the lane sound. -/
theorem Lane.Sound.peerStep
    (sound : Lane.Sound ⟨there.session.profile, there.inFlight, there.accepted,
      here.session.profile, here.inFlight, here.delivered⟩ ample steady limit removed handed)
    (does : here.Does there move hereAfter thereAfter)
    (settled : move = .askReset → here.session.handshake.stage.isUp = true →
      ¬ steady ∧ Settled there.session.handshake.stage here.inFlight there.inFlight) :
    ∃ later, Lane.Sound ⟨thereAfter.session.profile, thereAfter.inFlight,
      thereAfter.accepted, hereAfter.session.profile, hereAfter.inFlight,
      hereAfter.delivered⟩ ample steady limit removed later := by
  cases does with
  | quiet same =>
    rw [← same] at sound
    exact ⟨handed, sound⟩
  | submit submitted =>
    obtain ⟨_, _, sender, _, same⟩ := Session.of_submit submitted
    simp only [same]
    exact ⟨handed, { sound with }⟩
  | send sends => exact ⟨handed, sound.peerSend sends⟩
  | retry awaiting again =>
    simp only [again]
    exact ⟨handed, sound.peerRetry awaiting⟩
  | ask asked =>
    obtain ⟨later, after⟩ := sound.peerAsk (settled rfl)
    simp only [asked]
    exact ⟨later, after⟩
  | lose => exact ⟨handed, sound.lose (List.Sublist.refl _) (List.tail_sublist _)⟩
  | arrive same arrived taken =>
    rw [← same] at sound
    simp only [taken]
    exact sound.peerTakeAll arrived

end moves

theorem Line.sound_step {line after : Line} {side : Side} {move : Terminal.Move}
    (sound : line.lane.Sound ample steady limit removed handed)
    (stepped : line.step? side move = some after)
    (settled : move = .askReset → (line.get side).session.handshake.isUp = true →
      ¬ steady ∧ line.Settled side) :
    ∃ removed handed, after.lane.Sound ample steady limit removed handed := by
  cases side with
  | a =>
    obtain ⟨⟨here, there⟩, moved, same⟩ := Option.map_eq_some_iff.mp stepped
    cases same
    exact sound.step (Terminal.does moved) settled
  | b =>
    obtain ⟨⟨here, there⟩, moved, same⟩ := Option.map_eq_some_iff.mp stepped
    cases same
    obtain ⟨later, after⟩ := sound.peerStep (Terminal.does moved) settled
    exact ⟨removed, later, after⟩

/-- Only datagrams that were accepted are delivered. -/
theorem Lane.Sound.accepted_of_delivered {lane : Lane}
    (sound : lane.Sound ample steady limit removed handed) :
    ∀ datagram ∈ lane.delivered, datagram ∈ lane.accepted := by
  obtain ⟨taken, ledger, delivery⟩ := sound.books
  obtain ⟨counts, _, _, counted, _⟩ := ledger.counted
  intro datagram member
  rw [delivery, counted] at member
  exact mem_of_mem_repeated (List.mem_of_mem_filter member)

section beginning

variable {a b : Settings} (validA : a.check = .ok ()) (validB : b.check = .ok ())

theorem Line.sound_resting (enough : ample → a.maxDatagram ≤ b.maxDatagram) :
    ∃ limit, (Line.resting validA validB).lane.Sound ample steady limit 0 false := by
  let limit := min (Session.ofValid a validA).profile.settings.payloadLimit
    (Session.ofValid b validB).profile.here.rxMtu.toNat
  obtain ⟨settings, _, stage, _, regular, cursor⟩ := Session.profile_ofValid a validA limit
  obtain ⟨_, room, peerStage, uptake, _, _⟩ := Session.profile_ofValid b validB limit
  obtain ⟨version, advertised, accepted⟩ := Session.here_ofValid b validB
  have down : (Session.ofValid a validA).profile.stage.isUp = false := by rw [stage]; rfl
  have peerDown : (Session.ofValid b validB).profile.stage.isUp = false := by rw [peerStage]; rfl
  refine ⟨limit, regular, ?_, ⟨[], ledger_empty, rfl⟩, ?_, ?_, ?_, ?_, rfl, ?_, version,
    accepted.trans advertised.symm⟩
  · exact .apart down peerDown cursor uptake (segmented_nil _) (segmented_nil _)
  · exact fun _ datagram member => absurd member List.not_mem_nil
  · intro given
    show (Session.ofValid a validA).profile.settings.maxDatagram ≤
      (Session.ofValid b validB).profile.maxDatagram
    rw [settings, room]
    exact enough given
  · exact fun packet member => absurd member List.not_mem_nil
  · exact fun up => absurd down (ne_false_of_eq_true up)
  · exact fun packet member => absurd member List.not_mem_nil

end beginning

/-- The run lemma: what one move keeps, a run keeps. -/
theorem Line.Reaches.sound {allowed : Line → Side → Terminal.Move → Prop} {start line : Line}
    (run : Line.Reaches allowed start line)
    (settled : ∀ line side, allowed line side .askReset →
      (line.get side).session.handshake.isUp = true → ¬ steady ∧ line.Settled side)
    (sound : start.lane.Sound ample steady limit removed handed) :
    ∃ removed handed, line.lane.Sound ample steady limit removed handed := by
  induction run with
  | start => exact ⟨removed, handed, sound⟩
  | next _ permitted stepped ih =>
    obtain ⟨removed, handed, before⟩ := ih
    refine Line.sound_step before stepped ?_
    rintro rfl
    exact settled _ _ permitted

section ample

/-- The lane is sound, and the receiving end has room for whatever the sending end accepts. -/
def Lane.Coherent (lane : Lane) (steady : Prop) (limit removed : Nat) (handed : Bool) : Prop :=
  lane.Sound True steady limit removed handed

/-- What the receiving end takes in, it hands over. -/
theorem Lane.Coherent.ledger {lane : Lane}
    (coherent : lane.Coherent steady limit removed handed) :
    Ledger steady lane.accepted removed handed lane.delivered := by
  obtain ⟨taken, ledger, delivery⟩ := coherent.books
  obtain ⟨counts, _, _, counted, _⟩ := ledger.counted
  have small : ∀ datagram ∈ taken, datagram.length ≤ lane.receiver.maxDatagram := by
    intro datagram member
    rw [counted] at member
    exact coherent.small trivial datagram (mem_of_mem_repeated member)
  rw [delivery, fitting_of_le small]
  exact ledger

/-- All datagrams that are not removed are queued. -/
theorem Lane.Coherent.removed_eq {steady : Prop} {limit removed : Nat} {handed : Bool} {line : Line}
    (coherent : line.lane.Coherent steady limit removed handed) :
    line.a.removed = removed ∧
      line.a.session.sender.queue.toList = line.a.accepted.drop removed := by
  have holds : line.a.session.sender.queue.Holds (line.a.accepted.drop removed) :=
    coherent.regular.holds
  have within : removed ≤ line.a.accepted.length := coherent.ledger.removed_le
  have pending := holds.length_eq
  rw [List.length_drop] at pending
  refine ⟨?_, holds.toList_eq⟩
  simp only [Terminal.removed, Session.pending, Sender.pending, ← pending]
  omega

theorem Line.coherent_step {line after : Line} {side : Side} {move : Terminal.Move}
    (coherent : line.lane.Coherent steady limit removed handed)
    (stepped : line.step? side move = some after)
    (settled : move = .askReset → (line.get side).session.handshake.isUp = true →
      ¬ steady ∧ line.Settled side) :
    ∃ removed handed, after.lane.Coherent steady limit removed handed :=
  Line.sound_step coherent stepped settled

variable {a b : Settings} (validA : a.check = .ok ()) (validB : b.check = .ok ())

theorem Line.coherent_resting (fits : a.maxDatagram ≤ b.maxDatagram) :
    ∃ limit, (Line.resting validA validB).lane.Coherent steady limit 0 false :=
  Line.sound_resting validA validB fun _ => fits

/-- Both ends are down when they ask for their first reset. -/
theorem Line.coherent_started (fits : a.maxDatagram ≤ b.maxDatagram) :
    ∃ limit removed handed,
      (Line.started validA validB).lane.Coherent steady limit removed handed := by
  obtain ⟨limit, resting⟩ := Line.coherent_resting validA validB fits
  have downA := Session.isUp_ofValid a validA
  have downB := Session.isUp_ofValid b validB
  let halfway : Line := ⟨.ofSession (Session.ofValid a validA).askReset.1,
    .ofSession (Session.ofValid b validB)⟩
  have askA : (Line.resting validA validB).step? .a .askReset = some halfway := rfl
  obtain ⟨_, _, first⟩ := Line.coherent_step resting askA fun _ up =>
    absurd downA (ne_false_of_eq_true up)
  have askB : halfway.step? .b .askReset = some (Line.started validA validB) := rfl
  obtain ⟨removed, handed, second⟩ := Line.coherent_step first askB fun _ up =>
    absurd downB (ne_false_of_eq_true up)
  exact ⟨limit, removed, handed, second⟩

theorem Line.Reaches.coherent {allowed : Line → Side → Terminal.Move → Prop} {start line : Line}
    (run : Line.Reaches allowed start line)
    (settled : ∀ line side, allowed line side .askReset →
      (line.get side).session.handshake.isUp = true → ¬ steady ∧ line.Settled side)
    (coherent : start.lane.Coherent steady limit removed handed) :
    ∃ removed handed, line.lane.Coherent steady limit removed handed :=
  Line.Reaches.sound run settled coherent

end ample

end DatagramLink
