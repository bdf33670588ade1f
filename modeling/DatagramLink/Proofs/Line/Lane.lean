import DatagramLink.Proofs.Line.Ledger
import DatagramLink.Proofs.Line.Phases
import DatagramLink.Proofs.Line.Tracking
import DatagramLink.Proofs.Session.Profile

namespace DatagramLink

/-- The streams of fragments and of acknowledgements, while this datagram is in front. -/
def datagramStreams (room limit : Nat) (front : Bytes) : Streams Cursor.start Uptake.start where
  InStep := fun cursor out uptake back handed =>
    Tracking room limit cursor front uptake (out.filterMap Packet.fragment?)
      (back.filterMap Packet.ack?) handed
  Early := fun packet => ∀ fragment, packet.fragment? = some fragment →
    Cursor.start.Yields limit front fragment
  PeerEarly := fun packet => ∀ ack, packet.ack? = some ack → ack = 0
  fresh := by
    intro out back early peerEarly
    refine .fresh ?_ ?_
    · intro fragment member
      obtain ⟨packet, sent, carried⟩ := List.mem_filterMap.mp member
      refine early packet sent (fun reset => ?_) fragment carried
      rw [Packet.IsReset.fragment?_eq reset] at carried
      cases carried
    · intro ack member
      obtain ⟨packet, sent, said⟩ := List.mem_filterMap.mp member
      refine peerEarly packet sent (fun reset => ?_) ack said
      rw [Packet.IsReset.ack?_eq reset] at said
      cases said
  lose := fun tracking lost peerLost =>
    tracking.lose (lost.filterMap Packet.fragment?) (peerLost.filterMap Packet.ack?)
  sendResets := by
    intro _ _ _ resets _ _ tracking all
    have silent : resets.filterMap Packet.fragment? = [] :=
      List.filterMap_eq_nil_iff.mpr fun packet member =>
        Packet.IsReset.fragment?_eq (all packet member)
    rwa [List.filterMap_append, silent, List.append_nil]
  peerSendResets := by
    intro _ _ _ _ resets _ tracking all
    have silent : resets.filterMap Packet.ack? = [] :=
      List.filterMap_eq_nil_iff.mpr fun packet member => Packet.IsReset.ack?_eq (all packet member)
    rwa [List.filterMap_append, silent, List.append_nil]

section streams

variable {room limit : Nat} {front : Bytes} {cursor : Cursor} {uptake : Uptake}
  {out back : List Packet} {handed : Bool} {packet : Packet}

theorem datagramStreams_send
    (inStep : (datagramStreams room limit front).InStep cursor out uptake back handed)
    (atCursor : ∀ fragment, packet.fragment? = some fragment →
      cursor.Yields limit front fragment) :
    (datagramStreams room limit front).InStep cursor (out ++ [packet]) uptake back handed := by
  have carries : ∀ fragment ∈ [packet].filterMap Packet.fragment?,
      cursor.Yields limit front fragment := by
    intro fragment member
    obtain ⟨sent, single, carried⟩ := List.mem_filterMap.mp member
    rw [List.mem_singleton.mp single] at carried
    exact atCursor fragment carried
  have emitted := inStep.emit carries
  rw [← List.filterMap_append] at emitted
  exact emitted

theorem datagramStreams_reply
    (inStep : (datagramStreams room limit front).InStep cursor out uptake back handed)
    (expected : ∀ ack, packet.ack? = some ack → ack = uptake.expected) :
    (datagramStreams room limit front).InStep cursor out uptake (back ++ [packet]) handed := by
  simp only [datagramStreams, List.filterMap_append, List.filterMap_cons, List.filterMap_nil]
  cases said : packet.ack? with
  | none =>
    rw [List.append_nil]
    exact inStep
  | some ack =>
    rw [expected ack said]
    exact inStep.reply

/-- The acknowledgement of a fragment arrives, and the front datagram goes on. -/
theorem datagramStreams_continue
    (inStep : (datagramStreams room limit front).InStep cursor out uptake (packet :: back) handed)
    (data : packet.IsData) (covers : packet.header.ack = cursor.seq + 1)
    (more : cursor.acked + limit < front.length) :
    ∃ later, (handed = false ∧ later = false) ∧
      (datagramStreams room limit front).InStep ⟨packet.header.ack, cursor.acked + limit⟩ out uptake
        back later := by
  simp only [datagramStreams, List.filterMap_cons, data.ack?_eq] at inStep
  have moved := inStep.acknowledge covers
  rw [if_pos more] at moved
  exact ⟨false, ⟨moved.1, rfl⟩, moved.2⟩

/-- The acknowledgement of the last fragment arrives, and the next datagram comes to the front. -/
theorem datagramStreams_complete
    (inStep : (datagramStreams room limit front).InStep cursor out uptake (packet :: back) handed)
    (data : packet.IsData) (covers : packet.header.ack = cursor.seq + 1)
    (last : ¬ cursor.acked + limit < front.length) (next : Bytes) :
    ∃ later, (handed = true ∧ later = false) ∧
      (datagramStreams room limit next).InStep ⟨packet.header.ack, 0⟩ out uptake back later := by
  simp only [datagramStreams, List.filterMap_cons, data.ack?_eq] at inStep
  have moved := inStep.acknowledge covers
  rw [if_neg last] at moved
  exact ⟨false, ⟨moved.1, rfl⟩, moved.2 next⟩

/-- A packet arrives at the receiving end, and may complete the front datagram. -/
theorem datagramStreams_takeIn {receiver : Receiver}
    (inStep : (datagramStreams receiver.maxDatagram limit front).InStep cursor (packet :: out)
      receiver.uptake back handed)
    (data : packet.IsData) :
    ∃ later, ((receiver.takeIn packet).1 = fitting receiver.maxDatagram [front] ∧ front ≠ [] ∧
          handed = false ∧ later = true ∨
        (receiver.takeIn packet).1 = [] ∧ later = handed) ∧
      (datagramStreams receiver.maxDatagram limit front).InStep cursor out
        (receiver.takeIn packet).2.uptake back later := by
  simp only [datagramStreams, List.filterMap_cons, data.fragment?_eq] at inStep ⊢
  unfold Receiver.takeIn
  cases carried : Fragment.ofPacket? packet with
  | none =>
    rw [carried] at inStep
    exact ⟨handed, Or.inr ⟨rfl, rfl⟩, inStep⟩
  | some fragment =>
    rw [carried] at inStep
    have noted : Tracking (receiver.note packet.header).maxDatagram limit cursor front
        (receiver.note packet.header).uptake (fragment :: out.filterMap Packet.fragment?)
        (back.filterMap Packet.ack?) handed := inStep
    obtain ⟨later, moved, books⟩ := noted.accept
    exact ⟨later, books, moved⟩

end streams

/-- One end sends datagrams, the other receives them. -/
structure Lane where
  sender : Profile
  /-- The packets in flight from the sender, and those in flight to it. -/
  out : List Packet
  accepted : List Bytes
  receiver : Profile
  back : List Packet
  delivered : List Bytes

/-- The datagram in front of the queue when so many have been removed, or nothing if none is
left. -/
def Lane.front (lane : Lane) (removed : Nat) : Bytes := (lane.accepted.drop removed).headD []

theorem Lane.front_eq {lane : Lane} {removed : Nat} (waiting : lane.front removed ≠ []) :
    lane.accepted[removed]? = some (lane.front removed) := by
  unfold Lane.front at waiting ⊢
  rw [← List.head?_drop]
  cases queue : lane.accepted.drop removed with
  | nil => rw [queue] at waiting; exact absurd rfl waiting
  | cons front rest => rfl

/-- The header declares the length of the payload, and data is cut to the limit. -/
structure Packet.Cut (packet : Packet) (limit : Nat) : Prop where
  declared : packet.header.length.toNat = packet.payload.length
  within : packet.IsData → packet.payload.length ≤ limit

/-- The receiving end takes all datagrams in, but it hands over only those it has room for. It
has ample room if it has room for whatever the sending end accepts. -/
structure Lane.Sound (lane : Lane) (ample steady : Prop) (limit removed : Nat) (handed : Bool) :
    Prop where
  regular : lane.sender.course.Regular limit (lane.accepted.drop removed)
  phase : Phase (datagramStreams lane.receiver.maxDatagram limit (lane.front removed)) steady
    ⟨lane.sender.stage, lane.sender.course.cursor, lane.out⟩
    ⟨lane.receiver.stage, lane.receiver.uptake, lane.back⟩ handed
  books : ∃ taken, Ledger steady lane.accepted removed handed taken ∧
    lane.delivered = fitting lane.receiver.maxDatagram taken
  small : ample → ∀ datagram ∈ lane.accepted, datagram.length ≤ lane.receiver.maxDatagram
  room : ample → lane.sender.settings.maxDatagram ≤ lane.receiver.maxDatagram
  cut : ∀ packet ∈ lane.out, packet.Cut limit
  agreed : lane.sender.stage.isUp = true → lane.sender.payloadLimit = limit
  limit_eq : limit = min lane.sender.settings.payloadLimit lane.receiver.here.rxMtu.toNat
  told : ∀ packet ∈ lane.back, ¬ packet.IsData → packet.payload = lane.receiver.here.encode
  version : lane.receiver.here.version = .current
  accepts : lane.receiver.maxPayload = lane.receiver.here.rxMtu.toNat

variable {ample steady : Prop} {limit removed : Nat} {handed : Bool} {lane : Lane}

/-- Packets in flight may get lost. -/
theorem Lane.Sound.lose (sound : lane.Sound ample steady limit removed handed)
    {out back : List Packet} (lost : out.Sublist lane.out) (peerLost : back.Sublist lane.back) :
    { lane with out, back }.Sound ample steady limit removed handed where
  regular := sound.regular
  phase := sound.phase.lose lost peerLost
  books := sound.books
  small := sound.small
  room := sound.room
  cut := fun packet member => sound.cut packet (lost.subset member)
  agreed := sound.agreed
  limit_eq := sound.limit_eq
  told := fun packet member => sound.told packet (peerLost.subset member)
  version := sound.version
  accepts := sound.accepts

/-- When the streams start over, it is forgotten whether the next datagram was handed over. -/
theorem Lane.Sound.forget (sound : lane.Sound ample steady limit removed handed) {later : Bool}
    (forgets : later = handed ∨ ¬ steady ∧ later = false) :
    ∃ taken, Ledger steady lane.accepted removed later taken ∧
      lane.delivered = fitting lane.receiver.maxDatagram taken := by
  obtain ⟨taken, ledger, delivery⟩ := sound.books
  exact ⟨taken, ledger.forget forgets, delivery⟩

section sender

variable {session : Session} {out back : List Packet} {accepted delivered : List Bytes}
  {receiver : Profile}

theorem Lane.Sound.submit {after : Session} {datagram : Bytes}
    (sound : Lane.Sound ⟨session.profile, out, accepted, receiver, back, delivered⟩ ample steady
      limit removed handed)
    (submitted : session.submit datagram = .ok after) :
    Lane.Sound ⟨after.profile, out, accepted ++ [datagram], receiver, back, delivered⟩ ample steady
      limit removed handed := by
  obtain ⟨nonempty, short, sender, queued, profile⟩ := Session.of_submit submitted
  obtain ⟨regular, cursor⟩ := Sender.regular_enqueue sound.regular nonempty queued
  obtain ⟨taken, ledger, delivery⟩ := sound.books
  have longer : (accepted ++ [datagram]).drop removed = accepted.drop removed ++ [datagram] :=
    List.drop_append_of_le_length ledger.removed_le
  rw [profile]
  refine ⟨?_, ?_, ⟨taken, ledger.accept datagram, delivery⟩, ?_, sound.room, sound.cut,
    sound.agreed, sound.limit_eq, sound.told, sound.version, sound.accepts⟩
  · simp only [longer]
    exact regular
  · have phase := sound.phase
    simp only [Lane.front, longer] at phase ⊢
    rw [cursor]
    cases queue : accepted.drop removed with
    | nil =>
      rw [queue] at phase
      refine phase.mono (fun tracking => tracking.enqueue datagram) ?_ (fun quiet => quiet)
      exact fun early fragment carried => absurd rfl (early fragment carried).nonempty
    | cons front rest =>
      rw [queue] at phase
      exact phase
  · intro enough other member
    rcases List.mem_append.mp member with old | new
    · exact sound.small enough other old
    · rw [List.mem_singleton.mp new]
      exact Nat.le_trans short (sound.room enough)

theorem Lane.Sound.send {packet : Packet} {profile : Profile}
    (sound : Lane.Sound ⟨session.profile, out, accepted, receiver, back, delivered⟩ ample steady
      limit removed handed)
    (sends : session.Sends packet profile) :
    Lane.Sound ⟨profile, out ++ [packet], accepted, receiver, back, delivered⟩ ample steady limit
      removed handed := by
  obtain ⟨regular, phase, books, small, room, cut, agreed, limit_eq, told, version, accepts⟩ :=
    sound
  have within : ∀ {sent : Packet}, sent.Cut limit → ∀ packet ∈ out ++ [sent], packet.Cut limit := by
    intro sent short packet member
    rcases List.mem_append.mp member with old | new
    · exact cut packet old
    · rw [List.mem_singleton.mp new]
      exact short
  cases sends with
  | reset stage =>
    have down : session.handshake.stage.isUp = false := by rw [stage]; rfl
    have other : ¬ (session.handshake.packet .reset).IsData := fun data => by cases data
    refine ⟨regular, ?_, books, small, room, within ⟨rfl, fun data => absurd data other⟩,
      (fun up => by cases up), limit_eq, told, version, accepts⟩
    refine phase.stayDown down rfl ?_
    exact List.forall_mem_singleton.mpr rfl
  | answer stage =>
    have up : session.handshake.stage.isUp = true := by rw [stage]; rfl
    have other : ¬ (session.handshake.packet .resetAck).IsData := fun data => by cases data
    have silent := Packet.fragment?_of_not_data other
    refine ⟨regular, ?_, books, small, room, within ⟨rfl, fun data => absurd data other⟩,
      fun _ => agreed up, limit_eq, told, version, accepts⟩
    refine phase.send up (fun reset => by cases reset) ?_ ?_ ?_
    · intro already
      cases stage.symm.trans already
    · intro _ fragment carried
      cases silent.symm.trans carried
    · intro peer back handed inStep
      refine datagramStreams_send inStep fun fragment carried => ?_
      cases silent.symm.trans carried
  | @data emission sender stage sending =>
    have up : session.handshake.stage.isUp = true := by rw [stage]; rfl
    have agreement : session.payloadLimit = limit := agreed up
    rw [agreement] at sending
    obtain ⟨data, _⟩ := Sender.kind_of_next sending
    obtain ⟨regular, cursor, yields⟩ := Sender.regular_next regular sending
    have short : emission.packet.Cut limit :=
      ⟨Sender.declared_of_next sending, fun _ => Cursor.length_payload_le yields⟩
    rw [← Packet.IsData.fragment?_eq data] at yields
    refine ⟨regular, ?_, books, small, room, within short, fun _ => agreed up, limit_eq, told,
      version, accepts⟩
    have sent := phase.send up (Packet.IsData.not_isReset data) (fun _ => data)
      (fun fresh fragment carried => fresh ▸ yields fragment carried)
      (fun inStep => datagramStreams_send inStep yields)
    show Phase _ steady ⟨session.handshake.stage, sender.course.cursor, _⟩ _ handed
    rw [stage, cursor]
    exact sent

theorem Lane.Sound.retry
    (sound : Lane.Sound ⟨session.profile, out, accepted, receiver, back, delivered⟩ ample steady
      limit removed handed)
    (awaiting : session.handshake.stage = .awaiting) :
    Lane.Sound ⟨{ session.profile with stage := .announcing }, out, accepted, receiver, back,
      delivered⟩ ample steady limit removed handed := by
  have down : session.handshake.stage.isUp = false := by rw [awaiting]; rfl
  have phase : Phase _ steady ⟨.announcing, session.profile.course.cursor, out ++ []⟩ _ handed :=
    sound.phase.stayDown down rfl (fun _ member => by cases member)
  rw [List.append_nil] at phase
  exact { sound with
    phase := phase
    agreed := fun up => by cases up }

/-- The sending end starts over, and the handshake goes on from there. -/
theorem Lane.Sound.restart
    (sound : Lane.Sound ⟨session.profile, out, accepted, receiver, back, delivered⟩ ample steady
      limit removed handed)
    {stage : Handshake.Stage} {payloadLimit : Nat} {later : Bool}
    (agreed : stage.isUp = true → payloadLimit = limit)
    (forgets : later = handed ∨ ¬ steady ∧ later = false)
    (phase : Phase (datagramStreams receiver.maxDatagram limit ((accepted.drop removed).headD []))
      steady ⟨stage, .start, out⟩ ⟨receiver.stage, receiver.uptake, back⟩ later) :
    Lane.Sound
      ⟨{ session.profile.restart stage with payloadLimit }, out, accepted, receiver, back, delivered⟩
      ample steady limit removed later where
  regular := (Sender.regular_rewind sound.regular).1
  phase := phase
  books := sound.forget forgets
  small := sound.small
  room := sound.room
  cut := sound.cut
  agreed := agreed
  limit_eq := sound.limit_eq
  told := sound.told
  version := sound.version
  accepts := sound.accepts

theorem Lane.Sound.ask
    (sound : Lane.Sound ⟨session.profile, out, accepted, receiver, back, delivered⟩ ample steady
      limit removed handed)
    (settled : session.handshake.stage.isUp = true → ¬ steady ∧ Settled receiver.stage out back) :
    ∃ later, Lane.Sound ⟨session.profile.restart .announcing, out, accepted, receiver, back,
      delivered⟩ ample steady limit removed later := by
  have phase := sound.phase
  cases up : session.handshake.stage.isUp with
  | true =>
    obtain ⟨restless, quiet⟩ := settled up
    obtain ⟨later, forgets, phase⟩ := phase.ask restless up quiet
    exact ⟨later, sound.restart (fun up => by cases up) forgets phase⟩
  | false =>
    have fresh := phase.start_of_down up
    have phase : Phase _ steady ⟨.announcing, session.profile.course.cursor, out ++ []⟩ _ handed :=
      phase.stayDown up rfl (fun _ member => by cases member)
    rw [List.append_nil, show session.profile.course.cursor = .start from fresh] at phase
    exact ⟨handed, sound.restart (fun up => by cases up) (Or.inl rfl) phase⟩

/-- The parameters that the receiving end tells fix the payload limit. -/
theorem Lane.Sound.limit_of_told {packet : Packet} {rest : List Packet} {peer : LinkParameters}
    {more : Bytes}
    (sound : Lane.Sound ⟨session.profile, out, accepted, receiver, packet :: rest, delivered⟩
      ample steady limit removed handed)
    (other : ¬ packet.IsData)
    (decoded : LinkParameters.decode packet.payload = .ok (peer, more)) :
    min session.settings.payloadLimit peer.rxMtu.toNat = limit := by
  have told : packet.payload = receiver.here.encode :=
    sound.told packet (List.mem_cons_self ..) other
  have same := LinkParameters.decode_encode receiver.here []
  rw [List.append_nil, ← told, decoded] at same
  cases same
  exact sound.limit_eq.symm

/-- The acknowledgement in a data packet counts, or the packet changes nothing. The lane does not
depend on what the packet does to the receiver of this end. -/
theorem Lane.Sound.acknowledge {packet : Packet} {rest : List Packet} {uptake : Uptake}
    (sound : Lane.Sound ⟨session.profile, out, accepted, receiver, packet :: rest, delivered⟩
      ample steady limit removed handed)
    (data : packet.IsData) (up : session.handshake.stage.isUp = true) :
    ∃ removed handed, Lane.Sound
      ⟨{ session.profile with
          course := (session.sender.acknowledge packet.header.ack).2.course, uptake },
        out, accepted, receiver, rest, delivered⟩ ample steady limit removed handed := by
  have without := sound.lose (List.Sublist.refl out) (List.sublist_cons_self packet rest)
  cases acknowledged : session.sender.acknowledge packet.header.ack with
  | mk coverage after =>
    rcases Sender.course_acknowledge sound.regular acknowledged with same |
      ⟨covers, waiting, moved⟩
    · refine ⟨removed, handed, ?_⟩
      exact { without with
        regular := by rw [same]; exact without.regular
        phase := by rw [same]; exact without.phase }
    · by_cases more : session.sender.acked + limit < ((accepted.drop removed).headD []).length
      · rw [if_pos more] at moved
        obtain ⟨later, ⟨before, rfl⟩, phase⟩ := sound.phase.takeData up data
          fun inStep => datagramStreams_continue inStep data covers more
        refine ⟨removed, false, ?_⟩
        exact { without with
          regular := moved.1
          phase := by rw [moved.2]; exact phase
          books := before ▸ sound.books }
      · rw [if_neg more, List.tail_drop] at moved
        obtain ⟨later, ⟨before, rfl⟩, phase⟩ := sound.phase.takeData up data
          fun inStep => datagramStreams_complete inStep data covers more _
        obtain ⟨taken, ledger, delivery⟩ := sound.books
        rw [before] at ledger
        refine ⟨removed + 1, false, ?_⟩
        exact { without with
          regular := moved.1
          phase := by rw [moved.2]; exact phase
          books := ⟨taken, ledger.remove, delivery⟩ }

/-- A packet of the receiving end arrives at the sending end. -/
theorem Lane.Sound.take {packet : Packet} {rest : List Packet} {profile : Profile}
    {datagrams : List Bytes}
    (sound : Lane.Sound ⟨session.profile, out, accepted, receiver, packet :: rest, delivered⟩
      ample steady limit removed handed)
    (takes : session.Takes packet profile datagrams) :
    ∃ removed handed, Lane.Sound ⟨profile, out, accepted, receiver, rest, delivered⟩ ample steady
      limit removed handed := by
  have without := sound.lose (List.Sublist.refl out) (List.sublist_cons_self packet rest)
  cases takes with
  | ignored => exact ⟨removed, handed, without⟩
  | reset kind decoded =>
    obtain ⟨later, forgets, phase⟩ := sound.phase.takeReset kind
    have other : ¬ packet.IsData := fun data => data.not_isReset kind
    exact ⟨removed, later, without.restart (fun _ => sound.limit_of_told other decoded) forgets
      phase⟩
  | answer kind decoded down =>
    have other : ¬ packet.IsData := fun data => by cases data.symm.trans kind
    refine ⟨removed, handed, ?_⟩
    exact { without with
      phase := sound.phase.takeAnswer down kind
      agreed := fun _ => sound.limit_of_told other decoded }
  | data kind up => exact sound.acknowledge kind up

end sender

section receiver

variable {session : Session} {out back : List Packet} {accepted delivered : List Bytes}
  {sender : Profile}

theorem Lane.Sound.peerSend {packet : Packet} {profile : Profile}
    (sound : Lane.Sound ⟨sender, out, accepted, session.profile, back, delivered⟩ ample steady
      limit removed handed)
    (sends : session.Sends packet profile) :
    Lane.Sound ⟨sender, out, accepted, profile, back ++ [packet], delivered⟩ ample steady limit
      removed handed := by
  obtain ⟨regular, phase, books, small, room, cut, agreed, limit_eq, told, version, accepts⟩ :=
    sound
  have tell : ∀ {sent : Packet}, (¬ sent.IsData → sent.payload = session.handshake.here.encode) →
      ∀ packet ∈ back ++ [sent], ¬ packet.IsData →
        packet.payload = session.handshake.here.encode := by
    intro sent tells packet member other
    rcases List.mem_append.mp member with old | new
    · exact told packet old other
    · rw [List.mem_singleton.mp new] at other ⊢
      exact tells other
  cases sends with
  | reset stage =>
    have down : session.handshake.stage.isUp = false := by rw [stage]; rfl
    refine ⟨regular, ?_, books, small, room, cut, agreed, limit_eq, tell fun _ => rfl,
      version, accepts⟩
    have reset : ∀ packet ∈ [session.handshake.packet .reset], packet.IsReset :=
      List.forall_mem_singleton.mpr rfl
    exact (phase.mirror.stayDown down rfl reset).mirror
  | answer stage =>
    have up : session.handshake.stage.isUp = true := by rw [stage]; rfl
    have other : ¬ (session.handshake.packet .resetAck).IsData := fun data => by cases data
    have silent := Packet.ack?_of_not_data other
    refine ⟨regular, ?_, books, small, room, cut, agreed, limit_eq, tell fun _ => rfl,
      version, accepts⟩
    refine (phase.mirror.send up (fun reset => by cases reset) ?_ ?_ ?_).mirror
    · intro already
      cases stage.symm.trans already
    · intro _ ack said
      cases silent.symm.trans said
    · intro peer out handed inStep
      refine datagramStreams_reply inStep fun ack said => ?_
      cases silent.symm.trans said
  | @data emission after stage sending =>
    have up : session.handshake.stage.isUp = true := by rw [stage]; rfl
    obtain ⟨data, ack⟩ := Sender.kind_of_next sending
    have current : ∀ number, emission.packet.ack? = some number →
        number = session.receiver.uptake.expected := by
      intro number said
      rw [Packet.IsData.ack?_eq data, ack] at said
      cases said
      rfl
    refine ⟨regular, ?_, books, small, room, cut, agreed, limit_eq,
      tell fun other => absurd data other, version, accepts⟩
    have sent := phase.mirror.send up (Packet.IsData.not_isReset data) (fun _ => data)
      (fun fresh number said => (current number said).trans (congrArg Uptake.expected fresh))
      (fun inStep => datagramStreams_reply inStep current)
    show Phase _ steady _ ⟨session.handshake.stage, session.profile.uptake, _⟩ handed
    rw [stage]
    exact sent.mirror

theorem Lane.Sound.peerRetry
    (sound : Lane.Sound ⟨sender, out, accepted, session.profile, back, delivered⟩ ample steady
      limit removed handed)
    (awaiting : session.handshake.stage = .awaiting) :
    Lane.Sound ⟨sender, out, accepted, { session.profile with stage := .announcing }, back,
      delivered⟩ ample steady limit removed handed := by
  have down : session.handshake.stage.isUp = false := by rw [awaiting]; rfl
  have phase : Phase _ steady ⟨.announcing, session.profile.uptake, back ++ []⟩ _ handed :=
    sound.phase.mirror.stayDown down rfl (fun _ member => by cases member)
  rw [List.append_nil] at phase
  exact { sound with phase := phase.mirror }

/-- The receiving end starts over, and the handshake goes on from there. -/
theorem Lane.Sound.peerRestart
    (sound : Lane.Sound ⟨sender, out, accepted, session.profile, back, delivered⟩ ample steady
      limit removed handed)
    {stage : Handshake.Stage} {payloadLimit : Nat} {later : Bool}
    (forgets : later = handed ∨ ¬ steady ∧ later = false)
    (phase : Phase (datagramStreams session.receiver.maxDatagram limit
        ((accepted.drop removed).headD [])).mirror steady
      ⟨stage, .start, back⟩ ⟨sender.stage, sender.course.cursor, out⟩ later) :
    Lane.Sound
      ⟨sender, out, accepted, { session.profile.restart stage with payloadLimit }, back, delivered⟩
      ample steady limit removed later where
  regular := sound.regular
  phase := phase.mirror
  books := sound.forget forgets
  small := sound.small
  room := sound.room
  cut := sound.cut
  agreed := sound.agreed
  limit_eq := sound.limit_eq
  told := sound.told
  version := sound.version
  accepts := sound.accepts

theorem Lane.Sound.peerAsk
    (sound : Lane.Sound ⟨sender, out, accepted, session.profile, back, delivered⟩ ample steady
      limit removed handed)
    (settled : session.handshake.stage.isUp = true → ¬ steady ∧ Settled sender.stage back out) :
    ∃ later, Lane.Sound ⟨sender, out, accepted, session.profile.restart .announcing, back,
      delivered⟩ ample steady limit removed later := by
  have phase := sound.phase.mirror
  cases up : session.handshake.stage.isUp with
  | true =>
    obtain ⟨restless, quiet⟩ := settled up
    obtain ⟨later, forgets, phase⟩ := phase.ask restless up quiet
    exact ⟨later, sound.peerRestart forgets phase⟩
  | false =>
    have fresh := phase.start_of_down up
    have phase : Phase _ steady ⟨.announcing, session.profile.uptake, back ++ []⟩ _ handed :=
      phase.stayDown up rfl (fun _ member => by cases member)
    rw [List.append_nil, show session.profile.uptake = .start from fresh] at phase
    exact ⟨handed, sound.peerRestart (Or.inl rfl) phase⟩

/-- A packet of the sending end arrives at the receiving end. -/
theorem Lane.Sound.peerTake {packet : Packet} {rest : List Packet} {profile : Profile}
    {datagrams : List Bytes}
    (sound : Lane.Sound ⟨sender, packet :: rest, accepted, session.profile, back, delivered⟩
      ample steady limit removed handed)
    (takes : session.Takes packet profile datagrams) :
    ∃ later, Lane.Sound ⟨sender, rest, accepted, profile, back, delivered ++ datagrams⟩ ample steady
      limit removed later := by
  have without := sound.lose (List.sublist_cons_self packet rest) (List.Sublist.refl back)
  have phase := sound.phase.mirror
  cases takes with
  | ignored => exact ⟨handed, (List.append_nil delivered).symm ▸ without⟩
  | reset kind decoded =>
    obtain ⟨later, forgets, phase⟩ := phase.takeReset kind
    rw [List.append_nil]
    exact ⟨later, without.peerRestart forgets phase⟩
  | answer kind decoded down =>
    rw [List.append_nil]
    refine ⟨handed, ?_⟩
    exact { without with phase := (phase.takeAnswer down kind).mirror }
  | data kind up =>
    let streams :=
      datagramStreams session.receiver.maxDatagram limit ((accepted.drop removed).headD [])
    have arrival : ∀ {out peer}, streams.mirror.InStep session.profile.uptake out peer
        (packet :: rest) handed → ∃ later, _ ∧ streams.mirror.InStep
          (session.receiver.takeIn packet).2.uptake out peer rest later :=
      fun inStep => datagramStreams_takeIn inStep kind
    obtain ⟨later, hands, phase⟩ := phase.takeData up kind arrival
    obtain ⟨taken, ledger, delivery⟩ := sound.books
    have before : delivered = fitting session.receiver.maxDatagram taken := delivery
    have books : ∃ taken, Ledger steady accepted removed later taken ∧
        delivered ++ (session.receiver.takeIn packet).1 =
          fitting session.receiver.maxDatagram taken := by
      rcases hands with ⟨one, nonempty, rfl, rfl⟩ | ⟨nothing, rfl⟩
      · refine ⟨_, ledger.hand (Lane.front_eq nonempty), ?_⟩
        rw [one, before]
        exact (List.filter_append ..).symm
      · rw [nothing, List.append_nil]
        exact ⟨taken, ledger, delivery⟩
    refine ⟨later, ?_⟩
    exact { without with
      phase := phase.mirror
      books := books }

end receiver

end DatagramLink
