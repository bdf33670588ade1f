import DatagramLink.Proofs.Line.Rendezvous

namespace DatagramLink

/-- A packet leaves only when nothing is in flight. -/
def Line.Single (line : Line) (_ : Side) (move : Terminal.Move) : Prop :=
  move = .depart → line.a.inFlight = [] ∧ line.b.inFlight = []

instance (line : Line) (side : Side) (move : Terminal.Move) :
    Decidable (line.Single side move) :=
  inferInstanceAs (Decidable (_ → _))

/-- The end without what is in flight from it. -/
def Terminal.still (terminal : Terminal) : Terminal := { terminal with inFlight := [] }

/-- Two ends that get along even if all that is in flight is lost. -/
structure Terminal.Calm (here : Terminal) (steady : Prop) (there : Terminal) : Prop where
  accord : here.session.profile.Accord there.session.profile
  lane : ∃ limit removed handed,
    (Line.mk here.still there.still).lane.Coherent steady limit removed handed
  back : ∃ limit removed handed,
    (Line.mk there.still here.still).lane.Coherent steady limit removed handed

section calm

variable {here there other after : Terminal} {steady : Prop} {packet : Packet} {session : Session}

theorem Terminal.Calm.symm (calm : here.Calm steady there) : there.Calm steady here :=
  ⟨calm.accord.symm, calm.back, calm.lane⟩

theorem Terminal.Calm.drop (calm : here.Calm steady there) (flight : List Packet) :
    Terminal.Calm { here with inFlight := flight } steady there :=
  ⟨calm.accord, calm.lane, calm.back⟩

/-- A move that leaves the line alone does not depend on what is in flight. -/
theorem Terminal.Does.still {hereAfter thereAfter : Terminal} {move : Terminal.Move}
    (does : here.Does there move hereAfter thereAfter) (alone : move.isLocal = true)
    (other : Terminal) :
    hereAfter.inFlight = here.inFlight ∧ thereAfter = there ∧
      here.still.Does other move hereAfter.still other := by
  cases does with
  | quiet same => exact ⟨rfl, rfl, .quiet same⟩
  | submit submitted => exact ⟨rfl, rfl, .submit submitted⟩
  | send sends => cases alone
  | retry awaiting again => exact ⟨rfl, rfl, .retry awaiting again⟩
  | ask asked => exact ⟨rfl, rfl, .ask asked⟩
  | lose => cases alone
  | arrive same arrived taken => cases alone

theorem Terminal.Calm.act {hereAfter thereAfter : Terminal} {move : Terminal.Move}
    (calm : here.Calm False other) (does : here.Does there move hereAfter thereAfter)
    (alone : move.isLocal = true) : hereAfter.Calm False other := by
  obtain ⟨_, _, still⟩ := does.still alone other.still
  have settled : move = .askReset → here.session.handshake.stage.isUp = true →
      ¬ False ∧ Settled other.session.handshake.stage [] [] := by
    intro _ up
    refine ⟨not_false, fun packet member => absurd member List.not_mem_nil,
      fun packet member => absurd member List.not_mem_nil, fun waiting => ?_⟩
    exact absurd (calm.accord.peerAnswering waiting) (ne_false_of_eq_true up)
  obtain ⟨limit, _, _, lane⟩ := calm.lane
  obtain ⟨backLimit, backRemoved, _, back⟩ := calm.back
  obtain ⟨removed, handed, laneAfter⟩ := Lane.Sound.step lane still settled
  obtain ⟨backHanded, backAfter⟩ := Lane.Sound.peerStep back still settled
  have accord : here.still.session.profile.Accord other.session.profile := calm.accord
  obtain ⟨_, _, accordAfter⟩ := still.accord alone accord
  exact ⟨accordAfter, ⟨limit, removed, handed, laneAfter⟩,
    ⟨backLimit, backRemoved, backHanded, backAfter⟩⟩

/-- A packet leaves, and it is lost. -/
theorem Terminal.Calm.lost (calm : here.Calm steady there)
    (sends : here.session.Sends packet session.profile) (flight : List Packet) :
    Terminal.Calm { here with session, inFlight := flight } steady there := by
  obtain ⟨limit, removed, handed, lane⟩ := calm.lane
  obtain ⟨backLimit, backRemoved, backHanded, back⟩ := calm.back
  have sent := (Lane.Sound.send lane sends).lose (List.nil_sublist _) (List.Sublist.refl [])
  have received := (Lane.Sound.peerSend back sends).lose (List.Sublist.refl []) (List.nil_sublist _)
  exact ⟨calm.accord.send sends, ⟨limit, removed, handed, sent⟩,
    ⟨backLimit, backRemoved, backHanded, received⟩⟩

/-- This packet arrives. What was noted before that, errors for instance, does not count. -/
def Terminal.Gets (terminal : Terminal) (packet : Packet) (after : Terminal) : Prop :=
  ∃ (before : Session) (datagrams : List Bytes), before.profile = terminal.session.profile ∧
    before.Takes packet after.session.profile datagrams ∧
    after.accepted = terminal.accepted ∧ after.delivered = terminal.delivered ++ datagrams

/-- A packet leaves, and it arrives at once. -/
theorem Terminal.Calm.passed (calm : here.Calm steady there)
    (sends : here.session.Sends packet session.profile) (gets : there.Gets packet after)
    (flight : List Packet) :
    Terminal.Calm { here with session, inFlight := flight } steady after := by
  obtain ⟨before, datagrams, same, takes, accepted, delivered⟩ := gets
  obtain ⟨accord, ⟨limit, removed, handed, lane⟩, backLimit, _, _, back⟩ := calm
  have sent := Lane.Sound.send lane sends
  have answered := Lane.Sound.peerSend back sends
  simp only [Terminal.still, ← same] at accord sent answered
  obtain ⟨laneHanded, laneAfter⟩ := Lane.Sound.peerTake sent takes
  obtain ⟨backRemoved, backHanded, backAfter⟩ := Lane.Sound.take answered takes
  refine ⟨accord.pass sends takes, ⟨limit, removed, laneHanded, ?_⟩,
    ⟨backLimit, backRemoved, backHanded, ?_⟩⟩
  · simp only [Line.lane, Terminal.still, delivered]
    exact laneAfter
  · simp only [Line.lane, Terminal.still, accepted]
    exact backAfter

/-- A packet of this end is on its way. It left when the two ends were calm, and whatever the other
end has done since then, it could have done before that. -/
def Terminal.Awaits (here there : Terminal) (packet : Packet) : Prop :=
  ∃ base : Terminal, base.Calm False there ∧ ∀ other, base.Calm False other →
    here.Calm False other ∧ ∀ after, other.Gets packet after → here.Calm False after

theorem Terminal.Awaits.calm (awaits : here.Awaits there packet) : here.Calm False there := by
  obtain ⟨base, calm, follows⟩ := awaits
  exact (follows there calm).1

theorem Terminal.Awaits.arrive (awaits : here.Awaits there packet)
    (gets : there.Gets packet after) : here.Calm False after := by
  obtain ⟨base, calm, follows⟩ := awaits
  exact (follows there calm).2 after gets

/-- How far the line between two ends is. -/
inductive Terminal.Between (here there : Terminal) : Prop
  | empty (nothing : here.inFlight = []) (peerNothing : there.inFlight = [])
      (calm : here.Calm False there) : here.Between there
  | sent {packet : Packet} (one : here.inFlight = [packet]) (peerNothing : there.inFlight = [])
      (awaits : here.Awaits there packet) : here.Between there
  | coming {packet : Packet} (nothing : here.inFlight = []) (one : there.inFlight = [packet])
      (awaits : there.Awaits here packet) : here.Between there

theorem Terminal.Between.symm (between : here.Between there) : there.Between here := by
  cases between with
  | empty nothing peerNothing calm => exact .empty peerNothing nothing calm.symm
  | sent one peerNothing awaits => exact .coming peerNothing one awaits
  | coming nothing one awaits => exact .sent one nothing awaits

theorem Terminal.Between.calm (between : here.Between there) : here.Calm False there := by
  cases between with
  | empty nothing peerNothing calm => exact calm
  | sent one peerNothing awaits => exact awaits.calm
  | coming nothing one awaits => exact awaits.calm.symm

end calm

section steps

variable {here there hereAfter thereAfter : Terminal} {move : Terminal.Move}

theorem Terminal.Between.act (between : here.Between there)
    (does : here.Does there move hereAfter thereAfter) (alone : move.isLocal = true) :
    hereAfter.Between thereAfter := by
  obtain ⟨flight, rfl, _⟩ := does.still alone there
  cases between with
  | empty nothing peerNothing calm => exact .empty (flight.trans nothing) peerNothing (calm.act does alone)
  | sent one peerNothing awaits =>
    obtain ⟨base, calm, follows⟩ := awaits
    refine .sent (flight.trans one) peerNothing ⟨base, calm, fun other calm => ?_⟩
    obtain ⟨now, later⟩ := follows other calm
    exact ⟨now.act does alone, fun after gets => (later after gets).act does alone⟩
  | coming nothing one awaits =>
    obtain ⟨base, calm, follows⟩ := awaits
    exact .coming (flight.trans nothing) one ⟨base, (calm.symm.act does alone).symm, follows⟩

/-- Without a packet in them, the bytes that arrive change nothing that counts. -/
theorem Terminal.Between.quiet {session : Session} (between : here.Between there)
    (same : session.profile = here.session.profile) :
    Terminal.Between { here with session } there :=
  between.act (show here.Does there .closeIntake _ there from .quiet same) rfl

theorem Terminal.Between.arrive {fed session : Session} {events : List Framer.Event}
    {left : List Packet} (between : here.Between there)
    (same : fed.profile = here.session.profile)
    (arrived : stillInFlight? (events.filterMap Framer.Event.packet?) there.inFlight = some left)
    (taken : session.profile = (fed.takeAll events).1.profile) :
    Terminal.Between
      { here with session, delivered := here.delivered ++ (fed.takeAll events).2.datagrams }
      { there with inFlight := left } := by
  have silent (quiet : events.filterMap Framer.Event.packet? = []) (kept : left = there.inFlight) :
      Terminal.Between
        { here with session, delivered := here.delivered ++ (fed.takeAll events).2.datagrams }
        { there with inFlight := left } := by
    rw [Session.datagrams_takeAll_of_nil quiet, List.append_nil, kept]
    exact between.quiet (taken.trans ((Session.profile_takeAll_of_nil quiet).trans same))
  cases between with
  | empty nothing peerNothing calm =>
    rw [peerNothing] at arrived
    obtain ⟨quiet, rfl⟩ := of_stillInFlight?_nil arrived
    exact silent quiet peerNothing.symm
  | sent one peerNothing awaits =>
    rw [peerNothing] at arrived
    obtain ⟨quiet, rfl⟩ := of_stillInFlight?_nil arrived
    exact silent quiet peerNothing.symm
  | coming nothing one awaits =>
    rw [one] at arrived
    rcases of_stillInFlight?_singleton arrived with ⟨quiet, rfl⟩ | ⟨single, rfl⟩
    · exact silent quiet one.symm
    · obtain ⟨before, start, takes⟩ := @Session.takes_of_singleton fed events _ single
      rw [← taken] at takes
      have gets : here.Gets _
          { here with session, delivered := here.delivered ++ (fed.takeAll events).2.datagrams } :=
        ⟨before, _, start.trans same, takes, rfl, rfl⟩
      exact .empty nothing rfl ((awaits.arrive gets).drop []).symm

/-- The step lemma. -/
theorem Terminal.Between.step (between : here.Between there)
    (does : here.Does there move hereAfter thereAfter)
    (single : move = .depart → here.inFlight = [] ∧ there.inFlight = []) :
    hereAfter.Between thereAfter := by
  cases does with
  | quiet same => exact between.quiet same
  | @submit datagram session submitted =>
    exact between.act (show here.Does there (.submit datagram) _ there from .submit submitted) rfl
  | @send packet session sends =>
    obtain ⟨nothing, peerNothing⟩ := single rfl
    have one : here.inFlight ++ [packet] = [packet] := by rw [nothing, List.nil_append]
    refine .sent one peerNothing ⟨here, between.calm, fun other calm => ?_⟩
    exact ⟨calm.lost sends _, fun after gets => calm.passed sends gets _⟩
  | @retry countdown session awaiting again =>
    exact between.act
      (show here.Does there (.elapsed countdown) _ there from .retry awaiting again) rfl
  | ask asked => exact between.act (show here.Does there .askReset _ there from .ask asked) rfl
  | lose =>
    cases between with
    | empty nothing peerNothing calm => exact .empty (by rw [nothing]; rfl) peerNothing (calm.drop _)
    | sent one peerNothing awaits => exact .empty (by rw [one]; rfl) peerNothing (awaits.calm.drop _)
    | coming nothing one awaits =>
      obtain ⟨base, calm, follows⟩ := awaits
      exact .coming (by rw [nothing]; rfl) one ⟨base, (calm.symm.drop _).symm, follows⟩
  | arrive same arrived taken => exact between.arrive same arrived taken

end steps

section runs

variable {line after : Line}

theorem Line.between_iff (line : Line) (side : Side) :
    line.a.Between line.b ↔ (line.get side).Between (line.get side.other) := by
  cases side with
  | a => exact Iff.rfl
  | b => exact ⟨fun between => between.symm, fun between => between.symm⟩

/-- The run lemma. -/
theorem Line.Reaches.between {start : Line} (run : Line.Reaches Line.Single start line)
    (between : start.a.Between start.b) : line.a.Between line.b := by
  induction run with
  | start => exact between
  | @next line after side move _ single stepped ih =>
    have before := (line.between_iff side).mp ih
    refine (after.between_iff side).mpr (before.step (Line.does stepped) ?_)
    intro departs
    obtain ⟨nothing, peerNothing⟩ := single departs
    cases side
    · exact ⟨nothing, peerNothing⟩
    · exact ⟨peerNothing, nothing⟩

theorem Session.atStart_ofValid (settings : Settings) (valid : settings.check = .ok ()) :
    AtStart (Session.ofValid settings valid).profile.course
      (Session.ofValid settings valid).profile.uptake := by
  obtain ⟨_, _, _, uptake, regular, cursor⟩ := Session.profile_ofValid settings valid 0
  have outstanding : (Session.ofValid settings valid).profile.course.outstanding = none := by
    cases held : (Session.ofValid settings valid).profile.course.outstanding with
    | none => rfl
    | some extent =>
      obtain ⟨seq, length, flags⟩ := extent
      exact absurd rfl (regular.busy seq length flags held).1
  have nextSeq := congrArg Cursor.seq cursor
  rw [Course.cursor, outstanding] at nextSeq
  exact ⟨nextSeq, outstanding, congrArg Uptake.expected uptake⟩

theorem Line.between_resting {settings : Side → Settings}
    (valid : ∀ side, (settings side).check = .ok ())
    (fits : ∀ side, (settings side).maxDatagram ≤ (settings side.other).maxDatagram) :
    (Line.resting (valid .a) (valid .b)).a.Between (Line.resting (valid .a) (valid .b)).b := by
  obtain ⟨limit, lane⟩ := @Line.coherent_resting False _ _ (valid .a) (valid .b) (fits .a)
  obtain ⟨backLimit, back⟩ := @Line.coherent_resting False _ _ (valid .b) (valid .a) (fits .b)
  obtain ⟨_, _, stage, _⟩ := Session.profile_ofValid _ (valid .a) 0
  obtain ⟨_, _, peerStage, _⟩ := Session.profile_ofValid _ (valid .b) 0
  have accord : (Session.ofValid _ (valid .a)).profile.Accord
      (Session.ofValid _ (valid .b)).profile := {
    fresh := fun _ => Session.atStart_ofValid _ (valid .a)
    peerFresh := fun _ => Session.atStart_ofValid _ (valid .b)
    answering := fun waiting => by cases stage.symm.trans waiting
    peerAnswering := fun waiting => by cases peerStage.symm.trans waiting
    agrees := fun up => by cases stage.symm.trans up }
  exact .empty rfl rfl ⟨accord, ⟨limit, 0, false, lane⟩, ⟨backLimit, 0, false, back⟩⟩

end runs

section afresh

variable {lane : Lane} {limit removed : Nat} {handed : Bool}

/-- While both ends are up and nothing is in flight, the books may be opened anew: what is queued
was accepted just now, and of that, only the front datagram may have been handed over. -/
theorem Lane.Coherent.afresh (coherent : lane.Coherent False limit removed handed)
    (up : lane.sender.stage.isUp = true) (peerUp : lane.receiver.stage.isUp = true) :
    ∃ opened, { lane with
        accepted := lane.accepted.drop removed
        delivered := opened }.Coherent True limit 0 handed ∧
      (opened = [] ∨ ∃ front rest, lane.accepted.drop removed = front :: rest ∧
        opened = [front] ∧ lane.delivered.getLast? = some front) := by
  have phase : Phase _ True _ _ handed := (coherent.phase.inStep up peerUp).2
  have ledger := coherent.ledger
  have small : ∀ datagram ∈ lane.accepted.drop removed,
      datagram.length ≤ lane.receiver.maxDatagram :=
    fun datagram member => coherent.small trivial datagram (List.mem_of_mem_drop member)
  have new : Ledger True (lane.accepted.drop removed) 0 false [] :=
    ⟨Nat.zero_le _, ⟨[], (fun _ member => by cases member), Nat.zero_le _, rfl, Or.inl ⟨rfl, rfl⟩⟩,
      fun _ => rfl⟩
  cases handed with
  | false =>
    refine ⟨[], ?_, Or.inl rfl⟩
    exact { coherent with
      phase := phase
      books := ⟨[], new, rfl⟩
      small := fun _ => small }
  | true =>
    have within : removed < lane.accepted.length := ledger.handed_le
    have next : lane.accepted[removed]? = some lane.accepted[removed] :=
      List.getElem?_eq_getElem within
    have queue := List.drop_eq_getElem_cons within
    have first : (lane.accepted.drop removed)[0]? = some lane.accepted[removed] := by
      rw [queue]
      rfl
    have fits : fitting lane.receiver.maxDatagram [lane.accepted[removed]] =
        [lane.accepted[removed]] :=
      fitting_of_le fun datagram member => small datagram (by
        rw [List.mem_singleton.mp member, queue]
        exact List.mem_cons_self ..)
    refine ⟨[lane.accepted[removed]], ?_, Or.inr ⟨_, _, queue, rfl, ledger.getLast?_eq next⟩⟩
    exact { coherent with
      phase := phase
      books := ⟨_, new.hand first, fits.symm⟩
      small := fun _ => small }

end afresh

end DatagramLink
