import DatagramLink.Proofs.Line.Flight
import DatagramLink.Proofs.Line.Moves
import DatagramLink.Proofs.Session.Acquaintance

namespace DatagramLink

theorem Side.eq_or_other (side either : Side) : side = either ∨ side.other = either := by
  cases side <;> cases either
  · exact Or.inl rfl
  · exact Or.inr rfl
  · exact Or.inr rfl
  · exact Or.inl rfl

theorem Side.forall_of {property : Side → Prop} (side : Side) (here : property side)
    (there : property side.other) (either : Side) : property either := by
  rcases side.eq_or_other either with rfl | rfl
  · exact here
  · exact there

section moves

variable {here there hereAfter thereAfter : Terminal} {move : Terminal.Move}

/-- A move of this end is something that is done to its session, or it leaves the session alone. -/
theorem Terminal.performs (stepped : here.step? there move = some (hereAfter, thereAfter)) :
    thereAfter.session = there.session ∧
      (hereAfter.session = here.session ∨
        ∃ input, here.session.perform input = .ok hereAfter.session ∧
          ∀ chunk, input = .receive chunk → move = .arrive chunk) := by
  cases move with
  | submit datagram =>
    cases stepped
    refine ⟨rfl, ?_⟩
    unfold Terminal.submit
    split
    · exact Or.inl rfl
    · rename_i submitted
      exact Or.inr ⟨.submit datagram, Session.perform_submit submitted,
        fun chunk other => by cases other⟩
  | reportError error =>
    cases stepped
    exact ⟨rfl, Or.inr ⟨.reportError error, rfl, fun chunk other => by cases other⟩⟩
  | closeIntake =>
    cases stepped
    exact ⟨rfl, Or.inr ⟨.closeIntake, rfl, fun chunk other => by cases other⟩⟩
  | depart =>
    obtain ⟨after, departed, same⟩ := Option.map_eq_some_iff.mp stepped
    cases same
    refine ⟨rfl, ?_⟩
    unfold Terminal.depart? at departed
    split at departed
    · cases departed
    · cases departed
      exact Or.inl rfl
    · rename_i departure next
      cases departed
      exact Or.inr ⟨.depart, Session.perform_depart next, fun chunk other => by cases other⟩
  | sendDone result =>
    cases stepped
    exact ⟨rfl, Or.inr ⟨.sendDone result, rfl, fun chunk other => by cases other⟩⟩
  | arrive bytes =>
    obtain ⟨left, _, same⟩ := Option.map_eq_some_iff.mp stepped
    cases same
    exact ⟨rfl, Or.inr ⟨.receive bytes, rfl, fun chunk same => by cases same; rfl⟩⟩
  | lose =>
    cases stepped
    exact ⟨rfl, Or.inl rfl⟩
  | elapsed countdown =>
    cases stepped
    exact ⟨rfl, Or.inr ⟨.elapsed countdown, rfl, fun chunk other => by cases other⟩⟩
  | askReset =>
    cases stepped
    exact ⟨rfl, Or.inr ⟨.askReset, rfl, fun chunk other => by cases other⟩⟩

theorem sublist_of_stillInFlight? {packets inFlight left : List Packet}
    (arrived : stillInFlight? packets inFlight = some left) : left.Sublist inFlight := by
  induction packets generalizing inFlight with
  | nil =>
    rw [stillInFlight?] at arrived
    cases arrived
    exact List.Sublist.refl _
  | cons packet others ih =>
    obtain ⟨later, sublist, arrived⟩ := of_stillInFlight?_cons arrived
    exact (ih arrived).trans ((List.sublist_cons_self packet later).trans sublist)

/-- The packets that arrive were in flight. -/
theorem Terminal.mem_of_arrive {bytes : Bytes}
    (stepped : here.step? there (.arrive bytes) = some (hereAfter, thereAfter)) {packet : Packet}
    (found : .packet packet ∈ (here.session.framer.feed bytes).2) : packet ∈ there.inFlight := by
  obtain ⟨left, arrived, _⟩ := Option.map_eq_some_iff.mp stepped
  have sublist := (isSome_stillInFlight?_iff _ _).mp (Option.isSome_iff_exists.mpr ⟨left, arrived⟩)
  exact sublist.subset (List.mem_filterMap.mpr ⟨.packet packet, found, rfl⟩)

/-- The handshake packets in flight from an end tell what it advertises. -/
def Terminal.Tells (terminal : Terminal) (here : LinkParameters) : Prop :=
  ∀ packet ∈ terminal.inFlight, ¬ packet.IsData → packet.payload = here.encode

theorem Terminal.Tells.step {parameters peerParameters : LinkParameters}
    (tells : here.Tells parameters) (peerTells : there.Tells peerParameters)
    (same : here.session.handshake.here = parameters)
    (stepped : here.step? there move = some (hereAfter, thereAfter)) :
    hereAfter.Tells parameters ∧ thereAfter.Tells peerParameters := by
  cases Terminal.does stepped with
  | quiet => exact ⟨tells, peerTells⟩
  | submit => exact ⟨tells, peerTells⟩
  | @send packet session sends =>
    refine ⟨fun sent member other => ?_, peerTells⟩
    rcases List.mem_append.mp member with old | new
    · exact tells sent old other
    · cases List.mem_singleton.mp new
      generalize session.profile = profile at sends
      cases sends with
      | reset stage => exact congrArg LinkParameters.encode same
      | answer stage => exact congrArg LinkParameters.encode same
      | data stage sending => exact absurd (Sender.kind_of_next sending).1 other
  | retry => exact ⟨tells, peerTells⟩
  | ask => exact ⟨tells, peerTells⟩
  | lose => exact ⟨fun packet member => tells packet (List.mem_of_mem_tail member), peerTells⟩
  | arrive _ arrived =>
    exact ⟨tells, fun packet member =>
      peerTells packet ((sublist_of_stillInFlight? arrived).subset member)⟩

end moves

/-- What holds of both ends, whatever the line does. -/
structure Line.Introduced (settings : Side → Settings) (parameters : Side → LinkParameters)
    (line : Line) : Prop where
  advertised : ∀ side, (settings side).parameters = .ok (parameters side)
  sane : ∀ side, (line.get side).session.Sane (settings side)
  acquainted : ∀ side, (line.get side).session.Acquainted (parameters side.other)
  tells : ∀ side, (line.get side).Tells (parameters side)

section steps

variable {settings : Side → Settings} {parameters : Side → LinkParameters} {line after : Line}
  {side : Side} {move : Terminal.Move}

theorem Line.Introduced.here (introduced : line.Introduced settings parameters) (side : Side) :
    (line.get side).session.handshake.here = parameters side := by
  have advertised := (introduced.sane side).profile.here.symm.trans (introduced.advertised side)
  exact Except.ok.inj advertised

theorem Line.Introduced.step (introduced : line.Introduced settings parameters)
    (stepped : line.step? side move = some after) : after.Introduced settings parameters := by
  have moved := Line.stepped_get stepped
  obtain ⟨peer, performed⟩ := Terminal.performs moved
  obtain ⟨tells, peerTells⟩ := (introduced.tells side).step (introduced.tells side.other)
    (introduced.here side) moved
  have sane : (after.get side).session.Sane (settings side) := by
    rcases performed with same | ⟨input, performed, _⟩
    · exact same ▸ introduced.sane side
    · exact (introduced.sane side).of_perform performed
  have acquainted : (after.get side).session.Acquainted (parameters side.other) := by
    rcases performed with same | ⟨input, performed, receives⟩
    · exact same ▸ introduced.acquainted side
    · refine (introduced.acquainted side).perform (fun chunk packet arrives found other => ?_)
        performed
      cases receives chunk arrives
      exact introduced.tells side.other packet (Terminal.mem_of_arrive moved found) other
  refine ⟨introduced.advertised, ?_, ?_, ?_⟩
  · intro either
    rcases side.eq_or_other either with rfl | rfl
    · exact sane
    · exact peer ▸ introduced.sane side.other
  · intro either
    rcases side.eq_or_other either with rfl | rfl
    · exact acquainted
    · exact peer ▸ introduced.acquainted side.other
  · intro either
    rcases side.eq_or_other either with rfl | rfl
    · exact tells
    · exact peerTells

/-- The run lemma: no rule for the line is needed. -/
theorem Line.Reaches.introduced {allowed : Line → Side → Terminal.Move → Prop} {start : Line}
    (run : Line.Reaches allowed start line) (introduced : start.Introduced settings parameters) :
    line.Introduced settings parameters := by
  induction run with
  | start => exact introduced
  | next _ _ stepped ih => exact ih.step stepped

theorem Line.introduced_resting (valid : ∀ side, (settings side).check = .ok ()) :
    ∃ parameters, (Line.resting (valid .a) (valid .b)).Introduced settings parameters := by
  have new : ∀ side, (Session.ofValid (settings side) (valid side)).Sane (settings side) :=
    fun side => Session.sane_ofValid (valid side)
  have down : ∀ side, (Session.ofValid (settings side) (valid side)).handshake.isUp = false :=
    fun side => Session.isUp_ofValid (settings side) (valid side)
  refine ⟨fun side => (Session.ofValid (settings side) (valid side)).handshake.here,
    fun side => (new side).profile.here, ?_, ?_, ?_⟩ <;> intro side
  · cases side
    · exact new .a
    · exact new .b
  · cases side
    · exact .of_down (down .a)
    · exact .of_down (down .b)
  · intro packet member
    cases side <;> cases member

theorem Line.introduced_started (valid : ∀ side, (settings side).check = .ok ()) :
    ∃ parameters, (Line.started (valid .a) (valid .b)).Introduced settings parameters := by
  obtain ⟨parameters, resting⟩ := Line.introduced_resting valid
  have first := resting.step (show Line.step? _ .a .askReset = _ from rfl)
  have second := first.step (show Line.step? _ .b .askReset = _ from rfl)
  exact ⟨parameters, second⟩

end steps

section awake

variable {session : Session} {packet : Packet}

theorem Session.Takes.awake {profile : Profile} {datagrams : List Bytes}
    (takes : session.Takes packet profile datagrams) (awake : session.profile.stage ≠ .dormant) :
    profile.stage ≠ .dormant := by
  cases takes with
  | ignored => exact awake
  | reset => exact nofun
  | answer => exact nofun
  | data => exact awake

theorem Session.Sends.awake {profile : Profile} (sends : session.Sends packet profile)
    (awake : session.profile.stage ≠ .dormant) : profile.stage ≠ .dormant := by
  cases sends with
  | reset => exact nofun
  | answer => exact nofun
  | data => exact awake

theorem Session.awake_takeAll {events : List Framer.Event}
    (awake : session.profile.stage ≠ .dormant) :
    (session.takeAll events).1.profile.stage ≠ .dormant := by
  induction events generalizing session with
  | nil => exact awake
  | cons event events ih =>
    refine ih ?_
    cases event with
    | packet packet => exact (session.takes packet).awake awake
    | checksumMismatch header => exact (session.profile_noteDamage .checksum).symm ▸ awake
    | invalidHeader => exact (session.profile_noteDamage .header).symm ▸ awake

theorem Terminal.Does.awake {here there hereAfter thereAfter : Terminal} {move : Terminal.Move}
    (does : here.Does there move hereAfter thereAfter)
    (awake : here.session.profile.stage ≠ .dormant) :
    hereAfter.session.profile.stage ≠ .dormant := by
  cases does with
  | quiet same => exact same.symm ▸ awake
  | submit submitted =>
    obtain ⟨_, _, sender, _, same⟩ := Session.of_submit submitted
    rw [same]
    exact awake
  | send sends => exact sends.awake awake
  | retry awaiting again =>
    rw [again]
    exact nofun
  | ask asked =>
    rw [asked]
    exact nofun
  | lose => exact awake
  | arrive same _ taken =>
    rw [taken]
    exact Session.awake_takeAll (same.symm ▸ awake)

theorem Line.Reaches.awake {allowed : Line → Side → Terminal.Move → Prop} {start line : Line}
    (run : Line.Reaches allowed start line)
    (awake : ∀ side, (start.get side).session.profile.stage ≠ .dormant) (side : Side) :
    (line.get side).session.profile.stage ≠ .dormant := by
  induction run generalizing side with
  | start => exact awake side
  | @next line after mover move _ _ stepped ih =>
    have moved := Line.stepped_get stepped
    rcases mover.eq_or_other side with rfl | rfl
    · exact (Terminal.does moved).awake (ih mover)
    · rw [(Terminal.performs moved).1]
      exact ih mover.other

end awake

end DatagramLink
