import DatagramLink.Proofs.Line.Basic
import DatagramLink.Proofs.Session.Profile

namespace DatagramLink

section quiet

variable {session : Session} {events : List Framer.Event}

theorem Session.profile_takeAll_of_nil
    (quiet : events.filterMap Framer.Event.packet? = []) :
    (session.takeAll events).1.profile = session.profile := by
  induction events generalizing session with
  | nil => rfl
  | cons event events ih =>
    cases event with
    | packet packet => cases quiet
    | checksumMismatch header => exact (ih quiet).trans (session.profile_noteDamage .checksum)
    | invalidHeader => exact (ih quiet).trans (session.profile_noteDamage .header)

theorem Session.datagrams_takeAll_of_nil
    (quiet : events.filterMap Framer.Event.packet? = []) :
    (session.takeAll events).2.datagrams = [] := by
  induction events generalizing session with
  | nil => rfl
  | cons event events ih =>
    cases event with
    | packet packet => cases quiet
    | checksumMismatch header => exact ih quiet
    | invalidHeader => exact ih quiet

end quiet

/-- Both ends after a move of this end. Moves with the same effect on the profile count as one. -/
inductive Terminal.Does (here there : Terminal) : Terminal.Move → Terminal → Terminal → Prop
  | quiet {move : Terminal.Move} {session : Session}
      (same : session.profile = here.session.profile) :
      here.Does there move { here with session } there
  | submit {datagram : Bytes} {session : Session}
      (submitted : here.session.submit datagram = .ok session) :
      here.Does there (.submit datagram)
        { here with session, accepted := here.accepted ++ [datagram] } there
  | send {packet : Packet} {session : Session}
      (sends : here.session.Sends packet session.profile) :
      here.Does there .depart { here with session, inFlight := here.inFlight ++ [packet] } there
  /-- A reset is to be sent again. -/
  | retry {countdown : Countdown} {session : Session}
      (awaiting : here.session.handshake.stage = .awaiting)
      (again : session.profile = { here.session.profile with stage := .announcing }) :
      here.Does there (.elapsed countdown) { here with session } there
  | ask {session : Session} (asked : session.profile = here.session.profile.restart .announcing) :
      here.Does there .askReset { here with session } there
  | lose : here.Does there .lose { here with inFlight := here.inFlight.tail } there
  /-- What matters about the bytes that arrive is what the framer makes of them. -/
  | arrive {bytes : Bytes} {fed session : Session} {left : List Packet}
      (same : fed.profile = here.session.profile)
      (arrived : stillInFlight?
        ((here.session.framer.feed bytes).2.filterMap Framer.Event.packet?) there.inFlight =
          some left)
      (taken : session.profile = (fed.takeAll (here.session.framer.feed bytes).2).1.profile) :
      here.Does there (.arrive bytes)
        { here with
          session
          delivered := here.delivered ++
            (fed.takeAll (here.session.framer.feed bytes).2).2.datagrams }
        { there with inFlight := left }

theorem Terminal.does {here there hereAfter thereAfter : Terminal} {move : Terminal.Move}
    (stepped : here.step? there move = some (hereAfter, thereAfter)) :
    here.Does there move hereAfter thereAfter := by
  cases move with
  | submit datagram =>
    cases stepped
    unfold Terminal.submit
    split
    · exact .quiet rfl
    · exact .submit (by assumption)
  | reportError error =>
    cases stepped
    exact .quiet (here.session.profile_reportError error)
  | closeIntake =>
    cases stepped
    exact .quiet here.session.profile_closeIntake
  | depart =>
    obtain ⟨after, departed, same⟩ := Option.map_eq_some_iff.mp stepped
    cases same
    unfold Terminal.depart? at departed
    split at departed
    · cases departed
    · cases departed
      exact .quiet rfl
    · rename_i departure next
      cases departed
      exact .send (Session.sends next)
  | sendDone result =>
    cases stepped
    exact .quiet (here.session.profile_sendDone result)
  | arrive bytes =>
    obtain ⟨left, arrived, same⟩ := Option.map_eq_some_iff.mp stepped
    cases same
    obtain ⟨taken, delivered⟩ := here.session.profile_receive bytes
    let fed := { here.session with framer := (here.session.framer.feed bytes).1 }
    have moved := Terminal.Does.arrive (show fed.profile = here.session.profile from rfl) arrived
      taken
    rw [← delivered] at moved
    exact moved
  | lose =>
    cases stepped
    exact .lose
  | elapsed countdown =>
    cases stepped
    rcases here.session.profile_elapsed countdown with same | ⟨awaiting, again⟩
    · exact .quiet same
    · exact .retry awaiting again
  | askReset =>
    cases stepped
    exact .ask here.session.profile_askReset

section lines

variable {line after : Line} {side : Side} {move : Terminal.Move}

theorem Line.stepped_get (stepped : line.step? side move = some after) :
    (line.get side).step? (line.get side.other) move =
      some (after.get side, after.get side.other) := by
  cases side with
  | a =>
    obtain ⟨⟨here, there⟩, moved, same⟩ := Option.map_eq_some_iff.mp stepped
    cases same
    exact moved
  | b =>
    obtain ⟨⟨here, there⟩, moved, same⟩ := Option.map_eq_some_iff.mp stepped
    cases same
    exact moved

theorem Line.does (stepped : line.step? side move = some after) :
    (line.get side).Does (line.get side.other) move (after.get side) (after.get side.other) :=
  Terminal.does (Line.stepped_get stepped)

end lines

end DatagramLink
