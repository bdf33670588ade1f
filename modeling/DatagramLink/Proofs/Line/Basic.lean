import DatagramLink.Exchange
import DatagramLink.Session.Valid
import Mathlib.Data.List.Basic

namespace DatagramLink

/-- One end of the line. -/
structure Terminal where
  session : Session
  /-- The packets sent from here that neither arrived nor got lost so far, oldest first. -/
  inFlight : List Packet
  /-- The datagrams taken from the application. -/
  accepted : List Bytes
  /-- The datagrams handed to the application. -/
  delivered : List Bytes
  deriving DecidableEq

/-- How many of the accepted datagrams have left the queue. -/
def Terminal.removed (terminal : Terminal) : Nat :=
  terminal.accepted.length - terminal.session.pending

/-- What an end does, or what happens to it. -/
inductive Terminal.Move where
  | submit (datagram : Bytes)
  | reportError (error : ErrorCode)
  | closeIntake
  /-- The next packet, if there is one, leaves. -/
  | depart
  | sendDone (result : Except SendFailure Unit)
  /-- Bytes arrive, with or without packets of the other end among them. -/
  | arrive (bytes : Bytes)
  /-- The oldest packet sent from here is lost. -/
  | lose
  | elapsed (countdown : Countdown)
  | askReset
  deriving DecidableEq

/-- The packet whose checksum is right, if there is one. -/
def Framer.Event.packet? : Framer.Event → Option Packet
  | .packet whole => some whole
  | .checksumMismatch _ | .invalidHeader => none

/-- What is in flight after some packets arrived in order. Whatever was sent before a packet that
arrived is lost. There is no answer if a packet arrives that is not in flight. -/
def stillInFlight? : List Packet → List Packet → Option (List Packet)
  | [], inFlight => some inFlight
  | _ :: _, [] => none
  | packet :: others, sent :: inFlight =>
    if packet = sent then stillInFlight? others inFlight
    else stillInFlight? (packet :: others) inFlight

/-- The packets that arrived are some of those in flight, in the order they were sent. -/
theorem isSome_stillInFlight?_iff (arrived inFlight : List Packet) :
    (stillInFlight? arrived inFlight).isSome ↔ arrived.Sublist inFlight := by
  fun_induction stillInFlight? arrived inFlight with
  | case1 inFlight => simp
  | case2 => simp
  | case3 others sent inFlight ih => simpa using ih
  | case4 packet others sent inFlight other ih =>
    rw [ih]
    constructor
    · exact List.Sublist.cons _
    · intro arrived
      cases arrived with
      | cons _ skipped => exact skipped
      | cons_cons _ _ => exact absurd rfl other

/-- The application hands over a datagram, which is recorded if it is accepted. -/
def Terminal.submit (here : Terminal) (datagram : Bytes) : Terminal :=
  match here.session.submit datagram with
  | .error _ => here
  | .ok session => { here with session, accepted := here.accepted ++ [datagram] }

/-- The next packet leaves and is in flight from then on. -/
def Terminal.depart? (here : Terminal) : Option Terminal :=
  match here.session.next with
  | .error _ => none
  | .ok none => some here
  | .ok (some departure) =>
    some { here with
      session := departure.session
      inFlight := here.inFlight ++ [departure.packet] }

/-- Bytes arrive from the other end. The packets among them are some of those in flight, in
their order, and what was sent before them is lost. -/
def Terminal.arrive? (here there : Terminal) (bytes : Bytes) : Option (Terminal × Terminal) :=
  let events := (here.session.framer.feed bytes).2
  (stillInFlight? (events.filterMap Framer.Event.packet?) there.inFlight).map fun inFlight =>
    let (session, reaction) := here.session.receive bytes
    ({ here with session, delivered := here.delivered ++ reaction.datagrams },
      { there with inFlight })

/-- One end moves, and the other end may lose packets from its flight. -/
def Terminal.step? (here there : Terminal) : Terminal.Move → Option (Terminal × Terminal)
  | .submit datagram => some (here.submit datagram, there)
  | .reportError error => some ({ here with session := here.session.reportError error }, there)
  | .closeIntake => some ({ here with session := here.session.closeIntake }, there)
  | .depart => here.depart?.map (·, there)
  | .sendDone result => some ({ here with session := here.session.sendDone result }, there)
  | .arrive bytes => here.arrive? there bytes
  | .lose => some ({ here with inFlight := here.inFlight.tail }, there)
  | .elapsed countdown =>
    some ({ here with session := (here.session.elapsed countdown).1 }, there)
  | .askReset => some ({ here with session := here.session.askReset.1 }, there)

/-- Two sessions joined by a line that takes its time. Packets of one side arrive in the order
they were sent, if they arrive; between the steps of one side anything may happen at the other.
-/
structure Line where
  a : Terminal
  b : Terminal
  deriving DecidableEq

/-- The end at a side. -/
def Line.get (line : Line) : Side → Terminal
  | .a => line.a
  | .b => line.b

/-- The next state, if this move is possible. -/
def Line.step? (line : Line) (side : Side) (move : Terminal.Move) : Option Line :=
  match side with
  | .a => (line.a.step? line.b move).map fun (a, b) => ⟨a, b⟩
  | .b => (line.b.step? line.a move).map fun (b, a) => ⟨a, b⟩

/-- Runs of the line in which every move is allowed where it is made. -/
inductive Line.Reaches (allowed : Line → Side → Terminal.Move → Prop) (start : Line) :
    Line → Prop
  | start : Line.Reaches allowed start start
  | next {line after : Line} {side : Side} {move : Terminal.Move} :
      Line.Reaches allowed start line → allowed line side move →
      line.step? side move = some after → Line.Reaches allowed start after

/-- The line after these moves, if each of them is allowed and can be made. -/
def Line.run? (allowed : Line → Side → Terminal.Move → Prop)
    [∀ line side move, Decidable (allowed line side move)] (line : Line) :
    List (Side × Terminal.Move) → Option Line
  | [] => some line
  | (side, move) :: moves =>
    if allowed line side move then
      match line.step? side move with
      | none => none
      | some after => after.run? allowed moves
    else none

theorem Line.Reaches.run {allowed : Line → Side → Terminal.Move → Prop}
    [∀ line side move, Decidable (allowed line side move)] {start line after : Line}
    {moves : List (Side × Terminal.Move)} (reached : Line.Reaches allowed start line)
    (run : line.run? allowed moves = some after) : Line.Reaches allowed start after := by
  induction moves generalizing line with
  | nil =>
    cases run
    exact reached
  | cons first moves ih =>
    obtain ⟨side, move⟩ := first
    unfold Line.run? at run
    split at run
    · rename_i permitted
      split at run
      · cases run
      · rename_i next stepped
        exact ih (.next reached permitted stepped) run
    · cases run

/-- An end whose record is empty. -/
def Terminal.ofSession (session : Session) : Terminal := ⟨session, [], [], []⟩

/-- Both ends as they are before they ask for the first reset. -/
def Line.resting {a b : Settings} (validA : a.check = .ok ()) (validB : b.check = .ok ()) : Line :=
  ⟨.ofSession (.ofValid a validA), .ofSession (.ofValid b validB)⟩

/-- Both ends have asked for a reset. -/
def Line.started {a b : Settings} (validA : a.check = .ok ()) (validB : b.check = .ok ()) : Line :=
  ⟨.ofSession (Session.ofValid a validA).askReset.1,
    .ofSession (Session.ofValid b validB).askReset.1⟩

theorem Settings.check_serialLine : Settings.serialLine.check = .ok () := rfl

/-- The handshake packets of an end with the settings for a serial line. -/
def serialReset : Packet :=
  (Session.ofValid _ Settings.check_serialLine).handshake.packet .reset

/-- The answer to a reset, from an end with the same settings. -/
def serialAnswer : Packet :=
  (Session.ofValid _ Settings.check_serialLine).handshake.packet .resetAck

/-- The first packet of a short datagram after a reset, and its acknowledgement. -/
def firstFragment (datagram : Bytes) : Packet :=
  ⟨⟨.clear, .plain, 0, 0, datagram.length.toUInt16⟩, datagram⟩

/-- A packet without payload that acknowledges the first one. -/
def firstAck : Packet := ⟨⟨.clear, .plain, 1, 255, 0⟩, []⟩

end DatagramLink
