import DatagramLink.Settings

namespace DatagramLink

/-- What a session wants done to its countdowns. -/
inductive CountdownOrder where
  /-- Start the countdown over, whether it runs or not. -/
  | start (countdown : Countdown)
  | stop (countdown : Countdown)
  deriving DecidableEq, Repr

/-- The order as a log shows it. -/
def CountdownOrder.describe : CountdownOrder → String
  | .start countdown => "Arm " ++ countdown.name
  | .stop countdown => "Cancel " ++ countdown.name

/-- What a session has to tell its application. -/
inductive Notice where
  | datagram (bytes : Bytes)
  /-- The link was reset while it was up, so datagrams on their way may be lost. -/
  | linkReset
  deriving DecidableEq, Repr

/-- The datagram that is handed over, if it is one. -/
def Notice.datagram? : Notice → Option Bytes
  | .datagram bytes => some bytes
  | .linkReset => none

/-- What a session asks of its surroundings after a step: countdowns to start and stop, and
events to pass on to the application, each in the order they occurred. -/
structure Reaction where
  notices : List Notice := []
  orders : List CountdownOrder := []
  /-- How many times in a row the outstanding packet timed out, if it did. -/
  timeouts : Option UInt32 := none
  deriving DecidableEq, Repr

/-- The datagrams that are handed over, in order. -/
def Reaction.datagrams (reaction : Reaction) : List Bytes :=
  reaction.notices.filterMap Notice.datagram?

/-- One step's reaction after another's. -/
instance : Append Reaction where
  append first second :=
    ⟨first.notices ++ second.notices, first.orders ++ second.orders,
      second.timeouts.or first.timeouts⟩

theorem Reaction.append_def (first second : Reaction) :
    first ++ second =
      ⟨first.notices ++ second.notices, first.orders ++ second.orders,
        second.timeouts.or first.timeouts⟩ := rfl

theorem Reaction.append_assoc (first second third : Reaction) :
    first ++ second ++ third = first ++ (second ++ third) := by
  simp only [Reaction.append_def, List.append_assoc, Option.or_assoc]

theorem Reaction.append_empty (reaction : Reaction) : reaction ++ ({} : Reaction) = reaction := by
  simp only [Reaction.append_def, List.append_nil, Option.none_or]

theorem Reaction.empty_append (reaction : Reaction) : ({} : Reaction) ++ reaction = reaction := by
  simp only [Reaction.append_def, List.nil_append, Option.or_none]

end DatagramLink
