import DatagramLink.Settings

namespace DatagramLink

/-- One countdown. Each start and each stop gets a new generation, so a message from before is
recognised. -/
structure Timer where
  generation : Nat
  armed : Bool
  deriving DecidableEq, Repr

/-- A countdown on its way, with the time at which it runs out. -/
structure Alarm where
  kind : Countdown
  generation : Nat
  due : Nat
  deriving DecidableEq, Repr

/-- The message of a countdown that ran out. -/
structure Expiry where
  kind : Countdown
  generation : Nat
  deriving DecidableEq, Repr

/-- The message as a log shows it. -/
def Expiry.describe (expiry : Expiry) : String :=
  s!"TimerExpired \x7b kind: {expiry.kind.name}, generation: {expiry.generation} \x7d"

/-- The message that an alarm leaves when it rings. -/
def Alarm.expiry (alarm : Alarm) : Expiry := ⟨alarm.kind, alarm.generation⟩

/-- The four countdowns of an endpoint. A countdown that runs out only says so; whether that
still matters is decided when the message is looked at. -/
structure Timers where
  txTimeout : Timer
  ackDelay : Timer
  resetRetry : Timer
  rxTimeout : Timer
  /-- In the order of their start. -/
  alarms : List Alarm
  deriving DecidableEq, Repr

/-- No countdown has been started. -/
def Timers.new : Timers := ⟨⟨0, false⟩, ⟨0, false⟩, ⟨0, false⟩, ⟨0, false⟩, []⟩

/-- One of the four. -/
def Timers.get (timers : Timers) : Countdown → Timer
  | .txTimeout => timers.txTimeout
  | .ackDelay => timers.ackDelay
  | .resetRetry => timers.resetRetry
  | .rxTimeout => timers.rxTimeout

/-- Puts a countdown in the place of one of the four. -/
def Timers.set (timers : Timers) (kind : Countdown) (timer : Timer) : Timers :=
  match kind with
  | .txTimeout => { timers with txTimeout := timer }
  | .ackDelay => { timers with ackDelay := timer }
  | .resetRetry => { timers with resetRetry := timer }
  | .rxTimeout => { timers with rxTimeout := timer }

theorem Timers.get_set_self (timers : Timers) (kind : Countdown) (timer : Timer) :
    (timers.set kind timer).get kind = timer := by
  cases kind <;> rfl

theorem Timers.get_set_of_ne (timers : Timers) {kind other : Countdown} (timer : Timer)
    (different : other ≠ kind) : (timers.set kind timer).get other = timers.get other := by
  cases kind <;> cases other <;> first | rfl | exact absurd rfl different

/-- Stops a countdown. Its generation is over even if it was not running. -/
def Timers.stop (timers : Timers) (kind : Countdown) : Timers :=
  let timer := timers.get kind
  let running : Expiry := ⟨kind, timer.generation⟩
  let alarms := if timer.armed then timers.alarms.filter (·.expiry ≠ running) else timers.alarms
  { timers.set kind ⟨timer.generation + 1, false⟩ with alarms }

/-- Starts a countdown over. -/
def Timers.start (timers : Timers) (now : Nat) (kind : Countdown) (ticks : Nat) : Timers :=
  let stopped := timers.stop kind
  let generation := (stopped.get kind).generation
  { stopped.set kind ⟨generation, true⟩ with
    alarms := stopped.alarms ++ [⟨kind, generation, now + ticks⟩] }

/-- Stops all four countdowns. -/
def Timers.stopAll (timers : Timers) : Timers := Countdown.all.foldl Timers.stop timers

/-- Looks at a message: it counts if it belongs to the current start of its countdown, which is
over with that. -/
def Timers.accept (timers : Timers) (expiry : Expiry) : Bool × Timers :=
  let timer := timers.get expiry.kind
  if expiry.generation = timer.generation ∧ timer.armed then
    (true, timers.set expiry.kind ⟨timer.generation + 1, false⟩)
  else (false, timers)

/-- The messages of all countdowns that ran out by now, earliest first. -/
def Timers.elapse (timers : Timers) (now : Nat) : List Expiry × Timers :=
  let (due, running) := timers.alarms.partition (·.due ≤ now)
  ((due.mergeSort (·.due ≤ ·.due)).map Alarm.expiry, { timers with alarms := running })

/-- When the next countdown runs out. -/
def Timers.nextDue? (timers : Timers) : Option Nat := (timers.alarms.map (·.due)).min?

end DatagramLink
