namespace DatagramLink

/-- A duration in whole nanoseconds. Its seconds fit into 64 bits. -/
structure Duration where
  nanoseconds : Nat
  inRange : nanoseconds < UInt64.size * 1000000000
  deriving DecidableEq, Repr

/-- A duration given in microseconds. -/
def Duration.ofMicroseconds (n : UInt64) : Duration :=
  ⟨1000 * n.toNat, by have := n.toNat_lt_size; omega⟩

/-- A duration given in milliseconds. -/
def Duration.ofMilliseconds (n : UInt64) : Duration :=
  ⟨1000000 * n.toNat, by have := n.toNat_lt_size; omega⟩

/-- The longest duration there is. -/
def Duration.longest : Duration := ⟨UInt64.size * 1000000000 - 1, by decide⟩

/-- Whole microseconds, a fraction dropped. -/
def Duration.microseconds (duration : Duration) : Nat := duration.nanoseconds / 1000

/-- Whole milliseconds, a fraction dropped. -/
def Duration.milliseconds (duration : Duration) : Nat := duration.nanoseconds / 1000000

/-- Clock ticks of a millisecond, a fraction counted in full: a countdown never ends early. -/
def Duration.ticks (duration : Duration) : Nat := (duration.nanoseconds + 999999) / 1000000

/-- When a duration that begins now is over. The clock counts seconds in a signed word of 64 bits,
so there are times that it cannot tell. -/
def Duration.after? (duration : Duration) (now : Nat) : Option Nat :=
  if 1000000 * now + duration.nanoseconds < UInt64.size / 2 * 1000000000 then some (now + duration.ticks)
  else none

theorem Duration.after?_eq {duration : Duration} {now stop : Nat}
    (inTime : duration.after? now = some stop) : stop = now + duration.ticks := by
  unfold Duration.after? at inTime
  split at inTime
  · exact (Option.some.inj inTime).symm
  · cases inTime

/-- The four countdowns that an end of the link keeps. -/
inductive Countdown where
  /-- waiting for the acknowledgement of the outstanding packet -/
  | txTimeout
  /-- holding back an acknowledgement for outgoing payload to carry it -/
  | ackDelay
  /-- waiting for the answer to a reset -/
  | resetRetry
  /-- waiting for the rest of a partly received packet -/
  | rxTimeout
  deriving DecidableEq, Repr

/-- The four countdowns in their fixed order. -/
def Countdown.all : List Countdown := [.txTimeout, .ackDelay, .resetRetry, .rxTimeout]

/-- The name under which a countdown is logged. -/
def Countdown.name : Countdown → String
  | .txTimeout => "TxTimeout"
  | .ackDelay => "AckDelay"
  | .resetRetry => "ResetRetry"
  | .rxTimeout => "RxTimeout"

end DatagramLink
