import DatagramLink.Exchange
import DatagramLink.Simulation.Station

namespace DatagramLink

/-- What can be on the agenda. -/
inductive Happening where
  /-- a pending send is reported done -/
  | sendDone (side : Side)
  /-- the bytes that are next on the wire to this side arrive -/
  | arrival (side : Side)
  deriving DecidableEq, Repr

/-- One or two stations under a clock that moves only on request, in ticks of a millisecond.
Between two moves everything happens that can happen at the current instant. -/
structure Simulation where
  now : Nat
  a : Station
  b : Option Station
  /-- In the order in which it was put there, which decides between things due at one instant. -/
  agenda : List (Timed Happening)
  /-- The sides that have signals to handle, in the order they got them. -/
  ready : List Side

/-- A bound on how much can happen at one instant. -/
def Simulation.instantLimit : Nat := 1000000

/-- The station of a side, if it has one. -/
def Simulation.get? (simulation : Simulation) : Side → Option Station
  | .a => some simulation.a
  | .b => simulation.b

/-- Puts a station in the place of the one at a side. -/
def Simulation.set (simulation : Simulation) (side : Side) (station : Station) : Simulation :=
  match side with
  | .a => { simulation with a := station }
  | .b => { simulation with b := some station }

/-- Puts something on the agenda, behind what is due at the same time. -/
def Simulation.schedule (simulation : Simulation) (time : Nat) (what : Happening) : Simulation :=
  { simulation with agenda := simulation.agenda ++ [⟨time, what⟩] }

/-- Sees to what a site left to be done. A wire carries one packet after another, so only the first
one is on the agenda. Without another station bytes are lost. -/
def Simulation.runErrand (side : Side) (simulation : Simulation) (errand : Timed Errand) :
    Simulation :=
  match errand.what with
  | .completeSend => simulation.schedule errand.time (.sendDone side)
  | .deliver bytes =>
    match simulation.get? side.other with
    | none => simulation
    | some other =>
      let waiting := simulation.set side.other
        { other with incoming := other.incoming ++ [⟨errand.time, bytes⟩] }
      if other.incoming.isEmpty then waiting.schedule errand.time (.arrival side.other)
      else waiting

/-- Puts a station back after something happened to it. -/
def Simulation.put (simulation : Simulation) (side : Side) (station : Station) : Simulation :=
  let errands := station.site.errands
  let idle := simulation.ready.filter (· ≠ side)
  let ready :=
    if station.endpoint.inbox.isEmpty then idle
    else if side ∈ simulation.ready then simulation.ready
    else simulation.ready ++ [side]
  let simulation := { simulation with ready }.set side
    { station with site := { station.site with errands := [] } }
  errands.foldl (Simulation.runErrand side) simulation

/-- The countdowns of one side that ran out. -/
def Simulation.elapseAt (simulation : Simulation) (side : Side) : Option Simulation := do
  let station ← simulation.get? side
  let station ← (station.at simulation.now).elapse
  return simulation.put side station

/-- Something on the agenda happens. The next packet on the same wire comes onto the agenda only
then. -/
def Simulation.perform (simulation : Simulation) : Happening → Simulation
  | .sendDone side =>
    match simulation.get? side with
    | none => simulation
    | some station => simulation.put side (station.post (.sendDone (.ok ())))
  | .arrival side =>
    match simulation.get? side with
    | none => simulation
    | some station =>
      let station := (station.at simulation.now).takeIncoming
      let delivered := simulation.put side station
      match station.incoming.head? with
      | none => delivered
      | some next => delivered.schedule next.time (.arrival side)

/-- The first thing on the agenda that is due. -/
def Simulation.takeDue (simulation : Simulation) : Option Simulation := do
  let index ← simulation.agenda.findIdx? (·.time ≤ simulation.now)
  let entry ← simulation.agenda[index]?
  return { simulation with agenda := simulation.agenda.eraseIdx index }.perform entry.what

/-- The endpoint that has waited longest handles a signal. -/
def Simulation.work (simulation : Simulation) : Option Simulation := do
  let side ← simulation.ready.head?
  let station ← simulation.get? side
  let station ← (station.at simulation.now).work
  return simulation.put side station

/-- A drain timeout of one side that is over. -/
def Simulation.overrunAt (simulation : Simulation) (side : Side) : Option Simulation := do
  let station ← simulation.get? side
  let station ← (station.at simulation.now).overrun
  return simulation.put side station

/-- The next thing that happens at this instant, if anything does. -/
def Simulation.step? (simulation : Simulation) : Option Simulation :=
  simulation.elapseAt .a <|> simulation.elapseAt .b <|> simulation.takeDue <|> simulation.work <|>
    simulation.overrunAt .a <|> simulation.overrunAt .b

/-- Lets everything happen that can happen now, up to a limit. -/
def Simulation.settleWithin : Nat → Simulation → Simulation
  | 0, simulation => simulation
  | limit + 1, simulation =>
    match simulation.step? with
    | none => simulation
    | some next => Simulation.settleWithin limit next

/-- Everything happens that can happen without the clock moving. -/
def Simulation.settle (simulation : Simulation) : Simulation :=
  simulation.settleWithin Simulation.instantLimit

/-- The time of the next thing that is due, alarms included. -/
def Simulation.nextDue? (simulation : Simulation) : Option Nat :=
  (simulation.a.nextDue?.toList ++ (simulation.b.bind (·.nextDue?)).toList ++
    simulation.agenda.map (·.time)).min?

/-- Lets time pass from `now` until `stop`, from one event to the next. -/
def Simulation.runFrom (now stop : Nat) (simulation : Simulation) : Simulation :=
  match simulation.nextDue? with
  | none => { simulation with now := stop }
  | some due =>
    if _ : now < due ∧ due ≤ stop then
      Simulation.runFrom due stop ({ simulation with now := due }.settle)
    else { simulation with now := stop }
termination_by stop - now

/-- Lets the clock move on. -/
def Simulation.sleep (simulation : Simulation) (ticks : Nat) : Simulation :=
  (simulation.runFrom simulation.now (simulation.now + ticks)).settle

/-- Sets up and starts the stations. The first settings that do not pass their check are
reported. Both endpoints start before the wires begin to move, and what is on the wires then goes
on the agenda before any send to be reported done. -/
def Simulation.create (a : Settings × SiteSettings) (b : Option (Settings × SiteSettings)) :
    Except SettingsError Simulation := do
  let first ← Station.create a.1 a.2
  let second ← b.mapM fun (settings, site) => Station.create settings site
  let stations := (Side.a, first.start) :: second.toList.map fun station => (Side.b, station.start)
  let errands := stations.flatMap fun (side, station) =>
    station.site.errands.map fun errand => (side, errand)
  let (deliveries, others) := errands.partition fun (_, errand) => errand.what ≠ .completeSend
  let quiet := stations.foldl (fun simulation (side, station) =>
    simulation.put side { station with site := { station.site with errands := [] } })
    (⟨0, first, second, [], []⟩ : Simulation)
  return ((deliveries ++ others).foldl
    (fun simulation (side, errand) => simulation.runErrand side errand) quiet).settle

/-- Does something to a station from outside. -/
def Simulation.act {α : Type} (simulation : Simulation) (side : Side)
    (action : Station → α × Station) : Option (α × Simulation) := do
  let station ← simulation.get? side
  let (result, station) := action (station.at simulation.now)
  return (result, (simulation.put side station).settle)

/-- The logs since they were taken last. -/
def Simulation.takeLogs (simulation : Simulation) :
    (List (Timed Activity) × Option (List (Timed Activity))) × Simulation :=
  let (first, a) := simulation.a.takeLog
  let second := simulation.b.map Station.takeLog
  ((first, second.map (·.1)), { simulation with a, b := second.map (·.2) })

end DatagramLink
