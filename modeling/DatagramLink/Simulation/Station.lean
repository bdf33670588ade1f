import DatagramLink.Endpoint.Work
import DatagramLink.Simulation.Site

namespace DatagramLink

/-- The most bytes that a reader takes in one read. -/
def readerBuffer : Nat := 256

/-- A simulated endpoint together with its link and application, with the bytes on their way to
it. A stream link has a reader that passes on what it reads in pieces of limited size, until its
end of the stream is closed or the endpoint takes no more. -/
structure Station where
  endpoint : Endpoint
  site : Site
  /-- Bytes on their way to this station, in the order they were sent. -/
  incoming : List (Timed Bytes)
  readerRuns : Bool
  /-- Someone waits for the endpoint to stop. -/
  awaited : Bool
  /-- A shutdown was asked for before. -/
  shutdownBegun : Bool
  /-- The application has let go of the endpoint. -/
  dropped : Bool

/-- A station that has not been started yet. -/
def Station.create (settings : Settings) (siteSettings : SiteSettings) :
    Except SettingsError Station := do
  let endpoint ← Endpoint.create settings
  return {
    endpoint, site := .ofSettings siteSettings, incoming := []
    readerRuns := siteSettings.kind = .stream
    awaited := false, shutdownBegun := false, dropped := false }

/-- Writes down what has happened. -/
def Station.note (station : Station) (activity : Activity) : Station :=
  { station with site := station.site.note activity }

/-- The station at a time. -/
def Station.at (station : Station) (now : Nat) : Station :=
  { station with site := { station.site with now } }

/-- A shutdown is done when the endpoint has stopped. -/
def Station.reportShutdown (station : Station) : Station :=
  if station.awaited && !station.endpoint.running then
    { station with awaited := false }.note .shutdownDone
  else station

/-- The endpoint begins to work. -/
def Station.start (station : Station) : Station :=
  let (endpoint, site) := station.endpoint.start Site.host station.site.now station.site
  { station with endpoint, site }

/-- Leaves a signal for the endpoint. -/
def Station.post (station : Station) (signal : Signal) : Station :=
  { station with endpoint := station.endpoint.post signal }

/-- Passes on received bytes, and says whether the endpoint still takes them. -/
def Station.receive (station : Station) (bytes : Bytes) : Bool × Station :=
  (station.endpoint.running, station.post (.received bytes))

/-- The reader stops, and says so if it was running. -/
def Station.endReader (station : Station) : Station :=
  if station.readerRuns then { station with readerRuns := false }.note .readerEnded else station

/-- What the reader does with bytes that came in together. No bytes are nothing to read. -/
def Station.read (station : Station) (bytes : Bytes) : Station :=
  if !station.readerRuns || bytes.isEmpty then station
  else if station.endpoint.running then
    (chunksOf readerBuffer bytes).foldl (fun station piece => station.post (.received piece))
      station
  else station.endReader

/-- Bytes arrive from the wire. -/
def Station.deliver (station : Station) (bytes : Bytes) : Station :=
  match station.site.settings.kind with
  | .stream => station.read bytes
  | .packets =>
    let (taken, station) := station.receive bytes
    if taken then station else station.note .arrivalRefused

/-- Posts the messages of all countdowns that ran out. -/
def Station.elapse (station : Station) : Option Station :=
  match station.endpoint.timers.elapse station.site.now with
  | ([], _) => none
  | (expiries, timers) =>
    let signals := expiries.map Signal.expired
    some { station with endpoint := signals.foldl Endpoint.post { station.endpoint with timers } }

/-- Delivers all bytes whose time has come. -/
def Station.takeIncoming (station : Station) : Station :=
  let (due, later) := station.incoming.span (·.time ≤ station.site.now)
  due.foldl (fun station arrival => station.deliver arrival.what)
    { station with incoming := later }

/-- The endpoint handles a signal. -/
def Station.work (station : Station) : Option Station :=
  match station.endpoint.step? Site.host station.site.now station.site with
  | none => none
  | some (endpoint, site) => some ({ station with endpoint, site }.reportShutdown)

/-- The endpoint stops because its time for shutting down is over. -/
def Station.overrun (station : Station) : Option Station :=
  if station.endpoint.isOverdue station.site.now then
    some ({ station with endpoint := station.endpoint.stop }.reportShutdown)
  else none

/-- When something happens next at the endpoint by the passing of time alone. -/
def Station.nextDue? (station : Station) : Option Nat :=
  let deadline := if station.endpoint.running then station.endpoint.deadline.toList else []
  (station.endpoint.timers.nextDue?.toList ++ deadline).min?

/-- The application hands over a datagram. -/
def Station.submit (station : Station) (datagram : Bytes) :
    Except Refusal Unit × Station :=
  let (result, endpoint) := station.endpoint.submit datagram
  (result, { station with endpoint })

/-- The application has the peer told of a condition. -/
def Station.reportError (station : Station) (error : ErrorCode) : Station :=
  { station with endpoint := station.endpoint.reportError error }

/-- Feeds bytes to the reader, and says whether it still runs. -/
def Station.feed (station : Station) (bytes : Bytes) : Bool × Station :=
  (station.readerRuns, station.read bytes)

/-- Ends the stream, orderly or not, and says whether the reader still ran. -/
def Station.closeStream (station : Station) : Bool × Station :=
  (station.readerRuns, station.endReader)

/-- The link behaves differently from now on. -/
def Station.setMode (station : Station) (mode : LinkMode) : Station :=
  { station with site := { station.site with mode } }

/-- The next packets will be damaged. -/
def Station.addDamages (station : Station) (damages : List Damage) : Station :=
  { station with site := { station.site with damages := station.site.damages ++ damages } }

/-- Asks for a shutdown. The first one waits until the endpoint has stopped, others do not. -/
def Station.shutdown (station : Station) : Station :=
  let station := { station with endpoint := station.endpoint.beginShutdown }
  if station.shutdownBegun then station.note .shutdownDone
  else { station with shutdownBegun := true, awaited := true }.reportShutdown

/-- Lets go of the endpoint, which stops it unless someone waits for its shutdown. -/
def Station.drop (station : Station) : Station :=
  let station := { station with dropped := true }
  if station.shutdownBegun then station
  else { station with endpoint := station.endpoint.stop }

/-- The log since it was taken last. -/
def Station.takeLog (station : Station) : List (Timed Activity) × Station :=
  (station.site.log.reverse, { station with site := { station.site with log := [] } })

end DatagramLink
