import DatagramLink.Session.Valid
import DatagramLink.Timers

namespace DatagramLink

/-- All that makes an endpoint do something. -/
inductive Signal where
  | received (bytes : Bytes)
  | sendDone (result : Except SendFailure Unit)
  | expired (expiry : Expiry)
  /-- New datagrams or an error code wait to be sent. -/
  | work
  | reset
  | shutdown

/-- What a link says about a packet it was given. -/
inductive Acceptance where
  /-- The next packet may follow. -/
  | complete
  /-- The link is busy until it signals that the send is done. -/
  | pending
  deriving DecidableEq, Repr

/-- The link and the application of an endpoint, as the calls that change their state. -/
structure Host (σ : Type) where
  send : Bytes → σ → Acceptance × σ
  notice : Notice → σ → σ
  /-- Asks whether to give up after so many timeouts in a row, which resets the link. -/
  givesUp : UInt32 → σ → Bool × σ

/-- One end of the link at work: a session, its countdowns, and an inbox of signals that are
handled one at a time. -/
structure Endpoint where
  session : Session
  timers : Timers
  inbox : List Signal
  /-- When to stop at the latest, once a shutdown was asked for. -/
  deadline : Option Nat
  running : Bool

/-- An endpoint for settings that pass their check. -/
def Endpoint.create (settings : Settings) : Except SettingsError Endpoint :=
  match valid : settings.check with
  | .error error => .error error
  | .ok () => .ok ⟨.ofValid settings valid, .new, [], none, true⟩

/-- Leaves a signal in the inbox, unless the endpoint has stopped. -/
def Endpoint.post (endpoint : Endpoint) (signal : Signal) : Endpoint :=
  if endpoint.running then { endpoint with inbox := endpoint.inbox ++ [signal] } else endpoint

/-- Nothing happens any more after that. -/
def Endpoint.stop (endpoint : Endpoint) : Endpoint :=
  { endpoint with timers := endpoint.timers.stopAll, inbox := [], running := false }

/-- Queues a datagram. It never waits: a datagram that cannot be queued is handed back. -/
def Endpoint.submit (endpoint : Endpoint) (datagram : Bytes) :
    Except Refusal Unit × Endpoint :=
  match endpoint.session.submit datagram with
  | .error error => (.error error, endpoint)
  | .ok session => (.ok (), { endpoint with session }.post .work)

/-- Reports a condition to the peer with the next packet. -/
def Endpoint.reportError (endpoint : Endpoint) (error : ErrorCode) : Endpoint :=
  { endpoint with session := endpoint.session.reportError error }.post .work

/-- Accepts no more datagrams, and asks to stop once the queued ones are acknowledged or the drain
timeout is over. -/
def Endpoint.beginShutdown (endpoint : Endpoint) : Endpoint :=
  { endpoint with session := endpoint.session.closeIntake }.post .shutdown

end DatagramLink
