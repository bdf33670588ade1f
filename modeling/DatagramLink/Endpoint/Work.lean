import DatagramLink.Endpoint.Basic
import DatagramLink.Session.Arrival
import DatagramLink.Session.Departure

namespace DatagramLink

variable {σ : Type}

/-- A countdown without a delay is never started. -/
def Endpoint.obey (now : Nat) (endpoint : Endpoint) : CountdownOrder → Endpoint
  | .stop countdown => { endpoint with timers := endpoint.timers.stop countdown }
  | .start countdown =>
    match endpoint.session.settings.delay countdown with
    | none => endpoint
    | some delay => { endpoint with timers := endpoint.timers.start now countdown delay.ticks }

/-- Carries out the orders of a step in the order they were given. -/
def Endpoint.obeyAll (now : Nat) (endpoint : Endpoint) (orders : List CountdownOrder) : Endpoint :=
  orders.foldl (Endpoint.obey now) endpoint

/-- Tells the application what has happened, in order. -/
def Host.noticeAll (host : Host σ) (notices : List Notice) (surroundings : σ) : σ :=
  notices.foldl (fun surroundings notice => host.notice notice surroundings) surroundings

/-- Asks for a reset and does at once what it entails. -/
def Endpoint.askReset (host : Host σ) (now : Nat) (endpoint : Endpoint) (surroundings : σ) :
    Endpoint × σ :=
  let (session, reaction) := endpoint.session.askReset
  (({ endpoint with session } : Endpoint).obeyAll now reaction.orders,
    host.noticeAll reaction.notices surroundings)

/-- Does what a step of the session asks for. The application may answer a timeout with a reset. -/
def Endpoint.carryOut (host : Host σ) (now : Nat) (endpoint : Endpoint) (reaction : Reaction)
    (surroundings : σ) : Endpoint × σ :=
  let endpoint := endpoint.obeyAll now reaction.orders
  let surroundings := host.noticeAll reaction.notices surroundings
  match reaction.timeouts with
  | none => (endpoint, surroundings)
  | some timeouts =>
    let (givesUp, surroundings) := host.givesUp timeouts surroundings
    if givesUp then endpoint.askReset host now surroundings else (endpoint, surroundings)

/-- When to stop at the latest if a request to shut down is handled now. Only the first one counts,
and the clock may not get that far. -/
def Endpoint.drainEnd? (endpoint : Endpoint) (now : Nat) : Option Nat :=
  endpoint.deadline.or (endpoint.session.settings.drainTimeout.after? now)

/-- What a signal means for the session. The endpoint breaks down if the clock cannot tell when to
stop. -/
def Endpoint.handle (host : Host σ) (now : Nat) (endpoint : Endpoint) (signal : Signal)
    (surroundings : σ) : Endpoint × σ :=
  match signal with
  | .received bytes =>
    let (session, reaction) := endpoint.session.receive bytes
    ({ endpoint with session } : Endpoint).carryOut host now reaction surroundings
  | .sendDone result =>
    ({ endpoint with session := endpoint.session.sendDone result }, surroundings)
  | .expired expiry =>
    let (current, timers) := endpoint.timers.accept expiry
    if current then
      let (session, reaction) := endpoint.session.elapsed expiry.kind
      ({ endpoint with session, timers } : Endpoint).carryOut host now reaction surroundings
    else (endpoint, surroundings)
  | .work => (endpoint, surroundings)
  | .reset => endpoint.askReset host now surroundings
  | .shutdown =>
    match endpoint.drainEnd? now with
    | some deadline => ({ endpoint with deadline := some deadline }, surroundings)
    | none => (endpoint.stop, surroundings)

/-- Hands packets to the link until there is none left or the link is busy. A packet that cannot be
built stops the endpoint. -/
def Endpoint.sendAll (host : Host σ) (now : Nat) (endpoint : Endpoint) (surroundings : σ) :
    Endpoint × σ :=
  match _ : endpoint.session.next with
  | .error _ => (endpoint.stop, surroundings)
  | .ok none => (endpoint, surroundings)
  | .ok (some departure) =>
    let armed := ({ endpoint with session := departure.session } : Endpoint).obeyAll now
      departure.reaction.orders
    match host.send departure.packet.encode surroundings with
    | (.pending, surroundings) => (armed, surroundings)
    | (.complete, surroundings) =>
      Endpoint.sendAll host now { armed with session := departure.session.sendDone (.ok ()) }
        surroundings
termination_by endpoint.session.backlog
decreasing_by exact Session.backlog_next_lt (by assumption) _

/-- The first thing an endpoint does is to ask for a reset. -/
def Endpoint.start (host : Host σ) (now : Nat) (endpoint : Endpoint) (surroundings : σ) :
    Endpoint × σ :=
  let (endpoint, surroundings) := endpoint.askReset host now surroundings
  endpoint.sendAll host now surroundings

/-- A draining endpoint stops once its queue is empty. -/
def Endpoint.stopIfDrained (endpoint : Endpoint) : Endpoint :=
  if endpoint.deadline.isSome && endpoint.session.isDrained then endpoint.stop else endpoint

/-- Handles the signal that waited longest, if there is one. -/
def Endpoint.step? (host : Host σ) (now : Nat) (endpoint : Endpoint) (surroundings : σ) :
    Option (Endpoint × σ) :=
  match endpoint.inbox with
  | [] => none
  | signal :: inbox =>
    let (handled, surroundings) :=
      ({ endpoint with inbox } : Endpoint).handle host now signal surroundings
    let (sent, surroundings) :=
      if handled.running then handled.sendAll host now surroundings else (handled, surroundings)
    some (sent.stopIfDrained, surroundings)

/-- The drain timeout is over. -/
def Endpoint.isOverdue (endpoint : Endpoint) (now : Nat) : Bool :=
  endpoint.running && endpoint.deadline.any (· ≤ now)

end DatagramLink
