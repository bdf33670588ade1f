import DatagramLink.Damage
import DatagramLink.Session.Arrival
import DatagramLink.Session.Departure

namespace DatagramLink

/-- The two ends of a link. -/
inductive Side where
  | a | b
  deriving DecidableEq, Repr

/-- The end that a packet of this side arrives at. -/
def Side.other : Side → Side
  | .a => .b
  | .b => .a

theorem Side.other_other (side : Side) : side.other.other = side := by
  cases side <;> rfl

/-- The name of a side in a log. -/
def Side.name : Side → String
  | .a => "a"
  | .b => "b"

/-- Two sessions joined by a link without any delay: sending a packet, completing the send and
the packet's arrival, if it arrives, are one step. -/
structure Exchange where
  a : Session
  b : Session
  deriving DecidableEq, Repr

/-- The session at a side. -/
def Exchange.get (exchange : Exchange) : Side → Session
  | .a => exchange.a
  | .b => exchange.b

/-- Puts a session in the place of the one at a side. -/
def Exchange.set (exchange : Exchange) (side : Side) (session : Session) : Exchange :=
  match side with
  | .a => { exchange with a := session }
  | .b => { exchange with b := session }

/-- How a packet travels. -/
structure Passage where
  damage : Damage := .harmless
  /-- The bytes arrive in chunks of this size, or all at once if it is 0. -/
  chunk : Nat := 0
  deriving DecidableEq, Repr

/-- What arriving bytes did: whether the receiver was between packets after each chunk, and the
reaction of all chunks. -/
structure Arrival where
  waiting : List Bool
  reaction : Reaction
  deriving DecidableEq, Repr

instance : Append Arrival where
  append first second := ⟨first.waiting ++ second.waiting, first.reaction ++ second.reaction⟩

/-- Takes in a chunk and looks where that leaves the receiver. -/
def Session.arrive (session : Session) (chunk : Bytes) : Session × Arrival :=
  let (session, reaction) := session.receive chunk
  (session, ⟨[session.framer.isWaiting], reaction⟩)

/-- Takes in several chunks, one after another. -/
def Session.receiveAll (session : Session) : List Bytes → Session × Arrival
  | [] => (session, ⟨[], {}⟩)
  | chunk :: chunks =>
    let (session, first) := session.arrive chunk
    let (session, others) := session.receiveAll chunks
    (session, first ++ others)

/-- What is seen of a packet that one side sent. -/
structure Transfer where
  sender : Side
  /-- The packet before any damage. -/
  sent : Bytes
  reaction : Reaction
  /-- Nothing if the packet was lost. -/
  arrival : Option Arrival
  deriving DecidableEq, Repr

/-- Moves the next packet of one side over to the other, if it has one. -/
def Exchange.transfer (exchange : Exchange) (side : Side) (passage : Passage) :
    Except Fault (Option (Transfer × Exchange)) :=
  match (exchange.get side).next with
  | .error fault => .error fault
  | .ok none => .ok none
  | .ok (some departure) =>
    let sent := departure.packet.encode
    let exchange := exchange.set side (departure.session.sendDone (.ok ()))
    match passage.damage.apply sent with
    | none => .ok (some (⟨side, sent, departure.reaction, none⟩, exchange))
    | some bytes =>
      let (peer, arrival) :=
        (exchange.get side.other).receiveAll (chunksOf passage.chunk bytes)
      .ok (some (⟨side, sent, departure.reaction, some arrival⟩, exchange.set side.other peer))

/-- One side's turn, unless enough packets were sent already. -/
def Exchange.turn (exchange : Exchange) (passage : Nat → Passage) (limit sent : Nat) (side : Side) :
    Except Fault (List Transfer × Exchange) :=
  if limit ≤ sent then .ok ([], exchange)
  else match exchange.transfer side (passage sent) with
    | .error fault => .error fault
    | .ok none => .ok ([], exchange)
    | .ok (some (transfer, exchange)) => .ok ([transfer], exchange)

/-- Both sides send in turns, until `limit` packets were sent or neither side has one. `passage`
says how each packet travels, `sent` counts the packets so far. -/
def Exchange.pump (exchange : Exchange) (passage : Nat → Passage) (limit sent : Nat) :
    Except Fault (List Transfer × Exchange) := do
  let (first, exchange) ← exchange.turn passage limit sent .a
  let (second, exchange) ← exchange.turn passage limit (sent + first.length) .b
  let next := sent + first.length + second.length
  if _ : sent < next ∧ next < limit then
    let (others, exchange) ← exchange.pump passage limit next
    return (first ++ second ++ others, exchange)
  else return (first ++ second, exchange)
termination_by limit - sent
decreasing_by omega

end DatagramLink
