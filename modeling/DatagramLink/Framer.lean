import DatagramLink.Packet

namespace DatagramLink

/-- How far into a packet the framer is, with the bytes it will need again. -/
inductive Framer.Phase where
  /-- Looking for the start delimiter; `half` if its first byte was the last one seen. -/
  | preamble (half : Bool)
  | header (got : Bytes)
  /-- The raw header is kept because the checksum covers its reserved bytes too. -/
  | payload (raw : Bytes) (header : Header) (got : Bytes)
  | footer (raw : Bytes) (header : Header) (payload got : Bytes)
  deriving DecidableEq, Repr

/-- What the framer reports of the byte stream. After each of them it looks for a start
delimiter again. -/
inductive Framer.Event where
  /-- a complete packet whose checksum is right -/
  | packet (packet : Packet)
  | checksumMismatch (header : Header)
  /-- a header that cannot be read or declares more payload than is accepted -/
  | invalidHeader
  deriving DecidableEq, Repr

/-- What a framer remembers between two chunks. The stream arrives in chunks of any size, so a
chunk may end anywhere in a packet. Bytes that are no part of a packet are skipped. -/
structure Framer where
  /-- The largest payload a header may declare. -/
  maxPayload : Nat
  phase : Framer.Phase
  deriving DecidableEq, Repr

/-- A framer that has seen nothing yet. -/
def Framer.new (maxPayload : Nat) : Framer := ⟨maxPayload, .preamble false⟩

/-- No byte of a packet was seen yet, not even half a start delimiter. -/
def Framer.isWaiting (framer : Framer) : Bool := framer.phase = .preamble false

/-- Forgets a partly received packet. -/
def Framer.forget (framer : Framer) : Framer := { framer with phase := .preamble false }

/-- The name of a phase in a log. -/
def Framer.Phase.name : Framer.Phase → String
  | .preamble _ => "Preamble"
  | .header _ => "Header"
  | .payload .. => "Payload"
  | .footer .. => "Footer"

/-- Looks for the start delimiter. A repeated first byte may still be the start of it. -/
def Framer.seek : Bool → Bytes → Framer.Phase × Bytes
  | half, [] => (.preamble half, [])
  | half, byte :: rest =>
    if half && byte == 0x43 then (.header [], rest) else Framer.seek (byte == 0x68) rest

/-- What a complete header leads to. -/
def Framer.enter (maxPayload : Nat) (raw : Bytes) : Framer.Phase × Option Framer.Event :=
  match Header.decode raw with
  | .error _ => (.preamble false, some .invalidHeader)
  | .ok (header, _) =>
    if maxPayload < header.length.toNat then (.preamble false, some .invalidHeader)
    else if header.length = 0 then (.footer raw header [] [], none)
    else (.payload raw header [], none)

/-- The event that ends a complete packet. -/
def Framer.judge (raw : Bytes) (header : Header) (payload footer : Bytes) : Framer.Event :=
  if (Checksum.decode? footer).any (Checksum.verify raw payload) then .packet ⟨header, payload⟩
  else .checksumMismatch header

/-- Where one stretch of input leads: the next phase, the input that is left, and the event the
stretch ended with. -/
structure Framer.Stretch where
  phase : Framer.Phase
  rest : Bytes
  event : Option Framer.Event := none

/-- Reads up to the next change of phase, or to the end of the input. -/
def Framer.advance (maxPayload : Nat) (phase : Framer.Phase) (input : Bytes) : Framer.Stretch :=
  match phase with
  | .preamble half =>
    let (next, rest) := Framer.seek half input
    { phase := next, rest }
  | .header got =>
    let missing := Header.size - got.length
    let got := got ++ input.take missing
    let rest := input.drop missing
    if got.length < Header.size then { phase := .header got, rest }
    else
      let (next, event) := Framer.enter maxPayload got
      { phase := next, rest, event }
  | .payload raw header got =>
    let missing := header.length.toNat - got.length
    let got := got ++ input.take missing
    let rest := input.drop missing
    if got.length < header.length.toNat then { phase := .payload raw header got, rest }
    else { phase := .footer raw header got [], rest }
  | .footer raw header payload got =>
    let missing := Checksum.size - got.length
    let got := got ++ input.take missing
    let rest := input.drop missing
    if got.length < Checksum.size then { phase := .footer raw header payload got, rest }
    else { phase := .preamble false, rest, event := some (Framer.judge raw header payload got) }

/-- Phases later in a packet rank lower, and the phase between packets ranks lowest. -/
def Framer.Phase.rank : Framer.Phase → Nat
  | .preamble _ => 0
  | .footer .. => 1
  | .payload .. => 2
  | .header _ => 3

theorem Framer.Phase.rank_le (phase : Framer.Phase) : phase.rank ≤ 3 := by
  cases phase <;> simp [Framer.Phase.rank]

theorem Framer.seek_rest_le (half : Bool) (input : Bytes) :
    (Framer.seek half input).2.length ≤ input.length := by
  fun_induction Framer.seek half input with
  | case1 => exact Nat.le_refl _
  | case2 => exact Nat.le_succ _
  | case3 _ _ _ _ ih => exact Nat.le_succ_of_le ih

theorem Framer.seek_rest_lt (half : Bool) (byte : UInt8) (rest : Bytes) :
    (Framer.seek half (byte :: rest)).2.length < (byte :: rest).length := by
  unfold Framer.seek
  split
  · exact Nat.lt_succ_self _
  · exact Nat.lt_succ_of_le (Framer.seek_rest_le _ _)

theorem Framer.rank_enter_lt (maxPayload : Nat) (raw : Bytes) :
    (Framer.enter maxPayload raw).1.rank < 3 := by
  unfold Framer.enter
  split
  · simp [Framer.Phase.rank]
  · split
    · simp [Framer.Phase.rank]
    · split <;> simp [Framer.Phase.rank]

/-- Every stretch either reads something or moves on to a later phase of the same packet. -/
theorem Framer.advance_shortens (maxPayload : Nat) (phase : Framer.Phase) (byte : UInt8)
    (rest : Bytes) :
    let stretch := Framer.advance maxPayload phase (byte :: rest)
    4 * stretch.rest.length + stretch.phase.rank < 4 * (byte :: rest).length + phase.rank := by
  cases phase with
  | preamble half =>
    have shorter := Framer.seek_rest_lt half byte rest
    have bound := (Framer.seek half (byte :: rest)).1.rank_le
    simp only [Framer.advance]
    omega
  | header got =>
    have lower := Framer.rank_enter_lt maxPayload
      (got ++ (byte :: rest).take (Header.size - got.length))
    have here : (Framer.Phase.header got).rank = 3 := rfl
    simp only [Framer.advance]
    split
    · rename_i short
      simp only [List.length_append, List.length_take, Header.size, List.length_cons] at short
      simp only [Framer.Phase.rank, List.length_drop, Header.size, List.length_cons]
      omega
    · simp only [List.length_drop]
      omega
  | payload raw header got =>
    simp only [Framer.advance]
    split
    · rename_i short
      simp only [List.length_append, List.length_take, List.length_cons] at short
      simp only [Framer.Phase.rank, List.length_drop, List.length_cons]
      omega
    · simp only [Framer.Phase.rank, List.length_drop]
      omega
  | footer raw header payload got =>
    simp only [Framer.advance]
    split
    · rename_i short
      simp only [List.length_append, List.length_take, Checksum.size, List.length_cons] at short
      simp only [Framer.Phase.rank, List.length_drop, Checksum.size, List.length_cons]
      omega
    · simp only [Framer.Phase.rank, List.length_drop]
      omega

/-- Reads a whole chunk, with the events in the order they occurred. -/
def Framer.readAll (maxPayload : Nat) (phase : Framer.Phase) :
    Bytes → Framer.Phase × List Framer.Event
  | [] => (phase, [])
  | byte :: rest =>
    let stretch := Framer.advance maxPayload phase (byte :: rest)
    let (last, events) := Framer.readAll maxPayload stretch.phase stretch.rest
    (last, stretch.event.toList ++ events)
termination_by input => 4 * input.length + phase.rank
decreasing_by exact Framer.advance_shortens maxPayload phase byte rest

/-- Takes in the next chunk of the stream, up to its last byte. A partly received packet at its
end is remembered. -/
def Framer.feed (framer : Framer) (chunk : Bytes) : Framer × List Framer.Event :=
  let (phase, events) := Framer.readAll framer.maxPayload framer.phase chunk
  ({ framer with phase }, events)

end DatagramLink
