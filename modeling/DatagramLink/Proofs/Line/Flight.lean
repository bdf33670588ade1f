import DatagramLink.Proofs.Line.Basic

namespace DatagramLink

/-- The list is made of segments, possibly empty, whose elements belong to these classes in turn. -/
inductive Segmented {α : Type} : List (α → Prop) → List α → Prop
  | nil : Segmented [] []
  | take {kind : α → Prop} {kinds : List (α → Prop)} {first : α} {rest : List α} :
      kind first → Segmented (kind :: kinds) rest → Segmented (kind :: kinds) (first :: rest)
  | skip {kind : α → Prop} {kinds : List (α → Prop)} {whole : List α} :
      Segmented kinds whole → Segmented (kind :: kinds) whole

section segmented

variable {α : Type} {kind : α → Prop} {kinds : List (α → Prop)} {whole : List α}

theorem segmented_nil (kinds : List (α → Prop)) : Segmented kinds [] := by
  induction kinds with
  | nil => exact .nil
  | cons kind kinds ih => exact .skip ih

theorem segmented_singleton_iff : Segmented [kind] whole ↔ ∀ element ∈ whole, kind element := by
  constructor
  · intro segmented
    induction whole with
    | nil => intro element member; cases member
    | cons first rest ih =>
      cases segmented with
      | take fits rest => exact List.forall_mem_cons.mpr ⟨fits, ih rest⟩
      | skip none => cases none
  · intro fits
    induction whole with
    | nil => exact segmented_nil _
    | cons first rest ih =>
      obtain ⟨head, tail⟩ := List.forall_mem_cons.mp fits
      exact .take head (ih tail)

theorem Segmented.sublist {part : List α} (segmented : Segmented kinds whole)
    (lost : part.Sublist whole) : Segmented kinds part := by
  induction segmented generalizing part with
  | nil => rw [List.sublist_nil.mp lost]; exact .nil
  | take fits _ ih =>
    cases lost with
    | cons _ lost => exact ih lost
    | cons_cons _ lost => exact .take fits (ih lost)
  | skip _ ih => exact .skip (ih lost)

/-- The last segment may grow. -/
theorem Segmented.append (kinds : List (α → Prop)) (segmented : Segmented (kinds ++ [kind]) whole)
    {more : List α} (fits : ∀ element ∈ more, kind element) :
    Segmented (kinds ++ [kind]) (whole ++ more) := by
  generalize classes : kinds ++ [kind] = all at segmented
  induction segmented generalizing kinds with
  | nil => cases kinds <;> cases classes
  | take head _ ih => exact .take head (ih kinds classes)
  | skip tail ih =>
    cases kinds with
    | nil =>
      cases classes
      cases tail
      exact segmented_singleton_iff.mpr fits
    | cons first others =>
      cases classes
      exact .skip (ih others rfl)

/-- Another class may follow. -/
theorem Segmented.extend (segmented : Segmented kinds whole) (more : List (α → Prop)) :
    Segmented (kinds ++ more) whole := by
  induction segmented with
  | nil => exact segmented_nil more
  | take fits _ ih => exact .take fits ih
  | skip _ ih => exact .skip ih

/-- The class of the last segment may become wider. -/
theorem Segmented.widen (kinds : List (α → Prop)) {wider : α → Prop}
    (segmented : Segmented (kinds ++ [kind]) whole)
    (covers : ∀ element, kind element → wider element) : Segmented (kinds ++ [wider]) whole := by
  generalize classes : kinds ++ [kind] = all at segmented
  induction segmented generalizing kinds with
  | nil => cases kinds <;> cases classes
  | take head tail ih =>
    have later := ih kinds classes
    cases kinds with
    | nil =>
      cases classes
      exact .take (covers _ head) later
    | cons first others =>
      cases classes
      exact .take head later
  | skip tail ih =>
    cases kinds with
    | nil =>
      cases classes
      cases tail
      exact segmented_nil _
    | cons first others =>
      cases classes
      exact .skip (ih others rfl)

theorem Segmented.exists_of_mem {element : α} (segmented : Segmented kinds whole)
    (member : element ∈ whole) : ∃ kind ∈ kinds, kind element := by
  induction segmented with
  | nil => cases member
  | take fits _ ih =>
    cases member with
    | head => exact ⟨_, List.mem_cons_self .., fits⟩
    | tail _ member => exact ih member
  | skip _ ih =>
    obtain ⟨kind, listed, fits⟩ := ih member
    exact ⟨kind, List.mem_cons_of_mem _ listed, fits⟩

end segmented

/-- A packet that carries a fragment, or nothing but what it says in its header. -/
def Packet.IsData (packet : Packet) : Prop := packet.header.code.kind = .data

/-- A packet that asks for a reset. -/
def Packet.IsReset (packet : Packet) : Prop := packet.header.code.kind = .reset

instance : DecidablePred Packet.IsData :=
  fun packet => inferInstanceAs (Decidable (packet.header.code.kind = .data))

instance : DecidablePred Packet.IsReset :=
  fun packet => inferInstanceAs (Decidable (packet.header.code.kind = .reset))

theorem Packet.IsData.not_isReset {packet : Packet} (data : packet.IsData) : ¬ packet.IsReset := by
  intro reset
  cases data.symm.trans reset

/-- What a packet carries of a datagram. Handshake packets carry something else. -/
def Packet.fragment? (packet : Packet) : Option Fragment :=
  if packet.header.code.kind = .data then Fragment.ofPacket? packet else none

/-- The number that a packet says its sender expects. A handshake packet says none. -/
def Packet.ack? (packet : Packet) : Option UInt8 :=
  if packet.header.code.kind = .data then some packet.header.ack else none

theorem Packet.IsData.fragment?_eq {packet : Packet} (data : packet.IsData) :
    packet.fragment? = Fragment.ofPacket? packet := if_pos data

theorem Packet.IsData.ack?_eq {packet : Packet} (data : packet.IsData) :
    packet.ack? = some packet.header.ack := if_pos data

theorem Packet.fragment?_of_not_data {packet : Packet} (other : ¬ packet.IsData) :
    packet.fragment? = none := if_neg other

theorem Packet.ack?_of_not_data {packet : Packet} (other : ¬ packet.IsData) :
    packet.ack? = none := if_neg other

theorem Packet.IsReset.fragment?_eq {packet : Packet} (reset : packet.IsReset) :
    packet.fragment? = none :=
  Packet.fragment?_of_not_data fun data => data.not_isReset reset

theorem Packet.IsReset.ack?_eq {packet : Packet} (reset : packet.IsReset) : packet.ack? = none :=
  Packet.ack?_of_not_data fun data => data.not_isReset reset

/-- When a packet arrives, what was sent before it is lost or arrived earlier. -/
theorem of_stillInFlight?_cons {packet : Packet} {others inFlight left : List Packet}
    (arrived : stillInFlight? (packet :: others) inFlight = some left) :
    ∃ later, (packet :: later).Sublist inFlight ∧ stillInFlight? others later = some left := by
  induction inFlight with
  | nil => cases arrived
  | cons sent later ih =>
    unfold stillInFlight? at arrived
    split at arrived
    · rename_i same
      rw [same]
      exact ⟨later, List.Sublist.refl _, arrived⟩
    · obtain ⟨rest, sublist, arrived⟩ := ih arrived
      exact ⟨rest, sublist.cons sent, arrived⟩

theorem of_stillInFlight?_nil {packets left : List Packet}
    (arrived : stillInFlight? packets [] = some left) : packets = [] ∧ left = [] := by
  cases packets with
  | nil =>
    rw [stillInFlight?] at arrived
    cases arrived
    exact ⟨rfl, rfl⟩
  | cons packet others => cases arrived

/-- A single packet in flight arrives, or it stays in flight. -/
theorem of_stillInFlight?_singleton {packets left : List Packet} {sent : Packet}
    (arrived : stillInFlight? packets [sent] = some left) :
    packets = [] ∧ left = [sent] ∨ packets = [sent] ∧ left = [] := by
  cases packets with
  | nil =>
    rw [stillInFlight?] at arrived
    cases arrived
    exact Or.inl ⟨rfl, rfl⟩
  | cons packet others =>
    unfold stillInFlight? at arrived
    split at arrived
    · rename_i same
      obtain ⟨rfl, rfl⟩ := of_stillInFlight?_nil arrived
      exact Or.inr ⟨by rw [same], rfl⟩
    · cases of_stillInFlight?_nil arrived with
      | intro no => cases no

end DatagramLink
