import DatagramLink.Proofs.Framing.Bytewise

namespace DatagramLink

/-- What the callers of a framer do: chunks come in any number and of any size, and at any time
a partly received packet may be forgotten. -/
inductive Framer.Call where
  | feed (chunk : Bytes)
  | forget

/-- The part of a packet that the next byte belongs to. -/
inductive Framer.Part where
  | preamble | header | payload | footer
  deriving DecidableEq, Repr

/-- The part of a packet that a phase is about. -/
def Framer.Phase.part : Framer.Phase → Framer.Part
  | .preamble _ => .preamble
  | .header _ => .header
  | .payload .. => .payload
  | .footer .. => .footer

/-- What a caller learns from one call: the events it raised and where it left the framer. -/
structure Framer.Observation where
  events : List Framer.Event
  part : Framer.Part
  isWaiting : Bool
  deriving DecidableEq, Repr

namespace Framer

/-- What a call reports, and what becomes of the framer. -/
def call (framer : Framer) : Framer.Call → Framer × List Framer.Event
  | .feed chunk => framer.feed chunk
  | .forget => (framer.forget, [])

/-- The framer after these calls. -/
def after (framer : Framer) : List Framer.Call → Framer
  | [] => framer
  | call :: calls => (framer.call call).1.after calls

/-- All that a caller sees of these calls. -/
def observe (framer : Framer) : List Framer.Call → List Framer.Observation
  | [] => []
  | call :: calls =>
    let (framer, events) := framer.call call
    { events, part := framer.phase.part, isWaiting := framer.isWaiting } :: framer.observe calls

end Framer

section reached

/-- A header is kept only if what it declares is accepted. -/
def Framer.Phase.Within (maxPayload : Nat) : Framer.Phase → Prop
  | .payload _ declared _ | .footer _ declared _ _ => declared.length.toNat ≤ maxPayload
  | .preamble _ | .header _ => True

variable {maxPayload : Nat} {phase : Framer.Phase}

theorem Framer.within_enter (maxPayload : Nat) (raw : Bytes) :
    (Framer.enter maxPayload raw).1.Within maxPayload := by
  unfold Framer.enter
  split
  · exact trivial
  · split
    · exact trivial
    · rename_i accepted
      split <;> exact Nat.le_of_not_lt accepted

theorem Framer.within_absorb (within : phase.Within maxPayload) (byte : UInt8) :
    (Framer.absorb maxPayload phase byte).1.Within maxPayload := by
  cases phase with
  | preamble half =>
    simp only [Framer.absorb]
    split <;> exact trivial
  | header got =>
    simp only [Framer.absorb]
    split
    · exact trivial
    · exact Framer.within_enter _ _
  | payload raw header got =>
    simp only [Framer.absorb]
    split <;> exact within
  | footer raw header payload got =>
    simp only [Framer.absorb]
    split
    · exact within
    · exact trivial

theorem Framer.within_absorbAll (within : phase.Within maxPayload) (input : Bytes) :
    (Framer.absorbAll maxPayload phase input).1.Within maxPayload := by
  induction input generalizing phase with
  | nil => exact within
  | cons byte rest ih => exact ih (Framer.within_absorb within byte)

/-- What calls can make of a new framer. -/
structure Framer.Reached (framer : Framer) : Prop where
  unfinished : framer.phase.Partial
  whole : framer.phase.Exact
  within : framer.phase.Within framer.maxPayload

theorem Framer.reached_new (maxPayload : Nat) : (Framer.new maxPayload).Reached :=
  ⟨trivial, trivial, trivial⟩

theorem Framer.Reached.feed {framer : Framer} (reached : framer.Reached) (chunk : Bytes) :
    (framer.feed chunk).1.Reached := by
  rw [Framer.feed_eq_absorbAll reached.unfinished]
  exact ⟨Framer.partial_absorbAll _ reached.unfinished chunk,
    (Framer.exact_absorbAll _ reached.unfinished reached.whole chunk).1,
    Framer.within_absorbAll reached.within chunk⟩

theorem Framer.Reached.call {framer : Framer} (reached : framer.Reached) (call : Framer.Call) :
    (framer.call call).1.Reached ∧ (framer.call call).1.maxPayload = framer.maxPayload := by
  cases call with
  | feed chunk => exact ⟨reached.feed chunk, rfl⟩
  | forget => exact ⟨⟨trivial, trivial, trivial⟩, rfl⟩

theorem Framer.Reached.after {framer : Framer} (reached : framer.Reached)
    (calls : List Framer.Call) :
    (framer.after calls).Reached ∧ (framer.after calls).maxPayload = framer.maxPayload := by
  induction calls generalizing framer with
  | nil => exact ⟨reached, rfl⟩
  | cons call calls ih =>
    obtain ⟨next, same⟩ := reached.call call
    obtain ⟨last, still⟩ := ih next
    exact ⟨last, still.trans same⟩

theorem Framer.reached_after (maxPayload : Nat) (calls : List Framer.Call) :
    ((Framer.new maxPayload).after calls).Reached ∧
      ((Framer.new maxPayload).after calls).maxPayload = maxPayload :=
  (Framer.reached_new maxPayload).after calls

end reached

section events

variable {maxPayload : Nat} {phase : Framer.Phase} {event : Framer.Event}

theorem Framer.enter_raised {raw : Bytes} (raised : (Framer.enter maxPayload raw).2 = some event) :
    (Framer.enter maxPayload raw).1 = .preamble false := by
  unfold Framer.enter at raised ⊢
  split
  · rfl
  · split
    · rfl
    · rename_i header _ read accepted
      simp only [read, if_neg accepted] at raised
      split at raised <;> cases raised

/-- Every event is the end of a packet. -/
theorem Framer.absorb_raised {byte : UInt8}
    (raised : (Framer.absorb maxPayload phase byte).2 = some event) :
    (Framer.absorb maxPayload phase byte).1 = .preamble false := by
  cases phase with
  | preamble half => cases raised
  | header got =>
    simp only [Framer.absorb] at raised ⊢
    split at raised
    · cases raised
    · rename_i complete
      rw [if_neg complete]
      exact Framer.enter_raised raised
  | payload raw declared got =>
    simp only [Framer.absorb] at raised
    split at raised <;> cases raised
  | footer raw declared payload got =>
    simp only [Framer.absorb] at raised ⊢
    split at raised
    · cases raised
    · rename_i complete
      rw [if_neg complete]

/-- The input ends with an event somewhere, and what follows is read from between packets. -/
theorem Framer.absorbAll_raised {input : Bytes} {early late : List Framer.Event}
    (raised : (Framer.absorbAll maxPayload phase input).2 = early ++ event :: late) :
    ∃ first rest, input = first ++ rest ∧
      Framer.absorbAll maxPayload phase first = (.preamble false, early ++ [event]) := by
  induction input generalizing phase early with
  | nil => simp [Framer.absorbAll] at raised
  | cons byte others ih =>
    simp only [Framer.absorbAll] at raised
    cases happens : (Framer.absorb maxPayload phase byte).2 with
    | none =>
      rw [happens] at raised
      obtain ⟨first, rest, rfl, read⟩ := ih raised
      refine ⟨byte :: first, rest, rfl, ?_⟩
      simp only [Framer.absorbAll, happens, read, Option.toList_none, List.nil_append]
    | some here =>
      have waits := Framer.absorb_raised happens
      rw [happens, Option.toList_some, List.singleton_append] at raised
      cases early with
      | nil =>
        obtain ⟨rfl, _⟩ := List.cons.inj raised
        refine ⟨[byte], others, rfl, ?_⟩
        simp only [Framer.absorbAll, happens, waits, Option.toList_some, List.append_nil,
          List.nil_append]
      | cons head early =>
        obtain ⟨rfl, later⟩ := List.cons.inj raised
        obtain ⟨first, rest, rfl, read⟩ := ih later
        refine ⟨byte :: first, rest, rfl, ?_⟩
        simp only [Framer.absorbAll, happens, read, Option.toList_some, List.cons_append,
          List.nil_append]

end events

end DatagramLink
