import DatagramLink.Proofs.Exchange.ComingUp
import DatagramLink.Proofs.Session.Timely

namespace DatagramLink

/-- The order is not about the countdown for a partly received packet. -/
def CountdownOrder.isLasting : CountdownOrder → Bool
  | .start countdown | .stop countdown => countdown ≠ .rxTimeout

/-- A reaction without the orders for the countdown for a partly received packet. -/
def Reaction.lasting (reaction : Reaction) : Reaction :=
  { reaction with orders := reaction.orders.filter CountdownOrder.isLasting }

theorem Reaction.lasting_append (first second : Reaction) :
    (first ++ second).lasting = first.lasting ++ second.lasting := by
  simp only [Reaction.lasting, Reaction.append_def, List.filter_append]

section chunks

variable (session : Session)

theorem Session.reaction_takeAll_append (first second : List Framer.Event) :
    (session.takeAll (first ++ second)).2 =
      (session.takeAll first).2 ++ ((session.takeAll first).1.takeAll second).2 := by
  induction first generalizing session with
  | nil => exact (Reaction.empty_append _).symm
  | cons event events ih =>
    have rest := ih (session.take event).1
    simp only [List.cons_append, Session.takeAll] at rest ⊢
    rw [rest, Reaction.append_assoc]

/-- After a chunk, the countdown for a partly received packet runs just if there is one. -/
theorem Session.watchFramer_eq :
    session.watchFramer.1 = session.behind session.framer (!session.framer.isWaiting) ∧
      session.watchFramer.2.lasting = {} := by
  unfold Session.watchFramer
  split
  · rename_i amid
    rw [amid]
    exact ⟨rfl, rfl⟩
  · rename_i waiting
    rw [Bool.eq_false_iff.mpr waiting]
    split
    · exact ⟨rfl, rfl⟩
    · rename_i idle
      rw [← Bool.eq_false_iff.mpr idle]
      exact ⟨rfl, rfl⟩

/-- What a chunk does is what the packets in it do. -/
theorem Session.receive_framed (chunk : Bytes) :
    (session.receive chunk).1 =
        (session.takeAll (session.framer.feed chunk).2).1.behind (session.framer.feed chunk).1
          (!(session.framer.feed chunk).1.isWaiting) ∧
      (session.receive chunk).2.lasting =
        (session.takeAll (session.framer.feed chunk).2).2.lasting := by
  have handled := session.takeAll_behind (session.framer.feed chunk).1 session.rxArmed
    (session.framer.feed chunk).2
  obtain ⟨state, quiet⟩ := Session.watchFramer_eq
    ((session.takeAll (session.framer.feed chunk).2).1.behind (session.framer.feed chunk).1
      session.rxArmed)
  simp only [Session.behind] at handled state quiet
  unfold Session.receive
  dsimp only
  rw [handled]
  refine ⟨state, ?_⟩
  dsimp only
  rw [Reaction.lasting_append, quiet, Reaction.append_empty]

variable {session}

/-- What several chunks do is what the packets in all of them do. -/
theorem Session.receiveAll_framed (watching : session.rxArmed = !session.framer.isWaiting)
    (chunks : List Bytes) :
    (session.receiveAll chunks).1 =
        (session.takeAll (session.framer.feedAll chunks).2).1.behind
          (session.framer.feedAll chunks).1 (!(session.framer.feedAll chunks).1.isWaiting) ∧
      (session.receiveAll chunks).2.reaction.lasting =
        (session.takeAll (session.framer.feedAll chunks).2).2.lasting ∧
      (chunks ≠ [] → (session.receiveAll chunks).2.waiting.getLast? =
        some (session.framer.feedAll chunks).1.isWaiting) := by
  induction chunks generalizing session with
  | nil =>
    refine ⟨?_, rfl, fun nonempty => absurd rfl nonempty⟩
    exact congrArg (session.behind session.framer) watching
  | cons chunk chunks ih =>
    obtain ⟨state, first⟩ := session.receive_framed chunk
    have watchingStill : (session.receive chunk).1.rxArmed =
        !(session.receive chunk).1.framer.isWaiting := Session.rxArmed_watchFramer _
    have events : (session.framer.feedAll (chunk :: chunks)).2 =
        (session.framer.feed chunk).2 ++ ((session.framer.feed chunk).1.feedAll chunks).2 := rfl
    obtain ⟨last, later, flag⟩ := ih watchingStill
    rw [session.framer_receive chunk, state, Session.takeAll_behind] at last later
    rw [session.framer_receive chunk] at flag
    rw [events, Session.takeAll_append, Session.reaction_takeAll_append]
    refine ⟨?_, ?_, fun _ => ?_⟩
    · rw [← state] at last
      exact last
    · rw [Reaction.lasting_append, ← first, ← later, ← state, ← Reaction.lasting_append]
      rfl
    · cases chunks with
      | nil => exact congrArg (fun framer => some framer.isWaiting) (session.framer_receive chunk)
      | cons second others => exact flag (List.cons_ne_nil _ _)

/-- All bytes together decide what chunks come to. -/
theorem Session.receiveAll_of_flatten (unfinished : session.framer.phase.Partial)
    (watching : session.rxArmed = !session.framer.isWaiting) {chunks others : List Bytes}
    (same : chunks.flatten = others.flatten) :
    (session.receiveAll chunks).1 = (session.receiveAll others).1 ∧
      (session.receiveAll chunks).2.reaction.lasting =
        (session.receiveAll others).2.reaction.lasting ∧
      (chunks ≠ [] → others ≠ [] → (session.receiveAll chunks).2.waiting.getLast? =
        (session.receiveAll others).2.waiting.getLast?) := by
  have framed : session.framer.feedAll chunks = session.framer.feedAll others := by
    rw [Framer.feedAll_eq_absorbAll _ unfinished, Framer.feedAll_eq_absorbAll _ unfinished, same]
  obtain ⟨state, lasting, flag⟩ := Session.receiveAll_framed watching chunks
  obtain ⟨stateToo, lastingToo, flagToo⟩ := Session.receiveAll_framed watching others
  rw [← framed] at stateToo lastingToo flagToo
  exact ⟨state.trans stateToo.symm, lasting.trans lastingToo.symm,
    fun nonempty nonemptyToo => (flag nonempty).trans (flagToo nonemptyToo).symm⟩

end chunks

section runs

variable {settings : Settings} {initial session : Session} {inputs : List Session.Input}

theorem Session.Sane.of_run (sane : initial.Sane settings)
    (ran : initial.run inputs = .ok session) : session.Sane settings := by
  induction inputs generalizing initial with
  | nil => cases ran; exact sane
  | cons input inputs ih =>
    rw [Session.run] at ran
    cases performed : initial.perform input with
    | error => rw [performed] at ran; cases ran
    | ok middle =>
      rw [performed] at ran
      exact ih (sane.of_perform performed) ran

theorem Session.rxArmed_run (watching : initial.rxArmed = !initial.framer.isWaiting)
    (ran : initial.run inputs = .ok session) : session.rxArmed = !session.framer.isWaiting := by
  induction inputs generalizing initial with
  | nil => cases ran; exact watching
  | cons input inputs ih =>
    rw [Session.run] at ran
    cases performed : initial.perform input with
    | error => rw [performed] at ran; cases ran
    | ok middle =>
      rw [performed] at ran
      exact ih (Session.rxArmed_perform watching performed) ran

/-- The countdown for a partly received packet runs just while there is one, in every run. -/
theorem Session.watching_of_run (made : Session.ofSettings settings = .ok initial)
    (ran : initial.run inputs = .ok session) : session.rxArmed = !session.framer.isWaiting := by
  refine Session.rxArmed_run ?_ ran
  obtain ⟨sender, parameters, _, _, rfl⟩ := Session.of_ofSettings made
  rfl

/-- Whatever was done to a session before: if two byte strings come at once or one after the other,
and if any bytes come in these chunks or in those, then it ends up in the same state, between packets
or not, and asks for the same, apart from the countdown for a partly received packet. -/
theorem Session.cuts_unseen (made : Session.ofSettings settings = .ok initial)
    (ran : initial.run inputs = .ok session) :
    (∀ first second : Bytes,
      ((session.arrive first).1.arrive second).1 = (session.arrive (first ++ second)).1 ∧
      ((session.arrive first).1.arrive second).2.waiting =
        (session.arrive (first ++ second)).2.waiting ∧
      ((session.arrive first).2.reaction ++
          ((session.arrive first).1.arrive second).2.reaction).lasting =
        (session.arrive (first ++ second)).2.reaction.lasting) ∧
    ∀ chunks others : List Bytes, chunks.flatten = others.flatten →
      (session.receiveAll chunks).1 = (session.receiveAll others).1 ∧
      (session.receiveAll chunks).2.reaction.lasting =
        (session.receiveAll others).2.reaction.lasting ∧
      (chunks ≠ [] → others ≠ [] → (session.receiveAll chunks).2.waiting.getLast? =
        (session.receiveAll others).2.waiting.getLast?) := by
  have sane := (Session.sane_ofSettings made).of_run ran
  have watching := Session.watching_of_run made ran
  refine ⟨fun first second => ?_, fun chunks others same =>
    Session.receiveAll_of_flatten sane.unfinished watching same⟩
  have same : [first, second].flatten = [first ++ second].flatten := by simp
  obtain ⟨state, lasting, flag⟩ :=
    Session.receiveAll_of_flatten sane.unfinished watching same
  have once : (session.receiveAll [first ++ second]).2.reaction =
      (session.arrive (first ++ second)).2.reaction ++ {} := rfl
  have twice : (session.receiveAll [first, second]).2.reaction =
      (session.arrive first).2.reaction ++
        (((session.arrive first).1.arrive second).2.reaction ++ {}) := rfl
  rw [once, twice, Reaction.append_empty, Reaction.append_empty] at lasting
  have flag := Option.some.inj (flag (List.cons_ne_nil _ _) (List.cons_ne_nil _ _))
  exact ⟨state, congrArg (fun last => [last]) flag, lasting⟩

end runs

/-- The start delimiter of a packet is in. The rest of it comes at once or is cut in its header, its
payload and its footer, and its datagram is delivered either way. -/
theorem cuts_unseen_within_packet :
    let rest := (firstFragment [1, 2]).encode.drop 2
    ∃ session, (Session.ofValid _ Settings.check_serialLine).run (.askReset :: waitingInputs) =
        .ok session ∧
      (session.receiveAll (chunksOf 3 rest)).1 = (session.receiveAll [rest]).1 ∧
      (session.receiveAll (chunksOf 3 rest)).2.reaction.notices =
        (session.receiveAll [rest]).2.reaction.notices ∧
      (session.receiveAll [rest]).2.reaction.notices = [.datagram [1, 2]] := by
  intro rest
  have made := Session.ofSettings_ofValid _ Settings.check_serialLine
  have delivers : ((Session.ofValid _ Settings.check_serialLine).run
      (.askReset :: waitingInputs)).map
        (fun session => (session.receiveAll [rest]).2.reaction.notices) =
          .ok [.datagram [1, 2]] := by decide +kernel
  cases ran : (Session.ofValid _ Settings.check_serialLine).run (.askReset :: waitingInputs) with
  | error => rw [ran] at delivers; cases delivers
  | ok session =>
    rw [ran] at delivers
    have same : (chunksOf 3 rest).flatten = [rest].flatten :=
      (flatten_chunksOf 3 rest).trans (List.append_nil rest).symm
    obtain ⟨state, lasting, _⟩ := (Session.cuts_unseen made ran).2 _ _ same
    have notices := congrArg Reaction.notices lasting
    exact ⟨session, rfl, state, notices, Except.ok.inj delivers⟩

end DatagramLink
