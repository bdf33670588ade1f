import DatagramLink.Proofs.Endpoint.Worklog
import DatagramLink.Proofs.Line.Basic

namespace DatagramLink

/-- What has come of the session, if the entry says that. -/
def Worklog.Entry.occurrence? : Worklog.Entry → Option Session.Occurrence
  | .came occurrence => some occurrence
  | .took .. | .finished _ | .gaveUp _ | .brokeDown => none

/-- What has come of the session, latest first. -/
def Worklog.occurrences (entries : List Worklog.Entry) : List Session.Occurrence :=
  entries.filterMap Worklog.Entry.occurrence?

/-- When the worker turned to the first request to shut down. -/
def Worklog.shutdownAt? : List Worklog.Entry → Option Nat
  | [] => none
  | entry :: earlier => (Worklog.shutdownAt? earlier).or entry.shutdown?

/-- Where the record leaves the worker, which starts by asking for a reset. It breaks down with the
first request to shut down if the clock cannot tell when to stop. -/
def Worklog.standing (drain : Duration) : List Worklog.Entry → Worklog.Standing
  | [] => .handling
  | .came _ :: earlier => Worklog.standing drain earlier
  | .took .shutdown now :: earlier =>
    if (Worklog.shutdownAt? earlier).isNone && (drain.after? now).isNone then .failing else .handling
  | .took .. :: _ => .handling
  | .finished stops :: _ => if stops then .stopped else .waiting
  | .gaveUp _ :: _ | .brokeDown :: _ => .stopped

/-- Where the worker is, seen from the endpoint itself. -/
def Interplay.standing (play : Interplay) : Worklog.Standing :=
  if play.endpoint.running then play.stage.standing else .stopped

/-- Datagrams are taken over until the intake is closed, which comes before every request to shut
down that is handled. A worker that is done with a signal stops just if a request was handled by
then and nothing is queued. It gives up waiting only when the drain timeout is over, counted from
the first request. -/
def Worklog.Entry.Fits (drain : Duration) (earlier : List Worklog.Entry) : Worklog.Entry → Prop
  | .came occurrence => occurrence.datagram? = none ∨ .came .closed ∉ earlier
  | .took signal _ =>
    Worklog.standing drain earlier = .waiting ∧ (signal = .shutdown → .came .closed ∈ earlier)
  | .finished stops =>
    Worklog.standing drain earlier = .handling ∧
      (stops = true ↔ Worklog.shutdownAt? earlier ≠ none ∧
        Session.inCustody (Worklog.occurrences earlier) = [])
  | .gaveUp now =>
    Worklog.standing drain earlier = .waiting ∧
      ∃ begun, Worklog.shutdownAt? earlier = some begun ∧ begun + drain.ticks ≤ now
  | .brokeDown => Worklog.standing drain earlier = .failing

/-- Every entry fits those before it. -/
def Worklog.Lawful (drain : Duration) (entries : List Worklog.Entry) : Prop :=
  ∀ entry earlier, entry :: earlier <:+ entries → entry.Fits drain earlier

section records

variable {drain : Duration} {entry : Worklog.Entry} {entries : List Worklog.Entry}
  {new : List Session.Occurrence}

theorem Worklog.Lawful.cons (lawful : Worklog.Lawful drain entries)
    (fits : entry.Fits drain entries) : Worklog.Lawful drain (entry :: entries) := by
  intro latest earlier suffix
  rcases List.suffix_cons_iff.mp suffix with same | older
  · cases same
    exact fits
  · exact lawful latest earlier older

theorem Worklog.occurrences_came (new : List Session.Occurrence) (entries : List Worklog.Entry) :
    Worklog.occurrences (new.map .came ++ entries) = new ++ Worklog.occurrences entries := by
  have same : (new.map Worklog.Entry.came).filterMap Worklog.Entry.occurrence? = new := by
    rw [List.filterMap_map]
    exact List.filterMap_some
  rw [Worklog.occurrences, List.filterMap_append, same]
  rfl

theorem Worklog.standing_came (new : List Session.Occurrence) (entries : List Worklog.Entry) :
    Worklog.standing drain (new.map .came ++ entries) = Worklog.standing drain entries := by
  induction new with
  | nil => rfl
  | cons occurrence new ih => exact ih

theorem Worklog.shutdownAt?_cons (entries : List Worklog.Entry) (other : entry.shutdown? = none) :
    Worklog.shutdownAt? (entry :: entries) = Worklog.shutdownAt? entries := by
  rw [Worklog.shutdownAt?, other, Option.or_none]

theorem Worklog.shutdownAt?_came (new : List Session.Occurrence) (entries : List Worklog.Entry) :
    Worklog.shutdownAt? (new.map .came ++ entries) = Worklog.shutdownAt? entries := by
  induction new with
  | nil => rfl
  | cons occurrence new ih =>
    rw [List.map_cons, List.cons_append, Worklog.shutdownAt?_cons _ rfl, ih]

theorem Worklog.closed_mem_came (new : List Session.Occurrence) (entries : List Worklog.Entry) :
    .came .closed ∈ new.map .came ++ entries ↔ .closed ∈ new ∨ .came .closed ∈ entries := by
  rw [List.mem_append, List.mem_map]
  simp

/-- Nothing is taken over once the intake is closed. -/
theorem Worklog.Lawful.takenOver_eq_nil {later past : List Worklog.Entry}
    (lawful : Worklog.Lawful drain (later ++ past)) (closed : .came .closed ∈ past) :
    Session.takenOver (Worklog.occurrences later) = [] := by
  refine List.filterMap_eq_nil_iff.mpr fun occurrence member => ?_
  obtain ⟨entry, inLater, came⟩ := List.mem_filterMap.mp (List.mem_reverse.mp member)
  obtain ⟨newer, older, rfl⟩ := List.append_of_mem inLater
  have fits := lawful entry (older ++ past)
    ⟨newer, by rw [List.append_assoc, List.cons_append]⟩
  cases entry with
  | came _ =>
    cases came
    exact fits.resolve_right fun never => never (List.mem_append_right older closed)
  | took signal now => cases came
  | finished stops => cases came
  | gaveUp now => cases came
  | brokeDown => cases came

theorem Worklog.Lawful.came (lawful : Worklog.Lawful drain entries)
    (nothing : ∀ occurrence ∈ new, occurrence.datagram? = none) :
    Worklog.Lawful drain (new.map .came ++ entries) := by
  induction new with
  | nil => exact lawful
  | cons occurrence new ih =>
    obtain ⟨here, others⟩ := List.forall_mem_cons.mp nothing
    exact (ih others).cons (Or.inl here)

/-- The first request to shut down stays the first. -/
theorem Worklog.shutdownAt?_append {begun : Nat} (later : List Worklog.Entry)
    (first : Worklog.shutdownAt? entries = some begun) :
    Worklog.shutdownAt? (later ++ entries) = some begun := by
  induction later with
  | nil => exact first
  | cons entry later ih =>
    rw [List.cons_append, Worklog.shutdownAt?, ih]
    rfl

/-- A worker breaks down over the first request to shut down. -/
theorem Worklog.beyond_of_failing (failing : Worklog.standing drain entries = .failing) :
    ∃ begun, Worklog.shutdownAt? entries = some begun ∧ drain.after? begun = none := by
  induction entries with
  | nil => cases failing
  | cons entry earlier ih =>
    cases entry with
    | came occurrence =>
      rw [Worklog.shutdownAt?_cons _ rfl]
      exact ih failing
    | took signal now =>
      cases signal with
      | shutdown =>
        simp only [Worklog.standing] at failing
        split at failing
        · rename_i breaks
          rw [Bool.and_eq_true, Option.isNone_iff_eq_none, Option.isNone_iff_eq_none] at breaks
          refine ⟨now, ?_, breaks.2⟩
          rw [Worklog.shutdownAt?, breaks.1]
          rfl
        · cases failing
      | _ => cases failing
    | finished stops => cases stops <;> cases failing
    | gaveUp now => cases failing
    | brokeDown => cases failing

/-- As long as the worker goes on, the clock can tell when it has to stop. -/
theorem Worklog.Lawful.inTime (lawful : Worklog.Lawful drain entries)
    (goesOn : Worklog.standing drain entries = .handling ∨
      Worklog.standing drain entries = .waiting) {begun : Nat}
    (first : Worklog.shutdownAt? entries = some begun) : (drain.after? begun).isSome = true := by
  induction entries with
  | nil => cases first
  | cons entry earlier ih =>
    have fits := lawful entry earlier List.suffix_rfl
    have before : Worklog.Lawful drain earlier := fun latest past suffix =>
      lawful latest past (suffix.trans (List.suffix_cons entry earlier))
    cases entry with
    | came occurrence =>
      rw [Worklog.shutdownAt?_cons _ rfl] at first
      exact ih before goesOn first
    | took signal now =>
      cases known : Worklog.shutdownAt? earlier with
      | some begunThen =>
        rw [Worklog.shutdownAt?, known] at first
        cases first
        exact ih before (Or.inr fits.1) known
      | none =>
        rw [Worklog.shutdownAt?, known, Option.none_or] at first
        cases signal with
        | shutdown =>
          cases first
          by_contra beyond
          rw [Bool.not_eq_true, Option.isSome_eq_false_iff] at beyond
          simp only [Worklog.standing, known, Option.isNone_none, beyond, Bool.and_self, if_true,
            reduceCtorEq, or_self] at goesOn
        | _ => cases first
    | finished stops =>
      rw [Worklog.shutdownAt?_cons _ rfl] at first
      exact ih before (Or.inl fits.1) first
    | gaveUp now => rcases goesOn with stopped | stopped <;> cases stopped
    | brokeDown => rcases goesOn with stopped | stopped <;> cases stopped

/-- Nothing breaks down if the clock can tell when to stop. -/
theorem Worklog.Lawful.intact (lawful : Worklog.Lawful drain entries)
    (inTime : ∀ begun, Worklog.shutdownAt? entries = some begun →
      (drain.after? begun).isSome = true) : .brokeDown ∉ entries := by
  intro member
  obtain ⟨later, earlier, rfl⟩ := List.append_of_mem member
  obtain ⟨begun, first, beyond⟩ :=
    Worklog.beyond_of_failing (lawful _ _ (List.suffix_append later _))
  have still : Worklog.shutdownAt? (.brokeDown :: earlier) = some begun := by
    rwa [Worklog.shutdownAt?_cons _ rfl]
  have told := inTime begun (Worklog.shutdownAt?_append later still)
  rw [beyond] at told
  cases told

end records

/-- What the record says of the datagrams is so, and so it was at every entry. -/
structure Worklog.Accounts (drain : Duration) (session : Session) (entries : List Worklog.Entry) :
    Prop where
  custody : session.Custody (Worklog.occurrences entries)
  accepting_iff : session.accepting = true ↔ .came .closed ∉ entries
  lawful : Worklog.Lawful drain entries

section sessions

variable {drain : Duration} {session after : Session} {new : List Session.Occurrence}
  {entries : List Worklog.Entry}

/-- A datagram is taken over by itself, and only while the intake is open. -/
theorem Session.Goes.quiet_or_queued (goes : session.Goes new after) :
    (∀ occurrence ∈ new, occurrence.datagram? = none) ∨
      ∃ datagram, new = [.queued datagram] ∧ session.accepting = true := by
  cases goes with
  | queued submitted =>
    rename_i datagram
    refine Or.inr ⟨datagram, rfl, ?_⟩
    by_contra shut
    rw [Session.submit, eq_false_of_ne_true shut] at submitted
    cases submitted
  | quiet => exact Or.inl (by simp)
  | noted error => exact Or.inl (by simp [Session.Occurrence.datagram?])
  | restarted => exact Or.inl (by simp [Session.Occurrence.datagram?])
  | acknowledged regular ack =>
    cases (session.sender.acknowledge ack).1 <;>
      exact Or.inl (by simp [Coverage.occurrences, Session.Occurrence.datagram?])
  | took fragment =>
    cases (session.receiver.accept fragment).1 <;>
      exact Or.inl (by simp [Verdict.occurrences, Session.Occurrence.datagram?])
  | sent => exact Or.inl (by simp [Session.Occurrence.datagram?])
  | closed => exact Or.inl (by simp [Session.Occurrence.datagram?])

theorem Worklog.Accounts.goes (accounts : Worklog.Accounts drain session entries)
    (goes : session.Goes new after) :
    Worklog.Accounts drain after (new.reverse.map .came ++ entries) := by
  refine ⟨?_, ?_, ?_⟩
  · rw [Worklog.occurrences_came]
    exact accounts.custody.goes goes
  · rw [goes.accepting_iff, accounts.accepting_iff, Worklog.closed_mem_came, List.mem_reverse,
      not_or, and_comm]
  · rcases goes.quiet_or_queued with quiet | ⟨datagram, rfl, accepting⟩
    · exact accounts.lawful.came fun occurrence member =>
        quiet occurrence (List.mem_reverse.mp member)
    · exact accounts.lawful.cons (Or.inr (accounts.accepting_iff.mp accepting))

theorem Worklog.Accounts.performs {settings : Settings} {input? : Option Session.Input}
    (accounts : Worklog.Accounts drain session entries) (sound : session.Sound settings)
    (performs : session.Performs after input?) :
    after.Sound settings ∧ Worklog.Accounts drain after
      ((session.occurrencesIf input?).reverse.map .came ++ entries) := by
  cases input? with
  | none =>
    cases performs
    exact ⟨sound, accounts⟩
  | some input =>
    obtain ⟨made, performed, soundAfter⟩ := sound.perform input
    have same : made = after := Except.ok.inj (performed.symm.trans performs)
    subst same
    let law (session : Session) (past : List Session.Occurrence) : Prop :=
      Worklog.Accounts drain session (past.map .came ++ entries)
    have step {session after : Session} {new past : List Session.Occurrence}
        (goes : session.Goes new after) (holds : law session past) :
        law after (new.reverse ++ past) := by
      have next := Worklog.Accounts.goes holds goes
      rwa [← List.append_assoc, ← List.map_append] at next
    have start : law session [] := accounts
    have kept := (Session.leads_perform sound.sane performed).keeps law step start
    rw [List.append_nil] at kept
    exact ⟨soundAfter, kept⟩

/-- An entry about the worker says nothing of the datagrams. -/
theorem Worklog.Accounts.note {entry : Worklog.Entry}
    (accounts : Worklog.Accounts drain session entries) (apart : entry.occurrence? = none)
    (fits : entry.Fits drain entries) :
    Worklog.Accounts drain session (entry :: entries) := by
  refine ⟨?_, ?_, accounts.lawful.cons fits⟩
  · rw [Worklog.occurrences, List.filterMap_cons_none apart]
    exact accounts.custody
  · rw [accounts.accepting_iff, List.mem_cons, not_or]
    refine ⟨fun shut => ⟨fun same => ?_, shut⟩, And.right⟩
    rw [← same] at apart
    cases apart

end sessions

/-- What every step keeps. -/
structure Worklog.Kept (settings : Settings) (log : Worklog) : Prop where
  sound : log.play.endpoint.session.Sound settings
  accounts : Worklog.Accounts settings.drainTimeout log.play.endpoint.session log.entries
  standing_eq : Worklog.standing settings.drainTimeout log.entries = log.play.standing
  deadline_eq : log.play.endpoint.deadline =
    (Worklog.shutdownAt? log.entries).bind settings.drainTimeout.after?
  idle : log.play.endpoint.running = false →
    log.play.stage.standing = .waiting ∧ log.play.endpoint.inbox = []
  heralded : log.play.Heralds → .came .closed ∈ log.entries

section steps

variable {settings : Settings} {log after : Worklog}

theorem Interplay.standing_of_running {play : Interplay} (running : play.endpoint.running = true) :
    play.standing = play.stage.standing := if_pos running

theorem Worklog.Kept.settings_eq (kept : log.Kept settings) :
    log.play.endpoint.session.settings = settings := kept.sound.sane.profile.settings_eq

theorem Worklog.Kept.deadline_cons (kept : log.Kept settings) {entry : Worklog.Entry}
    (other : entry.shutdown? = none) : log.play.endpoint.deadline =
      (Worklog.shutdownAt? (entry :: log.entries)).bind settings.drainTimeout.after? := by
  rw [Worklog.shutdownAt?_cons log.entries other]
  exact kept.deadline_eq

/-- Where the worker stands, by what it does. -/
theorem Worklog.Kept.stands (kept : log.Kept settings) (running : log.play.endpoint.running = true)
    {stage : Interplay.Stage} (here : log.play.stage = stage) :
    Worklog.standing settings.drainTimeout log.entries = stage.standing :=
  (kept.standing_eq.trans (Interplay.standing_of_running running)).trans
    (congrArg Interplay.Stage.standing here)

/-- A worker that goes on after a request to shut down has a time to stop at. -/
theorem Worklog.Kept.isSome_deadline (kept : log.Kept settings)
    (goesOn : Worklog.standing settings.drainTimeout log.entries = .handling ∨
      Worklog.standing settings.drainTimeout log.entries = .waiting) :
    log.play.endpoint.deadline.isSome = (Worklog.shutdownAt? log.entries).isSome := by
  rw [kept.deadline_eq]
  cases first : Worklog.shutdownAt? log.entries with
  | none => rfl
  | some begun => exact kept.accounts.lawful.inTime goesOn first

/-- The worker stops with a signal just if a request was handled by then and nothing is queued. -/
theorem Worklog.Kept.finished_fits {stops : Bool} (kept : log.Kept settings)
    (reviewing : log.play.stage = .reviewing) (running : log.play.endpoint.running = true)
    (checked : (log.play.endpoint.deadline.isSome && log.play.endpoint.session.isDrained) = stops) :
    (Worklog.Entry.finished stops).Fits settings.drainTimeout log.entries := by
  have stands := kept.stands running reviewing
  refine ⟨stands, ?_⟩
  have empty : log.play.endpoint.session.isDrained =
      (Session.inCustody (Worklog.occurrences log.entries)).isEmpty :=
    kept.accounts.custody.holds.isEmpty_eq
  rw [← checked, Bool.and_eq_true, empty, List.isEmpty_iff, kept.isSome_deadline (Or.inl stands),
    Option.isSome_iff_ne_none]

theorem Worklog.Kept.gaveUp_fits (kept : log.Kept settings) (waiting : log.play.stage = .waiting)
    (overdue : log.play.endpoint.isOverdue log.play.now = true) :
    (Worklog.Entry.gaveUp log.play.now).Fits settings.drainTimeout log.entries := by
  obtain ⟨running, late⟩ := Bool.and_eq_true_iff.mp overdue
  refine ⟨kept.stands running waiting, ?_⟩
  obtain ⟨deadline, set, passed⟩ := (Option.any_eq_true _ _).mp late
  rw [kept.deadline_eq] at set
  obtain ⟨begun, first, ends⟩ := Option.bind_eq_some_iff.mp set
  exact ⟨begun, first, Duration.after?_eq ends ▸ of_decide_eq_true passed⟩

theorem Worklog.Kept.took_fits {signal : Signal} {inbox : List Signal} (kept : log.Kept settings)
    (waiting : log.play.stage = .waiting) (oldest : log.play.endpoint.inbox = signal :: inbox) :
    log.play.endpoint.running = true ∧
      (Worklog.Entry.took signal log.play.now).Fits settings.drainTimeout log.entries := by
  have running : log.play.endpoint.running = true := by
    by_contra stopped
    have empty := (kept.idle (eq_false_of_ne_true stopped)).2
    rw [oldest] at empty
    cases empty
  refine ⟨running, kept.stands running waiting, fun shutdown => kept.heralded (Or.inl ?_)⟩
  rw [oldest, shutdown]
  exact List.mem_cons_self

/-- Only the first request to shut down sets the time to stop at. -/
theorem Worklog.Kept.deadline_took {signal : Signal} (kept : log.Kept settings)
    (waiting : log.play.stage = .waiting) (running : log.play.endpoint.running = true) :
    let entry := Worklog.Entry.took signal log.play.now
    ((Worklog.shutdownAt? log.entries).bind settings.drainTimeout.after?).or
        (entry.shutdown?.bind settings.drainTimeout.after?) =
      (Worklog.shutdownAt? (entry :: log.entries)).bind settings.drainTimeout.after? := by
  intro entry
  rw [Worklog.shutdownAt?]
  cases first : Worklog.shutdownAt? log.entries with
  | none => rfl
  | some begun =>
    have inTime := kept.accounts.lawful.inTime (Or.inr (kept.stands running waiting)) first
    obtain ⟨stop, ends⟩ := Option.isSome_iff_exists.mp inTime
    rw [Option.some_or, Option.bind_some, ends, Option.some_or]

/-- What is kept when the worker has put these entries on record, before anything comes of the
session. -/
structure Worklog.KeptBy (settings : Settings) (session : Session) (input? : Option Session.Input)
    (entries : List Worklog.Entry) (play : Interplay) : Prop where
  accounts : Worklog.Accounts settings.drainTimeout session entries
  standing_eq : Worklog.standing settings.drainTimeout entries = play.standing
  deadline_eq : play.endpoint.deadline =
    (Worklog.shutdownAt? entries).bind settings.drainTimeout.after?
  idle : play.endpoint.running = false → play.stage.standing = .waiting ∧ play.endpoint.inbox = []
  heralded : play.Heralds → .came .closed ∈ entries ∨ input? = some .closeIntake

variable {input? : Option Session.Input}

theorem Worklog.Kept.goesOn (kept : log.Kept settings) {play : Interplay}
    (goes : log.play.GoesOn play)
    (heralds : play.Heralds → log.play.Heralds ∨ input? = some .closeIntake) :
    Worklog.KeptBy settings log.play.endpoint.session input? log.entries play := by
  have standing : play.standing = log.play.standing := by
    simp only [Interplay.standing, goes.running_eq, goes.standing_eq]
  refine ⟨kept.accounts, kept.standing_eq.trans standing.symm,
    goes.deadline_eq.trans kept.deadline_eq, fun stopped => ?_,
    fun heralded => (heralds heralded).imp_left kept.heralded⟩
  rw [goes.running_eq] at stopped
  obtain ⟨waits, empty⟩ := kept.idle stopped
  exact ⟨goes.standing_eq.trans waits, (goes.inbox_eq stopped).trans empty⟩

/-- The record says that the worker is at the signal, since there is a time to stop at if it is a
request to shut down. -/
theorem Worklog.standing_took {drain : Duration} {entries : List Worklog.Entry} {signal : Signal}
    {now : Nat} (told : signal = .shutdown → (((Worklog.shutdownAt? entries).bind drain.after?).or
      ((Worklog.Entry.took signal now).shutdown?.bind drain.after?)).isSome = true) :
    Worklog.standing drain (.took signal now :: entries) = .handling := by
  cases signal with
  | shutdown =>
    have ends := told rfl
    simp only [Worklog.standing]
    cases first : Worklog.shutdownAt? entries with
    | some begun => rfl
    | none =>
      rw [first] at ends
      rw [if_neg]
      rw [Bool.and_eq_true, not_and, Bool.not_eq_true, Option.isNone_eq_false_iff]
      exact fun _ => ends
  | _ => rfl

theorem Worklog.Kept.takes (kept : log.Kept settings) {signal : Signal} {inbox : List Signal}
    {play : Interplay} (waiting : log.play.stage = .waiting)
    (oldest : log.play.endpoint.inbox = signal :: inbox)
    (takes : Interplay.Takes { log.play with endpoint := { log.play.endpoint with inbox } } signal
      play) :
    Worklog.KeptBy settings log.play.endpoint.session input?
      (.took signal log.play.now :: log.entries) play := by
  obtain ⟨running, fits⟩ := kept.took_fits waiting oldest
  have deadline := takes.deadline_eq
  dsimp only at deadline
  rw [kept.deadline_eq, kept.settings_eq] at deadline
  have stands : Worklog.standing settings.drainTimeout
      (.took signal log.play.now :: log.entries) = .handling :=
    Worklog.standing_took fun shutdown => deadline ▸ takes.told shutdown
  refine ⟨kept.accounts.note rfl fits, ?_, ?_, fun stopped => ?_,
    fun heralds => Or.inl (List.mem_cons_of_mem _ (kept.heralded ?_))⟩
  · rw [Interplay.standing_of_running (takes.running_eq.trans running), takes.awake]
    exact stands
  · rw [deadline]
    exact kept.deadline_took waiting running
  · rw [takes.running_eq, running] at stopped
    cases stopped
  · rw [Interplay.Heralds, takes.inbox_eq, takes.unposted_eq] at heralds
    rw [Interplay.Heralds, oldest]
    exact heralds.imp_left (List.mem_cons_of_mem _)

/-- The clock cannot tell when to stop, so the worker is about to break down. -/
theorem Worklog.Kept.falters (kept : log.Kept settings) {inbox : List Signal}
    (waiting : log.play.stage = .waiting)
    (oldest : log.play.endpoint.inbox = .shutdown :: inbox)
    (first : log.play.endpoint.deadline = none)
    (beyond : settings.drainTimeout.after? log.play.now = none) :
    Worklog.KeptBy settings log.play.endpoint.session input?
      (.took .shutdown log.play.now :: log.entries)
      { log.play with endpoint := { log.play.endpoint with inbox }, stage := .failing } := by
  obtain ⟨running, fits⟩ := kept.took_fits waiting oldest
  have unset : Worklog.shutdownAt? log.entries = none := by
    have same := kept.isSome_deadline (Or.inr (kept.stands running waiting))
    rwa [first, Option.isSome_none, eq_comm, Option.isSome_eq_false_iff,
      Option.isNone_iff_eq_none] at same
  refine ⟨kept.accounts.note rfl fits, ?_, ?_, fun stopped => ?_,
    fun heralds => Or.inl (List.mem_cons_of_mem _ (kept.heralded ?_))⟩
  · have failing : Interplay.standing { log.play with
        endpoint := { log.play.endpoint with inbox }, stage := .failing } = .failing :=
      Interplay.standing_of_running running
    rw [failing]
    simp only [Worklog.standing, unset, beyond, Option.isNone_none, Bool.and_self, if_true]
  · show log.play.endpoint.deadline = ((Worklog.shutdownAt? log.entries).or _).bind _
    rw [first, unset]
    exact beyond.symm
  · cases running.symm.trans stopped
  · rw [Interplay.Heralds] at heralds ⊢
    rw [oldest]
    exact heralds.imp_left (List.mem_cons_of_mem _)

/-- A worker that stops waits for nothing more, and its inbox is empty. -/
theorem Worklog.Kept.halts (kept : log.Kept settings) {entry : Worklog.Entry}
    {stage : Interplay.Stage} (fits : entry.Fits settings.drainTimeout log.entries)
    (apart : entry.occurrence? = none) (other : entry.shutdown? = none)
    (last : Worklog.standing settings.drainTimeout (entry :: log.entries) = .stopped)
    (waiting : stage.standing = .waiting) :
    Worklog.KeptBy settings log.play.endpoint.session input? (entry :: log.entries)
      { log.play.halt with stage } := by
  refine ⟨kept.accounts.note apart fits, last, kept.deadline_cons other, fun _ => ⟨waiting, rfl⟩,
    fun heralds => ?_⟩
  have left : log.play.Heralds := Or.inr (heralds.resolve_left List.not_mem_nil)
  exact Or.inl (List.mem_cons_of_mem _ (kept.heralded left))

/-- What the worker puts on record is as it should be, and the record stands where the worker
stands. -/
theorem Worklog.Kept.turns (kept : log.Kept settings) {new? : Option Worklog.Entry}
    {play : Interplay} (turns : log.play.Turns input? new? play) :
    Worklog.KeptBy settings log.play.endpoint.session input? (new?.toList ++ log.entries) play := by
  cases turns with
  | goesOn goes heralds => exact kept.goesOn goes heralds
  | takes waiting oldest takes => exact kept.takes waiting oldest takes
  | falters waiting oldest first beyond =>
    rw [kept.settings_eq] at beyond
    exact kept.falters waiting oldest first beyond
  | stops reviewing running drained =>
    exact kept.halts (kept.finished_fits reviewing running drained) rfl rfl rfl rfl
  | waits reviewing running more =>
    have fits := kept.finished_fits reviewing running more
    have standing : Interplay.standing { log.play with stage := .waiting } = .waiting :=
      Interplay.standing_of_running running
    refine ⟨kept.accounts.note rfl fits, standing.symm, kept.deadline_cons rfl, fun stopped => ?_,
      fun heralds => Or.inl (List.mem_cons_of_mem _ (kept.heralded heralds))⟩
    cases running.symm.trans stopped
  | givesUp waiting overdue =>
    exact kept.halts (kept.gaveUp_fits waiting overdue) rfl rfl rfl
      (congrArg Interplay.Stage.standing waiting)
  | breaksDown failing running =>
    have fits : Worklog.Entry.brokeDown.Fits settings.drainTimeout log.entries :=
      kept.stands running failing
    exact kept.halts fits rfl rfl rfl rfl

theorem Worklog.Kept.step (kept : log.Kept settings) {event : Worklog.Event}
    (stepped : log.step? event = some after) : after.Kept settings := by
  obtain ⟨input?, new?, performs, turns, entries⟩ := Worklog.turns_of_step stepped
    (fun stopped => (kept.idle stopped).1) kept.sound.next_ok
  obtain ⟨accounts, standing, deadline, idle, heralds⟩ := kept.turns turns
  obtain ⟨sound, accountsAfter⟩ := accounts.performs kept.sound performs
  refine ⟨sound, entries ▸ accountsAfter, ?_, ?_, idle, fun heralded => ?_⟩
  · rw [entries, Worklog.standing_came]
    exact standing
  · rw [entries, Worklog.shutdownAt?_came]
    exact deadline
  · rw [entries, Worklog.closed_mem_came]
    rcases heralds heralded with before | closes
    · exact Or.inr before
    · refine Or.inl ?_
      rw [closes]
      exact List.mem_singleton_self _

theorem Worklog.Kept.run (kept : log.Kept settings) {events : List Worklog.Event}
    (ran : log.run? events = some after) : after.Kept settings := by
  induction events generalizing log with
  | nil => cases ran; exact kept
  | cons event events ih =>
    obtain ⟨middle, stepped, later⟩ := Option.bind_eq_some_iff.mp ran
    exact ih (kept.step stepped) later

end steps

/-- A datagram is queued, and the application shuts down. -/
def queuedShutdown : List Worklog.Event :=
  let works (count : Nat) : List Interplay.Move := List.replicate count .work
  let moves : List (List Interplay.Move) :=
    [works 8, [.accept .complete], works 2, [.submit [1, 2], .closeIntake, .post 1], works 2]
  moves.flatten.map .move

/-- Settings with a drain timeout as long as it can be. They pass their check. -/
def Settings.patient : Settings := { Settings.serialLine with drainTimeout := .longest }

theorem Settings.check_patient : Settings.patient.check = .ok () := rfl

/-- The clock never gets as far as that, so the worker breaks down at once, whatever is queued. -/
theorem breaksDown_when_patient : ∃ endpoint log,
    Endpoint.create .patient = .ok endpoint ∧
      (Worklog.start endpoint).run? queuedShutdown = some log ∧
      log.play.endpoint.running = false ∧ log.play.now = 0 ∧
      log.play.endpoint.session.sender.queue.toList = [[1, 2]] := by
  let endpoint : Endpoint :=
    ⟨.ofValid .patient Settings.check_patient, .new, [], none, true⟩
  have created : Endpoint.create .patient = .ok endpoint := rfl
  have ends : ((Worklog.start endpoint).run? queuedShutdown).map (fun log =>
      (log.play.endpoint.running, log.play.now, log.play.endpoint.session.sender.queue.toList)) =
        some (false, 0, [[1, 2]]) := by decide +kernel
  obtain ⟨log, ran, same⟩ := Option.map_eq_some_iff.mp ends
  obtain ⟨stopped, soon, left⟩ : _ ∧ _ ∧ _ := by simpa only [Prod.mk.injEq] using same
  exact ⟨endpoint, log, created, ran, stopped, soon, left⟩

end DatagramLink
