import DatagramLink.Proofs.Endpoint.Interplay
import DatagramLink.Proofs.Line.Basic
import DatagramLink.Proofs.Session.Timeouts

namespace DatagramLink

/-- It is about this countdown. -/
def Deed.isAbout (countdown : Countdown) : Deed → Bool
  | .started expiry | .passedOn expiry _ => expiry.kind = countdown
  | .skipped other | .stopped other => other = countdown
  | .outstanding | .settled | .called | .sending | .handed _ => false

/-- What was done last about a countdown. -/
def latest? (history : List Deed) (countdown : Countdown) : Option Deed :=
  history.find? (Deed.isAbout countdown)

/-- How many times in a row the outstanding packet has timed out, if there is one. -/
def lapsed? : List Deed → Option Nat
  | [] => none
  | .outstanding :: _ => some 0
  | .settled :: _ => none
  | .passedOn expiry _ :: earlier =>
    if expiry.kind = .txTimeout then (lapsed? earlier).map (· + 1) else lapsed? earlier
  | .started _ :: earlier | .skipped _ :: earlier | .stopped _ :: earlier | .called :: earlier
  | .sending :: earlier | .handed _ :: earlier => lapsed? earlier

/-- Each start is told from all others. A message that counts is that of the last start, nothing
was done about its countdown since, and it counts once; a timeout is one more than the last, in a
word of 32 bits. -/
def Deed.Fits (earlier : List Deed) : Deed → Prop
  | .started expiry => .started expiry ∉ earlier
  | .passedOn expiry timeouts =>
    latest? earlier expiry.kind = some (.started expiry) ∧
      (∀ other, .passedOn expiry other ∉ earlier) ∧
      (expiry.kind = .txTimeout →
        ∃ before, lapsed? earlier = some before ∧
          timeouts.map UInt32.toNat = some ((before + 1) % UInt32.size))
  | .skipped _ | .stopped _ | .outstanding | .settled | .called | .sending | .handed _ => True

/-- Every deed fits what was done before it. -/
def Lawful (history : List Deed) : Prop :=
  ∀ deed earlier, deed :: earlier <:+ history → deed.Fits earlier

/-- The countdown runs, or its message has not been looked at yet. -/
def Timers.armed (timers : Timers) (countdown : Countdown) : Bool := (timers.get countdown).armed

section timers

variable (timers : Timers) {countdown other : Countdown}

theorem Timers.get_stop (countdown : Countdown) : (timers.stop countdown).get countdown =
    ⟨(timers.get countdown).generation + 1, false⟩ := by
  cases countdown <;> rfl

theorem Timers.get_stop_of_ne (different : other ≠ countdown) :
    (timers.stop countdown).get other = timers.get other := by
  cases countdown <;> cases other <;> first | rfl | exact absurd rfl different

theorem Timers.get_start (now : Nat) (countdown : Countdown) (ticks : Nat) :
    (timers.start now countdown ticks).get countdown =
      ⟨(timers.get countdown).generation + 1, true⟩ := by
  cases countdown <;> rfl

theorem Timers.get_start_of_ne (now ticks : Nat) (different : other ≠ countdown) :
    (timers.start now countdown ticks).get other = timers.get other := by
  cases countdown <;> cases other <;> first | rfl | exact absurd rfl different

theorem Timers.accept_iff (expiry : Expiry) : (timers.accept expiry).1 = true ↔
    timers.get expiry.kind = ⟨expiry.generation, true⟩ := by
  unfold Timers.accept
  obtain ⟨generation, armed⟩ := timers.get expiry.kind
  dsimp only
  split
  · rename_i current
    obtain ⟨same, running⟩ := current
    exact iff_of_true rfl (by rw [same, running])
  · rename_i stale
    refine iff_of_false Bool.false_ne_true fun same => stale ?_
    cases same
    exact ⟨rfl, rfl⟩

theorem Timers.accept_of_current {timers : Timers} {expiry : Expiry}
    (current : (timers.accept expiry).1 = true) :
    (timers.accept expiry).2 = timers.set expiry.kind ⟨expiry.generation + 1, false⟩ := by
  have running := (timers.accept_iff expiry).mp current
  unfold Timers.accept
  rw [running, if_pos ⟨rfl, rfl⟩]

theorem Timers.armed_of_get {timers after : Timers} {countdown : Countdown} {armed : Bool}
    (here : (after.get countdown).armed = armed)
    (others : ∀ other, other ≠ countdown → after.get other = timers.get other) :
    after.armed = Function.update timers.armed countdown armed := by
  funext other
  by_cases same : other = countdown
  · subst same
    rw [Function.update_self]
    exact here
  · rw [Function.update_of_ne same]
    exact congrArg Timer.armed (others other same)

theorem Timers.armed_stop (countdown : Countdown) :
    (timers.stop countdown).armed = Function.update timers.armed countdown false :=
  Timers.armed_of_get (congrArg Timer.armed (timers.get_stop countdown))
    fun _ => timers.get_stop_of_ne

theorem Timers.armed_start (now : Nat) (countdown : Countdown) (ticks : Nat) :
    (timers.start now countdown ticks).armed = Function.update timers.armed countdown true :=
  Timers.armed_of_get (congrArg Timer.armed (timers.get_start now countdown ticks))
    fun _ => timers.get_start_of_ne now ticks

theorem Timers.armed_accept {timers : Timers} {expiry : Expiry}
    (current : (timers.accept expiry).1 = true) :
    (timers.accept expiry).2.armed = Function.update timers.armed expiry.kind false := by
  rw [Timers.accept_of_current current]
  exact Timers.armed_of_get (congrArg Timer.armed (timers.get_set_self _ _))
    fun _ => timers.get_set_of_ne _

theorem Timers.armed_stopAll (countdown : Countdown) :
    timers.stopAll.armed countdown = false := by
  cases countdown <;> rfl

end timers

/-- The countdowns are as the record says. -/
structure Timers.Tally (timers : Timers) (history : List Deed) : Prop where
  current : ∀ expiry : Expiry, timers.get expiry.kind = ⟨expiry.generation, true⟩ ↔
    latest? history expiry.kind = some (.started expiry)
  started : ∀ expiry, .started expiry ∈ history →
    expiry.generation ≤ (timers.get expiry.kind).generation
  spent : ∀ expiry timeouts, .passedOn expiry timeouts ∈ history →
    expiry.generation < (timers.get expiry.kind).generation

section tally

variable {timers after : Timers} {history : List Deed}

/-- Something is done about one countdown. -/
theorem Timers.Tally.about (tally : timers.Tally history) {countdown : Countdown} {deed : Deed}
    (about : ∀ other, deed.isAbout other = decide (countdown = other))
    (others : ∀ other, other ≠ countdown → after.get other = timers.get other)
    (later : (timers.get countdown).generation ≤ (after.get countdown).generation)
    (current : ∀ generation, after.get countdown = ⟨generation, true⟩ ↔
      deed = .started ⟨countdown, generation⟩)
    (started : ∀ expiry, deed = .started expiry →
      expiry.generation ≤ (after.get expiry.kind).generation)
    (spent : ∀ expiry timeouts, deed = .passedOn expiry timeouts →
      expiry.generation < (after.get expiry.kind).generation) :
    after.Tally (deed :: history) := by
  have grows : ∀ other, (timers.get other).generation ≤ (after.get other).generation := by
    intro other
    by_cases same : other = countdown
    · exact same ▸ later
    · exact Nat.le_of_eq (congrArg Timer.generation (others other same).symm)
  refine ⟨?_, ?_, ?_⟩
  · rintro ⟨kind, generation⟩
    unfold latest?
    by_cases same : kind = countdown
    · subst kind
      rw [List.find?_cons_of_pos (by rw [about, decide_eq_true rfl]), current generation]
      exact ⟨congrArg some, Option.some.inj⟩
    · rw [List.find?_cons_of_neg (by rw [about]; exact fun other => same (of_decide_eq_true other).symm),
        others kind same]
      exact tally.current ⟨kind, generation⟩
  · intro expiry member
    rcases List.mem_cons.mp member with here | earlier
    · exact started expiry here.symm
    · exact Nat.le_trans (tally.started expiry earlier) (grows expiry.kind)
  · intro expiry timeouts member
    rcases List.mem_cons.mp member with here | earlier
    · exact spent expiry timeouts here.symm
    · exact Nat.lt_of_lt_of_le (tally.spent expiry timeouts earlier) (grows expiry.kind)

/-- What concerns no countdown. -/
def Deed.isOther : Deed → Bool
  | .outstanding | .settled | .called | .sending | .handed _ => true
  | .started _ | .skipped _ | .stopped _ | .passedOn .. => false

theorem Timers.Tally.append (tally : timers.Tally history) {deeds : List Deed}
    (others : ∀ deed ∈ deeds, deed.isOther = true) : timers.Tally (deeds ++ history) := by
  have unrelated : ∀ countdown, deeds.find? (Deed.isAbout countdown) = none := by
    intro countdown
    refine List.find?_eq_none.mpr fun deed member => ?_
    have other := others deed member
    cases deed <;> first | exact Bool.false_ne_true | cases other
  refine ⟨?_, ?_, ?_⟩
  · intro expiry
    rw [latest?, List.find?_append, unrelated, Option.none_or]
    exact tally.current expiry
  · intro expiry member
    rcases List.mem_append.mp member with here | earlier
    · cases others _ here
    · exact tally.started expiry earlier
  · intro expiry timeouts member
    rcases List.mem_append.mp member with here | earlier
    · cases others _ here
    · exact tally.spent expiry timeouts earlier

theorem Timers.Tally.stop (tally : timers.Tally history) (countdown : Countdown) :
    (timers.stop countdown).Tally (.stopped countdown :: history) := by
  refine tally.about (fun _ => rfl) (fun _ => timers.get_stop_of_ne) ?_ ?_ nofun nofun
  · rw [timers.get_stop]
    exact Nat.le_succ _
  · intro generation
    rw [timers.get_stop]
    exact ⟨nofun, nofun⟩

theorem Timers.Tally.start (tally : timers.Tally history) (now : Nat) (countdown : Countdown)
    (ticks : Nat) :
    let generation := ((timers.start now countdown ticks).get countdown).generation
    .started ⟨countdown, generation⟩ ∉ history ∧
      (timers.start now countdown ticks).Tally (.started ⟨countdown, generation⟩ :: history) := by
  intro generation
  have next : generation = (timers.get countdown).generation + 1 :=
    congrArg Timer.generation (timers.get_start now countdown ticks)
  constructor
  · intro before
    have earlier : generation ≤ (timers.get countdown).generation := tally.started _ before
    omega
  · refine tally.about (fun _ => rfl) (fun _ => timers.get_start_of_ne now ticks) ?_ ?_ ?_ nofun
    · rw [timers.get_start]
      exact Nat.le_succ _
    · intro other
      rw [timers.get_start, ← next]
      constructor
      · intro same
        cases same
        rfl
      · intro same
        cases same
        rfl
    · intro expiry same
      cases same
      exact Nat.le_refl _

theorem Timers.Tally.skip (tally : timers.Tally history) {countdown : Countdown}
    (idle : (timers.get countdown).armed = false) : timers.Tally (.skipped countdown :: history) := by
  refine tally.about (fun _ => rfl) (fun _ _ => rfl) (Nat.le_refl _) ?_ nofun nofun
  intro generation
  refine ⟨fun same => ?_, nofun⟩
  rw [same] at idle
  cases idle

theorem Timers.Tally.accept (tally : timers.Tally history) {expiry : Expiry}
    (current : (timers.accept expiry).1 = true) (timeouts : Option UInt32) :
    (timers.accept expiry).2.Tally (.passedOn expiry timeouts :: history) := by
  have running := (timers.accept_iff expiry).mp current
  rw [Timers.accept_of_current current]
  refine tally.about (fun _ => rfl) (fun _ => timers.get_set_of_ne _) ?_ ?_ nofun ?_
  · rw [timers.get_set_self, running]
    exact Nat.le_succ _
  · intro generation
    rw [timers.get_set_self]
    exact ⟨nofun, nofun⟩
  · intro other _ same
    cases same
    rw [timers.get_set_self]
    exact Nat.lt_succ_self _

theorem Timers.Tally.stopAll (tally : timers.Tally history) :
    timers.stopAll.Tally (Countdown.all.reverse.map Deed.stopped ++ history) :=
  (((tally.stop .txTimeout).stop .ackDelay).stop .resetRetry).stop .rxTimeout

/-- The countdowns that are on their way make no difference. -/
theorem Timers.Tally.congr (tally : timers.Tally history) (same : after.get = timers.get) :
    after.Tally history := by
  refine ⟨?_, ?_, ?_⟩ <;> rw [same]
  · exact tally.current
  · exact tally.started
  · exact tally.spent

end tally

/-- The sender counts the timeouts of the outstanding packet as the record does, in 32 bits. -/
def Sender.Counts (sender : Sender) (history : List DatagramLink.Deed) : Prop :=
  sender.outstanding.map (·.timeouts) = (lapsed? history).map UInt32.ofNat

theorem Sender.Counts.ofChange {before after : Sender} {history : List DatagramLink.Deed}
    (counts : before.Counts history)
    (keeps : ∀ packet, after.outstanding = some packet → packet.timeouts = before.timeouts) :
    after.Counts (Deed.ofChange before after ++ history) := by
  unfold Sender.Counts at counts ⊢
  unfold Sender.timeouts at keeps
  unfold Deed.ofChange
  cases first : before.outstanding with
  | none =>
    rw [first] at counts keeps
    cases second : after.outstanding with
    | none => exact counts
    | some packet => exact congrArg some (keeps packet second)
  | some packet =>
    rw [first] at counts keeps
    cases second : after.outstanding with
    | none => rfl
    | some other => exact (congrArg some (keeps other second)).trans counts

section orders

variable {first second : Countdown → Bool} {countdown : Countdown}

theorem running_of_update {other : Countdown}
    (still : Function.update first countdown false other = true) : first other = true := by
  by_cases same : other = countdown
  · subst same
    rw [Function.update_self] at still
    cases still
  · rwa [Function.update_of_ne same] at still

theorem CountdownOrder.obey_le (le : first countdown = true → second countdown = true)
    (order : CountdownOrder) :
    order.obey first countdown = true → order.obey second countdown = true := by
  cases order with
  | start other =>
    unfold CountdownOrder.obey
    by_cases same : countdown = other
    · subst same
      simp only [Function.update_self, implies_true]
    · simpa only [Function.update_of_ne same] using le
  | stop other =>
    unfold CountdownOrder.obey
    by_cases same : countdown = other
    · subst same
      simp only [Function.update_self, imp_self]
    · simpa only [Function.update_of_ne same] using le

/-- Carrying out orders keeps apart what was apart only where nothing is ordered. -/
theorem CountdownOrder.foldl_obey_le {orders : List CountdownOrder}
    (le : first countdown = true → second countdown = true) :
    orders.foldl CountdownOrder.obey first countdown = true →
      orders.foldl CountdownOrder.obey second countdown = true := by
  induction orders generalizing first second with
  | nil => exact le
  | cons order orders ih => exact ih (order.obey_le le)

end orders

section laws

variable {history : List Deed} {deed : Deed}

theorem Lawful.cons (lawful : Lawful history) (fits : deed.Fits history) :
    Lawful (deed :: history) := by
  intro other earlier suffix
  rcases List.suffix_cons_iff.mp suffix with same | before
  · cases same
    exact fits
  · exact lawful other earlier before

theorem Lawful.stop (lawful : Lawful history) (countdown : Countdown) :
    Lawful (.stopped countdown :: history) :=
  lawful.cons trivial

theorem Lawful.append (lawful : Lawful history) {deeds : List Deed}
    (others : ∀ deed ∈ deeds, deed.isOther = true) : Lawful (deeds ++ history) := by
  induction deeds with
  | nil => exact lawful
  | cons deed deeds ih =>
    obtain ⟨other, rest⟩ := List.forall_mem_cons.mp others
    refine (ih rest).cons ?_
    cases deed <;> trivial

theorem Deed.isOther_ofChange (before after : Sender) :
    ∀ deed ∈ Deed.ofChange before after, deed.isOther = true := by
  unfold Deed.ofChange
  split <;> decide

end laws

theorem Sender.Counts.elapsed {session : Session} {history : List DatagramLink.Deed}
    (counts : session.sender.Counts history) (expiry : Expiry) (timeouts : Option UInt32) :
    (session.elapsed expiry.kind).1.sender.Counts (.passedOn expiry timeouts :: history) := by
  unfold Sender.Counts at counts ⊢
  rw [lapsed?]
  split
  · rename_i timeout
    have once := congrArg (Option.map (· + 1)) counts
    rw [Option.map_map, Option.map_map] at once
    rw [timeout, session.timeouts_elapsed.2, Option.map_map]
    refine once.trans (congrArg (Option.map · _) (funext fun times => ?_))
    exact (UInt32.ofNat_add times 1).symm
  · rename_i other
    rwa [session.outstanding_elapsed other]

/-- What the session says of a timeout is how often the outstanding packet has timed out by then. -/
theorem Sender.Counts.said {session : Session} {history : List DatagramLink.Deed}
    (counts : session.sender.Counts history) (held : session.sender.outstanding.isSome = true) :
    ∃ before, lapsed? history = some before ∧
      (session.elapsed .txTimeout).2.timeouts.map UInt32.toNat = some ((before + 1) % UInt32.size) := by
  obtain ⟨packet, outstanding⟩ := Option.isSome_iff_exists.mp held
  rw [Sender.Counts, outstanding] at counts
  obtain ⟨before, lapsed, same⟩ := Option.map_eq_some_iff.mp counts.symm
  have next : packet.timeouts + 1 = .ofNat (before + 1) := by
    rw [UInt32.ofNat_add, same]
    rfl
  refine ⟨before, lapsed, ?_⟩
  rw [session.timeouts_elapsed.1, outstanding, Option.map_some, Option.map_some, next,
    UInt32.toNat_ofNat']

/-- The orders that the worker has still to carry out. -/
def Interplay.Stage.orders : Interplay.Stage → List CountdownOrder
  | .obeying orders _ => orders
  | .waiting | .asking | .telling .. | .looking | .handing _ | .reviewing | .failing => []

/-- The record is lawful and says how the countdowns are and how often the outstanding packet has
timed out; and a countdown that runs once the orders are carried out is one the session waits for. -/
structure Interplay.Punctual (settings : Settings) (play : Interplay) : Prop where
  sane : play.endpoint.session.Sane settings
  limit : play.endpoint.session.payloadLimit ≠ 0
  diligent : play.stage ≠ .asking → play.endpoint.session.Diligent
  tally : play.endpoint.timers.Tally play.history
  lawful : Lawful play.history
  counts : play.endpoint.session.sender.Counts play.history
  delayed : ∀ countdown, play.endpoint.timers.armed countdown = true →
    (settings.delay countdown).isSome = true
  awaited : ∀ countdown, (settings.delay countdown).isSome = true →
    play.stage.orders.foldl CountdownOrder.obey play.endpoint.timers.armed countdown = true →
      play.endpoint.session.counting countdown = true

section steps

variable {settings : Settings} {play after : Interplay}

theorem Session.diligent_askReset {session : Session} (limit : session.payloadLimit ≠ 0) :
    session.askReset.1.Diligent where
  awake := nofun
  limit := limit
  watched := nofun
  recovers := nofun
  told := fun _ => rfl
  heldBack := nofun

/-- The session goes on, and the worker turns to the orders that come of it. -/
theorem Interplay.Punctual.perform (punctual : play.Punctual settings) {input : Session.Input}
    {session : Session} (performed : play.endpoint.session.perform input = .ok session)
    (elapsed : ∀ countdown, input ≠ .elapsed countdown) (resting : play.stage.orders = [])
    (diligent : session.Diligent) {stage : Interplay.Stage}
    (orders : stage.orders = play.endpoint.session.orders input) :
    Interplay.Punctual settings { play.become session with stage } := by
  have others := Deed.isOther_ofChange play.endpoint.session.sender session.sender
  refine ⟨punctual.sane.of_perform performed, diligent.limit, fun _ => diligent,
    punctual.tally.append others, punctual.lawful.append others, ?_, punctual.delayed, ?_⟩
  · exact punctual.counts.ofChange fun packet =>
      Session.timeouts_perform (elapsed .txTimeout) performed
  · intro countdown delay running
    have counted := Session.counting_perform performed
    have still : input.expire play.endpoint.session.counting = play.endpoint.session.counting := by
      cases input with
      | elapsed countdown => exact absurd rfl (elapsed countdown)
      | _ => rfl
    rw [still] at counted
    have before := punctual.awaited countdown delay
    rw [resting] at before
    have later : stage.orders.foldl CountdownOrder.obey play.endpoint.session.counting countdown =
        true := CountdownOrder.foldl_obey_le before running
    rwa [orders, counted] at later

/-- What neither the session nor the countdowns have to do with. -/
theorem Interplay.Punctual.congr (punctual : play.Punctual settings)
    (session : after.endpoint.session = play.endpoint.session)
    (timers : after.endpoint.timers.get = play.endpoint.timers.get)
    (history : after.history = play.history) (orders : after.stage.orders = play.stage.orders)
    (asking : after.stage ≠ .asking → play.stage ≠ .asking) : after.Punctual settings := by
  have armed : after.endpoint.timers.armed = play.endpoint.timers.armed := by
    funext countdown
    exact congrArg Timer.armed (congrFun timers countdown)
  refine ⟨?_, ?_, ?_, ?_, ?_, ?_, ?_, ?_⟩
  · exact session ▸ punctual.sane
  · exact session ▸ punctual.limit
  · exact fun notAsking => session ▸ punctual.diligent (asking notAsking)
  · exact history ▸ punctual.tally.congr timers
  · exact history ▸ punctual.lawful
  · rw [history, session]
    exact punctual.counts
  · exact armed ▸ punctual.delayed
  · rw [orders, armed, session]
    exact punctual.awaited

theorem Interplay.Punctual.note (punctual : play.Punctual settings) {deed : Deed}
    (other : deed.isOther = true) (same : lapsed? (deed :: play.history) = lapsed? play.history) :
    Interplay.Punctual settings { play with history := deed :: play.history } := by
  have others : ∀ noted ∈ [deed], Deed.isOther noted = true := List.forall_mem_singleton.mpr other
  exact { punctual with
    tally := punctual.tally.append others
    lawful := punctual.lawful.append others
    counts := punctual.counts.trans (congrArg _ same.symm) }

/-- The worker turns to something else. -/
theorem Interplay.Punctual.move (punctual : play.Punctual settings) {before stage : Interplay.Stage}
    (here : play.stage = before) (orders : stage.orders = before.orders) (asking : before ≠ .asking) :
    Interplay.Punctual settings { play with stage } :=
  punctual.congr rfl rfl rfl (here ▸ orders) fun _ => here ▸ asking

theorem Interplay.Punctual.search (punctual : play.Punctual settings)
    (orders : play.stage.orders = []) (asking : play.stage ≠ .asking) :
    play.search.Punctual settings := by
  have noted := punctual.note (show Deed.sending.isOther = true from rfl) rfl
  exact noted.congr rfl rfl rfl orders.symm fun _ => asking

theorem Interplay.Punctual.post (punctual : play.Punctual settings) (signal : Signal) :
    (play.post signal).Punctual settings := by
  unfold Interplay.post
  rw [play.endpoint.post_eq]
  exact punctual.congr rfl rfl rfl rfl id

/-- Once the worker has carried out an order, what is left to carry out is left. -/
theorem Interplay.Punctual.carryOut (punctual : play.Punctual settings) {order : CountdownOrder}
    {orders : List CountdownOrder} {errand : Interplay.Errand}
    (obeying : play.stage = .obeying (order :: orders) errand) {timers : Timers} {deed : Deed}
    (tally : timers.Tally (deed :: play.history)) (fits : deed.Fits play.history)
    (silent : lapsed? (deed :: play.history) = lapsed? play.history)
    (delayed : ∀ countdown, timers.armed countdown = true →
      (settings.delay countdown).isSome = true)
    (le : ∀ countdown, (settings.delay countdown).isSome = true →
      timers.armed countdown = true → order.obey play.endpoint.timers.armed countdown = true) :
    Interplay.Punctual settings { play with
      endpoint := { play.endpoint with timers }
      stage := .obeying orders errand
      history := deed :: play.history } := by
  have notAsking : play.stage ≠ .asking := by
    rw [obeying]
    exact nofun
  refine ⟨punctual.sane, punctual.limit, fun _ => punctual.diligent notAsking, tally,
    punctual.lawful.cons fits, punctual.counts.trans (congrArg _ silent.symm), delayed, ?_⟩
  intro countdown delay running
  have obeyed : orders.foldl CountdownOrder.obey (order.obey play.endpoint.timers.armed) countdown =
      true := CountdownOrder.foldl_obey_le (le countdown delay) running
  refine punctual.awaited countdown delay ?_
  rw [obeying]
  exact obeyed

theorem Interplay.Punctual.obey (punctual : play.Punctual settings) {order : CountdownOrder}
    {orders : List CountdownOrder} {errand : Interplay.Errand}
    (obeying : play.stage = .obeying (order :: orders) errand) :
    Interplay.Punctual settings { play.obey order with stage := .obeying orders errand } := by
  have same : play.endpoint.session.settings = settings := punctual.sane.profile.settings_eq
  cases order with
  | stop countdown =>
    have armed := play.endpoint.timers.armed_stop countdown
    refine punctual.carryOut obeying (punctual.tally.stop countdown) trivial rfl ?_ ?_
    · intro other running
      rw [armed] at running
      exact punctual.delayed other (running_of_update running)
    · intro other _ running
      rwa [armed] at running
  | start countdown =>
    unfold Interplay.obey Endpoint.obey Deed.ofOrder
    dsimp only
    cases delay : play.endpoint.session.settings.delay countdown with
    | none =>
      have never : (settings.delay countdown).isSome = false := by rw [← same, delay]; rfl
      have idle : play.endpoint.timers.armed countdown = false := by
        by_contra running
        exact absurd (punctual.delayed countdown (Bool.not_eq_false _ ▸ running))
          (ne_true_of_eq_false never)
      simp only [delay]
      refine punctual.carryOut obeying (punctual.tally.skip idle) trivial rfl punctual.delayed ?_
      intro other delayed running
      have different : other ≠ countdown := by
        rintro rfl
        cases never.symm.trans delayed
      show Function.update play.endpoint.timers.armed countdown true other = true
      rwa [Function.update_of_ne different]
    | some duration =>
      have armed := play.endpoint.timers.armed_start play.now countdown duration.ticks
      obtain ⟨fresh, tally⟩ := punctual.tally.start play.now countdown duration.ticks
      simp only [delay]
      refine punctual.carryOut obeying tally fresh rfl ?_ ?_
      · intro other running
        rw [armed] at running
        by_cases started : other = countdown
        · subst started
          rw [← same, delay]
          rfl
        · rw [Function.update_of_ne started] at running
          exact punctual.delayed other running
      · intro other _ running
        rwa [armed] at running

/-- The application may call at any time. -/
theorem Interplay.Punctual.call (punctual : play.Punctual settings) {session : Session}
    (called : play.endpoint.session.Calls session) (wakeup : Wakeup) :
    (play.call session wakeup).Punctual settings := by
  obtain ⟨input, performed⟩ := called.perform
  have sane := punctual.sane.of_perform performed
  obtain ⟨queue, report, accepting, rfl⟩ := called.eq
  have others := Deed.isOther_ofChange play.endpoint.session.sender
    { play.endpoint.session.sender with queue, report }
  have became : Interplay.Punctual settings (play.become { play.endpoint.session with
      accepting, sender := { play.endpoint.session.sender with queue, report } }) := by
    refine ⟨sane, punctual.limit, fun asking => { punctual.diligent asking with },
      punctual.tally.append others, punctual.lawful.append others, ?_, punctual.delayed,
      punctual.awaited⟩
    exact punctual.counts.ofChange fun packet => Sender.timeouts_of_outstanding
  exact (became.note (show Deed.called.isOther = true from rfl) rfl).congr rfl rfl rfl rfl id

theorem Interplay.Punctual.halt (punctual : play.Punctual settings)
    (awake : play.endpoint.session.Diligent) {stage : Interplay.Stage} (orders : stage.orders = []) :
    Interplay.Punctual settings { play.halt with stage } := by
  have stopped : ∀ countdown, play.endpoint.timers.stopAll.armed countdown ≠ true :=
    fun countdown => ne_true_of_eq_false (play.endpoint.timers.armed_stopAll countdown)
  refine ⟨punctual.sane, punctual.limit, fun _ => awake, punctual.tally.stopAll, ?_,
    punctual.counts, fun countdown running => absurd running (stopped countdown), ?_⟩
  · exact (((punctual.lawful.stop .txTimeout).stop .ackDelay).stop .resetRetry).stop .rxTimeout
  · intro countdown _ running
    rw [orders] at running
    exact absurd running (stopped countdown)

/-- A message that counts is passed on. If it is about the outstanding packet, the session has
waited for it, so there is one. -/
theorem Interplay.Punctual.pass (punctual : play.Punctual settings) (waiting : play.stage = .waiting)
    {expiry : Expiry} (current : (play.endpoint.timers.accept expiry).1 = true) :
    Interplay.Punctual settings (Interplay.react { play with
      endpoint := { play.endpoint with
        session := (play.endpoint.session.elapsed expiry.kind).1
        timers := (play.endpoint.timers.accept expiry).2 }
      history := .passedOn expiry (play.endpoint.session.elapsed expiry.kind).2.timeouts ::
        play.history } (play.endpoint.session.elapsed expiry.kind).2) := by
  have notAsking : play.stage ≠ .asking := by
    rw [waiting]
    exact nofun
  have before := punctual.diligent notAsking
  have diligent := before.elapsed expiry.kind
  have performed : play.endpoint.session.perform (.elapsed expiry.kind) =
      .ok (play.endpoint.session.elapsed expiry.kind).1 := rfl
  have running := (play.endpoint.timers.accept_iff expiry).mp current
  have armed := Timers.armed_accept current
  have awaited : ∀ countdown, (settings.delay countdown).isSome = true →
      play.endpoint.timers.armed countdown = true →
        play.endpoint.session.counting countdown = true := by
    have awaited := punctual.awaited
    rwa [waiting] at awaited
  refine ⟨punctual.sane.of_perform performed, diligent.limit, fun _ => diligent,
    punctual.tally.accept current _, punctual.lawful.cons ⟨?_, ?_, ?_⟩, ?_, ?_, ?_⟩
  · exact (punctual.tally.current expiry).mp running
  · intro other counted
    have past := punctual.tally.spent expiry other counted
    rw [running] at past
    exact absurd past (Nat.lt_irrefl _)
  · intro timeout
    have ours : play.endpoint.timers.armed .txTimeout = true := by
      rw [timeout] at running
      exact congrArg Timer.armed running
    rw [timeout]
    exact punctual.counts.said (before.watched (awaited .txTimeout rfl ours))
  · exact punctual.counts.elapsed expiry _
  · intro countdown still
    have left : Function.update play.endpoint.timers.armed expiry.kind false countdown = true :=
      armed ▸ still
    exact punctual.delayed countdown (running_of_update left)
  · intro countdown delay still
    have counted := Session.counting_perform performed
    have le := CountdownOrder.obey_le (awaited countdown delay) (.stop expiry.kind)
    have left : (play.endpoint.session.elapsed expiry.kind).2.orders.foldl CountdownOrder.obey
        (Function.update play.endpoint.timers.armed expiry.kind false) countdown = true :=
      armed ▸ still
    exact counted ▸ CountdownOrder.foldl_obey_le le left

theorem Interplay.Punctual.take (punctual : play.Punctual settings) (waiting : play.stage = .waiting)
    (room : settings.payloadLimit ≠ 0) (signal : Signal) : (play.take signal).Punctual settings := by
  have resting : play.stage.orders = [] := by
    rw [waiting]
    rfl
  have notAsking : play.stage ≠ .asking := by
    rw [waiting]
    exact nofun
  have diligent := punctual.diligent notAsking
  cases signal with
  | received bytes =>
    have performed : play.endpoint.session.perform (.receive bytes) =
        .ok (play.endpoint.session.receive bytes).1 := rfl
    exact punctual.perform performed nofun resting
      (diligent.perform room punctual.sane performed) rfl
  | sendDone result =>
    have performed : play.endpoint.session.perform (.sendDone result) =
        .ok (play.endpoint.session.sendDone result) := rfl
    have done : Interplay.Punctual settings
        { play.become (play.endpoint.session.sendDone result) with stage := .looking } :=
      punctual.perform performed nofun resting (diligent.perform room punctual.sane performed) rfl
    exact done.search rfl nofun
  | expired expiry =>
    unfold Interplay.take
    dsimp only
    split
    · exact punctual.pass waiting (by assumption)
    · exact punctual.search resting notAsking
  | work => exact punctual.search resting notAsking
  | reset => exact punctual.congr rfl rfl rfl resting.symm fun _ => notAsking
  | shutdown =>
    have delayed : ∀ deadline, Interplay.Punctual settings
        { play with endpoint := { play.endpoint with deadline } } :=
      fun _ => punctual.congr rfl rfl rfl rfl id
    unfold Interplay.take
    dsimp only
    split
    · exact (delayed _).search resting notAsking
    · exact punctual.congr rfl rfl rfl resting.symm fun _ => notAsking

theorem Interplay.Punctual.step (punctual : play.Punctual settings)
    (room : settings.payloadLimit ≠ 0) (steps : play.Steps after) : after.Punctual settings := by
  cases steps with
  | @takes signal inbox waiting oldest =>
    have picked : Interplay.Punctual settings
        { play with endpoint := { play.endpoint with inbox } } :=
      punctual.congr rfl rfl rfl rfl id
    exact picked.take waiting room signal
  | asks asking =>
    have performed : play.endpoint.session.perform .askReset =
        .ok play.endpoint.session.askReset.1 := rfl
    have resting : play.stage.orders = [] := by
      rw [asking]
      rfl
    exact punctual.perform performed nofun resting (Session.diligent_askReset punctual.limit) rfl
  | obeys obeying => exact punctual.obey obeying
  | tells ready =>
    rcases ready with told | ⟨notice, telling⟩
    · exact punctual.move told rfl nofun
    · exact punctual.move telling rfl nofun
  | @hands packet ready =>
    have noted := punctual.note (show (Deed.handed packet).isOther = true from rfl) rfl
    have handing : Interplay.Punctual settings
        { play with stage := .handing false, history := .handed packet :: play.history } :=
      noted.move ready rfl nofun
    exact handing.congr rfl rfl rfl rfl id
  | searches told =>
    exact punctual.search (by rw [told]; rfl) fun asking => by cases told.symm.trans asking
  | givesUp told => exact punctual.move told rfl nofun
  | fails looking next =>
    exact punctual.halt (punctual.diligent fun asking => by cases looking.symm.trans asking) rfl
  | rests looking next => exact punctual.move looking rfl nofun
  | @finds departure looking next =>
    have performed := Session.perform_depart next
    have diligent := punctual.diligent fun asking => by cases looking.symm.trans asking
    refine punctual.perform performed nofun (by rw [looking]; rfl)
      (diligent.perform room punctual.sane performed) ?_
    rw [Session.orders_depart next]
    rfl
  | stops reviewing =>
    exact punctual.halt (punctual.diligent fun asking => by cases reviewing.symm.trans asking) rfl
  | waits reviewing => exact punctual.move reviewing rfl nofun
  | breaksDown failing =>
    exact punctual.halt (punctual.diligent fun asking => by cases failing.symm.trans asking) rfl
  | completes handing =>
    have performed : play.endpoint.session.perform (.sendDone (.ok ())) =
        .ok (play.endpoint.session.sendDone (.ok ())) := rfl
    have diligent := punctual.diligent fun asking => by cases handing.symm.trans asking
    have done : Interplay.Punctual settings
        { play.become (play.endpoint.session.sendDone (.ok ())) with stage := .looking } :=
      punctual.perform performed nofun (by rw [handing]; rfl)
        (diligent.perform room punctual.sane performed) rfl
    exact done.congr rfl rfl rfl rfl id
  | pends handing => exact punctual.move handing rfl nofun
  | @reports result unreported owed =>
    refine (punctual.post (.sendDone result)).congr rfl rfl rfl ?_ ?_
    · dsimp only
      split
      · rename_i handing
        exact (congrArg Interplay.Stage.orders handing).symm
      · rfl
    · dsimp only
      split
      · rename_i handing
        exact fun _ asking => by cases handing.symm.trans asking
      · exact id
  | receives => exact punctual.post _
  | calls called => exact punctual.call called _
  | posts => exact (punctual.post _).congr rfl rfl rfl rfl id
  | resets => exact punctual.post _
  | rings started => exact punctual.post _
  | elapses =>
    unfold Interplay.elapse
    dsimp only
    rw [Endpoint.foldl_post]
    refine punctual.congr rfl ?_ rfl rfl id
    funext countdown
    cases countdown <;> rfl
  | stays => exact punctual
  | passes => exact punctual.congr rfl rfl rfl rfl id
  | overruns waiting =>
    exact punctual.halt (punctual.diligent fun asking => by cases waiting.symm.trans asking)
      (by rw [waiting]; rfl)

end steps

/-- What an endpoint can be relied on to make of the messages of its countdowns. -/
structure Interplay.KeepsTime (play : Interplay) : Prop where
  /-- A message counts if it is that of the last start of its countdown and nothing was done about
  the countdown since. -/
  current : ∀ expiry, (play.endpoint.timers.accept expiry).1 = true ↔
    latest? play.history expiry.kind = some (.started expiry)
  lawful : Lawful play.history
  counts : play.endpoint.session.sender.Counts play.history

section runs

variable {settings : Settings} {endpoint : Endpoint} {play : Interplay}

theorem Interplay.punctual_start (valid : settings.check = .ok ()) :
    Interplay.Punctual settings (.start ⟨.ofValid settings valid, .new, [], none, true⟩) := by
  have room := (Settings.of_check valid).1
  obtain ⟨sender, parameters, opened, _, made⟩ := Session.of_ofValid settings valid
  refine ⟨Session.sane_ofValid valid, ?_, fun asking => absurd rfl asking, ⟨?_, nofun, nofun⟩, ?_,
    ?_, ?_, ?_⟩
  · show (Session.ofValid settings valid).payloadLimit ≠ 0
    rw [made]
    exact room
  · rintro ⟨kind, generation⟩
    refine ⟨fun same => ?_, nofun⟩
    cases kind <;> cases same
  · intro deed earlier suffix
    cases List.eq_nil_of_suffix_nil suffix
  · obtain ⟨queue, _, rfl⟩ := Sender.of_ofCapacity opened
    show (Session.ofValid settings valid).sender.outstanding.map (·.timeouts) = none
    rw [made]
    rfl
  · intro countdown running
    cases countdown <;> cases running
  · intro countdown _ running
    cases countdown <;> cases running

theorem Interplay.punctual_of_run (created : Endpoint.create settings = .ok endpoint)
    {moves : List Interplay.Move} (ran : (Interplay.start endpoint).run? moves = some play) :
    play.Punctual settings := by
  obtain ⟨valid, rfl⟩ := Endpoint.of_create created
  have room := (Settings.of_check valid).1
  exact Interplay.of_run (fun _ _ punctual steps => punctual.step room steps)
    (Interplay.punctual_start valid) ran

/-- Whatever the link, the application and the clock do between the steps of an endpoint. -/
theorem Interplay.keepsTime_of_run (created : Endpoint.create settings = .ok endpoint)
    {moves : List Interplay.Move} (ran : (Interplay.start endpoint).run? moves = some play) :
    play.KeepsTime := by
  have punctual := Interplay.punctual_of_run created ran
  refine ⟨fun expiry => ?_, punctual.lawful, punctual.counts⟩
  rw [Timers.accept_iff]
  exact punctual.tally.current expiry

end runs

/-- A datagram is sent. The message of the countdown for the reset comes in late, which was answered,
and the one of the first countdown for the datagram comes in twice, the second time with the one of
its second countdown. -/
def lateMoves : List Interplay.Move :=
  List.replicate 8 .work ++ [.accept .complete, .submit [1, 2], .work, .work,
    .receive serialAnswer.encode] ++ List.replicate 7 .work ++ [.accept .complete,
    .ring ⟨.resetRetry, 2⟩, .ring ⟨.txTimeout, 2⟩] ++ List.replicate 7 .work ++
    [.answer false, .work, .work, .work, .accept .complete, .ring ⟨.txTimeout, 2⟩,
    .ring ⟨.txTimeout, 4⟩] ++ List.replicate 7 .work

theorem keepsTime_when_late : ∃ endpoint play, Endpoint.create .serialLine = .ok endpoint ∧
    (Interplay.start endpoint).run? lateMoves = some play ∧
      play.history.filter (fun deed => deed matches .passedOn ..) =
        [.passedOn ⟨.txTimeout, 4⟩ (some 2), .passedOn ⟨.txTimeout, 2⟩ (some 1)] ∧
      play.KeepsTime := by
  let endpoint : Endpoint :=
    ⟨.ofValid .serialLine Settings.check_serialLine, .new, [], none, true⟩
  have created : Endpoint.create .serialLine = .ok endpoint := rfl
  have ends : ((Interplay.start endpoint).run? lateMoves).map (fun play =>
      play.history.filter (fun deed => deed matches .passedOn ..)) =
        some [.passedOn ⟨.txTimeout, 4⟩ (some 2), .passedOn ⟨.txTimeout, 2⟩ (some 1)] := by
    decide +kernel
  obtain ⟨play, ran, counted⟩ := Option.map_eq_some_iff.mp ends
  exact ⟨endpoint, play, created, ran, counted, Interplay.keepsTime_of_run created ran⟩

end DatagramLink
