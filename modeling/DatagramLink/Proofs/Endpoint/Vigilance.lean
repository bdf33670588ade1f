import DatagramLink.Proofs.Endpoint.Interplay
import DatagramLink.Proofs.Line.Basic
import DatagramLink.Proofs.Session.Undergoing

namespace DatagramLink

/-- The link signals that a send is done. -/
def Signal.isSendDone : Signal → Bool
  | .sendDone _ => true
  | .received _ | .expired _ | .work | .reset | .shutdown => false

/-- A packet was handed to the link. -/
def Deed.isHanded : Deed → Bool
  | .handed _ => true
  | .started _ | .skipped _ | .stopped _ | .passedOn .. | .outstanding | .settled | .called |
    .sending => false

/-- How many packets were handed to the link since the worker began to send, unless the application
did something to the session since. -/
def handedSince? : List Deed → Option Nat
  | [] => none
  | .sending :: _ => some 0
  | .called :: _ => none
  | .handed _ :: earlier => (handedSince? earlier).map (· + 1)
  | .started _ :: earlier | .skipped _ :: earlier | .stopped _ :: earlier
  | .passedOn .. :: earlier | .outstanding :: earlier | .settled :: earlier => handedSince? earlier

/-- The packets that were taken and not handed to the link yet. -/
def Interplay.Stage.taken : Interplay.Stage → Nat
  | .obeying _ (.hand _) => 1
  | .waiting | .asking | .obeying _ (.tell ..) | .telling .. | .looking | .handing _
  | .reviewing | .failing => 0

/-- The packets that are on their way to the link, at the link, or just coming back from there. -/
def Interplay.engaged (play : Interplay) : Nat :=
  play.unreported + play.endpoint.inbox.countP Signal.isSendDone + play.stage.taken

/-- How many packets may be handed to the link until the worker is idle, with this backlog. -/
def Interplay.Stage.remaining (backlog : Nat) : Interplay.Stage → Nat
  | .looking | .handing _ => backlog
  | .obeying _ (.hand _) => backlog + 1
  | .waiting | .asking | .obeying _ (.tell ..) | .telling .. | .reviewing | .failing => 0

/-- The worker sends at most two packets until somebody else does something to the session. -/
def Interplay.Bounded (play : Interplay) : Prop :=
  ∀ handed, handedSince? play.history = some handed →
    handed + play.stage.remaining play.endpoint.session.backlog ≤ 2

/-- The link has one packet at most, and the session knows. -/
structure Interplay.Single (play : Interplay) : Prop where
  engaged_le : play.engaged ≤ 1
  busy : play.engaged ≠ 0 → play.endpoint.session.sender.busy = true
  handing : ∀ reported, play.stage = .handing reported →
    play.endpoint.session.sender.busy = true
  unreported : play.stage = .handing false → play.unreported ≠ 0

/-- The worker waits, or is about to. -/
def Interplay.Stage.isIdle : Interplay.Stage → Bool
  | .waiting | .reviewing => true
  | .asking | .obeying .. | .telling .. | .looking | .handing _ | .failing => false

/-- When the worker is idle, there is nothing to send, or a signal is there or will come. -/
def Interplay.Watchful (play : Interplay) : Prop :=
  play.stage.isIdle = true → play.endpoint.running = true →
    play.endpoint.session.next = .ok none ∨ play.endpoint.inbox ≠ [] ∨ play.unposted ≠ []

section single

variable {play after : Interplay}

theorem Endpoint.countP_post (endpoint : Endpoint) {signal : Signal}
    (quiet : signal.isSendDone = false) :
    (endpoint.post signal).inbox.countP Signal.isSendDone =
      endpoint.inbox.countP Signal.isSendDone := by
  rw [endpoint.post_eq]
  cases endpoint.running with
  | true => simp only [if_true, List.countP_append, List.countP_singleton, quiet,
      Bool.false_eq_true, if_false, Nat.add_zero]
  | false => rfl

theorem Endpoint.countP_post_le (endpoint : Endpoint) (signal : Signal) :
    (endpoint.post signal).inbox.countP Signal.isSendDone ≤
      endpoint.inbox.countP Signal.isSendDone + 1 := by
  rw [endpoint.post_eq]
  cases endpoint.running with
  | true =>
    rw [if_pos rfl, List.countP_append, List.countP_singleton]
    split <;> omega
  | false => exact Nat.le_succ _

theorem Interplay.Single.congr (single : play.Single) (engaged : after.engaged = play.engaged)
    (session : after.endpoint.session.sender.busy = play.endpoint.session.sender.busy)
    (stage : after.stage = play.stage) (unreported : after.unreported = play.unreported) :
    after.Single := by
  refine ⟨?_, ?_, ?_, ?_⟩
  · exact engaged ▸ single.engaged_le
  · rw [engaged, session]
    exact single.busy
  · rw [stage, session]
    exact single.handing
  · rw [stage, unreported]
    exact single.unreported

/-- The worker may leave the link alone. -/
theorem Interplay.Single.elsewhere (single : play.Single) (engaged : after.engaged ≤ play.engaged)
    (session : after.endpoint.session.sender.busy = play.endpoint.session.sender.busy)
    (stage : ∀ reported, after.stage ≠ .handing reported) : after.Single where
  engaged_le := Nat.le_trans engaged single.engaged_le
  busy := fun busy => session.trans (single.busy (by omega))
  handing := fun reported handing => absurd handing (stage reported)
  unreported := fun handing => absurd handing (stage false)

theorem Interplay.Single.post (single : play.Single) {signal : Signal}
    (quiet : signal.isSendDone = false) : (play.post signal).Single := by
  have engaged : (play.post signal).engaged = play.engaged := by
    rw [Interplay.engaged, Interplay.post, play.endpoint.countP_post quiet]
    rfl
  exact single.congr engaged (congrArg (·.sender.busy) (play.endpoint.session_post signal)) rfl rfl

theorem Interplay.Single.elapse (single : play.Single) : play.elapse.Single := by
  have quiet : ∀ expiries : List Expiry,
      (expiries.map Signal.expired).countP Signal.isSendDone = 0 := by
    intro expiries
    refine List.countP_eq_zero.mpr fun signal member => ?_
    obtain ⟨expiry, _, rfl⟩ := List.mem_map.mp member
    exact Bool.false_ne_true
  unfold Interplay.elapse
  dsimp only
  rw [Endpoint.foldl_post]
  refine single.congr ?_ rfl rfl rfl
  unfold Interplay.engaged
  cases play.endpoint.running with
  | true => simp only [if_true, List.countP_append, quiet, Nat.add_zero]
  | false => rfl

theorem Interplay.Single.take {signal : Signal} {inbox : List Signal} (single : play.Single)
    (waiting : play.stage = .waiting) (oldest : play.endpoint.inbox = signal :: inbox) :
    ({ play with endpoint := { play.endpoint with inbox } }.take signal).Single := by
  have engaged : play.engaged = play.unreported +
      ((if signal.isSendDone then 1 else 0) + inbox.countP Signal.isSendDone) := by
    rw [Interplay.engaged, oldest, waiting, List.countP_cons, Nat.add_comm (List.countP _ _)]
    rfl
  have rest : play.unreported + inbox.countP Signal.isSendDone ≤ play.engaged := by omega
  cases signal with
  | received bytes =>
    exact single.elsewhere rest (play.endpoint.session.undergoes_receive bytes).busy_eq nofun
  | sendDone result =>
    have one := single.engaged_le
    have unengaged : play.unreported + inbox.countP Signal.isSendDone = 0 := by
      rw [engaged] at one
      simp only [Signal.isSendDone, if_true] at one
      omega
    exact ⟨Nat.le_trans (Nat.le_of_eq unengaged) (Nat.zero_le 1),
      fun engaged => absurd unengaged engaged, nofun, nofun⟩
  | expired expiry =>
    unfold Interplay.take
    dsimp only
    split
    · obtain ⟨_, _, same, _⟩ := play.endpoint.session.sender_elapsed expiry.kind
      have busy : (play.endpoint.session.elapsed expiry.kind).1.sender.busy =
          play.endpoint.session.sender.busy := by rw [same]
      exact single.elsewhere rest busy nofun
    · exact single.elsewhere rest rfl nofun
  | work => exact single.elsewhere rest rfl nofun
  | reset => exact single.elsewhere rest rfl nofun
  | shutdown =>
    unfold Interplay.take
    dsimp only
    split <;> exact single.elsewhere rest rfl nofun

theorem Interplay.Single.step (single : play.Single) (steps : play.Steps after) :
    after.Single := by
  have engaged : play.engaged = play.unreported +
    play.endpoint.inbox.countP Signal.isSendDone + play.stage.taken := rfl
  have unchanged : play.unreported + play.endpoint.inbox.countP Signal.isSendDone ≤ play.engaged := by
    omega
  have emptied : play.unreported ≤ play.engaged := by omega
  cases steps with
  | takes waiting oldest => exact single.take waiting oldest
  | asks asking => exact single.elsewhere unchanged rfl nofun
  | @obeys order orders errand obeying =>
    obtain ⟨timers, obeyed⟩ := play.endpoint.obey_eq play.now order
    have taken : play.stage.taken = (Interplay.Stage.obeying orders errand).taken := by
      rw [obeying]
      cases errand <;> rfl
    unfold Interplay.obey
    rw [obeyed]
    exact single.elsewhere (Nat.le_of_eq (engaged.trans (by rw [taken]; rfl)).symm) rfl nofun
  | tells ready => exact single.elsewhere unchanged rfl nofun
  | hands ready =>
    rw [ready, Interplay.Stage.taken] at engaged
    have same : play.unreported + 1 + play.endpoint.inbox.countP Signal.isSendDone + 0 =
      play.engaged := by omega
    have busy := single.busy (by omega)
    exact ⟨Nat.le_trans (Nat.le_of_eq same) single.engaged_le, fun _ => busy, fun _ _ => busy,
      fun _ => Nat.succ_ne_zero _⟩
  | searches told => exact single.elsewhere unchanged rfl nofun
  | givesUp told => exact single.elsewhere unchanged rfl nofun
  | fails looking next => exact single.elsewhere emptied rfl nofun
  | rests looking next => exact single.elsewhere unchanged rfl nofun
  | finds looking next =>
    obtain ⟨idle, busy⟩ := Session.busy_of_next next
    have unengaged : play.engaged = 0 := by
      by_contra engaged
      exact absurd (single.busy engaged) (ne_true_of_eq_false idle)
    have one : play.unreported + play.endpoint.inbox.countP Signal.isSendDone + 1 = 1 := by omega
    exact ⟨Nat.le_of_eq one, fun _ => busy, nofun, nofun⟩
  | stops reviewing => exact single.elsewhere emptied rfl nofun
  | waits reviewing => exact single.elsewhere unchanged rfl nofun
  | breaksDown failing => exact single.elsewhere emptied rfl nofun
  | completes handing =>
    have own := single.unreported handing
    have one := single.engaged_le
    have unengaged : play.unreported - 1 + play.endpoint.inbox.countP Signal.isSendDone + 0 = 0 := by
      omega
    exact ⟨Nat.le_trans (Nat.le_of_eq unengaged) (Nat.zero_le 1),
      fun engaged => absurd unengaged engaged, nofun, nofun⟩
  | pends handing => exact single.elsewhere unchanged rfl nofun
  | @reports result unreported owed =>
    have more := play.endpoint.countP_post_le (.sendDone result)
    have busy : (play.endpoint.post (.sendDone result)).session.sender.busy = true := by
      rw [play.endpoint.session_post]
      exact single.busy (by omega)
    refine ⟨?_, fun _ => busy, fun _ _ => busy, fun handing => ?_⟩
    · have taken : (if play.stage = .handing false then .handing true else play.stage :
          Interplay.Stage).taken = play.stage.taken := by
        split
        · rename_i handing
          rw [handing]
          rfl
        · rfl
      have one := single.engaged_le
      have fewer : unreported + (play.endpoint.post (.sendDone result)).inbox.countP
          Signal.isSendDone + play.stage.taken ≤ 1 := by omega
      rw [← taken] at fewer
      exact fewer
    · -- the send in progress is the one that is done
      dsimp only at handing
      split at handing
      · cases handing
      · rename_i elsewhere
        exact absurd handing elsewhere
  | receives => exact single.post rfl
  | @calls session wakeup called =>
    obtain ⟨queue, report, accepting, rfl⟩ := called.eq
    exact single.congr rfl rfl rfl rfl
  | @posts wakeup unposted =>
    cases wakeup <;> exact (single.post rfl).congr rfl rfl rfl rfl
  | resets => exact single.post rfl
  | rings started => exact single.post rfl
  | elapses => exact single.elapse
  | stays => exact single
  | passes => exact single.congr rfl rfl rfl rfl
  | overruns waiting =>
    refine single.elsewhere ?_ rfl fun reported handing => ?_
    · have stage : play.halt.stage.taken = 0 := congrArg Interplay.Stage.taken waiting
      show play.unreported + 0 + play.halt.stage.taken ≤ play.engaged
      omega
    · cases waiting.symm.trans handing

end single

section rest

variable {play after : Interplay}

theorem Interplay.isIdle_take (play : Interplay) (signal : Signal) :
    (play.take signal).stage.isIdle = false := by
  cases signal with
  | expired expiry =>
    unfold Interplay.take
    dsimp only
    split <;> rfl
  | shutdown =>
    unfold Interplay.take
    dsimp only
    split <;> rfl
  | _ => rfl

/-- A signal that is left in the inbox wakes the worker. -/
theorem Endpoint.inbox_post_ne_nil {endpoint : Endpoint} {signal : Signal}
    (running : (endpoint.post signal).running = true) : (endpoint.post signal).inbox ≠ [] := by
  rw [endpoint.post_eq] at running ⊢
  rw [if_pos running]
  exact List.append_ne_nil_of_right_ne_nil _ (List.cons_ne_nil _ _)

theorem Interplay.Watchful.elapse (watchful : play.Watchful) : play.elapse.Watchful := by
  intro idle running
  unfold Interplay.elapse at running ⊢
  dsimp only at running ⊢
  rw [Endpoint.foldl_post] at running ⊢
  rcases watchful idle running with quiet | waiting | calling
  · exact Or.inl quiet
  · refine Or.inr (Or.inl ?_)
    rw [if_pos running]
    exact List.append_ne_nil_of_left_ne_nil waiting _
  · exact Or.inr (Or.inr calling)

theorem Interplay.Watchful.step (watchful : play.Watchful) (single : play.Single)
    (steps : play.Steps after) : after.Watchful := by
  intro idle running
  cases steps with
  | takes => rw [Interplay.isIdle_take] at idle; cases idle
  | asks => cases idle
  | obeys => cases idle
  | tells => cases idle
  | hands => cases idle
  | searches => cases idle
  | givesUp => cases idle
  | fails => cases running
  | rests looking next => exact Or.inl next
  | finds => cases idle
  | stops => cases running
  | waits reviewing => exact watchful (congrArg Interplay.Stage.isIdle reviewing) running
  | breaksDown => cases running
  | completes => cases idle
  | pends handing => exact Or.inl (Session.next_of_busy (single.handing _ handing))
  | reports => exact Or.inr (Or.inl (Endpoint.inbox_post_ne_nil running))
  | receives => exact Or.inr (Or.inl (Endpoint.inbox_post_ne_nil running))
  | calls =>
    exact Or.inr (Or.inr (List.append_ne_nil_of_right_ne_nil _ (List.cons_ne_nil _ _)))
  | posts => exact Or.inr (Or.inl (Endpoint.inbox_post_ne_nil running))
  | resets => exact Or.inr (Or.inl (Endpoint.inbox_post_ne_nil running))
  | rings => exact Or.inr (Or.inl (Endpoint.inbox_post_ne_nil running))
  | elapses => exact watchful.elapse idle running
  | stays => exact watchful idle running
  | passes => exact watchful idle running
  | overruns => cases running

end rest

section bound

variable {play after : Interplay}

/-- Of the record, only what concerns sending counts. -/
def Deed.isApart : Deed → Bool
  | .started _ | .skipped _ | .stopped _ | .passedOn .. | .outstanding | .settled => true
  | .called | .sending | .handed _ => false

theorem handedSince_append {deeds history : List Deed}
    (apart : ∀ deed ∈ deeds, deed.isApart = true) :
    handedSince? (deeds ++ history) = handedSince? history := by
  induction deeds with
  | nil => rfl
  | cons deed deeds ih =>
    obtain ⟨here, later⟩ := List.forall_mem_cons.mp apart
    have rest := ih later
    cases deed with
    | called => cases here
    | sending => cases here
    | handed packet => cases here
    | _ => exact rest

theorem Deed.isApart_ofChange (before after : Sender) :
    ∀ deed ∈ Deed.ofChange before after, deed.isApart = true := by
  unfold Deed.ofChange
  split <;> decide

theorem Deed.isApart_ofOrder (endpoint : Endpoint) (order : CountdownOrder) :
    (Deed.ofOrder endpoint order).isApart = true := by
  cases order with
  | stop countdown => rfl
  | start countdown =>
    unfold Deed.ofOrder
    dsimp only
    split <;> rfl

theorem Interplay.Bounded.of_le (bounded : play.Bounded)
    (same : handedSince? after.history = handedSince? play.history)
    (fewer : after.stage.remaining after.endpoint.session.backlog ≤
      play.stage.remaining play.endpoint.session.backlog) : after.Bounded := by
  intro handed since
  have before := bounded handed (same ▸ since)
  omega

/-- A worker that is about to handle a signal has nothing on its way. -/
theorem Interplay.Bounded.of_eq_zero (bounded : play.Bounded)
    (same : handedSince? after.history = handedSince? play.history)
    (exhausted : after.stage.remaining after.endpoint.session.backlog = 0) : after.Bounded :=
  bounded.of_le same (exhausted ▸ Nat.zero_le _)

theorem Interplay.bounded_search (play : Interplay) : play.search.Bounded := by
  intro handed since
  cases since
  have backlog := play.endpoint.session.backlog_le
  show 0 + play.endpoint.session.backlog ≤ 2
  omega

theorem Interplay.Bounded.take (bounded : play.Bounded) (signal : Signal) :
    (play.take signal).Bounded := by
  cases signal with
  | received bytes =>
    exact bounded.of_eq_zero (handedSince_append (Deed.isApart_ofChange _ _)) rfl
  | sendDone result => exact Interplay.bounded_search _
  | expired expiry =>
    unfold Interplay.take
    dsimp only
    split
    · exact bounded.of_eq_zero rfl rfl
    · exact Interplay.bounded_search _
  | work => exact Interplay.bounded_search _
  | reset => exact bounded.of_eq_zero rfl rfl
  | shutdown =>
    unfold Interplay.take
    dsimp only
    split
    · exact Interplay.bounded_search _
    · exact bounded.of_eq_zero rfl rfl

theorem Interplay.Bounded.post (bounded : play.Bounded) (signal : Signal) :
    (play.post signal).Bounded := by
  refine bounded.of_le rfl (Nat.le_of_eq ?_)
  exact congrArg (fun session => play.stage.remaining session.backlog)
    (play.endpoint.session_post signal)

theorem Interplay.Bounded.halt (bounded : play.Bounded) {stage : Interplay.Stage}
    (idle : stage.isIdle = true) : Interplay.Bounded { play.halt with stage } := by
  refine bounded.of_eq_zero (handedSince_append (by decide)) ?_
  cases stage <;> first | rfl | cases idle

theorem Interplay.Bounded.step (bounded : play.Bounded) (steps : play.Steps after) :
    after.Bounded := by
  cases steps with
  | @takes signal inbox waiting oldest =>
    have picked : Interplay.Bounded { play with endpoint := { play.endpoint with inbox } } :=
      bounded
    exact picked.take signal
  | asks asking => exact bounded.of_eq_zero (handedSince_append (Deed.isApart_ofChange _ _)) rfl
  | @obeys order orders errand obeying =>
    obtain ⟨timers, obeyed⟩ := play.endpoint.obey_eq play.now order
    have apart : ∀ deed ∈ [Deed.ofOrder { play.endpoint with timers } order],
        deed.isApart = true := List.forall_mem_singleton.mpr (Deed.isApart_ofOrder _ order)
    unfold Interplay.obey
    rw [obeyed]
    refine bounded.of_le (handedSince_append apart) (Nat.le_of_eq ?_)
    rw [obeying]
    cases errand <;> rfl
  | tells ready => exact bounded.of_eq_zero rfl rfl
  | @hands packet ready =>
    intro handed since
    obtain ⟨before, earlier, rfl⟩ := Option.map_eq_some_iff.mp since
    have fewer := bounded before earlier
    rw [ready] at fewer
    simp only [Interplay.Stage.remaining] at fewer ⊢
    omega
  | searches told => exact play.bounded_search
  | givesUp told => exact bounded.of_eq_zero rfl rfl
  | fails looking next => exact bounded.halt rfl
  | rests looking next => exact bounded.of_eq_zero rfl rfl
  | @finds departure looking next =>
    refine bounded.of_le (handedSince_append (Deed.isApart_ofChange _ _)) ?_
    rw [looking]
    exact Session.backlog_next_lt next (.ok ())
  | stops reviewing => exact bounded.halt rfl
  | waits reviewing => exact bounded.of_eq_zero rfl rfl
  | breaksDown failing => exact bounded.halt rfl
  | completes handing =>
    refine bounded.of_le (handedSince_append (Deed.isApart_ofChange _ _)) (Nat.le_of_eq ?_)
    rw [handing]
    rfl
  | pends handing => exact bounded.of_eq_zero rfl rfl
  | @reports result unreported owed =>
    refine (bounded.post (.sendDone result)).of_le rfl ?_
    show Interplay.Stage.remaining _ (if play.stage = .handing false then _ else _) ≤ _
    split
    · rename_i handing
      exact handing ▸ Nat.le_refl _
    · exact Nat.le_refl _
  | receives => exact bounded.post _
  | calls called =>
    intro handed since
    cases since
  | posts => exact bounded.post _
  | resets => exact bounded.post _
  | rings started => exact bounded.post _
  | elapses =>
    refine bounded.of_le rfl (Nat.le_of_eq ?_)
    unfold Interplay.elapse
    dsimp only
    rw [Endpoint.foldl_post]
  | stays => exact bounded
  | passes => exact bounded
  | overruns waiting => exact bounded.halt (congrArg Interplay.Stage.isIdle waiting)

end bound

/-- What an endpoint can be relied on to do for the packets it has to send. -/
structure Interplay.Vigilant (play : Interplay) : Prop where
  /-- A packet is handed to the link only when it is done with all others, and the worker knows. -/
  alone : ∀ orders packet, play.stage = .obeying orders (.hand packet) →
    play.unreported = 0 ∧ ∀ result, .sendDone result ∉ play.endpoint.inbox
  unreported_le : play.unreported ≤ 1
  awake : play.stage = .waiting → play.endpoint.running = true → play.endpoint.inbox = [] →
    play.unposted = [] → play.endpoint.session.next = .ok none
  brief : ∀ during before, play.history = during ++ .sending :: before →
    .sending ∉ during → .called ∉ during → during.countP Deed.isHanded ≤ 2

section runs

variable {settings : Settings} {endpoint : Endpoint} {play : Interplay}

theorem handedSince_of_during {during before : List Deed} (once : .sending ∉ during)
    (alone : .called ∉ during) :
    handedSince? (during ++ .sending :: before) = some (during.countP Deed.isHanded) := by
  induction during with
  | nil => rfl
  | cons deed during ih =>
    have rest := ih (List.not_mem_of_not_mem_cons once) (List.not_mem_of_not_mem_cons alone)
    cases deed with
    | sending => exact absurd (List.mem_cons_self ..) once
    | called => exact absurd (List.mem_cons_self ..) alone
    | handed packet =>
      rw [List.countP_cons_of_pos rfl]
      exact congrArg (Option.map (· + 1)) rest
    | _ => exact rest

theorem Interplay.Single.alone (single : play.Single) {orders : List CountdownOrder}
    {packet : Packet} (taken : play.stage = .obeying orders (.hand packet)) :
    play.unreported = 0 ∧ ∀ result, .sendDone result ∉ play.endpoint.inbox := by
  have one := single.engaged_le
  rw [Interplay.engaged, taken, Interplay.Stage.taken] at one
  refine ⟨by omega, fun result member => ?_⟩
  have unposted : play.endpoint.inbox.countP Signal.isSendDone = 0 := by omega
  exact List.countP_eq_zero.mp unposted _ member rfl

/-- Whatever the link, the application and the clock do between the steps of an endpoint. -/
theorem Interplay.vigilant_of_run (created : Endpoint.create settings = .ok endpoint)
    {moves : List Interplay.Move} (ran : (Interplay.start endpoint).run? moves = some play) :
    play.Vigilant := by
  obtain ⟨valid, rfl⟩ := Endpoint.of_create created
  let holds := fun play : Interplay => play.Single ∧ play.Watchful ∧ play.Bounded
  have keeps : ∀ play after : Interplay, holds play → play.Steps after → holds after :=
    fun play after ⟨single, watchful, bounded⟩ steps =>
      ⟨single.step steps, watchful.step single steps, bounded.step steps⟩
  have starts : holds (Interplay.start ⟨.ofValid settings valid, .new, [], none, true⟩) :=
    ⟨⟨Nat.zero_le 1, fun engaged => absurd rfl engaged, nofun, nofun⟩, nofun, nofun⟩
  obtain ⟨single, watchful, bounded⟩ := Interplay.of_run keeps starts ran
  refine ⟨fun _ _ => single.alone, ?_, ?_, ?_⟩
  · have one := single.engaged_le
    rw [Interplay.engaged] at one
    omega
  · intro waiting running empty posted
    rcases watchful (congrArg Interplay.Stage.isIdle waiting) running with quiet | full | calling
    · exact quiet
    · exact absurd empty full
    · exact absurd posted calling
  · intro during before record once alone
    have few := bounded _ (record ▸ handedSince_of_during once alone)
    omega

end runs

/-- The reset that the worker hands to the link goes out before the call returns. A datagram is
submitted, but the answer of the peer comes in before the signal of that; so the datagram goes out
with the answer, and the signal finds nothing left to send. -/
def overtakenMoves : List Interplay.Move :=
  List.replicate 8 .work ++ [.report (.ok ()), .accept .pending, .work, .submit [1, 2],
    .receive serialAnswer.encode, .post 0] ++ List.replicate 10 .work ++ [.accept .complete] ++
    List.replicate 5 .work

theorem vigilant_when_overtaken : ∃ endpoint play,
    Endpoint.create .serialLine = .ok endpoint ∧
      (Interplay.start endpoint).run? overtakenMoves = some play ∧ play.stage = .waiting ∧
      play.endpoint.running = true ∧ play.endpoint.inbox = [] ∧ play.unposted = [] ∧
      play.history.countP Deed.isHanded = 2 ∧ play.Vigilant := by
  let endpoint : Endpoint :=
    ⟨.ofValid .serialLine Settings.check_serialLine, .new, [], none, true⟩
  have created : Endpoint.create .serialLine = .ok endpoint := rfl
  have ends : ((Interplay.start endpoint).run? overtakenMoves).map (fun play => (play.stage,
      play.endpoint.running, play.endpoint.inbox.length, play.unposted.length,
      play.history.countP Deed.isHanded)) = some (.waiting, true, 0, 0, 2) := by decide +kernel
  obtain ⟨play, ran, reached⟩ := Option.map_eq_some_iff.mp ends
  simp only [Prod.mk.injEq, List.length_eq_zero_iff] at reached
  obtain ⟨waiting, running, empty, posted, handed⟩ := reached
  exact ⟨endpoint, play, created, ran, waiting, running, empty, posted, handed,
    Interplay.vigilant_of_run created ran⟩

end DatagramLink
