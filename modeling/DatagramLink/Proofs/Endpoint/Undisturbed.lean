import DatagramLink.Proofs.Endpoint.Interplay
import Mathlib.Logic.Relation

namespace DatagramLink

/-- The worker goes on, or it gets the answer it waits for. -/
inductive Interplay.Goes (play next : Interplay) : Prop
  | work (worked : play.step? .work = some next)
  | answer {givesUp : Bool} (answered : play.step? (.answer givesUp) = some next)
  | accept {acceptance : Acceptance} (accepted : play.step? (.accept acceptance) = some next)

/-- Going on for a while leads here, at the same time. -/
structure Interplay.Leads (play : Interplay) (endpoint : Endpoint) (stage : Interplay.Stage)
    (final : Interplay) : Prop where
  goes : Relation.ReflTransGen Interplay.Goes play final
  endpoint : final.endpoint = endpoint
  stage : final.stage = stage
  now : final.now = play.now

section leads

variable {play : Interplay}

theorem Interplay.Leads.after {next final : Interplay} {endpoint : Endpoint}
    {stage : Interplay.Stage} (goes : play.Goes next) (now : next.now = play.now)
    (leads : next.Leads endpoint stage final) : play.Leads endpoint stage final :=
  ⟨leads.goes.head goes, leads.endpoint, leads.stage, leads.now.trans now⟩

theorem Interplay.Leads.trans {middle final : Interplay} {first second : Endpoint}
    {stage last : Interplay.Stage} (leads : play.Leads first stage middle)
    (further : middle.Leads second last final) : play.Leads second last final :=
  ⟨leads.goes.trans further.goes, further.endpoint, further.stage, further.now.trans leads.now⟩

theorem Endpoint.obeyAll_eq (endpoint : Endpoint) (now : Nat) (orders : List CountdownOrder) :
    ∃ timers, endpoint.obeyAll now orders = { endpoint with timers } := by
  unfold Endpoint.obeyAll
  induction orders generalizing endpoint with
  | nil => exact ⟨_, rfl⟩
  | cons order orders ih =>
    obtain ⟨timers, obeyed⟩ := endpoint.obey_eq now order
    rw [List.foldl_cons, obeyed]
    exact ih { endpoint with timers }

theorem Endpoint.session_obeyAll (endpoint : Endpoint) (now : Nat) (orders : List CountdownOrder) :
    (endpoint.obeyAll now orders).session = endpoint.session := by
  obtain ⟨timers, obeyed⟩ := endpoint.obeyAll_eq now orders
  rw [obeyed]

theorem Endpoint.running_obeyAll (endpoint : Endpoint) (now : Nat) (orders : List CountdownOrder) :
    (endpoint.obeyAll now orders).running = endpoint.running := by
  obtain ⟨timers, obeyed⟩ := endpoint.obeyAll_eq now orders
  rw [obeyed]

theorem Interplay.leads_obeyAll (play : Interplay) {orders : List CountdownOrder} {errand : Interplay.Errand}
    (obeying : play.stage = .obeying orders errand) :
    ∃ final, play.Leads (play.endpoint.obeyAll play.now orders) (.obeying [] errand) final := by
  induction orders generalizing play with
  | nil => exact ⟨play, .refl, rfl, obeying, rfl⟩
  | cons order orders ih =>
    let next := { play.obey order with stage := .obeying orders errand }
    have worked : play.step? .work = some next := by
      rw [Interplay.step?, Interplay.work?, obeying]
    obtain ⟨final, leads⟩ := ih next rfl
    exact ⟨final, leads.after (.work worked) rfl⟩

theorem Interplay.leads_tell (play : Interplay) {notices : List Notice} {timeouts : Option UInt32}
    (telling : play.stage = .telling notices timeouts) :
    ∃ final, play.Leads play.endpoint (.telling [] timeouts) final := by
  induction notices generalizing play with
  | nil => exact ⟨play, .refl, rfl, telling, rfl⟩
  | cons notice notices ih =>
    let next := { play with stage := .telling notices timeouts }
    have worked : play.step? .work = some next := by
      rw [Interplay.step?, Interplay.work?, telling]
    obtain ⟨final, leads⟩ := ih next rfl
    exact ⟨final, leads.after (.work worked) rfl⟩

/-- The countdowns are set and the application is told. -/
theorem Interplay.leads_react (play : Interplay) (reaction : Reaction) :
    ∃ final, (play.react reaction).Leads (play.endpoint.obeyAll play.now reaction.orders)
      (.telling [] reaction.timeouts) final := by
  obtain ⟨obeyed, obeys⟩ := (play.react reaction).leads_obeyAll rfl
  let next := { obeyed with stage := .telling reaction.notices reaction.timeouts }
  have worked : obeyed.step? .work = some next := by
    rw [Interplay.step?, Interplay.work?, obeys.stage]
  obtain ⟨final, tells⟩ := next.leads_tell rfl
  obtain ⟨goes, endpoint, stage, now⟩ := obeys.trans (tells.after (.work worked) rfl)
  exact ⟨final, goes, endpoint.trans obeys.endpoint, stage, now⟩

end leads

section hosted

variable {σ : Type} (host : Host σ) {play : Interplay}

theorem Interplay.leads_askReset (play : Interplay) (asking : play.stage = .asking) (surroundings : σ) :
    ∃ final, play.Leads (play.endpoint.askReset host play.now surroundings).1 .looking final := by
  let session := play.endpoint.session.askReset.1
  let reaction := play.endpoint.session.askReset.2
  have asks : play.step? .work = some ((play.become session).react reaction) := by
    rw [Interplay.step?, Interplay.work?, asking]
  obtain ⟨told, tells⟩ := (play.become session).leads_react reaction
  have searches : told.step? .work = some told.search := by
    rw [Interplay.step?, Interplay.work?, tells.stage]
    rfl
  have searched : told.Leads told.endpoint .looking told.search :=
    ⟨.single (.work searches), rfl, rfl, rfl⟩
  obtain ⟨goes, endpoint, stage, now⟩ := (tells.trans searched).after (.work asks) rfl
  exact ⟨_, goes, endpoint.trans tells.endpoint, stage, now⟩

theorem Interplay.leads_carryOut (play : Interplay) (reaction : Reaction) (surroundings : σ) :
    ∃ final, (play.react reaction).Leads
      (play.endpoint.carryOut host play.now reaction surroundings).1 .looking final := by
  obtain ⟨told, tells⟩ := play.leads_react reaction
  have now : told.now = play.now := tells.now
  unfold Endpoint.carryOut
  cases timedOut : reaction.timeouts with
  | none =>
    have searches : told.step? .work = some told.search := by
      rw [Interplay.step?, Interplay.work?, tells.stage, timedOut]
    have searched : told.Leads told.endpoint .looking told.search :=
      ⟨.single (.work searches), rfl, rfl, rfl⟩
    obtain ⟨goes, endpoint, stage, now⟩ := tells.trans searched
    exact ⟨_, goes, endpoint.trans tells.endpoint, stage, now⟩
  | some timeouts =>
    cases answered : host.givesUp timeouts (host.noticeAll reaction.notices surroundings) with
    | mk givesUp left =>
      simp only [answered]
      cases givesUp with
      | false =>
        have searches : told.step? (.answer false) = some told.search := by
          rw [Interplay.step?, tells.stage, timedOut]
          rfl
        have searched : told.Leads told.endpoint .looking told.search :=
          ⟨.single (.answer searches), rfl, rfl, rfl⟩
        obtain ⟨goes, endpoint, stage, now⟩ := tells.trans searched
        exact ⟨_, goes, endpoint.trans tells.endpoint, stage, now⟩
      | true =>
        let next := { told with stage := .asking }
        have gaveUp : told.step? (.answer true) = some next := by
          rw [Interplay.step?, tells.stage, timedOut]
          rfl
        obtain ⟨final, asks⟩ := next.leads_askReset host rfl left
        have same : next.endpoint = play.endpoint.obeyAll play.now reaction.orders := tells.endpoint
        rw [same, show next.now = play.now from now] at asks
        exact ⟨final, tells.trans (asks.after (.answer gaveUp) rfl)⟩

theorem Interplay.now_take (play : Interplay) (signal : Signal) : (play.take signal).now = play.now := by
  cases signal with
  | expired expiry =>
    unfold Interplay.take
    dsimp only
    split <;> rfl
  | shutdown =>
    unfold Interplay.take
    dsimp only
    split <;> rfl
  | _ => rfl

theorem Interplay.step_take (play : Interplay) {signal : Signal} {inbox : List Signal}
    (waiting : play.stage = .waiting) (oldest : play.endpoint.inbox = signal :: inbox) :
    play.step? .work =
      some ({ play with endpoint := { play.endpoint with inbox } }.take signal) := by
  obtain ⟨⟨session, timers, _, deadline, running⟩, now, _, unposted, unreported, history⟩ := play
  cases waiting
  cases oldest
  rfl

theorem Endpoint.running_carryOut (endpoint : Endpoint) (now : Nat) (reaction : Reaction)
    (surroundings : σ) :
    (endpoint.carryOut host now reaction surroundings).1.running = endpoint.running := by
  have obeyed := endpoint.running_obeyAll now reaction.orders
  unfold Endpoint.carryOut
  cases reaction.timeouts with
  | none => exact obeyed
  | some timeouts =>
    dsimp only
    split
    · exact (Endpoint.running_obeyAll _ now _).trans obeyed
    · exact obeyed

/-- Only a request to shut down whose time to stop the clock cannot tell breaks the worker down. -/
theorem Endpoint.running_handle (endpoint : Endpoint) (now : Nat) (signal : Signal)
    (surroundings : σ) (others : signal ≠ .shutdown) :
    (endpoint.handle host now signal surroundings).1.running = endpoint.running := by
  cases signal with
  | received bytes => exact Endpoint.running_carryOut host _ now _ surroundings
  | sendDone result => rfl
  | expired expiry =>
    unfold Endpoint.handle
    dsimp only
    split
    · exact Endpoint.running_carryOut host _ now _ surroundings
    · rfl
  | work => rfl
  | reset => exact Endpoint.running_obeyAll _ now _
  | shutdown => exact absurd rfl others

theorem Interplay.leads_handle (play : Interplay) {signal : Signal} {inbox : List Signal}
    (waiting : play.stage = .waiting) (oldest : play.endpoint.inbox = signal :: inbox)
    (others : signal ≠ .shutdown) (surroundings : σ) :
    ∃ final, play.Leads (({ play.endpoint with inbox } : Endpoint).handle host play.now signal
      surroundings).1 .looking final := by
  have worked := play.step_take waiting oldest
  let picked := { play with endpoint := { play.endpoint with inbox } }
  have searched : ∀ endpoint : Endpoint, ∀ history,
      Interplay.Leads { picked with endpoint, stage := .looking, history } endpoint .looking
        { picked with endpoint, stage := .looking, history } :=
    fun _ _ => ⟨.refl, rfl, rfl, rfl⟩
  have taken : ∃ final, (picked.take signal).Leads
      (picked.endpoint.handle host play.now signal surroundings).1 .looking final := by
    cases signal with
    | received bytes =>
      exact Interplay.leads_carryOut host (picked.become _) _ surroundings
    | sendDone result => exact ⟨_, searched _ _⟩
    | expired expiry =>
      unfold Interplay.take Endpoint.handle
      dsimp only
      split
      · exact Interplay.leads_carryOut host { picked with
          endpoint := { picked.endpoint with session := _, timers := _ }, history := _ } _
            surroundings
      · exact ⟨_, searched _ _⟩
    | work => exact ⟨_, searched _ _⟩
    | reset =>
      exact Interplay.leads_askReset host { picked with stage := .asking } rfl surroundings
    | shutdown => exact absurd rfl others
  obtain ⟨final, leads⟩ := taken
  exact ⟨final, leads.after (.work worked) (picked.now_take signal)⟩

/-- A request to shut down makes the worker go on with a time to stop at, or breaks it down. -/
theorem Interplay.leads_shutdown (play : Interplay) {inbox : List Signal}
    (waiting : play.stage = .waiting) (oldest : play.endpoint.inbox = .shutdown :: inbox) :
    let picked : Endpoint := { play.endpoint with inbox }
    (∃ deadline final, picked.drainEnd? play.now = some deadline ∧
      play.Leads { picked with deadline := some deadline } .looking final) ∨
    ∃ final, picked.drainEnd? play.now = none ∧ play.Leads picked.stop .waiting final := by
  intro picked
  let taken := { play with endpoint := picked }.take .shutdown
  have worked : play.step? .work = some taken := play.step_take waiting oldest
  cases ends : picked.drainEnd? play.now with
  | some deadline =>
    have goesOn : taken = Interplay.search
        { play with endpoint := { picked with deadline := some deadline } } := by
      simp only [taken, Interplay.take, ends]
    rw [goesOn] at worked
    exact Or.inl ⟨deadline, _, rfl, .single (.work worked), rfl, rfl, rfl⟩
  | none =>
    let failing := { play with endpoint := picked, stage := .failing }
    have breaks : taken = failing := by simp only [taken, Interplay.take, ends, failing]
    rw [breaks] at worked
    have stops : failing.step? .work = some { failing.halt with stage := .waiting } := rfl
    exact Or.inr ⟨_, rfl, (Relation.ReflTransGen.single (.work worked)).tail (.work stops), rfl, rfl,
      rfl⟩

theorem Interplay.leads_sendAll (play : Interplay) (looking : play.stage = .looking)
    (surroundings : σ) :
    ∃ final, play.Leads (play.endpoint.sendAll host play.now surroundings).1 .reviewing final := by
  -- every packet that the link takes at once leaves a smaller backlog
  induction backlog : play.endpoint.session.backlog using Nat.strongRecOn
    generalizing play surroundings with
  | ind bound ih =>
    have worked : ∀ next, play.work? = some next → play.Goes next := fun _ worked => .work worked
    simp only [Interplay.work?, looking] at worked
    rw [Endpoint.sendAll]
    split
    · rename_i fault next
      rw [next] at worked
      exact ⟨_, .single (worked _ rfl), rfl, rfl, rfl⟩
    · rename_i next
      rw [next] at worked
      exact ⟨_, .single (worked _ rfl), rfl, rfl, rfl⟩
    · rename_i departure next
      rw [next] at worked
      let found := { play.become departure.session with
        stage := .obeying departure.reaction.orders (.hand departure.packet) }
      obtain ⟨obeyed, obeys⟩ := found.leads_obeyAll rfl
      let handed := { obeyed with
        stage := .handing false
        unreported := obeyed.unreported + 1
        history := .handed departure.packet :: obeyed.history }
      have hands : obeyed.step? .work = some handed := by
        rw [Interplay.step?, Interplay.work?, obeys.stage]
      have handing : found.Leads handed.endpoint (.handing false) handed :=
        obeys.trans (.after (.work hands) rfl ⟨.refl, rfl, rfl, rfl⟩)
      have leads : play.Leads handed.endpoint (.handing false) handed :=
        handing.after (worked _ rfl) rfl
      have endpoint : handed.endpoint = ({ play.endpoint with session := departure.session } :
        Endpoint).obeyAll play.now departure.reaction.orders := obeys.endpoint
      split
      · have pends : handed.step? (.accept .pending) = some { handed with stage := .reviewing } := rfl
        exact ⟨_, leads.goes.tail (.accept pends), endpoint, rfl, leads.now⟩
      · let completed := { handed.become (handed.endpoint.session.sendDone (.ok ())) with
          stage := .looking, unreported := handed.unreported - 1 }
        have completes : handed.step? (.accept .complete) = some completed := rfl
        have same : handed.endpoint.session = departure.session := by
          rw [endpoint, Endpoint.session_obeyAll]
        have smaller : completed.endpoint.session.backlog < bound := by
          show (handed.endpoint.session.sendDone (.ok ())).backlog < bound
          rw [same, ← backlog]
          exact Session.backlog_next_lt next (.ok ())
        obtain ⟨final, further⟩ := ih _ smaller completed rfl _ rfl
        have now : completed.now = play.now := leads.now
        have goesOn : completed.endpoint = { ({ play.endpoint with session := departure.session } :
            Endpoint).obeyAll play.now departure.reaction.orders with
            session := departure.session.sendDone (.ok ()) } := by
          rw [← endpoint, ← same]
          rfl
        rw [goesOn, now] at further
        exact ⟨final, leads.goes.trans (further.goes.head (.accept completes)), further.endpoint,
          further.stage, further.now.trans now⟩

theorem Interplay.leads_review (play : Interplay) (reviewing : play.stage = .reviewing) :
    ∃ final, play.Leads play.endpoint.stopIfDrained .waiting final := by
  let drained := play.endpoint.deadline.isSome && play.endpoint.session.isDrained
  let final := { if drained then play.halt else play with stage := .waiting }
  have worked : play.step? .work = some final := by
    rw [Interplay.step?, Interplay.work?, reviewing]
  refine ⟨final, .single (.work worked), ?_, rfl, ?_⟩
  · show (if drained then play.halt else play).endpoint = if drained then _ else _
    split <;> rfl
  · show (if drained then play.halt else play).now = play.now
    split <;> rfl

/-- An endpoint that handles a signal in one go does so by these steps. -/
theorem Interplay.leads_step (play : Interplay) (waiting : play.stage = .waiting)
    (running : play.endpoint.running = true) {surroundings left : σ} {after : Endpoint}
    (stepped : play.endpoint.step? host play.now surroundings = some (after, left)) :
    ∃ final, play.Leads after .waiting final := by
  unfold Endpoint.step? at stepped
  split at stepped
  · cases stepped
  · rename_i signal inbox oldest
    let picked : Endpoint := { play.endpoint with inbox }
    let handled := picked.handle host play.now signal surroundings
    -- what is handled without breaking down is followed by sending
    have sends : handled.1.running = true →
        (∃ middle, play.Leads handled.1 .looking middle) → ∃ final, play.Leads after .waiting final := by
      rintro awake ⟨middle, handles⟩
      obtain ⟨sent, sends⟩ := middle.leads_sendAll host handles.stage handled.2
      obtain ⟨final, reviews⟩ := sent.leads_review sends.stage
      rw [sends.endpoint, handles.endpoint, handles.now] at reviews
      have same : after = (handled.1.sendAll host play.now handled.2).1.stopIfDrained := by
        dsimp only at stepped
        rw [if_pos awake] at stepped
        cases stepped
        rfl
      exact same ▸ ⟨final, (handles.trans sends).trans reviews⟩
    by_cases shutdown : signal = .shutdown
    · subst shutdown
      rcases play.leads_shutdown waiting oldest with
        ⟨deadline, middle, ends, leads⟩ | ⟨final, beyond, leads⟩
      · have same : handled = ({ picked with deadline := some deadline }, surroundings) := by
          simp only [handled, Endpoint.handle, picked, ends]
        rw [same] at sends
        exact sends running ⟨middle, leads⟩
      · have same : handled = (picked.stop, surroundings) := by
          simp only [handled, Endpoint.handle, picked, beyond]
        have unset : picked.deadline = none := (Option.or_eq_none_iff.mp beyond).1
        have quiet : picked.stop.stopIfDrained = picked.stop := by
          rw [Endpoint.stopIfDrained, show picked.stop.deadline = none from unset]
          rfl
        dsimp only [handled] at same stepped
        rw [same] at stepped
        cases stepped
        exact quiet.symm ▸ ⟨final, leads⟩
    · refine sends ?_ (play.leads_handle host waiting oldest shutdown surroundings)
      exact (picked.running_handle host play.now signal surroundings shutdown).trans running

/-- The first thing that an endpoint does, until it waits for signals. -/
theorem Interplay.leads_start (play : Interplay) (asking : play.stage = .asking)
    (surroundings : σ) :
    ∃ final, play.Leads (play.endpoint.start host play.now surroundings).1.stopIfDrained .waiting
      final := by
  obtain ⟨asked, asks⟩ := play.leads_askReset host asking surroundings
  obtain ⟨sent, sends⟩ := asked.leads_sendAll host asks.stage
    (play.endpoint.askReset host play.now surroundings).2
  obtain ⟨final, reviews⟩ := sent.leads_review sends.stage
  rw [sends.endpoint, asks.endpoint, asks.now] at reviews
  exact ⟨final, (asks.trans sends).trans reviews⟩

end hosted

/-- A call that leaves its signal at once does what the endpoint does when it is called. -/
theorem Interplay.post_call (play : Interplay) (session : Session) (wakeup : Wakeup) :
    ∃ final, (play.call session wakeup).step? (.post play.unposted.length) = some final ∧
      final.endpoint = ({ play.endpoint with session } : Endpoint).post wakeup.signal ∧
      final.unposted = play.unposted ∧ final.stage = play.stage := by
  let called := play.call session wakeup
  let final := { called.post wakeup.signal with
    unposted := called.unposted.eraseIdx play.unposted.length }
  have last : called.unposted[play.unposted.length]? = some wakeup :=
    List.getElem?_concat_length ..
  have posts : called.step? (.post play.unposted.length) = some final := by
    rw [Interplay.step?, last]
  have left : final.unposted = play.unposted := by
    show (play.unposted ++ [wakeup]).eraseIdx play.unposted.length = play.unposted
    rw [List.eraseIdx_append_of_length_le (Nat.le_refl _), Nat.sub_self]
    simp only [List.eraseIdx_zero, List.tail_cons, List.append_nil]
  exact ⟨final, posts, rfl, left, rfl⟩

end DatagramLink
