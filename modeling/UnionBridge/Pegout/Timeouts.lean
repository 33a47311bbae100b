import UnionBridge.Pegout.Changes

/-!
# The timeout of a pegout flow

While a flow waits for the signatures, its timeout has to pend or to be scheduled: it is all that
leads to the operator take. There are two ways to lose it. The message that names the user-take
transaction moves the flow on before the subflow is started and before the timeout pends, and an
error in between leaves the flow without one. And a block takes all the expired timeouts out of the
scheduler before it handles the first of them, so that an error loses those that come after it.
-/

namespace UnionBridge.Pegout

open Chain Contracts Bitvmx Coordinator Effect

/-! ## The registration that a flow has taken -/

/-- A flow knows the transaction of a registration only once it is in the window for that event, or
has ended. -/
def State.TookInWindow (s : State) : Prop :=
  s.ctx.pegoutRegisteredTx.isSome = true →
    s.step.allowsFastForwardToPegoutRegistered = true ∨ s.isTerminal = true

theorem Turned.tookInWindow {plain : StepData → Prop} {next : Option Steps} {t t' : World Flow}
    (hturned : Turned next t t') (hmoves : MovesBy plain t.own.state next)
    (h : t.own.state.TookInWindow) : t'.own.state.TookInWindow := by
  intro hsome
  have hbefore : t.own.state.step.allowsFastForwardToPegoutRegistered = true
      ∨ t.own.state.isTerminal = true := by
    rcases hturned.registered with hsame | hwindow
    · exact h (hsame ▸ hsome)
    · exact .inl hwindow
  cases next with
  | none => rwa [State.isTerminal, hturned.stays rfl]
  | some n =>
    have hreaches := hturned.moves n rfl
    rcases hmoves n rfl with rfl | ⟨data, -, hnext, -⟩
    · rcases hreaches with hstep | ⟨hstep, -⟩
      · exact .inr (decide_eq_true (.inr hstep))
      · cases hstep
    rcases hbefore with hwindow | hterminal
    · rcases hreaches with hstep | ⟨-, hstep⟩
      · rcases Steps.window_of_next hnext hwindow with hn | hn
        · exact .inl (hstep ▸ hn)
        · exact .inr (decide_eq_true (.inl (hstep.trans hn)))
      · exact .inl (by rw [hstep]; rfl)
    · cases (Steps.next_of_terminal hterminal data).symm.trans hnext

/-! ## The invariant -/

def Core.IsArmed (core : Core) (id : FlowId) : Prop :=
  (core.flowsPendingTimeout.lookup id).isSome = true
    ∨ core.advanceFundsTimeoutScheduler.isScheduled id = true

instance (core : Core) (id : FlowId) : Decidable (core.IsArmed id) :=
  inferInstanceAs (Decidable (_ ∨ _))

/-- Every flow that waits for the signatures has its timeout, apart from some. -/
structure ArmedBut (exempt : List FlowId) (core : Core) : Prop where
  armed : ∀ id flow, core.pegoutFlows.lookup id = some flow →
    flow.step = .waitUserTakeSignaturesReady → core.IsArmed id ∨ id ∈ exempt
  flows : ∀ id flow, core.pegoutFlows.lookup id = some flow → flow.TookInWindow
  store : ∀ id flow, core.store.lookup id = some flow → flow.TookInWindow

section Invariant

variable {config : ProcessorConfig} {env : PegoutEnv} {exempt : List FlowId} {w w' : World Core}

/-- A flow comes to the wait with the message of `BitVMX` only; then it has to be exempt. -/
theorem ArmedBut.ran {plain : StepData → Prop} {id : FlowId} {flow : State} {next : Option Steps}
    (h : ArmedBut exempt w.own) (hlookup : w.own.pegoutFlows.lookup id = some flow)
    (hran : Ran id flow next w w') (hmoves : MovesBy plain flow next)
    (hwaits : next = some .waitUserTakeSignaturesReady → id ∈ exempt) : ArmedBut exempt w'.own := by
  have hflows : ∀ id' flow', w'.own.pegoutFlows.lookup id' = some flow' → flow'.TookInWindow := by
    obtain ⟨t, hturned, rfl⟩ := hran
    intro id' flow' hflow'
    rcases Table.lookup_insert_eq_some.mp hflow' with ⟨-, rfl⟩ | ⟨-, hflow'⟩
    · exact hturned.tookInWindow hmoves (h.flows id flow hlookup)
    · exact h.flows id' flow' hflow'
  refine ⟨fun id' flow' hflow' hstep => ?_, hflows, fun id' flow' hstored => ?_⟩
  · obtain ⟨t, hturned, rfl⟩ := hran
    rcases Table.lookup_insert_eq_some.mp hflow' with ⟨rfl, rfl⟩ | ⟨-, hflow'⟩
    · cases next with
      | none => exact h.armed id' flow hlookup ((hturned.stays rfl).symm.trans hstep)
      | some n =>
        have hn : n = .waitUserTakeSignaturesReady := (hturned.moves n rfl).eq_wait hstep
        exact .inr (hwaits (congrArg some hn))
    · exact h.armed id' flow' hflow' hstep
  · rcases hran.stored hstored with hstored | hflow'
    · exact h.store id' flow' hstored
    · exact hflows id' flow' hflow'

theorem ArmedBut.created {event : EventWithBlock PegoutRequested} (h : ArmedBut exempt w.own)
    (hcreated : Created config event w w') : ArmedBut exempt w'.own := by
  have hflows : (∀ id flow, w'.own.pegoutFlows.lookup id = some flow →
        flow.step = .waitUserTakeSignaturesReady → w'.own.IsArmed id ∨ id ∈ exempt)
      ∧ ∀ id flow, w'.own.pegoutFlows.lookup id = some flow → flow.TookInWindow := by
    cases hcreated with
    | refused store hown _ _ =>
      rw [hown]
      exact ⟨h.armed, h.flows⟩
    | added new hnew _ t hturned _ hcore =>
      subst hcore
      -- the new flow has only come to its second step, and has taken no event
      have hstep : t.own.state.step = .getCommInfoAuthoritativeCheckpoint := by
        rcases hturned.moves _ rfl with hstep | ⟨hstep, -⟩
        · exact hstep
        · cases hstep
      have htook : t.own.state.TookInWindow := by
        obtain ⟨_, -, rfl⟩ := Option.map_eq_some_iff.mp hnew
        rcases hturned.registered with hsame | hwindow
        · intro hsome
          rw [hsame] at hsome
          cases hsome
        · cases hwindow
      refine ⟨fun id flow hflow hwait => ?_, fun id flow hflow => ?_⟩
      · rcases Table.lookup_insert_eq_some.mp hflow with ⟨-, rfl⟩ | ⟨-, hflow⟩
        · cases hstep.symm.trans hwait
        · exact h.armed id flow hflow hwait
      · rcases Table.lookup_insert_eq_some.mp hflow with ⟨-, rfl⟩ | ⟨-, hflow⟩
        · exact htook
        · exact h.flows id flow hflow
  refine ⟨hflows.1, hflows.2, fun id flow hstored => ?_⟩
  rcases hcreated.stored hstored with hstored | hflow
  · exact h.store id flow hstored
  · exact hflows.2 id flow hflow

theorem Core.ended_eq_false {core : Core} {id : FlowId} {flow : State}
    (hlookup : core.pegoutFlows.lookup id = some flow) (hlive : flow.isTerminal = false) :
    core.ended id = false := by
  simp [Core.ended, hlookup, hlive]

theorem ArmedBut.cleanedUp (h : ArmedBut exempt w.own) (hclean : CleanedUp env.toEnv w w') :
    ArmedBut exempt w'.own := by
  refine ⟨fun id flow hflow hwait => ?_, fun id flow hflow => ?_, fun id flow hflow => ?_⟩
  · rw [hclean.flows, Option.filter_eq_some_iff] at hflow
    have hlive : w.own.ended id = false := Core.ended_eq_false hflow.1 (by simpa using hflow.2)
    have harmed := h.armed id flow hflow.1 hwait
    rwa [Core.IsArmed, TimeBasedScheduler.isScheduled, hclean.pending, hclean.timeouts, hlive]
  · rw [hclean.flows, Option.filter_eq_some_iff] at hflow
    exact h.flows id flow hflow.1
  · exact h.store id flow (hclean.store id flow hflow)

/-- The data that leave no flow waiting. -/
def Unaccepted (data : StepData) : Prop := ∀ accepted, data ≠ .pegoutAccepted accepted

theorem MovesBy.ne_wait {flow : State} {next : Option Steps} (h : MovesBy Unaccepted flow next) :
    next ≠ some .waitUserTakeSignaturesReady := by
  intro hnext
  rcases h _ hnext with hfailed | ⟨data, hplain, hdata, -⟩
  · cases hfailed
  · obtain ⟨accepted, rfl⟩ := Steps.next_eq_wait hdata
    exact hplain accepted rfl

theorem flowRules_armedBut : FlowRules config env Unaccepted fun w => ArmedBut exempt w.own where
  subFlows _ _ _ hw := ⟨hw.armed, hw.flows, hw.store⟩
  schedules _ _ _ hw := ⟨hw.armed, hw.flows, hw.store⟩
  ran hw hlookup hran hmoves :=
    hw.ran hlookup hran hmoves.movesBy fun hwait => absurd hwait hmoves.movesBy.ne_wait
  cleanedUp := ArmedBut.cleanedUp
  created := ArmedBut.created

end Invariant

/-! ## Timeouts are scheduled -/

def Core.waits (core : Core) (id : FlowId) : Bool :=
  (core.pegoutFlows.lookup id).any fun flow => flow.step = .waitUserTakeSignaturesReady

/-- When the timeout of a flow expires, once a block has scheduled those that pend. -/
def Core.expiration (config : ProcessorConfig) (timestamp : UInt64) (core : Core) (id : FlowId) :
    Option UInt64 :=
  if (core.flowsPendingTimeout.lookup id).isSome ∧ core.waits id then
    some (timestamp + config.advanceFundsTimeoutSecs)
  else core.advanceFundsTimeoutScheduler.pending.lookup id

structure Scheduled (config : ProcessorConfig) (timestamp : UInt64) (core core' : Core) : Prop where
  frame : ∃ scheduler pending, core' = { core with
    advanceFundsTimeoutScheduler := scheduler, flowsPendingTimeout := pending }
  timeouts : ∀ id, core'.advanceFundsTimeoutScheduler.pending.lookup id
    = core.expiration config timestamp id

section Scheduling

variable {config : ProcessorConfig} {env : PegoutEnv} {timestamp : UInt64} {exempt : List FlowId}
  {w : World Core}

theorem Core.waits_iff {core : Core} {id : FlowId} : core.waits id = true ↔
    ∃ flow, core.pegoutFlows.lookup id = some flow ∧ flow.step = .waitUserTakeSignaturesReady := by
  simp [Core.waits, Option.any_eq_true]

theorem lookup_schedulePendingTimeout (core : Core) (id other : FlowId) :
    (core.schedulePendingTimeout config timestamp id).advanceFundsTimeoutScheduler.pending.lookup other
      = if other = id ∧ core.waits other then some (timestamp + config.advanceFundsTimeoutSecs)
        else core.advanceFundsTimeoutScheduler.pending.lookup other := by
  show (if core.waits id then core.advanceFundsTimeoutScheduler.schedule id timestamp
    config.advanceFundsTimeoutSecs else core.advanceFundsTimeoutScheduler).pending.lookup other = _
  by_cases hid : other = id
  · subst hid
    by_cases hwaits : core.waits other = true
    · simp [hwaits, TimeBasedScheduler.schedule]
    · simp [hwaits]
  · by_cases hwaits : core.waits id = true
    · simp [hwaits, hid, TimeBasedScheduler.schedule, AList.lookup_insert_ne hid]
    · simp [hwaits, hid]

theorem schedulePendingTimeouts_fold (config : ProcessorConfig) (timestamp : UInt64)
    (ids : List FlowId) (core : Core) :
    let core' := ids.foldl (Core.schedulePendingTimeout config timestamp) core
    (∃ scheduler pending, core' = { core with
        advanceFundsTimeoutScheduler := scheduler, flowsPendingTimeout := pending })
      ∧ ∀ id, core'.advanceFundsTimeoutScheduler.pending.lookup id
        = if id ∈ ids ∧ core.waits id then some (timestamp + config.advanceFundsTimeoutSecs)
          else core.advanceFundsTimeoutScheduler.pending.lookup id := by
  induction ids generalizing core with
  | nil => exact ⟨⟨_, _, rfl⟩, fun id => by simp⟩
  | cons first ids ih =>
    obtain ⟨⟨scheduler, pending, hframe⟩, hlookup⟩ :=
      ih (core.schedulePendingTimeout config timestamp first)
    refine ⟨⟨scheduler, pending, hframe⟩, fun id => (hlookup id).trans ?_⟩
    show (if id ∈ ids ∧ core.waits id then _ else _) = _
    rw [lookup_schedulePendingTimeout]
    by_cases hid : id = first
    · subst hid
      by_cases hwaits : core.waits id = true <;> simp [hwaits]
    · simp [hid]

theorem schedulePendingTimeouts_schedules :
    wp (schedulePendingTimeouts config env timestamp)
      (fun _ w' => Scheduled config timestamp w.own w'.own) (fun _ _ => False) w := by
  simp only [schedulePendingTimeouts, wp_bind, wp_get, wp_modifyCore]
  obtain ⟨hframe, hlookup⟩ := schedulePendingTimeouts_fold config timestamp
    ((w.own.flowsPendingTimeout.inOrder (env.rank w.log .pendingTimeouts)).map (·.1)) w.own
  refine ⟨hframe, fun id => (hlookup id).trans ?_⟩
  have hmem : id ∈ (w.own.flowsPendingTimeout.inOrder (env.rank w.log .pendingTimeouts)).map (·.1)
      ↔ (w.own.flowsPendingTimeout.lookup id).isSome = true := by
    rw [Option.isSome_iff_exists]
    constructor
    · intro h
      obtain ⟨⟨_, v⟩, hentry, rfl⟩ := List.mem_map.mp h
      exact ⟨v, Table.mem_inOrder.mp hentry⟩
    · rintro ⟨v, hv⟩
      exact List.mem_map.mpr ⟨(id, v), Table.mem_inOrder.mpr hv, rfl⟩
  simp only [Core.expiration, hmem]

theorem ArmedBut.scheduled {core core' : Core} (h : ArmedBut exempt core)
    (hscheduled : Scheduled config timestamp core core') : ArmedBut exempt core' := by
  obtain ⟨scheduler, pending, rfl⟩ := hscheduled.frame
  refine ⟨fun id flow hflow hwait => (h.armed id flow hflow hwait).imp_left fun harmed => .inr ?_,
    h.flows, h.store⟩
  rw [TimeBasedScheduler.isScheduled, hscheduled.timeouts, Core.expiration]
  split
  · rfl
  · next hpending =>
    rcases harmed with hpends | hscheduled
    · exact absurd ⟨hpends, Core.waits_iff.mpr ⟨flow, hflow, hwait⟩⟩ hpending
    · exact hscheduled

end Scheduling

/-! ## Timeouts expire -/

/-- The timeout of this flow cannot be handled: there is no flow, or the store refuses it. -/
def Core.Stuck (env : Env) (core : Core) (id : FlowId) : Prop :=
  ∀ flow, core.pegoutFlows.lookup id = some flow →
    flow.step = .waitUserTakeSignaturesReady ∧ SaveRefused env flow.flowId

/-- Since `start`, some flows have stopped waiting. -/
def Core.Since (start core : Core) : Prop :=
  ∀ id, core.pegoutFlows.lookup id = start.pegoutFlows.lookup id
    ∨ ∃ flow, core.pegoutFlows.lookup id = some flow ∧ flow.step ≠ .waitUserTakeSignaturesReady

theorem Core.Since.trans {a b c : Core} (h : a.Since b) (h' : b.Since c) : a.Since c := by
  intro id
  rcases h' id with hsame | hmoved
  · rw [hsame]
    exact h id
  · exact .inr hmoved

section Expiring

variable {config : ProcessorConfig} {env : PegoutEnv} {timestamp : UInt64} {exempt : List FlowId}
  {id : FlowId} {w w' : World Core}

structure Triggers (exempt : List FlowId) (id : FlowId) (w w' : World Core) : Prop where
  armed : ArmedBut exempt w'.own
  since : w.own.Since w'.own
  self : w'.own.waits id = false

theorem Core.waits_eq_false {core : Core} {flow : State}
    (hlookup : core.pegoutFlows.lookup id = some flow)
    (hstep : flow.step ≠ .waitUserTakeSignaturesReady) : core.waits id = false := by
  simp [Core.waits, hlookup, hstep]

/-- A step that the timeout completes; the data are those of a timeout, so only the store can refuse. -/
theorem FlowCompletes.triggers {flow : State} {ok : Bool} {next : Steps}
    (h : FlowCompletes env.toEnv id flow .triggerOperatorTakeTimeout ok w w')
    (harmed : ArmedBut exempt w.own) (hlookup : w.own.pegoutFlows.lookup id = some flow)
    (hnext : flow.step.next .triggerOperatorTakeTimeout = some next)
    (hwait : next = .triggerOperatorTake ∨ next = .done) :
    ∃ flow', Triggers exempt id w w' ∧ w'.own.pegoutFlows.lookup id = some flow'
      ∧ flow'.step = next ∧ flow'.flowId = flow.flowId
      ∧ (ok = false → SaveRefused env.toEnv flow.flowId) := by
  obtain ⟨flow', hlookup', hreaches, hid, hrefused⟩ := h.moved hnext trivial (by rintro _ ⟨⟩)
  obtain ⟨reached, hran, hmoves⟩ := h.ran
  have hstep : flow'.step = next := by
    rcases hreaches with hstep | ⟨hdispatch, -⟩
    · exact hstep
    · rcases hwait with rfl | rfl <;> cases hdispatch
  have hleft : flow'.step ≠ .waitUserTakeSignaturesReady := by
    rw [hstep]
    rcases hwait with rfl | rfl <;> rintro ⟨⟩
  have hsilent : flow.entersSilently next = true := by
    rcases hwait with rfl | rfl
    · rfl
    · -- a flow that has taken no event announces nothing when it is done
      have hfrom : flow.step = .triggerOperatorTake := by
        generalize flow.step = step at hnext
        cases step <;> cases hnext
        rfl
      have htook := harmed.flows id flow hlookup
      rw [State.TookInWindow, State.isTerminal, hfrom] at htook
      cases hregistered : flow.ctx.pegoutRegisteredTx with
      | none => simp [State.entersSilently, hregistered]
      | some tx => rcases htook (by rw [hregistered]; rfl) with h | h <;> cases h
  have hdata : Unaccepted .triggerOperatorTakeTimeout := by rintro _ ⟨⟩
  have hplain : MovesBy Unaccepted flow reached := fun n hn => .inr ⟨_, hdata, hmoves n hn⟩
  refine ⟨flow', ⟨?_, fun other => ?_, Core.waits_eq_false hlookup' hleft⟩, hlookup', hstep, hid,
    fun hok => hrefused hok hsilent⟩
  · exact harmed.ran hlookup hran hplain fun hwait => absurd hwait hplain.ne_wait
  · by_cases hother : other = id
    · subst hother
      exact .inr ⟨flow', hlookup', hleft⟩
    · exact .inl (hran.lookup_ne hother)

/-- **One expired timeout.** The handler fails only on a flow that is stuck. -/
theorem triggerOperatorTakeForFlow_triggers (h : ArmedBut exempt w.own) :
    wp (triggerOperatorTakeForFlow config env id) (fun _ => Triggers exempt id w)
      (fun _ w' => Triggers exempt id w w' ∧ w.own.Stuck env.toEnv id) w := by
  simp only [triggerOperatorTakeForFlow, wp_bind, wp_get, wp_okOr]
  refine ⟨fun flow hlookup => ?_, fun hnone => ?_⟩
  · simp only [wp_ite, wp_pure, wp_bind, wp_modifyCore]
    split
    · next hstep => exact ⟨h, fun _ => .inl rfl, Core.waits_eq_false hlookup hstep⟩
    next hwait =>
    have hwait : flow.step = .waitUserTakeSignaturesReady := not_not.mp hwait
    have hstuck : SaveRefused env.toEnv flow.flowId → w.own.Stuck env.toEnv id := by
      intro hrefused flow' hflow'
      cases hlookup.symm.trans hflow'
      exact ⟨hwait, hrefused⟩
    have hnext : flow.step.next .triggerOperatorTakeTimeout = some .triggerOperatorTake := by
      rw [hwait]
      rfl
    have harmed : ArmedBut exempt (putSubFlows (fun t => t.erase flow.ctx.bitvmxProtocolId.value)
        w.own) := ⟨h.armed, h.flows, h.store⟩
    apply wp_mono completeFlowStep_completes
    · intro _ w₁ h₁
      obtain ⟨flow₁, ht₁, hlookup₁, hstep₁, hid₁, -⟩ :=
        h₁.triggers harmed hlookup hnext (.inl rfl)
      have hsince : w.own.Since w₁.own := ht₁.since
      have hnext₁ : flow₁.step.next .triggerOperatorTakeTimeout = some .done := by
        rw [hstep₁]
        rfl
      rw [wp_get, hlookup₁]
      simp only [hstep₁, if_true]
      apply wp_mono completeFlowStep_completes
      · intro _ w₂ h₂
        obtain ⟨_, ht₂, -⟩ := h₂.triggers ht₁.armed hlookup₁ hnext₁ (.inr rfl)
        exact ⟨ht₂.armed, hsince.trans ht₂.since, ht₂.self⟩
      · intro _ w₂ h₂
        obtain ⟨_, ht₂, -, -, -, hrefused⟩ := h₂.triggers ht₁.armed hlookup₁ hnext₁ (.inr rfl)
        exact ⟨⟨ht₂.armed, hsince.trans ht₂.since, ht₂.self⟩, hstuck (hid₁ ▸ hrefused rfl)⟩
    · intro _ w₁ h₁
      obtain ⟨_, ht₁, -, -, -, hrefused⟩ := h₁.triggers harmed hlookup hnext (.inl rfl)
      exact ⟨⟨ht₁.armed, ht₁.since, ht₁.self⟩, hstuck (hrefused rfl)⟩
  · have hidle : w.own.waits id = false := by simp [Core.waits, hnone]
    exact ⟨⟨h, fun _ => .inl rfl, hidle⟩, fun flow hflow => by cases hnone.symm.trans hflow⟩

theorem ArmedBut.arm {core : Core} (h : ArmedBut (id :: exempt) core)
    (hself : core.waits id = true → core.IsArmed id) : ArmedBut exempt core where
  armed id' flow hflow hwait := by
    rcases h.armed id' flow hflow hwait with harmed | hmem
    · exact .inl harmed
    · rcases List.mem_cons.mp hmem with rfl | hmem
      · exact .inl (hself (Core.waits_iff.mpr ⟨flow, hflow, hwait⟩))
      · exact .inr hmem
  flows := h.flows
  store := h.store

theorem ArmedBut.drop {core : Core} (h : ArmedBut (id :: exempt) core)
    (hself : core.waits id = false) : ArmedBut exempt core :=
  h.arm fun hwaits => by cases hself.symm.trans hwaits

/-- The timeout of the flow is found in the scheduler, and over. -/
def Core.Expired (timestamp : UInt64) (core : Core) (id : FlowId) : Prop :=
  ∃ expiration, core.advanceFundsTimeoutScheduler.pending.lookup id = some expiration
    ∧ expiration ≤ timestamp

/-- **All expired timeouts.** Those that the loop has not come to have left the scheduler; an error
is harmless when none of their flows waits. -/
theorem handleAdvanceFundsTimeoutExpired_armed (h : ArmedBut [] w.own)
    (hspared : ∀ id other, id ≠ other → w.own.Expired timestamp id → w.own.Expired timestamp other →
      w.own.Stuck env.toEnv id → w.own.waits other = false) :
    wp (handleAdvanceFundsTimeoutExpired config env timestamp) (fun _ w' => ArmedBut [] w'.own)
      (fun _ w' => ArmedBut [] w'.own) w := by
  let rank := env.rank w.log .timeouts
  let expired := (w.own.advanceFundsTimeoutScheduler.checkExpired rank timestamp).1
  have hmem : ∀ id, id ∈ expired ↔ w.own.Expired timestamp id := fun id =>
    TimeBasedScheduler.mem_checkExpired
  simp only [handleAdvanceFundsTimeoutExpired, wp_bind, wp_get, wp_modifyCore]
  have hloop : wp (expired.forM (triggerOperatorTakeForFlow config env))
      (fun _ w' => ArmedBut [] w'.own ∧ w.own.Since w'.own
        ∧ ∀ id ∈ ([] : List FlowId), w.own.Expired timestamp id)
      (fun _ w' => ArmedBut [] w'.own)
      ⟨{ w.own with advanceFundsTimeoutScheduler := ⟨w.own.advanceFundsTimeoutScheduler.pending.retain
        fun _ expiration => ¬ expiration ≤ timestamp⟩ }, w.log⟩ := by
    refine wp_forM (fun rest (w' : World Core) => ArmedBut rest w'.own ∧ w.own.Since w'.own
      ∧ ∀ id ∈ rest, w.own.Expired timestamp id) ?_ ?_
    · rintro id rest w₁ ⟨harmed, hsince, hrest⟩
      apply wp_mono (triggerOperatorTakeForFlow_triggers harmed)
      · intro _ w₂ ht
        exact ⟨ht.armed.drop ht.self, hsince.trans ht.since,
          fun other hother => hrest other (List.mem_cons_of_mem _ hother)⟩
      · rintro _ w₂ ⟨ht, hstuck⟩
        have harmed₂ := ht.armed.drop ht.self
        refine ⟨fun other flow hflow hwait => ?_, harmed₂.flows, harmed₂.store⟩
        refine (harmed₂.armed other flow hflow hwait).imp_right fun hother => ?_
        -- the flow waits since the loop began, and so does the stuck one
        have hne : id ≠ other := by
          rintro rfl
          cases ht.self.symm.trans (Core.waits_iff.mpr ⟨flow, hflow, hwait⟩)
        have hwaited : w.own.waits other = true := by
          rcases hsince.trans ht.since other with hsame | ⟨flow', hflow', hleft⟩
          · exact Core.waits_iff.mpr ⟨flow, hsame.symm.trans hflow, hwait⟩
          · cases hflow.symm.trans hflow'
            exact absurd hwait hleft
        have hstuck : w.own.Stuck env.toEnv id := by
          rcases hsince id with hsame | ⟨flow', hflow', hleft⟩
          · exact fun flow' hflow' => hstuck flow' (hsame.trans hflow')
          · exact absurd (hstuck flow' hflow').1 hleft
        cases (hspared id other hne (hrest id List.mem_cons_self)
          (hrest other (List.mem_cons_of_mem _ hother)) hstuck).symm.trans hwaited
    · refine ⟨⟨fun id flow hflow hwait => ?_, h.flows, h.store⟩, fun _ => .inl rfl,
        fun id hid => (hmem id).mp hid⟩
      rcases h.armed id flow hflow hwait with (hpending | hscheduled) | hmem'
      · exact .inl (.inl hpending)
      · obtain ⟨expiration, hlookup⟩ := Option.isSome_iff_exists.mp hscheduled
        by_cases hover : expiration ≤ timestamp
        · exact .inr ((hmem id).mpr ⟨expiration, hlookup, hover⟩)
        · refine .inl (.inr ?_)
          simpa [TimeBasedScheduler.isScheduled, Table.lookup_retain, hlookup] using hover
      · cases hmem'
  exact wp_mono hloop (fun _ _ hw' => hw'.1) fun _ _ hw' => hw'

end Expiring

/-! ## The handlers -/

section Handlers

variable {config : ProcessorConfig} {env : PegoutEnv} {timestamp : UInt64} {w w' : World Core}

theorem armed_dispatchSigned (protocolId : Uuid) :
    Keeps (fun w => ArmedBut [] w.own) (dispatchSigned config env protocolId) := by
  intro w hw
  simp only [dispatchSigned, pegoutFlowByProtocolId, wp_bind, wp_modifyCore]
  have hw' : ArmedBut [] (putSubFlows (fun t => t.erase protocolId) w.own) :=
    ⟨hw.armed, hw.flows, hw.store⟩
  apply wp_findFlow
  · exact fun _ => hw'
  · intro id flow hlookup _
    simp only [wp_ite, wp_pure, wp_bind, wp_modifyCore]
    split
    · exact hw'
    next hwait =>
    have hdata : Unaccepted .userTakeSignaturesReady := by rintro _ ⟨⟩
    have hrules : Rules config env Unaccepted fun w => ArmedBut [] w.own := flowRules_armedBut.rules
    apply wp_mono (wp_and completeFlowStep_completes (hrules.completed hdata hw' hlookup))
    · rintro _ w₁ ⟨h₁, hw₁⟩
      have hnext : flow.step.next .userTakeSignaturesReady
          = some .dispatchUserTakeTransactionAllConvergeCheckpoint := by
        rw [not_not.mp hwait]
        rfl
      obtain ⟨flow₁, hlookup₁, hreaches, -⟩ := h₁.moved hnext trivial (by rintro _ ⟨⟩)
      refine ⟨fun id' flow' hflow' hwait' => ?_, hw₁.flows, hw₁.store⟩
      by_cases hid : id' = id
      · subst hid
        cases hlookup₁.symm.trans hflow'
        cases hreaches.eq_wait hwait'
      · refine (hw₁.armed id' flow' hflow' hwait').imp_left (Or.imp_right fun hscheduled => ?_)
        rw [TimeBasedScheduler.isScheduled, TimeBasedScheduler.cancel, AList.lookup_erase_ne hid]
        exact hscheduled
    · exact fun _ _ h => h.2

def NonceRefused (env : Env) (flow : State) (accepted : PegOutAccepted) : Prop :=
  ∃ log e, env.answer log (.addMemberNonce flow.ctx.pegoutRequested.pegoutSignatureData.txid
    accepted.userTakeNonce) = .error e

/-- The flow that the message is for can be stored, and its signatures can begin. -/
def Core.Accepts (config : ProcessorConfig) (env : PegoutEnv) (protocolId : Uuid) (data : String)
    (core : Core) : Prop :=
  ∀ id flow accepted, core.pegoutFlows.lookup id = some flow →
    flow.ctx.bitvmxProtocolId.value = protocolId → flow.step = .prepareUserTakeSetup →
    config.libs.parsePegOutAccepted data = some accepted →
    ¬ SaveRefused env.toEnv flow.flowId
      ∧ (env.skipSignatures = false → ¬ NonceRefused env.toEnv flow accepted)

/-- **The message that names the user-take transaction.** Nothing fails between the step of the flow
and the timeout. -/
theorem handlePegoutAccepted_armed {protocolId : Uuid} {data : String} (h : ArmedBut [] w.own)
    (haccepts : w.own.Accepts config env protocolId data) :
    wp (handlePegoutAccepted config env protocolId data) (fun _ w' => ArmedBut [] w'.own)
      (fun _ w' => ArmedBut [] w'.own) w := by
  simp only [handlePegoutAccepted, pegoutFlowByProtocolId, wp_bind]
  apply wp_findFlow
  · exact fun _ => h
  intro id flow hlookup hprotocol
  simp only [wp_bind, wp_okOr, wp_ensure]
  refine ⟨fun accepted haccepted => ?_, fun _ => h⟩
  split
  · next hstep =>
    obtain ⟨hsaves, hnonce⟩ :=
      haccepts id flow accepted hlookup (of_decide_eq_true hprotocol) hstep haccepted
    have hnext : flow.step.next (.pegoutAccepted accepted) = some .waitUserTakeSignaturesReady := by
      rw [hstep]
      rfl
    apply wp_mono completeFlowStep_completes
    · -- the flow waits, for now without its timeout
      intro _ w₁ h₁
      obtain ⟨next, hran, hmoves⟩ := h₁.ran
      have hplain : MovesBy (fun _ => True) flow next := fun n hn => .inr ⟨_, trivial, hmoves n hn⟩
      have hbut : ArmedBut [id] w.own := ⟨fun id' flow' hflow' hwait => .inl
        ((h.armed id' flow' hflow' hwait).resolve_right fun hmem => by cases hmem), h.flows, h.store⟩
      have hw₁ : ArmedBut [id] w₁.own :=
        hbut.ran hlookup hran hplain fun _ => List.mem_singleton.mpr rfl
      have hrules : Rules config env Unaccepted fun w => ArmedBut [id] w.own :=
        flowRules_armedBut.rules
      rw [startSubFlowUnless]
      rw [wp_ite]
      have hpends : ∀ w₂ : World Core, ArmedBut [id] w₂.own → ArmedBut [] { w₂.own with
          flowsPendingTimeout := w₂.own.flowsPendingTimeout.insert id () } := by
        intro w₂ hw₂
        refine ⟨fun id' flow' hflow' hwait => .inl ?_, hw₂.flows, hw₂.store⟩
        by_cases hid : id' = id
        · subst hid
          exact .inl (by simp)
        · rcases hw₂.armed id' flow' hflow' hwait with (hpending | hscheduled) | hmem
          · refine .inl ?_
            rwa [AList.lookup_insert_ne hid]
          · exact .inr hscheduled
          · exact absurd (List.mem_singleton.mp hmem) hid
      split
      · exact hpends w₁ hw₁
      next hskip =>
      have hskip : env.skipSignatures = false := by simpa using hskip
      apply wp_mono (wp_and (startSubFlow_frame _ _) (hrules.keeps_startSubFlowUnless false _ _ w₁ hw₁))
      · exact fun _ w₂ hw₂ => hpends w₂ hw₂.2
      · rintro _ w₂ ⟨⟨-, -, hrefused⟩, -⟩
        exact absurd hrefused (hnonce hskip)
    · intro _ w₁ h₁
      obtain ⟨_, -, -, -, hrefused⟩ := h₁.moved hnext trivial (by rintro _ ⟨⟩)
      exact absurd (hrefused rfl rfl) hsaves
  · exact h

end Handlers

/-! ## Blocks -/

def Core.Due (config : ProcessorConfig) (timestamp : UInt64) (core : Core) (id : FlowId) : Prop :=
  core.ended id = false ∧ ∃ expiration, core.expiration config timestamp id = some expiration
    ∧ expiration ≤ timestamp

/-- A timeout that cannot be handled is due alone: none of the others belongs to a flow that waits. -/
def Core.Spared (config : ProcessorConfig) (env : Env) (timestamp : UInt64) (core : Core) : Prop :=
  ∀ id other, id ≠ other → core.Due config timestamp id → core.Due config timestamp other →
    core.Stuck env id → core.waits other = false

section Blocks

variable {config : ProcessorConfig} {env : PegoutEnv} {timestamp : UInt64} {w w' : World Core}

theorem CleanedUp.waits (h : CleanedUp env.toEnv w w') (id : FlowId) :
    w'.own.waits id = w.own.waits id := by
  rw [Core.waits, h.flows, Core.waits]
  cases w.own.pegoutFlows.lookup id with
  | none => rfl
  | some flow =>
    by_cases hwait : flow.step = .waitUserTakeSignaturesReady
    · simp [Option.filter, State.isTerminal, hwait]
    · simp [Option.filter, hwait]
      split <;> simp [hwait]

theorem CleanedUp.expiration (h : CleanedUp env.toEnv w w') (id : FlowId) :
    w'.own.expiration config timestamp id
      = if w.own.ended id then none else w.own.expiration config timestamp id := by
  rw [Core.expiration, h.waits, h.pending, h.timeouts, Core.expiration]
  by_cases hended : w.own.ended id = true <;> simp [hended]

theorem beforeConfirmations_armed {block : RskBlockAndUncles} (h : ArmedBut [] w.own)
    (hspared : w.own.Spared config env.toEnv timestamp) :
    wp (beforeConfirmations config env block timestamp) (fun _ w' => ArmedBut [] w'.own)
      (fun _ w' => ArmedBut [] w'.own) w := by
  have hrules : Rules config env Unaccepted fun w => ArmedBut [] w.own := flowRules_armedBut.rules
  rw [beforeConfirmations, wp_bind]
  apply wp_mono cleanupTerminalFlows_cleans _ fun _ _ hfalse => hfalse.elim
  intro _ w₁ hclean
  rw [wp_bind]
  apply wp_mono schedulePendingTimeouts_schedules _ fun _ _ hfalse => hfalse.elim
  intro _ w₂ hscheduled
  have hw₂ : ArmedBut [] w₂.own := (h.cleanedUp hclean).scheduled hscheduled
  have hflows : w₂.own.pegoutFlows = w₁.own.pegoutFlows := by
    obtain ⟨_, _, hframe⟩ := hscheduled.frame
    rw [hframe]
  have hdue : ∀ id, w₂.own.Expired timestamp id → w.own.Due config timestamp id := by
    rintro id ⟨expiration, hlookup, hover⟩
    rw [hscheduled.timeouts, hclean.expiration] at hlookup
    split at hlookup
    · cases hlookup
    · next hlive => exact ⟨by simpa using hlive, expiration, hlookup, hover⟩
  rw [wp_bind]
  have hexpired : wp (handleAdvanceFundsTimeoutExpired config env timestamp)
      (fun _ w' => ArmedBut [] w'.own) (fun _ w' => ArmedBut [] w'.own) w₂ := by
    refine handleAdvanceFundsTimeoutExpired_armed hw₂ fun id other hne hid hother hstuck => ?_
    rw [Core.waits, hflows]
    refine (hclean.waits other).trans (hspared id other hne (hdue id hid) (hdue other hother) ?_)
    intro flow hflow
    refine hstuck flow ?_
    rw [hflows, hclean.flows, hflow]
    have hlive := (hdue id hid).1
    simp only [Core.ended, hflow, Option.any_some] at hlive
    simp [Option.filter, hlive]
  refine wp_imp hexpired fun _ w₃ hw₃ => ?_
  refine keeps_bind (hrules.keeps_processUnhandledConfirmedSigFlowEvents armed_dispatchSigned block)
    (fun _ => ?_) w₃ hw₃
  have hretry : Unaccepted .retryRegisterPegout := by rintro _ ⟨⟩
  exact keeps_bind hrules.keeps_handleTransactionStatusTick fun _ =>
    hrules.keeps_handleRegisterPegoutRetryTick hretry

end Blocks

/-! ## Runs -/

/-- Nothing that the input sets off fails where it would cost a timeout. -/
def Spares (config : ProcessorConfig) (s : System Core) : PegoutEnv × Input → Prop
  | (env, .block _ timestamp) => s.processor.core.Spared config env.toEnv timestamp
  | (env, .bitvmxEvent (.variable protocolId name (.string data))) =>
    name = pegoutAcceptedName → s.processor.core.Accepts config env protocolId data
  | _ => True

section Runs

variable {config : ProcessorConfig} {env : PegoutEnv}

theorem callProgram_armed {s : System Core} {input : Input} (hinput : input ≠ .restart)
    (h : ArmedBut [] s.processor.core) (hspares : Spares config s (env, input)) :
    wp (callProgram config env input) (fun _ => OnCore fun w => ArmedBut [] w.own)
      (fun _ => OnCore fun w => ArmedBut [] w.own) ⟨Processor.begin s.processor, []⟩ := by
  let I : World Core → Prop := fun w => ArmedBut [] w.own
  have hrules : Rules config env Unaccepted I := flowRules_armedBut.rules
  have hbegin : ArmedBut [] (Processor.begin s.processor).core := ⟨h.armed, h.flows, h.store⟩
  have hstart : OnCore I ⟨Processor.begin s.processor, []⟩ := ⟨hbegin, fun _ _ => trivial⟩
  have hdata : ∀ event, Unaccepted (.pegoutRegistered event) := fun _ => nofun
  have hconfirmed : ∀ event, Keeps I (processConfirmedRskEvent config env event) :=
    fun _ => hrules.keeps_processConfirmedRskEvent fun event _ => hrules.keeps_handlePegoutRegistered
      (fun _ hw => ⟨hw.armed, hw.flows, hw.store⟩) event (hdata event)
  cases input with
  | restart => exact absurd rfl hinput
  | block block timestamp =>
    have hspared : s.processor.core.Spared config env.toEnv timestamp := hspares
    exact wp_processNewBlock (I := I) hrules.called hrules.cleanup hconfirmed
      (beforeConfirmations_armed hbegin hspared)
  | rskEvent event =>
    exact wp_processNewRskEvent (I := I) hrules.called (hrules.cleanup _ hbegin)
      hrules.keeps_delegateSignatureEvent fun _ => hconfirmed event
  | bitvmxEvent event =>
    refine wp_processNewBitvmxEvent (I := I) hrules.called ?_
    rw [wp_bind]
    apply wp_mono cleanupTerminalFlows_cleans _ fun _ _ hfalse => hfalse.elim
    intro _ w hclean
    have hw : ArmedBut [] w.own := hbegin.cleanedUp hclean
    by_cases hvariable : ∃ protocolId data,
        event = .variable protocolId pegoutAcceptedName (.string data)
    · obtain ⟨protocolId, data, rfl⟩ := hvariable
      rw [handleBitvmxEvent, if_pos rfl, andStore, wp_bind]
      have haccepts : w.own.Accepts config env protocolId data := by
        intro id flow accepted hlookup
        rw [hclean.flows, Option.filter_eq_some_iff] at hlookup
        exact hspares rfl id flow accepted hlookup.1
      exact wp_imp (handlePegoutAccepted_armed hw haccepts) fun _ _ h => h
    · refine hrules.keeps_handleBitvmxEvent (fun _ => nofun) (fun _ => nofun) (fun _ => nofun) ?_ w hw
      exact fun protocolId data hevent => absurd ⟨protocolId, data, hevent⟩ hvariable
  | userRequest request =>
    refine keeps_processUserRequest (I := I) hrules.called hrules.cleanup
      (hrules.keeps_handleUserRequest fun w id flow hw hlookup => ?_) request _ hstart
    have hmoves : MovesBy Unaccepted flow (some .failed) := movesBy_failed
    have hends : ∀ w', Ran id flow (some .failed) w w' → ArmedBut [] w'.own := fun w' hran =>
      ArmedBut.ran hw hlookup hran hmoves fun h => nomatch h
    exact wp_always markFailed_runs hends

theorem ArmedBut.reconstructFlow {core : Core} {id : FlowId} {flow : State} {exempt : List FlowId}
    (h : ArmedBut (id :: exempt) core) (hlookup : core.pegoutFlows.lookup id = some flow) :
    ArmedBut exempt (core.reconstructFlow config id flow) := by
  by_cases hwait : flow.step = .waitUserTakeSignaturesReady
  · simp only [Core.reconstructFlow, hwait]
    split
    · next hscheduled => exact h.arm fun _ => .inr hscheduled
    · have hpends : ArmedBut (id :: exempt) { core with
          flowsPendingTimeout := core.flowsPendingTimeout.insert id () } := by
        refine ⟨fun id' flow' hflow' hwait => ?_, h.flows, h.store⟩
        refine (h.armed id' flow' hflow' hwait).imp_left (Or.imp_left fun hpending => ?_)
        by_cases hid : id' = id
        · subst hid
          simp
        · rwa [AList.lookup_insert_ne hid]
      exact hpends.arm fun _ => .inl (by simp)
  · have hcore := h.drop (Core.waits_eq_false hlookup hwait)
    unfold Core.reconstructFlow
    split
    · next hstep => exact absurd hstep hwait
    all_goals exact ⟨hcore.armed, hcore.flows, hcore.store⟩

/-- After a start every flow that waits has its timeout, unless the start failed. -/
theorem reconstruct_armed {w : World Core}
    (hflows : ∀ id flow, w.own.pegoutFlows.lookup id = some flow → flow.TookInWindow)
    (hstore : ∀ id flow, w.own.store.lookup id = some flow → flow.TookInWindow) :
    wp (reconstructRuntimeStateFromFlows config env) (fun _ w' => ArmedBut [] w'.own)
      (fun _ w' => ∃ exempt, ArmedBut exempt w'.own) w := by
  refine wp_reconstruct (J := fun rest w' => ArmedBut (rest.map (·.1)) w'.own)
    (E := fun w' => ∃ exempt, ArmedBut exempt w'.own) ?_ ?_
  · refine ⟨fun id flow hflow _ => .inr ?_, hflows, hstore⟩
    exact List.mem_map.mpr ⟨(id, flow), Table.mem_inOrder.mpr hflow, rfl⟩
  · intro id flow rest w₁ w₂ hw₁ hlookup hran
    have hcore : ArmedBut (rest.map (·.1)) (w₁.own.reconstructFlow config id flow) :=
      hw₁.reconstructFlow hlookup
    have hlookup' : (w₁.own.reconstructFlow config id flow).pegoutFlows.lookup id = some flow := by
      rw [Core.pegoutFlows_reconstructFlow]
      exact hlookup
    have hstays : MovesBy Unaccepted flow none := nofun
    have hw₂ := hcore.ran hlookup' hran hstays fun h => nomatch h
    exact ⟨hw₂, _, hw₂⟩

/-- What holds of the process between two calls; in one that has ended, only what it stored counts. -/
def SystemArmed (s : System Core) : Prop :=
  ∃ exempt, ArmedBut exempt s.processor.core ∧ (s.panicked = false → exempt = [])

/-- **One step.** -/
theorem SystemArmed.step {s : System Core} (h : SystemArmed s) {input : Input}
    (hspares : Spares config s (env, input)) : SystemArmed (step config s (env, input)) := by
  obtain ⟨exempt, harmed, hlive⟩ := h
  by_cases hinput : input = .restart
  · subst hinput
    refine step_restart_of_wp (Q := SystemArmed) ?_
    simp only [callProgram, wp_liftCore]
    refine wp_mono (reconstruct_armed (fun id flow hflow => ?_) fun id flow hflow => ?_)
      (fun _ w hw => ⟨[], hw, fun _ => rfl⟩)
      fun _ w hw => hw.imp fun exempt hw => ⟨hw, fun hfalse => by cases hfalse⟩
    · have hflow : (Processor.load s.processor).core.pegoutFlows.lookup id = some flow := hflow
      rw [load_pegoutFlows] at hflow
      obtain ⟨-, id', hflow⟩ := Table.lookup_rekey hflow
      exact harmed.store id' flow hflow
    · have hflow : (Processor.load s.processor).core.store.lookup id = some flow := hflow
      rw [load_store] at hflow
      exact harmed.store id flow hflow
  · refine step_of_wp (Q := SystemArmed) hinput (fun hpanicked => ?_) fun hrunning => ?_
    · refine ⟨exempt, ⟨harmed.armed, harmed.flows, harmed.store⟩, fun hrunning => ?_⟩
      cases hpanicked.symm.trans hrunning
    · have hall : ArmedBut [] s.processor.core := hlive hrunning ▸ harmed
      exact wp_mono (callProgram_armed hinput hall hspares)
        (fun _ w hw => ⟨[], hw.1, fun _ => rfl⟩) fun _ w hw => ⟨[], hw.1, fun _ => rfl⟩

end Runs

/-- **The operator take stays armed.** In every run whose inputs spare the timeouts, each flow that
waits for the signatures has its timeout, pending or scheduled, in every state that a running process
is in. -/
theorem timeout_always_armed (config : ProcessorConfig) (inputs : List (PegoutEnv × Input))
    (hspares : Machine.Allowed (step config) (Spares config) start inputs) :
    let s := Machine.run (step config) start inputs
    s.panicked = false → ∀ id flow, s.processor.core.pegoutFlows.lookup id = some flow →
      flow.step = .waitUserTakeSignaturesReady → s.processor.core.IsArmed id := by
  intro s hrunning id flow hflow hwait
  have hstart : SystemArmed start :=
    ⟨[], ⟨(fun _ _ h => nomatch h), (fun _ _ h => nomatch h), (fun _ _ h => nomatch h)⟩, fun _ => rfl⟩
  have hinv : SystemArmed s :=
    Machine.run_invariant SystemArmed (fun _ ⟨_, _⟩ hs hi => hs.step hi) hstart hspares
  obtain ⟨exempt, harmed, hlive⟩ := hinv
  rcases harmed.armed id flow hflow hwait with harmed | hmem
  · exact harmed
  · rw [hlive hrunning] at hmem
    cases hmem

def waitingRun : List (PegoutEnv × Input) :=
  callsIn (.failing fun _ => false) (waitingInputs 0 1 "02")

/-- Then a block arrives. -/
def blockRun : List (PegoutEnv × Input) :=
  callsIn (.failing fun _ => false) [.block (blockAt 1 1 0) 1000]

/-- With an environment that fails nothing the timeout is scheduled. -/
theorem timeout_armed_after_block :
    (Machine.run (step sampleProcessorConfig) start (waitingRun ++ blockRun)).processor.core.IsArmed
      (sampleFlowId 1) := by
  let before := Machine.run (step sampleProcessorConfig) start waitingRun
  have hempty : before.processor.core.advanceFundsTimeoutScheduler.pending.entries = [] := by
    decide +kernel
  have hwaiting : ∀ s, Machine.Allowed (step sampleProcessorConfig) (Spares sampleProcessorConfig) s
      waitingRun := by
    refine fun s => ⟨trivial, trivial, fun _ id flow accepted _ _ _ _ => ?_, trivial⟩
    exact ⟨fun ⟨_, _, h⟩ => (nomatch h), fun _ ⟨_, _, h⟩ => nomatch h⟩
  -- the timeout that the block schedules is not over yet, and there is no other
  have hspared : ∀ s : System Core,
      s.processor.core.advanceFundsTimeoutScheduler.pending.entries = [] →
      Machine.Allowed (step sampleProcessorConfig) (Spares sampleProcessorConfig) s blockRun := by
    refine fun s hempty => ⟨?_, trivial⟩
    rintro id other - ⟨-, expiration, hexpiration, hover⟩ - -
    exfalso
    rw [Core.expiration] at hexpiration
    split at hexpiration
    · cases hexpiration
      exact absurd hover (by decide)
    · rw [AList.lookup, hempty] at hexpiration
      cases hexpiration
  obtain ⟨flow, hflow, hwait⟩ : ∃ flow, (Machine.run (step sampleProcessorConfig) start
      (waitingRun ++ blockRun)).processor.core.pegoutFlows.lookup (sampleFlowId 1) = some flow
      ∧ flow.step = .waitUserTakeSignaturesReady := by
    apply Core.waits_iff.mp
    decide +kernel
  exact timeout_always_armed sampleProcessorConfig (waitingRun ++ blockRun)
    (Machine.allowed_append (hwaiting start) (hspared before hempty)) (by decide +kernel) _ flow
    hflow hwait

def nonceRefused : PegoutEnv := .failing fun c => match c with
  | .addMemberNonce _ _ => true
  | _ => false

def saveRefused : PegoutEnv := .failing fun c => match c with
  | .saveFlow _ => true
  | _ => false

def refusedNonce : System Core :=
  Machine.run (step sampleProcessorConfig) start (callsIn nonceRefused (waitingInputs 0 1 "02"))

/-- Two timeouts are due with one block, and the store takes nothing. -/
def refusedTimeout : System Core :=
  Machine.run (step sampleProcessorConfig) start
    (callsIn (.failing fun _ => false) (waitingInputs 0 1 "02" ++ waitingInputs 1 2 "03"
      ++ [.block (blockAt 1 1 0) 1000])
    ++ callsIn saveRefused [.block (blockAt 2 2 1) 2000])

/-- Either failure leaves a flow that waits without a timeout. -/
theorem waiting_without_timeout :
    (refusedNonce.panicked = false ∧ refusedNonce.processor.core.waits (sampleFlowId 1) = true
        ∧ ¬ refusedNonce.processor.core.IsArmed (sampleFlowId 1))
      ∧ refusedTimeout.panicked = false ∧ ∃ id ∈ [sampleFlowId 1, sampleFlowId 2],
        refusedTimeout.processor.core.waits id = true
          ∧ ¬ refusedTimeout.processor.core.IsArmed id := by
  decide +kernel

end UnionBridge.Pegout
