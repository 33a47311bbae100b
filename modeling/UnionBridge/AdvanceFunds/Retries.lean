import UnionBridge.AdvanceFunds.Routing

/-!
# What a retry submits

A retry is armed when a registration lacks confirmations, and it enters the step again at which it
finds the flow. It is kept under the id of the flow only, and an event that moves the flow on does not
cancel it. So a retry does what it was armed for as long as it comes due while the flow still waits
at that step; `Core.Current` is the invariant behind it.
-/

namespace UnionBridge.AdvanceFunds

open Chain Contracts Bitvmx Coordinator Effect

/-- A registration that the contract accepted lies behind the flow, or it is that of its step, and
nothing is pending. -/
def Settled (calls : Contracts.Log) (s : FlowContext) : Prop :=
  ∀ entry ∈ calls, ∀ step, acceptedStep entry = some step →
    step.pos < s.step.pos ∨ s.step = step ∧ s.pendingRetry = false

/-- The retry submitted only the registration it was armed for, which was not accepted before. -/
def Retried.Right (r : Retried) : Prop :=
  ∀ entry ∈ r.calls, ∀ step, registerStep entry.1 = some step →
    r.armedFor = some step ∧ ∀ earlier ∈ r.before, acceptedStep earlier ≠ some step

/-! ## One flow -/

section Flow

variable {config : Config} {env : Env} {w t : World Flow} {data : StepData} {ok : Bool}
  {calls : Contracts.Log}

theorem Attempted.callsSince {verifier : NativeBridgeVerifier} {ended : Option AttemptEnd}
    {log log' : Contracts.Log} (h : Attempted verifier ended log log') :
    ∃ new, log' = new ++ log ∧ Contracts.callsSince log log' = new
      ∧ lastAttempt verifier new = ended
      ∧ (ended ≠ some .accepted → ∀ entry ∈ new, acceptedStep entry = none) := by
  obtain ⟨new, rfl, hlast, haccepted⟩ := h
  exact ⟨new, rfl, callsSince_append new log, hlast, haccepted⟩

/-- What was accepted before stays behind, and what is accepted now is that of the step. -/
theorem Completes.settled (h : Completes config env data w t ok) (hsettled : Settled calls w.own.state)
    (hpending : data = .retry → w.own.state.registers config = true →
      w.own.state.pendingRetry = true) :
    Settled (callsSince w.log t.log ++ calls) t.own.state := by
  cases h.moved with
  | stayed hstep hretry hattempt hended _ _ =>
    obtain ⟨new, -, hnew, -, haccepted⟩ := hattempt.callsSince
    have hnone := haccepted fun h => by rcases hended with rfl | rfl <;> cases h
    rw [hnew]
    intro entry hentry step haccept
    rcases List.mem_append.mp hentry with hentry | hentry
    · rw [hnone entry hentry] at haccept
      cases haccept
    · rw [hstep, hretry]
      exact hsettled entry hentry step haccept
  | @entered state next hhandled hstep hretry hattempt hcalls _ =>
    obtain ⟨new, hlog, hnew, -, haccepted⟩ := hattempt.callsSince
    rw [hnew]
    intro entry hentry step haccept
    rw [hstep]
    rcases List.mem_append.mp hentry with hentry | hentry
    · -- an attempt of this entry: it was for the step entered, and it ended accepted
      obtain ⟨new', hlog', hstepOf⟩ := hcalls
      rw [List.append_cancel_right (hlog.symm.trans hlog')] at hentry haccepted
      have hregisterStep := (attemptEnd_of_acceptedStep config.verifier haccept).2
      refine .inr ⟨(hstepOf entry hentry step hregisterStep).symm, Bool.eq_false_iff.mpr ?_⟩
      intro htrue
      rw [if_pos (hretry htrue), if_pos htrue] at haccepted
      rw [haccepted nofun entry hentry] at haccept
      cases haccept
    · rcases hsettled entry hentry step haccept with hbehind | ⟨rfl, hfalse⟩
      · exact .inl (hbehind.trans_le hhandled.forward.2.1)
      · by_cases hdata : data = .retry
        · subst hdata
          cases hhandled with
          | retry =>
            refine .inr ⟨rfl, Bool.eq_false_iff.mpr fun htrue => ?_⟩
            cases hfalse.symm.trans (hpending rfl (hretry htrue))
        · exact .inl (hhandled.advances hdata)

end Flow

/-! ## All flows -/

/-- What is known of the flows, their retries, and the retries that were made. -/
structure Core.Current (core : Core) : Prop where
  keyed : core.Keyed
  settled : ∀ id flow, core.flows.lookup id = some flow → Settled (core.calls id) flow
  armed : ∀ id flow, core.flows.lookup id = some flow → flow.pendingRetry = true →
    core.retries.scheduler.isScheduled id = true → core.armedFor.lookup id = some flow.step
  retried : ∀ r ∈ core.retried, r.Right

section Changes

variable {config : ProcessorConfig} {env : CallEnv} {core core' : Core} {w w' : World Core}
  {id : FlowId} {flow : FlowContext} {t : World Flow} {data : StepData} {ok : Bool}

theorem Core.Current.shrink (h : core.Current) (hkeyed : core'.Keyed)
    (hflows : ∀ id flow, core'.flows.lookup id = some flow → core.flows.lookup id = some flow)
    (hscheduled : ∀ id, core'.retries.scheduler.isScheduled id = true →
      core.retries.scheduler.isScheduled id = true)
    (hnotes : core'.armedFor = core.armedFor ∧ core'.callsOf = core.callsOf
      ∧ core'.retried = core.retried) : core'.Current where
  keyed := hkeyed
  settled id flow hflow := by
    rw [Core.calls, hnotes.2.1]
    exact h.settled id flow (hflows id flow hflow)
  armed id flow hflow hpending hid := by
    rw [hnotes.1]
    exact h.armed id flow (hflows id flow hflow) hpending (hscheduled id hid)
  retried := by
    rw [hnotes.2.2]
    exact h.retried

theorem Core.Current.put (h : w.own.Current) (hflow : w.own.flows.lookup id = some flow)
    (hran : Ran (World.at w id flow) t)
    (hsettled : Settled (callsSince w.log t.log ++ w.own.calls id) t.own.state)
    (retries : RetryTracker FlowId) (armedFor : Table FlowId Steps)
    (hscheduled : ∀ other, other ≠ id → retries.scheduler.isScheduled other = true →
      w.own.retries.scheduler.isScheduled other = true)
    (harmedFor : ∀ other, other ≠ id → armedFor.lookup other = w.own.armedFor.lookup other)
    (harmed : t.own.state.pendingRetry = true → retries.scheduler.isScheduled id = true →
      armedFor.lookup id = some t.own.state.step) :
    Core.Current { (World.put w id t).own with retries := retries, armedFor := armedFor } where
  keyed := h.keyed.descends ((Core.Descends.put hflow hran).trans (.of_under fun _ _ h => h))
  settled := World.forall_put (P := fun _ => Settled) hsettled fun other flow' _ => h.settled other flow'
  armed := by
    refine World.forall_put (P := fun other _ flow' => flow'.pendingRetry = true →
      retries.scheduler.isScheduled other = true → armedFor.lookup other = some flow'.step) harmed ?_
    intro other flow' hother hold hpending hid
    rw [harmedFor other hother]
    exact h.armed other flow' hold hpending (hscheduled other hother hid)
  retried := h.retried

theorem Core.Current.park (h : w.own.Current) (hflow : w.own.flows.lookup id = some flow)
    (hran : Ran (World.at w id flow) t)
    (hsettled : Settled (callsSince w.log t.log ++ w.own.calls id) t.own.state) (attempt : Nat) :
    ((World.put w id t).own.scheduleRetry config id attempt).Current := by
  have hput := h.put hflow hran hsettled
    (w.own.retries.schedule id attempt config.btcStatusRetryBlocks)
    (w.own.armedFor.insert id t.own.state.step)
    (fun other hother hid => (TickScheduler.isScheduled_schedule.mp hid).resolve_left hother)
    (fun other hother => AList.lookup_insert_ne hother) (fun _ _ => AList.lookup_insert _)
  rw [Core.scheduleRetry, World.flows_put]
  exact hput

/-- A flow that waits for a retry and was not parked has stayed where it was, unless it could not be
saved where it was to register. -/
theorem Completes.pending_before
    (h : Completes config.toConfig env.toEnv data (World.at w id flow) t ok)
    (hdone : ok = true → t.own.state.pendingRetry = false ∨ t = World.at w id flow)
    (hpending : t.own.state.pendingRetry = true) (hid : flow.flowId = id)
    (hsaves : ∀ {state next}, Handled config.toConfig flow data state (some next) →
      registersAt config.toConfig flow next = true →
      data.isEvent = true ∨ ¬ SaveRefused env.toEnv id) :
    t.own.state.step = flow.step ∧ flow.pendingRetry = true := by
  cases ok with
  | true =>
    rcases hdone rfl with hfalse | rfl
    · cases hfalse.symm.trans hpending
    · exact ⟨rfl, hpending⟩
  | false =>
    cases h.moved with
    | stayed hstep hretry _ _ _ _ => exact ⟨hstep, hretry.symm.trans hpending⟩
    | entered hhandled _ hretry _ _ hsaved =>
      have hregisters := hretry hpending
      rcases hsaves hhandled hregisters with hevent | hsaves
      · cases (hhandled.event_unregistered hevent).symm.trans hregisters
      · subst hid
        exact absurd (hsaved.resolve_left nofun) hsaves

/-- **A step.** A flow whose retry is still scheduled must not fail to be saved, unless it does not
register anyway. -/
theorem Core.Current.stepped (h : w.own.Current) (hdata : data ≠ .retry)
    (hsaves : data.isEvent = true ∨ (w.own.retries.scheduler.isScheduled id = true →
      ¬ SaveRefused env.toEnv id))
    (hstepped : Stepped config env id data w w') : w'.own.Current := by
  cases hstepped with
  | absent => exact h
  | @ran flow t ok hflow hcompletes hdone =>
    have hsettled : Settled (callsSince w.log t.log ++ w.own.calls id) t.own.state :=
      hcompletes.settled (h.settled id flow hflow) fun hretry => absurd hretry hdata
    refine h.put hflow hcompletes.ran hsettled _ _ (fun _ _ h => h) (fun _ _ => rfl) ?_
    intro hpending hid
    obtain ⟨hstep, hbefore⟩ := hcompletes.pending_before hdone hpending
      (h.keyed id flow (.inl hflow)) fun _ _ => hsaves.imp_right (· hid)
    rw [hstep]
    exact h.armed id flow hflow hbefore hid
  | parked attempt hflow hcompletes _ _ =>
    exact h.park hflow hcompletes.ran
      (hcompletes.settled (h.settled id _ hflow) fun hretry => absurd hretry hdata) attempt

end Changes

/-! ## Retries that come due -/

/-- The retry of the flow is due with the next block. -/
def Core.Due (core : Core) (id : FlowId) : Prop :=
  ∃ ticks, core.retries.scheduler.pending.lookup id = some ticks ∧ ticks ≤ 1

/-- A retry that is due finds its flow elsewhere than at a register step, or waiting for it. -/
def Core.Ready (config : Config) (core : Core) : Prop :=
  ∀ id flow, core.Due id → core.flows.lookup id = some flow → flow.registers config = true →
    flow.pendingRetry = true

/-- The retries that are still to be made wait for their flows, and were armed for their steps. -/
structure Core.Awaited (config : Config) (rest : List FlowId) (core : Core) : Prop where
  current : core.Current
  nodup : rest.Nodup
  waiting : ∀ id ∈ rest, ∀ flow, core.flows.lookup id = some flow → flow.registers config = true →
    flow.pendingRetry = true ∧ core.armedFor.lookup id = some flow.step

section Tick

variable {config : ProcessorConfig} {env : CallEnv} {w w' : World Core} {id : FlowId}
  {rest : List FlowId} {flow : FlowContext} {t : World Flow} {ok : Bool}

theorem Core.Ready.stepped {data : StepData} (h : w.own.Ready config.toConfig)
    (hdata : data.isEvent = true) (hstepped : Stepped config env id data w w') :
    w'.own.Ready config.toConfig := by
  cases hstepped with
  | absent => exact h
  | @ran flow t ok hflow hcompletes _ =>
    intro other flow' hdue hflow'
    refine World.forall_put (P := fun other _ flow' => w.own.Due other →
      flow'.registers config.toConfig = true → flow'.pendingRetry = true) (fun hdue hregisters => ?_)
      (fun other flow' _ hold hdue => h other flow' hdue hold) other flow' hflow' hdue
    rw [FlowContext.registers, hcompletes.ran.registersAt] at hregisters
    cases hcompletes.moved with
    | stayed hstep hretry _ _ _ _ =>
      rw [hstep] at hregisters
      exact hretry.trans (h id flow hdue hflow hregisters)
    | entered hhandled hstep _ _ _ _ =>
      rw [hstep] at hregisters
      cases (hhandled.event_unregistered hdata).symm.trans hregisters
  | parked _ _ _ _ hparks => exact absurd (hparks.not_event.symm.trans hdata) nofun

/-- The calls of a retry that found its flow waiting. -/
theorem retried_right (h : w.own.Awaited config.toConfig (id :: rest))
    (hflow : w.own.flows.lookup id = some flow)
    (hcompletes : Completes config.toConfig env.toEnv .retry (World.at w id flow) t ok) :
    (World.retried w id t).Right := by
  intro entry hentry step hstep
  obtain ⟨new, hlog, hcalls⟩ := hcompletes.calls
  have hnew : callsSince w.log t.log = new := by
    rw [hlog]
    exact callsSince_append new w.log
  obtain ⟨hregisters, state, hhandled⟩ := hcalls entry (hnew ▸ hentry) step hstep
  cases hhandled with
  | retry =>
    obtain ⟨hpending, harmed⟩ := h.waiting id List.mem_cons_self flow hflow hregisters
    refine ⟨harmed, fun earlier hearlier haccepted => ?_⟩
    rcases h.current.settled id flow hflow earlier hearlier _ haccepted with hlt | ⟨-, hfalse⟩
    · exact absurd hlt (Nat.lt_irrefl _)
    · cases hfalse.symm.trans hpending

theorem Core.Current.note {core : Core} (h : core.Current) {r : Retried} (hright : r.Right) :
    (core.note r).Current where
  keyed := h.keyed
  settled := h.settled
  armed := h.armed
  retried r' hr' := by
    rcases List.mem_cons.mp hr' with rfl | hr'
    · exact hright
    · exact h.retried r' hr'

/-- **A retry.** -/
theorem Core.Awaited.retries (h : w.own.Awaited config.toConfig (id :: rest))
    (hretries : Retries config env id w w') : w'.own.Awaited config.toConfig rest := by
  have hnodup := List.nodup_cons.mp h.nodup
  -- the other flows are left alone
  have hrest : ∀ {core : Core}, core.Current →
      (∀ other, other ≠ id → core.flows.lookup other = w.own.flows.lookup other
        ∧ core.armedFor.lookup other = w.own.armedFor.lookup other) →
      core.Awaited config.toConfig rest := by
    intro core hcurrent hothers
    refine ⟨hcurrent, hnodup.2, fun other hother flow hflow hregisters => ?_⟩
    have hne : other ≠ id := fun heq => hnodup.1 (heq ▸ hother)
    obtain ⟨hflows, harmed⟩ := hothers other hne
    rw [harmed]
    exact h.waiting other (List.mem_cons_of_mem _ hother) flow (hflows.symm.trans hflow) hregisters
  cases hretries with
  | absent hnone => exact hrest h.current fun _ _ => ⟨rfl, rfl⟩
  | @ran flow t ok hflow hcompletes _ =>
    have hwaiting := h.waiting id List.mem_cons_self flow hflow
    have hsettled : Settled (callsSince w.log t.log ++ w.own.calls id) t.own.state :=
      hcompletes.settled (h.current.settled id flow hflow) fun _ hat => (hwaiting hat).1
    have hput : (World.put w id t).own.Current := by
      refine h.current.put hflow hcompletes.ran hsettled _ _ (fun _ _ h => h) (fun _ _ => rfl) ?_
      intro hpending hid
      cases hcompletes.moved with
      | stayed hstep hretry _ _ _ _ =>
        rw [hstep]
        exact h.current.armed id flow hflow (hretry.symm.trans hpending) hid
      | entered hhandled hstep hretry _ _ _ =>
        cases hhandled with
        | retry =>
          rw [hstep]
          exact (hwaiting (hretry hpending)).2
    exact hrest (hput.note (retried_right h hflow hcompletes))
      fun other hother => ⟨World.flows_put_ne hother, rfl⟩
  | @parked flow t attempt hflow hcompletes =>
    have hwaiting := h.waiting id List.mem_cons_self flow hflow
    have hsettled : Settled (callsSince w.log t.log ++ w.own.calls id) t.own.state :=
      hcompletes.settled (h.current.settled id flow hflow) fun _ hat => (hwaiting hat).1
    have hpark : ((World.put w id t).own.scheduleRetry config id attempt).Current :=
      h.current.park hflow hcompletes.ran hsettled attempt
    refine hrest (hpark.note (retried_right h hflow hcompletes)) fun other hother => ?_
    refine ⟨World.flows_put_ne hother, ?_⟩
    show ((World.put w id t).own.scheduleRetry config id attempt).armedFor.lookup other = _
    rw [Core.scheduleRetry, World.flows_put]
    exact AList.lookup_insert_ne hother

/-- **The retries of a block.** -/
theorem leads_handleRetryTick :
    Leads (fun w => w.own.Current ∧ w.own.Ready config.toConfig) (fun w => w.own.Current)
      (handleRetryTick config env) := by
  rintro w ⟨hcurrent, hready⟩
  refine wp_handleRetryTick (R := Core.Awaited config.toConfig) hcurrent ⟨?_, RetryTracker.nodup_tick,
    fun id hid flow hflow hregisters => ?_⟩ Core.Awaited.retries fun h => h.current
  · refine hcurrent.shrink (hcurrent.keyed.descends (.of_under fun _ _ h => h)) (fun _ _ h => h)
      (fun id hid => RetryTracker.isScheduled_of_tick hid) ⟨rfl, rfl, rfl⟩
  · obtain ⟨⟨_, attempts⟩, hmem, rfl⟩ := List.mem_map.mp hid
    have hdue := TickScheduler.mem_tick.mp (RetryTracker.mem_of_mem_tick hmem)
    have hpending := hready _ flow hdue hflow hregisters
    refine ⟨hpending, hcurrent.armed _ flow hflow hpending ?_⟩
    obtain ⟨ticks, hticks, -⟩ := hdue
    rw [TickScheduler.isScheduled, hticks]
    rfl

end Tick

/-! ## Calls -/

section Calls

variable {config : ProcessorConfig} {env : CallEnv} {core : Core} {w w' : World Core} {id : FlowId}

theorem CleanedUp.due (h : CleanedUp env.toEnv w w') (hdue : w'.own.Due id) : w.own.Due id := by
  obtain ⟨ticks, hticks, hle⟩ := hdue
  exact ⟨ticks, h.pending hticks, hle⟩

theorem CleanedUp.isScheduled (h : CleanedUp env.toEnv w w')
    (hid : w'.own.retries.scheduler.isScheduled id = true) :
    w.own.retries.scheduler.isScheduled id = true := by
  obtain ⟨ticks, hticks⟩ := Option.isSome_iff_exists.mp hid
  exact Option.isSome_iff_exists.mpr ⟨ticks, h.pending hticks⟩

theorem Core.Current.cleanedUp (h : w.own.Current) (hclean : CleanedUp env.toEnv w w') :
    w'.own.Current :=
  h.shrink (h.keyed.descends (.cleanedUp hclean)) (fun _ _ hflow => (hclean.flow hflow).1)
    (fun _ => hclean.isScheduled) hclean.notes

theorem Core.Ready.cleanedUp (h : w.own.Ready config.toConfig)
    (hclean : CleanedUp env.toEnv w w') : w'.own.Ready config.toConfig :=
  fun id flow hdue hflow => h id flow (hclean.due hdue) (hclean.flow hflow).1

theorem Core.Keyed.addFlow (h : core.Keyed) (libs : Libs) (id : FlowId)
    (data : OperatorTakeTriggerData) : (core.addFlow id (.new libs id data)).Keyed := by
  rintro other flow (hmemory | hrecord)
  · rcases Table.lookup_insert_eq_some.mp hmemory with ⟨rfl, rfl⟩ | ⟨-, hold⟩
    · rfl
    · exact h other flow (.inl hold)
  · exact h other flow (.inr hrecord)

theorem Core.Current.addFlow (h : core.Current) (libs : Libs) (id : FlowId)
    (data : OperatorTakeTriggerData) : (core.addFlow id (.new libs id data)).Current where
  keyed := h.keyed.addFlow libs id data
  settled := Core.forall_addFlow (P := fun _ => Settled) nofun h.settled
  armed := Core.forall_addFlow (P := fun other _ flow => flow.pendingRetry = true →
    core.retries.scheduler.isScheduled other = true → core.armedFor.lookup other = some flow.step)
    nofun h.armed
  retried := h.retried

theorem Core.Ready.addFlow (h : core.Ready config.toConfig) (libs : Libs) (id : FlowId)
    (data : OperatorTakeTriggerData) :
    (core.addFlow id (.new libs id data)).Ready config.toConfig := by
  intro other flow hdue hflow
  exact Core.forall_addFlow (P := fun other _ flow => core.Due other →
    flow.registers config.toConfig = true → flow.pendingRetry = true)
    (fun _ hregisters => by cases hregisters) (fun other flow hold hdue => h other flow hdue hold) other flow hflow hdue

theorem acceptedStep_lt {entry : LogEntry} {step : Steps} (h : acceptedStep entry = some step) :
    step.pos < Steps.failed.pos := by
  unfold acceptedStep at h
  split at h
  all_goals cases h
  all_goals decide

theorem Core.Current.failed (h : w.own.Current) (hfailed : Failed config env id w w') :
    w'.own.Current := by
  cases hfailed with
  | absent => exact h
  | @ran flow t ok hflow hstarts retries hretries =>
    have hscheduled : ∀ other, retries.scheduler.isScheduled other = true →
        w.own.retries.scheduler.isScheduled other = true := by
      intro other hother
      rcases hretries with rfl | ⟨-, rfl⟩
      · exact hother
      · exact (TickScheduler.isScheduled_cancel.mp hother).2
    have hran : Ran (World.at w id flow) t := hstarts.ran fun _ => .inr rfl
    have hentered : Entered config.toConfig .failed (World.at w id flow) t →
        Core.Current { (World.put w id t).own with retries := retries } := by
      intro hentered
      obtain ⟨index, txid, pid, retry, hstate⟩ := hentered.state
      have hstep : t.own.state.step = .failed := by rw [hstate]
      have hfalse : t.own.state.pendingRetry = true → False := fun hpending =>
        nomatch hentered.retry hpending
      refine h.put hflow hran ?_ _ _ (fun other _ => hscheduled other) (fun _ _ => rfl)
        fun hpending => (hfalse hpending).elim
      intro entry hentry step haccepted
      rw [hstep]
      exact .inl (acceptedStep_lt haccepted)
    cases hstarts with
    | entered hentered' _ => exact hentered hentered'
    | unsaved hentered' _ _ => exact hentered hentered'
    | restored hown _ hfails =>
      obtain ⟨ended, hattempt, hended⟩ := hfails.attempt
      obtain ⟨new, -, hnew, -, hnone⟩ := hattempt.callsSince
      have hstate : t.own.state = flow := by rw [hown]; rfl
      refine h.put hflow hran ?_ _ _ (fun other _ => hscheduled other) (fun _ _ => rfl) ?_
      · rw [show callsSince w.log t.log = new from hnew, hstate]
        intro entry hentry step haccepted
        rcases List.mem_append.mp hentry with hentry | hentry
        · have hrefused := hended.resolve_right fun h => nomatch h.1
          rw [hnone (by rw [hrefused]; exact nofun) entry hentry] at haccepted
          cases haccepted
        · exact h.settled id flow hflow entry hentry step haccepted
      · rw [hstate]
        exact fun hpending hid => h.armed id flow hflow hpending (hscheduled id hid)

/-- The records are not behind what the contract accepted, and the snapshot of the processor has no
retry that was armed for another step than that of the record. -/
def Processor.Restorable (p : Processor) : Prop :=
  ∀ id record, p.core.store.lookup id = some record → Settled (p.core.calls id) record
    ∧ (record.pendingRetry = true → ∀ saved, p.saved = some saved →
      saved.1.retries.scheduler.isScheduled id = true →
      ∃ flow, saved.1.flows.lookup id = some flow ∧ flow.step = record.step
        ∧ flow.pendingRetry = true)

theorem Core.Current.scheduleRetry (h : core.Current) (attempt : Nat) :
    (core.scheduleRetry config id attempt).Current where
  keyed := h.keyed
  settled := h.settled
  armed other flow hflow hpending hid := by
    have hold : core.flows.lookup other = some flow := hflow
    unfold Core.scheduleRetry
    by_cases hother : other = id
    · subst hother
      rw [hold]
      exact AList.lookup_insert _
    · have hold := h.armed other flow hold hpending
        ((TickScheduler.isScheduled_schedule.mp hid).resolve_left hother)
      dsimp only
      split
      · rw [AList.lookup_insert_ne hother]
        exact hold
      · exact hold
  retried := h.retried

theorem Core.Current.load {p : Processor} (h : p.core.Current)
    (hsaved : ∀ saved, p.saved = some saved → saved.1.Current) (hrestorable : p.Restorable) :
    (Processor.load config p).core.Current := by
  have hloaded : (p.core.load (p.saved.map (·.1))).Current := by
    have hrecord : ∀ {id flow}, (p.core.load (p.saved.map (·.1))).flows.lookup id = some flow →
        p.core.store.lookup id = some flow := by
      intro id flow hflow
      exact (Table.lookup_rekey_of_keyed fun k v hv => h.keyed k v (.inr hv)).symm.trans hflow
    refine ⟨h.keyed.descends (h.keyed.load _), fun id flow hflow => ?_,
      fun id flow hflow hpending hid => ?_, h.retried⟩
    · exact (hrestorable id flow (hrecord hflow)).1
    · cases hsnapshot : p.saved with
      | none =>
        rw [hsnapshot] at hid
        cases hid
      | some saved =>
        rw [hsnapshot] at hid
        obtain ⟨flow', hflow', hstep, hpending'⟩ :=
          (hrestorable id flow (hrecord hflow)).2 hpending saved hsnapshot hid
        rw [← hstep]
        exact (hsaved saved hsnapshot).armed id flow' hflow' hpending' hid
  have hfold : ∀ (flows : List FlowContext) (core : Core), core.Current →
      (flows.foldl (Core.rearmPendingRetry config) core).Current := by
    intro flows
    induction flows with
    | nil => exact fun _ h => h
    | cons flow flows ih =>
      intro core hcore
      refine ih _ ?_
      unfold Core.rearmPendingRetry
      split
      · exact hcore.scheduleRetry 1
      · exact hcore
  exact hfold _ _ hloaded

/-- What a call may find: retries that are due wait for their flows; a flow whose retry is scheduled
can be saved when a message comes; what a new process finds is current. -/
structure RetriesCurrent (config : ProcessorConfig) (s : System Core) (call : CallEnv × Input) :
    Prop where
  due : ∀ block, call.2 = .block block → s.processor.core.Ready config.toConfig
  saves : ∀ event, call.2 = .bitvmxEvent event →
    ∀ id, s.processor.core.retries.scheduler.isScheduled id = true → ¬ SaveRefused call.1.toEnv id
  restorable : call.2 = .restart → Processor.Restorable s.processor

/-- The invariant, and that no stale retry is due, in the world of a handler. -/
def Currently (w : World Core) : Prop := w.own.Current

def Readily (config : ProcessorConfig) (w : World Core) : Prop := w.own.Ready config.toConfig

theorem currentRules : Rules config env (fun data => data.isEvent = true) Currently where
  hashes _ hw := hw.shrink (hw.keyed.descends (.of_under fun _ _ h => h)) (fun _ _ h => h)
    (fun _ h => h) ⟨rfl, rfl, rfl⟩
  cleanup _ hw :=
    wp_mono cleanupTerminalFlows_cleans (fun _ _ h => hw.cleanedUp h) fun _ _ h => h.elim
  completed _ data hevent _ hw := by
    have hdata : data ≠ .retry := by
      rintro rfl
      cases hevent
    exact wp_always completeFlowStep_steps fun _ h => hw.stepped hdata (.inl hevent) h

theorem readyRules : Rules config env (fun data => data.isEvent = true) (Readily config) where
  hashes _ hw := hw
  cleanup _ hw :=
    wp_mono cleanupTerminalFlows_cleans (fun _ _ h => hw.cleanedUp h) fun _ _ h => h.elim
  completed _ _ hevent _ hw :=
    wp_always completeFlowStep_steps fun _ h => hw.stepped hevent h

theorem leads_message (event : OutgoingBitVMXApiMessages) :
    Leads (fun w => Currently w ∧ ∀ id, w.own.retries.scheduler.isScheduled id = true →
      ¬ SaveRefused env.toEnv id) Currently (handleBitvmxEvent config env event) := by
  have hstepped : ∀ {w w' : World Core} {id : FlowId} {data : StepData}, data.isMessage = true →
      (Currently w ∧ ∀ id, w.own.retries.scheduler.isScheduled id = true →
        ¬ SaveRefused env.toEnv id) → Stepped config env id data w w' → Currently w' := by
    rintro w w' id data hmessage ⟨hw, hsaves⟩ h
    refine hw.stepped ?_ (.inr (hsaves id)) h
    rintro rfl
    cases hmessage
  refine leads_handleBitvmxEvent (fun _ h => h.1) (fun id info w hw => ?_)
    (fun id data hmessage w hw => ?_) event
  · -- the addresses arm no retry
    have hkept : ∀ w', Stepped config env id (.commInfo info) w w' → Currently w'
        ∧ ∀ id, w'.own.retries.scheduler.isScheduled id = true → ¬ SaveRefused env.toEnv id := by
      intro w' h
      refine ⟨hstepped rfl hw h, ?_⟩
      cases h with
      | absent => exact hw.2
      | ran => exact hw.2
      | parked _ _ _ _ hparks => exact absurd hparks Parks.not_commInfo
    exact wp_always completeFlowStep_steps hkept
  · exact wp_always completeFlowStep_steps fun _ => hstepped hmessage hw

/-- The invariant of a process: it holds of the core and of the snapshot. -/
def KeepsCurrent (s : System Core) : Prop :=
  s.processor.core.Current ∧ ∀ saved, s.processor.saved = some saved → saved.1.Current

/-- **A call.** -/
theorem step_current (s : System Core) (call : CallEnv × Input) (h : KeepsCurrent s)
    (hcurrent : RetriesCurrent config s call) : KeepsCurrent (step config s call) := by
  obtain ⟨env, input⟩ := call
  have hcall : ∀ {program : Program Processor Unit},
      wp program (fun _ => Carried Currently Core.Current)
        (fun _ => Carried Currently Core.Current) ⟨s.processor, []⟩ →
      KeepsCurrent (s.call program) := by
    intro program hprogram
    exact System.call_of_wp (fun _ => h) fun _ => hprogram
  have hrules : Rules config env (fun data => data.isEvent = true) Currently := currentRules
  have hfirst := hrules.cleanup ⟨s.processor.core, []⟩ h.1
  cases input with
  | block block =>
    have hready := hrules.and readyRules
    refine hcall (wp_processNewBlock (fun _ _ h => h) (fun _ h => h) h.2
      (wp_mono (hready.cleanup _ ⟨h.1, hcurrent.due block rfl⟩) (fun _ _ h => h) fun _ _ h => h.1)
      (fun _ h => h.1) hready.cleanup (fun event _ => hready.keeps_event ?_ event)
      leads_handleRetryTick)
    exact fun w id data hw => ⟨hw.1.addFlow _ id data, hw.2.addFlow _ id data⟩
  | rskEvent event =>
    refine hcall (wp_processNewRskEvent (fun _ _ h => h) (fun _ h => h) h.2 hfirst fun _ => ?_)
    exact hrules.keeps_event (fun w id data hw => hw.addFlow _ id data) event
  | bitvmxEvent event =>
    refine hcall (wp_processNewBitvmxEvent (fun _ _ h => h) (fun _ h => h) h.2 ?_
      (leads_message event))
    apply wp_mono cleanupTerminalFlows_cleans _ fun _ _ h => h.elim
    intro _ w hclean
    exact ⟨h.1.cleanedUp hclean, fun id hid =>
      hcurrent.saves event rfl id (hclean.isScheduled hid)⟩
  | userRequest request =>
    refine hcall (wp_processUserRequest (fun _ _ h => h) (fun _ h => h) h.2 hfirst ?_)
    refine hrules.keeps_handleUserRequest (fun id w hw => ?_) request
    exact wp_always markFlowFailed_fails fun _ h => hw.failed h
  | restart => exact ⟨h.1.load h.2 (hcurrent.restorable rfl), h.2⟩

end Calls

/-- **A retry only re-runs what it was armed for**, in every run in which the retries that come due
wait for their flows. -/
theorem retries_rerun_armed_registration (config : ProcessorConfig)
    (inputs : List (CallEnv × Input))
    (hcurrent : Machine.Allowed (step config) (RetriesCurrent config) start inputs) :
    ∀ r ∈ (Machine.run (step config) start inputs).processor.core.retried, r.Right := by
  have hstart : KeepsCurrent start := by
    refine ⟨⟨?_, fun _ _ h => (nomatch h), fun _ _ h => (nomatch h), fun _ h => nomatch h⟩,
      fun _ h => nomatch h⟩
    rintro id flow (h | h)
    · cases h
    · cases h
  exact (Machine.run_invariant KeepsCurrent step_current hstart hcurrent).1.retried

/-! The advanced funds lack confirmations when they are registered, so a retry is armed. -/

/-- The contract does not see the advanced funds confirmed yet. -/
def lackingEnv : Env where
  answer _ c := match c with
    | .registerAdvanceFunds _ _ => .error (.missingConfirmationsOnNativeBridge "3/10 confirmations")
    | c => c.accepted
  newUuid log := BitVec.ofNat 128 log.length

def acceptingEnv : Env := .failing fun _ _ => false

def parkedInputs : List (CallEnv × Input) := callsIn lackingEnv advancingInputs

def retryBlocks : List (CallEnv × Input) :=
  callsIn acceptingEnv [.block (blockAt 1 1 0), .block (blockAt 2 2 1)]

/-- A call that is neither a block nor a restart, with a store that takes every write. -/
structure Quiet (call : CallEnv × Input) : Prop where
  saves : call.1.toEnv.Saves
  block : ∀ block, call.2 ≠ .block block
  restart : call.2 ≠ .restart

theorem Quiet.not_refused {call : CallEnv × Input} (h : Quiet call) (id : FlowId) :
    ¬ SaveRefused call.1.toEnv id := by
  rintro ⟨log, text, hanswer⟩
  rw [h.saves log _] at hanswer
  cases hanswer

theorem quiet_parkedInputs : ∀ call ∈ parkedInputs, Quiet call := by
  intro call hcall
  obtain ⟨input, hinput, rfl⟩ := List.mem_map.mp hcall
  rw [advancingInputs] at hinput
  simp only [List.mem_cons, List.not_mem_nil, or_false] at hinput
  rcases hinput with rfl | rfl | rfl | rfl | rfl
  all_goals exact ⟨fun _ _ => rfl, nofun, nofun⟩

theorem retriesCurrent_of_block {config : ProcessorConfig} {s : System Core} {env : CallEnv}
    {block : RskBlockAndUncles}
    (hflows : ∀ entry ∈ s.processor.core.flows.inOrder fun _ => 0,
      entry.2.registers config.toConfig = true → entry.2.pendingRetry = true) :
    RetriesCurrent config s (env, .block block) where
  due _ _ id flow _ hflow := hflows (id, flow) (Table.mem_inOrder.mpr hflow)
  saves _ h := nomatch h
  restorable h := nomatch h

theorem retriesCurrent_parked :
    Machine.Allowed (step sampleProcessorConfig) (RetriesCurrent sampleProcessorConfig) start
      parkedInputs := by
  refine Machine.allowed_of_always fun call hcall s => ?_
  have hquiet := quiet_parkedInputs call hcall
  exact ⟨fun block h => absurd h (hquiet.block block), fun _ _ id _ => hquiet.not_refused id,
    fun h => absurd h hquiet.restart⟩

/-- The retry finds the flow where it was armed, and submits the registration. -/
theorem parked_registration_is_retried :
    (Machine.run (step sampleProcessorConfig) start
        (parkedInputs ++ retryBlocks)).processor.core.retried.map
          (fun r => (r.armedFor, r.calls.filterMap fun entry => registerStep entry.1)) =
        [(some .registerOrWaitRskAdvanceFunds, [.registerOrWaitRskAdvanceFunds])]
      ∧ ∀ r ∈ (Machine.run (step sampleProcessorConfig) start
        (parkedInputs ++ retryBlocks)).processor.core.retried, r.Right := by
  refine ⟨by decide +kernel, retries_rerun_armed_registration _ _ ?_⟩
  refine Machine.allowed_append retriesCurrent_parked ⟨?_, ?_, trivial⟩
  · exact retriesCurrent_of_block (by decide +kernel)
  · exact retriesCurrent_of_block (by decide +kernel)

/-- Before the retry comes due, the event of the registration comes, the flow moves on, and the kickoff
is registered and accepted. -/
def overtakenInputs : List (CallEnv × Input) :=
  parkedInputs ++ callsIn acceptingEnv
    [.rskEvent (.advanceFundsRegistered (sampleEvent ⟨7, ⟨0, 0, 0⟩, 1, 1, toBE 32 1⟩ 9)),
      sampleVariable UnionSPVNotification.name "kickoff"] ++ retryBlocks

/-- The retry was armed for the advanced funds, and submits the kickoff again. -/
theorem overtaken_retry_resubmits_kickoff :
    let retried :=
      (Machine.run (step sampleProcessorConfig) start overtakenInputs).processor.core.retried
    retried.map (fun r => (r.armedFor, r.before.filterMap acceptedStep,
        r.calls.filterMap fun entry => registerStep entry.1)) =
        [(some .registerOrWaitRskAdvanceFunds, [.registerOrWaitRskReimbursementKickoff],
          [.registerOrWaitRskReimbursementKickoff])]
      ∧ ¬ ∀ r ∈ retried, r.Right := by
  intro retried
  have hretried : retried.map (fun r => (r.armedFor, r.before.filterMap acceptedStep,
      r.calls.filterMap fun entry => registerStep entry.1)) =
      [(some .registerOrWaitRskAdvanceFunds, [.registerOrWaitRskReimbursementKickoff],
        [.registerOrWaitRskReimbursementKickoff])] := by
    decide +kernel
  refine ⟨hretried, fun hright => ?_⟩
  obtain ⟨r, hr, heq⟩ := List.mem_map.mp (hretried ▸ List.mem_singleton_self _)
  simp only [Prod.mk.injEq] at heq
  obtain ⟨harmed, -, hcalls⟩ := heq
  obtain ⟨entry, hentry, hstep⟩ := List.mem_filterMap.mp (hcalls ▸ List.mem_singleton_self _)
  cases harmed.symm.trans (hright r hr entry hentry _ hstep).1


end UnionBridge.AdvanceFunds
