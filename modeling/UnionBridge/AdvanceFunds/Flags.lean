import UnionBridge.AdvanceFunds.Retries

/-!
# The flag of a pending retry

The flag `pending_retry` lives in the flow and the retry itself in the tracker of the processor. A
retry leaves the tracker when it comes due, before it is made; if it then fails for another reason
than missing confirmations, or if the flow cannot be saved, the flag stays without a retry.
`Core.Flagged` is the agreement of the two, and of the flag with the last attempt of the flow.
-/

namespace UnionBridge.AdvanceFunds

open Chain Contracts Bitvmx Coordinator Effect

/-- The flag is set only where the flow registers, and there exactly if the last attempt lacked
confirmations. -/
structure Agrees (config : Config) (calls : Contracts.Log) (s : FlowContext) : Prop where
  registers : s.pendingRetry = true → s.registers config = true
  attempt : s.registers config = true →
    (s.pendingRetry = true ↔ lastAttempt config.verifier calls = some .lacking)

/-! ## One flow -/

section Flow

variable {config : Config} {env : Env} {w t : World Flow} {data : StepData} {ok : Bool}
  {calls : Contracts.Log}

theorem lastAttempt_append {verifier : NativeBridgeVerifier} (new old : Contracts.Log) :
    lastAttempt verifier (new ++ old) = (lastAttempt verifier new).or (lastAttempt verifier old) :=
  List.findSome?_append

theorem Completes.agrees (h : Completes config env data w t ok) (hagrees : Agrees config calls w.own.state)
    (hretry : data = .retry → w.own.state.pendingRetry = true →
      ¬ Refusal config env w.own.state w.own.state.step) :
    Agrees config (callsSince w.log t.log ++ calls) t.own.state := by
  have hregistersAt := h.ran.registersAt config
  cases h.moved with
  | @stayed ended hstep hflag hattempt hended hquiet hrefusal =>
    have hregisters : t.own.state.registers config = w.own.state.registers config := by
      rw [FlowContext.registers, hregistersAt, hstep]
      rfl
    obtain ⟨new, -, hnew, hlast, -⟩ := hattempt.callsSince
    rw [hnew]
    refine ⟨fun hflag' => ?_, fun hat => ?_⟩
    · rw [hregisters]
      exact hagrees.registers (hflag.symm.trans hflag')
    · rw [hregisters] at hat
      rw [hflag, lastAttempt_append, hlast]
      rcases hended with rfl | rfl
      · exact hagrees.attempt hat
      · -- only a retry makes an attempt here
        have hdata : data = .retry := by
          by_contra hdata
          cases hquiet hat hdata
        refine iff_of_false (fun hflag' => hretry hdata hflag' (hrefusal hdata hat)) (by rintro ⟨⟩)
  | @entered state next _ hstep hflag hattempt _ _ =>
    have hregisters : t.own.state.registers config = registersAt config w.own.state next := by
      rw [FlowContext.registers, hregistersAt, hstep]
    obtain ⟨new, -, hnew, hlast, -⟩ := hattempt.callsSince
    rw [hnew]
    refine ⟨fun hflag' => hregisters.trans (hflag hflag'), fun hat => ?_⟩
    rw [hregisters] at hat
    rw [if_pos hat] at hlast
    rw [lastAttempt_append, hlast]
    cases t.own.state.pendingRetry with
    | true => exact iff_of_true rfl rfl
    | false => exact iff_of_false (by rintro ⟨⟩) (by rintro ⟨⟩)

theorem Moved.flag_of_same (h : Moved config env data w t ok) (hsame : t = w)
    (hregisters : w.own.state.registers config = true) (hdata : data = .retry)
    (hflag : t.own.state.pendingRetry = true) : Refusal config env w.own.state w.own.state.step := by
  cases h with
  | stayed _ _ _ _ _ hrefusal => exact hrefusal hdata hregisters
  | entered _ _ hretry hattempt _ _ =>
    rw [if_pos (hretry hflag), if_pos hflag, hsame] at hattempt
    obtain ⟨new, hlog, -, hlast, -⟩ := hattempt.callsSince
    rw [List.self_eq_append_left.mp hlog] at hlast
    cases hlast

/-- Before a registration the selected operator waits for a proof. -/
def FlowContext.awaitsProof (config : Config) (s : FlowContext) : Bool :=
  s.wasSelectedOperator config && (s.step = .waitBitVmxAdvanceFundsSpv
    || s.step = .setVarBitVmxAdvanceFundsRegistered || s.step = .waitBitVmxOperatorTakeSpv)

theorem Handled.awaitsProof {s s' : FlowContext} {next : Steps}
    (h : Handled config s data s' (some next)) (hdata : data ≠ .retry)
    (hregisters : registersAt config s next = true) : s.awaitsProof config = true := by
  obtain ⟨hretriable, hselected⟩ := Bool.and_eq_true_iff.mp hregisters
  have hat : ∀ {target : Steps}, s.step.isValidTransition target (s.wasSelectedOperator config) = true →
      s.step = target := by
    intro target htransition
    rwa [hselected, Steps.isValidTransition, if_pos rfl, decide_eq_true_eq] at htransition
  unfold FlowContext.awaitsProof
  rw [hselected]
  cases h with
  | triggered =>
    rw [hselected] at hretriable
    cases hretriable
  | advanceFundsSpv spv hstep => rw [hstep]; rfl
  | kickoffSpv proof hvalid => rw [hat hvalid]; rfl
  | takeSpv proof hvalid => rw [hat hvalid]; rfl
  | retry => exact absurd rfl hdata
  | _ => cases hretriable

end Flow

/-! ## All flows -/

/-- The flags of the flows agree with their attempts and, but for the flows in `rest`, with the
tracker. -/
structure Core.Flagged (config : Config) (rest : List FlowId) (core : Core) : Prop where
  keyed : core.Keyed
  sync : core.retries.Sync
  agrees : ∀ id flow, core.flows.lookup id = some flow → Agrees config (core.calls id) flow
  armed : ∀ id flow, core.flows.lookup id = some flow → flow.pendingRetry = true → id ∉ rest →
    core.retries.scheduler.isScheduled id = true

section Changes

variable {config : ProcessorConfig} {env : CallEnv} {core core' : Core} {w w' : World Core}
  {id : FlowId} {flow : FlowContext} {t : World Flow} {data : StepData} {ok : Bool}
  {rest rest' : List FlowId}

theorem Core.Flagged.put (h : w.own.Flagged config.toConfig rest)
    (hflow : w.own.flows.lookup id = some flow) (hran : Ran (World.at w id flow) t)
    (hagrees : Agrees config.toConfig (callsSince w.log t.log ++ w.own.calls id) t.own.state)
    {retries : RetryTracker FlowId} (armedFor : Table FlowId Steps) (hsync : retries.Sync)
    (hothers : ∀ other, other ≠ id → w.own.retries.scheduler.isScheduled other = true →
      retries.scheduler.isScheduled other = true)
    (hrest : ∀ other, other ≠ id → other ∉ rest' → other ∉ rest)
    (harmed : t.own.state.pendingRetry = true → id ∉ rest' →
      retries.scheduler.isScheduled id = true) :
    Core.Flagged config.toConfig rest'
      { (World.put w id t).own with retries := retries, armedFor := armedFor } where
  keyed := h.keyed.descends ((Core.Descends.put hflow hran).trans (.of_under fun _ _ h => h))
  sync := hsync
  agrees := World.forall_put (P := fun _ => Agrees config.toConfig) hagrees
    fun other flow' _ => h.agrees other flow'
  armed := World.forall_put (P := fun other _ flow' => flow'.pendingRetry = true → other ∉ rest' →
      retries.scheduler.isScheduled other = true) harmed
    fun other flow' hother hold hflag hnot =>
      hothers other hother (h.armed other flow' hold hflag (hrest other hother hnot))

theorem Core.Flagged.park (h : w.own.Flagged config.toConfig rest)
    (hflow : w.own.flows.lookup id = some flow) (hran : Ran (World.at w id flow) t)
    (hagrees : Agrees config.toConfig (callsSince w.log t.log ++ w.own.calls id) t.own.state)
    (hrest : ∀ other, other ≠ id → other ∉ rest' → other ∉ rest) (attempt : Nat) :
    ((World.put w id t).own.scheduleRetry config id attempt).Flagged config.toConfig rest' := by
  have hput := h.put hflow hran hagrees (w.own.armedFor.insert id t.own.state.step)
    (h.sync.schedule id attempt config.btcStatusRetryBlocks)
    (fun other _ hid => TickScheduler.isScheduled_schedule.mpr (.inr hid)) hrest
    fun _ _ => TickScheduler.isScheduled_schedule.mpr (.inl rfl)
  rw [Core.scheduleRetry, World.flows_put]
  exact hput

/-- **A step.** A flow that comes to a register step must be saved. -/
theorem Core.Flagged.stepped (h : w.own.Flagged config.toConfig []) (hdata : data ≠ .retry)
    (hsaves : ∀ flow, w.own.flows.lookup id = some flow →
      flow.awaitsProof config.toConfig = true → data.isEvent = true ∨ ¬ SaveRefused env.toEnv id)
    (hstepped : Stepped config env id data w w') : w'.own.Flagged config.toConfig [] := by
  cases hstepped with
  | absent => exact h
  | @ran flow t ok hflow hcompletes hdone =>
    refine h.put hflow hcompletes.ran (hcompletes.agrees (h.agrees id flow hflow)
      fun hretry => absurd hretry hdata) _ h.sync (fun _ _ hid => hid) (fun _ _ hnot => hnot) ?_
    intro hflag hnot
    obtain ⟨-, hbefore⟩ := hcompletes.pending_before hdone hflag (h.keyed id flow (.inl hflow))
      fun hhandled hregisters => hsaves flow hflow (hhandled.awaitsProof hdata hregisters)
    exact h.armed id flow hflow hbefore hnot
  | parked attempt hflow hcompletes _ _ =>
    exact h.park hflow hcompletes.ran (hcompletes.agrees (h.agrees id _ hflow)
      fun hretry => absurd hretry hdata) (fun _ _ hnot => hnot) attempt

theorem Core.Flagged.congr (h : core.Flagged config.toConfig rest) (hkeyed : core'.Keyed)
    (hsync : core'.retries.Sync)
    (hflows : ∀ id flow, core'.flows.lookup id = some flow → core.flows.lookup id = some flow
      ∧ (core.retries.scheduler.isScheduled id = true →
        core'.retries.scheduler.isScheduled id = true))
    (hcalls : core'.callsOf = core.callsOf) : core'.Flagged config.toConfig rest where
  keyed := hkeyed
  sync := hsync
  agrees id flow hflow := by
    rw [Core.calls, hcalls]
    exact h.agrees id flow (hflows id flow hflow).1
  armed id flow hflow hflag hnot :=
    (hflows id flow hflow).2 (h.armed id flow (hflows id flow hflow).1 hflag hnot)

theorem Core.Flagged.cleanedUp (h : w.own.Flagged config.toConfig rest)
    (hclean : CleanedUp env.toEnv w w') : w'.own.Flagged config.toConfig rest := by
  refine h.congr (h.keyed.descends (.cleanedUp hclean)) ?_ (fun id flow hflow => ?_) hclean.notes.2.1
  · intro id
    by_cases hends : w.own.Ends fun flow => flow.flowId = id
    · obtain ⟨hpending, hattempts⟩ := hclean.cancelled id hends
      rw [TickScheduler.isScheduled, hpending, hattempts]
    · obtain ⟨hpending, hattempts⟩ := hclean.retries id hends
      rw [TickScheduler.isScheduled, hpending, hattempts]
      exact h.sync id
  · obtain ⟨hold, hlive⟩ := hclean.flow hflow
    refine ⟨hold, fun hid => ?_⟩
    -- a terminal flow with this id would be the flow itself
    have hends : ¬ w.own.Ends fun flow => flow.flowId = id := by
      rintro ⟨key, ended, hended, hterminal, hid⟩
      have hkey : key = id := (h.keyed key ended (.inl hended)).symm.trans (of_decide_eq_true hid)
      subst hkey
      cases hold.symm.trans hended
      cases hlive.symm.trans hterminal
    rw [TickScheduler.isScheduled, (hclean.retries id hends).1]
    exact hid

theorem Core.Flagged.addFlow (h : core.Flagged config.toConfig rest) (libs : Libs) (id : FlowId)
    (data : OperatorTakeTriggerData) :
    (core.addFlow id (.new libs id data)).Flagged config.toConfig rest where
  keyed := h.keyed.addFlow libs id data
  sync := h.sync
  agrees := Core.forall_addFlow (P := fun _ => Agrees config.toConfig) ⟨nofun, nofun⟩ h.agrees
  armed := Core.forall_addFlow (P := fun other _ flow => flow.pendingRetry = true → other ∉ rest →
    core.retries.scheduler.isScheduled other = true) nofun h.armed

theorem Core.Flagged.failed (h : w.own.Flagged config.toConfig rest)
    (hfailed : Failed config env id w w') : w'.own.Flagged config.toConfig rest := by
  cases hfailed with
  | absent => exact h
  | @ran flow t ok hflow hstarts retries hretries =>
    have hran : Ran (World.at w id flow) t := hstarts.ran fun _ => .inr rfl
    have hsync : retries.Sync := by
      rcases hretries with rfl | ⟨-, rfl⟩
      · exact h.sync
      · exact h.sync.cancel id
    have hothers : ∀ other, other ≠ id → w.own.retries.scheduler.isScheduled other = true →
        retries.scheduler.isScheduled other = true := by
      intro other hne hother
      rcases hretries with rfl | ⟨-, rfl⟩
      · exact hother
      · exact TickScheduler.isScheduled_cancel.mpr ⟨hne, hother⟩
    have hentered : Entered config.toConfig .failed (World.at w id flow) t →
        Core.Flagged config.toConfig rest { (World.put w id t).own with retries := retries } := by
      intro hentered
      obtain ⟨index, txid, pid, retry, hstate⟩ := hentered.state
      have hstep : t.own.state.step = .failed := by rw [hstate]
      have hunflagged : ¬ t.own.state.pendingRetry = true := fun hflag => by cases hentered.retry hflag
      have hregisters : t.own.state.registers config.toConfig = false := by
        rw [FlowContext.registers, hstep]
        rfl
      refine h.put hflow hran ⟨fun hflag => absurd hflag hunflagged, fun hat => ?_⟩ _ hsync hothers
        (fun _ _ hnot => hnot) fun hflag => absurd hflag hunflagged
      cases hregisters.symm.trans hat
    cases hstarts with
    | entered hentered' _ => exact hentered hentered'
    | unsaved hentered' _ _ => exact hentered hentered'
    | restored hown _ hfails =>
      -- the retry is cancelled only after the flow was saved
      have hsame : retries = w.own.retries := hretries.resolve_right fun h => by cases h.1
      obtain ⟨ended, hattempt, hended⟩ := hfails.attempt
      obtain ⟨new, -, hnew, hlast, -⟩ := hattempt.callsSince
      have hnone : ended = none := hended.resolve_right fun h => by cases h.1
      have hstate : t.own.state = flow := by rw [hown]; rfl
      have hagrees := h.agrees id flow hflow
      refine h.put hflow hran ?_ _ hsync hothers (fun _ _ hnot => hnot) ?_
      · rw [show callsSince w.log t.log = new from hnew, hstate]
        refine ⟨hagrees.registers, fun hat => ?_⟩
        rw [lastAttempt_append, hlast, hnone]
        exact hagrees.attempt hat
      · rw [hstate, hsame]
        exact h.armed id flow hflow

end Changes

/-! ## Retries that come due -/

/-- A retry that is due can be made: its flow can be saved, and a pending registration is not
refused. -/
def Core.Retriable (config : Config) (env : Env) (core : Core) : Prop :=
  ∀ id flow, core.Due id → core.flows.lookup id = some flow → flow.registers config = true →
    ¬ SaveRefused env id ∧ (flow.pendingRetry = true → ¬ Refusal config env flow flow.step)

/-- The retries that are still to be made can be made. -/
structure Core.Retrying (config : Config) (env : Env) (rest : List FlowId) (core : Core) : Prop where
  flagged : core.Flagged config rest
  nodup : rest.Nodup
  ready : ∀ id ∈ rest, ∀ flow, core.flows.lookup id = some flow → flow.registers config = true →
    ¬ SaveRefused env id ∧ (flow.pendingRetry = true → ¬ Refusal config env flow flow.step)

theorem Refusal.of_registered {config : Config} {env : Env} {s : FlowContext} {step : Steps}
    {message : Option AdvanceFundsRegisteredMessage}
    (h : Refusal config env { s with advanceFundsRegistered := message } step) :
    Refusal config env s step := by
  cases h with
  | proof h => exact .proof h
  | lookup hcached log e h => exact .lookup hcached log e h
  | registration hproof hc h => exact .registration hproof hc h

theorem Completes.of_event {config : Config} {env : Env} {w t : World Flow} {data : StepData}
    {ok : Bool} (h : Completes config env data w t ok) (hdata : data.isEvent = true)
    (hat : t.own.state.registers config = true) :
    w.own.state.registers config = true
      ∧ t.own.state.pendingRetry = w.own.state.pendingRetry
      ∧ (Refusal config env t.own.state t.own.state.step →
        Refusal config env w.own.state w.own.state.step) := by
  cases h with
  | rejected hsame _ =>
    subst hsame
    exact ⟨hat, rfl, id⟩
  | ignored hsame _ =>
    subst hsame
    exact ⟨hat, rfl, id⟩
  | @started state next ok hhandled hstarts =>
    obtain ⟨hstep, hflag, -, hregisters⟩ := hhandled.place
    have hentered : ¬ Entered config next ⟨{ w.own with state := state }, w.log⟩ t := by
      intro hentered
      obtain ⟨index, txid, pid, retry, hstate⟩ := hentered.state
      have hunregistered := hhandled.event_unregistered hdata
      rw [← hregisters next] at hunregistered
      rw [hstate] at hat
      cases hunregistered.symm.trans hat
    cases hstarts with
    | entered h _ => exact absurd h hentered
    | unsaved h _ _ => exact absurd h hentered
    | restored hown _ _ =>
      have hstate : t.own.state = state := by rw [hown]
      rw [hstate] at hat ⊢
      refine ⟨?_, hflag, fun hrefusal => ?_⟩
      · rw [FlowContext.registers, hregisters, hstep] at hat
        exact hat
      · rw [hstep] at hrefusal
        cases hhandled with
        | triggered => exact hrefusal
        | confirmed => exact hrefusal.of_registered
        | kickoffConfirmed => exact hrefusal
        | registered => exact hrefusal
        | _ => cases hdata

section Tick

variable {config : ProcessorConfig} {env : CallEnv} {core : Core} {w w' : World Core} {id : FlowId}
  {rest : List FlowId}

theorem Core.Retriable.stepped {data : StepData} (h : w.own.Retriable config.toConfig env.toEnv)
    (hdata : data.isEvent = true) (hstepped : Stepped config env id data w w') :
    w'.own.Retriable config.toConfig env.toEnv := by
  cases hstepped with
  | absent => exact h
  | @ran flow t ok hflow hcompletes _ =>
    intro other flow' hdue hflow'
    refine World.forall_put (P := fun other _ flow' => w.own.Due other →
      flow'.registers config.toConfig = true → ¬ SaveRefused env.toEnv other
        ∧ (flow'.pendingRetry = true → ¬ Refusal config.toConfig env.toEnv flow' flow'.step))
      (fun hdue hat => ?_) (fun other flow' _ hold hdue => h other flow' hdue hold) other flow' hflow'
      hdue
    obtain ⟨hbefore, hflag, hrefusal⟩ := hcompletes.of_event hdata hat
    obtain ⟨hsaves, hready⟩ := h id flow hdue hflow hbefore
    exact ⟨hsaves, fun hflag' hrefused => hready (hflag.symm.trans hflag') (hrefusal hrefused)⟩
  | parked _ _ _ _ hparks => exact absurd (hparks.not_event.symm.trans hdata) nofun

theorem Core.Retriable.cleanedUp (h : w.own.Retriable config.toConfig env.toEnv)
    (hclean : CleanedUp env.toEnv w w') : w'.own.Retriable config.toConfig env.toEnv :=
  fun id flow hdue hflow => h id flow (hclean.due hdue) (hclean.flow hflow).1

theorem Core.Retriable.addFlow (h : core.Retriable config.toConfig env.toEnv) (libs : Libs)
    (id : FlowId) (data : OperatorTakeTriggerData) :
    (core.addFlow id (.new libs id data)).Retriable config.toConfig env.toEnv := by
  intro other flow hdue hflow hat
  rcases Table.lookup_insert_eq_some.mp hflow with ⟨rfl, rfl⟩ | ⟨-, hold⟩
  · cases hat
  · exact h other flow hdue hold hat

theorem Core.Flagged.note (h : core.Flagged config.toConfig rest) (r : Retried) :
    (core.note r).Flagged config.toConfig rest :=
  ⟨h.keyed, h.sync, h.agrees, h.armed⟩

/-- **A retry.** -/
theorem Core.Retrying.retries (h : w.own.Retrying config.toConfig env.toEnv (id :: rest))
    (hretries : Retries config env id w w') :
    w'.own.Retrying config.toConfig env.toEnv rest := by
  obtain ⟨hid, hnodup⟩ := List.nodup_cons.mp h.nodup
  have hothers : ∀ other, other ≠ id → other ∉ rest → other ∉ id :: rest := by
    intro other hne hnot hmem
    exact (List.mem_cons.mp hmem).elim hne hnot
  -- the flows whose retries are still to be made are left alone
  have hrest : ∀ {core : Core}, core.Flagged config.toConfig rest →
      (∀ other, other ≠ id → core.flows.lookup other = w.own.flows.lookup other) →
      core.Retrying config.toConfig env.toEnv rest := by
    intro core hflagged hflows
    refine ⟨hflagged, hnodup, fun other hother flow hflow => ?_⟩
    have hne : other ≠ id := fun heq => hid (heq ▸ hother)
    exact h.ready other (List.mem_cons_of_mem _ hother) flow ((hflows other hne).symm.trans hflow)
  cases hretries with
  | absent hnone =>
    refine hrest ⟨h.flagged.keyed, h.flagged.sync, h.flagged.agrees, fun other flow hflow hflag hnot => ?_⟩
      fun _ _ => rfl
    refine h.flagged.armed other flow hflow hflag (hothers other ?_ hnot)
    rintro rfl
    cases hnone.symm.trans hflow
  | @ran flow t ok hflow hcompletes hdone =>
    have hready := h.ready id List.mem_cons_self flow hflow
    have hagrees := h.flagged.agrees id flow hflow
    have hrefused : flow.pendingRetry = true → ¬ Refusal config.toConfig env.toEnv flow flow.step :=
      fun hflag => (hready (hagrees.registers hflag)).2 hflag
    have hput : (World.put w id t).own.Flagged config.toConfig rest := by
      refine h.flagged.put hflow hcompletes.ran (hcompletes.agrees hagrees fun _ => hrefused) _
        h.flagged.sync (fun _ _ hid => hid) hothers fun hflag _ => ?_
      exfalso
      cases ok with
      | true =>
        rcases hdone rfl with hfalse | hsame
        · cases hfalse.symm.trans hflag
        · have hbefore : flow.pendingRetry = true := by
            rw [hsame] at hflag
            exact hflag
          exact hrefused hbefore (hcompletes.moved.flag_of_same hsame (hagrees.registers hbefore) rfl
            hflag)
      | false =>
        cases hcompletes.moved with
        | stayed _ hretry _ _ _ hrefusal =>
          have hbefore : flow.pendingRetry = true := hretry.symm.trans hflag
          exact hrefused hbefore (hrefusal rfl (hagrees.registers hbefore))
        | entered hhandled _ hretry _ _ hsaved =>
          cases hhandled with
          | retry =>
            have hsaveRefused := hsaved.resolve_left nofun
            rw [show (World.at w id flow).own.state.flowId = id from
              h.flagged.keyed id flow (.inl hflow)] at hsaveRefused
            exact (hready (hretry hflag)).1 hsaveRefused
    exact hrest (hput.note _) fun other hother => World.flows_put_ne hother
  | @parked flow t attempt hflow hcompletes =>
    have hready := h.ready id List.mem_cons_self flow hflow
    have hagrees := h.flagged.agrees id flow hflow
    have hpark : ((World.put w id t).own.scheduleRetry config id attempt).Flagged config.toConfig
        rest := by
      refine h.flagged.park hflow hcompletes.ran (hcompletes.agrees hagrees fun _ hflag => ?_) hothers
        attempt
      exact (hready (hagrees.registers hflag)).2 hflag
    exact hrest (hpark.note _) fun other hother => World.flows_put_ne hother

/-- **The retries of a block.** -/
theorem leads_retryTick :
    Leads (fun w => w.own.Flagged config.toConfig [] ∧ w.own.Retriable config.toConfig env.toEnv)
      (fun w => w.own.Flagged config.toConfig []) (handleRetryTick config env) := by
  rintro w ⟨hflagged, hretriable⟩
  refine wp_handleRetryTick (R := Core.Retrying config.toConfig env.toEnv) hflagged
    ⟨⟨hflagged.keyed.descends (.of_under fun _ _ h => h), hflagged.sync.tick _, hflagged.agrees,
      fun id flow hflow hflag hnot => ?_⟩, RetryTracker.nodup_tick, fun id hid flow hflow hat => ?_⟩
    Core.Retrying.retries fun h => h.flagged
  · have hscheduled := hflagged.armed id flow hflow hflag List.not_mem_nil
    exact TickScheduler.isScheduled_tick.mpr
      ⟨hscheduled, fun hready => hnot (hflagged.sync.mem_tick.mpr hready)⟩
  · have hdue := TickScheduler.mem_tick.mp (hflagged.sync.mem_tick.mp hid)
    exact hretriable _ flow hdue hflow hat

end Tick

/-! ## Calls -/

section Calls

variable {config : ProcessorConfig} {env : CallEnv} {w w' : World Core} {id : FlowId}

/-- What the start of a process does to the retries: it adds those of the flagged flows. -/
structure Rearmed (flows : List FlowContext) (core core' : Core) : Prop where
  frame : core' = { core with retries := core'.retries, armedFor := core'.armedFor }
  sync : core'.retries.Sync
  kept : ∀ id, core.retries.scheduler.isScheduled id = true →
    core'.retries.scheduler.isScheduled id = true
  armed : ∀ flow ∈ flows, flow.pendingRetry = true →
    core'.retries.scheduler.isScheduled flow.flowId = true

theorem rearmed_one {core : Core} (hsync : core.retries.Sync) (flow : FlowContext) :
    Rearmed [flow] core (core.rearmPendingRetry config flow) := by
  unfold Core.rearmPendingRetry
  split
  · refine ⟨rfl, hsync.schedule _ _ _,
      fun _ hid => TickScheduler.isScheduled_schedule.mpr (.inr hid), fun other hother _ => ?_⟩
    rw [List.mem_singleton.mp hother]
    exact TickScheduler.isScheduled_schedule.mpr (.inl rfl)
  · next hnot =>
    refine ⟨rfl, hsync, fun _ hid => hid, fun other hother hflag => ?_⟩
    rw [List.mem_singleton.mp hother] at hflag ⊢
    -- an attempt was counted, so its retry is scheduled
    rw [hflag, Bool.true_and, decide_eq_true_eq] at hnot
    refine (hsync flow.flowId).mpr (Option.isSome_iff_ne_none.mpr fun hnone => hnot ?_)
    rw [RetryTracker.currentAttempt, hnone]
    rfl

theorem rearmed_foldl (flows : List FlowContext) {core : Core} (hsync : core.retries.Sync) :
    Rearmed flows core (flows.foldl (Core.rearmPendingRetry config) core) := by
  induction flows generalizing core with
  | nil => exact ⟨rfl, hsync, fun _ hid => hid, fun _ hmem => nomatch hmem⟩
  | cons flow flows ih =>
    have hone : Rearmed [flow] core (core.rearmPendingRetry config flow) := rearmed_one hsync flow
    have hrest := ih hone.sync
    rw [List.foldl_cons]
    refine ⟨?_, hrest.sync, fun id hid => hrest.kept id (hone.kept id hid), fun other hother hflag => ?_⟩
    · rw [hrest.frame, hone.frame]
    · rcases List.mem_cons.mp hother with rfl | hother
      · exact hrest.kept _ (hone.armed other List.mem_cons_self hflag)
      · exact hrest.armed other hother hflag

theorem Core.Flagged.load {p : Processor} (h : p.core.Flagged config.toConfig [])
    (hsaved : ∀ saved, p.saved = some saved → saved.1.retries.Sync)
    (hrecords : ∀ id record, p.core.store.lookup id = some record →
      Agrees config.toConfig (p.core.calls id) record) :
    (Processor.load config p).core.Flagged config.toConfig [] := by
  have hsync : (p.core.load (p.saved.map (·.1))).retries.Sync := by
    cases hsnapshot : p.saved with
    | none => exact RetryTracker.sync_new
    | some saved => exact hsaved saved hsnapshot
  have hkeyed : (p.core.load (p.saved.map (·.1))).Keyed := h.keyed.descends (h.keyed.load _)
  have hrearmed : Rearmed _ (p.core.load (p.saved.map (·.1)))
      ((p.core.load (p.saved.map (·.1))).rearmPendingRetries config) := rearmed_foldl _ hsync
  have hrecord : ∀ {id flow}, (p.core.load (p.saved.map (·.1))).flows.lookup id = some flow →
      p.core.store.lookup id = some flow := by
    intro id flow hflow
    exact (Table.lookup_rekey_of_keyed fun k v hv => h.keyed k v (.inr hv)).symm.trans hflow
  show Core.Flagged config.toConfig [] ((p.core.load (p.saved.map (·.1))).rearmPendingRetries config)
  have hframe := hrearmed.frame
  have hsync' := hrearmed.sync
  have harmed := hrearmed.armed
  generalize (p.core.load (p.saved.map (·.1))).rearmPendingRetries config = core at hframe hsync' harmed
  rw [hframe]
  refine ⟨hkeyed.descends (.of_under fun _ _ h => h), hsync', fun id flow hflow => ?_,
    fun id flow hflow hflag _ => ?_⟩
  · exact hrecords id flow (hrecord hflow)
  · have hmem := List.mem_map_of_mem (f := fun e : Sigma fun _ : FlowId => FlowContext => e.2)
      (AList.mem_lookup_iff.mp hflow)
    have hid := harmed flow hmem hflag
    rw [hkeyed id flow (.inl hflow)] at hid
    exact hid

/-- What a call may find: retries that are due can be made; a flow that a message may bring to a
register step can be saved; the records that a new process finds agree with the last attempts. -/
structure FlagsKept (config : ProcessorConfig) (s : System Core) (call : CallEnv × Input) :
    Prop where
  due : ∀ block, call.2 = .block block →
    s.processor.core.Retriable config.toConfig call.1.toEnv
  saves : ∀ event, call.2 = .bitvmxEvent event → ∀ id flow,
    s.processor.core.flows.lookup id = some flow → flow.awaitsProof config.toConfig = true →
    ¬ SaveRefused call.1.toEnv id
  restorable : call.2 = .restart → ∀ id record, s.processor.core.store.lookup id = some record →
    Agrees config.toConfig (s.processor.core.calls id) record

def InFlags (config : ProcessorConfig) (w : World Core) : Prop := w.own.Flagged config.toConfig []

def InTime (config : ProcessorConfig) (env : CallEnv) (w : World Core) : Prop :=
  w.own.Retriable config.toConfig env.toEnv

def InStore (config : ProcessorConfig) (env : CallEnv) (w : World Core) : Prop :=
  ∀ id flow, w.own.flows.lookup id = some flow → flow.awaitsProof config.toConfig = true →
    ¬ SaveRefused env.toEnv id

theorem flagRules : Rules config env (fun data => data.isEvent = true) (InFlags config) where
  hashes _ hw := ⟨hw.keyed.descends (.of_under fun _ _ h => h), hw.sync, hw.agrees, hw.armed⟩
  cleanup _ hw :=
    wp_mono cleanupTerminalFlows_cleans (fun _ _ h => hw.cleanedUp h) fun _ _ h => h.elim
  completed id data hevent w hw := by
    have hdata : data ≠ .retry := by
      rintro rfl
      cases hevent
    have hstepped : ∀ {w'}, Stepped config env id data w w' → InFlags config w' :=
      hw.stepped hdata fun _ _ _ => .inl hevent
    exact wp_always completeFlowStep_steps fun _ => hstepped

theorem timeRules : Rules config env (fun data => data.isEvent = true) (InTime config env) where
  hashes _ hw := hw
  cleanup _ hw :=
    wp_mono cleanupTerminalFlows_cleans (fun _ _ h => hw.cleanedUp h) fun _ _ h => h.elim
  completed _ _ hevent _ hw :=
    wp_always completeFlowStep_steps fun _ h => hw.stepped hevent h

theorem InStore.stepped {info : CommsAddress} (h : InStore config env w)
    (hstepped : Stepped config env id (.commInfo info) w w') : InStore config env w' := by
  cases hstepped with
  | absent => exact h
  | @ran flow t ok hflow hcompletes _ =>
    refine World.forall_put (P := fun other _ flow' => flow'.awaitsProof config.toConfig = true →
      ¬ SaveRefused env.toEnv other) (fun hawaits => ?_) fun other flow' _ hold => h other flow' hold
    cases hcompletes.moved with
    | stayed hstep _ _ _ _ _ =>
      refine h id flow hflow ?_
      rw [FlowContext.awaitsProof, FlowContext.wasSelectedOperator, hcompletes.ran.triggerData, hstep]
        at hawaits
      exact hawaits
    | entered hhandled hstep _ _ _ _ =>
      cases hhandled with
      | commInfo =>
        rw [FlowContext.awaitsProof, hstep] at hawaits
        exact absurd (Bool.and_eq_true_iff.mp hawaits).2 (by decide)
  | parked _ _ _ _ hparks => exact absurd hparks Parks.not_commInfo

theorem leads_message_flags (event : OutgoingBitVMXApiMessages) :
    Leads (fun w => InFlags config w ∧ InStore config env w) (InFlags config)
      (handleBitvmxEvent config env event) := by
  have hstepped : ∀ {w w' : World Core} {id : FlowId} {data : StepData}, data.isMessage = true →
      InFlags config w ∧ InStore config env w → Stepped config env id data w w' →
      InFlags config w' := by
    rintro w w' id data hmessage ⟨hw, hstore⟩ h
    refine hw.stepped ?_ (fun flow hflow hawaits => .inr (hstore id flow hflow hawaits)) h
    rintro rfl
    cases hmessage
  refine leads_handleBitvmxEvent (fun _ h => h.1) (fun id info w hw => ?_)
    (fun id data hmessage w hw => ?_) event
  · exact wp_always completeFlowStep_steps fun _ h => ⟨hstepped rfl hw h, hw.2.stepped h⟩
  · exact wp_always completeFlowStep_steps fun _ => hstepped hmessage hw

/-- The invariant of a process: the flags of the core, and the tracker of the snapshot. -/
def KeepsFlags (config : ProcessorConfig) (s : System Core) : Prop :=
  s.processor.core.Flagged config.toConfig []
    ∧ ∀ saved, s.processor.saved = some saved → saved.1.retries.Sync

/-- **A call.** -/
theorem step_flagged (s : System Core) (call : CallEnv × Input) (h : KeepsFlags config s)
    (hkept : FlagsKept config s call) : KeepsFlags config (step config s call) := by
  obtain ⟨env, input⟩ := call
  let T : Core → Prop := fun core => core.retries.Sync
  have hcall : ∀ {program : Program Processor Unit},
      wp program (fun _ => Carried (InFlags config) T) (fun _ => Carried (InFlags config) T)
        ⟨s.processor, []⟩ → KeepsFlags config (s.call program) := by
    intro program hprogram
    exact System.call_of_wp (fun _ => h) fun _ => hprogram
  have hrules : Rules config env (fun data => data.isEvent = true) (InFlags config) := flagRules
  have hfirst := hrules.cleanup ⟨s.processor.core, []⟩ h.1
  cases input with
  | block block =>
    have htime := hrules.and timeRules
    refine hcall (wp_processNewBlock (fun _ _ h => h) (fun _ h => h.sync) h.2
      (wp_mono (htime.cleanup _ ⟨h.1, hkept.due block rfl⟩) (fun _ _ h => h) fun _ _ h => h.1)
      (fun _ h => h.1) htime.cleanup (fun event _ => htime.keeps_event ?_ event) leads_retryTick)
    exact fun w id data hw => ⟨hw.1.addFlow _ id data, hw.2.addFlow _ id data⟩
  | rskEvent event =>
    refine hcall (wp_processNewRskEvent (fun _ _ h => h) (fun _ h => h.sync) h.2 hfirst fun _ => ?_)
    exact hrules.keeps_event (fun w id data hw => hw.addFlow _ id data) event
  | bitvmxEvent event =>
    refine hcall (wp_processNewBitvmxEvent (fun _ _ h => h) (fun _ h => h.sync) h.2 ?_
      (leads_message_flags event))
    apply wp_mono cleanupTerminalFlows_cleans _ fun _ _ h => h.elim
    intro _ w hclean
    exact ⟨h.1.cleanedUp hclean, fun id flow hflow =>
      hkept.saves event rfl id flow (hclean.flow hflow).1⟩
  | userRequest request =>
    refine hcall (wp_processUserRequest (fun _ _ h => h) (fun _ h => h.sync) h.2 hfirst ?_)
    refine hrules.keeps_handleUserRequest (fun id w hw => ?_) request
    exact wp_always markFlowFailed_fails fun _ h => hw.failed h
  | restart => exact ⟨h.1.load h.2 (hkept.restorable rfl), h.2⟩

end Calls

structure Core.FlagsRight (config : Config) (core : Core) : Prop where
  armed : ∀ id flow, core.flows.lookup id = some flow → flow.isTerminal = false →
    flow.pendingRetry = true → core.retries.scheduler.isScheduled id = true
      ∧ (core.retries.attempts.lookup id).isSome = true
  agrees : ∀ id flow, core.flows.lookup id = some flow → flow.isTerminal = false →
    Agrees config (core.calls id) flow

/-- **A pending flag has its retry, and agrees with the last attempt**, in every run in which due
retries can be made, flows that come to a register step are saved, and records are not behind. -/
theorem pending_flag_has_retry (config : ProcessorConfig) (inputs : List (CallEnv × Input))
    (hkept : Machine.Allowed (step config) (FlagsKept config) start inputs) :
    (Machine.run (step config) start inputs).processor.core.FlagsRight config.toConfig := by
  have hstart : KeepsFlags config start := by
    refine ⟨⟨?_, RetryTracker.sync_new, fun _ _ h => (nomatch h), fun _ _ h => (nomatch h)⟩,
      fun _ h => nomatch h⟩
    rintro id flow (h | h)
    · cases h
    · cases h
  have hrun := (Machine.run_invariant (KeepsFlags config) step_flagged hstart hkept).1
  refine ⟨fun id flow hflow _ hflag => ?_, fun id flow hflow _ => hrun.agrees id flow hflow⟩
  have hscheduled := hrun.armed id flow hflow hflag List.not_mem_nil
  exact ⟨hscheduled, (hrun.sync id).mp hscheduled⟩

/-- The registration that lacked confirmations waits for its retry. -/
theorem parked_flag_has_retry :
    ((Machine.run (step sampleProcessorConfig) start parkedInputs).processor.core.flows.inOrder
        fun _ => 0).map (fun entry => (entry.2.step, entry.2.pendingRetry)) =
        [(.registerOrWaitRskAdvanceFunds, true)]
      ∧ (Machine.run (step sampleProcessorConfig) start parkedInputs).processor.core.FlagsRight
        sampleProcessorConfig.toConfig := by
  refine ⟨by decide +kernel, pending_flag_has_retry _ _ (Machine.allowed_of_always ?_)⟩
  intro call hcall s
  have hquiet := quiet_parkedInputs call hcall
  exact ⟨fun block h => absurd h (hquiet.block block), fun _ _ id _ _ _ => hquiet.not_refused id,
    fun h => absurd h hquiet.restart⟩

/-- The contract refuses the registration when the retry is made. -/
def refusingEnv : Env :=
  .failing fun _ c => match c with
    | .registerAdvanceFunds _ _ => true
    | _ => false

/-- The retry was taken from the tracker, the refused registration puts the flow back with its flag,
and no retry is armed again. -/
theorem refused_retry_leaves_flag :
    let core := (Machine.run (step sampleProcessorConfig) start (parkedInputs ++
      callsIn refusingEnv [.block (blockAt 1 1 0), .block (blockAt 2 2 1)])).processor.core
    (core.flows.inOrder fun _ => 0).map (fun entry => (entry.2.step, entry.2.pendingRetry,
        core.retries.scheduler.isScheduled entry.1,
        lastAttempt sampleProcessorConfig.verifier (core.calls entry.1))) =
        [(.registerOrWaitRskAdvanceFunds, true, false, some .refused)]
      ∧ ¬ core.FlagsRight sampleProcessorConfig.toConfig := by
  intro core
  have hflows : (core.flows.inOrder fun _ => 0).map (fun entry => (entry.2.step,
      entry.2.pendingRetry, core.retries.scheduler.isScheduled entry.1,
      lastAttempt sampleProcessorConfig.verifier (core.calls entry.1))) =
      [(.registerOrWaitRskAdvanceFunds, true, false, some .refused)] := by
    decide +kernel
  refine ⟨hflows, fun hright => ?_⟩
  obtain ⟨⟨id, flow⟩, hentry, heq⟩ := List.mem_map.mp (hflows ▸ List.mem_singleton_self _)
  simp only [Prod.mk.injEq] at heq
  obtain ⟨hstep, hflag, hscheduled, -⟩ := heq
  have hlive : flow.isTerminal = false := by
    rw [FlowContext.isTerminal, hstep]
    rfl
  have harmed := (hright.armed id flow (Table.mem_inOrder.mp hentry) hlive hflag).1
  cases hscheduled.symm.trans harmed

end UnionBridge.AdvanceFunds
