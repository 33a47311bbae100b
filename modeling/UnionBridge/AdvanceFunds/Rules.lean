import UnionBridge.AdvanceFunds.Moves
import UnionBridge.AdvanceFunds.Processor
import UnionBridge.Coordinator.CallRules

/-!
# What the advance-funds processor does to its flows

The handlers change the core in a few ways: a flow completes a step and may be armed for a retry
(`Stepped`), a flow is failed, terminal flows are dropped (`CleanedUp`), a flow is created. This
module says once what each of them does; `Rules` then takes an invariant that survives them through
the handlers and through a whole call.
-/

namespace UnionBridge.AdvanceFunds

open Chain Contracts Bitvmx Coordinator Effect

@[simp] theorem wp_modifyCore {f : Core → Core} {Q : Unit → World Core → Prop}
    {E : FlowError → World Core → Prop} {w : World Core} :
    wp (modifyCore f) Q E w ↔ Q () ⟨f w.own, w.log⟩ := Iff.rfl

/-! ## A flow runs -/

/-- What every program of a flow leaves alone, and what it does to the record. -/
structure Ran (w w' : World Flow) : Prop where
  flowId : w'.own.state.flowId = w.own.state.flowId
  bitvmxProtocolId : w'.own.state.bitvmxProtocolId = w.own.state.bitvmxProtocolId
  triggerData : w'.own.state.triggerData = w.own.state.triggerData
  saved : w'.own.saved = w.own.saved ∨ w'.own.saved = some w'.own.state
  terminal : w.own.state.isTerminal = true → w'.own.state.isTerminal = true

theorem Ran.refl (w : World Flow) : Ran w w := ⟨rfl, rfl, rfl, .inl rfl, id⟩

theorem Ran.registersAt {w w' : World Flow} (h : Ran w w') (config : Config) (step : Steps) :
    registersAt config w'.own.state step = registersAt config w.own.state step := by
  rw [AdvanceFunds.registersAt, AdvanceFunds.registersAt, FlowContext.wasSelectedOperator,
    FlowContext.wasSelectedOperator, h.triggerData]

section Flow

variable {config : Config} {env : Env} {w w' : World Flow}

theorem Handled.frame {s s' : FlowContext} {data : StepData} {next : Option Steps}
    (h : Handled config s data s' next) :
    ∃ address txid spv message kickoff take, s' = { s with
      myP2pAddress := address, operatorTakeTxid := txid, advanceFundsSpv := spv
      advanceFundsRegistered := message, reimbursementKickoffSpv := kickoff
      operatorTakeSpv := take } := by
  cases h with
  | kickoffSpv => split <;> exact ⟨_, _, _, _, _, _, rfl⟩
  | takeSpv => split <;> exact ⟨_, _, _, _, _, _, rfl⟩
  | _ => exact ⟨_, _, _, _, _, _, rfl⟩

theorem Starts.ran {next : Steps} {ok : Bool} (h : Starts config env next w w' ok)
    (hterminal : w.own.state.isTerminal = true → next = .done ∨ next = .failed) : Ran w w' := by
  have hentered : Entered config next w w' →
      (w'.own.saved = w.own.saved ∨ w'.own.saved = some w'.own.state) → Ran w w' := by
    intro hentered hsaved
    obtain ⟨index, txid, pid, retry, hstate⟩ := hentered.state
    refine ⟨by rw [hstate], by rw [hstate], by rw [hstate], hsaved, fun hended => ?_⟩
    rw [hstate]
    rcases hterminal hended with rfl | rfl
    · rfl
    · rfl
  cases h with
  | entered h hsaved => exact hentered h (.inr hsaved)
  | restored hown _ _ =>
    exact ⟨by rw [hown], by rw [hown], by rw [hown], .inl (by rw [hown]), by rw [hown]; exact id⟩
  | unsaved h hsaved _ => exact hentered h (.inl hsaved)

theorem Completes.ran {data : StepData} {ok : Bool} (h : Completes config env data w w' ok) :
    Ran w w' := by
  cases h with
  | rejected hsame _ =>
    subst hsame
    exact .refl _
  | ignored hsame _ =>
    subst hsame
    exact .refl _
  | started hhandled hstarts =>
    -- a terminal flow finds no step
    have hlive := hhandled.forward.2.2.2
    obtain ⟨address, txid, spv, message, kickoff, take, rfl⟩ := hhandled.frame
    have hran := hstarts.ran fun hended => absurd (hlive.symm.trans hended) nofun
    exact ⟨hran.flowId, hran.bitvmxProtocolId, hran.triggerData, hran.saved,
      fun hended => absurd (hlive.symm.trans hended) nofun⟩

end Flow

section Core

variable {config : ProcessorConfig} {env : CallEnv} {id other : FlowId} {core : Core} {flow : Flow}
  {calls : Contracts.Log} {w w' : World Core}

/-- The world after a program of the flow `id` has run. -/
def World.put (w : World Core) (id : FlowId) (t : World Flow) : World Core :=
  ⟨w.own.putFlow id t.own (callsSince w.log t.log), t.log⟩

namespace World

variable {t : World Flow}

theorem flows_put : (put w id t).own.flows.lookup id = some t.own.state := AList.lookup_insert _

theorem flows_put_ne (hne : other ≠ id) :
    (put w id t).own.flows.lookup other = w.own.flows.lookup other := AList.lookup_insert_ne hne

theorem store_put : (put w id t).own.store.lookup id = t.own.saved := by
  unfold put Core.putFlow
  cases t.own.saved with
  | none => exact AList.lookup_erase _ _
  | some s => exact AList.lookup_insert _

theorem store_put_ne (hne : other ≠ id) :
    (put w id t).own.store.lookup other = w.own.store.lookup other := by
  unfold put Core.putFlow
  cases t.own.saved with
  | none => exact AList.lookup_erase_ne hne
  | some s => exact AList.lookup_insert_ne hne

theorem calls_put : (put w id t).own.calls id = callsSince w.log t.log ++ w.own.calls id := by
  simp [Core.calls, put, Core.putFlow]

theorem calls_put_ne (hne : other ≠ id) : (put w id t).own.calls other = w.own.calls other := by
  simp [Core.calls, put, Core.putFlow, AList.lookup_insert_ne hne]

/-- After a program of one flow, a property of all flows and their calls is new for that flow only. -/
theorem forall_put {P : FlowId → Contracts.Log → FlowContext → Prop}
    (hself : P id (callsSince w.log t.log ++ w.own.calls id) t.own.state)
    (hothers : ∀ other flow, other ≠ id → w.own.flows.lookup other = some flow →
      P other (w.own.calls other) flow) :
    ∀ other flow, (put w id t).own.flows.lookup other = some flow →
      P other ((put w id t).own.calls other) flow := by
  intro other flow hflow
  by_cases hother : other = id
  · subst hother
    cases flows_put.symm.trans hflow
    rw [calls_put]
    exact hself
  · rw [calls_put_ne hother]
    exact hothers other flow hother ((flows_put_ne hother).symm.trans hflow)

end World

theorem Core.forall_addFlow {new : FlowContext} {P : FlowId → Contracts.Log → FlowContext → Prop}
    (hnew : P id [] new)
    (hothers : ∀ other flow, core.flows.lookup other = some flow → P other (core.calls other) flow) :
    ∀ other flow, (core.addFlow id new).flows.lookup other = some flow →
      P other ((core.addFlow id new).calls other) flow := by
  intro other flow hflow
  unfold Core.calls Core.addFlow
  rcases Table.lookup_insert_eq_some.mp hflow with ⟨rfl, rfl⟩ | ⟨hne, hold⟩
  · rw [AList.lookup_insert]
    exact hnew
  · rw [AList.lookup_insert_ne hne]
    exact hothers other flow hold

def World.at (w : World Core) (id : FlowId) (flow : FlowContext) : World Flow :=
  ⟨⟨flow, w.own.store.lookup id⟩, w.log⟩

/-- Everything that completing a step of the flow `id` can do. The last case arms a retry. -/
inductive Stepped (config : ProcessorConfig) (env : CallEnv) (id : FlowId) (data : StepData)
    (w : World Core) : World Core → Prop
  | absent (hnone : w.own.flows.lookup id = none) : Stepped config env id data w w
  | ran {flow : FlowContext} {t : World Flow} {ok : Bool}
      (hflow : w.own.flows.lookup id = some flow)
      (h : Completes config.toConfig env.toEnv data (World.at w id flow) t ok)
      (hdone : ok = true → t.own.state.pendingRetry = false ∨ t = World.at w id flow) :
      Stepped config env id data w (World.put w id t)
  | parked {flow : FlowContext} {t : World Flow} (attempt : Nat)
      (hflow : w.own.flows.lookup id = some flow)
      (h : Completes config.toConfig env.toEnv data (World.at w id flow) t true)
      (hpending : t.own.state.pendingRetry = true) (hparks : Parks config.toConfig flow data) :
      Stepped config env id data w
        ⟨(World.put w id t).own.scheduleRetry config id attempt, t.log⟩

theorem runFlowStep_completes {flow : FlowContext} {data : StepData} :
    wp (runFlowStep config env id flow data)
      (fun outcome w' => ∃ t, Completes config.toConfig env.toEnv data (World.at w id flow) t true
        ∧ w' = World.put w id t
        ∧ (outcome = .noOp ∧ t = World.at w id flow ∨ t.own.state.pendingRetry = outcome.isRetry)
        ∧ (outcome.isRetry = true → Parks config.toConfig flow data))
      (fun e w' => (∃ t, Completes config.toConfig env.toEnv data (World.at w id flow) t false
        ∧ w' = World.put w id t) ∧ e.isError = true) w := by
  rw [runFlowStep, wp_zoom]
  apply wp_mono (completeStep_completes config.toConfig env.toEnv data (World.at w id flow))
  · rintro outcome t ⟨hcompletes, houtcome⟩
    exact ⟨t, hcompletes, rfl, houtcome⟩
  · rintro e t ⟨hcompletes, herror⟩
    exact ⟨⟨t, hcompletes, rfl⟩, herror⟩

/-- **Completing a step of a flow.** -/
theorem completeFlowStep_steps {data : StepData} :
    wp (completeFlowStep config env id data) (fun _ => Stepped config env id data w)
      (fun _ => Stepped config env id data w) w := by
  simp only [completeFlowStep, wp_bind, wp_get]
  split
  · next hnone => exact .absent hnone
  · next flow hflow =>
    rw [wp_bind]
    apply wp_mono runFlowStep_completes
    · rintro outcome w' ⟨t, hcompletes, rfl, houtcome, hparks⟩
      cases outcome with
      | done => exact .ran hflow hcompletes fun _ => houtcome.symm.imp_right And.right
      | noOp => exact .ran hflow hcompletes fun _ => houtcome.symm.imp_right And.right
      | retry reason =>
        refine .parked _ hflow hcompletes ?_ (hparks rfl)
        exact houtcome.resolve_left fun h => by cases h.1
    · rintro e w' ⟨⟨t, hcompletes, rfl⟩, -⟩
      exact .ran hflow hcompletes fun h => by cases h

def Core.note (core : Core) (retried : Retried) : Core :=
  { core with retried := retried :: core.retried }

/-- The note of a retry of the flow `id` that has led to `t`. -/
def World.retried (w : World Core) (id : FlowId) (t : World Flow) : Retried :=
  ⟨w.own.armedFor.lookup id, w.own.calls id, callsSince w.log t.log⟩

/-- Everything that a retry of the flow `id` can do. The last case arms it again. -/
inductive Retries (config : ProcessorConfig) (env : CallEnv) (id : FlowId) (w : World Core) :
    World Core → Prop
  | absent (hnone : w.own.flows.lookup id = none) : Retries config env id w w
  | ran {flow : FlowContext} {t : World Flow} {ok : Bool}
      (hflow : w.own.flows.lookup id = some flow)
      (h : Completes config.toConfig env.toEnv .retry (World.at w id flow) t ok)
      (hdone : ok = true → t.own.state.pendingRetry = false ∨ t = World.at w id flow) :
      Retries config env id w
        ⟨(World.put w id t).own.note (World.retried w id t), t.log⟩
  | parked {flow : FlowContext} {t : World Flow} (attempt : Nat)
      (hflow : w.own.flows.lookup id = some flow)
      (h : Completes config.toConfig env.toEnv .retry (World.at w id flow) t true) :
      Retries config env id w
        ⟨((World.put w id t).own.note (World.retried w id t)).scheduleRetry config id attempt,
          t.log⟩

/-- **Retrying a registration** never fails. -/
theorem retryRegistration_retries {attempts : Nat} :
    wp (retryRegistration config env id attempts) (fun _ => Retries config env id w)
      (fun _ _ => False) w := by
  simp only [retryRegistration, wp_bind, wp_get]
  split
  · next hnone => exact .absent hnone
  · next flow hflow =>
    simp only [wp_bind, wp_get, wp_attempt]
    apply wp_mono runFlowStep_completes
    · rintro outcome w' ⟨t, hcompletes, rfl, houtcome, -⟩
      cases outcome with
      | done => exact .ran hflow hcompletes fun _ => houtcome.symm.imp_right And.right
      | noOp => exact .ran hflow hcompletes fun _ => houtcome.symm.imp_right And.right
      | retry reason => exact .parked _ hflow hcompletes
    · rintro e w' ⟨⟨t, hcompletes, rfl⟩, herror⟩
      rw [if_pos herror]
      exact .ran hflow hcompletes fun h => by cases h

/-- A flow was failed; its retry is cancelled when that could be stored. -/
inductive Failed (config : ProcessorConfig) (env : CallEnv) (id : FlowId) (w : World Core) :
    World Core → Prop
  | absent (hnone : w.own.flows.lookup id = none) : Failed config env id w w
  | ran {flow : FlowContext} {t : World Flow} {ok : Bool}
      (hflow : w.own.flows.lookup id = some flow)
      (h : Starts config.toConfig env.toEnv .failed (World.at w id flow) t ok)
      (retries : RetryTracker FlowId)
      (hretries : retries = w.own.retries ∨ ok = true ∧ retries = w.own.retries.cancel id) :
      Failed config env id w ⟨{ (World.put w id t).own with retries := retries }, t.log⟩

theorem markFlowFailed_fails :
    wp (markFlowFailed config env id) (fun _ => Failed config env id w)
      (fun _ => Failed config env id w) w := by
  simp only [markFlowFailed, wp_bind, wp_get]
  split
  · next hnone => exact .absent hnone
  · next flow hflow =>
    simp only [wp_bind, wp_zoom, markFailed, wp_pure, wp_modifyCore]
    have hnext : Steps.failed ≠ .waitRskOperatorTakeTriggered := by rintro ⟨⟩
    apply wp_mono (startStep_starts (w := World.at w id flow) hnext)
    · rintro _ t ⟨hstarts, -⟩
      exact .ran hflow hstarts _ (.inr ⟨rfl, rfl⟩)
    · rintro _ t ⟨hstarts, -⟩
      exact .ran hflow hstarts _ (.inl rfl)

end Core

/-! ## Terminal flows are dropped -/

def DeleteRefused (env : Env) (id : FlowId) : Prop :=
  ∃ log text, env.answer log (.deleteFlow (.operatorTakeFlow id.value)) = .error text

/-- A terminal flow with a property is in the table. -/
def Core.Ends (core : Core) (p : FlowContext → Bool) : Prop :=
  ∃ id flow, core.flows.lookup id = some flow ∧ flow.isTerminal = true ∧ p flow = true

/-- The retry of a flow is what it was. -/
def Core.SameRetry (core core' : Core) (id : FlowId) : Prop :=
  core'.retries.scheduler.pending.lookup id = core.retries.scheduler.pending.lookup id
    ∧ core'.retries.attempts.lookup id = core.retries.attempts.lookup id

def Core.NoRetry (core : Core) (id : FlowId) : Prop :=
  core.retries.scheduler.pending.lookup id = none ∧ core.retries.attempts.lookup id = none

/-- The terminal flows have left the table with their retries and hashes, and their records are
deleted unless the store refused. -/
structure CleanedUp (env : Env) (w w' : World Core) : Prop where
  flows : ∀ id, w'.own.flows.lookup id
    = (w.own.flows.lookup id).filter fun flow => !flow.isTerminal
  store : ∀ id record, w'.own.store.lookup id = some record → w.own.store.lookup id = some record
    ∧ ∀ k flow, w.own.flows.lookup k = some flow → flow.isTerminal = true → flow.flowId = id →
      DeleteRefused env id
  retries : ∀ id, ¬ w.own.Ends (fun flow => flow.flowId = id) → w.own.SameRetry w'.own id
  cancelled : ∀ id, w.own.Ends (fun flow => flow.flowId = id) → w'.own.NoRetry id
  hashes : ∀ key : CommitteeId × UInt64,
    ¬ w.own.Ends (fun flow => flow.matchesCommitteeSlot key.1 key.2) →
    w'.own.requestPegoutTxHashes.lookup key = w.own.requestPegoutTxHashes.lookup key
  dropped : ∀ key : CommitteeId × UInt64,
    w.own.Ends (fun flow => flow.matchesCommitteeSlot key.1 key.2) →
    w'.own.requestPegoutTxHashes.lookup key = none
  notes : w'.own.armedFor = w.own.armedFor ∧ w'.own.callsOf = w.own.callsOf
    ∧ w'.own.retried = w.own.retried

section Cleanup

variable {env : CallEnv} {w w' : World Core}

/-- Forgetting flows only cancels retries and drops hashes, those of the flows. -/
structure Forgotten (terminal : List FlowContext) (core core' : Core) : Prop where
  frame : core' = { core with
    retries := core'.retries, requestPegoutTxHashes := core'.requestPegoutTxHashes }
  retries : ∀ id, (∀ flow ∈ terminal, flow.flowId ≠ id) → core.SameRetry core' id
  cancelled : ∀ id, (∃ flow ∈ terminal, flow.flowId = id) → core'.NoRetry id
  hashes : ∀ key : CommitteeId × UInt64,
    (∀ flow ∈ terminal, flow.matchesCommitteeSlot key.1 key.2 = false) →
    core'.requestPegoutTxHashes.lookup key = core.requestPegoutTxHashes.lookup key
  dropped : ∀ key : CommitteeId × UInt64,
    (∃ flow ∈ terminal, flow.matchesCommitteeSlot key.1 key.2 = true) →
    core'.requestPegoutTxHashes.lookup key = none

theorem forgotten_forgetFlow (core : Core) (flow : FlowContext) :
    Forgotten [flow] core (core.forgetFlow flow) where
  frame := rfl
  retries id hid := by
    have hne : id ≠ flow.flowId := fun heq => hid flow List.mem_cons_self heq.symm
    exact ⟨AList.lookup_erase_ne hne, AList.lookup_erase_ne hne⟩
  cancelled id hid := by
    obtain ⟨_, hmem, rfl⟩ := hid
    rw [List.mem_singleton.mp hmem]
    exact ⟨AList.lookup_erase _ _, AList.lookup_erase _ _⟩
  hashes key hkey := by
    rw [Core.forgetFlow, Table.lookup_retain, hkey flow List.mem_cons_self]
    cases core.requestPegoutTxHashes.lookup key with
    | none => rfl
    | some hash => rfl
  dropped key hkey := by
    obtain ⟨_, hmem, hmatches⟩ := hkey
    rw [List.mem_singleton.mp hmem] at hmatches
    rw [Core.forgetFlow, Table.lookup_retain, Option.filter_eq_none_iff]
    intro _ _
    rw [hmatches]
    exact nofun

theorem Forgotten.cons {flow : FlowContext} {terminal : List FlowContext} {core core₁ core' : Core}
    (h₁ : Forgotten [flow] core core₁) (h : Forgotten terminal core₁ core') :
    Forgotten (flow :: terminal) core core' where
  frame := by
    rw [h.frame, h₁.frame]
  retries id hid := by
    have hfirst := h₁.retries id fun f hf => hid f (List.mem_singleton.mp hf ▸ List.mem_cons_self)
    have hrest := h.retries id fun f hf => hid f (List.mem_cons_of_mem _ hf)
    exact ⟨hrest.1.trans hfirst.1, hrest.2.trans hfirst.2⟩
  cancelled id hid := by
    by_cases hrest : ∃ f ∈ terminal, f.flowId = id
    · exact h.cancelled id hrest
    · have hsame := h.retries id fun f hf heq => hrest ⟨f, hf, heq⟩
      obtain ⟨f, hf, heq⟩ := hid
      have hfirst := h₁.cancelled id ⟨flow, List.mem_cons_self, by
        rcases List.mem_cons.mp hf with rfl | hf
        · exact heq
        · exact absurd ⟨f, hf, heq⟩ hrest⟩
      exact ⟨hsame.1.trans hfirst.1, hsame.2.trans hfirst.2⟩
  hashes key hkey :=
    (h.hashes key fun f hf => hkey f (List.mem_cons_of_mem _ hf)).trans
      (h₁.hashes key fun f hf => hkey f (List.mem_singleton.mp hf ▸ List.mem_cons_self))
  dropped key hkey := by
    by_cases hrest : ∃ f ∈ terminal, f.matchesCommitteeSlot key.1 key.2 = true
    · exact h.dropped key hrest
    · obtain ⟨f, hf, heq⟩ := hkey
      refine (h.hashes key fun f hf => by simpa using fun heq => hrest ⟨f, hf, heq⟩).trans ?_
      refine h₁.dropped key ⟨flow, List.mem_cons_self, ?_⟩
      rcases List.mem_cons.mp hf with rfl | hf
      · exact heq
      · exact absurd ⟨f, hf, heq⟩ hrest

theorem forgotten_foldl (terminal : List FlowContext) (core : Core) :
    Forgotten terminal core (terminal.foldl Core.forgetFlow core) := by
  induction terminal generalizing core with
  | nil =>
    exact ⟨rfl, fun _ _ => ⟨rfl, rfl⟩, (fun _ ⟨_, hmem, _⟩ => nomatch hmem), fun _ _ => rfl,
      (fun _ ⟨_, hmem, _⟩ => nomatch hmem)⟩
  | cons flow terminal ih => exact (forgotten_forgetFlow core flow).cons (ih _)

theorem Core.ends_iff {core : Core} {rank : FlowId → Nat} {p : FlowContext → Bool} :
    core.Ends p ↔ ∃ flow ∈ core.terminalFlows rank, p flow = true := by
  unfold Core.Ends Core.terminalFlows
  constructor
  · rintro ⟨id, flow, hflow, hterminal, hp⟩
    refine ⟨flow, List.mem_filter.mpr ⟨?_, hterminal⟩, hp⟩
    exact List.mem_map.mpr ⟨(id, flow), Table.mem_inOrder.mpr hflow, rfl⟩
  · rintro ⟨flow, hmem, hp⟩
    obtain ⟨hmem, hterminal⟩ := List.mem_filter.mp hmem
    obtain ⟨⟨id, _⟩, hflow, rfl⟩ := List.mem_map.mp hmem
    exact ⟨id, _, Table.mem_inOrder.mp hflow, hterminal, hp⟩

/-- Records were deleted, or the store refused; nothing else changed. -/
structure Deleted (env : Env) (ids : List FlowId) (w w' : World Core) : Prop where
  own : w'.own = { w.own with store := w'.own.store }
  store : ∀ id record, w'.own.store.lookup id = some record → w.own.store.lookup id = some record
    ∧ (id ∈ ids → DeleteRefused env id)

theorem deleteFlow_deletes (id : FlowId) :
    wp (deleteFlow env id) (fun _ => Deleted env.toEnv [id] w) (fun _ _ => False) w := by
  simp only [deleteFlow, wp_bind, wp_perform]
  split
  · rw [wp_modifyCore]
    refine ⟨rfl, fun other record hlookup => ?_⟩
    obtain ⟨hne, hold⟩ := Table.lookup_erase_eq_some.mp hlookup
    exact ⟨hold, fun hmem => absurd (List.mem_singleton.mp hmem) hne⟩
  · next text hrefused =>
    refine ⟨rfl, fun other record hlookup => ⟨hlookup, fun hmem => ?_⟩⟩
    rw [List.mem_singleton.mp hmem]
    exact ⟨_, text, hrefused⟩

theorem deleteFlows_deletes (terminal : List FlowContext) :
    wp (terminal.forM fun flow => deleteFlow env flow.flowId)
      (fun _ => Deleted env.toEnv (terminal.map (·.flowId)) w) (fun _ _ => False) w := by
  induction terminal generalizing w with
  | nil => exact ⟨rfl, fun _ _ h => ⟨h, nofun⟩⟩
  | cons flow terminal ih =>
    show wp (deleteFlow env flow.flowId >>= fun _ => terminal.forM _) _ _ _
    rw [wp_bind]
    apply wp_imp (deleteFlow_deletes flow.flowId)
    intro _ w₁ h₁
    apply wp_imp ih
    intro _ w₂ h₂
    refine ⟨by rw [h₂.own, h₁.own], fun id record hlookup => ?_⟩
    obtain ⟨hmiddle, hrest⟩ := h₂.store id record hlookup
    obtain ⟨hold, hfirst⟩ := h₁.store id record hmiddle
    refine ⟨hold, fun hmem => ?_⟩
    rcases List.mem_cons.mp hmem with hid | hmem
    · exact hfirst (List.mem_singleton.mpr hid)
    · exact hrest hmem

/-- **Dropping the terminal flows.** No error leaves the function. -/
theorem cleanupTerminalFlows_cleans :
    wp (cleanupTerminalFlows env) (fun _ => CleanedUp env.toEnv w) (fun _ _ => False) w := by
  let terminal := w.own.terminalFlows (env.rank w.log .flows)
  have hforget := forgotten_foldl terminal w.own
  simp only [cleanupTerminalFlows, wp_bind, wp_get, wp_modifyCore]
  generalize terminal.foldl Core.forgetFlow w.own = core at hforget
  apply wp_imp (deleteFlows_deletes terminal)
  intro _ w₁ h₁
  have hown := h₁.own
  have hstore := h₁.store
  generalize w₁.own.store = store at hown hstore
  have hends : ∀ p : FlowContext → Bool, w.own.Ends p ↔ ∃ flow ∈ terminal, p flow = true :=
    fun _ => Core.ends_iff
  rw [hown, hforget.frame]
  rw [hforget.frame] at hstore
  refine ⟨fun id => Table.lookup_retain, fun id record hlookup => ?_, fun id hid => ?_,
    fun id hid => ?_, fun key hkey => ?_, fun key hkey => ?_, rfl, rfl, rfl⟩
  · obtain ⟨hold, hrefused⟩ := hstore id record hlookup
    refine ⟨hold, fun k flow hflow hterminal hid => hrefused ?_⟩
    obtain ⟨flow, hmem, hp⟩ := (hends fun flow => flow.flowId = id).mp
      ⟨k, flow, hflow, hterminal, decide_eq_true hid⟩
    exact List.mem_map.mpr ⟨flow, hmem, of_decide_eq_true hp⟩
  · exact hforget.retries id fun flow hmem heq => hid ((hends _).mpr
      ⟨flow, hmem, decide_eq_true heq⟩)
  · obtain ⟨flow, hmem, hp⟩ := (hends _).mp hid
    exact hforget.cancelled id ⟨flow, hmem, of_decide_eq_true hp⟩
  · refine hforget.hashes key fun flow hmem => Bool.eq_false_iff.mpr fun hp => ?_
    exact hkey ((hends _).mpr ⟨flow, hmem, hp⟩)
  · exact hforget.dropped key ((hends _).mp hkey)

theorem CleanedUp.flow {id : FlowId} {flow : FlowContext} (h : CleanedUp env.toEnv w w')
    (hflow : w'.own.flows.lookup id = some flow) :
    w.own.flows.lookup id = some flow ∧ flow.isTerminal = false := by
  rw [h.flows, Option.filter_eq_some_iff] at hflow
  exact ⟨hflow.1, by simpa using hflow.2⟩

theorem CleanedUp.pending {id : FlowId} {ticks : Nat} (h : CleanedUp env.toEnv w w')
    (hticks : w'.own.retries.scheduler.pending.lookup id = some ticks) :
    w.own.retries.scheduler.pending.lookup id = some ticks := by
  by_cases hends : w.own.Ends fun flow => flow.flowId = id
  · cases (h.cancelled id hends).1.symm.trans hticks
  · exact (h.retries id hends).1.symm.trans hticks

end Cleanup

/-! ## The rules -/

/-- What an invariant has to survive. The data in `plain` complete steps without further ado. -/
structure Rules (config : ProcessorConfig) (env : CallEnv) (plain : StepData → Prop)
    (I : World Core → Prop) : Prop where
  hashes : ∀ {w : World Core} (hashes : Table (CommitteeId × UInt64) TxHash), I w →
    I ⟨{ w.own with requestPegoutTxHashes := hashes }, w.log⟩
  cleanup : Keeps I (cleanupTerminalFlows env)
  completed : ∀ (id : FlowId) {data : StepData}, plain data →
    Keeps I (completeFlowStep config env id data)

namespace Rules

variable {config : ProcessorConfig} {env : CallEnv} {plain : StepData → Prop}
  {I : World Core → Prop} (h : Rules config env plain I)

include h

theorem and {J : World Core → Prop} (h' : Rules config env plain J) :
    Rules config env plain fun w => I w ∧ J w where
  hashes hashes hw := ⟨h.hashes hashes hw.1, h'.hashes hashes hw.2⟩
  cleanup := keeps_and h.cleanup h'.cleanup
  completed id _ hplain := keeps_and (h.completed id hplain) (h'.completed id hplain)

theorem keeps_completeStepOfFirst (p : FlowContext → Bool) {data : StepData} (hplain : plain data) :
    Keeps I (completeStepOfFirst config env p data) := by
  refine keeps_bind (keeps_bind (fun _ hw => hw) fun _ => keeps_pure _) fun found => ?_
  split
  · exact keeps_pure ()
  · exact h.completed _ hplain

/-! ### Confirmed events -/

theorem keeps_createFlowForOperatorTakeTriggered
    (hadded : ∀ (w : World Core) (id : FlowId) (data : OperatorTakeTriggerData), I w →
      I ⟨w.own.addFlow id (.new config.libs id data), w.log⟩)
    (hplain : plain .operatorTakeTriggered) (event : EventWithBlock OperatorTakeTriggered) :
    Keeps I (createFlowForOperatorTakeTriggered config env event) := by
  intro w hw
  simp only [createFlowForOperatorTakeTriggered, wp_bind, wp_get, wp_orText, wp_ite, wp_pure,
    wp_ensure, wp_modifyCore]
  refine ⟨fun data _ => ?_, fun _ _ => hw⟩
  split
  · exact hw
  split
  · exact h.completed _ hplain _ (hadded w _ data hw)
  · exact hw

theorem keeps_handleConfirmedEvent {event : RskPegManagerEvents}
    (hplain : ∀ data : StepData, data.isEvent = true → plain data)
    (hcreated : ∀ e, event = .operatorTakeTriggered e →
      Keeps I (createFlowForOperatorTakeTriggered config env e)) :
    Keeps I (handleConfirmedEvent config env event) := by
  unfold handleConfirmedEvent
  split
  · intro w hw
    simp only [wp_bind, wp_okOr, wp_modifyCore]
    exact ⟨fun _ _ => h.hashes _ hw, fun _ => hw⟩
  · exact hcreated _ rfl
  · intro w hw
    simp only [wp_bind, wp_orText]
    refine ⟨fun message _ => ?_, fun _ _ => hw⟩
    exact h.keeps_completeStepOfFirst _ (hplain (.advanceFundsConfirmed message) rfl) w hw
  · exact h.keeps_completeStepOfFirst _ (hplain .reimbursementKickoffConfirmed rfl)
  · exact h.keeps_completeStepOfFirst _ (hplain (.pegoutRegistered _) rfl)
  · exact keeps_pure ()

theorem keeps_processConfirmedRskEvent {event : RskPegManagerEvents}
    (hplain : ∀ data : StepData, data.isEvent = true → plain data)
    (hcreated : ∀ e, event = .operatorTakeTriggered e →
      Keeps I (createFlowForOperatorTakeTriggered config env e)) :
    Keeps I (processConfirmedRskEvent config env event) :=
  keeps_bind (h.keeps_handleConfirmedEvent hplain hcreated) fun _ => h.cleanup

omit h in
theorem keeps_event (h : Rules config env (fun data => data.isEvent = true) I)
    (hadded : ∀ (w : World Core) (id : FlowId) (data : OperatorTakeTriggerData), I w →
      I ⟨w.own.addFlow id (.new config.libs id data), w.log⟩) (event : RskPegManagerEvents) :
    Keeps I (processConfirmedRskEvent config env event) :=
  h.keeps_processConfirmedRskEvent (fun _ h => h) fun e _ =>
    h.keeps_createFlowForOperatorTakeTriggered hadded rfl e

theorem keeps_handleUserRequest (hfailed : ∀ id, Keeps I (markFlowFailed config env id))
    (request : UserRequests) : Keeps I (handleUserRequest config env request) := by
  unfold handleUserRequest
  split
  · exact keeps_bind (hfailed _) fun _ => h.cleanup
  · exact keeps_pure ()

end Rules

/-! ## Messages -/

section Messages

variable {config : ProcessorConfig} {env : CallEnv} {I J : World Core → Prop}

theorem keeps_flowByProtocolId (target : BitVmxProtocolId) (violation : String) :
    Keeps I (flowByProtocolId env target violation) := by
  refine keeps_bind (fun _ hw => hw) fun w => ?_
  split
  · exact keeps_pure _
  · exact keeps_pure _
  · exact keeps_throw _

variable (hweaker : ∀ w, J w → I w)

include hweaker

theorem leads_handleSpvNotification (notification : UnionSPVNotification) (missing : String)
    {data : BtcTxSPVProof → StepData}
    (hdata : ∀ id proof, Leads J I (completeFlowStep config env id (data proof))) :
    Leads J I (handleSpvNotification config env notification missing data) := by
  refine leads_bind hweaker (keeps_flowByProtocolId _ _) fun found => ?_
  split
  · exact leads_of_keeps hweaker (keeps_pure ())
  · intro w hw
    simp only [wp_bind, wp_okOr]
    exact ⟨fun proof _ => hdata _ proof w hw, fun _ => hweaker w hw⟩

theorem leads_handleBitvmxEvent
    (hcommInfo : ∀ id info, Keeps J (completeFlowStep config env id (.commInfo info)))
    (hmessage : ∀ id (data : StepData), data.isMessage = true →
      Leads J I (completeFlowStep config env id data))
    (event : OutgoingBitVMXApiMessages) : Leads J I (handleBitvmxEvent config env event) := by
  have hidle : Leads J I (pure () : CoreM Unit) := leads_of_keeps hweaker (keeps_pure ())
  have hfirst : ∀ p (data : StepData), data.isMessage = true →
      Leads J I (completeStepOfFirst config env p data) := by
    intro p data hdata
    refine leads_bind hweaker (keeps_bind (fun _ hw => hw) fun _ => keeps_pure _) fun found => ?_
    split
    · exact hidle
    · exact hmessage _ data hdata
  unfold handleBitvmxEvent
  split
  · refine leads_bind hweaker (keeps_flowByProtocolId _ _) fun found => ?_
    split
    · exact hidle
    · exact hmessage _ .setupCompleted rfl
  · refine leads_of_keeps hweaker (keeps_bind (fun _ hw => hw) fun _ => ?_)
    exact keeps_forM (fun _ => hcommInfo _ _) _
  · unfold handleTransactionInfo
    split
    · exact hfirst _ (.operatorTakeTransactionInfo _) rfl
    · exact hidle
  · split
    · intro w hw
      simp only [wp_bind, wp_okOr, handleAdvanceFundsSpv, wp_ite, wp_pure]
      refine ⟨fun spv _ => ?_, fun _ => hweaker w hw⟩
      split
      · exact hfirst _ (.advanceFundsSPV spv) rfl w hw
      · exact hweaker w hw
    split
    · intro w hw
      simp only [wp_bind, wp_okOr, handleUnionSpvNotification]
      refine ⟨fun notification _ => ?_, fun _ => hweaker w hw⟩
      split
      · exact leads_handleSpvNotification hweaker _ _
          (fun id proof => hmessage id (.reimbursementKickoffSPV proof) rfl) w hw
      · exact leads_handleSpvNotification hweaker _ _
          (fun id proof => hmessage id (.operatorTakeSPV proof) rfl) w hw
      · exact hweaker w hw
    · exact hidle
  · exact hidle

end Messages

/-! ## Whole calls -/

section Calls

variable {config : ProcessorConfig} {env : CallEnv} {I : World Core → Prop} {T : Core → Prop}
  (hcalled : ∀ (w : World Core) (entry : LogEntry), I w → I ⟨w.own, entry :: w.log⟩)
  (hstored : ∀ w : World Core, I w → T w.own)

/-- The retries of a block, one after the other. -/
theorem wp_handleRetryTick {R : List FlowId → Core → Prop} {w : World Core} (hnow : I w)
    (hstart : R ((w.own.retries.tick (env.rank w.log .registrationRetries)).1.map (·.1))
      { w.own with retries := (w.own.retries.tick (env.rank w.log .registrationRetries)).2 })
    (hretries : ∀ {id rest} {w w' : World Core}, R (id :: rest) w.own →
      Retries config env id w w' → R rest w'.own)
    (hend : ∀ {w : World Core}, R [] w.own → I w) :
    wp (handleRetryTick config env) (fun _ => I) (fun _ => I) w := by
  simp only [handleRetryTick, wp_bind, wp_get, wp_ite, wp_pure]
  split
  · exact hnow
  rw [wp_modifyCore]
  refine wp_mono (wp_forM (E := fun _ _ => False)
    (fun (rest : List (FlowId × Nat)) (w : World Core) => R (rest.map (·.1)) w.own) ?_ hstart)
    (fun _ _ h => hend h) fun _ _ h => h.elim
  intro entry rest w' hw'
  exact wp_imp retryRegistration_retries fun _ _ h => hretries hw' h

variable {w : World Processor} (hsaved : ∀ saved, w.own.saved = some saved → T saved.1)

include hsaved

theorem wp_cleanup_bind {rest : Program Processor Unit}
    (hfirst : wp (cleanupTerminalFlows env) (fun _ => I) (fun _ => I) ⟨w.own.core, w.log⟩)
    (hrest : Keeps (Carried I T) rest) :
    wp (do liftCore (cleanupTerminalFlows env); rest) (fun _ => Carried I T)
      (fun _ => Carried I T) w := by
  rw [wp_bind, wp_liftCore]
  exact wp_mono hfirst (fun _ t ht => hrest _ ⟨ht, hsaved⟩) fun _ t ht => ⟨ht, hsaved⟩

include hcalled hstored

omit hsaved in
theorem keeps_persistProcessor : Keeps (Carried I T) (persistProcessor env) :=
  keeps_carried_persistProcessorState (hcalled _) (hstored _) _

/-- A block: the retries that are due come after the events, which may keep more than they do. -/
theorem wp_processNewBlock {J : World Core → Prop} {block : RskBlockAndUncles}
    (hfirst : wp (cleanupTerminalFlows env) (fun _ => J) (fun _ => I) ⟨w.own.core, w.log⟩)
    (hweaker : ∀ w, J w → I w) (hcleanup : Keeps J (cleanupTerminalFlows env))
    (hconfirmed : ∀ event, w.own.confirming.Confirms block event →
      Keeps J (processConfirmedRskEvent config env event))
    (htick : Leads J I (handleRetryTick config env)) :
    wp (processNewBlock config env block) (fun _ => Carried I T) (fun _ => Carried I T) w := by
  rw [processNewBlock, wp_bind, wp_liftCore]
  apply wp_mono hfirst
  · intro _ t ht
    have hw₀ : Carried J T ⟨{ w.own with core := t.own }, t.log⟩ := ⟨ht, hsaved⟩
    rw [wp_bind]
    apply wp_mono (wp_carried_processBlockConfirmations hw₀ hconfirmed hcleanup)
    · intro _ w₁ h₁
      rw [wp_bind, wp_liftCore]
      apply wp_mono (htick _ h₁.1)
      · exact fun _ t₁ ht₁ => keeps_persistProcessor hcalled hstored _ ⟨ht₁, h₁.2⟩
      · exact fun _ t₁ ht₁ => ⟨ht₁, h₁.2⟩
    · exact fun _ w₁ h₁ => ⟨hweaker _ h₁.1, h₁.2⟩
  · exact fun _ t ht => ⟨ht, hsaved⟩

theorem wp_processNewRskEvent {event : RskPegManagerEvents}
    (hfirst : wp (cleanupTerminalFlows env) (fun _ => I) (fun _ => I) ⟨w.own.core, w.log⟩)
    (hconfirmed : config.requiredConfirmations = 0 →
      Keeps I (processConfirmedRskEvent config env event)) :
    wp (processNewRskEvent config env event) (fun _ => Carried I T) (fun _ => Carried I T) w := by
  refine wp_cleanup_bind hsaved hfirst ?_
  split
  · next hzero =>
    exact keeps_bind (keeps_carried_liftCore (hconfirmed hzero)) fun _ =>
      keeps_persistProcessor hcalled hstored
  · refine keeps_bind (fun _ hw => hw) fun w => ?_
    split
    · exact keeps_pure ()
    · exact keeps_bind (keeps_carried_trackEvent _ _ event) fun _ =>
        keeps_persistProcessor hcalled hstored

theorem wp_processNewBitvmxEvent {J : World Core → Prop} {event : OutgoingBitVMXApiMessages}
    (hfirst : wp (cleanupTerminalFlows env) (fun _ => J) (fun _ => I) ⟨w.own.core, w.log⟩)
    (hevent : Leads J I (handleBitvmxEvent config env event)) :
    wp (processNewBitvmxEvent config env event) (fun _ => Carried I T) (fun _ => Carried I T)
      w := by
  rw [processNewBitvmxEvent, wp_bind, wp_liftCore]
  refine wp_mono hfirst (fun _ t ht => ?_) fun _ t ht => ⟨ht, hsaved⟩
  rw [wp_bind, wp_liftCore]
  exact wp_mono (hevent _ ht) (fun _ t' ht' => keeps_persistProcessor hcalled hstored _ ⟨ht', hsaved⟩)
    fun _ t' ht' => ⟨ht', hsaved⟩

theorem wp_processUserRequest {request : UserRequests}
    (hfirst : wp (cleanupTerminalFlows env) (fun _ => I) (fun _ => I) ⟨w.own.core, w.log⟩)
    (huser : Keeps I (handleUserRequest config env request)) :
    wp (processUserRequest config env request) (fun _ => Carried I T) (fun _ => Carried I T) w :=
  wp_cleanup_bind hsaved hfirst (keeps_bind (keeps_carried_liftCore huser) fun _ =>
    keeps_persistProcessor hcalled hstored)

end Calls

end UnionBridge.AdvanceFunds
