import UnionBridge.AdvanceFunds.Rules

/-!
# One flow for each protocol id

A flow stands under an id that comes from the transaction of its `OperatorTakeTriggered` event, but
messages of `BitVMX` find it by the protocol id of its committee and slot. Everything except a
creation leaves at most the flows that were there (`Core.Descends`), in memory or in the store. So
protocol ids stay apart as long as no second event for the committee and slot of a live flow is
handled.
-/

namespace UnionBridge.AdvanceFunds

open Chain Contracts Bitvmx Coordinator Effect

/-! ## Flows in memory and in the store -/

/-- A flow stands under the id, in memory or in the store. -/
def Core.Under (core : Core) (id : FlowId) (flow : FlowContext) : Prop :=
  core.flows.lookup id = some flow ∨ core.store.lookup id = some flow

/-- Under the id stands a live flow with the protocol id. -/
def Core.Holds (core : Core) (id : FlowId) (protocolId : BitVmxProtocolId) : Prop :=
  ∃ flow, core.Under id flow ∧ flow.isTerminal = false ∧ flow.bitvmxProtocolId = protocolId

/-- Every flow comes from one that stood under its id, with the same ids; none was revived. -/
def Core.Descends (core core' : Core) : Prop :=
  ∀ id flow', core'.Under id flow' → ∃ flow, core.Under id flow ∧ flow'.flowId = flow.flowId
    ∧ flow'.bitvmxProtocolId = flow.bitvmxProtocolId
    ∧ (flow.isTerminal = true → flow'.isTerminal = true)

namespace Core.Descends

variable {config : ProcessorConfig} {env : CallEnv} {core core' core'' : Core} {w w' : World Core}
  {id : FlowId}

theorem trans (h : core.Descends core') (h' : core'.Descends core'') : core.Descends core'' := by
  intro id flow'' hflow''
  obtain ⟨flow', hflow', hid', hpid', hended'⟩ := h' id flow'' hflow''
  obtain ⟨flow, hflow, hid, hpid, hended⟩ := h id flow' hflow'
  exact ⟨flow, hflow, hid'.trans hid, hpid'.trans hpid, fun h => hended' (hended h)⟩

theorem of_under (h : ∀ id flow, core'.Under id flow → core.Under id flow) :
    core.Descends core' :=
  fun id flow hflow => ⟨flow, h id flow hflow, rfl, rfl, fun h => h⟩

theorem put {flow : FlowContext} {t : World Flow} (hflow : w.own.flows.lookup id = some flow)
    (h : Ran (World.at w id flow) t) : w.own.Descends (World.put w id t).own := by
  intro other flow' hflow'
  by_cases hother : other = id
  · subst hother
    -- both the flow and a new record come from the flow in memory
    have hstate : t.own.state = flow' ∨ w.own.store.lookup other = some flow' := by
      rcases hflow' with hmemory | hrecord
      · rw [World.flows_put] at hmemory
        exact .inl (Option.some.inj hmemory)
      · rw [World.store_put] at hrecord
        rcases h.saved with hsaved | hsaved
        · exact .inr (hsaved.symm.trans hrecord)
        · exact .inl (Option.some.inj (hsaved.symm.trans hrecord))
    rcases hstate with rfl | hrecord
    · exact ⟨flow, .inl hflow, h.flowId, h.bitvmxProtocolId, h.terminal⟩
    · exact ⟨flow', .inr hrecord, rfl, rfl, fun h => h⟩
  · rw [Core.Under, World.flows_put_ne hother, World.store_put_ne hother] at hflow'
    exact ⟨flow', hflow', rfl, rfl, fun h => h⟩

theorem stepped {data : StepData} (h : Stepped config env id data w w') :
    w.own.Descends w'.own := by
  cases h with
  | absent => exact of_under fun _ _ h => h
  | ran hflow h _ => exact put hflow h.ran
  | parked attempt hflow h _ _ => exact put hflow h.ran

theorem retries (h : Retries config env id w w') : w.own.Descends w'.own := by
  cases h with
  | absent => exact of_under fun _ _ h => h
  | ran hflow h => exact put hflow h.ran
  | parked attempt hflow h => exact put hflow h.ran

theorem failed (h : Failed config env id w w') : w.own.Descends w'.own := by
  cases h with
  | absent => exact of_under fun _ _ h => h
  | ran hflow h _ _ => exact put hflow (h.ran fun _ => .inr rfl)

theorem cleanedUp (h : CleanedUp env.toEnv w w') : w.own.Descends w'.own :=
  of_under fun id flow hflow => hflow.imp (fun hmemory => (h.flow hmemory).1)
    fun hrecord => (h.store id flow hrecord).1

end Core.Descends

/-! ## Protocol ids stay apart -/

def Core.Keyed (core : Core) : Prop := ∀ id flow, core.Under id flow → flow.flowId = id

/-- Besides, no two live flows hold one protocol id. -/
structure Core.Routed (core : Core) : Prop where
  keyed : core.Keyed
  unique : ∀ id id' protocolId, core.Holds id protocolId → core.Holds id' protocolId → id = id'

theorem Core.Descends.holds {core core' : Core} (h : core.Descends core') {id : FlowId}
    {protocolId : BitVmxProtocolId} (hholds : core'.Holds id protocolId) :
    core.Holds id protocolId := by
  obtain ⟨flow', hflow', hlive, rfl⟩ := hholds
  obtain ⟨flow, hflow, -, hpid, hended⟩ := h id flow' hflow'
  refine ⟨flow, hflow, ?_, hpid.symm⟩
  cases hflowEnded : flow.isTerminal with
  | false => rfl
  | true => exact absurd (hlive.symm.trans (hended hflowEnded)) nofun

theorem Core.Keyed.descends {core core' : Core} (h : core.Keyed)
    (hdescends : core.Descends core') : core'.Keyed := by
  intro id flow' hflow'
  obtain ⟨flow, hflow, hid, -, -⟩ := hdescends id flow' hflow'
  exact hid.trans (h id flow hflow)

theorem Core.Routed.descends {core core' : Core} (h : core.Routed)
    (hdescends : core.Descends core') : core'.Routed where
  keyed := h.keyed.descends hdescends
  unique id id' protocolId hholds hholds' :=
    h.unique id id' protocolId (hdescends.holds hholds) (hdescends.holds hholds')

theorem Core.Keyed.load {core : Core} (h : core.Keyed) (saved : Option Core) :
    core.Descends (core.load saved) := by
  refine .of_under fun id flow hflow => .inr ?_
  rcases hflow with hmemory | hrecord
  · obtain ⟨rfl, id', hrecord⟩ := Table.lookup_rekey hmemory
    rwa [h id' flow (.inr hrecord)]
  · exact hrecord

variable (config : ProcessorConfig) (todo : EventWithBlock OperatorTakeTriggered → Prop)

theorem descends_rearmPendingRetries (core : Core) :
    core.Descends (core.rearmPendingRetries config) := by
  have hfold : ∀ (flows : List FlowContext) (core : Core),
      core.Descends (flows.foldl (Core.rearmPendingRetry config) core) := by
    intro flows
    induction flows with
    | nil => exact fun _ => .of_under fun _ _ h => h
    | cons flow flows ih =>
      intro core
      refine .trans (.of_under fun _ _ h => ?_) (ih _)
      unfold Core.rearmPendingRetry at h
      split at h
      · exact h
      · exact h
  exact hfold _ _

/-! ## Creating a flow -/

/-- The flow id and the protocol id of the take that an event triggers. -/
def triggeredFlowId (event : EventWithBlock OperatorTakeTriggered) : FlowId :=
  flowIdFromOperatorTakeTriggeredTxHash config.libs event.txHash

def triggeredProtocolId (event : EventWithBlock OperatorTakeTriggered) : BitVmxProtocolId :=
  advanceFundsProtocolId config.libs event.inner.pegoutInfo.committeeId
    event.inner.streamPosition.slotId

theorem tryFromEvent_ids {libs : Libs} {event : OperatorTakeTriggered} {hash : Option TxHash}
    {data : OperatorTakeTriggerData}
    (h : OperatorTakeTriggerData.tryFromEvent libs event hash = .ok data) :
    data.committeeId = event.pegoutInfo.committeeId
      ∧ data.slotId = event.streamPosition.slotId ∧ data.pegoutId = event.pegoutInfo.pegoutId := by
  unfold OperatorTakeTriggerData.tryFromEvent at h
  split at h
  · cases h
  · cases hkey : xonlyToCompressedPubkey libs event.pegoutInfo.operatorTakePubKey with
    | error text =>
      rw [hkey] at h
      cases h
    | ok key =>
      rw [hkey] at h
      cases h
      exact ⟨rfl, rfl, rfl⟩

/-- The event is about a committee of this node, and its keys can be read. -/
def CanCreate (env : CallEnv) (event : EventWithBlock OperatorTakeTriggered) : Prop :=
  ∃ hash data, OperatorTakeTriggerData.tryFromEvent config.libs event.inner hash = .ok data
    ∧ env.imMember data.committeeId = true

/-- Events with one protocol id have one flow id. -/
def Apart : Prop :=
  ∀ event event', todo event → todo event' →
    triggeredProtocolId config event = triggeredProtocolId config event' →
    triggeredFlowId config event = triggeredFlowId config event'

/-- Besides `Routed`: what holds the protocol id of an event that is still to be handled is the flow
of that event. -/
structure Core.Awaits (config : ProcessorConfig)
    (todo : EventWithBlock OperatorTakeTriggered → Prop) (core : Core) : Prop where
  routed : core.Routed
  fresh : ∀ event, todo event → ∀ id, core.Holds id (triggeredProtocolId config event) →
    id = triggeredFlowId config event

/-- The same of the world of a handler. -/
def Awaiting (w : World Core) : Prop :=
  w.own.Awaits config todo

section Creation

variable {config : ProcessorConfig} {env : CallEnv}
  {todo : EventWithBlock OperatorTakeTriggered → Prop} {core core' : Core}

theorem Core.Awaits.descends (h : core.Awaits config todo) (hdescends : core.Descends core') :
    core'.Awaits config todo :=
  ⟨h.routed.descends hdescends, fun event htodo id hholds =>
    h.fresh event htodo id (hdescends.holds hholds)⟩

theorem holds_addFlow {id other : FlowId} {flow : FlowContext} {protocolId : BitVmxProtocolId}
    (h : (core.addFlow id flow).Holds other protocolId) :
    core.Holds other protocolId ∨ other = id ∧ protocolId = flow.bitvmxProtocolId := by
  obtain ⟨flow', hmemory | hrecord, hlive, rfl⟩ := h
  · rcases Table.lookup_insert_eq_some.mp hmemory with ⟨rfl, rfl⟩ | ⟨-, hold⟩
    · exact .inr ⟨rfl, rfl⟩
    · exact .inl ⟨flow', .inl hold, hlive, rfl⟩
  · exact .inl ⟨flow', .inr hrecord, hlive, rfl⟩

theorem Core.Awaits.addFlow (h : core.Awaits config todo)
    (happart : Apart config todo)
    {event : EventWithBlock OperatorTakeTriggered} (htodo : todo event) (flow : FlowContext)
    (hid : flow.flowId = triggeredFlowId config event)
    (hpid : flow.bitvmxProtocolId = triggeredProtocolId config event) :
    (core.addFlow (triggeredFlowId config event) flow).Awaits config todo := by
  have hfresh : ∀ id, (core.addFlow (triggeredFlowId config event) flow).Holds id
      (triggeredProtocolId config event) → id = triggeredFlowId config event := by
    intro id hholds
    rcases holds_addFlow hholds with hold | ⟨rfl, -⟩
    · exact h.fresh event htodo id hold
    · rfl
  refine ⟨⟨fun id flow' hflow' => ?_, fun id id' protocolId hholds hholds' => ?_⟩,
    fun e he id hholds => ?_⟩
  · rcases hflow' with hmemory | hrecord
    · rcases Table.lookup_insert_eq_some.mp hmemory with ⟨rfl, rfl⟩ | ⟨-, hold⟩
      · exact hid
      · exact h.routed.keyed id flow' (.inl hold)
    · exact h.routed.keyed id flow' (.inr hrecord)
  · by_cases heq : protocolId = triggeredProtocolId config event
    · subst heq
      rw [hfresh id hholds, hfresh id' hholds']
    · -- another protocol id is held by the flows that held it before
      have hold : ∀ {id}, (core.addFlow (triggeredFlowId config event) flow).Holds id protocolId →
          core.Holds id protocolId := fun h =>
        (holds_addFlow h).resolve_right fun hnew => heq (hnew.2.trans hpid)
      exact h.routed.unique id id' protocolId (hold hholds) (hold hholds')
  · rcases holds_addFlow hholds with hold | ⟨rfl, hpid'⟩
    · exact h.fresh e he id hold
    · exact happart event e htodo he (hpid.symm.trans hpid'.symm)

theorem keeps_createFlow
    (happart : Apart config todo) {event : EventWithBlock OperatorTakeTriggered}
    (htodo : CanCreate config env event → todo event) :
    Keeps (Awaiting config todo)
      (createFlowForOperatorTakeTriggered config env event) := by
  intro w hw
  simp only [createFlowForOperatorTakeTriggered, wp_bind, wp_get, wp_orText, wp_ite, wp_pure,
    wp_ensure, wp_modifyCore]
  refine ⟨fun data hdata => ?_, fun _ _ => hw⟩
  obtain ⟨hcommittee, hslot, -⟩ := tryFromEvent_ids hdata
  split
  · exact hw
  · next hmember =>
    split
    · have hadded := hw.addFlow happart
        (htodo ⟨_, data, hdata, by simpa using hmember⟩)
        (.new config.libs (triggeredFlowId config event) data) rfl
        (by rw [triggeredProtocolId, ← hcommittee, ← hslot]; rfl)
      have hstep : ∀ w' : World Core, Stepped config env (triggeredFlowId config event)
          .operatorTakeTriggered ⟨w.own.addFlow (triggeredFlowId config event)
            (.new config.libs (triggeredFlowId config event) data), w.log⟩ w' →
          w'.own.Awaits config todo := fun _ h => hadded.descends (.stepped h)
      exact wp_always completeFlowStep_steps hstep
    · exact hw

end Creation

/-! ## Calls -/

section Calls

variable {config : ProcessorConfig} {env : CallEnv}
  {todo : EventWithBlock OperatorTakeTriggered → Prop}

theorem awaiting_called (w : World Core) (entry : LogEntry) (hw : Awaiting config todo w) :
    Awaiting config todo ⟨w.own, entry :: w.log⟩ := hw

theorem keeps_cleanupTerminalFlows :
    Keeps (Awaiting config todo) (cleanupTerminalFlows env) := fun _ hw =>
  wp_mono cleanupTerminalFlows_cleans (fun _ _ h => hw.descends (.cleanedUp h)) fun _ _ h => h.elim

theorem routingRules :
    Rules config env (fun _ => True) (Awaiting config todo) where
  hashes _ hw := hw.descends (.of_under fun _ _ h => h)
  cleanup := keeps_cleanupTerminalFlows
  completed _ _ _ _ hw := wp_always completeFlowStep_steps
    fun _ h => hw.descends (.stepped h)

theorem keeps_handleRetryTick :
    Keeps (Awaiting config todo) (handleRetryTick config env) := by
  have hretry : ∀ id attempts, Keeps (Awaiting config todo)
      (retryRegistration config env id attempts) := fun _ _ _ hw =>
    wp_mono retryRegistration_retries (fun _ _ h => hw.descends (.retries h)) fun _ _ h => h.elim
  refine keeps_bind (fun _ hw => hw) fun w => ?_
  split
  · exact keeps_pure ()
  · refine keeps_bind (keeps_modify fun w hw => ?_) fun _ => keeps_forM (fun _ => hretry _ _) _
    exact hw.descends (.of_under fun _ _ h => h)

theorem keeps_markFlowFailed (id : FlowId) :
    Keeps (Awaiting config todo) (markFlowFailed config env id) := fun _ hw =>
  wp_always markFlowFailed_fails fun _ h => hw.descends (.failed h)

end Calls

/-- Under the id stands a live flow with the protocol id that the next cleanup leaves there: a live
record of a flow that is terminal in memory goes, unless the store refuses to delete it. -/
def Core.Occupied (core : Core) (env : Env) (id : FlowId) (protocolId : BitVmxProtocolId) : Prop :=
  ∃ flow, flow.isTerminal = false ∧ flow.bitvmxProtocolId = protocolId
    ∧ (core.flows.lookup id = some flow ∨ core.store.lookup id = some flow
      ∧ ((∃ flow', core.flows.lookup id = some flow' ∧ flow'.isTerminal = true) →
        DeleteRefused env id))

/-- The triggers that a call handles: without confirmations the one that arrives, else those that
have their confirmations with the block. -/
def Handles (s : System Core) (env : CallEnv) (input : Input)
    (event : EventWithBlock OperatorTakeTriggered) : Prop :=
  (match input with
    | .rskEvent e => config.requiredConfirmations = 0 ∧ e = .operatorTakeTriggered event
    | .block block => s.processor.confirming.Confirms block (.operatorTakeTriggered event)
    | _ => False)
  ∧ CanCreate config env event

/-- No trigger that the call handles is about the committee and slot of a live flow of another
transaction, and no two of them are about the same. -/
structure TriggersFresh (config : ProcessorConfig) (s : System Core) (call : CallEnv × Input) :
    Prop where
  unoccupied : ∀ event, Handles config s call.1 call.2 event → ∀ id,
    s.processor.core.Occupied call.1.toEnv id (triggeredProtocolId config event) →
    id = triggeredFlowId config event
  apart : Apart config (Handles config s call.1 call.2)

theorem cleanup_awaits {config : ProcessorConfig} {s : System Core} {call : CallEnv × Input}
    (hrouted : s.processor.core.Routed) (hfresh : TriggersFresh config s call) :
    wp (cleanupTerminalFlows call.1)
      (fun _ => Awaiting config (Handles config s call.1 call.2))
      (fun _ => Awaiting config (Handles config s call.1 call.2)) ⟨s.processor.core, []⟩ := by
  apply wp_mono cleanupTerminalFlows_cleans _ fun _ _ h => h.elim
  intro _ w h
  refine ⟨hrouted.descends (.cleanedUp h), fun event hhandles id hholds => ?_⟩
  obtain ⟨flow, hunder, hlive, hpid⟩ := hholds
  refine hfresh.unoccupied event hhandles id ⟨flow, hlive, hpid, ?_⟩
  rcases hunder with hmemory | hrecord
  · exact .inl (h.flow hmemory).1
  · obtain ⟨hold, hrefused⟩ := h.store id flow hrecord
    refine .inr ⟨hold, fun ⟨flow', hflow', hended⟩ => ?_⟩
    exact hrefused id flow' hflow' hended (hrouted.keyed id flow' (.inl hflow'))

/-- **A call.** -/
theorem step_routed {config : ProcessorConfig} (s : System Core) (call : CallEnv × Input)
    (hrouted : s.processor.core.Routed) (hfresh : TriggersFresh config s call) :
    (step config s call).processor.core.Routed := by
  obtain ⟨env, input⟩ := call
  have hfirst := cleanup_awaits hrouted hfresh
  have hevent : ∀ event, (∀ e, event = .operatorTakeTriggered e → CanCreate config env e →
      Handles config s env input e) →
      Keeps (Awaiting config (Handles config s env input))
        (processConfirmedRskEvent config env event) := by
    intro event htodo
    refine routingRules.keeps_processConfirmedRskEvent (fun _ _ => trivial) fun e he => ?_
    exact keeps_createFlow hfresh.apart (htodo e he)
  have hcall : ∀ {program : Program Processor Unit},
      wp program (fun _ => Carried (Awaiting config (Handles config s env input)) fun _ => True)
        (fun _ => Carried (Awaiting config (Handles config s env input)) fun _ => True)
        ⟨s.processor, []⟩ → (s.call program).processor.core.Routed := by
    intro program hprogram
    refine System.call_of_wp (Q := fun s' => Core.Routed s'.processor.core) (fun _ => hrouted)
      fun _ => ?_
    exact wp_always hprogram fun _ h => h.1.routed
  cases input with
  | block block =>
    refine hcall (wp_processNewBlock awaiting_called (fun _ _ => trivial)
      (fun _ _ => trivial) hfirst (fun _ h => h) keeps_cleanupTerminalFlows
      (fun event hconfirms => hevent event ?_) keeps_handleRetryTick)
    rintro e rfl hcan
    exact ⟨hconfirms, hcan⟩
  | rskEvent event =>
    refine hcall (wp_processNewRskEvent awaiting_called (fun _ _ => trivial)
      (fun _ _ => trivial) hfirst fun hzero => hevent event ?_)
    rintro e rfl hcan
    exact ⟨⟨hzero, rfl⟩, hcan⟩
  | bitvmxEvent event =>
    exact hcall (wp_processNewBitvmxEvent awaiting_called (fun _ _ => trivial)
      (fun _ _ => trivial) hfirst
      (leads_handleBitvmxEvent (fun _ h => h) (fun _ _ => routingRules.completed _ trivial)
        (fun _ _ _ => routingRules.completed _ trivial) event))
  | userRequest request =>
    exact hcall (wp_processUserRequest awaiting_called (fun _ _ => trivial)
      (fun _ _ => trivial) hfirst
      (routingRules.keeps_handleUserRequest keeps_markFlowFailed request))
  | restart =>
    exact (hrouted.descends (hrouted.keyed.load _)).descends (descends_rearmPendingRetries config _)

/-! ## Runs -/

theorem flowByProtocolId_routes {env : CallEnv} {w : World Core} (hrouted : w.own.Routed)
    (hlive : ∀ id flow, w.own.flows.lookup id = some flow → flow.isTerminal = false)
    (target : BitVmxProtocolId) (violation : String) :
    wp (flowByProtocolId env target violation) (fun _ _ => True) (fun _ _ => False) w := by
  let entries := w.own.flows.inOrder (env.rank w.log .flows)
  have hholds : ∀ entry ∈ entries.filter fun e => e.2.bitvmxProtocolId = target,
      w.own.Holds entry.1 target := by
    intro entry hentry
    obtain ⟨hmem, hpid⟩ := List.mem_filter.mp hentry
    have hflow := Table.mem_inOrder.mp hmem
    exact ⟨entry.2, .inl hflow, hlive _ _ hflow, by simpa using hpid⟩
  have hnodup : ((entries.filter fun e => e.2.bitvmxProtocolId = target).map (·.1)).Nodup :=
    Table.nodup_filter_inOrder
  have hmap : (entries.map (·.2)).filter (fun flow => flow.bitvmxProtocolId = target)
      = (entries.filter fun e => e.2.bitvmxProtocolId = target).map (·.2) := List.filter_map
  simp only [flowByProtocolId, wp_bind, wp_get]
  rw [hmap]
  generalize (entries.filter fun e => e.2.bitvmxProtocolId = target) = found at hholds hnodup
  rcases found with _ | ⟨first, _ | ⟨second, rest⟩⟩
  · trivial
  · trivial
  · -- two of them would stand under one id
    have hsame : first.1 = second.1 := hrouted.unique _ _ target
      (hholds first List.mem_cons_self)
      (hholds second (List.mem_cons_of_mem _ List.mem_cons_self))
    exact absurd (List.mem_map.mpr ⟨second, List.mem_cons_self, hsame.symm⟩)
      (List.nodup_cons.mp hnodup).1

/-- No two live flows hold one protocol id, and a message that is routed by committee and slot,
which happens after a cleanup, is not refused. -/
structure Core.Unambiguous (config : ProcessorConfig) (core : Core) : Prop where
  unique : ∀ id id' flow flow', core.flows.lookup id = some flow →
    core.flows.lookup id' = some flow' → flow.isTerminal = false → flow'.isTerminal = false →
    flow.bitvmxProtocolId = flow'.bitvmxProtocolId → id = id'
  routes : ∀ env committeeId slotIndex log,
    wp (do cleanupTerminalFlows env; flowByCommitteeSlot config env committeeId slotIndex)
      (fun _ _ => True) (fun _ _ => False) ⟨core, log⟩

theorem Core.Routed.unambiguous {core : Core} (h : core.Routed) (config : ProcessorConfig) :
    core.Unambiguous config where
  unique id id' flow flow' hflow hflow' hlive hlive' hpid :=
    h.unique id id' flow.bitvmxProtocolId ⟨flow, .inl hflow, hlive, rfl⟩
      ⟨flow', .inl hflow', hlive', hpid.symm⟩
  routes env committeeId slotIndex log := by
    rw [wp_bind]
    apply wp_imp cleanupTerminalFlows_cleans
    intro _ w hclean
    exact flowByProtocolId_routes (h.descends (.cleanedUp hclean))
      (fun id flow hflow => (hclean.flow hflow).2) _ _

/-- **One live flow for each protocol id**, in every run in which no trigger is about the committee
and slot of a live flow of another transaction. -/
theorem one_live_flow_per_protocol_id (config : ProcessorConfig) (inputs : List (CallEnv × Input))
    (hfresh : Machine.Allowed (step config) (TriggersFresh config) start inputs) :
    (Machine.run (step config) start inputs).processor.core.Unambiguous config := by
  have hnone : ∀ id flow, ¬ start.processor.core.Under id flow := by
    rintro id flow (h | h)
    · cases h
    · cases h
  have hempty : start.processor.core.Routed :=
    ⟨fun id flow h => absurd h (hnone id flow), fun id _ _ ⟨flow, h, _⟩ => absurd h (hnone id flow)⟩
  have hrouted := Machine.run_invariant (fun s : System Core => s.processor.core.Routed) step_routed
    hempty hfresh
  exact hrouted.unambiguous config

/-! A take is triggered, and triggered again in another transaction. -/

theorem triggersFresh_of_empty {config : ProcessorConfig} {s : System Core} {env : CallEnv}
    {event : RskPegManagerEvents} (hflows : s.processor.core.flows.entries = [])
    (hstore : s.processor.core.store.entries = []) :
    TriggersFresh config s (env, .rskEvent event) where
  unoccupied e _ id hoccupied := by
    obtain ⟨flow, -, -, hmemory | ⟨hrecord, -⟩⟩ := hoccupied
    · have hmem := AList.mem_lookup_iff.mp hmemory
      rw [hflows] at hmem
      cases hmem
    · have hmem := AList.mem_lookup_iff.mp hrecord
      rw [hstore] at hmem
      cases hmem
  apart e e' he he' _ := by
    cases he.1.2.symm.trans he'.1.2
    rfl

theorem triggersFresh_of_userRequest {config : ProcessorConfig} (s : System Core) (env : CallEnv)
    (request : UserRequests) : TriggersFresh config s (env, .userRequest request) :=
  ⟨fun _ h => h.1.elim, fun _ _ h => h.1.elim⟩

/-- The first take was failed by hand before the second transaction. -/
def retriggeredInputs : List (CallEnv × Input) :=
  callsIn (Env.failing fun _ _ => false)
    [sampleTriggered 5, .userRequest (.failFlow .advanceFunds (sampleFlowId 5)), sampleTriggered 6]

theorem one_live_flow_retriggered :
    ((Machine.run (step sampleProcessorConfig) start retriggeredInputs).processor.core.flows.lookup
        (sampleFlowId 6)).isSome = true
      ∧ (Machine.run (step sampleProcessorConfig) start
        retriggeredInputs).processor.core.Unambiguous sampleProcessorConfig := by
  refine ⟨by decide +kernel, one_live_flow_per_protocol_id _ _ ⟨?_, ?_, ?_, trivial⟩⟩
  · exact triggersFresh_of_empty rfl rfl
  · exact triggersFresh_of_userRequest _ _ _
  · exact triggersFresh_of_empty (by decide +kernel) (by decide +kernel)

/-- The first take is live when the second transaction comes. -/
def doubledInputs : List (CallEnv × Input) :=
  callsIn (Env.failing fun _ _ => false) [sampleTriggered 5, sampleTriggered 6]

/-- Two live flows hold one protocol id, and a message for their committee and slot is refused. -/
theorem doubled_trigger_breaks_routing :
    let core := (Machine.run (step sampleProcessorConfig) start doubledInputs).processor.core
    sampleFlowId 5 ≠ sampleFlowId 6
      ∧ (∀ id ∈ [sampleFlowId 5, sampleFlowId 6], (core.flows.lookup id).any fun flow =>
        !flow.isTerminal && flow.bitvmxProtocolId = advanceFundsProtocolId sampleLibs 7 0)
      ∧ (flowByCommitteeSlot sampleProcessorConfig (.plain (Env.failing fun _ _ => false)) 7 0).run'
        ⟨core, []⟩ = none := by
  decide +kernel

end UnionBridge.AdvanceFunds
