import UnionBridge.Lib.UniqueTags
import UnionBridge.Pegin.Ownership
import UnionBridge.Pegout.Changes

/-!
# Flows and the protocol ids of BitVMX

Messages of BitVMX are routed by protocol id. Both processors refuse to give a flow an id that
another flow holds. The store escapes this check: a terminal flow whose record could not be deleted
leaves memory, another flow gets its id, and the next start brings the first one back.
-/

/-! ## Pegins -/

namespace UnionBridge.Pegin

open Chain Contracts Bitvmx Coordinator Effect

def Deletes (env : Env) : Prop :=
  ∀ log id text, env.answer log (.deleteFlow (.peginFlow id)) ≠ .error text

def State.protocolId (s : State) : Option BitVmxProtocolId := s.ctx.bitvmxProtocolId

def Core.Routed (core : Core) : Prop :=
  UniqueTags State.protocolId (core.peginFlows.lookup ·) (core.store.lookup ·)

section Transitions

variable {libs : Libs} {data : StepData} {f f₁ f' : Flow} {next : Option Steps}

theorem Stored.protocolId (h : Stored libs f data f₁ next)
    (hdata : ∀ event, data ≠ .peginRequested event) : f₁.state.protocolId = f.state.protocolId := by
  cases h
  case requested event _ => exact absurd rfl (hdata event)
  all_goals rfl

theorem Entered.protocolId {step : Steps} (h : Entered step f f') :
    f'.state.protocolId = f.state.protocolId := by
  obtain ⟨output, role, hctx⟩ := h.ctx
  unfold State.protocolId
  rw [hctx]

theorem Entered.keepsId {step : Steps} (h : Entered step f f') :
    f'.state.protocolId = f.state.protocolId
      ∧ ∀ r, f'.saved = some r → f.saved = some r ∨ r.protocolId = f.state.protocolId := by
  refine ⟨h.protocolId, fun r hr => ?_⟩
  rcases h.saved with hsaved | hsaved
  · exact .inl (hsaved ▸ hr)
  · cases hsaved.symm.trans hr
    exact .inr h.protocolId

theorem Completed.protocolId (h : Completed libs data f f')
    (hdata : ∀ event, data ≠ .peginRequested event) :
    f'.state.protocolId = f.state.protocolId
      ∧ ∀ r, f'.saved = some r → f.saved = some r ∨ r.protocolId = f.state.protocolId := by
  have hrecord : ∀ {f₁ : Flow} {next : Option Steps}, Stored libs f data f₁ next → ∀ r,
      f₁.saved = some r → f.saved = some r ∨ r.protocolId = f.state.protocolId := by
    intro f₁ next h r hr
    rcases h.frame.2.2.2 with hsaved | ⟨hsaved, -⟩
    · exact .inl (hsaved ▸ hr)
    · cases hsaved.symm.trans hr
      exact .inr (h.protocolId hdata)
  cases h with
  | stopped h => exact ⟨h.protocolId hdata, hrecord h⟩
  | entered next f₁ h hentered =>
    obtain ⟨hid, hsaved⟩ := hentered.keepsId
    rw [h.protocolId hdata] at hid hsaved
    exact ⟨hid, fun r hr => (hsaved r hr).elim (hrecord h r) .inr⟩

/-- The data of a `PeginRequested` event: the flow gets the id of its slot, unless they are rejected.
The record is the old one, or that of the new state. -/
theorem Completed.requested {event : PeginRequested}
    (h : Completed libs (.peginRequested event) f f') :
    f' = f ∨ f.state.ctx.step = .waitPeginRequested
      ∧ f'.state.protocolId
        = some (acceptPeginProtocolId libs event.committeeId event.streamPosition.slotId)
      ∧ (f'.saved = f.saved ∨ f'.saved = some f'.state) := by
  cases h with
  | stopped h =>
    cases h
    exact .inl rfl
  | entered next f₁ h hentered =>
    cases h with
    | requested event hstep => exact .inr ⟨hstep, hentered.protocolId, hentered.saved⟩

end Transitions

section Changes

variable {config : ProcessorConfig} {env : CallEnv} {w : World Core}

theorem lookup_putSaved (core : Core) (id : FlowId) (saved : Option State) :
    (core.putSaved id saved).store.lookup id = saved := by
  unfold Core.putSaved
  split
  · exact AList.lookup_insert _
  · exact AList.lookup_erase _ _

theorem lookup_putSaved_ne (core : Core) {id other : FlowId} {saved : Option State}
    (hne : other ≠ id) :
    (core.putSaved id saved).store.lookup other = core.store.lookup other := by
  unfold Core.putSaved
  split
  · exact AList.lookup_insert_ne hne
  · exact AList.lookup_erase_ne hne

theorem Core.Routed.putFlow {core : Core} (h : core.Routed) {id : FlowId} {flow : State} {t : Flow}
    (hlookup : core.peginFlows.lookup id = some flow)
    (hid : t.state.protocolId = flow.protocolId)
    (hrecord : ∀ r, t.saved = some r → core.store.lookup id = some r
      ∨ r.protocolId = flow.protocolId) : (core.putFlow id t).Routed := by
  refine UniqueTags.change h hlookup (AList.lookup_insert _) hid
    (fun _ hne => AList.lookup_insert_ne hne) (fun _ hne => lookup_putSaved_ne core hne) ?_
  intro r hr
  exact hrecord r ((lookup_putSaved core id t.saved).symm.trans hr)

theorem routed_onFlow {α : Type} {m : FlowM α} {id : FlowId} {flow : State} (hw : w.own.Routed)
    (hlookup : w.own.peginFlows.lookup id = some flow)
    (hm : wp m
      (fun _ t => t.own.state.protocolId = flow.protocolId ∧ ∀ r, t.own.saved = some r →
        w.own.store.lookup id = some r ∨ r.protocolId = flow.protocolId)
      (fun _ t => t.own.state.protocolId = flow.protocolId ∧ ∀ r, t.own.saved = some r →
        w.own.store.lookup id = some r ∨ r.protocolId = flow.protocolId)
      ⟨⟨flow, w.own.store.lookup id⟩, w.log⟩) :
    wp (onFlow id flow m) (fun _ w' => w'.own.Routed) (fun _ w' => w'.own.Routed) w := by
  rw [onFlow, wp_zoom]
  exact wp_always hm fun _ ht => hw.putFlow hlookup ht.1 ht.2

theorem routed_found (txId : Txid) :
    Keeps (fun w => w.own.Routed) (handlePeginTransactionFound config env txId) := by
  intro w hw
  simp only [handlePeginTransactionFound, onNewFlow, wp_bind, wp_get, wp_ite, wp_pure, wp_zoom,
    wp_modifyCore]
  split
  · exact hw
  next hnew =>
  have habsent : w.own.peginFlows.lookup (flowIdFromRequestPeginTxid config.libs txId) = none := by
    simpa using (not_or.mp hnew).2
  have hrecord : ∀ {f : Flow}, Completed config.libs .peginTransactionFound
      ⟨State.new txId (flowIdFromRequestPeginTxid config.libs txId),
        w.own.store.lookup (flowIdFromRequestPeginTxid config.libs txId)⟩ f →
      f.state.protocolId = none ∧ ∀ r, f.saved = some r →
        w.own.store.lookup (flowIdFromRequestPeginTxid config.libs txId) = some r
        ∨ r.protocolId = none := fun h => h.protocolId fun _ heq => by cases heq
  apply wp_mono (completeStep_succeeds .peginTransactionFound)
  · intro _ t ht
    obtain ⟨hid, hsaved⟩ := hrecord ht.completed
    refine UniqueTags.put hw (AList.lookup_insert _) (fun _ hne => AList.lookup_insert_ne hne)
      (fun _ hne => lookup_putSaved_ne w.own hne) (fun tag htag => ?_) fun r tag hr htag => ?_
    · cases hid.symm.trans htag
    · rcases hsaved r ((lookup_putSaved w.own _ t.own.saved).symm.trans hr) with hold | hnone
      · -- an id in the old record would be that of a flow in memory
        obtain ⟨flow, hflow, -⟩ := UniqueTags.known hw hold htag
        cases habsent.symm.trans hflow
      · cases hnone.symm.trans htag
  · intro _ t ht
    obtain ⟨-, hsaved⟩ := hrecord ht
    refine UniqueTags.recorded hw fun id r hr => ?_
    by_cases hid : id = flowIdFromRequestPeginTxid config.libs txId
    · subst hid
      exact hsaved r ((lookup_putSaved w.own _ t.own.saved).symm.trans hr)
    · exact .inl ((lookup_putSaved_ne w.own hid).symm.trans hr)

theorem deleteFlows_deletes (henv : Deletes env.toEnv) (terminal : List (FlowId × State)) :
    wp (terminal.forM fun entry => deleteFlow env entry.1)
      (fun _ w' => w'.own.peginFlows = w.own.peginFlows
        ∧ ∀ id r, w'.own.store.lookup id = some r →
          w.own.store.lookup id = some r ∧ id ∉ terminal.map (·.1))
      (fun _ _ => False) w := by
  induction terminal generalizing w with
  | nil => exact ⟨rfl, fun _ _ hr => ⟨hr, nofun⟩⟩
  | cons entry terminal ih =>
    show wp (deleteFlow env entry.1 >>= fun _ => terminal.forM _) _ _ _
    simp only [deleteFlow, wp_bind, wp_perform]
    split
    · rw [wp_modifyCore]
      apply wp_imp ih
      rintro _ w' ⟨hflows, hstore⟩
      refine ⟨hflows, fun id r hr => ?_⟩
      obtain ⟨hr, hnot⟩ := hstore id r hr
      obtain ⟨hne, hr⟩ := Table.lookup_erase_eq_some.mp hr
      exact ⟨hr, List.not_mem_cons_of_ne_of_not_mem hne hnot⟩
    · next text hrefused => exact absurd hrefused (henv _ _ _)

theorem routed_cleanup (henv : Deletes env.toEnv) :
    Keeps (fun w => w.own.Routed) (cleanupTerminalFlows config env) := by
  intro w hw
  simp only [cleanupTerminalFlows, wp_bind, wp_get, wp_modifyCore]
  have hforgets := forgetFlows_forgets config.libs
    (w.own.terminalFlows (env.rank w.log .flows)) w.own
  apply wp_mono (deleteFlows_deletes henv _) _ fun _ _ h => h.elim
  rintro _ w' ⟨hflows, hstore⟩
  have hflows : w'.own.peginFlows = w.own.peginFlows := hflows.trans hforgets.flows
  have hlookup : ∀ id, ({ w'.own with
      peginFlows := w'.own.peginFlows.retain fun _ flow => !flow.isTerminal } : Core).peginFlows.lookup
        id = (w.own.peginFlows.lookup id).filter fun flow => !flow.isTerminal := by
    intro id
    rw [← hflows]
    exact Table.lookup_retain
  refine UniqueTags.drop hw (fun id flow hflow => ?_) fun id r hr => ?_
  · exact (Option.filter_eq_some_iff.mp ((hlookup id).symm.trans hflow)).1
  · obtain ⟨hr, hnot⟩ := hstore id r hr
    rw [hforgets.store] at hr
    refine ⟨hr, (hlookup id).trans ?_⟩
    -- a record that is left is not that of a terminal flow
    cases hflow : w.own.peginFlows.lookup id with
    | none => rfl
    | some flow =>
      refine Option.filter_eq_some_iff.mpr ⟨rfl, ?_⟩
      by_contra hterminal
      refine hnot (List.mem_map.mpr ⟨(id, flow), List.mem_filter.mpr ⟨?_, ?_⟩, rfl⟩)
      · exact Table.mem_inOrder.mpr hflow
      · simpa using hterminal

end Changes

section Rules

variable {config : ProcessorConfig} {env : CallEnv}

/-- All data but the one event that gives a flow its id. -/
def Unrequested (data : StepData) : Prop := ∀ event, data ≠ .peginRequested event

theorem routed_rules (henv : Deletes env.toEnv) :
    Rules config env Unrequested fun w => w.own.Routed where
  called _ hw := hw
  schedules _ _ _ _ hw := hw
  cleanup := routed_cleanup henv
  completed hplain hw hlookup := routed_onFlow hw hlookup
    (wp_mono (completeStep_succeeds _) (fun _ _ h => h.completed.protocolId hplain)
      fun _ _ h => h.protocolId hplain)
  polled hw hlookup := by
    refine routed_onFlow hw hlookup
      (wp_mono (wp_own_of_onlyCalls onlyCalls_requestTransactionStatus) ?_ ?_)
    all_goals
      intro _ t ht
      rw [ht]
      exact ⟨rfl, fun r hr => .inl hr⟩
  failed hw hlookup := routed_onFlow hw hlookup (wp_always markFailed_enters fun _ h => h.keepsId)
  found := routed_found
  erased _ hw := hw
  blockDelivered _ ids := keeps_forEachSubFlow (fun hw _ =>
    wp_always wp_trivial fun _ _ => hw) ids
  eventDelivered _ ids := keeps_forEachSubFlow (fun hw _ =>
    wp_always wp_trivial fun _ _ => hw) ids
  requestBuffered _ hw := hw
  requestTaken _ hw := hw
  acceptBuffered _ hw := hw
  acceptTaken _ hw := hw

theorem routed_takeRules : TakeRules env fun w => w.own.Routed where
  noted _ hw := hw
  buffered _ hw := hw
  taken _ hw := hw
  started protocolId data w hw := by
    apply wp_mono (startSubFlow_frame protocolId data)
    · rintro _ w' ⟨subFlow, hown⟩
      show w'.own.Routed
      rw [hown]
      exact hw
    · intro _ w' hown
      show w'.own.Routed
      rw [hown]
      exact hw

theorem routed_requestRules : RequestRules fun w => w.own.Routed := ⟨fun _ hw => hw, fun _ _ hw => hw⟩

theorem flowProperty_formed {plain : StepData → Prop} (hfound : plain .peginTransactionFound) :
    FlowProperty config env plain fun id _ flow => flow.Formed config.libs id where
  calls _ _ _ _ _ h := h
  keyed h := h.flowId
  new _ txid := .new _ _
  found := hfound
  completed _ w hw := by
    have hformed : Flow.Formed config.libs _ w.own := ⟨hw.memory, hw.record⟩
    apply wp_mono (completeStep_succeeds _)
    · intro _ w' h
      exact ⟨(h.completed.formed hformed).memory, (h.completed.formed hformed).record⟩
    · intro _ w' h
      exact ⟨(h.formed hformed).memory, (h.formed hformed).record⟩
  failed w hw := by
    have hformed : Flow.Formed config.libs _ w.own := ⟨hw.memory, hw.record⟩
    have hend : ∀ w' : World Flow, Entered .failed w.own w'.own →
        HasProperty (fun id _ flow => State.Formed config.libs id flow) _ w' := fun w' h =>
      ⟨(h.failed_formed hformed).memory, (h.failed_formed hformed).record⟩
    exact wp_always markFailed_enters hend

/-- What holds of the core: formed flows with ids of their own. -/
def FormedAndRouted (libs : Libs) (w : World Core) : Prop :=
  Upholds (fun id _ flow => flow.Formed libs id) w ∧ w.own.Routed

/-- **The one event that gives a flow its id.** The check is made before the flow takes it. -/
theorem formedAndRouted_requested (pr : EventWithBlock PeginRequested) :
    Keeps (FormedAndRouted config.libs) (handlePeginRequested config env pr) := by
  have hformed : FlowProperty config env (fun _ => True) fun id _ flow =>
      flow.Formed config.libs id := flowProperty_formed trivial
  intro w hw
  refine wp_and (hformed.rules.keeps_handlePeginRequested trivial w hw.1) ?_
  simp only [handlePeginRequested, wp_bind, wp_get, wp_ite, wp_modifyCore]
  split
  · exact hw.2
  simp only [createFlowForPeginRequested, wp_ite, wp_bind, wp_ensure, wp_get, wp_pure]
  split
  · exact hw.2
  apply wp_findFlow
  · intro hfree
    simp only [Option.isNone_none, if_true]
    split
    · next flow hlookup =>
      have hput : ∀ t : World Flow, Completed config.libs (.peginRequested pr.inner)
          ⟨flow, w.own.store.lookup (flowIdFromRequestPeginTxid config.libs
            (TxIdParser.fb32ToTxid pr.inner.requestPeginTxid))⟩ t.own →
          (w.own.putFlow (flowIdFromRequestPeginTxid config.libs
            (TxIdParser.fb32ToTxid pr.inner.requestPeginTxid)) t.own).Routed := by
        intro t ht
        rcases ht.requested with hsame | ⟨hstep, hid, hsaved⟩
        · rw [hsame]
          exact hw.2.putFlow hlookup rfl fun r hr => .inl hr
        -- the flow had no id before, and so its record has none
        have hnone : flow.protocolId = none := by
          have hdata := (hw.1.flows _ _ hlookup).data
          have hpaired := hdata.paired
          rw [hdata.early (by rw [hstep]; decide)] at hpaired
          simpa [State.protocolId] using hpaired
        refine UniqueTags.put hw.2 (AList.lookup_insert _) (fun _ hne => AList.lookup_insert_ne hne)
          (fun _ hne => lookup_putSaved_ne w.own hne) (fun tag htag id' flow' hflow' htag' => ?_)
          fun r tag hr htag => ?_
        · by_contra hne
          have htaken := hfree id' flow' hflow'
          rw [← Option.some.inj (hid.symm.trans htag)] at htag'
          simp only [ne_eq, decide_eq_false_iff_not, not_and] at htaken
          exact htaken hne htag'
        · have hr := (lookup_putSaved w.own _ t.own.saved).symm.trans hr
          rcases hsaved with hsaved | hsaved
          · obtain ⟨flow', hflow', htag'⟩ := UniqueTags.known hw.2 (hsaved.symm.trans hr) htag
            cases hlookup.symm.trans hflow'
            cases hnone.symm.trans htag'
          · cases hsaved.symm.trans hr
            exact htag
      rw [completeFlowStep, onFlow, wp_zoom]
      exact wp_mono (completeStep_succeeds _) (fun _ t ht => hput t ht.completed)
        fun _ t ht => hput t ht
    · exact hw.2
  · intro id flow _ _
    exact hw.2

theorem handlers_formedAndRouted (henv : Deletes env.toEnv) :
    Handlers config env (FormedAndRouted config.libs) Core.Tables := by
  have hformed : FlowProperty config env Unrequested fun id _ flow =>
      flow.Formed config.libs id := flowProperty_formed fun _ heq => nomatch heq
  exact (hformed.rules.and (routed_rules henv)).handlers (fun _ h => h) formedAndRouted_requested
    (hformed.takeRules.and routed_takeRules) (upholds_requestRules.and routed_requestRules)
    fun hw => hw.1.tables

end Rules

section Runs

variable {config : ProcessorConfig} {env : CallEnv}

theorem restart_flows (config : ProcessorConfig) (env : CallEnv) (p : Processor) :
    (Processor.restart config env p).core.peginFlows = p.core.store.rekey State.flowId
      ∧ (Processor.restart config env p).core.store = p.core.store := by
  unfold Processor.restart
  dsimp only
  split
  · next saved confirming _ =>
    have hr := reconstruct_reschedules config (env.rank [] .flows)
      (p.core.load.applyProcessorState saved)
    exact ⟨hr.flows, hr.store⟩
  · have hr := reconstruct_reschedules config (env.rank [] .flows) p.core.load
    exact ⟨hr.flows, hr.store⟩

theorem Core.Routed.restart {p : Processor} (h : p.core.Routed)
    (hkeyed : ∀ id flow, p.core.store.lookup id = some flow → flow.flowId = id) :
    (Processor.restart config env p).core.Routed := by
  obtain ⟨hflows, hstore⟩ := restart_flows config env p
  unfold Core.Routed
  rw [hflows, hstore]
  have hsame : (fun id => (p.core.store.rekey State.flowId).lookup id)
      = fun id => p.core.store.lookup id := funext fun id => Table.lookup_rekey_of_keyed hkeyed
  rw [hsame]
  exact UniqueTags.load h

/-- **One step**, in which no record could not be deleted. -/
theorem routed_step (henv : Deletes env.toEnv) {s : System Core}
    (h : SystemUpholds (fun id _ flow => flow.Formed config.libs id) s
      ∧ s.processor.core.Routed) (input : Input) :
    SystemUpholds (fun id _ flow => flow.Formed config.libs id) (step config s (env, input))
      ∧ (step config s (env, input)).processor.core.Routed := by
  have hhandlers : Handlers config env (FormedAndRouted config.libs) Core.Tables :=
    handlers_formedAndRouted henv
  have hkeyed : ∀ id (_ : Contracts.Log) (flow : State), flow.Formed config.libs id →
      flow.flowId = id := fun _ _ _ hflow => hflow.flowId
  have hr : Upholds (fun id _ flow => State.Formed config.libs id flow)
      ⟨(Processor.restart config env (Processor.begin s.processor)).core, []⟩ :=
    Upholds.restart hkeyed ⟨h.1.flows, h.1.store, (fun _ _ hs => nomatch hs), h.1.tables⟩ h.1.saved
  have hrouted : (Processor.restart config env s.processor).core.Routed :=
    h.2.restart fun id flow hflow => (h.1.store id flow hflow).flowId
  obtain ⟨log, -, hcore, hsaved⟩ := hhandlers.step_keeps (s := s)
    ⟨⟨h.1.flows, h.1.store, (fun _ _ hs => nomatch hs), h.1.tables⟩, h.2⟩ h.1.saved
    ⟨⟨hr.flows, hr.store, (fun _ _ hs => nomatch hs), hr.tables⟩, hrouted⟩ input
  exact ⟨⟨hcore.1.flows, hcore.1.store, hcore.1.tables, hsaved⟩, hcore.2⟩

/-- In every run in which no record could not be deleted, no two flows hold the same id. -/
theorem routed_run {inputs : List (CallEnv × Input)} (hdeletes : ∀ i ∈ inputs, Deletes i.1.toEnv) :
    (Machine.run (step config) start inputs).processor.core.Routed := by
  have hallowed : Machine.Allowed (step config) (fun _ i => Deletes i.1.toEnv) start inputs :=
    Machine.allowed_of_forall hdeletes
  have hinv := Machine.run_invariant
    (fun s : System Core => SystemUpholds (fun id _ flow => flow.Formed config.libs id) s
      ∧ s.processor.core.Routed)
    (fun s i hs hi => routed_step hi hs i.2)
    ⟨systemUpholds_start, ⟨(fun h => nomatch h), fun h => nomatch h⟩⟩ hallowed
  exact hinv.2

end Runs

end UnionBridge.Pegin

/-! ## Pegouts -/

namespace UnionBridge.Pegout

open Chain Contracts Bitvmx Coordinator Effect

def State.protocolId (s : State) : Option BitVmxProtocolId := some s.ctx.bitvmxProtocolId

/-- No two flows hold the same protocol id, and each one stands under its own key. -/
structure Core.Routed (core : Core) : Prop where
  keyed : ∀ id flow, core.pegoutFlows.lookup id = some flow → flow.flowId = id
  storeKeyed : ∀ id flow, core.store.lookup id = some flow → flow.flowId = id
  unique : UniqueTags State.protocolId (core.pegoutFlows.lookup ·) (core.store.lookup ·)

section Rules

variable {config : ProcessorConfig} {env : PegoutEnv} {w w' : World Core}

theorem Core.Routed.ran {id : FlowId} {flow : State} {next : Option Steps} (h : w.own.Routed)
    (hlookup : w.own.pegoutFlows.lookup id = some flow) (hran : Ran id flow next w w') :
    w'.own.Routed := by
  obtain ⟨flow', hflow', hkept, -, -, hstore⟩ := hran.self
  have hid : flow'.flowId = id := hkept.flowId.trans (h.keyed id flow hlookup)
  have htag : flow'.protocolId = flow.protocolId := congrArg some hkept.protocolId
  refine ⟨fun id' s hs => ?_, fun id' s hs => ?_, ?_⟩
  · by_cases heq : id' = id
    · rw [heq] at hs ⊢
      cases hflow'.symm.trans hs
      exact hid
    · exact h.keyed id' s ((hran.lookup_ne heq).symm.trans hs)
  · by_cases heq : id' = id
    · rw [heq] at hs ⊢
      rcases hstore with hstore | hstore
      · exact h.storeKeyed id s (hstore.symm.trans hs)
      · cases hstore.symm.trans hs
        exact hid
    · exact h.storeKeyed id' s ((hran.store_ne heq).symm.trans hs)
  · refine UniqueTags.change h.unique hlookup hflow' htag (fun _ => hran.lookup_ne)
      (fun _ => hran.store_ne) fun r hr => ?_
    rcases hstore with hstore | hstore
    · exact .inl (hstore.symm.trans hr)
    · cases hstore.symm.trans hr
      exact .inr htag

theorem Core.Routed.cleanedUp (henv : Deletes env.toEnv) (h : w.own.Routed)
    (hclean : CleanedUp env.toEnv w w') : w'.own.Routed := by
  have hflows : ∀ id flow, w'.own.pegoutFlows.lookup id = some flow →
      w.own.pegoutFlows.lookup id = some flow := by
    intro id flow hflow
    rw [hclean.flows, Option.filter_eq_some_iff] at hflow
    exact hflow.1
  refine ⟨fun id flow hflow => h.keyed id flow (hflows id flow hflow),
    fun id flow hflow => h.storeKeyed id flow (hclean.store id flow hflow), ?_⟩
  refine UniqueTags.drop h.unique hflows fun id r hr => ⟨hclean.store id r hr, ?_⟩
  -- a record that is left is not that of a terminal flow
  show w'.own.pegoutFlows.lookup id = w.own.pegoutFlows.lookup id
  rw [hclean.flows]
  cases hflow : w.own.pegoutFlows.lookup id with
  | none => rfl
  | some flow =>
    refine Option.filter_eq_some_iff.mpr ⟨rfl, ?_⟩
    by_contra hterminal
    have hended : w.own.ended id = true := by simpa [Core.ended, hflow] using hterminal
    cases (hclean.deleted henv id hended).symm.trans hr

theorem Core.Routed.created {event : EventWithBlock PegoutRequested} (h : w.own.Routed)
    (hcreated : Created config event w w') : w'.own.Routed := by
  cases hcreated with
  | refused store hown hstore _ =>
    rw [hown]
    refine ⟨h.keyed, fun id flow hflow => h.storeKeyed id flow ((hstore id).symm.trans hflow), ?_⟩
    exact UniqueTags.recorded h.unique fun id r hr => .inl ((hstore id).symm.trans hr)
  | added new _ hfree t hturned hsaved hcore =>
    subst hcore
    have hid : t.own.state.flowId = new.flowId := hturned.kept.flowId
    have htag : t.own.state.protocolId = new.protocolId := congrArg some hturned.kept.protocolId
    have hself : (w.own.putSaved new.flowId t.own.saved).store.lookup new.flowId
        = some t.own.state := (lookup_putSaved _ _ _).trans hsaved
    refine ⟨fun id flow hflow => ?_, fun id flow hflow => ?_, ?_⟩
    · rcases Table.lookup_insert_eq_some.mp hflow with ⟨rfl, rfl⟩ | ⟨-, hflow⟩
      · exact hid
      · exact h.keyed id flow hflow
    · by_cases heq : id = new.flowId
      · subst heq
        cases hself.symm.trans hflow
        exact hid
      · exact h.storeKeyed id flow ((lookup_putSaved_ne w.own heq).symm.trans hflow)
    · refine UniqueTags.put h.unique (AList.lookup_insert _) (fun _ hne => AList.lookup_insert_ne hne)
        (fun _ hne => lookup_putSaved_ne w.own hne) (fun tag ht id' flow' hflow' ht' => ?_)
        fun r tag hr ht => ?_
      · rw [htag, ← ht'] at ht
        exact absurd (Option.some.inj ht).symm (hfree id' flow' hflow')
      · cases hself.symm.trans hr
        exact ht

theorem handlers_routed (henv : Deletes env.toEnv) : Handlers config env fun w => w.own.Routed := by
  have hrules : FlowRules config env (fun _ => True) fun w => w.own.Routed := {
    subFlows := fun _ _ _ hw => ⟨hw.keyed, hw.storeKeyed, hw.unique⟩
    schedules := fun _ _ _ hw => ⟨hw.keyed, hw.storeKeyed, hw.unique⟩
    ran := fun hw hlookup hran _ => hw.ran hlookup hran
    cleanedUp := Core.Routed.cleanedUp henv
    created := Core.Routed.created }
  have hignores : IgnoresTimeouts fun w => w.own.Routed :=
    fun _ _ _ hw => ⟨hw.keyed, hw.storeKeyed, hw.unique⟩
  have htimeouts := hrules.rules.timeoutRules (fun _ _ => trivial) hignores
    fun event => hrules.rules.keeps_handlePegoutRegistered
      (fun _ hw => ⟨hw.keyed, hw.storeKeyed, hw.unique⟩) event trivial
  exact hrules.rules.handlers htimeouts (fun _ => trivial) (fun _ => trivial) (fun _ => trivial)
    trivial
    (fun _ _ _ hw hlookup => wp_always markFailed_runs fun _ hran => hw.ran hlookup hran)
    (hrules.keeps_reconstruct hignores)

end Rules

theorem Core.Routed.load {p : Processor} (h : p.core.Routed) : (Processor.load p).core.Routed := by
  have hsame : ∀ id, (Processor.load p).core.pegoutFlows.lookup id = p.core.store.lookup id := by
    intro id
    rw [load_pegoutFlows]
    exact Table.lookup_rekey_of_keyed h.storeKeyed
  refine ⟨fun id flow hflow => h.storeKeyed id flow ((hsame id).symm.trans hflow), ?_, ?_⟩
  · rw [load_store]
    exact h.storeKeyed
  · rw [funext hsame, load_store]
    exact UniqueTags.load h.unique

/-- In every run in which no record could not be deleted, no two flows hold the same id. -/
theorem routed_run {config : ProcessorConfig} {inputs : List (PegoutEnv × Input)}
    (hdeletes : ∀ i ∈ inputs, Deletes i.1.toEnv) :
    (Machine.run (step config) start inputs).processor.core.Routed := by
  have hallowed : Machine.Allowed (step config) (fun _ i => Deletes i.1.toEnv) start inputs :=
    Machine.allowed_of_forall hdeletes
  refine Machine.run_invariant (fun s : System Core => s.processor.core.Routed) ?_ ?_ hallowed
  · rintro s ⟨env, input⟩ hs henv
    have hhandlers : Handlers config env fun w => w.own.Routed := handlers_routed henv
    have hload := hs.load
    obtain ⟨_, -, hs'⟩ := step_keeps hhandlers ⟨hs.keyed, hs.storeKeyed, hs.unique⟩
      ⟨hload.keyed, hload.storeKeyed, hload.unique⟩ input
    exact hs'
  · exact ⟨(fun _ _ h => nomatch h), (fun _ _ h => nomatch h), (fun h => nomatch h),
      fun h => nomatch h⟩

end UnionBridge.Pegout

/-! ## Both processors -/

namespace UnionBridge.Node

open Chain Contracts Bitvmx Coordinator

/-- **Protocol ids are unambiguous.** In every run of the two processors, with restarts and any other
failure, in which every record that is to be deleted is deleted, two flows of one processor never
hold the same protocol id. -/
theorem protocol_ids_unique (peginConfig : Pegin.ProcessorConfig)
    (peginInputs : List (CallEnv × Pegin.Input))
    (hpegin : ∀ i ∈ peginInputs, Pegin.Deletes i.1.toEnv) (pegoutConfig : Pegout.ProcessorConfig)
    (pegoutInputs : List (Pegout.PegoutEnv × Pegout.Input))
    (hpegout : ∀ i ∈ pegoutInputs, Pegout.Deletes i.1.toEnv) :
    let pegins := (Machine.run (Pegin.step peginConfig) Pegin.start peginInputs).processor.core
    let pegouts := (Machine.run (Pegout.step pegoutConfig) Pegout.start pegoutInputs).processor.core
    (∀ id id' flow flow' pid, pegins.peginFlows.lookup id = some flow →
        pegins.peginFlows.lookup id' = some flow' → flow.ctx.bitvmxProtocolId = some pid →
        flow'.ctx.bitvmxProtocolId = some pid → id = id')
      ∧ ∀ id id' flow flow', pegouts.pegoutFlows.lookup id = some flow →
        pegouts.pegoutFlows.lookup id' = some flow' →
        flow.ctx.bitvmxProtocolId = flow'.ctx.bitvmxProtocolId → id = id' := by
  intro pegins pegouts
  have hpegins : pegins.Routed := Pegin.routed_run hpegin
  have hpegouts : pegouts.Routed := Pegout.routed_run hpegout
  refine ⟨fun id id' flow flow' pid hflow hflow' hpid hpid' => ?_,
    fun id id' flow flow' hflow hflow' hsame => ?_⟩
  · exact UniqueTags.apart hpegins hflow hflow' hpid hpid'
  · exact UniqueTags.apart hpegouts.unique hflow hflow' rfl (congrArg some hsame.symm)

/-- Flows with requests for the same slot of a committee, or the same transaction, are one flow. -/
def OnePerSlot (flows : Table FlowId Pegin.State) : Prop :=
  ∀ id id' flow flow' event event', flows.lookup id = some flow → flows.lookup id' = some flow' →
    flow.ctx.peginRequested = some event → flow'.ctx.peginRequested = some event' →
    (event.committeeId = event'.committeeId
      ∧ event.streamPosition.slotId = event'.streamPosition.slotId)
    ∨ event.requestPeginTxid = event'.requestPeginTxid → id = id'

/-- **One pegin for a slot**, in every run in which no record could not be deleted. -/
theorem one_pegin_per_slot (config : Pegin.ProcessorConfig) (inputs : List (CallEnv × Pegin.Input))
    (hdeletes : ∀ i ∈ inputs, Pegin.Deletes i.1.toEnv) :
    OnePerSlot (Machine.run (Pegin.step config) Pegin.start inputs).processor.core.peginFlows := by
  intro id id' flow flow' event event' hflow hflow' hevent hevent' hsame
  have howned : Pegin.SystemUpholds (Pegin.Owned config.libs) _ := Pegin.owned_run inputs
  obtain ⟨hid, hpid⟩ := (howned.flows id flow hflow).2 event hevent
  obtain ⟨hid', hpid'⟩ := (howned.flows id' flow' hflow').2 event' hevent'
  rcases hsame with ⟨hcommittee, hslot⟩ | htxid
  · rw [← hcommittee, ← hslot] at hpid'
    exact UniqueTags.apart (Pegin.routed_run hdeletes) hflow hflow' hpid hpid'
  · rw [← hid, ← hid', htxid]

/-- The messages and the event after which a pegin holds the id of slot 0. -/
def requestedPegin (id : UInt32) : List Pegin.Input :=
  let txid : Txid := ⟨BitVec.ofNat 256 id.toNat⟩
  [.bitvmxEvent (.peginTransactionFound txid),
    .bitvmxEvent (.spvProof txid (some (Pegin.sampleProof "aa" id))),
    .rskEvent (.peginRequested (Pegin.logIn 1 1 (Pegin.samplePeginRequested 7 txid.value 9)))]

def requestedPegout (slotId : UInt64) (txHash : TxHash) : Pegout.Input :=
  .rskEvent (.pegoutRequested (Pegout.sampleRequest slotId txHash))

/-- Two pegins for one slot, the second of which is refused, and two pegouts. -/
theorem protocol_ids_unique_obliging :
    let peginInputs := (requestedPegin 1 ++ requestedPegin 2).map fun i => (Pegin.obliging, i)
    let pegoutInputs := Pegout.callsIn (.failing fun _ => false)
      [requestedPegout 0 1, requestedPegout 1 2]
    let pegins := (Machine.run (Pegin.step (Pegin.sampleProcessorConfig 0)) Pegin.start
      peginInputs).processor.core
    let pegouts := (Machine.run (Pegout.step Pegout.sampleProcessorConfig) Pegout.start
      pegoutInputs).processor.core
    (∀ id id' flow flow' pid, pegins.peginFlows.lookup id = some flow →
        pegins.peginFlows.lookup id' = some flow' → flow.ctx.bitvmxProtocolId = some pid →
        flow'.ctx.bitvmxProtocolId = some pid → id = id')
      ∧ ∀ id id' flow flow', pegouts.pegoutFlows.lookup id = some flow →
        pegouts.pegoutFlows.lookup id' = some flow' →
        flow.ctx.bitvmxProtocolId = flow'.ctx.bitvmxProtocolId → id = id' := by
  refine protocol_ids_unique _ _ (fun i hi => ?_) _ _ fun i hi => ?_
  · obtain ⟨_, -, rfl⟩ := List.mem_map.mp hi
    exact fun _ _ _ => nofun
  · obtain ⟨_, -, rfl⟩ := List.mem_map.mp hi
    exact fun _ _ _ => nofun

theorem one_pegin_per_slot_obliging :
    OnePerSlot (Machine.run (Pegin.step (Pegin.sampleProcessorConfig 0)) Pegin.start
      ((requestedPegin 1 ++ requestedPegin 2).map fun i =>
        (Pegin.obliging, i))).processor.core.peginFlows := by
  refine one_pegin_per_slot _ _ fun i hi => ?_
  obtain ⟨_, -, rfl⟩ := List.mem_map.mp hi
  exact fun _ _ _ => nofun

/-- The store can neither be written nor cleaned up. -/
def storeDown (c : Call) : Bool := match c with
  | .saveFlow _ | .deleteFlow _ => true
  | _ => false

def deletionRefused (c : Call) : Bool := match c with
  | .deleteFlow _ => true
  | _ => false

/-- The flow of slot 0 is failed while the store is down. Its record stays, another flow gets its id,
and then the process is started again. -/
def revivedPegin : System Pegin.Core :=
  Machine.run (Pegin.step (Pegin.sampleProcessorConfig 0)) Pegin.start
    (((requestedPegin 1).map fun i => (Pegin.obliging, i))
      ++ [(.plain (.failing fun _ => storeDown), .userRequest
        (.failFlow .pegin (Pegin.flowIdFromRequestPeginTxid Libs.sample ⟨1⟩)))]
      ++ ((requestedPegin 2).map fun i => (.plain (.failing fun _ => deletionRefused), i))
      ++ [(Pegin.obliging, .restart)])

def revivedPegout : System Pegout.Core :=
  Machine.run (Pegout.step Pegout.sampleProcessorConfig) Pegout.start
    [(.failing fun _ => false, requestedPegout 0 1),
      (.failing storeDown, .userRequest (.failFlow .pegout (Pegout.sampleFlowId 1))),
      (.failing deletionRefused, requestedPegout 0 2), (.failing fun _ => false, .restart)]

/-- Two live flows then hold the same id. -/
theorem protocol_id_held_twice :
    revivedPegin.processor.core.peginFlows.entries.map
        (fun e => (e.2.ctx.step, e.2.ctx.bitvmxProtocolId))
      = List.replicate 2 (.getCommInfoAuthoritativeCheckpoint,
        some (acceptPeginProtocolId Libs.sample 7 0))
    ∧ revivedPegout.processor.core.pegoutFlows.entries.map
        (fun e => (e.2.step, e.2.ctx.bitvmxProtocolId))
      = List.replicate 2 (.getCommInfoAuthoritativeCheckpoint,
        userTakeProtocolId Libs.sample 7 0) := by
  decide +kernel

end UnionBridge.Node
