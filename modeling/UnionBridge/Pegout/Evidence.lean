import UnionBridge.Pegout.Changes

/-!
# What a pegout flow that is done rests on

A flow becomes `Done` with a confirmed `PegoutRegistered` event, or after its timeout. On the second
way the operator take has been triggered, but the answer does not count: `start_step` logs a failure
and goes on.
-/

namespace UnionBridge.Pegout

open Contracts Bitvmx Coordinator Effect

def Triggered (log : Contracts.Log) (flow : State) : Prop :=
  ∃ answer : Except DomainErrors TxSentOutput, ⟨.triggerOperatorTake flow.pegoutTxid, answer⟩ ∈ log

/-- One of the events registers the transaction of the flow. -/
def Registered (handled : List (EventWithBlock PegoutRegistered)) (flow : State) : Prop :=
  ∃ event ∈ handled, flow.userTakeTxid = some (TxIdParser.fb32ToTxid event.inner.txid)

/-- What a flow rests on in the steps that end it. -/
structure Justified (handled : List (EventWithBlock PegoutRegistered)) (log : Contracts.Log)
    (flow : State) : Prop where
  triggered : flow.step = .triggerOperatorTake → Triggered log flow
  done : flow.step = .done → Registered handled flow ∨ Triggered log flow

section Justified

variable {handled handled' : List (EventWithBlock PegoutRegistered)} {log log' : Contracts.Log}
  {flow flow' : State}

theorem Triggered.mono (h : Triggered log flow) (hlog : log ⊆ log')
    (htxid : flow'.pegoutTxid = flow.pegoutTxid) : Triggered log' flow' := by
  obtain ⟨answer, hmem⟩ := h
  refine ⟨answer, ?_⟩
  rw [htxid]
  exact hlog hmem

theorem Justified.mono (h : Justified handled log flow) (hhandled : handled ⊆ handled')
    (hlog : log ⊆ log') : Justified handled' log' flow where
  triggered hstep := (h.triggered hstep).mono hlog rfl
  done hstep := by
    rcases h.done hstep with ⟨event, hmem, htxid⟩ | htriggered
    · exact .inl ⟨event, hhandled hmem, htxid⟩
    · exact .inr (htriggered.mono hlog rfl)

theorem justified_of_step (htrigger : flow.step ≠ .triggerOperatorTake) (hdone : flow.step ≠ .done) :
    Justified handled log flow :=
  ⟨fun h => absurd h htrigger, fun h => absurd h hdone⟩

theorem triggered_of_adds (h : AddsPayouts [.triggerOperatorTake flow.pegoutTxid] log log') :
    Triggered log' flow := by
  obtain ⟨new, rfl, hpaid⟩ := h
  have hmem : Call.triggerOperatorTake flow.pegoutTxid ∈ payouts new := by
    rw [hpaid]
    exact List.mem_singleton.mpr rfl
  obtain ⟨⟨c, answer⟩, hentry, hc⟩ := List.mem_map.mp (List.mem_filter.mp hmem).1
  subst hc
  exact ⟨answer, List.mem_append_left _ hentry⟩

end Justified

/-! ## A turn -/

def Noted (handled : List (EventWithBlock PegoutRegistered)) (data : StepData) : Prop :=
  ∀ event, data = .pegoutRegistered event → event ∈ handled

/-- A flow leaves the trigger for the end only, and comes to the end from there or with an event. -/
theorem Steps.next_eq_done {step : Steps} {data : StepData} (h : step.next data = some .done) :
    step = .triggerOperatorTake ∧ data = .triggerOperatorTakeTimeout
      ∨ ∃ event, data = .pegoutRegistered event := by
  cases data
  case pegoutRegistered event => exact .inr ⟨event, rfl⟩
  all_goals cases step <;> cases h
  exact .inl ⟨rfl, rfl⟩

theorem Turned.justified {handled : List (EventWithBlock PegoutRegistered)} {next : Option Steps}
    {t t' : World Flow} {past : Contracts.Log} (hturned : Turned next t t')
    (h : Justified handled (t.log ++ past) t.own.state)
    (hmoves : MovesBy (Noted handled) t.own.state next) :
    Justified handled (t'.log ++ past) t'.own.state := by
  have hlog : t.log ++ past ⊆ t'.log ++ past :=
    (hturned.log.suffix.sublist.append_right past).subset
  have htxid := hturned.kept.pegoutTxid
  cases next with
  | none =>
    have hstep := hturned.stays rfl
    refine ⟨fun h' => (h.triggered (hstep ▸ h')).mono hlog htxid, fun h' => ?_⟩
    rcases h.done (hstep ▸ h') with ⟨event, hmem, hevent⟩ | htriggered
    · exact .inl ⟨event, hmem, (hturned.txid nofun).trans hevent⟩
    · exact .inr (htriggered.mono hlog htxid)
  | some n =>
    have hreaches := hturned.moves n rfl
    refine ⟨fun h' => ?_, fun h' => ?_⟩
    · have hn : n = .triggerOperatorTake := by
        rcases hreaches with hn | ⟨-, hn⟩
        · rw [← hn, h']
        · cases h'.symm.trans hn
      subst hn
      exact (triggered_of_adds hturned.log).mono (List.subset_append_left _ _) htxid
    · have hn : n = .done := by
        rcases hreaches with hn | ⟨-, hn⟩
        · rw [← hn, h']
        · cases h'.symm.trans hn
      subst hn
      rcases hmoves .done rfl with hfailed | ⟨data, hnoted, hnext, hnames⟩
      · cases hfailed
      rcases Steps.next_eq_done hnext with ⟨hstep, -⟩ | ⟨event, rfl⟩
      · exact .inr ((h.triggered hstep).mono hlog htxid)
      · exact .inl ⟨event, hnoted event rfl, (hturned.txid nofun).trans hnames⟩

/-! ## The invariant -/

/-- Every flow rests on something: in memory, in the store, and when it was dropped. -/
structure Evident (past : Contracts.Log) (w : World Core) : Prop where
  flows : ∀ id flow, w.own.pegoutFlows.lookup id = some flow →
    Justified (w.own.handled ++ w.own.handledBefore) (w.log ++ past) flow
  store : ∀ id flow, w.own.store.lookup id = some flow →
    Justified (w.own.handled ++ w.own.handledBefore) (w.log ++ past) flow
  retired : ∀ flow log, (flow, log) ∈ w.own.retired →
    Justified (w.own.handled ++ w.own.handledBefore) (log ++ past) flow

section Invariant

variable {config : ProcessorConfig} {env : PegoutEnv} {past : Contracts.Log} {w w' : World Core}

theorem Evident.grow (h : Evident past w) (hflows : w'.own.pegoutFlows = w.own.pegoutFlows)
    (hstore : ∀ id flow, w'.own.store.lookup id = some flow → w.own.store.lookup id = some flow)
    (hretired : w'.own.retired = w.own.retired)
    (hhandled : w.own.handled ++ w.own.handledBefore ⊆ w'.own.handled ++ w'.own.handledBefore)
    (hlog : w.log <:+ w'.log) : Evident past w' := by
  have hlog : w.log ++ past ⊆ w'.log ++ past := (hlog.sublist.append_right past).subset
  refine ⟨fun id flow hflow => ?_, fun id flow hflow => ?_, fun flow log hmem => ?_⟩
  · exact (h.flows id flow (hflows ▸ hflow)).mono hhandled hlog
  · exact (h.store id flow (hstore id flow hflow)).mono hhandled hlog
  · exact (h.retired flow log (hretired ▸ hmem)).mono hhandled (List.Subset.refl _)

theorem Evident.ran {id : FlowId} {flow : State} {next : Option Steps} (h : Evident past w)
    (hlookup : w.own.pegoutFlows.lookup id = some flow) (hran : Ran id flow next w w')
    (hmoves : MovesBy (Noted (w.own.handled ++ w.own.handledBefore)) flow next) :
    Evident past w' := by
  have hlog : w.log ++ past ⊆ w'.log ++ past := (hran.log.sublist.append_right past).subset
  have hhandled : w'.own.handled = w.own.handled ∧ w'.own.handledBefore = w.own.handledBefore
      ∧ w'.own.retired = w.own.retired := by
    obtain ⟨t, -, rfl⟩ := hran
    exact ⟨rfl, rfl, rfl⟩
  have hflows : ∀ id' flow', w'.own.pegoutFlows.lookup id' = some flow' →
      Justified (w.own.handled ++ w.own.handledBefore) (w'.log ++ past) flow' := by
    obtain ⟨t, hturned, rfl⟩ := hran
    intro id' flow' hflow'
    rcases Table.lookup_insert_eq_some.mp hflow' with ⟨-, rfl⟩ | ⟨-, hflow'⟩
    · exact hturned.justified (h.flows id flow hlookup) hmoves
    · exact (h.flows id' flow' hflow').mono (List.Subset.refl _) hlog
  refine ⟨?_, fun id' flow' hstored => ?_, ?_⟩
  all_goals rw [hhandled.1, hhandled.2.1]
  · exact hflows
  · rcases hran.stored hstored with hstored | hflow'
    · exact (h.store id' flow' hstored).mono (List.Subset.refl _) hlog
    · exact hflows id' flow' hflow'
  · rw [hhandled.2.2]
    exact h.retired

theorem Evident.created {event : EventWithBlock PegoutRequested} (h : Evident past w)
    (hcreated : Created config event w w') : Evident past w' := by
  cases hcreated with
  | refused store hown hstore hlog =>
    refine h.grow (by rw [hown]) (fun id flow hflow => ?_) (by rw [hown]) ?_ hlog
    · rw [hown] at hflow
      exact (hstore id).symm.trans hflow
    · rw [hown]
      exact List.Subset.refl _
  | added new _ _ t hturned hsaved hcore =>
    subst hcore
    have hlog : w.log ++ past ⊆ t.log ++ past :=
      (hturned.log.suffix.sublist.append_right past).subset
    -- the new flow has only come to its second step
    have hstep : t.own.state.step = .getCommInfoAuthoritativeCheckpoint := by
      rcases hturned.moves _ rfl with hstep | ⟨hstep, -⟩
      · exact hstep
      · cases hstep
    have hnew : Justified (w.own.handled ++ w.own.handledBefore) (t.log ++ past) t.own.state := by
      refine justified_of_step ?_ ?_ <;> rw [hstep] <;> exact nofun
    refine ⟨fun id flow hflow => ?_, fun id flow hflow => ?_, h.retired⟩
    · rcases Table.lookup_insert_eq_some.mp hflow with ⟨-, rfl⟩ | ⟨-, hflow⟩
      · exact hnew
      · exact (h.flows id flow hflow).mono (List.Subset.refl _) hlog
    · have hflow : (w.own.putSaved new.flowId t.own.saved).store.lookup id = some flow := hflow
      by_cases hid : id = new.flowId
      · rw [hid, lookup_putSaved] at hflow
        cases hsaved.symm.trans hflow
        exact hnew
      · rw [lookup_putSaved_ne w.own hid] at hflow
        exact (h.store id flow hflow).mono (List.Subset.refl _) hlog

theorem Evident.cleanedUp (h : Evident past w) (hclean : CleanedUp env.toEnv w w') :
    Evident past w' := by
  have hhandled : w'.own.handled ++ w'.own.handledBefore = w.own.handled ++ w.own.handledBefore := by
    rw [hclean.handled.1, hclean.handled.2]
  have hlog : w.log ++ past ⊆ w'.log ++ past :=
    (hclean.log.sublist.append_right past).subset
  refine ⟨fun id flow hflow => ?_, fun id flow hflow => ?_, fun flow log hmem => ?_⟩
  all_goals rw [hhandled]
  · rw [hclean.flows, Option.filter_eq_some_iff] at hflow
    exact (h.flows id flow hflow.1).mono (List.Subset.refl _) hlog
  · exact (h.store id flow (hclean.store id flow hflow)).mono (List.Subset.refl _) hlog
  · rcases hclean.retired flow log hmem with hmem | ⟨⟨id, hflow⟩, rfl⟩
    · exact h.retired flow log hmem
    · exact h.flows id flow hflow

/-- No event is taken as data, other than by its own handler. -/
def Unregistered (data : StepData) : Prop := ∀ event, data ≠ .pegoutRegistered event

theorem flowRules_evident : FlowRules config env Unregistered (Evident past) where
  subFlows _ _ hlog hw := hw.grow rfl (fun _ _ h => h) rfl (List.Subset.refl _) hlog
  schedules _ _ _ hw := hw.grow rfl (fun _ _ h => h) rfl (List.Subset.refl _) List.suffix_rfl
  ran hw hlookup hran hmoves := by
    refine hw.ran hlookup hran fun n hn => .inr ?_
    obtain ⟨data, hplain, hnext⟩ := hmoves n hn
    exact ⟨data, fun event hdata => absurd hdata (hplain event), hnext⟩
  cleanedUp := Evident.cleanedUp
  created := Evident.created

theorem evident_registered (event : EventWithBlock PegoutRegistered) :
    Keeps (Evident past) (handlePegoutRegistered config env event) := by
  intro w hw
  simp only [handlePegoutRegistered, flowByUserTakeTxid, wp_bind, wp_modifyCore]
  have hw' : Evident past ⟨{ w.own with handled := event :: w.own.handled }, w.log⟩ :=
    hw.grow rfl (fun _ _ h => h) rfl (List.subset_cons_self _ _) List.suffix_rfl
  apply wp_findFlow
  · exact fun _ => hw'
  · intro id flow hlookup _
    have hdata : Noted ((event :: w.own.handled) ++ w.own.handledBefore)
        (.pegoutRegistered event) := by
      rintro _ heq
      cases heq
      exact List.mem_cons_self
    exact wp_always (completeFlowStep_runs hdata)
      fun _ ⟨_, hran, hmoves⟩ => hw'.ran hlookup hran hmoves.movesBy

theorem handlers_evident : Handlers config env (Evident past) := by
  have hrules : FlowRules config env Unregistered (Evident past) := flowRules_evident
  have hignores : IgnoresTimeouts (Evident past) := fun _ _ _ hw =>
    hw.grow rfl (fun _ _ h => h) rfl (List.Subset.refl _) List.suffix_rfl
  exact hrules.rules.handlers (hrules.rules.timeoutRules (fun _ h => h) hignores evident_registered)
    (fun _ => nofun) (fun _ => nofun) (fun _ => nofun) nofun
    (fun _ _ _ hw hlookup => wp_always markFailed_runs fun _ hran => hw.ran hlookup hran movesBy_failed)
    (hrules.keeps_reconstruct hignores)

end Invariant

/-! ## Runs -/

def SystemEvident (s : System Core) : Prop :=
  Evident s.past ⟨(Processor.begin s.processor).core, []⟩

theorem SystemEvident.load {s : System Core} (h : SystemEvident s) :
    Evident s.past ⟨(Processor.begin (Processor.load s.processor)).core, []⟩ := by
  refine ⟨fun id flow hflow => ?_, fun id flow hflow => ?_, fun _ _ h => nomatch h⟩
  all_goals
    show Justified ((Processor.load s.processor).core.handled
      ++ (Processor.load s.processor).core.handledBefore) _ _
    rw [load_handled]
  · have hflow : (Processor.load s.processor).core.pegoutFlows.lookup id = some flow := hflow
    rw [load_pegoutFlows] at hflow
    obtain ⟨-, id', hflow⟩ := Table.lookup_rekey hflow
    exact h.store id' flow hflow
  · have hflow : (Processor.load s.processor).core.store.lookup id = some flow := hflow
    rw [load_store] at hflow
    exact h.store id flow hflow

/-- **One step**; what it dropped rested on the calls made until then. -/
theorem SystemEvident.step {s : System Core} (h : SystemEvident s) (config : ProcessorConfig)
    (env : PegoutEnv) (input : Input) :
    SystemEvident (step config s (env, input)) ∧ ∃ log,
      (Pegout.step config s (env, input)).past = log ++ s.past
      ∧ Evident s.past ⟨(Pegout.step config s (env, input)).processor.core, log⟩ := by
  have hhandlers : Handlers config env (Evident s.past) := handlers_evident
  obtain ⟨log, hpast, hs⟩ := step_keeps hhandlers h h.load input
  refine ⟨⟨fun id flow hflow => ?_, fun id flow hflow => ?_, fun _ _ h => nomatch h⟩, log, hpast, hs⟩
  all_goals rw [hpast]
  · exact hs.flows id flow hflow
  · exact hs.store id flow hflow

/-- **A flow that is done** has been registered or has triggered the operator take: in memory, in the
store, and when it is dropped. -/
theorem done_registered_or_triggered (config : ProcessorConfig)
    (inputs : List (PegoutEnv × Input)) (env : PegoutEnv) (input : Input) :
    let s := Machine.run (step config) start inputs
    let s' := step config s (env, input)
    let handled := s'.processor.core.handled ++ s'.processor.core.handledBefore
    (∀ id flow, s'.processor.core.pegoutFlows.lookup id = some flow → flow.step = .done →
        Registered handled flow ∨ Triggered s'.past flow)
      ∧ (∀ id flow, s'.processor.core.store.lookup id = some flow → flow.step = .done →
        Registered handled flow ∨ Triggered s'.past flow)
      ∧ ∀ flow log, (flow, log) ∈ s'.processor.core.retired → flow.step = .done →
        Registered handled flow ∨ Triggered (log ++ s.past) flow := by
  intro s s' handled
  have hinv : SystemEvident s := by
    apply Machine.run_keeps SystemEvident
    · rintro s ⟨env, input⟩ hs
      exact (hs.step config env input).1
    · exact ⟨(fun _ _ h => nomatch h), (fun _ _ h => nomatch h), fun _ _ h => nomatch h⟩
  obtain ⟨-, log, hpast, hs'⟩ := hinv.step config env input
  have hpast : s'.past = log ++ s.past := hpast
  rw [hpast]
  exact ⟨fun id flow hflow => (hs'.flows id flow hflow).done,
    fun id flow hflow => (hs'.store id flow hflow).done,
    fun flow l hmem => (hs'.retired flow l hmem).done⟩

def triggerRefused : PegoutEnv := .failing fun c => match c with
  | .triggerOperatorTake _ => true
  | _ => false

/-- The timeout of a pegout expires, and the contract cannot be reached. -/
def unreachedTrigger : System Core :=
  Machine.run (step sampleProcessorConfig) start (callsIn triggerRefused
    (waitingInputs 0 1 "02" ++ [.block (blockAt 1 1 0) 1000, .block (blockAt 2 2 1) 2000]))

def isFailedTrigger : LogEntry → Bool
  | ⟨.triggerOperatorTake _, .error (.other _)⟩ => true
  | _ => false

def isTrigger : LogEntry → Bool
  | ⟨.triggerOperatorTake _, _⟩ => true
  | _ => false

/-- A failure of the call makes the flow `Done` all the same: no event was handled, and the only
trigger was not delivered. -/
theorem done_after_failed_trigger :
    (unreachedTrigger.processor.core.pegoutFlows.lookup (sampleFlowId 1)).map (·.step) = some .done
      ∧ (unreachedTrigger.processor.core.handled ++ unreachedTrigger.processor.core.handledBefore)
        = []
      ∧ (unreachedTrigger.past.filter isTrigger).map isFailedTrigger = [true] := by
  decide +kernel

end UnionBridge.Pegout
