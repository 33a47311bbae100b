import UnionBridge.Pegout.Changes

/-!
# Confirmed registrations of a pegout

Another member may register the pegout while this one is still behind. The confirmed
`PegoutRegistered` event ends the flow from the steps after the dispatch on (the window). In the
steps before it the flow knows the transaction already, but rejects the event; and the event has left
the table of pending ones by then, so it is lost, and the flow stays. The same happens when the
broker refuses to announce the completion.
-/

namespace UnionBridge.Pegout

open Chain Contracts Bitvmx Coordinator Effect

def registeredTxid (event : EventWithBlock PegoutRegistered) : Txid :=
  TxIdParser.fb32ToTxid event.inner.txid

/-! ## A flow that knows the transaction -/

/-- The data that neither name a user-take transaction nor register one. -/
def Neutral (data : StepData) : Prop :=
  (∀ accepted, data ≠ .pegoutAccepted accepted) ∧ ∀ event, data ≠ .pegoutRegistered event

/-- A flow keeps its transaction, and comes out of the window at its end only. -/
structure Follows (flow flow' : State) : Prop where
  txid : flow'.userTakeTxid = flow.userTakeTxid
  protocolId : flow'.ctx.bitvmxProtocolId = flow.ctx.bitvmxProtocolId
  window : flow.step.allowsFastForwardToPegoutRegistered = true →
    flow'.step.allowsFastForwardToPegoutRegistered = true ∨ flow'.step = .done
  done : flow.step = .done → flow'.step = .done

theorem Follows.refl (flow : State) : Follows flow flow := ⟨rfl, rfl, .inl, id⟩

theorem Turned.follows {next : Option Steps} {t t' : World Flow} (h : Turned next t t')
    (hmoves : AdvancesBy Neutral t.own.state next) : Follows t.own.state t'.own.state := by
  have hwait : next ≠ some .waitUserTakeSignaturesReady := by
    intro hnext
    obtain ⟨data, hneutral, hdata, -⟩ := hmoves _ hnext
    obtain ⟨accepted, rfl⟩ := Steps.next_eq_wait hdata
    exact hneutral.1 accepted rfl
  refine ⟨h.txid hwait, h.kept.protocolId, fun hwindow => ?_, fun hdone => ?_⟩
  · cases next with
    | none => exact .inl (h.stays rfl ▸ hwindow)
    | some n =>
      obtain ⟨data, -, hnext, -⟩ := hmoves n rfl
      rcases h.moves n rfl with hstep | ⟨-, hstep⟩
      · rw [hstep]
        exact Steps.window_of_next hnext hwindow
      · rw [hstep]
        exact .inl rfl
  · cases next with
    | none => exact (h.stays rfl).trans hdone
    | some n =>
      obtain ⟨data, -, hnext, -⟩ := hmoves n rfl
      have hterminal : t.own.state.isTerminal = true := decide_eq_true (.inl hdone)
      cases (Steps.next_of_terminal hterminal data).symm.trans hnext

theorem Steps.next_pegoutRegistered {step : Steps} (event : EventWithBlock PegoutRegistered)
    (hwindow : step.allowsFastForwardToPegoutRegistered = true) :
    step.next (.pegoutRegistered event) = some .done := by
  cases step <;> first | rfl | cases hwindow

theorem FlowCompletes.registers {env : Env} {id : FlowId} {flow : State}
    {event : EventWithBlock PegoutRegistered} {ok : Bool} {w w' : World Core}
    (h : FlowCompletes env id flow (.pegoutRegistered event) ok w w')
    (htxid : flow.userTakeTxid = some (registeredTxid event))
    (hstep : flow.step.allowsFastForwardToPegoutRegistered = true ∨ flow.step = .done)
    (hannounces : ¬ CompletionRefused env flow event.inner) :
    ∃ flow', w'.own.pegoutFlows.lookup id = some flow' ∧ Follows flow flow' ∧ flow'.step = .done := by
  obtain ⟨t, ht, rfl⟩ := h
  have hdone : t.own.state.step = .done := by
    cases ht with
    | rejected hsame hcause =>
      subst hsame
      rcases hstep with hwindow | hdone
      · rcases hcause with hnone | hother
        · cases hnone.symm.trans (Steps.next_pegoutRegistered event hwindow)
        · exact absurd htxid hother
      · exact hdone
    | unannounced event' hdata _ _ _ hrefused =>
      cases hdata
      exact absurd hrefused hannounces
    | started next hnext _ w₁ _ _ hstarts =>
      have hn : next = .done := by
        have hnext : flow.step.next (.pegoutRegistered event) = some next := hnext
        generalize flow.step = step at hnext
        cases step <;> cases hnext <;> rfl
      subst hn
      obtain ⟨reached, output, hreaches, hstate⟩ := hstarts.entered.state
      rw [hstate]
      rcases hreaches with hreached | ⟨hreached, -⟩
      · exact hreached
      · cases hreached
  obtain ⟨next, hturned, hmoves⟩ := ht.turned
  have hwait : next ≠ some .waitUserTakeSignaturesReady := by
    intro hnext
    obtain ⟨accepted, haccepted⟩ := Steps.next_eq_wait (hmoves _ hnext).1
    cases haccepted
  exact ⟨t.own.state, AList.lookup_insert _,
    ⟨hturned.txid hwait, hturned.kept.protocolId, fun _ => .inr hdone, fun _ => hdone⟩, hdone⟩

/-! ## The invariant of a call -/

/-- `E` are the events that the call may confirm. Each of them finds its flow in the window, and ends
it. -/
structure Converging (env : Env) (E : EventWithBlock PegoutRegistered → Prop) (core : Core) :
    Prop where
  window : ∀ event, E event → ∀ id flow, core.pegoutFlows.lookup id = some flow →
    flow.userTakeTxid = some (registeredTxid event) →
    flow.step.allowsFastForwardToPegoutRegistered = true ∨ flow.step = .done
  unique : ∀ event, E event → ∀ id id' flow flow', core.pegoutFlows.lookup id = some flow →
    core.pegoutFlows.lookup id' = some flow' → flow.userTakeTxid = some (registeredTxid event) →
    flow'.userTakeTxid = some (registeredTxid event) → id = id'
  announces : ∀ event, E event → ∀ id flow, core.pegoutFlows.lookup id = some flow →
    flow.userTakeTxid = some (registeredTxid event) → ¬ CompletionRefused env flow event.inner
  handled : ∀ event ∈ core.handled, ∀ id flow, core.pegoutFlows.lookup id = some flow →
    flow.userTakeTxid = some (registeredTxid event) → flow.step = .done

section Invariant

variable {config : ProcessorConfig} {env : PegoutEnv} {E : EventWithBlock PegoutRegistered → Prop}
  {w w' : World Core}

theorem Converging.follow {core core' : Core} (h : Converging env.toEnv E core)
    (hflows : ∀ id flow', core'.pegoutFlows.lookup id = some flow' → flow'.userTakeTxid = none
      ∨ ∃ flow, core.pegoutFlows.lookup id = some flow ∧ Follows flow flow')
    (hhandled : core'.handled = core.handled) : Converging env.toEnv E core' := by
  have hold : ∀ {event : EventWithBlock PegoutRegistered} {id flow'},
      core'.pegoutFlows.lookup id = some flow' →
      flow'.userTakeTxid = some (registeredTxid event) →
      ∃ flow, core.pegoutFlows.lookup id = some flow ∧ Follows flow flow'
        ∧ flow.userTakeTxid = some (registeredTxid event) := by
    intro event id flow' hlookup htxid
    rcases hflows id flow' hlookup with hnone | ⟨flow, hflow, hfollows⟩
    · cases hnone.symm.trans htxid
    · exact ⟨flow, hflow, hfollows, hfollows.txid.symm.trans htxid⟩
  refine ⟨fun event hE id flow' hlookup htxid => ?_,
    fun event hE id id' flow₁ flow₂ hlookup₁ hlookup₂ htxid₁ htxid₂ => ?_,
    fun event hE id flow' hlookup htxid => ?_, fun event hevent id flow' hlookup htxid => ?_⟩
  · obtain ⟨flow, hflow, hfollows, htxid⟩ := hold hlookup htxid
    rcases h.window event hE id flow hflow htxid with hwindow | hdone
    · exact hfollows.window hwindow
    · exact .inr (hfollows.done hdone)
  · obtain ⟨flow₁, hflow₁, -, htxid₁⟩ := hold hlookup₁ htxid₁
    obtain ⟨flow₂, hflow₂, -, htxid₂⟩ := hold hlookup₂ htxid₂
    exact h.unique event hE id id' flow₁ flow₂ hflow₁ hflow₂ htxid₁ htxid₂
  · obtain ⟨flow, hflow, hfollows, htxid⟩ := hold hlookup htxid
    have hannounces := h.announces event hE id flow hflow htxid
    rwa [CompletionRefused, hfollows.protocolId]
  · obtain ⟨flow, hflow, hfollows, htxid⟩ := hold hlookup htxid
    rw [hhandled] at hevent
    exact hfollows.done (h.handled event hevent id flow hflow htxid)

theorem follows_of_ran {id : FlowId} {flow : State} {next : Option Steps}
    (hlookup : w.own.pegoutFlows.lookup id = some flow) (hran : Ran id flow next w w')
    (hfollows : ∀ flow', w'.own.pegoutFlows.lookup id = some flow' → Follows flow flow') :
    ∀ id' flow', w'.own.pegoutFlows.lookup id' = some flow' → flow'.userTakeTxid = none
      ∨ ∃ flow, w.own.pegoutFlows.lookup id' = some flow ∧ Follows flow flow' := by
  intro id' flow' hlookup'
  by_cases hid : id' = id
  · subst hid
    exact .inr ⟨flow, hlookup, hfollows flow' hlookup'⟩
  · exact .inr ⟨flow', (hran.lookup_ne hid).symm.trans hlookup', .refl flow'⟩

theorem flowRules_converging :
    FlowRules config env Neutral fun w => Converging env.toEnv E w.own where
  subFlows _ _ _ hw := ⟨hw.window, hw.unique, hw.announces, hw.handled⟩
  schedules _ _ _ hw := ⟨hw.window, hw.unique, hw.announces, hw.handled⟩
  ran hw hlookup hran hmoves := by
    refine hw.follow (follows_of_ran hlookup hran fun flow' hflow' => ?_) ?_
    · obtain ⟨t, hturned, rfl⟩ := hran
      cases (AList.lookup_insert _).symm.trans hflow'
      exact hturned.follows hmoves
    · obtain ⟨t, -, rfl⟩ := hran
      rfl
  cleanedUp hw hclean := by
    refine hw.follow (fun id flow hflow => ?_) hclean.handled.1
    rw [hclean.flows, Option.filter_eq_some_iff] at hflow
    exact .inr ⟨flow, hflow.1, .refl flow⟩
  created hw hcreated := by
    cases hcreated with
    | refused store hown _ _ =>
      rw [hown]
      exact ⟨hw.window, hw.unique, hw.announces, hw.handled⟩
    | added new hnew _ t hturned _ hcore =>
      subst hcore
      refine hw.follow (fun id flow hflow => ?_) rfl
      rcases Table.lookup_insert_eq_some.mp hflow with ⟨-, rfl⟩ | ⟨-, hflow⟩
      · -- a new flow has not heard from `BitVMX` yet
        obtain ⟨_, -, rfl⟩ := Option.map_eq_some_iff.mp hnew
        exact .inl (hturned.txid nofun)
      · exact .inr ⟨flow, hflow, .refl flow⟩

/-- **The event ends its flow.** -/
theorem converging_registered {event : EventWithBlock PegoutRegistered} (hE : E event) :
    Keeps (fun w => Converging env.toEnv E w.own) (handlePegoutRegistered config env event) := by
  intro w hw
  simp only [handlePegoutRegistered, flowByUserTakeTxid, wp_bind, wp_modifyCore]
  apply wp_findFlow
  · intro hnone
    refine ⟨hw.window, hw.unique, hw.announces, fun event' hevent' id flow hlookup htxid => ?_⟩
    rcases List.mem_cons.mp hevent' with rfl | hevent'
    · exact absurd htxid (of_decide_eq_false (hnone id flow hlookup))
    · exact hw.handled event' hevent' id flow hlookup htxid
  · intro id flow hlookup htxid
    have hlookup : w.own.pegoutFlows.lookup id = some flow := hlookup
    have htxid : flow.userTakeTxid = some (registeredTxid event) := of_decide_eq_true htxid
    have hends : ∀ (ok : Bool) (w' : World Core), FlowCompletes env.toEnv id flow
        (.pegoutRegistered event) ok ⟨{ w.own with handled := event :: w.own.handled }, w.log⟩ w' →
        Converging env.toEnv E w'.own := by
      intro ok w' h
      obtain ⟨flow', hflow', hfollows, hdone⟩ := h.registers htxid
        (hw.window event hE id flow hlookup htxid) (hw.announces event hE id flow hlookup htxid)
      obtain ⟨next, hran, -⟩ := h.ran
      have hflows := follows_of_ran
        (w := ⟨{ w.own with handled := event :: w.own.handled }, w.log⟩) hlookup hran
        fun flow₁ hflow₁ => by
          cases hflow'.symm.trans hflow₁
          exact hfollows
      have hhandled : w'.own.handled = event :: w.own.handled := by
        obtain ⟨t, -, rfl⟩ := hran
        rfl
      have hold : Converging env.toEnv E { w'.own with handled := w.own.handled } :=
        hw.follow hflows rfl
      refine ⟨hold.window, hold.unique, hold.announces, fun event' hevent' id' flow₁ hflow₁ htxid₁ => ?_⟩
      rw [hhandled] at hevent'
      rcases List.mem_cons.mp hevent' with rfl | hevent'
      · have hid : id' = id := hold.unique event' hE id' id flow₁ flow' hflow₁ hflow' htxid₁
          (hfollows.txid.trans htxid)
        subst hid
        cases hflow'.symm.trans hflow₁
        exact hdone
      · exact hold.handled event' hevent' id' flow₁ hflow₁ htxid₁
    exact wp_mono completeFlowStep_completes (fun _ => hends true) fun _ => hends false

end Invariant

/-! ## The events that a call has handled -/

/-- The handler of this event has run. -/
def HandledIn (event : RskPegManagerEvents) (w : World Core) : Prop :=
  ∀ pr, event = .pegoutRegistered pr → pr ∈ w.own.handled

section Handled

variable {config : ProcessorConfig} {env : PegoutEnv}

theorem flowRules_handled (P : List (EventWithBlock PegoutRegistered) → Prop) :
    FlowRules config env (fun _ => True) fun w => P w.own.handled where
  subFlows _ _ _ hw := hw
  schedules _ _ _ hw := hw
  ran hw _ hran _ := by
    obtain ⟨t, -, rfl⟩ := hran
    exact hw
  cleanedUp hw hclean := by
    rw [hclean.handled.1]
    exact hw
  created hw hcreated := by
    cases hcreated with
    | refused store hown _ _ =>
      rw [hown]
      exact hw
    | added new _ _ t _ _ hcore =>
      subst hcore
      exact hw

theorem flowRules_handledIn (event : RskPegManagerEvents) :
    FlowRules config env (fun _ => True) (HandledIn event) :=
  flowRules_handled fun handled => ∀ pr, event = .pegoutRegistered pr → pr ∈ handled

theorem handledIn_confirmed (other event : RskPegManagerEvents) :
    Keeps (HandledIn other) (processConfirmedRskEvent config env event) := by
  have hrules : FlowRules config env (fun _ => True) (HandledIn other) := flowRules_handledIn other
  refine hrules.rules.keeps_processConfirmedRskEvent fun pr _ => ?_
  exact hrules.rules.keeps_handlePegoutRegistered
    (fun _ hw pr' hother => List.mem_cons_of_mem _ (hw pr' hother)) pr trivial

theorem processConfirmedRskEvent_handles (event : RskPegManagerEvents) (w : World Core) :
    wp (processConfirmedRskEvent config env event) (fun _ => HandledIn event)
      (fun _ => HandledIn event) w := by
  by_cases hregistered : ∃ pr, event = .pegoutRegistered pr
  · obtain ⟨pr, rfl⟩ := hregistered
    have hrules : FlowRules config env (fun _ => True) (HandledIn (.pegoutRegistered pr)) :=
      flowRules_handledIn _
    have hself : HandledIn (.pegoutRegistered pr)
        ⟨{ w.own with handled := pr :: w.own.handled }, w.log⟩ := by
      rintro _ heq
      cases heq
      exact List.mem_cons_self
    simp only [processConfirmedRskEvent, handleConfirmedEvent, handlePegoutRegistered,
      flowByUserTakeTxid, wp_bind, wp_modifyCore]
    apply wp_findFlow
    · exact fun _ => hrules.rules.cleanup _ hself
    · intro id flow hlookup _
      exact wp_imp (hrules.rules.completed trivial hself hlookup)
        fun _ w₁ hw₁ => hrules.rules.cleanup w₁ hw₁
  · exact wp_always wp_trivial fun _ _ pr heq => absurd ⟨pr, heq⟩ hregistered

theorem callProgram_idle {input : Input} {p : Processor} (hstart : p.core.handled = [])
    (hblock : ∀ block timestamp, input ≠ .block block timestamp)
    (hevent : ∀ event, input = .rskEvent event → config.requiredConfirmations ≠ 0) :
    wp (callProgram config env input) (fun _ => OnCore fun w => w.own.handled = [])
      (fun _ => OnCore fun w => w.own.handled = []) ⟨p, []⟩ := by
  let I : World Core → Prop := fun w => w.own.handled = []
  have hflowRules : FlowRules config env (fun _ => True) I :=
    flowRules_handled fun handled => handled = []
  have hrules := hflowRules.rules
  have hignores : IgnoresTimeouts I := fun _ _ _ hw => hw
  have hw : OnCore I ⟨p, []⟩ := ⟨hstart, fun _ _ => trivial⟩
  cases input with
  | block block timestamp => exact absurd rfl (hblock block timestamp)
  | rskEvent event =>
    exact wp_processNewRskEvent (I := I) hrules.called (hrules.cleanup _ hstart)
      hrules.keeps_delegateSignatureEvent fun hzero => absurd hzero (hevent event rfl)
  | bitvmxEvent event =>
    refine wp_processNewBitvmxEvent (I := I) hrules.called
      (keeps_bind hrules.cleanup (fun _ => ?_) _ hstart)
    exact hrules.keeps_handleBitvmxEvent (fun _ => trivial) (fun _ => trivial) (fun _ => trivial)
      fun protocolId data _ => hrules.keeps_handlePegoutAccepted hignores (fun _ => trivial) _ _
  | userRequest request =>
    refine keeps_processUserRequest (I := I) hrules.called hrules.cleanup
      (hrules.keeps_handleUserRequest fun w id flow hw _ => ?_) request _ hw
    have hends : ∀ w', Ran id flow (some .failed) w w' → I w' := by
      rintro w' ⟨t, -, rfl⟩
      exact hw
    exact wp_always markFailed_runs hends
  | restart => exact keeps_onCore (hflowRules.keeps_reconstruct hignores) _ hw

end Handled

/-! ## Calls that confirm events -/

/-- The flow of the event is ready for it: it is the only live one that names the transaction, it is
in the window, and its completion can be announced. -/
structure ReadyFor (env : Env) (core : Core) (event : EventWithBlock PegoutRegistered) : Prop where
  window : ∀ id flow, core.pegoutFlows.lookup id = some flow → flow.isTerminal = false →
    flow.userTakeTxid = some (registeredTxid event) →
    flow.step.allowsFastForwardToPegoutRegistered = true
  unique : ∀ id id' flow flow', core.pegoutFlows.lookup id = some flow →
    core.pegoutFlows.lookup id' = some flow' → flow.isTerminal = false → flow'.isTerminal = false →
    flow.userTakeTxid = some (registeredTxid event) →
    flow'.userTakeTxid = some (registeredTxid event) → id = id'
  announces : ∀ id flow, core.pegoutFlows.lookup id = some flow → flow.isTerminal = false →
    flow.userTakeTxid = some (registeredTxid event) → ¬ CompletionRefused env flow event.inner

section Calls

variable {config : ProcessorConfig} {env : PegoutEnv} {E : EventWithBlock PegoutRegistered → Prop}

theorem cleanup_converging {w : World Core} (hready : ∀ event, E event →
      ReadyFor env.toEnv w.own event) (hstart : w.own.handled = []) :
    wp (cleanupTerminalFlows env) (fun _ w' => Converging env.toEnv E w'.own)
      (fun _ w' => Converging env.toEnv E w'.own) w := by
  apply wp_mono cleanupTerminalFlows_cleans _ fun _ _ hfalse => hfalse.elim
  intro _ w' hclean
  have hlive : ∀ {id flow}, w'.own.pegoutFlows.lookup id = some flow →
      w.own.pegoutFlows.lookup id = some flow ∧ flow.isTerminal = false := by
    intro id flow hflow
    rw [hclean.flows, Option.filter_eq_some_iff] at hflow
    exact ⟨hflow.1, by simpa using hflow.2⟩
  refine ⟨fun event hE id flow hflow htxid => ?_,
    fun event hE id id' flow flow' hflow hflow' htxid htxid' => ?_,
    fun event hE id flow hflow htxid => ?_, fun event hevent => ?_⟩
  · exact .inl ((hready event hE).window id flow (hlive hflow).1 (hlive hflow).2 htxid)
  · exact (hready event hE).unique id id' flow flow' (hlive hflow).1 (hlive hflow').1
      (hlive hflow).2 (hlive hflow').2 htxid htxid'
  · exact (hready event hE).announces id flow (hlive hflow).1 (hlive hflow).2 htxid
  · rw [hclean.handled.1, hstart] at hevent
    cases hevent

/-- **A block.** -/
theorem processNewBlock_converges {block : RskBlockAndUncles} {timestamp : UInt64} {p : Processor}
    (hstart : p.core.handled = [])
    (hready : ∀ event, p.confirming.Confirms block (.pegoutRegistered event) →
      ReadyFor env.toEnv p.core event) :
    let After : World Processor → Prop := fun w' => Converging env.toEnv
      (fun event => p.confirming.Confirms block (.pegoutRegistered event)) w'.own.core
      ∧ Accounted HandledIn p.confirming w'
    wp (processNewBlock config env block timestamp) (fun _ => After) (fun _ => After) ⟨p, []⟩ := by
  intro After
  let I : World Core → Prop := fun w => Converging env.toEnv
    (fun event => p.confirming.Confirms block (.pegoutRegistered event)) w.own
  have hrules : Rules config env Neutral I := flowRules_converging.rules
  have hignores : IgnoresTimeouts I :=
    fun _ _ _ hw => ⟨hw.window, hw.unique, hw.announces, hw.handled⟩
  have hseen : ∀ event, FlowRules config env (fun _ => True) (HandledIn event) := flowRules_handledIn
  rw [processNewBlock, wp_bind, wp_liftCore]
  have hbefore : wp (beforeConfirmations config env block timestamp) (fun _ => I) (fun _ => I)
      ⟨p.core, []⟩ :=
    hrules.wp_beforeConfirmations (cleanup_converging hready hstart)
      (keeps_schedulePendingTimeouts hignores timestamp)
      (hrules.keeps_handleAdvanceFundsTimeoutExpired hignores ⟨by rintro _ ⟨⟩, by rintro _ ⟨⟩⟩ timestamp)
      (hrules.keeps_dispatchSigned hignores ⟨by rintro _ ⟨⟩, by rintro _ ⟨⟩⟩) ⟨by rintro _ ⟨⟩, by rintro _ ⟨⟩⟩
  refine wp_mono hbefore (fun _ t ht => ?_) fun _ t ht => ⟨ht, fun _ hpends => .inl hpends⟩
  rw [wp_bind]
  have hconfirmations : wp (processBlockConfirmations env.toCallEnv
      (processConfirmedRskEvent config env) (cleanupTerminalFlows env) block) (fun _ => After)
      (fun _ => After) ⟨{ p with core := t.own }, t.log⟩ :=
    wp_processBlockConfirmations (I := I) handledIn_confirmed processConfirmedRskEvent_handles ht
      (fun event hconfirms => hrules.keeps_processConfirmedRskEvent fun pr hpr =>
        converging_registered (hpr ▸ hconfirms))
      hrules.cleanup fun event => (hseen event).rules.cleanup
  refine wp_imp hconfirmations fun _ w₁ hw₁ => ?_
  simp only [persistProcessorState, wp_bind, wp_perform, wp_orText, wp_modify]
  exact ⟨fun _ _ => hw₁, fun _ _ => hw₁⟩

theorem processNewRskEvent_converges {event : RskPegManagerEvents} {p : Processor}
    (hstart : p.core.handled = []) (hzero : config.requiredConfirmations = 0)
    (hready : ∀ pr, event = .pegoutRegistered pr → ReadyFor env.toEnv p.core pr) :
    let After : World Processor → Prop := fun w' => Converging env.toEnv
      (fun pr => event = .pegoutRegistered pr) w'.own.core ∧ HandledIn event ⟨w'.own.core, w'.log⟩
    wp (processNewRskEvent config env event) (fun _ => After) (fun _ => After) ⟨p, []⟩ := by
  intro After
  let I : World Core → Prop := fun w => Converging env.toEnv
    (fun pr => event = .pegoutRegistered pr) w.own
  have hrules : Rules config env Neutral I := flowRules_converging.rules
  have hconverges : wp (processNewRskEvent config env event) (fun _ => OnCore I) (fun _ => OnCore I)
      ⟨p, []⟩ :=
    wp_processNewRskEvent (I := I) hrules.called (cleanup_converging hready hstart)
      hrules.keeps_delegateSignatureEvent fun _ =>
        hrules.keeps_processConfirmedRskEvent fun pr hpr => converging_registered hpr
  have hhandles : wp (processNewRskEvent config env event) (fun _ => OnCore (HandledIn event))
      (fun _ => OnCore (HandledIn event)) ⟨p, []⟩ := by
    have hpersist : Keeps (OnCore (HandledIn event))
        (persistProcessorState env.toCallEnv .pegoutProcessorState) :=
      keeps_onCore_persist (I := HandledIn event) fun _ hw => hw
    by_cases hregistered : ∃ pr, event = .pegoutRegistered pr
    · obtain ⟨pr, rfl⟩ := hregistered
      rw [processNewRskEvent, wp_bind, wp_liftCore]
      apply wp_mono cleanupTerminalFlows_cleans _ fun _ _ hfalse => hfalse.elim
      intro _ t _
      rw [if_neg (fun h => by cases h), if_pos hzero, wp_bind, wp_liftCore]
      exact wp_mono (processConfirmedRskEvent_handles _ _)
        (fun _ t' ht' => hpersist _ ⟨ht', fun _ _ => trivial⟩) fun _ t' ht' => ⟨ht', fun _ _ => trivial⟩
    · have hvacuous : ∀ w : World Processor, OnCore (HandledIn event) w :=
        fun w => ⟨fun pr heq => absurd ⟨pr, heq⟩ hregistered, fun _ _ => trivial⟩
      exact wp_always wp_trivial fun w _ => hvacuous w
  exact wp_mono (wp_and hconverges hhandles) (fun _ _ h => ⟨h.1.1, h.2.1⟩) fun _ _ h => ⟨h.1.1, h.2.1⟩

end Calls

/-! ## Runs -/

def Expected (config : ProcessorConfig) (s : System Core) :
    Input → EventWithBlock PegoutRegistered → Prop
  | .block block _, event => s.processor.confirming.Confirms block (.pegoutRegistered event)
  | .rskEvent received, event =>
    config.requiredConfirmations = 0 ∧ received = .pegoutRegistered event
  | _, _ => False

/-- Each of them finds its flow ready. -/
def Converges (config : ProcessorConfig) (s : System Core) (i : PegoutEnv × Input) : Prop :=
  ∀ event, Expected config s i.2 event → ReadyFor i.1.toEnv s.processor.core event

/-- No live flow names the transaction of an event that the last call has handled. -/
def Settled (core : Core) : Prop :=
  ∀ event ∈ core.handled, ∀ id flow, core.pegoutFlows.lookup id = some flow →
    flow.userTakeTxid = some (registeredTxid event) → flow.step = .done

/-- An event that pends still pends after a block, or was handled. -/
def KeepsPending (s s' : System Core) : Prop :=
  ∀ event, s.processor.confirming.Pends (.pegoutRegistered event) →
    s'.processor.confirming.Pends (.pegoutRegistered event) ∨ event ∈ s'.processor.core.handled

theorem settled_of_idle {core : Core} (h : core.handled = []) : Settled core := by
  intro event hevent
  rw [h] at hevent
  cases hevent

/-- **No confirmed registration is lost.** In every run, a step whose inputs find the flows ready ends
every flow that names the transaction of a registration it handles; and a registration that pends
before a block still pends after it, or was handled by it. -/
theorem registration_never_dropped (config : ProcessorConfig) (inputs : List (PegoutEnv × Input))
    (env : PegoutEnv) (input : Input)
    (hready : Converges config (Machine.run (step config) start inputs) (env, input)) :
    let s := Machine.run (step config) start inputs
    let s' := step config s (env, input)
    Settled s'.processor.core
      ∧ (∀ block timestamp, input = .block block timestamp → KeepsPending s s')
      ∧ ∀ event, input = .rskEvent (.pegoutRegistered event) → config.requiredConfirmations = 0 →
        s.panicked = false → event ∈ s'.processor.core.handled := by
  intro s
  let Q : System Core → Prop := fun s' => Settled s'.processor.core
    ∧ (∀ block timestamp, input = .block block timestamp → KeepsPending s s')
    ∧ ∀ event, input = .rskEvent (.pegoutRegistered event) → config.requiredConfirmations = 0 →
      s.panicked = false → event ∈ s'.processor.core.handled
  show Q (step config s (env, input))
  -- a process that has ended takes no calls
  have hpanicked : s.panicked = true → Q ⟨Processor.begin s.processor, s.past, s.panicked⟩ := by
    intro hpanicked
    refine ⟨settled_of_idle rfl, fun _ _ _ event hpends => .inl hpends, fun _ _ _ hrunning => ?_⟩
    cases hpanicked.symm.trans hrunning
  have hready' : ∀ event, Expected config s input event →
      ReadyFor env.toEnv (Processor.begin s.processor).core event := by
    intro event hevent
    have hr := hready event hevent
    exact ⟨hr.window, hr.unique, hr.announces⟩
  by_cases hblock : ∃ block timestamp, input = .block block timestamp
  · obtain ⟨block, timestamp, rfl⟩ := hblock
    refine step_of_wp (Q := Q) nofun hpanicked fun _ => ?_
    refine wp_mono (processNewBlock_converges rfl hready') ?_ ?_
    all_goals
      intro _ w hw
      exact ⟨hw.1.handled, fun _ _ _ event hpends => (hw.2 _ hpends).imp_right fun h => h event rfl,
        fun _ hinput => nomatch hinput⟩
  by_cases hevent : config.requiredConfirmations = 0 ∧ ∃ event, input = .rskEvent event
  · obtain ⟨hzero, event, rfl⟩ := hevent
    refine step_of_wp (Q := Q) nofun hpanicked fun _ => ?_
    refine wp_mono (processNewRskEvent_converges rfl hzero fun pr hpr => hready' pr ⟨hzero, hpr⟩) ?_ ?_
    all_goals
      intro _ w hw
      refine ⟨hw.1.handled, (fun _ _ hinput => nomatch hinput), fun pr hinput _ _ => hw.2 pr ?_⟩
      cases hinput
      rfl
  -- the other inputs confirm nothing
  have hidle : ∀ s' : System Core, s'.processor.core.handled = [] → Q s' := by
    intro s' hs'
    refine ⟨settled_of_idle hs', fun block timestamp hinput => absurd ⟨block, timestamp, hinput⟩ hblock,
      fun event hinput hzero _ => absurd ⟨hzero, _, hinput⟩ hevent⟩
  have hcall : ∀ p : Processor, p.core.handled = [] → wp (callProgram config env input)
      (fun _ => OnCore fun w => w.own.handled = []) (fun _ => OnCore fun w => w.own.handled = [])
      ⟨p, []⟩ := fun p hp => callProgram_idle hp
    (fun block timestamp hinput => hblock ⟨block, timestamp, hinput⟩)
    fun event hinput hzero => hevent ⟨hzero, event, hinput⟩
  by_cases hrestart : input = .restart
  · subst hrestart
    refine step_restart_of_wp (Q := Q) ?_
    exact wp_always (hcall _ rfl) fun w hw => hidle _ hw.1
  · refine step_of_wp (Q := Q) hrestart hpanicked fun _ => ?_
    exact wp_always (hcall _ rfl) fun w hw => hidle _ hw.1

/-! A pegout of which another member registers the transaction. -/

def sampleRegistered (txid : U256) : EventWithBlock PegoutRegistered where
  inner := ⟨txid, 0, 7, ⟨0, 0, 0⟩⟩
  blockNumber := 5
  blockHash := 5
  removed := false
  txHash := 9

/-- The user-take transaction 2, in the order of bytes of the contracts. -/
def registration : EventWithBlock PegoutRegistered := sampleRegistered (2 <<< 248)

/-- The pegout waits for signatures. -/
def unsignedRun : List (PegoutEnv × Input) :=
  callsIn (.failing fun _ => false) (waitingInputs 0 1 "02")

/-- All signatures come, and the transaction is dispatched. -/
def dispatchedRun : List (PegoutEnv × Input) :=
  unsignedRun ++ callsIn (.failing fun _ => false)
    [.rskEvent (.allNoncesReady ⟨1, 1, 1, false, 7⟩), .block (blockAt 1 1 0) 1000,
      .block (blockAt 2 2 1) 1001, .rskEvent (.allSignaturesReady ⟨1, 2, 2, false, 8⟩),
      .block (blockAt 3 3 2) 1002]

/-- The state after a run, and after the registration that follows it. -/
def registeredAfter (inputs : List (PegoutEnv × Input)) (env : PegoutEnv) : System Core :=
  step sampleProcessorConfig (Machine.run (step sampleProcessorConfig) start inputs)
    (env, .rskEvent (.pegoutRegistered registration))

/-- A pegout that was dispatched takes the event. -/
theorem registration_ends_dispatched :
    ((Machine.run (step sampleProcessorConfig) start dispatchedRun).processor.core.pegoutFlows.lookup
        (sampleFlowId 1)).map (·.step) = some .confirmUserTakeTransaction
      ∧ Settled (registeredAfter dispatchedRun (.failing fun _ => false)).processor.core
      ∧ registration ∈ (registeredAfter dispatchedRun (.failing fun _ => false)).processor.core.handled
      := by
  have hentries : ∀ entry ∈ (Machine.run (step sampleProcessorConfig) start
      dispatchedRun).processor.core.pegoutFlows.inOrder (fun _ => 0),
      entry.1 = sampleFlowId 1 ∧ entry.2.step = .confirmUserTakeTransaction := by
    decide +kernel
  have hconverges : Converges sampleProcessorConfig
      (Machine.run (step sampleProcessorConfig) start dispatchedRun)
      (.failing fun _ => false, .rskEvent (.pegoutRegistered registration)) := by
    intro event _
    generalize Machine.run (step sampleProcessorConfig) start dispatchedRun = s at hentries
    have hflows : ∀ id flow, s.processor.core.pegoutFlows.lookup id = some flow →
        id = sampleFlowId 1 ∧ flow.step = .confirmUserTakeTransaction :=
      fun id flow hflow => hentries (id, flow) (Table.mem_inOrder.mpr hflow)
    refine ⟨fun id flow hflow _ _ => ?_, fun id id' flow flow' hflow hflow' _ _ _ _ => ?_,
      fun id flow _ _ _ ⟨_, _, hrefused⟩ => nomatch hrefused⟩
    · rw [(hflows id flow hflow).2]
      rfl
    · rw [(hflows id flow hflow).1, (hflows id' flow' hflow').1]
  obtain ⟨hsettled, -, hhandled⟩ := registration_never_dropped sampleProcessorConfig dispatchedRun
    (.failing fun _ => false) (.rskEvent (.pegoutRegistered registration)) hconverges
  refine ⟨by decide +kernel, ?_, ?_⟩
  · rw [registeredAfter]
    exact hsettled
  · rw [registeredAfter]
    exact hhandled registration rfl rfl (by decide +kernel)

def announcementRefused : PegoutEnv := .failing fun c => match c with
  | .send (.setVar _ name _) => name = pegoutCompletedVarName
  | _ => false

/-- The event is gone, and a live flow names its transaction. -/
def isLeft (s : System Core) : Bool :=
  registration ∈ s.processor.core.handled ∧ s.processor.confirming.eventsConfirming.isEmpty
    ∧ (s.processor.core.pegoutFlows.lookup (sampleFlowId 1)).any fun flow =>
      flow.userTakeTxid = some (registeredTxid registration) ∧ !flow.isTerminal

/-- A flow is left behind when it still waited for signatures, and when its completion could not be
announced. -/
theorem registration_consumed :
    isLeft (registeredAfter unsignedRun (.failing fun _ => false)) = true
      ∧ isLeft (registeredAfter dispatchedRun announcementRefused) = true := by
  decide +kernel

end UnionBridge.Pegout
