import UnionBridge.Pegin.Soundness

/-!
# What a pegin flow holds is its own

The processor looks a flow up by the transaction of an event and keeps the events that come too early
in buffers. In every reachable state the `PeginRequested` event that a flow holds is one of its own
transaction, and its protocol id, by which the messages of BitVMX are routed, is that of the slot in it.
-/

namespace UnionBridge.Pegin

open Chain Contracts Bitvmx Coordinator Effect

/-- The request that a flow holds is one for its own transaction, and gave it its protocol id. -/
def State.OwnsRequest (libs : Libs) (id : FlowId) (s : State) : Prop :=
  ∀ event, s.ctx.peginRequested = some event →
    flowIdFromRequestPeginTxid libs (TxIdParser.fb32ToTxid event.requestPeginTxid) = id
      ∧ s.ctx.bitvmxProtocolId
        = some (acceptPeginProtocolId libs event.committeeId event.streamPosition.slotId)

/-- Data that are not a request for another flow. -/
def StepData.IsFor (libs : Libs) (id : FlowId) (data : StepData) : Prop :=
  ∀ event, data = .peginRequested event →
    flowIdFromRequestPeginTxid libs (TxIdParser.fb32ToTxid event.requestPeginTxid) = id

section Flow

variable {libs : Libs} {id : FlowId} {data : StepData} {f f₁ f' : Flow} {next : Option Steps}

/-- A flow in memory and its record. -/
structure Flow.OwnsRequest (libs : Libs) (id : FlowId) (f : Flow) : Prop where
  memory : f.state.OwnsRequest libs id
  record : ∀ s, f.saved = some s → s.OwnsRequest libs id

theorem Flow.OwnsRequest.of_saved (hf : f.OwnsRequest libs id) (hmemory : f'.state.OwnsRequest libs id)
    (hsaved : f'.saved = f.saved ∨ f'.saved = some f'.state) : f'.OwnsRequest libs id := by
  refine ⟨hmemory, fun s hs => ?_⟩
  rcases hsaved with hsaved | hsaved
  · exact hf.record s (hsaved ▸ hs)
  · cases hsaved.symm.trans hs
    exact hmemory

/-- The request and the protocol id come together, and only with the data of the event. -/
theorem Stored.ownsRequest (h : Stored libs f data f₁ next) (hdata : data.IsFor libs id)
    (hf : f.OwnsRequest libs id) : f₁.OwnsRequest libs id := by
  refine hf.of_saved ?_ (h.frame.2.2.2.imp_right And.left)
  cases h
  case requested event _ =>
    intro e he
    cases he
    exact ⟨hdata event rfl, rfl⟩
  all_goals exact hf.memory

theorem Entered.ownsRequest {step : Steps} (h : Entered step f f') (hf : f.OwnsRequest libs id) :
    f'.OwnsRequest libs id := by
  obtain ⟨output, role, hctx⟩ := h.ctx
  refine hf.of_saved (fun e he => ?_) h.saved
  rw [hctx] at he ⊢
  exact hf.memory e he

theorem Completed.ownsRequest (h : Completed libs data f f') (hdata : data.IsFor libs id)
    (hf : f.OwnsRequest libs id) : f'.OwnsRequest libs id := by
  cases h with
  | stopped h => exact h.ownsRequest hdata hf
  | entered next f₁ h hentered => exact hentered.ownsRequest (h.ownsRequest hdata hf)

end Flow

section Processor

variable {config : ProcessorConfig} {env : CallEnv}

/-- A formed flow with a request of its own, whatever was called. -/
def Owned (libs : Libs) (id : FlowId) (_ : Contracts.Log) (s : State) : Prop :=
  s.Formed libs id ∧ s.OwnsRequest libs id

theorem hasProperty_owned {libs : Libs} {id : FlowId} {w : World Flow} :
    HasProperty (Owned libs) id w ↔ w.own.Formed libs id ∧ w.own.OwnsRequest libs id :=
  ⟨fun h => ⟨⟨h.memory.1, fun s hs => (h.record s hs).1⟩, h.memory.2, fun s hs => (h.record s hs).2⟩,
    fun h => ⟨⟨h.1.memory, h.2.memory⟩, fun s hs => ⟨h.1.record s hs, h.2.record s hs⟩⟩⟩

theorem keeps_owned_completeStep {id : FlowId} {data : StepData} (hdata : data.IsFor config.libs id) :
    Keeps (HasProperty (Owned config.libs) id) (completeStep config.toConfig env.toEnv data) := by
  intro w hw
  obtain ⟨hformed, howns⟩ := hasProperty_owned.mp hw
  have hend : ∀ w' : World Flow, Completed config.libs data w.own w'.own →
      HasProperty (Owned config.libs) id w' := fun w' h =>
    hasProperty_owned.mpr ⟨h.formed hformed, h.ownsRequest hdata howns⟩
  exact wp_mono (completeStep_succeeds _) (fun _ w' h => hend w' h.completed) fun _ => hend

theorem flowProperty_owned :
    FlowProperty config env (fun data => ∀ event, data ≠ .peginRequested event) (Owned config.libs) where
  calls _ _ _ _ _ h := h
  keyed h := h.1.flowId
  new _ txid := ⟨.new _ _, nofun⟩
  found := nofun
  completed hdata := keeps_owned_completeStep fun event heq => absurd heq (hdata event)
  failed w hw := by
    obtain ⟨hformed, howns⟩ := hasProperty_owned.mp hw
    exact wp_always markFailed_enters fun w' h =>
      hasProperty_owned.mpr ⟨h.failed_formed hformed, h.ownsRequest howns⟩

/-- A request goes to the flow of its transaction, or into the buffer. -/
theorem owned_requested (pr : EventWithBlock PeginRequested) :
    Keeps (Upholds (Owned config.libs)) (handlePeginRequested config env pr) := by
  have hproperty : FlowProperty config env _ (Owned config.libs) := flowProperty_owned
  intro w hw
  simp only [handlePeginRequested, wp_bind, wp_get, wp_ite, wp_modifyCore]
  split
  · exact hproperty.rules.requestBuffered pr hw
  simp only [createFlowForPeginRequested, wp_ite, wp_bind, wp_ensure, wp_get, wp_pure]
  split
  · exact hw
  apply wp_findFlow
  · intro hfree
    simp only [Option.isNone_none, if_true]
    split
    · next flow hlookup =>
      refine upholds_onFlow hproperty.calls (within_completeStep admitsAll_grows _)
        (keeps_owned_completeStep fun event heq => ?_) hw (hw.flows _ _ hlookup)
      cases heq
      rfl
    · exact hw
  · intro id flow hlookup hholds
    exact hw

/-- **One call**, a restart included. -/
theorem owned_step {s : System Core} (h : SystemUpholds (Owned config.libs) s) (call : CallEnv × Input) :
    SystemUpholds (Owned config.libs) (step config s call) := by
  obtain ⟨env, input⟩ := call
  have hhandlers : Handlers config env (Upholds (Owned config.libs)) Core.Tables :=
    flowProperty_owned.rules.handlers (fun _ h => h) owned_requested flowProperty_owned.takeRules
      upholds_requestRules fun h => h.tables
  have hrestart : Upholds (Owned config.libs)
      ⟨(Processor.restart config env (Processor.begin s.processor)).core, s.past⟩ :=
    h.upholds.restart (fun _ _ _ hs => hs.1.flowId) h.saved
  obtain ⟨log, -, hcore, hsaved⟩ := hhandlers.step_keeps (s := s)
    ⟨h.flows, h.store, (fun _ _ hs => nomatch hs), h.tables⟩ h.saved
    ⟨hrestart.flows, hrestart.store, (fun _ _ hs => nomatch hs), hrestart.tables⟩ input
  exact ⟨hcore.flows, hcore.store, hcore.tables, hsaved⟩

theorem owned_run (inputs : List (CallEnv × Input)) :
    SystemUpholds (Owned config.libs) (Machine.run (step config) start inputs) :=
  Machine.run_keeps (SystemUpholds (Owned config.libs)) (fun _ call hs => owned_step hs call)
    systemUpholds_start inputs

end Processor

/-- **Every flow holds what is its own.** Whatever came in and whichever calls failed: each flow, in
memory and in the store, stands under the id of its transaction with the data of its step, its request is
one for this transaction and gave it its protocol id, and a buffered event stands under its transaction. -/
theorem flows_own_their_requests (config : ProcessorConfig) (inputs : List (CallEnv × Input)) :
    let core := (Machine.run (step config) start inputs).processor.core
    (∀ id flow, core.peginFlows.lookup id = some flow ∨ core.store.lookup id = some flow →
        flow.Formed config.libs id ∧ flow.OwnsRequest config.libs id)
      ∧ core.Tables := by
  have hrun : SystemUpholds (Owned config.libs) _ := owned_run inputs
  exact ⟨fun id flow h => h.elim (hrun.flows id flow) (hrun.store id flow), hrun.tables⟩

end UnionBridge.Pegin
