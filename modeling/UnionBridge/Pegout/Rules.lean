import UnionBridge.Coordinator.CallRules
import UnionBridge.Pegout.Processor
import UnionBridge.Pegout.Transitions

/-!
# Invariants of the pegout processor

`Rules` says that an invariant survives the changes from which the handlers are built: a flow
completes a step, a subflow is driven, terminal flows are dropped. `TimeoutRules` are the handlers
that also touch the timeouts, or that do something else an invariant may care about; for an
invariant that does not, they follow from the rules.
-/

namespace UnionBridge.Pegout

open Chain Contracts Bitvmx Coordinator Effect

/-! ## Reading the core -/

section Reading

variable {env : PegoutEnv} {w : World Core} {E : FlowError → World Core → Prop}

@[simp] theorem wp_modifyCore {f : Core → Core} {Q : Unit → World Core → Prop} :
    wp (modifyCore f) Q E w ↔ Q () ⟨f w.own, w.log⟩ := Iff.rfl

theorem wp_findFlow {p : State → Bool} {Q : Option (FlowId × State) → World Core → Prop}
    (hnone : (∀ id flow, w.own.pegoutFlows.lookup id = some flow → p flow = false) → Q none w)
    (hsome : ∀ id flow, w.own.pegoutFlows.lookup id = some flow → p flow = true →
      Q (some (id, flow)) w) :
    wp (findFlow env p) Q E w :=
  Table.find_inOrder (p := fun _ flow => p flow) (Q := fun found => Q found w) hnone hsome

theorem startSubFlow_frame (protocolId : Uuid) (data : RegisterSignaturesBitVmxData) :
    wp (startSubFlow env protocolId data)
      (fun _ w' => w.log <:+ w'.log
        ∧ ∃ subFlow, w'.own = putSubFlows (fun t => t.insert protocolId subFlow) w.own)
      (fun _ w' => w.log <:+ w'.log ∧ w'.own = w.own
        ∧ ∃ log e, env.answer log (.addMemberNonce data.hashToSign data.nonce) = .error e) w := by
  have hstart : wp (startSignatureFlow env.toEnv protocolId data) (fun _ _ => True)
      (fun _ _ => ∃ log e, env.answer log (.addMemberNonce data.hashToSign data.nonce) = .error e)
      ⟨SignatureSubFlow.new protocolId, w.log⟩ := by
    simp only [startSignatureFlow, sendNonceToContracts, modifySubFlow, wp_bind, wp_get, wp_ite,
      wp_pure, wp_ensure, wp_modify, wp_perform, wp_withContext, wp_orDomain, id]
    rw [if_neg (fun h => h rfl), if_pos ⟨rfl, rfl⟩]
    exact ⟨fun _ _ => trivial, fun e he => ⟨_, e, he⟩⟩
  simp only [startSubFlow, wp_bind, wp_zoom, wp_modifyCore, wp_get, wp_pure]
  apply wp_mono (wp_and hstart (grows_wp (grows_startSignatureFlow _ _) _))
  · exact fun _ t ht => ⟨ht.2, t.own, rfl⟩
  · exact fun _ t ht => ⟨ht.2, trivial, ht.1⟩

end Reading

/-! ## The rules -/

/-- Replace the tables that only decide when a flow is asked again. -/
def Core.withSchedules (core : Core) (txStatus : TickScheduler FlowId) (attempts : Table FlowId Nat)
    (retries : TickScheduler FlowId) : Core :=
  { core with
    txStatusScheduler := txStatus
    unconfirmedRegisterPegout := attempts
    registerPegoutRetryScheduler := retries }

/-- What an invariant has to survive. The data in `plain` complete steps without further ado. -/
structure Rules (config : ProcessorConfig) (env : PegoutEnv) (plain : StepData → Prop)
    (I : World Core → Prop) : Prop where
  called : ∀ {w : World Core} (entry : LogEntry), I w → I ⟨w.own, entry :: w.log⟩
  subFlows : ∀ {w : World Core} (f : SubFlows → SubFlows) {log : Contracts.Log}, w.log <:+ log →
    I w → I ⟨putSubFlows f w.own, log⟩
  schedules : ∀ {w : World Core} (txStatus attempts retries), I w →
    I ⟨w.own.withSchedules txStatus attempts retries, w.log⟩
  cleanup : Keeps I (cleanupTerminalFlows env)
  completed : ∀ {w : World Core} {id : FlowId} {flow : State} {data : StepData}, plain data → I w →
    w.own.pegoutFlows.lookup id = some flow →
    wp (completeFlowStep config env id flow data) (fun _ => I) (fun _ => I) w
  polled : ∀ {w : World Core} {id : FlowId} {flow : State}, I w →
    w.own.pegoutFlows.lookup id = some flow →
    wp (onFlow id flow (requestTransactionStatus env.toEnv)) (fun _ => I) (fun _ => I) w
  created : ∀ event, Keeps I (createFlowForPegoutRequested config env event)

/-- The invariant does not care about timeouts. -/
def IgnoresTimeouts (I : World Core → Prop) : Prop :=
  ∀ (w : World Core) (scheduler : TimeBasedScheduler FlowId) (pending : Table FlowId Unit), I w →
    I ⟨{ w.own with
      advanceFundsTimeoutScheduler := scheduler, flowsPendingTimeout := pending }, w.log⟩

/-- The handlers that an invariant may care about. -/
structure TimeoutRules (config : ProcessorConfig) (env : PegoutEnv) (I : World Core → Prop) :
    Prop where
  pendingScheduled : ∀ timestamp, Keeps I (schedulePendingTimeouts config env timestamp)
  expired : ∀ timestamp, Keeps I (handleAdvanceFundsTimeoutExpired config env timestamp)
  signed : ∀ protocolId, Keeps I (dispatchSigned config env protocolId)
  accepted : ∀ protocolId data, Keeps I (handlePegoutAccepted config env protocolId data)
  registered : ∀ event, Keeps I (handlePegoutRegistered config env event)

theorem keeps_schedulePendingTimeouts {config : ProcessorConfig} {env : PegoutEnv}
    {I : World Core → Prop} (htimeouts : IgnoresTimeouts I) (timestamp : UInt64) :
    Keeps I (schedulePendingTimeouts config env timestamp) := by
  intro w hw
  simp only [schedulePendingTimeouts, wp_bind, wp_get, wp_modifyCore]
  have hfold : ∀ (ids : List FlowId) (core : Core), I ⟨core, w.log⟩ →
      I ⟨ids.foldl (Core.schedulePendingTimeout config timestamp) core, w.log⟩ := by
    intro ids
    induction ids with
    | nil => exact fun _ hcore => hcore
    | cons id ids ih => exact fun core hcore => ih _ (htimeouts _ _ _ hcore)
  exact hfold _ _ hw

namespace Rules

variable {config : ProcessorConfig} {env : PegoutEnv} {plain : StepData → Prop}
  {I : World Core → Prop} (h : Rules config env plain I)

include h

/-! ### Confirmed events -/

theorem keeps_handleConfirmedEvent {event : RskPegManagerEvents}
    (hregistered : ∀ pr, event = .pegoutRegistered pr →
      Keeps I (handlePegoutRegistered config env pr)) :
    Keeps I (handleConfirmedEvent config env event) := by
  unfold handleConfirmedEvent
  split
  · next pr =>
    intro w hw
    simp only [wp_bind, wp_okOr, wp_ite, wp_pure]
    refine ⟨fun committeeId _ => ?_, fun _ => hw⟩
    split
    · exact hw
    · exact h.created pr w hw
  · exact keeps_bind (hregistered _ rfl) fun _ => keeps_pure true
  · exact keeps_pure true

theorem keeps_processConfirmedRskEvent {event : RskPegManagerEvents}
    (hregistered : ∀ pr, event = .pegoutRegistered pr →
      Keeps I (handlePegoutRegistered config env pr)) :
    Keeps I (processConfirmedRskEvent config env event) := by
  refine keeps_bind (h.keeps_handleConfirmedEvent hregistered) fun cleans => ?_
  unfold cleanupIf
  split
  · exact h.cleanup
  · exact keeps_pure ()

/-! ### Signatures -/

theorem keeps_processUnhandledConfirmedSigFlowEvents
    (hsigned : ∀ protocolId, Keeps I (dispatchSigned config env protocolId))
    (block : RskBlockAndUncles) :
    Keeps I (processUnhandledConfirmedSigFlowEvents config env block) := by
  refine keeps_bind (fun _ hw => hw) fun ids => ?_
  refine keeps_bind (keeps_forEachSubFlow (fun hw _ => ?_) ids) fun _ => ?_
  · exact wp_always (grows_wp (grows_delegateBlock block) _) fun _ hlog => h.subFlows _ hlog hw
  · exact keeps_bind (fun _ hw => hw) fun w => keeps_forM hsigned _

theorem keeps_delegateSignatureEvent (event : RskPegManagerEvents) :
    Keeps I (delegateSignatureEvent config env event) := by
  refine keeps_bind (fun _ hw => hw) fun ids => ?_
  refine keeps_forEachSubFlow (fun hw _ => ?_) ids
  exact wp_always (grows_wp (grows_delegateRskEvent _ _ event) _)
    fun _ hlog => h.subFlows _ hlog hw

/-! ### Status of the user-take transaction -/

theorem keeps_handleTransactionStatusReceived
    (hplain : ∀ status, plain (.transactionConfirmed status)) (protocolId : Uuid)
    (txStatus : TransactionStatus) :
    Keeps I (handleTransactionStatusReceived config env protocolId txStatus) := by
  intro w hw
  simp only [handleTransactionStatusReceived, pegoutFlowByProtocolId, wp_bind]
  apply wp_findFlow
  · exact fun _ => hw
  · intro id flow hlookup _
    simp only [wp_bind, wp_okOr, wp_ensure, wp_ite, wp_modifyCore]
    refine ⟨fun expected _ => ?_, fun _ => hw⟩
    split
    · split
      · split
        · exact wp_imp (h.completed (hplain txStatus) hw hlookup)
            fun _ _ hw' => h.schedules _ _ _ hw'
        · exact h.schedules _ _ _ hw
      · exact hw
    · exact hw

theorem keeps_pollTransactionStatus (id : FlowId) : Keeps I (pollTransactionStatus env id) := by
  intro w hw
  simp only [pollTransactionStatus, wp_bind, wp_get]
  split
  · exact hw
  · next flow hlookup =>
    rw [wp_ite]
    split
    · exact h.polled hw hlookup
    · exact hw

theorem keeps_handleTransactionStatusTick : Keeps I (handleTransactionStatusTick env) := by
  intro w hw
  simp only [handleTransactionStatusTick, wp_bind, wp_get, wp_modifyCore]
  exact keeps_forM h.keeps_pollTransactionStatus _ _ (h.schedules _ _ _ hw)

/-! ### Failing a flow -/

theorem keeps_handleUserRequest
    (hfailed : ∀ (w : World Core) (id : FlowId) (flow : State), I w →
      w.own.pegoutFlows.lookup id = some flow →
      wp (onFlow id flow (markFailed config.toConfig env.toEnv)) (fun _ => I) (fun _ => I) w)
    (request : UserRequests) : Keeps I (handleUserRequest config env request) := by
  unfold handleUserRequest
  split
  · refine keeps_bind (fun w hw => ?_) fun _ => h.cleanup
    simp only [markFlowFailed, wp_bind, wp_get]
    split
    · next flow hlookup => exact hfailed _ _ _ hw hlookup
    · exact hw
  · exact keeps_pure ()

/-! ### Retries of `registerPegout` -/

theorem keeps_retryRegisterPegout (hplain : plain .retryRegisterPegout) (id : FlowId) :
    Keeps I (retryRegisterPegout config env id) := by
  intro w hw
  simp only [retryRegisterPegout, wp_bind, wp_get]
  split
  · exact hw
  · next attempts _ =>
    simp only [wp_bind, wp_modifyCore, wp_get]
    have hw' : I ⟨{ w.own with
        unconfirmedRegisterPegout := w.own.unconfirmedRegisterPegout.erase id }, w.log⟩ :=
      h.schedules w.own.txStatusScheduler _ w.own.registerPegoutRetryScheduler hw
    split
    · exact hw'
    · next flow hlookup =>
      simp only [wp_ite, wp_pure, wp_bind, wp_attempt]
      split
      · exact hw'
      apply wp_mono (h.completed hplain hw' hlookup) fun _ _ hw₁ => hw₁
      intro e w₁ hw₁
      split
      · simp only [scheduleRegisterPegoutRetry, wp_modifyCore]
        split
        · exact hw₁
        split
        · exact hw₁
        · exact h.schedules w₁.own.txStatusScheduler _ _ hw₁
      · exact hw₁

theorem keeps_handleRegisterPegoutRetryTick (hplain : plain .retryRegisterPegout) :
    Keeps I (handleRegisterPegoutRetryTick config env) := by
  intro w hw
  simp only [handleRegisterPegoutRetryTick, wp_bind, wp_get, wp_modifyCore]
  exact keeps_forM (h.keeps_retryRegisterPegout hplain) _ _
    (h.schedules w.own.txStatusScheduler w.own.unconfirmedRegisterPegout _ hw)

/-! ### Messages of `BitVMX` -/

theorem keeps_handleCommInfo (hplain : ∀ info, plain (.commInfo info)) (info : CommsAddress) :
    Keeps I (handleCommInfo config env info) := by
  refine keeps_bind (fun _ hw => hw) fun start => ?_
  refine keeps_forM (fun id w hw => ?_) _
  simp only [wp_bind, wp_get]
  split
  · exact hw
  · next flow hlookup =>
    rw [wp_ite]
    split
    · exact h.completed (hplain info) hw hlookup
    · exact hw

theorem keeps_handleSpvProof (hplain : ∀ proof, plain (.spvProof proof)) (txId : Txid)
    (proof : Option BtcTxSPVProof) : Keeps I (handleSpvProof config env txId proof) := by
  intro w hw
  simp only [handleSpvProof, flowByUserTakeTxid, wp_bind, wp_okOr]
  refine ⟨fun proof _ => ?_, fun _ => hw⟩
  apply wp_findFlow
  · exact fun _ => hw
  · intro id flow hlookup _
    simp only [wp_bind, wp_ensure, wp_attempt, wp_pure]
    split
    · apply wp_mono (h.completed (hplain proof) hw hlookup) fun _ _ hw₁ => hw₁
      intro e w₁ hw₁
      split
      · simp only [wp_ite, wp_bind, wp_get, scheduleRegisterPegoutRetry, wp_modifyCore, wp_pure,
          wp_throw]
        split
        · exact h.schedules w₁.own.txStatusScheduler _ _ hw₁
        split
        · exact hw₁
        · exact hw₁
      · exact hw₁
    · exact hw

/-! ### Timeouts -/

theorem keeps_handlePegoutRegistered
    (hnoted : ∀ {w : World Core} (event : EventWithBlock PegoutRegistered), I w →
      I ⟨{ w.own with handled := event :: w.own.handled }, w.log⟩)
    (event : EventWithBlock PegoutRegistered) (hplain : plain (.pegoutRegistered event)) :
    Keeps I (handlePegoutRegistered config env event) := by
  intro w hw
  simp only [handlePegoutRegistered, flowByUserTakeTxid, wp_bind, wp_modifyCore]
  have hw' := hnoted event hw
  apply wp_findFlow
  · exact fun _ => hw'
  · exact fun id flow hlookup _ => h.completed hplain hw' hlookup

theorem keeps_triggerOperatorTakeForFlow (hplain : plain .triggerOperatorTakeTimeout)
    (id : FlowId) : Keeps I (triggerOperatorTakeForFlow config env id) := by
  intro w hw
  simp only [triggerOperatorTakeForFlow, wp_bind, wp_get, wp_okOr]
  refine ⟨fun flow hlookup => ?_, fun _ => hw⟩
  simp only [wp_ite, wp_pure, wp_bind, wp_modifyCore]
  split
  · exact hw
  have hw' : I ⟨putSubFlows (fun t => t.erase flow.ctx.bitvmxProtocolId.value) w.own, w.log⟩ :=
    h.subFlows _ List.suffix_rfl hw
  apply wp_imp (h.completed hplain hw' hlookup)
  intro _ w₁ hw₁
  rw [wp_get]
  split
  · next flow' hlookup' =>
    rw [wp_ite]
    split
    · exact h.completed hplain hw₁ hlookup'
    · exact hw₁
  · exact hw₁

theorem keeps_startSubFlowUnless (skip : Bool) (protocolId : Uuid)
    (data : RegisterSignaturesBitVmxData) :
    Keeps I (startSubFlowUnless skip env protocolId data) := by
  intro w hw
  unfold startSubFlowUnless
  rw [wp_ite]
  split
  · exact hw
  apply wp_mono (startSubFlow_frame protocolId data)
  · rintro _ w' ⟨hlog, subFlow, hown⟩
    have hw' := h.subFlows (fun t => t.insert protocolId subFlow) hlog hw
    rwa [← hown] at hw'
  · rintro _ w' ⟨hlog, hown, -⟩
    have hw' : I ⟨w.own, w'.log⟩ := h.subFlows (fun t => t) hlog hw
    rwa [← hown] at hw'

theorem keeps_handleAdvanceFundsTimeoutExpired (htimeouts : IgnoresTimeouts I)
    (hplain : plain .triggerOperatorTakeTimeout) (timestamp : UInt64) :
    Keeps I (handleAdvanceFundsTimeoutExpired config env timestamp) := by
  intro w hw
  simp only [handleAdvanceFundsTimeoutExpired, wp_bind, wp_get, wp_modifyCore]
  exact keeps_forM (h.keeps_triggerOperatorTakeForFlow hplain) _ _
    (htimeouts w _ w.own.flowsPendingTimeout hw)

theorem keeps_dispatchSigned (htimeouts : IgnoresTimeouts I) (hplain : plain .userTakeSignaturesReady)
    (protocolId : Uuid) : Keeps I (dispatchSigned config env protocolId) := by
  intro w hw
  simp only [dispatchSigned, pegoutFlowByProtocolId, wp_bind, wp_modifyCore]
  have hw' : I ⟨putSubFlows (fun t => t.erase protocolId) w.own, w.log⟩ :=
    h.subFlows _ List.suffix_rfl hw
  apply wp_findFlow
  · exact fun _ => hw'
  · intro id flow hlookup _
    simp only [wp_ite, wp_pure, wp_bind, wp_modifyCore]
    split
    · exact hw'
    · exact wp_imp (h.completed hplain hw' hlookup)
        fun _ w₁ hw₁ => htimeouts w₁ _ w₁.own.flowsPendingTimeout hw₁

theorem keeps_handlePegoutAccepted (htimeouts : IgnoresTimeouts I)
    (hplain : ∀ accepted, plain (.pegoutAccepted accepted)) (protocolId : Uuid) (data : String) :
    Keeps I (handlePegoutAccepted config env protocolId data) := by
  intro w hw
  simp only [handlePegoutAccepted, pegoutFlowByProtocolId, wp_bind]
  apply wp_findFlow
  · exact fun _ => hw
  · intro id flow hlookup _
    simp only [wp_bind, wp_okOr, wp_ensure]
    refine ⟨fun input _ => ?_, fun _ => hw⟩
    split
    · apply wp_imp (h.completed (hplain input) hw hlookup)
      intro _ w₁ hw₁
      exact wp_imp (h.keeps_startSubFlowUnless _ _ _ w₁ hw₁)
        fun _ w₂ hw₂ => htimeouts w₂ w₂.own.advanceFundsTimeoutScheduler _ hw₂
    · exact hw

/-- **The handlers**, for an invariant that does not care about timeouts. -/
theorem timeoutRules
    (hplain : ∀ data, (∀ event, data ≠ .pegoutRegistered event) → plain data)
    (htimeouts : IgnoresTimeouts I)
    (hregistered : ∀ event, Keeps I (handlePegoutRegistered config env event)) :
    TimeoutRules config env I where
  pendingScheduled := keeps_schedulePendingTimeouts htimeouts
  expired := h.keeps_handleAdvanceFundsTimeoutExpired htimeouts (hplain _ nofun)
  signed := h.keeps_dispatchSigned htimeouts (hplain _ nofun)
  accepted := h.keeps_handlePegoutAccepted htimeouts fun _ => hplain _ nofun
  registered := hregistered

theorem wp_beforeConfirmations {w : World Core} {block : RskBlockAndUncles} {timestamp : UInt64}
    (hcleanup : wp (cleanupTerminalFlows env) (fun _ => I) (fun _ => I) w)
    (hscheduled : Keeps I (schedulePendingTimeouts config env timestamp))
    (hexpired : Keeps I (handleAdvanceFundsTimeoutExpired config env timestamp))
    (hsigned : ∀ protocolId, Keeps I (dispatchSigned config env protocolId))
    (hretry : plain .retryRegisterPegout) :
    wp (beforeConfirmations config env block timestamp) (fun _ => I) (fun _ => I) w := by
  rw [beforeConfirmations, wp_bind]
  refine wp_imp hcleanup fun _ w₁ hw₁ => ?_
  refine keeps_bind hscheduled (fun _ => keeps_bind hexpired fun _ => ?_) w₁ hw₁
  refine keeps_bind (h.keeps_processUnhandledConfirmedSigFlowEvents hsigned block) fun _ => ?_
  exact keeps_bind h.keeps_handleTransactionStatusTick fun _ =>
    h.keeps_handleRegisterPegoutRetryTick hretry

end Rules

/-! ## Whole calls -/

section Calls

variable {config : ProcessorConfig} {env : PegoutEnv} {I : World Core → Prop} {w : World Processor}
  (hcalled : ∀ {w : World Core} (entry : LogEntry), I w → I ⟨w.own, entry :: w.log⟩)

/-- The invariant of the core, in the state of the processor. -/
def OnCore (I : World Core → Prop) : World Processor → Prop := Carried I fun _ => True

theorem keeps_onCore {α : Type} {m : CoreM α} (hm : Keeps I m) : Keeps (OnCore I) (liftCore m) :=
  keeps_carried_liftCore hm

theorem wp_onCore_bind {α β : Type} {m : CoreM β} {f : β → CoreM α}
    (h : wp (m >>= f) (fun _ => I) (fun _ => I) ⟨w.own.core, w.log⟩) :
    wp (liftCore m >>= fun b => liftCore (f b)) (fun _ => OnCore I) (fun _ => OnCore I) w := by
  simp only [wp_bind, wp_liftCore] at h ⊢
  refine wp_mono h (fun b t ht => ?_) fun _ _ ht => ⟨ht, fun _ _ => trivial⟩
  exact wp_always ht fun _ h => ⟨h, fun _ _ => trivial⟩

include hcalled

theorem keeps_onCore_persist :
    Keeps (OnCore I) (persistProcessorState env.toCallEnv .pegoutProcessorState) :=
  keeps_carried_persistProcessorState (I := I) hcalled (fun _ => trivial) _

theorem wp_processNewBlock {block : RskBlockAndUncles} {timestamp : UInt64}
    (hcleanup : Keeps I (cleanupTerminalFlows env))
    (hconfirmed : ∀ event, Keeps I (processConfirmedRskEvent config env event))
    (hbefore : wp (beforeConfirmations config env block timestamp) (fun _ => I) (fun _ => I)
      ⟨w.own.core, w.log⟩) :
    wp (processNewBlock config env block timestamp) (fun _ => OnCore I) (fun _ => OnCore I) w := by
  rw [processNewBlock, wp_bind, wp_liftCore]
  apply wp_mono hbefore _ fun _ _ ht => ⟨ht, fun _ _ => trivial⟩
  intro _ t ht
  refine keeps_bind ?_ (fun _ => keeps_onCore_persist hcalled) _ ⟨ht, fun _ _ => trivial⟩
  exact keeps_carried_processBlockConfirmations hconfirmed hcleanup block

theorem wp_processNewRskEvent {event : RskPegManagerEvents}
    (hcleanup : wp (cleanupTerminalFlows env) (fun _ => I) (fun _ => I) ⟨w.own.core, w.log⟩)
    (hsignature : ∀ event, Keeps I (delegateSignatureEvent config env event))
    (hconfirmed : config.requiredConfirmations = 0 →
      Keeps I (processConfirmedRskEvent config env event)) :
    wp (processNewRskEvent config env event) (fun _ => OnCore I) (fun _ => OnCore I) w := by
  have hpersist : Keeps (OnCore I) (persistProcessorState env.toCallEnv .pegoutProcessorState) :=
    keeps_onCore_persist hcalled
  rw [processNewRskEvent, wp_bind, wp_liftCore]
  refine wp_mono hcleanup (fun _ t ht => ?_) fun _ _ ht => ⟨ht, fun _ _ => trivial⟩
  have hw : OnCore I ⟨{ w.own with core := t.own }, t.log⟩ := ⟨ht, fun _ _ => trivial⟩
  revert hw
  generalize (⟨{ w.own with core := t.own }, t.log⟩ : World Processor) = w₁
  revert w₁
  split
  · exact keeps_bind (keeps_onCore (hsignature event)) fun _ => hpersist
  split
  · next hzero => exact keeps_bind (keeps_onCore (hconfirmed hzero)) fun _ => hpersist
  split
  · exact keeps_pure ()
  · exact keeps_bind (keeps_carried_trackEvent _ _ event) fun _ => hpersist

theorem wp_processNewBitvmxEvent {event : OutgoingBitVMXApiMessages}
    (hevent : wp (do cleanupTerminalFlows env; handleBitvmxEvent config env event) (fun _ => I)
      (fun _ => I) ⟨w.own.core, w.log⟩) :
    wp (processNewBitvmxEvent config env event) (fun _ => OnCore I) (fun _ => OnCore I) w := by
  have hboth : wp (do
      liftCore (cleanupTerminalFlows env)
      liftCore (handleBitvmxEvent config env event)) (fun _ => OnCore I) (fun _ => OnCore I) w :=
    wp_onCore_bind hevent
  rw [processNewBitvmxEvent, wp_bind]
  rw [wp_bind] at hboth
  apply wp_imp hboth
  intro _ w₁ h₁
  rw [wp_bind]
  apply wp_imp h₁
  intro stores w₂ h₂
  unfold persistIfSaid
  rw [wp_ite]
  split
  · exact keeps_onCore_persist hcalled w₂ h₂
  · exact h₂

theorem keeps_processUserRequest (hcleanup : Keeps I (cleanupTerminalFlows env))
    (huser : ∀ request, Keeps I (handleUserRequest config env request)) (request : UserRequests) :
    Keeps (OnCore I) (processUserRequest config env request) :=
  keeps_bind (keeps_onCore hcleanup) fun _ =>
    keeps_bind (keeps_onCore (huser request)) fun _ => keeps_onCore_persist hcalled

end Calls

structure Handlers (config : ProcessorConfig) (env : PegoutEnv) (I : World Core → Prop) :
    Prop where
  called : ∀ {w : World Core} (entry : LogEntry), I w → I ⟨w.own, entry :: w.log⟩
  cleanup : Keeps I (cleanupTerminalFlows env)
  block : ∀ block timestamp, Keeps I (beforeConfirmations config env block timestamp)
  confirmed : ∀ event, Keeps I (processConfirmedRskEvent config env event)
  signature : ∀ event, Keeps I (delegateSignatureEvent config env event)
  bitvmx : ∀ event, Keeps I (handleBitvmxEvent config env event)
  user : ∀ request, Keeps I (handleUserRequest config env request)
  reconstructed : Keeps I (reconstructRuntimeStateFromFlows config env)

section Handlers

variable {config : ProcessorConfig} {env : PegoutEnv} {plain : StepData → Prop}
  {I : World Core → Prop}

theorem Rules.keeps_handleBitvmxEvent (h : Rules config env plain I)
    (hcommInfo : ∀ info, plain (.commInfo info))
    (hstatus : ∀ status, plain (.transactionConfirmed status))
    (hproof : ∀ proof, plain (.spvProof proof)) {event : OutgoingBitVMXApiMessages}
    (haccepted : ∀ protocolId data, event = .variable protocolId pegoutAcceptedName (.string data) →
      Keeps I (handlePegoutAccepted config env protocolId data)) :
    Keeps I (handleBitvmxEvent config env event) := by
  have hstore : ∀ {m : CoreM Unit}, Keeps I m → Keeps I (andStore m) := fun hm =>
    keeps_bind hm fun _ => keeps_pure true
  unfold handleBitvmxEvent
  split
  · exact hstore (h.keeps_handleCommInfo hcommInfo _)
  · split
    · next hname => exact hstore (haccepted _ _ (by rw [hname]))
    · exact keeps_pure true
  · exact h.keeps_handleSpvProof hproof _ _
  · exact hstore (h.keeps_handleTransactionStatusReceived hstatus _ _)
  · exact keeps_pure true

theorem Rules.handlers (h : Rules config env plain I) (ht : TimeoutRules config env I)
    (hcommInfo : ∀ info, plain (.commInfo info))
    (hstatus : ∀ status, plain (.transactionConfirmed status))
    (hproof : ∀ proof, plain (.spvProof proof)) (hretry : plain .retryRegisterPegout)
    (hfailed : ∀ (w : World Core) (id : FlowId) (flow : State), I w →
      w.own.pegoutFlows.lookup id = some flow →
      wp (onFlow id flow (markFailed config.toConfig env.toEnv)) (fun _ => I) (fun _ => I) w)
    (hreconstructed : Keeps I (reconstructRuntimeStateFromFlows config env)) :
    Handlers config env I where
  called := h.called
  cleanup := h.cleanup
  block _ timestamp w hw := h.wp_beforeConfirmations (h.cleanup w hw)
    (ht.pendingScheduled timestamp) (ht.expired timestamp) ht.signed hretry
  confirmed _ := h.keeps_processConfirmedRskEvent fun pr _ => ht.registered pr
  signature := h.keeps_delegateSignatureEvent
  bitvmx _ := h.keeps_handleBitvmxEvent hcommInfo hstatus hproof fun _ _ _ => ht.accepted _ _
  user := h.keeps_handleUserRequest hfailed
  reconstructed := hreconstructed

/-- **A call of the coordinator**, or a start of the process on what was loaded. -/
theorem Handlers.keeps_callProgram (h : Handlers config env I) (input : Input) :
    Keeps (OnCore I) (callProgram config env input) := by
  cases input with
  | block block timestamp =>
    exact fun w hw => wp_processNewBlock h.called h.cleanup h.confirmed (h.block _ _ _ hw.1)
  | rskEvent event =>
    exact fun w hw => wp_processNewRskEvent h.called (h.cleanup _ hw.1) h.signature
      fun _ => h.confirmed event
  | bitvmxEvent event =>
    exact fun w hw => wp_processNewBitvmxEvent h.called
      (keeps_bind h.cleanup (fun _ => h.bitvmx event) _ hw.1)
  | userRequest request => exact keeps_processUserRequest h.called h.cleanup h.user request
  | restart => exact keeps_onCore h.reconstructed

end Handlers

end UnionBridge.Pegout
