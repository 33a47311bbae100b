import UnionBridge.Coordinator.CallRules
import UnionBridge.Pegin.Processor

/-!
# Invariants of the pegin processor

Every call of the processor is built from a few changes of its core: a flow completes a step, a
message or event is buffered, a subflow is driven, terminal flows are dropped. `Rules` says that an
invariant survives each of them; the lemmas of this module then carry it through every handler, with
any answers of the outside and however the handler ends. Handlers that do more than that take what
they need as a hypothesis of their own.
-/

namespace UnionBridge.Pegin

open Chain Contracts Bitvmx Coordinator Effect

/-! ## Reading the core -/

section Reading

variable {env : CallEnv} {w : World Core} {E : FlowError → World Core → Prop}

@[simp] theorem wp_modifyCore {f : Core → Core} {Q : Unit → World Core → Prop} :
    wp (modifyCore f) Q E w ↔ Q () ⟨f w.own, w.log⟩ := Iff.rfl

theorem wp_findFlow {p : FlowId → State → Bool} {Q : Option (FlowId × State) → World Core → Prop}
    (hnone : (∀ id flow, w.own.peginFlows.lookup id = some flow → p id flow = false) → Q none w)
    (hsome : ∀ id flow, w.own.peginFlows.lookup id = some flow → p id flow = true →
      Q (some (id, flow)) w) :
    wp (findFlow env p) Q E w :=
  Table.find_inOrder (Q := fun found => Q found w) hnone hsome

theorem startSubFlow_frame (protocolId : Uuid) (data : RegisterSignaturesBitVmxData) :
    wp (startSubFlow env protocolId data)
      (fun _ w' => ∃ subFlow, w'.own = putSubFlows (fun t => t.insert protocolId subFlow) w.own)
      (fun _ w' => w'.own = w.own) w := by
  simp only [startSubFlow, wp_bind, wp_zoom, wp_modifyCore, wp_get, wp_pure]
  exact wp_mono wp_trivial (fun _ t _ => ⟨t.own, rfl⟩) fun _ _ _ => trivial

theorem requestPeginFlow_eq_some {libs : Libs} {core : Core} {txId : Txid} {id : FlowId}
    {flow : State} :
    core.requestPeginFlow libs txId = some (id, flow) ↔ id = flowIdFromRequestPeginTxid libs txId
      ∧ core.peginFlows.lookup id = some flow ∧ flow.ctx.step = .requestPeginSpvProof := by
  unfold Core.requestPeginFlow
  dsimp only
  constructor
  · intro h
    split at h
    · next flow' hlookup =>
      split at h
      · next hstep =>
        cases h
        exact ⟨rfl, hlookup, hstep⟩
      · cases h
    · cases h
  · rintro ⟨rfl, hlookup, hstep⟩
    simp only [hlookup, hstep, if_true]

end Reading

/-! ## The rules -/

/-- Replace the tables that only decide when a flow is asked again. -/
def Core.withSchedules (core : Core) (txStatus : TickScheduler FlowId) (tracker : Finset Txid)
    (accepts : Table FlowId Nat) (acceptRetries : TickScheduler FlowId) : Core :=
  { core with
    txStatusScheduler := txStatus
    peginRequestTracker := tracker
    unconfirmedAcceptPegin := accepts
    acceptPeginRetryScheduler := acceptRetries }

/-- What an invariant has to survive. The data in `plain` complete steps without further ado. -/
structure Rules (config : ProcessorConfig) (env : CallEnv) (plain : StepData → Prop)
    (I : World Core → Prop) : Prop where
  called : ∀ {w : World Core} (entry : LogEntry), I w → I ⟨w.own, entry :: w.log⟩
  schedules : ∀ {w : World Core} (txStatus tracker accepts acceptRetries), I w →
    I ⟨w.own.withSchedules txStatus tracker accepts acceptRetries, w.log⟩
  cleanup : Keeps I (cleanupTerminalFlows config env)
  completed : ∀ {w : World Core} {id : FlowId} {flow : State} {data : StepData}, plain data → I w →
    w.own.peginFlows.lookup id = some flow →
    wp (completeFlowStep config env id flow data) (fun _ => I) (fun _ => I) w
  polled : ∀ {w : World Core} {id : FlowId} {flow : State}, I w →
    w.own.peginFlows.lookup id = some flow →
    wp (onFlow id flow (requestTransactionStatus env.toEnv)) (fun _ => I) (fun _ => I) w
  failed : ∀ {w : World Core} {id : FlowId} {flow : State}, I w →
    w.own.peginFlows.lookup id = some flow →
    wp (onFlow id flow (markFailed config.toConfig env.toEnv)) (fun _ => I) (fun _ => I) w
  found : ∀ txId, Keeps I (handlePeginTransactionFound config env txId)
  /-- Subflows are erased, or driven by a block or an event. -/
  erased : ∀ {w : World Core} (protocolId : Uuid), I w →
    I ⟨putSubFlows (fun t => t.erase protocolId) w.own, w.log⟩
  blockDelivered : ∀ block ids, Keeps I
    (forEachSubFlow Core.signatureFlows putSubFlows (fun _ => delegateBlock env.toEnv block) ids)
  eventDelivered : ∀ event ids, Keeps I (forEachSubFlow Core.signatureFlows putSubFlows
    (fun id => delegateRskEvent config.requiredConfirmations id event) ids)
  /-- The buffers, each event under its own key. -/
  requestBuffered : ∀ {w : World Core} (event : EventWithBlock PeginRequested), I w →
    I ⟨{ w.own with
      pendingPeginRequested := w.own.pendingPeginRequested.insert
        (TxIdParser.fb32ToTxid event.inner.requestPeginTxid) event }, w.log⟩
  requestTaken : ∀ {w : World Core} (txid : Txid), I w →
    I ⟨{ w.own with pendingPeginRequested := w.own.pendingPeginRequested.erase txid }, w.log⟩
  acceptBuffered : ∀ {w : World Core} (event : EventWithBlock PeginAccepted), I w →
    I ⟨{ w.own with
      pendingPeginAccepted := w.own.pendingPeginAccepted.insert
        (TxIdParser.fb32ToTxid event.inner.acceptPeginTxid) event }, w.log⟩
  acceptTaken : ∀ {w : World Core} (txid : Txid), I w →
    I ⟨{ w.own with pendingPeginAccepted := w.own.pendingPeginAccepted.erase txid }, w.log⟩

namespace Rules

variable {config : ProcessorConfig} {env : CallEnv} {plain : StepData → Prop}
  {I : World Core → Prop} (h : Rules config env plain I)

include h

/-! ### Confirmed events -/

theorem keeps_createFlowForPeginRequested {event : PeginRequested}
    (hplain : plain (.peginRequested event)) :
    Keeps I (createFlowForPeginRequested config env event) := by
  intro w hw
  simp only [createFlowForPeginRequested, wp_ite, wp_bind, wp_ensure, wp_get, wp_pure]
  split
  · exact hw
  apply wp_findFlow
  · intro _
    simp only [Option.isNone_none, if_true]
    split
    · next flow hlookup => exact h.completed hplain hw hlookup
    · exact hw
  · intro id flow _ _
    exact hw

theorem keeps_handlePeginRequested {pr : EventWithBlock PeginRequested}
    (hplain : plain (.peginRequested pr.inner)) : Keeps I (handlePeginRequested config env pr) := by
  intro w hw
  simp only [handlePeginRequested, wp_bind, wp_get, wp_ite, wp_modifyCore]
  split
  · exact h.requestBuffered pr hw
  · exact h.keeps_createFlowForPeginRequested hplain w hw

theorem keeps_handlePeginAccepted {pa : EventWithBlock PeginAccepted}
    (hplain : plain (.peginAccepted pa.inner)) : Keeps I (handlePeginAccepted config env pa) := by
  intro w hw
  simp only [handlePeginAccepted, flowByAcceptPeginTxid, wp_bind]
  apply wp_findFlow
  · exact fun _ => hw
  · intro id flow hlookup _
    simp only [wp_ite, wp_pure, wp_modifyCore]
    split
    · exact hw
    split
    · exact h.acceptBuffered pa hw
    · exact h.completed hplain hw hlookup

/-- An event of another committee is dropped; otherwise its handler runs, then the cleanup. -/
theorem keeps_processConfirmedRskEvent {event : RskPegManagerEvents}
    (hevent : Keeps I (handleConfirmedEvent config env event)) :
    Keeps I (processConfirmedRskEvent config env event) := by
  intro w hw
  simp only [processConfirmedRskEvent, wp_ite, wp_pure]
  split
  · exact hw
  · exact keeps_bind hevent (fun _ => h.cleanup) w hw

/-! ### Replays -/

theorem keeps_replayPendingPeginRequested
    (hrequested : ∀ pr, Keeps I (handlePeginRequested config env pr)) (txId : Txid) :
    Keeps I (replayPendingPeginRequested config env txId) := by
  intro w hw
  simp only [replayPendingPeginRequested, wp_bind, wp_get]
  split
  · exact hw
  · next pr _ =>
    simp only [wp_bind, wp_modifyCore]
    have hevent : Keeps I (handleConfirmedEvent config env (.peginRequested pr)) := hrequested pr
    exact h.keeps_processConfirmedRskEvent hevent _ (h.requestTaken txId hw)

theorem keeps_replayPendingPeginAccepted (hplain : ∀ event, plain (.peginAccepted event))
    (txid : Txid) : Keeps I (replayPendingPeginAccepted config env txid) := by
  intro w hw
  simp only [replayPendingPeginAccepted, wp_bind, wp_get]
  split
  · exact hw
  · next pa _ =>
    simp only [wp_bind, wp_modifyCore]
    have hevent : Keeps I (handleConfirmedEvent config env (.peginAccepted pa)) :=
      h.keeps_handlePeginAccepted (hplain _)
    exact h.keeps_processConfirmedRskEvent hevent _ (h.acceptTaken txid hw)

/-! ### Signatures -/

theorem keeps_dispatchSigned (hready : plain .acceptPeginSignaturesReady)
    (haccepted : ∀ event, plain (.peginAccepted event)) (protocolId : Uuid) :
    Keeps I (dispatchSigned config env protocolId) := by
  intro w hw
  simp only [dispatchSigned, flowByProtocolId, wp_bind, wp_modifyCore]
  have hw' := h.erased protocolId hw
  apply wp_findFlow
  · exact fun _ => hw'
  · intro id flow hlookup _
    simp only [wp_ite, wp_pure, wp_bind]
    split
    · exact hw'
    apply wp_imp (h.completed hready hw' hlookup)
    intro _ w₁ hw₁
    split
    · exact h.keeps_replayPendingPeginAccepted haccepted _ w₁ hw₁
    · exact hw₁

theorem keeps_processUnhandledConfirmedSigFlowEvents (hready : plain .acceptPeginSignaturesReady)
    (haccepted : ∀ event, plain (.peginAccepted event)) (block : RskBlockAndUncles) :
    Keeps I (processUnhandledConfirmedSigFlowEvents config env block) := by
  apply keeps_bind (fun _ hw => hw)
  intro ids
  apply keeps_bind (h.blockDelivered block ids)
  intro _
  apply keeps_bind (fun _ hw => hw)
  intro w
  exact keeps_forM (h.keeps_dispatchSigned hready haccepted) _

theorem keeps_delegateSignatureEvent (event : RskPegManagerEvents) :
    Keeps I (delegateSignatureEvent config env event) :=
  keeps_bind (fun _ hw => hw) fun ids => h.eventDelivered event ids

/-! ### Status of the accept transaction -/

theorem keeps_handleTransactionStatusReceived
    (hplain : ∀ status, plain (.acceptPeginTransactionConfirmed status)) (protocolId : Uuid)
    (txStatus : TransactionStatus) :
    Keeps I (handleTransactionStatusReceived config env protocolId txStatus) := by
  intro w hw
  simp only [handleTransactionStatusReceived, flowByProtocolId, wp_bind]
  apply wp_findFlow
  · exact fun _ => hw
  · intro id flow hlookup _
    simp only [wp_bind, wp_okOr, wp_ensure, wp_ite, wp_modifyCore]
    refine ⟨fun expected _ => ?_, fun _ => hw⟩
    split
    · split
      · split
        · exact wp_imp (h.completed (hplain txStatus) hw hlookup)
            fun _ _ hw' => h.schedules _ _ _ _ hw'
        · exact h.schedules _ _ _ _ hw
      · exact hw
    · exact hw

theorem keeps_pollTransactionStatus (id : FlowId) : Keeps I (pollTransactionStatus env id) := by
  intro w hw
  simp only [pollTransactionStatus, wp_bind, wp_get]
  split
  · exact hw
  · next flow hlookup =>
    rw [wp_ite]
    split
    · exact h.polled hw hlookup
    · exact hw

theorem keeps_handleTransactionStatusTick : Keeps I (handleTransactionStatusTick env) := by
  intro w hw
  simp only [handleTransactionStatusTick, wp_bind, wp_get, wp_modifyCore]
  exact keeps_forM h.keeps_pollTransactionStatus _ _ (h.schedules _ _ _ _ hw)

/-! ### Failing a flow -/

theorem keeps_markFlowFailed (id : FlowId) : Keeps I (markFlowFailed config env id) := by
  intro w hw
  simp only [markFlowFailed, wp_bind, wp_get]
  split
  · next flow hlookup => exact h.failed hw hlookup
  · exact hw

theorem keeps_handleUserRequest (request : UserRequests) :
    Keeps I (handleUserRequest config env request) := by
  unfold handleUserRequest
  split
  · exact keeps_bind (h.keeps_markFlowFailed _) fun _ => h.cleanup
  · exact keeps_pure ()

/-! ### Retries of `acceptPegin` -/

theorem keeps_retryAcceptPegin (hplain : plain .retryAcceptPegin) (id : FlowId) :
    Keeps I (retryAcceptPegin config env id) := by
  intro w hw
  simp only [retryAcceptPegin, wp_bind, wp_get]
  split
  · exact hw
  · next attempts _ =>
    simp only [wp_bind, wp_modifyCore, wp_get]
    have hw' : I ⟨{ w.own with unconfirmedAcceptPegin := w.own.unconfirmedAcceptPegin.erase id },
        w.log⟩ := h.schedules w.own.txStatusScheduler w.own.peginRequestTracker _ _ hw
    split
    · exact hw'
    · next flow hlookup =>
      simp only [wp_ite, wp_pure, wp_bind, wp_attempt]
      split
      · exact hw'
      apply wp_mono (h.completed hplain hw' hlookup) fun _ _ hw₁ => hw₁
      intro e w₁ hw₁
      split
      · simp only [scheduleAcceptPeginRetry, wp_modifyCore]
        split
        · exact hw₁
        split
        · exact hw₁
        · exact h.schedules _ _ _ _ hw₁
      · exact hw₁

theorem keeps_handleAcceptRetries (hplain : plain .retryAcceptPegin) :
    Keeps I (handleAcceptRetries config env) := by
  intro w hw
  simp only [handleAcceptRetries, wp_bind, wp_get, wp_modifyCore]
  exact keeps_forM (h.keeps_retryAcceptPegin hplain) _ _ (h.schedules _ _ _ _ hw)

/-! ### Messages of `BitVMX` -/

theorem keeps_handleSpvProofForAcceptPegin (hplain : ∀ proof, plain (.acceptPeginSpvProof proof))
    (txId : Txid) (proof : BtcTxSPVProof) :
    Keeps I (handleSpvProofForAcceptPegin config env txId proof) := by
  intro w hw
  simp only [handleSpvProofForAcceptPegin, flowByAcceptPeginTxid, wp_bind]
  apply wp_findFlow
  · exact fun _ => hw
  · intro id flow hlookup _
    simp only [wp_bind, wp_attempt, wp_pure]
    apply wp_mono (h.completed (hplain proof) hw hlookup) fun _ _ hw₁ => hw₁
    intro e w₁ hw₁
    split
    · simp only [wp_ite, wp_bind, wp_get, scheduleAcceptPeginRetry, wp_modifyCore, wp_pure, wp_throw]
      split
      · exact h.schedules _ _ _ _ hw₁
      split
      · exact hw₁
      · exact hw₁
    · exact hw₁

theorem keeps_handleCommInfo (hplain : ∀ info, plain (.commInfo info)) (info : CommsAddress) :
    Keeps I (handleCommInfo config env info) := by
  apply keeps_bind (fun _ hw => hw)
  intro start
  refine keeps_forM (fun id w hw => ?_) _
  simp only [wp_bind, wp_get]
  split
  · exact hw
  · next flow hlookup =>
    rw [wp_ite]
    split
    · exact h.completed (hplain info) hw hlookup
    · exact hw

theorem keeps_handleTransactionInfo (hplain : ∀ txName txid, plain (.transactionInfo txName txid))
    (protocolId : Uuid) (txName : String) (transaction : Transaction) :
    Keeps I (handleTransactionInfo config env protocolId txName transaction) := by
  intro w hw
  simp only [handleTransactionInfo, flowByProtocolId, wp_bind]
  apply wp_findFlow
  · exact fun _ => hw
  · intro id flow hlookup _
    simp only [wp_ite, wp_bind, wp_pure]
    split
    · exact h.completed (hplain _ _) hw hlookup
    · exact hw

theorem keeps_handleBitvmxPeginAccepted (hplain : ∀ message, plain (.bitvmxPeginAccepted message))
    (hreplay : ∀ txid, Keeps I (replayPendingAllOperatorTakeTxidsAdded config env txid))
    (protocolId : Uuid) (data : String) :
    Keeps I (handleBitvmxPeginAccepted config env protocolId data) := by
  intro w hw
  simp only [handleBitvmxPeginAccepted, flowByProtocolId, wp_bind, wp_okOr]
  refine ⟨fun message _ => ?_, fun _ => hw⟩
  apply wp_findFlow
  · exact fun _ => hw
  · intro id flow hlookup _
    simp only [wp_bind, wp_ensure]
    split
    · apply wp_imp (h.completed (hplain message) hw hlookup)
      intro _ w₁ hw₁
      rw [wp_get]
      split
      · exact hreplay _ w₁ hw₁
      · exact hw₁
    · exact hw

end Rules

/-! ## Further rules -/

/-- What an invariant has to survive of an `AllOperatorTakeTxidsAdded` event. -/
structure TakeRules (env : CallEnv) (I : World Core → Prop) : Prop where
  noted : ∀ {w : World Core} (txid : Txid), I w →
    I ⟨{ w.own with confirmedTakes := txid :: w.own.confirmedTakes }, w.log⟩
  buffered : ∀ {w : World Core} (event : EventWithBlock AllOperatorTakeTxidsAdded), I w →
    I ⟨{ w.own with
      pendingAllOperatorTakeTxidsAdded := w.own.pendingAllOperatorTakeTxidsAdded.insert
        (TxIdParser.fb32ToTxid event.inner.acceptPeginTxid) event }, w.log⟩
  taken : ∀ {w : World Core} (txid : Txid), I w →
    I ⟨{ w.own with
      pendingAllOperatorTakeTxidsAdded := w.own.pendingAllOperatorTakeTxidsAdded.erase txid },
      w.log⟩
  started : ∀ protocolId data, Keeps I (startSubFlow env protocolId data)

/-- What it has to survive of a request for a pegin. -/
structure RequestRules (I : World Core → Prop) : Prop where
  noted : ∀ {w : World Core} (unconfirmed : Finset FlowId), I w →
    I ⟨{ w.own with unconfirmed := unconfirmed }, w.log⟩
  scheduled : ∀ {w : World Core} (requests : Table String (BtcTxSPVProof × Nat))
    (scheduler : TickScheduler String), I w →
    I ⟨{ w.own with
      unconfirmedPeginRequests := requests, peginRetryScheduler := scheduler }, w.log⟩

/-! ### Two invariants -/

section And

variable {config : ProcessorConfig} {env : CallEnv} {plain : StepData → Prop}
  {I I' : World Core → Prop}

theorem Rules.and (h : Rules config env plain I) (h' : Rules config env plain I') :
    Rules config env plain fun w => I w ∧ I' w where
  called entry hw := ⟨h.called entry hw.1, h'.called entry hw.2⟩
  schedules _ _ _ _ hw := ⟨h.schedules _ _ _ _ hw.1, h'.schedules _ _ _ _ hw.2⟩
  cleanup := keeps_and h.cleanup h'.cleanup
  completed hplain hw hlookup :=
    wp_and (h.completed hplain hw.1 hlookup) (h'.completed hplain hw.2 hlookup)
  polled hw hlookup := wp_and (h.polled hw.1 hlookup) (h'.polled hw.2 hlookup)
  failed hw hlookup := wp_and (h.failed hw.1 hlookup) (h'.failed hw.2 hlookup)
  found txId := keeps_and (h.found txId) (h'.found txId)
  erased protocolId hw := ⟨h.erased protocolId hw.1, h'.erased protocolId hw.2⟩
  blockDelivered block ids := keeps_and (h.blockDelivered block ids) (h'.blockDelivered block ids)
  eventDelivered event ids := keeps_and (h.eventDelivered event ids) (h'.eventDelivered event ids)
  requestBuffered event hw := ⟨h.requestBuffered event hw.1, h'.requestBuffered event hw.2⟩
  requestTaken txid hw := ⟨h.requestTaken txid hw.1, h'.requestTaken txid hw.2⟩
  acceptBuffered event hw := ⟨h.acceptBuffered event hw.1, h'.acceptBuffered event hw.2⟩
  acceptTaken txid hw := ⟨h.acceptTaken txid hw.1, h'.acceptTaken txid hw.2⟩

theorem TakeRules.and (h : TakeRules env I) (h' : TakeRules env I') :
    TakeRules env fun w => I w ∧ I' w where
  noted txid hw := ⟨h.noted txid hw.1, h'.noted txid hw.2⟩
  buffered event hw := ⟨h.buffered event hw.1, h'.buffered event hw.2⟩
  taken txid hw := ⟨h.taken txid hw.1, h'.taken txid hw.2⟩
  started protocolId data := keeps_and (h.started protocolId data) (h'.started protocolId data)

theorem RequestRules.and (h : RequestRules I) (h' : RequestRules I') :
    RequestRules fun w => I w ∧ I' w where
  noted _ hw := ⟨h.noted _ hw.1, h'.noted _ hw.2⟩
  scheduled _ _ hw := ⟨h.scheduled _ _ hw.1, h'.scheduled _ _ hw.2⟩

end And

namespace Rules

variable {config : ProcessorConfig} {env : CallEnv} {plain : StepData → Prop}
  {I : World Core → Prop}

section Takes

variable (h : Rules config env plain I) (htake : TakeRules env I)
  (hplain : plain .allOperatorTakeTxidsAdded)

include h htake hplain

theorem keeps_startSignatures {w : World Core} {id : FlowId} {flow : State} (txid : Txid) (hw : I w)
    (hlookup : w.own.peginFlows.lookup id = some flow) :
    wp (startSignatures config env id flow txid) (fun _ => I) (fun _ => I) w := by
  simp only [startSignatures, wp_bind, wp_okOr, wp_get, wp_ite, wp_pure]
  refine ⟨fun protocolId _ => ?_, fun _ => hw⟩
  split
  · exact hw
  refine ⟨fun message _ => ?_, fun _ => hw⟩
  apply wp_mono (wp_and (htake.started _ _ w hw) (startSubFlow_frame _ _))
  · rintro _ w₁ ⟨hw₁, subFlow, hown⟩
    refine h.completed hplain hw₁ ?_
    rw [hown]
    exact hlookup
  · exact fun _ _ hw₁ => hw₁.1

theorem keeps_handleAllOperatorTakeTxHashesAdded
    (event : EventWithBlock AllOperatorTakeTxidsAdded) :
    Keeps I (handleAllOperatorTakeTxHashesAdded config env event) := by
  intro w hw
  simp only [handleAllOperatorTakeTxHashesAdded, flowByAcceptPeginTxid, wp_bind, wp_modifyCore]
  have hw' := htake.noted (TxIdParser.fb32ToTxid event.inner.acceptPeginTxid) hw
  apply wp_findFlow
  · intro _
    simp only [wp_bind, wp_get, wp_ite, wp_modifyCore, wp_pure]
    split
    · exact htake.buffered event hw'
    · exact hw'
  · intro id flow hlookup _
    exact h.keeps_startSignatures htake hplain _ hw' hlookup

theorem keeps_replayPendingAllOperatorTakeTxidsAdded (txid : Txid) :
    Keeps I (replayPendingAllOperatorTakeTxidsAdded config env txid) := by
  intro w hw
  simp only [replayPendingAllOperatorTakeTxidsAdded, flowByAcceptPeginTxid, wp_bind]
  apply wp_findFlow
  -- the same is done with a flow and without one
  all_goals
    intros
    simp only [wp_ite, wp_pure, wp_bind, wp_get]
    split
    · exact hw
    split
    · exact hw
    · next event _ =>
      simp only [wp_bind, wp_modifyCore]
      have hevent : Keeps I (handleConfirmedEvent config env (.allOperatorTakeTxidsAdded event)) :=
        h.keeps_handleAllOperatorTakeTxHashesAdded htake hplain event
      exact h.keeps_processConfirmedRskEvent hevent _ (htake.taken txid hw)

end Takes

section Requests

variable (h : Rules config env plain I) (hrequest : RequestRules I)
  (hretry : plain .retryRequestPegin) (hproof : ∀ proof, plain (.requestPeginSpvProof proof))
  (hrequested : ∀ pr, Keeps I (handlePeginRequested config env pr))

include h hrequest

theorem keeps_attemptRequest {w : World Core} {id : FlowId} {flow : State} {data : StepData}
    (hplain : plain data) (hw : I w) (hlookup : w.own.peginFlows.lookup id = some flow) :
    wp (attemptRequest config env id flow data) (fun _ => I) (fun _ => I) w := by
  simp only [attemptRequest, wp_bind, wp_attempt, wp_modifyCore, wp_pure]
  apply wp_mono (h.completed hplain hw hlookup)
  · exact fun _ _ hw₁ => hrequest.noted _ hw₁
  · intro e w₁ hw₁
    split
    · exact hrequest.noted _ hw₁
    · exact hw₁

include hrequested

omit hrequest in
theorem keeps_replayAfterRequest (txId : Txid) :
    Keeps I (do untrackRequest txId; replayPendingPeginRequested config env txId) := by
  intro w hw
  simp only [untrackRequest, wp_bind, wp_modifyCore]
  exact h.keeps_replayPendingPeginRequested hrequested txId _
    (h.schedules w.own.txStatusScheduler _ w.own.unconfirmedAcceptPegin
      w.own.acceptPeginRetryScheduler hw)

include hretry

theorem keeps_retryRequestPegin (blockHash : String) :
    Keeps I (retryRequestPegin config env blockHash) := by
  intro w hw
  simp only [retryRequestPegin, wp_bind, wp_get]
  split
  · exact hw
  · next proof attempt _ =>
    simp only [wp_bind, wp_modifyCore, wp_get]
    have hw' : I ⟨{ w.own with
        unconfirmedPeginRequests := w.own.unconfirmedPeginRequests.erase blockHash }, w.log⟩ :=
      hrequest.scheduled _ w.own.peginRetryScheduler hw
    split
    · exact hw'
    · next id flow hflow =>
      rw [wp_bind]
      apply wp_imp (h.keeps_attemptRequest hrequest hretry hw'
        (requestPeginFlow_eq_some.mp hflow).2.1)
      intro result w₁ hw₁
      split
      · exact h.keeps_replayAfterRequest hrequested _ w₁ hw₁
      · simp only [wp_ite, untrackRequest, scheduleRequestPeginRetry, wp_modifyCore]
        split
        · exact h.schedules w₁.own.txStatusScheduler _ w₁.own.unconfirmedAcceptPegin
            w₁.own.acceptPeginRetryScheduler hw₁
        · exact hrequest.scheduled _ _ hw₁

theorem keeps_handlePeginRetryTick (haccept : plain .retryAcceptPegin) :
    Keeps I (handlePeginRetryTick config env) := by
  refine keeps_bind (fun w hw => ?_) fun _ => h.keeps_handleAcceptRetries haccept
  simp only [handleRequestRetries, wp_bind, wp_get, wp_modifyCore]
  exact keeps_forM (h.keeps_retryRequestPegin hrequest hretry hrequested) _ _
    (hrequest.scheduled w.own.unconfirmedPeginRequests _ hw)

omit hretry
include hproof

theorem keeps_handleSpvProofForRequestPegin (txId : Txid) (proof : BtcTxSPVProof) :
    Keeps I (handleSpvProofForRequestPegin config env txId proof) := by
  intro w hw
  simp only [handleSpvProofForRequestPegin, wp_bind, wp_get, wp_ite, wp_pure]
  split
  · exact hw
  split
  · exact hw
  · next id flow hflow =>
    rw [wp_bind]
    apply wp_imp (h.keeps_attemptRequest hrequest (hproof proof) hw
      (requestPeginFlow_eq_some.mp hflow).2.1)
    intro result w₁ hw₁
    split
    · exact h.keeps_replayAfterRequest hrequested _ w₁ hw₁
    · simp only [wp_ite, scheduleRequestPeginRetry, wp_modifyCore, wp_throw]
      split
      · exact hrequest.scheduled _ _ hw₁
      · exact hw₁

end Requests

end Rules

/-! ## Whole calls -/

/-- The invariant `I` of the core survives everything a call does; what is stored of the core
satisfies `T`. -/
structure Handlers (config : ProcessorConfig) (env : CallEnv) (I : World Core → Prop)
    (T : Core → Prop) : Prop where
  stored : ∀ {w : World Core}, I w → T w.own
  called : ∀ {w : World Core} (entry : LogEntry), I w → I ⟨w.own, entry :: w.log⟩
  cleanup : Keeps I (cleanupTerminalFlows config env)
  confirmed : ∀ event, Keeps I (handleConfirmedEvent config env event)
  bitvmx : ∀ event, Keeps I (handleBitvmxEvent config env event)
  user : ∀ request, Keeps I (handleUserRequest config env request)
  signature : ∀ event, Keeps I (delegateSignatureEvent config env event)
  block : ∀ block, Keeps I (beforeConfirmations config env block)

/-- When all data are plain but those of a `PeginRequested` event, the rules are enough. -/
theorem Rules.handlers {config : ProcessorConfig} {env : CallEnv} {plain : StepData → Prop}
    {I : World Core → Prop} {T : Core → Prop} (h : Rules config env plain I)
    (hplain : ∀ data, (∀ event, data ≠ .peginRequested event) → plain data)
    (hrequested : ∀ pr, Keeps I (handlePeginRequested config env pr)) (htake : TakeRules env I)
    (hrequest : RequestRules I) (hstored : ∀ {w : World Core}, I w → T w.own) :
    Handlers config env I T where
  stored := hstored
  called := h.called
  cleanup := h.cleanup
  confirmed event := by
    unfold handleConfirmedEvent
    split
    · exact hrequested _
    · next pa => exact h.keeps_handlePeginAccepted (hplain (.peginAccepted pa.inner) nofun)
    · exact h.keeps_handleAllOperatorTakeTxHashesAdded htake
        (hplain .allOperatorTakeTxidsAdded nofun) _
    · exact keeps_pure ()
  bitvmx event := by
    have hstore : ∀ {m : CoreM Unit}, Keeps I m → Keeps I (andStore m) := fun hm =>
      keeps_bind hm fun _ => keeps_pure true
    unfold handleBitvmxEvent
    split
    · exact hstore (h.found _)
    · refine hstore (keeps_bind (fun w hw => ?_) fun proof => ?_)
      · rw [wp_okOr]
        exact ⟨fun _ _ => hw, fun _ => hw⟩
      · refine keeps_bind (fun _ hw => hw) fun w => ?_
        split
        · exact h.keeps_handleSpvProofForRequestPegin hrequest
            (fun proof => hplain (.requestPeginSpvProof proof) nofun) hrequested _ _
        · exact h.keeps_handleSpvProofForAcceptPegin
            (fun proof => hplain (.acceptPeginSpvProof proof) nofun) _ _
    · exact hstore (h.keeps_handleCommInfo (fun info => hplain (.commInfo info) nofun) _)
    · split
      · exact hstore (h.keeps_handleBitvmxPeginAccepted
          (fun message => hplain (.bitvmxPeginAccepted message) nofun)
          (h.keeps_replayPendingAllOperatorTakeTxidsAdded htake
            (hplain .allOperatorTakeTxidsAdded nofun)) _ _)
      · exact keeps_pure true
    · exact h.keeps_handleTransactionInfo
        (fun txName txid => hplain (.transactionInfo txName txid) nofun) _ _ _
    · exact hstore (h.keeps_handleTransactionStatusReceived
        (fun status => hplain (.acceptPeginTransactionConfirmed status) nofun) _ _)
    · exact keeps_pure true
  user := h.keeps_handleUserRequest
  signature := h.keeps_delegateSignatureEvent
  block block := by
    refine keeps_bind h.cleanup fun _ => ?_
    refine keeps_bind
      (h.keeps_processUnhandledConfirmedSigFlowEvents (hplain .acceptPeginSignaturesReady nofun)
        (fun event => hplain (.peginAccepted event) nofun) block) fun _ => ?_
    refine keeps_bind h.keeps_handleTransactionStatusTick fun _ => ?_
    exact h.keeps_handlePeginRetryTick hrequest (hplain .retryRequestPegin nofun) hrequested
      (hplain .retryAcceptPegin nofun)

/-- The invariant of the core, in the state of the processor. -/
def Lifted (I : World Core → Prop) (T : Core → Prop) (w : World Processor) : Prop :=
  I ⟨w.own.core, w.log⟩ ∧ ∀ saved, w.own.saved = some saved → T saved.1

namespace Handlers

variable {config : ProcessorConfig} {env : CallEnv} {I : World Core → Prop} {T : Core → Prop}

variable (h : Handlers config env I T)

include h

theorem keeps_processConfirmedRskEvent (event : RskPegManagerEvents) :
    Keeps I (processConfirmedRskEvent config env event) := by
  unfold processConfirmedRskEvent
  split
  · exact keeps_pure ()
  · exact keeps_bind (h.confirmed event) fun _ => h.cleanup

/-- **A call of the coordinator.** -/
theorem keeps_callProgram (input : Input) : Keeps (Lifted I T) (callProgram config env input) := by
  have hlift : ∀ {α : Type} {m : CoreM α}, Keeps I m → Keeps (Lifted I T) (liftCore m) :=
    fun hm => keeps_carried_liftCore hm
  have hpersist : Keeps (Lifted I T) (persistProcessorState env .peginProcessorState) :=
    keeps_carried_persistProcessorState h.called h.stored _
  have hconfirmed := h.keeps_processConfirmedRskEvent
  cases input with
  | block block =>
    refine keeps_bind (hlift (h.block block)) fun _ => keeps_bind ?_ fun _ => hpersist
    exact keeps_carried_processBlockConfirmations hconfirmed h.cleanup block
  | rskEvent event =>
    refine keeps_bind (hlift h.cleanup) fun _ => ?_
    split
    · exact keeps_bind (hlift (h.signature event)) fun _ => hpersist
    split
    · exact keeps_bind (hlift (hconfirmed event)) fun _ => hpersist
    split
    · exact keeps_pure ()
    · exact keeps_bind (keeps_carried_trackEvent _ _ event) fun _ => hpersist
  | bitvmxEvent event =>
    refine keeps_bind (hlift h.cleanup) fun _ => keeps_bind (hlift (h.bitvmx event)) fun stores => ?_
    unfold persistIfSaid
    split
    · exact hpersist
    · exact keeps_pure ()
  | userRequest request =>
    exact keeps_bind (hlift h.cleanup) fun _ => keeps_bind (hlift (h.user request)) fun _ => hpersist
  | restart => exact keeps_pure ()

/-- **One step.** The invariant has to hold of the core at the start of a call, and of the one that a
new process finds; the calls of the step are on a log of their own. -/
theorem step_keeps {s : System Core} (hbegin : I ⟨(Processor.begin s.processor).core, []⟩)
    (hsaved : ∀ saved, s.processor.saved = some saved → T saved.1)
    (hrestart : I ⟨(Processor.begin (Processor.restart config env s.processor)).core, []⟩)
    (input : Input) :
    ∃ log, (step config s (env, input)).past = log ++ s.past
      ∧ Lifted I T ⟨(step config s (env, input)).processor, log⟩ := by
  -- what the coordinator calls, as opposed to a start of the process
  have hcall : ∃ log, (System.call ⟨Processor.begin s.processor, s.past, s.panicked⟩
        (callProgram config env input)).past = log ++ s.past
      ∧ Lifted I T ⟨(System.call ⟨Processor.begin s.processor, s.past, s.panicked⟩
        (callProgram config env input)).processor, log⟩ := by
    have hstart : Lifted I T ⟨Processor.begin s.processor, []⟩ := ⟨hbegin, hsaved⟩
    refine System.call_of_wp (Q := fun s' => ∃ log, s'.past = log ++ s.past
      ∧ Lifted I T ⟨s'.processor, log⟩) (fun _ => ⟨[], rfl, hstart⟩) fun _ => ?_
    exact wp_always (h.keeps_callProgram input _ hstart) fun w hw => ⟨w.log, rfl, hw⟩
  cases input with
  | restart => exact ⟨[], rfl, hrestart, hsaved⟩
  | _ => exact hcall

end Handlers

end UnionBridge.Pegin
