import UnionBridge.AdvanceFunds.Flow
import UnionBridge.Coordinator.EventConfirmations
import UnionBridge.Coordinator.Schedulers

/-!
# The advance-funds processor (`flows/operator_take/operator_take_processor.rs`)

The processor owns the flows of the operator takes. A flow is created by a confirmed
`OperatorTakeTriggered` event under an id that comes from its transaction. Messages and later events
find it by the committee and slot, by the pegout id or by the protocol id of `BitVMX`. A registration
that the native bridge does not see confirmed yet is tried again after some blocks; such a retry is
kept under the id of the flow.

The last three fields of `Core` are not in the source. They record what happened, for the statements
about runs.
-/

namespace UnionBridge.AdvanceFunds

open Chain Contracts Bitvmx Coordinator Effect

structure ProcessorConfig extends Config where
  requiredConfirmations : UInt32
  btcStatusRetryBlocks : UInt32

structure Retried where
  /-- The step whose registration lacked confirmations when the retry was armed. -/
  armedFor : Option Steps
  /-- The calls of the flow before the retry. -/
  before : Contracts.Log
  /-- The calls of the retry. -/
  calls : Contracts.Log

structure Core where
  /-- By flow id. -/
  flows : Table FlowId FlowContext
  /-- The flows in the store. -/
  store : Table FlowId FlowContext
  retries : RetryTracker FlowId
  /-- The transactions of the pegout requests, by committee and slot. -/
  requestPegoutTxHashes : Table (CommitteeId × UInt64) TxHash
  /-- The step for which the retry of a flow was armed last. -/
  armedFor : Table FlowId Steps
  /-- The calls of each flow since it was created. -/
  callsOf : Table FlowId Contracts.Log
  retried : List Retried

def Core.new : Core where
  flows := ∅
  store := ∅
  retries := .new
  requestPegoutTxHashes := ∅
  armedFor := ∅
  callsOf := ∅
  retried := []

abbrev CoreM := Program Core

abbrev Processor := Gated Core

def Processor.new : Processor := ⟨.new, .new, none⟩

def modifyCore (f : Core → Core) : CoreM Unit := modify fun w => { w with own := f w.own }

/-! ## Flows -/

def Core.calls (core : Core) (id : FlowId) : Contracts.Log := (core.callsOf.lookup id).getD []

def Core.putFlow (core : Core) (id : FlowId) (flow : Flow) (calls : Contracts.Log) : Core :=
  { core with
    flows := core.flows.insert id flow.state
    store := match flow.saved with
      | some s => core.store.insert id s
      | none => core.store.erase id
    callsOf := core.callsOf.insert id (calls ++ core.calls id) }

def Core.addFlow (core : Core) (id : FlowId) (flow : FlowContext) : Core :=
  { core with flows := core.flows.insert id flow, callsOf := core.callsOf.insert id [] }

variable (config : ProcessorConfig) (env : CallEnv)

def runFlowStep (id : FlowId) (flow : FlowContext) (data : StepData) : CoreM StepOutcome :=
  zoom (fun w => ⟨⟨flow, w.own.store.lookup id⟩, w.log⟩)
    (fun t w => ⟨w.own.putFlow id t.own (callsSince w.log t.log), t.log⟩)
    (completeStep config.toConfig env.toEnv data)

/-- The first flow, in the order of the table, with a property. -/
def findFlow (p : FlowContext → Bool) : CoreM (Option FlowContext) := do
  let w ← get
  return ((w.own.flows.inOrder (env.rank w.log .flows)).map (·.2)).find? p

/-! ## Retries -/

/-- The retry is armed for the step that the flow is at. -/
def Core.scheduleRetry (id : FlowId) (attempt : Nat) (core : Core) : Core :=
  { core with
    retries := core.retries.schedule id attempt config.btcStatusRetryBlocks
    armedFor := match core.flows.lookup id with
      | some flow => core.armedFor.insert id flow.step
      | none => core.armedFor }

/-- `complete_step`: a registration without confirmations arms a retry. -/
def completeFlowStep (id : FlowId) (data : StepData) : CoreM Unit := do
  match (← get).own.flows.lookup id with
  | none => pure ()
  | some flow => do
    match ← runFlowStep config env id flow data with
    | .done => pure ()
    | .noOp => pure ()
    | .retry _ => modifyCore fun core =>
      core.scheduleRetry config id (saturatingSucc (core.retries.currentAttempt id))

def noteRetried (id : FlowId) (before : World Core) : CoreM Unit :=
  modify fun w => { w with own := { w.own with
    retried := ⟨before.own.armedFor.lookup id, before.own.calls id, callsSince before.log w.log⟩
      :: w.own.retried } }

/-- Enter the current step of the flow again. An error is only logged. -/
def retryRegistration (id : FlowId) (attempts : Nat) : CoreM Unit := do
  match (← get).own.flows.lookup id with
  | none => pure ()
  | some flow => do
    let before ← get
    let result ← attempt FlowError.isError (runFlowStep config env id flow .retry)
    noteRetried id before
    match result with
    | .ok (.retry _) => modifyCore (Core.scheduleRetry config id (saturatingSucc attempts))
    | .ok _ => pure ()
    | .error _ => pure ()

def handleRetryTick : CoreM Unit := do
  let w ← get
  if w.own.retries.isEmpty then pure ()
  else do
    let (ready, retries) := w.own.retries.tick (env.rank w.log .registrationRetries)
    modifyCore fun core => { core with retries := retries }
    ready.forM fun (id, attempts) => retryRegistration config env id attempts

/-! ## Terminal flows -/

/-- `cleanup_terminal_flow_state`, for one flow. -/
def Core.forgetFlow (core : Core) (flow : FlowContext) : Core :=
  { core with
    retries := core.retries.cancel flow.flowId
    requestPegoutTxHashes := core.requestPegoutTxHashes.retain fun key _ =>
      !flow.matchesCommitteeSlot key.1 key.2 }

def Core.terminalFlows (core : Core) (rank : FlowId → Nat) : List FlowContext :=
  ((core.flows.inOrder rank).map (·.2)).filter (·.isTerminal)

/-- A failed deletion is only logged. -/
def deleteFlow (flowId : FlowId) : CoreM Unit := do
  let result : Except String Unit ←
    perform env.toEnv (.deleteFlow (.operatorTakeFlow flowId.value)) id
  match result with
  | .ok _ => modifyCore fun core => { core with store := core.store.erase flowId }
  | .error _ => pure ()

def cleanupTerminalFlows : CoreM Unit := do
  let w ← get
  let terminal := w.own.terminalFlows (env.rank w.log .flows)
  modifyCore fun core => terminal.foldl Core.forgetFlow core
  terminal.forM fun flow => deleteFlow env flow.flowId
  modifyCore fun core => { core with flows := core.flows.retain fun _ flow => !flow.isTerminal }

/-! ## Confirmed events -/

/-- The id of a flow comes from the transaction of its event. The flow is in the table before its
first step is done. -/
def createFlowForOperatorTakeTriggered
    (event : EventWithBlock OperatorTakeTriggered) : CoreM Unit := do
  let hash := (← get).own.requestPegoutTxHashes.lookup
    (event.inner.pegoutInfo.committeeId, event.inner.streamPosition.slotId)
  let triggerData ← orText (OperatorTakeTriggerData.tryFromEvent config.libs event.inner hash)
  if !env.imMember triggerData.committeeId then pure ()
  else do
    let flowId := flowIdFromOperatorTakeTriggeredTxHash config.libs event.txHash
    ensure ((← get).own.flows.lookup flowId = none)
      (.msg "Advance funds flow already exists for committee")
    modifyCore fun core => core.addFlow flowId (.new config.libs flowId triggerData)
    completeFlowStep config env flowId .operatorTakeTriggered

/-- Complete a step of the first flow with a property, if there is one. -/
def completeStepOfFirst (p : FlowContext → Bool) (data : StepData) : CoreM Unit := do
  match ← findFlow env p with
  | none => pure ()
  | some flow => completeFlowStep config env flow.flowId data

def completeStepByPegoutId (pegoutId : U256) (data : StepData) : CoreM Unit :=
  completeStepOfFirst config env (fun flow => flow.matchesPegout pegoutId) data

def handlePegoutRegistered (event : EventWithBlock PegoutRegistered) : CoreM Unit :=
  completeStepOfFirst config env
    (fun flow => flow.matchesCommitteeSlot event.inner.committeeId event.inner.streamInfo.slotId)
    (.pegoutRegistered event.inner)

def handleConfirmedEvent : RskPegManagerEvents → CoreM Unit
  | .pegoutRequested event => do
    let committeeId ← okOr (CommitteeId.tryFrom event.inner.committeeId)
      (.msg "committee id too large")
    modifyCore fun core => { core with
      requestPegoutTxHashes :=
        core.requestPegoutTxHashes.insert (committeeId, event.inner.slotId) event.txHash }
  | .operatorTakeTriggered event => createFlowForOperatorTakeTriggered config env event
  | .advanceFundsRegistered event => do
    let message ← orText (advanceFundsRegisteredFromEvent config.libs event.inner)
    completeStepByPegoutId config env event.inner.pegoutId (.advanceFundsConfirmed message)
  | .reimbursementKickoffRegistered event =>
    completeStepByPegoutId config env event.inner.pegoutId .reimbursementKickoffConfirmed
  | .pegoutRegistered event => handlePegoutRegistered config env event
  | _ => pure ()

def processConfirmedRskEvent (event : RskPegManagerEvents) : CoreM Unit := do
  handleConfirmedEvent config env event
  cleanupTerminalFlows env

/-! ## Failing a flow -/

def markFlowFailed (id : FlowId) : CoreM Unit := do
  match (← get).own.flows.lookup id with
  | none => pure ()
  | some flow => do
    zoom (fun w => ⟨⟨flow, w.own.store.lookup id⟩, w.log⟩)
      (fun t w => ⟨w.own.putFlow id t.own (callsSince w.log t.log), t.log⟩)
      (markFailed config.toConfig env.toEnv)
    modifyCore fun core => { core with retries := core.retries.cancel id }

def failFlow (id : FlowId) : CoreM Unit := do
  markFlowFailed config env id
  cleanupTerminalFlows env

/-! ## Messages of `BitVMX` -/

/-- The flow that holds a protocol id. Two of them are an error. -/
def flowByProtocolId (target : BitVmxProtocolId) (violation : String) :
    CoreM (Option FlowContext) := do
  let w ← get
  match ((w.own.flows.inOrder (env.rank w.log .flows)).map (·.2)).filter
      fun flow => flow.bitvmxProtocolId = target with
  | [] => return none
  | [flow] => return some flow
  | _ => throw (.msg violation)

def flowByCommitteeSlot (committeeId : Uuid) (slotIndex : Nat) : CoreM (Option FlowContext) :=
  flowByProtocolId env (advanceFundsProtocolId config.libs committeeId (UInt64.ofNat slotIndex))
    "Invariant violation: multiple advance-funds flows hold BitVMX protocol id; refusing to route"

def handleSetupCompleted (programId : Uuid) : CoreM Unit := do
  match ← flowByProtocolId env ⟨programId⟩
    ("Invariant violation: multiple advance-funds flows hold BitVMX protocol id on SetupCompleted; "
      ++ "refusing to route") with
  | none => pure ()
  | some flow => completeFlowStep config env flow.flowId .setupCompleted

/-- The reply names no flow, so every flow that waits for one takes it. -/
def handleCommInfo (commInfo : CommsAddress) : CoreM Unit := do
  let w ← get
  let waiting := (w.own.flows.inOrder (env.rank w.log .flows)).filter (·.2.isWaitingCommInfo)
  waiting.forM fun (id, _) => completeFlowStep config env id (.commInfo commInfo)

def handleTransactionInfo (programId : Uuid)
    (txName : String) (transaction : Transaction) : CoreM Unit :=
  if (operatorTakeTx ++ "_").isPrefixOf txName then
    completeStepOfFirst config env (fun flow => flow.matchesAcceptPeginPid programId)
      (.operatorTakeTransactionInfo (config.libs.computeTxid transaction))
  else pure ()

/-- A pegout id of another length is ignored. -/
def handleAdvanceFundsSpv (spv : FundsAdvanceSPV) : CoreM Unit :=
  if spv.pegoutId.length = 32 then
    completeStepByPegoutId config env (U256.fromBigEndian spv.pegoutId) (.advanceFundsSPV spv)
  else pure ()

/-- A notification about a transaction of the flow for a committee and slot. -/
def handleSpvNotification
    (notification : UnionSPVNotification) (missing : String) (data : BtcTxSPVProof → StepData) :
    CoreM Unit := do
  match ← flowByCommitteeSlot config env notification.committeeId notification.slotIndex with
  | none => pure ()
  | some flow => do
    let proof ← okOr notification.spvProof (.msg missing)
    completeFlowStep config env flow.flowId (data proof)

def handleReimbursementKickoffSpvNotification (notification : UnionSPVNotification) : CoreM Unit :=
  handleSpvNotification config env notification
    "ReimbursementKickoff SPV notification missing spv_proof data" .reimbursementKickoffSPV

def handleOperatorTakeSpvNotification (notification : UnionSPVNotification) : CoreM Unit :=
  handleSpvNotification config env notification
    "OperatorTake SPV notification missing spv_proof data" .operatorTakeSPV

def handleUnionSpvNotification (notification : UnionSPVNotification) : CoreM Unit :=
  match notification.txType with
  | .reimbursementKickoff => handleReimbursementKickoffSpvNotification config env notification
  | .operatorTake => handleOperatorTakeSpvNotification config env notification
  | _ => pure ()

def handleBitvmxEvent : OutgoingBitVMXApiMessages → CoreM Unit
  | .setupCompleted programId => handleSetupCompleted config env programId
  | .commInfo _ info => handleCommInfo config env info
  | .transactionInfo programId txName transaction =>
    handleTransactionInfo config env programId txName transaction
  | .variable _ name (.string json) =>
    if name = FundsAdvanceSPV.name then do
      let spv ← okOr (config.libs.parseFundsAdvanceSPV json) (.msg "invalid funds_advance_spv")
      handleAdvanceFundsSpv config env spv
    else if name = UnionSPVNotification.name then do
      let notification ← okOr (config.libs.parseUnionSPVNotification json)
        (.msg "invalid union_spv_notification")
      handleUnionSpvNotification config env notification
    else pure ()
  | _ => pure ()

/-! ## The calls of the coordinator -/

def persistProcessor : Program Processor Unit :=
  persistProcessorState env .advanceFundsProcessorState

def processNewBitvmxEvent (event : OutgoingBitVMXApiMessages) : Program Processor Unit := do
  liftCore (cleanupTerminalFlows env)
  liftCore (handleBitvmxEvent config env event)
  persistProcessor env

def handleUserRequest : UserRequests → CoreM Unit
  | .failFlow .advanceFunds id => failFlow config env id
  | _ => pure ()

def processUserRequest (request : UserRequests) : Program Processor Unit := do
  liftCore (cleanupTerminalFlows env)
  liftCore (handleUserRequest config env request)
  persistProcessor env

def Core.hasFlow (core : Core) (p : FlowContext → Bool) : Bool :=
  core.flows.entries.any fun entry => p entry.2

def Core.hasFlowForPegoutId (core : Core) (pegoutId : U256) : Bool :=
  core.hasFlow fun flow => flow.matchesPegout pegoutId

/-- The events that are confirmed before they are handled; some of them only if they are about a
flow. -/
def Core.eventInfo (core : Core) : RskPegManagerEvents → Option EventInfo
  | .pegoutRequested e => some (buildEventInfo "advance-funds-pegout-requested" e)
  | .operatorTakeTriggered e => some (buildEventInfo "operator-take-triggered" e)
  | .advanceFundsRegistered e =>
    if core.hasFlowForPegoutId e.inner.pegoutId then
      some (buildEventInfo "advance-funds-registered" e)
    else none
  | .reimbursementKickoffRegistered e =>
    if core.hasFlowForPegoutId e.inner.pegoutId then
      some (buildEventInfo "reimbursement-kickoff-registered" e)
    else none
  | .pegoutRegistered e =>
    if core.hasFlow fun flow =>
        flow.matchesCommitteeSlot e.inner.committeeId e.inner.streamInfo.slotId then
      some (buildEventInfo "advance-funds-pegout-registered" e)
    else none
  | _ => none

/-- Without confirmations an event is handled at once. -/
def processNewRskEvent (event : RskPegManagerEvents) : Program Processor Unit := do
  liftCore (cleanupTerminalFlows env)
  if config.requiredConfirmations = 0 then do
    liftCore (processConfirmedRskEvent config env event)
    persistProcessor env
  else
    match (← get).own.core.eventInfo event with
    | none => pure ()
    | some info => do
      trackEvent config.requiredConfirmations info event
      persistProcessor env

def processNewBlock (block : RskBlockAndUncles) : Program Processor Unit := do
  liftCore (cleanupTerminalFlows env)
  processBlockConfirmations env (processConfirmedRskEvent config env) (cleanupTerminalFlows env)
    block
  liftCore (handleRetryTick config env)
  persistProcessor env

/-! ## Starting again -/

/-- `rearm_pending_retries`, for one flow. -/
def Core.rearmPendingRetry (core : Core) (flow : FlowContext) : Core :=
  if flow.pendingRetry && core.retries.currentAttempt flow.flowId = 0 then
    core.scheduleRetry config flow.flowId 1
  else core

/-- The flows of the store, and the snapshot of the processor (`apply_processor_state`). What was
recorded about the calls is not lost. -/
def Core.load (core : Core) (saved : Option Core) : Core :=
  let restored := saved.getD .new
  { core with
    flows := core.store.rekey FlowContext.flowId
    retries := restored.retries
    requestPegoutTxHashes := restored.requestPegoutTxHashes
    armedFor := restored.armedFor }

def Core.rearmPendingRetries (core : Core) : Core :=
  (core.flows.entries.map (·.2)).foldl (Core.rearmPendingRetry config) core

def Processor.load (p : Processor) : Processor where
  core := (p.core.load (p.saved.map (·.1))).rearmPendingRetries config
  confirming := match p.saved with
    | some (_, confirming) => confirming.restore
    | none => .new
  saved := p.saved

/-! ## Runs -/

/-- What the coordinator calls the processor with, and the start of a new process. -/
inductive Input where
  | block (block : RskBlockAndUncles)
  | rskEvent (event : RskPegManagerEvents)
  | bitvmxEvent (event : OutgoingBitVMXApiMessages)
  | userRequest (request : UserRequests)
  | restart

/-- The program of a call; a start calls nothing. -/
def callProgram : Input → Program Processor Unit
  | .block block => processNewBlock config env block
  | .rskEvent event => processNewRskEvent config env event
  | .bitvmxEvent event => processNewBitvmxEvent config env event
  | .userRequest request => processUserRequest config env request
  | .restart => pure ()

def step (config : ProcessorConfig) (s : System Core) : CallEnv × Input → System Core
  | (_, .restart) => ⟨Processor.load config s.processor, s.past, false⟩
  | (env, input) => s.call (callProgram config env input)

/-- The first start, on an empty store. -/
def start : System Core := ⟨Processor.new, [], false⟩

/-! ### Operator takes, for runs on fixed inputs -/

/-- Texts stand for the messages about the takes of committee 7 and slot 0. -/
def sampleLibs : Libs :=
  { Libs.sample with
    parseFundsAdvanceSPV := fun _ => some ⟨⟨1⟩, 7, 0, toBE 32 1, sampleSpv 1⟩
    parseUnionSPVNotification := fun text =>
      if text = "kickoff" then some ⟨⟨2⟩, 7, 0, some (sampleSpv 2), .reimbursementKickoff⟩
      else some ⟨⟨3⟩, 7, 0, some (sampleSpv 3), .operatorTake⟩ }

/-- Every event is handled at once; a registration is tried again with the next block but one. -/
def sampleProcessorConfig : ProcessorConfig where
  libs := sampleLibs
  myAddress := 1
  verifier := .dummy
  requiredConfirmations := 0
  btcStatusRetryBlocks := 2

def sampleEvent {π : Type} (inner : π) (txHash : TxHash) : EventWithBlock π where
  inner := inner
  blockNumber := 1
  blockHash := 0
  removed := false
  txHash := txHash

/-- The take of this operator for committee 7 and slot 0 is triggered. -/
def sampleTriggered (txHash : TxHash) : Input :=
  .rskEvent (.operatorTakeTriggered
    (sampleEvent ⟨1, ⟨1, 7, toBE 33 1, 1, toBE 32 1⟩, ⟨0, 0, 0⟩⟩ txHash))

def sampleFlowId (txHash : TxHash) : FlowId :=
  flowIdFromOperatorTakeTriggeredTxHash sampleLibs txHash

def sampleVariable (name text : String) : Input := .bitvmxEvent (.variable 0 name (.string text))

/-- The way of the selected operator to the registration of the advanced funds. -/
def advancingInputs : List Input :=
  [sampleTriggered 5, .bitvmxEvent (.commInfo 0 ⟨⟨.v4 0x7f000001, 8080⟩, "02"⟩),
    .bitvmxEvent (.transactionInfo (acceptPeginProtocolId sampleLibs 7 0).value
      (indexedName operatorTakeTx 0) ⟨2, 0, [], []⟩),
    .bitvmxEvent (.setupCompleted (advanceFundsProtocolId sampleLibs 7 0).value),
    sampleVariable FundsAdvanceSPV.name "spv"]

def callsIn (env : Env) (inputs : List Input) : List (CallEnv × Input) :=
  inputs.map fun input => (.plain env, input)

end UnionBridge.AdvanceFunds
