import UnionBridge.Coordinator.Schedulers
import UnionBridge.Coordinator.SignatureSubflow
import UnionBridge.Pegout.Flow

/-!
# The pegout processor (`flows/pegout/pegout_processor.rs`)

The processor owns the pegout flows, their signature subflows and the schedulers that ask a flow
again: status polls, retries of `registerPegout`, and the timeouts after which the operator take is
triggered. As in the pegin processor an error leaves a function early and keeps what was done before
it.

The last four fields of `Core` are not in the source. They record what happened, for the statements
about runs.
-/

namespace UnionBridge.Pegout

open Chain Contracts Bitvmx Coordinator Effect

structure ProcessorConfig extends Config where
  advanceFundsTimeoutSecs : UInt64
  requiredConfirmations : UInt32
  btcConfirmations : UInt32
  btcStatusRetryBlocks : UInt32

structure PegoutEnv extends CallEnv where
  /-- `FORCE_ADVANCE`, which is read anew each time, names this operator. -/
  skipSignatures : Bool

structure Core where
  /-- By flow id. -/
  pegoutFlows : Table FlowId State
  /-- The flows in the store. -/
  store : Table FlowId State
  /-- By the protocol id of `BitVMX`. -/
  signatureFlows : SubFlows
  txStatusScheduler : TickScheduler FlowId
  advanceFundsTimeoutScheduler : TimeBasedScheduler FlowId
  /-- The flows whose timeout is scheduled with the next block. -/
  flowsPendingTimeout : Table FlowId Unit
  unconfirmedRegisterPegout : Table FlowId Nat
  registerPegoutRetryScheduler : TickScheduler FlowId
  /-- The flows that the current call dropped as terminal, each with the calls that were made
  before. -/
  retired : List (State × Contracts.Log)
  /-- The `PegoutRegistered` events that were confirmed and handled: by the current call, and
  before it. -/
  handled : List (EventWithBlock PegoutRegistered)
  handledBefore : List (EventWithBlock PegoutRegistered)
  /-- The calls of each flow since it was created, or since the process was started. -/
  callsOf : Table FlowId Contracts.Log
  /-- The same of flows that another one replaced under its id. -/
  callsOfReplaced : List Contracts.Log

def Core.new : Core where
  pegoutFlows := ∅
  store := ∅
  signatureFlows := ∅
  txStatusScheduler := .new
  advanceFundsTimeoutScheduler := .new
  flowsPendingTimeout := ∅
  unconfirmedRegisterPegout := ∅
  registerPegoutRetryScheduler := .new
  retired := []
  handled := []
  handledBefore := []
  callsOf := ∅
  callsOfReplaced := []

abbrev CoreM := Program Core

abbrev Processor := Gated Core

def Processor.new : Processor := ⟨.new, .new, none⟩

def modifyCore (f : Core → Core) : CoreM Unit := modify fun w => { w with own := f w.own }

/-! ## Flows -/

def Core.putSaved (core : Core) (id : FlowId) (saved : Option State) : Core :=
  { core with store := match saved with
    | some s => core.store.insert id s
    | none => core.store.erase id }

def Core.putFlow (core : Core) (id : FlowId) (flow : Flow) (calls : Contracts.Log) : Core :=
  { core.putSaved id flow.saved with
    pegoutFlows := core.pegoutFlows.insert id flow.state
    callsOf := core.callsOf.insert id (calls ++ (core.callsOf.lookup id).getD []) }

/-- A flow joins the table, and takes the place of one under the same id. -/
def Core.addFlow (core : Core) (id : FlowId) (flow : State) (calls : Contracts.Log) : Core :=
  { core with
    pegoutFlows := core.pegoutFlows.insert id flow
    callsOf := core.callsOf.insert id calls
    callsOfReplaced := (core.callsOf.lookup id).toList ++ core.callsOfReplaced }

def onFlow {α : Type} (id : FlowId) (state : State) (m : FlowM α) : CoreM α :=
  zoom (fun w => ⟨⟨state, w.own.store.lookup id⟩, w.log⟩)
    (fun t w => ⟨w.own.putFlow id t.own (callsSince w.log t.log), t.log⟩) m

/-- Run a program of a flow that is not in memory yet. -/
def onNewFlow {α : Type} (id : FlowId) (state : State) (m : FlowM α) : CoreM α :=
  zoom (fun w => ⟨⟨state, w.own.store.lookup id⟩, w.log⟩)
    (fun t w => ⟨w.own.putSaved id t.own.saved, t.log⟩) m

variable (config : ProcessorConfig) (env : PegoutEnv)

/-- The first flow, in the order of the table, with a property. -/
def findFlow (p : State → Bool) : CoreM (Option (FlowId × State)) := do
  let w ← get
  return (w.own.pegoutFlows.inOrder (env.rank w.log .flows)).find? fun entry => p entry.2

def pegoutFlowByProtocolId (protocolId : Uuid) : CoreM (Option (FlowId × State)) :=
  findFlow env fun flow => flow.ctx.bitvmxProtocolId.value = protocolId

def flowByUserTakeTxid (txid : Txid) : CoreM (Option (FlowId × State)) :=
  findFlow env fun flow => flow.userTakeTxid = some txid

def completeFlowStep (id : FlowId) (state : State) (data : StepData) : CoreM Unit :=
  onFlow id state (completeStep config.toConfig env.toEnv data)

/-! ## Terminal flows -/

/-- `cleanup_terminal_flow_state`, for one flow. -/
def Core.forgetFlow (core : Core) (id : FlowId) (flow : State) : Core :=
  { core with
    signatureFlows := core.signatureFlows.erase flow.ctx.bitvmxProtocolId.value
    txStatusScheduler := core.txStatusScheduler.cancel id
    advanceFundsTimeoutScheduler := core.advanceFundsTimeoutScheduler.cancel id
    registerPegoutRetryScheduler := core.registerPegoutRetryScheduler.cancel id
    flowsPendingTimeout := core.flowsPendingTimeout.erase id
    unconfirmedRegisterPegout := core.unconfirmedRegisterPegout.erase id }

def Core.terminalFlows (core : Core) (rank : FlowId → Nat) : List (FlowId × State) :=
  (core.pegoutFlows.inOrder rank).filter fun entry => entry.2.isTerminal

/-- A failed deletion is only logged. -/
def deleteFlow (flowId : FlowId) : CoreM Unit := do
  let result : Except String Unit ← perform env.toEnv (.deleteFlow (.pegoutFlow flowId.value)) id
  match result with
  | .ok _ => modifyCore fun core => { core with store := core.store.erase flowId }
  | .error _ => pure ()

def cleanupTerminalFlows : CoreM Unit := do
  let w ← get
  let terminal := w.own.terminalFlows (env.rank w.log .flows)
  modifyCore fun core => terminal.foldl (fun core (id, flow) => core.forgetFlow id flow) core
  terminal.forM fun (id, _) => deleteFlow env id
  modifyCore fun core => { core with
    pegoutFlows := core.pegoutFlows.retain fun _ flow => !flow.isTerminal
    retired := core.retired ++ terminal.map fun (_, flow) => (flow, w.log) }

/-! ## Confirmed events -/

/-- The flow joins the table once its first step is done. -/
def createFlowForPegoutRequested (event : EventWithBlock PegoutRequested) : CoreM Unit := do
  let committeeId ← okOr (CommitteeId.tryFrom event.inner.committeeId)
    (.msg "committee id too large")
  if !env.imMember committeeId then pure ()
  else do
    let new ← okOr (State.new config.libs event) (.msg "committee id too large")
    let existing ← findFlow env fun flow => flow.ctx.bitvmxProtocolId = new.ctx.bitvmxProtocolId
    ensure existing.isNone
      (.msg "another flow already holds BitVMX protocol id; refusing to create duplicate")
    let log := (← get).log
    let flow ← onNewFlow new.flowId new do
      completeStep config.toConfig env.toEnv .pegoutRequested
      return (← get).own.state
    let w ← get
    modifyCore fun core => core.addFlow new.flowId flow (callsSince log w.log)

/-- An event is matched by the txid only. -/
def handlePegoutRegistered (pr : EventWithBlock PegoutRegistered) : CoreM Unit := do
  modifyCore fun core => { core with handled := pr :: core.handled }
  match ← flowByUserTakeTxid env (TxIdParser.fb32ToTxid pr.inner.txid) with
  | some (id, flow) => completeFlowStep config env id flow (.pegoutRegistered pr)
  | none => pure ()

/-- Handle an event; says whether terminal flows are dropped afterwards. -/
def handleConfirmedEvent : RskPegManagerEvents → CoreM Bool
  | .pegoutRequested pr => do
    let committeeId ← okOr (CommitteeId.tryFrom pr.inner.committeeId)
      (.msg "committee id too large")
    if !env.imMember committeeId then return false
    else do
      createFlowForPegoutRequested config env pr
      return true
  | .pegoutRegistered pr => do
    handlePegoutRegistered config env pr
    return true
  | _ => return true

def cleanupIf (cleans : Bool) (env : PegoutEnv) : CoreM Unit :=
  if cleans then cleanupTerminalFlows env else pure ()

def processConfirmedRskEvent (event : RskPegManagerEvents) : CoreM Unit := do
  let cleans ← handleConfirmedEvent config env event
  cleanupIf cleans env

/-! ## Signatures -/

def putSubFlows (f : SubFlows → SubFlows) (core : Core) : Core :=
  { core with signatureFlows := f core.signatureFlows }

def subFlowIds : CoreM (List Uuid) := do
  let w ← get
  return (w.own.signatureFlows.inOrder (env.rank w.log .signatureFlows)).map (·.1)

/-- A fresh subflow sends the nonce; it joins the table only when that succeeded. -/
def startSubFlow (protocolId : Uuid) (data : RegisterSignaturesBitVmxData) : CoreM Unit := do
  let subFlow ← zoom (fun w => ⟨SignatureSubFlow.new protocolId, w.log⟩)
    (fun t w => ⟨w.own, t.log⟩)
    (do startSignatureFlow env.toEnv protocolId data; return (← get).own : SubFlowM _)
  modifyCore (putSubFlows fun t => t.insert protocolId subFlow)

/-- A finished subflow leaves the table; its flow dispatches the transaction and needs no timeout
any more. -/
def dispatchSigned (protocolId : Uuid) : CoreM Unit := do
  modifyCore (putSubFlows fun t => t.erase protocolId)
  match ← pegoutFlowByProtocolId env protocolId with
  | none => pure ()
  | some (id, flow) =>
    if flow.step ≠ .waitUserTakeSignaturesReady then pure ()
    else do
      completeFlowStep config env id flow .userTakeSignaturesReady
      modifyCore fun core => { core with
        advanceFundsTimeoutScheduler := core.advanceFundsTimeoutScheduler.cancel id }

def processUnhandledConfirmedSigFlowEvents (block : RskBlockAndUncles) : CoreM Unit := do
  let ids ← subFlowIds env
  forEachSubFlow Core.signatureFlows putSubFlows (fun _ => delegateBlock env.toEnv block) ids
  let subFlows := (← get).own.signatureFlows
  (ids.filter fun id => (subFlows.lookup id).any (·.isDone)).forM (dispatchSigned config env)

/-! ## Status of the user-take transaction -/

def handleTransactionStatusReceived
    (protocolId : Uuid) (txStatus : TransactionStatus) : CoreM Unit := do
  match ← pegoutFlowByProtocolId env protocolId with
  | none => pure ()
  | some (id, flow) => do
    let expected ← okOr flow.userTakeTxid (.msg "Expected user take tx_id not found")
    ensure (expected = txStatus.txId)
      (.msg "Pegout state does not match received tx_id from tx status message")
    ensure (flow.step = .confirmUserTakeTransaction) (.msg "Pegout mismatch current step")
    if config.btcConfirmations ≤ txStatus.confirmations then do
      completeFlowStep config env id flow (.transactionConfirmed txStatus)
      modifyCore fun core => { core with txStatusScheduler := core.txStatusScheduler.cancel id }
    else
      modifyCore fun core => { core with
        txStatusScheduler := core.txStatusScheduler.schedule id config.btcStatusRetryBlocks }

/-- Ask for the status of a transaction whose poll is due. -/
def pollTransactionStatus (id : FlowId) : CoreM Unit := do
  match (← get).own.pegoutFlows.lookup id with
  | none => pure ()
  | some flow =>
    if flow.step = .confirmUserTakeTransaction then
      onFlow id flow (requestTransactionStatus env.toEnv)
    else pure ()

def handleTransactionStatusTick : CoreM Unit := do
  let w ← get
  let (ready, scheduler) := w.own.txStatusScheduler.tick (env.rank w.log .txStatus)
  modifyCore fun core => { core with txStatusScheduler := scheduler }
  ready.forM (pollTransactionStatus env)

/-! ## Timeouts -/

/-- A flow that still waits for signatures gets its timeout; every flow stops pending. -/
def Core.schedulePendingTimeout (timestamp : UInt64) (core : Core) (id : FlowId) : Core :=
  let waits := (core.pegoutFlows.lookup id).any fun flow => flow.step = .waitUserTakeSignaturesReady
  { core with
    advanceFundsTimeoutScheduler :=
      if waits then
        core.advanceFundsTimeoutScheduler.schedule id timestamp config.advanceFundsTimeoutSecs
      else core.advanceFundsTimeoutScheduler
    flowsPendingTimeout := core.flowsPendingTimeout.erase id }

def schedulePendingTimeouts (timestamp : UInt64) : CoreM Unit := do
  let w ← get
  let pending := (w.own.flowsPendingTimeout.inOrder (env.rank w.log .pendingTimeouts)).map (·.1)
  modifyCore fun core => pending.foldl (Core.schedulePendingTimeout config timestamp) core

/-- The first step calls `trigger_operator_take`, the second one ends the flow. -/
def triggerOperatorTakeForFlow (id : FlowId) : CoreM Unit := do
  let flow ← okOr ((← get).own.pegoutFlows.lookup id) (.msg "Flow not found for flow_id")
  if flow.step ≠ .waitUserTakeSignaturesReady then pure ()
  else do
    modifyCore (putSubFlows fun t => t.erase flow.ctx.bitvmxProtocolId.value)
    completeFlowStep config env id flow .triggerOperatorTakeTimeout
    match (← get).own.pegoutFlows.lookup id with
    | some flow =>
      if flow.step = .triggerOperatorTake then
        completeFlowStep config env id flow .triggerOperatorTakeTimeout
      else pure ()
    | none => pure ()

def handleAdvanceFundsTimeoutExpired (timestamp : UInt64) : CoreM Unit := do
  let w ← get
  let (expired, scheduler) :=
    w.own.advanceFundsTimeoutScheduler.checkExpired (env.rank w.log .timeouts) timestamp
  modifyCore fun core => { core with advanceFundsTimeoutScheduler := scheduler }
  expired.forM (triggerOperatorTakeForFlow config env)

/-! ## Failing a flow -/

def markFlowFailed (id : FlowId) : CoreM Unit := do
  match (← get).own.pegoutFlows.lookup id with
  | some flow => onFlow id flow (markFailed config.toConfig env.toEnv)
  | none => pure ()

def failFlow (id : FlowId) : CoreM Unit := do
  markFlowFailed config env id
  cleanupTerminalFlows env

/-! ## Retries -/

def scheduleRegisterPegoutRetry (id : FlowId) (attempt : Nat) : CoreM Unit :=
  modifyCore fun core => { core with
    unconfirmedRegisterPegout := core.unconfirmedRegisterPegout.insert id attempt
    registerPegoutRetryScheduler :=
      core.registerPegoutRetryScheduler.schedule id config.btcStatusRetryBlocks }

def retryRegisterPegout (id : FlowId) : CoreM Unit := do
  match (← get).own.unconfirmedRegisterPegout.lookup id with
  | none => pure ()
  | some attempts => do
    modifyCore fun core =>
      { core with unconfirmedRegisterPegout := core.unconfirmedRegisterPegout.erase id }
    match (← get).own.pegoutFlows.lookup id with
    | none => pure ()
    | some flow =>
      if flow.step ≠ .registerPegout then pure ()
      else
        match ← attempt FlowError.isError
          (completeFlowStep config env id flow .retryRegisterPegout) with
        | .ok _ => pure ()
        | .error e =>
          if e.isPegStatusCompleted then pure ()
          else if !e.isMissingNativeBridgeConfirmations then pure ()
          else scheduleRegisterPegoutRetry config id (saturatingSucc attempts)

/-- No error leaves the loop. -/
def handleRegisterPegoutRetryTick : CoreM Unit := do
  let w ← get
  let (ready, scheduler) :=
    w.own.registerPegoutRetryScheduler.tick (env.rank w.log .registerRetries)
  modifyCore fun core => { core with registerPegoutRetryScheduler := scheduler }
  ready.forM (retryRegisterPegout config env)

/-! ## Messages of `BitVMX` -/

/-- The reply names no flow, so every flow that waits for one takes it. -/
def handleCommInfo (commInfo : CommsAddress) : CoreM Unit := do
  let w ← get
  let ids := (w.own.pegoutFlows.inOrder (env.rank w.log .flows)).map (·.1)
  ids.forM fun id => do
    match (← get).own.pegoutFlows.lookup id with
    | none => pure ()
    | some flow =>
      if flow.step = .getCommInfoAuthoritativeCheckpoint then
        completeFlowStep config env id flow (.commInfo commInfo)
      else pure ()

def startSubFlowUnless (skip : Bool) (env : PegoutEnv) (protocolId : Uuid)
    (data : RegisterSignaturesBitVmxData) : CoreM Unit :=
  if skip then pure () else startSubFlow env protocolId data

/-- The contracts are asked to sign the txid of the request. The timeout starts to pend last. -/
def handlePegoutAccepted (protocolId : Uuid) (data : String) : CoreM Unit := do
  match ← pegoutFlowByProtocolId env protocolId with
  | none => throw (.msg "Flow not found for protocol_id")
  | some (id, flow) => do
    let input ← okOr (config.libs.parsePegOutAccepted data) (.msg "invalid pegout accepted message")
    ensure (flow.step = .prepareUserTakeSetup) (.msg "Mismatch current step")
    completeFlowStep config env id flow (.pegoutAccepted input)
    startSubFlowUnless env.skipSignatures env protocolId {
      hashToSign := flow.ctx.pegoutRequested.pegoutSignatureData.txid
      nonce := input.userTakeNonce
      signature := input.userTakeSignature }
    modifyCore fun core =>
      { core with flowsPendingTimeout := core.flowsPendingTimeout.insert id () }

/-- Handle a proof; says whether the state is stored afterwards. -/
def handleSpvProof (txId : Txid) (proof : Option BtcTxSPVProof) : CoreM Bool := do
  let proof ← okOr proof (.msg "Received SPVProof event without proof")
  match ← flowByUserTakeTxid env txId with
  | none => return false
  | some (id, flow) => do
    ensure (flow.step = .requestUserTakeSpvProof) (.msg "Mismatch current step")
    match ← attempt FlowError.isError (completeFlowStep config env id flow (.spvProof proof)) with
    | .ok _ => return true
    | .error e =>
      if e.isMissingNativeBridgeConfirmations then do
        let attempts := ((← get).own.unconfirmedRegisterPegout.lookup id).getD 0
        scheduleRegisterPegoutRetry config id (saturatingSucc attempts)
        return true
      else if e.isPegStatusCompleted then return false
      else throw e

def andStore (m : CoreM Unit) : CoreM Bool := do
  m
  return true

def handleBitvmxEvent : OutgoingBitVMXApiMessages → CoreM Bool
  | .commInfo _ info => andStore (handleCommInfo config env info)
  | .variable protocolId name (.string data) =>
    if name = pegoutAcceptedName then andStore (handlePegoutAccepted config env protocolId data)
    else return true
  | .spvProof txId proof => handleSpvProof config env txId proof
  | .transaction protocolId txStatus =>
    andStore (handleTransactionStatusReceived config env protocolId txStatus)
  | _ => return true

/-! ## The calls of the coordinator -/

def persistIfSaid (stores : Bool) : Program Processor Unit :=
  if stores then persistProcessorState env.toCallEnv .pegoutProcessorState else pure ()

def processNewBitvmxEvent (event : OutgoingBitVMXApiMessages) : Program Processor Unit := do
  liftCore (cleanupTerminalFlows env)
  let stores ← liftCore (handleBitvmxEvent config env event)
  persistIfSaid env stores

def handleUserRequest : UserRequests → CoreM Unit
  | .failFlow .pegout id => failFlow config env id
  | _ => pure ()

def processUserRequest (request : UserRequests) : Program Processor Unit := do
  liftCore (cleanupTerminalFlows env)
  liftCore (handleUserRequest config env request)
  persistProcessorState env.toCallEnv .pegoutProcessorState

/-- The events that are confirmed before they are handled. -/
def eventInfo : RskPegManagerEvents → Option EventInfo
  | .pegoutRequested e => some (buildEventInfo "pegout-requested" e)
  | .pegoutRegistered e => some (buildEventInfo "pegout-registered" e)
  | _ => none

def isSignatureEvent : RskPegManagerEvents → Bool
  | .allNoncesReady _ => true
  | .allSignaturesReady _ => true
  | _ => false

def delegateSignatureEvent (event : RskPegManagerEvents) : CoreM Unit := do
  forEachSubFlow Core.signatureFlows putSubFlows
    (fun id => delegateRskEvent config.requiredConfirmations id event) (← subFlowIds env)

/-- Without confirmations an event is handled at once. -/
def processNewRskEvent (event : RskPegManagerEvents) : Program Processor Unit := do
  liftCore (cleanupTerminalFlows env)
  if isSignatureEvent event then do
    liftCore (delegateSignatureEvent config env event)
    persistProcessorState env.toCallEnv .pegoutProcessorState
  else if config.requiredConfirmations = 0 then do
    liftCore (processConfirmedRskEvent config env event)
    persistProcessorState env.toCallEnv .pegoutProcessorState
  else
    match eventInfo event with
    | none => pure ()
    | some info => do
      trackEvent config.requiredConfirmations info event
      persistProcessorState env.toCallEnv .pegoutProcessorState

def beforeConfirmations (block : RskBlockAndUncles) (timestamp : UInt64) : CoreM Unit := do
  cleanupTerminalFlows env
  schedulePendingTimeouts config env timestamp
  handleAdvanceFundsTimeoutExpired config env timestamp
  processUnhandledConfirmedSigFlowEvents config env block
  handleTransactionStatusTick env
  handleRegisterPegoutRetryTick config env

def processNewBlock (block : RskBlockAndUncles) (timestamp : UInt64) : Program Processor Unit := do
  liftCore (beforeConfirmations config env block timestamp)
  processBlockConfirmations env.toCallEnv (processConfirmedRskEvent config env)
    (cleanupTerminalFlows env) block
  persistProcessorState env.toCallEnv .pegoutProcessorState

/-! ## Starting again -/

def Core.applyProcessorState (core saved : Core) : Core :=
  { core with
    signatureFlows := saved.signatureFlows.mapValues (·.restore)
    txStatusScheduler := saved.txStatusScheduler
    advanceFundsTimeoutScheduler := saved.advanceFundsTimeoutScheduler
    flowsPendingTimeout := saved.flowsPendingTimeout
    unconfirmedRegisterPegout := saved.unconfirmedRegisterPegout
    registerPegoutRetryScheduler := saved.registerPegoutRetryScheduler }

/-- The schedules that the step of a flow asks for. -/
def Core.reconstructFlow (core : Core) (id : FlowId) (flow : State) : Core :=
  match flow.step with
  | .waitUserTakeSignaturesReady =>
    if core.advanceFundsTimeoutScheduler.isScheduled id then core
    else { core with flowsPendingTimeout := core.flowsPendingTimeout.insert id () }
  | .confirmUserTakeTransaction => { core with
      txStatusScheduler := core.txStatusScheduler.scheduleNew id config.btcStatusRetryBlocks }
  | .registerPegout => { core with
      unconfirmedRegisterPegout := core.unconfirmedRegisterPegout.insertNew id 0
      registerPegoutRetryScheduler :=
        core.registerPegoutRetryScheduler.scheduleNew id config.btcStatusRetryBlocks }
  | _ => core

/-- A flow whose query cannot be sent again ends the start. -/
def reconstructRuntimeStateFromFlows : CoreM Unit := do
  let w ← get
  (w.own.pegoutFlows.inOrder (env.rank w.log .flows)).forM fun (id, flow) => do
    modifyCore fun core => core.reconstructFlow config id flow
    onFlow id flow (redrivePendingBitvmxRequest env.toEnv)

/-- The flows of the store, without anything that waits for them. -/
def Core.load (core : Core) : Core :=
  { Core.new with
    pegoutFlows := core.store.rekey State.flowId
    store := core.store
    handled := core.handled
    handledBefore := core.handledBefore }

def Processor.load (p : Processor) : Processor where
  core := match p.saved with
    | some (saved, _) => p.core.load.applyProcessorState saved
    | none => p.core.load
  confirming := match p.saved with
    | some (_, confirming) => confirming.restore
    | none => .new
  saved := p.saved

/-! ## Runs -/

/-- What the coordinator calls the processor with; a block carries its timestamp. -/
inductive Input where
  | block (block : RskBlockAndUncles) (timestamp : UInt64)
  | rskEvent (event : RskPegManagerEvents)
  | bitvmxEvent (event : OutgoingBitVMXApiMessages)
  | userRequest (request : UserRequests)
  | restart

/-- The program of a call, or of the start on what is stored. -/
def callProgram : Input → Program Processor Unit
  | .block block timestamp => processNewBlock config env block timestamp
  | .rskEvent event => processNewRskEvent config env event
  | .bitvmxEvent event => processNewBitvmxEvent config env event
  | .userRequest request => processUserRequest config env request
  | .restart => liftCore (reconstructRuntimeStateFromFlows config env)

/-- A new call has dropped no flow and handled no event yet. -/
def Processor.begin (p : Processor) : Processor :=
  { p with core := { p.core with
    retired := []
    handled := []
    handledBefore := p.core.handled ++ p.core.handledBefore } }

/-- A start that fails is a panic. -/
def startAgain (s : System Core) : System Core :=
  match callProgram config env .restart ⟨Processor.begin (Processor.load s.processor), []⟩ with
  | .ok _ w => ⟨w.own, w.log ++ s.past, false⟩
  | .error _ w => ⟨w.own, w.log ++ s.past, true⟩

def step (config : ProcessorConfig) (s : System Core) : PegoutEnv × Input → System Core
  | (env, .restart) => startAgain config env s
  | (env, input) =>
    System.call ⟨Processor.begin s.processor, s.past, s.panicked⟩ (callProgram config env input)

/-- The first start, on an empty store. -/
def start : System Core := ⟨Processor.new, [], false⟩

/-! ### Pegouts, for runs on fixed inputs -/

/-- Every event is handled at once; the timeout is ten minutes. -/
def sampleProcessorConfig : ProcessorConfig where
  libs := Libs.sample
  myAddress := 1
  verifier := .dummy
  advanceFundsTimeoutSecs := 600
  requiredConfirmations := 0
  btcConfirmations := 6
  btcStatusRetryBlocks := 2

/-- The environment in which exactly the calls in `refuses` fail. -/
def PegoutEnv.failing (refuses : Call → Bool) : PegoutEnv :=
  { CallEnv.plain (.failing fun _ c => refuses c) with skipSignatures := false }

/-- A request for the slot of a committee, in a transaction of its own. -/
def sampleRequest (slotId : UInt64) (txHash : TxHash) : EventWithBlock PegoutRequested where
  inner := ⟨List.replicate 33 2, 7, ⟨txHash, 0⟩, 0, 0, slotId, 100000⟩
  blockNumber := 1
  blockHash := 0
  removed := false
  txHash := txHash

def sampleFlowId (txHash : TxHash) : FlowId := flowIdFromPegoutRequestedTxHash Libs.sample txHash

def sampleProtocolId (slotId : UInt64) : Uuid := (userTakeProtocolId Libs.sample 7 slotId).value

def sampleCommInfo : Input := .bitvmxEvent (.commInfo 0 ⟨⟨.v4 0x7f000001, 8080⟩, "02"⟩)

/-- The message that names the user-take transaction, as a text in hexadecimal. -/
def sampleAccepted (slotId : UInt64) (txid : String) : Input :=
  .bitvmxEvent (.variable (sampleProtocolId slotId) pegoutAcceptedName (.string txid))

/-- A pegout that has come to the wait for signatures. -/
def waitingInputs (slotId : UInt64) (txHash : TxHash) (txid : String) : List Input :=
  [.rskEvent (.pegoutRequested (sampleRequest slotId txHash)), sampleCommInfo,
    sampleAccepted slotId txid]

def callsIn (inputs : List Input) : List (PegoutEnv × Input) :=
  inputs.map fun input => (env, input)

end UnionBridge.Pegout
