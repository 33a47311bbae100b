import UnionBridge.Coordinator.Schedulers
import UnionBridge.Coordinator.SignatureSubflow
import UnionBridge.Pegin.FlowInvariant
import Mathlib.Data.Finset.Basic

/-!
# The pegin processor (`flows/pegin/pegin_processor.rs`)

The processor owns the pegin flows and everything that waits for them: signature subflows, status
polls, retries and buffered events. An error leaves a function early (`?`), keeping what was done
before it, and the coordinator only logs it; so a function that takes something out of a table
before a call that fails has lost it, and the model keeps that order of effects.

The last three fields of `Core` are not in the source. They record what happened, for the
statements about runs.
-/

namespace UnionBridge.Pegin

open Chain Contracts Bitvmx Coordinator Effect

def peginAcceptedInputMsg : String := "pegin_accepted"
def operatorTakeTxStart : String := "OPERATOR_TAKE_TX"
def operatorWonTxStart : String := "OPERATOR_WON_TX"

structure ProcessorConfig extends Config where
  requiredConfirmations : UInt32
  btcConfirmations : UInt32
  btcStatusRetryBlocks : UInt32

structure Core where
  peginFlows : Table FlowId State
  /-- The flows in the store. -/
  store : Table FlowId State
  signatureFlows : SubFlows
  txStatusScheduler : TickScheduler FlowId
  peginRequestTracker : Finset Txid
  pendingPeginRequested : Table Txid (EventWithBlock PeginRequested)
  pendingAllOperatorTakeTxidsAdded : Table Txid (EventWithBlock AllOperatorTakeTxidsAdded)
  pendingPeginAccepted : Table Txid (EventWithBlock PeginAccepted)
  /-- By Bitcoin block hash. -/
  unconfirmedPeginRequests : Table String (BtcTxSPVProof × Nat)
  peginRetryScheduler : TickScheduler String
  unconfirmedAcceptPegin : Table FlowId Nat
  acceptPeginRetryScheduler : TickScheduler FlowId
  /-- The flows that the current call dropped as terminal, each with the calls that were made
  before. -/
  retired : List (State × Contracts.Log)
  /-- The accept txids of the `AllOperatorTakeTxidsAdded` events that were confirmed. -/
  confirmedTakes : List Txid
  /-- The flows whose `requestPegin` failed for missing confirmations and has not succeeded since. -/
  unconfirmed : Finset FlowId

def Core.new : Core where
  peginFlows := ∅
  store := ∅
  signatureFlows := ∅
  txStatusScheduler := .new
  peginRequestTracker := ∅
  pendingPeginRequested := ∅
  pendingAllOperatorTakeTxidsAdded := ∅
  pendingPeginAccepted := ∅
  unconfirmedPeginRequests := ∅
  peginRetryScheduler := .new
  unconfirmedAcceptPegin := ∅
  acceptPeginRetryScheduler := .new
  retired := []
  confirmedTakes := []
  unconfirmed := ∅

abbrev CoreM := Program Core

abbrev Processor := Gated Core

def Processor.new : Processor := ⟨.new, .new, none⟩

def modifyCore (f : Core → Core) : CoreM Unit := modify fun w => { w with own := f w.own }

/-! ## Flows -/

def Core.putSaved (core : Core) (id : FlowId) (saved : Option State) : Core :=
  { core with store := match saved with
    | some s => core.store.insert id s
    | none => core.store.erase id }

def Core.putFlow (core : Core) (id : FlowId) (flow : Flow) : Core :=
  { core.putSaved id flow.saved with peginFlows := core.peginFlows.insert id flow.state }

def onFlow {α : Type} (id : FlowId) (state : State) (m : FlowM α) : CoreM α :=
  zoom (fun w => ⟨⟨state, w.own.store.lookup id⟩, w.log⟩)
    (fun t w => ⟨w.own.putFlow id t.own, t.log⟩) m

/-- Run a program of a flow that is not in memory yet. -/
def onNewFlow {α : Type} (id : FlowId) (state : State) (m : FlowM α) : CoreM α :=
  zoom (fun w => ⟨⟨state, w.own.store.lookup id⟩, w.log⟩)
    (fun t w => ⟨w.own.putSaved id t.own.saved, t.log⟩) m

variable (config : ProcessorConfig) (env : CallEnv)

/-- The first flow, in the order of the table, with a property. -/
def findFlow (p : FlowId → State → Bool) : CoreM (Option (FlowId × State)) := do
  let w ← get
  return (w.own.peginFlows.inOrder (env.rank w.log .flows)).find? fun entry => p entry.1 entry.2

def flowByProtocolId (protocolId : Uuid) : CoreM (Option (FlowId × State)) :=
  findFlow env fun _ flow => flow.ctx.bitvmxProtocolId.map (·.value) = some protocolId

def flowByAcceptPeginTxid (txid : Txid) : CoreM (Option (FlowId × State)) :=
  findFlow env fun _ flow => flow.acceptPeginTxid = some txid

def completeFlowStep (id : FlowId) (state : State) (data : StepData) : CoreM Unit :=
  onFlow id state (completeStep config.toConfig env.toEnv data)

/-! ## Terminal flows -/

/-- Drop everything that waits for a terminal flow. -/
def Core.forgetFlow (libs : Libs) (core : Core) (id : FlowId) (flow : State) : Core :=
  let btcTxId := flow.ctx.requestPeginBtcTxId
  let retryKeys := (core.unconfirmedPeginRequests.entries.filter fun e =>
    libs.computeTxid e.2.1.tx = btcTxId).map (·.1)
  { core with
    signatureFlows := match flow.ctx.bitvmxProtocolId with
      | some pid => core.signatureFlows.erase pid.value
      | none => core.signatureFlows
    txStatusScheduler := core.txStatusScheduler.cancel id
    acceptPeginRetryScheduler := core.acceptPeginRetryScheduler.cancel id
    unconfirmedAcceptPegin := core.unconfirmedAcceptPegin.erase id
    peginRequestTracker := core.peginRequestTracker.erase btcTxId
    pendingPeginRequested := core.pendingPeginRequested.erase btcTxId
    peginRetryScheduler := retryKeys.foldl (fun s key => s.cancel key) core.peginRetryScheduler
    unconfirmedPeginRequests :=
      retryKeys.foldl (fun t key => t.erase key) core.unconfirmedPeginRequests }

def Core.terminalFlows (core : Core) (rank : FlowId → Nat) : List (FlowId × State) :=
  (core.peginFlows.inOrder rank).filter fun entry => entry.2.isTerminal

/-- A failed deletion is only logged. -/
def deleteFlow (flowId : FlowId) : CoreM Unit := do
  let result : Except String Unit ← perform env.toEnv (.deleteFlow (.peginFlow flowId.value)) id
  match result with
  | .ok _ => modifyCore fun core => { core with store := core.store.erase flowId }
  | .error _ => pure ()

def cleanupTerminalFlows : CoreM Unit := do
  let w ← get
  let terminal := w.own.terminalFlows (env.rank w.log .flows)
  modifyCore fun core => terminal.foldl (fun core (id, flow) => core.forgetFlow config.libs id flow)
    core
  terminal.forM fun (id, _) => deleteFlow env id
  modifyCore fun core => { core with
    peginFlows := core.peginFlows.retain fun _ flow => !flow.isTerminal
    retired := core.retired ++ terminal.map fun (_, flow) => (flow, w.log) }

/-! ## Confirmed events -/

def createFlowForPeginRequested (event : PeginRequested) : CoreM Unit := do
  if !env.imMember event.committeeId then pure ()
  else do
    let flowId := flowIdFromRequestPeginTxid config.libs (TxIdParser.fb32ToTxid event.requestPeginTxid)
    let expectedPid := acceptPeginProtocolId config.libs event.committeeId event.streamPosition.slotId
    let other ← findFlow env fun id flow =>
      id ≠ flowId ∧ flow.ctx.bitvmxProtocolId = some expectedPid
    ensure other.isNone (.msg "another flow already holds BitVMX protocol id")
    match (← get).own.peginFlows.lookup flowId with
    | some flow => completeFlowStep config env flowId flow (.peginRequested event)
    | none => pure ()

def handlePeginAccepted (pa : EventWithBlock PeginAccepted) : CoreM Unit := do
  let txid := TxIdParser.fb32ToTxid pa.inner.acceptPeginTxid
  match ← flowByAcceptPeginTxid env txid with
  | none => throw (.msg "No matching pegin flow found for PeginAccepted event")
  | some (id, flow) =>
    if flow.ctx.step = .done then pure ()
    else if !flow.ctx.step.allowsFastForwardToPeginAccepted then
      modifyCore fun core =>
        { core with pendingPeginAccepted := core.pendingPeginAccepted.insert txid pa }
    else completeFlowStep config env id flow (.peginAccepted pa.inner)

def Core.hasFlowForAcceptPegin (core : Core) (acceptPeginTxid : U256) : Bool :=
  core.peginFlows.entries.any fun e =>
    e.2.ctx.peginRequested.map (·.acceptPeginTxid) = some acceptPeginTxid

/-- A fresh subflow sends the nonce; it joins the table only when that succeeded. -/
def startSubFlow (protocolId : Uuid) (data : RegisterSignaturesBitVmxData) : CoreM Unit := do
  let subFlow ← zoom (fun w => ⟨SignatureSubFlow.new protocolId, w.log⟩)
    (fun t w => ⟨w.own, t.log⟩)
    (do startSignatureFlow env.toEnv protocolId data; return (← get).own : SubFlowM _)
  modifyCore fun core =>
    { core with signatureFlows := core.signatureFlows.insert protocolId subFlow }

def startSignatures (id : FlowId) (flow : State) (txid : Txid) : CoreM Unit := do
  let protocolId ← okOr flow.ctx.bitvmxProtocolId (.msg "bitvmx_protocol_id not set for flow")
  if ((← get).own.signatureFlows.lookup protocolId.value).isSome then pure ()
  else do
    let message ← okOr flow.ctx.bitvmxPeginAccepted (.msg "PeginAcceptedMessage not found")
    startSubFlow env protocolId.value {
      hashToSign := TxIdParser.txidToFb32 txid
      nonce := message.acceptPeginNonce
      signature := message.acceptPeginSignature }
    completeFlowStep config env id flow .allOperatorTakeTxidsAdded

def handleAllOperatorTakeTxHashesAdded
    (event : EventWithBlock AllOperatorTakeTxidsAdded) : CoreM Unit := do
  let txid := TxIdParser.fb32ToTxid event.inner.acceptPeginTxid
  modifyCore fun core => { core with confirmedTakes := txid :: core.confirmedTakes }
  match ← flowByAcceptPeginTxid env txid with
  | some (id, flow) => startSignatures config env id flow txid
  | none =>
    if (← get).own.hasFlowForAcceptPegin event.inner.acceptPeginTxid then
      modifyCore fun core => { core with
        pendingAllOperatorTakeTxidsAdded := core.pendingAllOperatorTakeTxidsAdded.insert txid event }
    else pure ()

/-- A request waits in the buffer until its flow is ready for it. -/
def handlePeginRequested (pr : EventWithBlock PeginRequested) : CoreM Unit := do
  let btcTxId := TxIdParser.fb32ToTxid pr.inner.requestPeginTxid
  let flow := (← get).own.peginFlows.lookup (flowIdFromRequestPeginTxid config.libs btcTxId)
  if flow.all fun flow => flow.ctx.step ≠ .waitPeginRequested then
    modifyCore fun core =>
      { core with pendingPeginRequested := core.pendingPeginRequested.insert btcTxId pr }
  else createFlowForPeginRequested config env pr.inner

def isForeign : RskPegManagerEvents → Bool
  | .peginRequested pr => !env.imMember pr.inner.committeeId
  | _ => false

def handleConfirmedEvent : RskPegManagerEvents → CoreM Unit
  | .peginRequested pr => handlePeginRequested config env pr
  | .peginAccepted pa => handlePeginAccepted config env pa
  | .allOperatorTakeTxidsAdded event => handleAllOperatorTakeTxHashesAdded config env event
  | _ => pure ()

def processConfirmedRskEvent (event : RskPegManagerEvents) : CoreM Unit := do
  if isForeign env event then pure ()
  else do
    handleConfirmedEvent config env event
    cleanupTerminalFlows config env

/-! ## Replays -/

def replayPendingPeginRequested (txId : Txid) : CoreM Unit := do
  match (← get).own.pendingPeginRequested.lookup txId with
  | none => pure ()
  | some event => do
    modifyCore fun core =>
      { core with pendingPeginRequested := core.pendingPeginRequested.erase txId }
    processConfirmedRskEvent config env (.peginRequested event)

def replayPendingAllOperatorTakeTxidsAdded (txid : Txid) : CoreM Unit := do
  let flow ← flowByAcceptPeginTxid env txid
  if flow.map (·.2.ctx.step) ≠ some .waitAllOperatorTakeTxidsAdded then pure ()
  else
    match (← get).own.pendingAllOperatorTakeTxidsAdded.lookup txid with
    | none => pure ()
    | some event => do
      modifyCore fun core => { core with
        pendingAllOperatorTakeTxidsAdded := core.pendingAllOperatorTakeTxidsAdded.erase txid }
      processConfirmedRskEvent config env (.allOperatorTakeTxidsAdded event)

def replayPendingPeginAccepted (txid : Txid) : CoreM Unit := do
  match (← get).own.pendingPeginAccepted.lookup txid with
  | none => pure ()
  | some event => do
    modifyCore fun core => { core with pendingPeginAccepted := core.pendingPeginAccepted.erase txid }
    processConfirmedRskEvent config env (.peginAccepted event)

/-! ## Signatures -/

def putSubFlows (f : SubFlows → SubFlows) (core : Core) : Core :=
  { core with signatureFlows := f core.signatureFlows }

def subFlowIds : CoreM (List Uuid) := do
  let w ← get
  return (w.own.signatureFlows.inOrder (env.rank w.log .signatureFlows)).map (·.1)

/-- A finished subflow leaves the table, and its flow dispatches the transaction. -/
def dispatchSigned (protocolId : Uuid) : CoreM Unit := do
  modifyCore (putSubFlows fun t => t.erase protocolId)
  match ← flowByProtocolId env protocolId with
  | none => pure ()
  | some (id, flow) =>
    if flow.ctx.step ≠ .waitAcceptPeginSignaturesReadyAllConvergeCheckpoint then pure ()
    else do
      completeFlowStep config env id flow .acceptPeginSignaturesReady
      match flow.acceptPeginTxid with
      | some txid => replayPendingPeginAccepted config env txid
      | none => pure ()

def processUnhandledConfirmedSigFlowEvents (block : RskBlockAndUncles) : CoreM Unit := do
  let ids ← subFlowIds env
  forEachSubFlow Core.signatureFlows putSubFlows (fun _ => delegateBlock env.toEnv block) ids
  let subFlows := (← get).own.signatureFlows
  (ids.filter fun id => (subFlows.lookup id).any (·.isDone)).forM (dispatchSigned config env)

/-! ## Status of the accept transaction -/

def handleTransactionStatusReceived (protocolId : Uuid)
    (txStatus : TransactionStatus) : CoreM Unit := do
  match ← flowByProtocolId env protocolId with
  | none => pure ()
  | some (id, flow) => do
    let expected ← okOr flow.acceptPeginTxid (.msg "Expected accept pegin tx_id not found")
    ensure (expected = txStatus.txId)
      (.msg "Pegin state does not match received tx_id from tx status message")
    ensure (flow.ctx.step = .confirmAcceptPeginTransaction) (.msg "Mismatch current step for flow")
    if config.btcConfirmations ≤ txStatus.confirmations then do
      completeFlowStep config env id flow (.acceptPeginTransactionConfirmed txStatus)
      modifyCore fun core => { core with txStatusScheduler := core.txStatusScheduler.cancel id }
    else
      modifyCore fun core => { core with
        txStatusScheduler := core.txStatusScheduler.schedule id config.btcStatusRetryBlocks }

/-- Ask for the status of a transaction whose poll is due. -/
def pollTransactionStatus (id : FlowId) : CoreM Unit := do
  match (← get).own.peginFlows.lookup id with
  | none => pure ()
  | some flow =>
    if flow.ctx.step = .confirmAcceptPeginTransaction then
      onFlow id flow (requestTransactionStatus env.toEnv)
    else pure ()

def handleTransactionStatusTick : CoreM Unit := do
  let w ← get
  let (ready, scheduler) := w.own.txStatusScheduler.tick (env.rank w.log .txStatus)
  modifyCore fun core => { core with txStatusScheduler := scheduler }
  ready.forM (pollTransactionStatus env)

/-! ## Failing a flow -/

def markFlowFailed (id : FlowId) : CoreM Unit := do
  match (← get).own.peginFlows.lookup id with
  | some flow => onFlow id flow (markFailed config.toConfig env.toEnv)
  | none => pure ()

def failFlow (id : FlowId) : CoreM Unit := do
  markFlowFailed config env id
  cleanupTerminalFlows config env

/-! ## Retries -/

/-- The retry is kept under the hash of the block of the proof. -/
def scheduleRequestPeginRetry (proof : BtcTxSPVProof) (attempt : Nat) : CoreM Unit :=
  modifyCore fun core => { core with
    unconfirmedPeginRequests := core.unconfirmedPeginRequests.insert proof.blockHash (proof, attempt)
    peginRetryScheduler :=
      core.peginRetryScheduler.schedule proof.blockHash config.btcStatusRetryBlocks }

def scheduleAcceptPeginRetry (id : FlowId) (attempt : Nat) : CoreM Unit :=
  modifyCore fun core => { core with
    unconfirmedAcceptPegin := core.unconfirmedAcceptPegin.insert id attempt
    acceptPeginRetryScheduler :=
      core.acceptPeginRetryScheduler.schedule id config.btcStatusRetryBlocks }

def Core.requestPeginFlow (libs : Libs) (core : Core) (txId : Txid) : Option (FlowId × State) :=
  let flowId := flowIdFromRequestPeginTxid libs txId
  match core.peginFlows.lookup flowId with
  | some flow => if flow.ctx.step = .requestPeginSpvProof then some (flowId, flow) else none
  | none => none

/-- Run a request for a pegin and record how it ended. -/
def attemptRequest (id : FlowId) (flow : State)
    (data : StepData) : CoreM (Except FlowError Unit) := do
  let result ← attempt FlowError.isError (completeFlowStep config env id flow data)
  modifyCore fun core => { core with unconfirmed := match result with
    | .ok _ => core.unconfirmed.erase id
    | .error e => if e.isMissingNativeBridgeConfirmations then insert id core.unconfirmed
      else core.unconfirmed }
  return result

def untrackRequest (txId : Txid) : CoreM Unit :=
  modifyCore fun core => { core with peginRequestTracker := core.peginRequestTracker.erase txId }

def retryRequestPegin (blockHash : String) : CoreM Unit := do
  match (← get).own.unconfirmedPeginRequests.lookup blockHash with
  | none => pure ()
  | some (proof, attempt) => do
    modifyCore fun core => { core with
      unconfirmedPeginRequests := core.unconfirmedPeginRequests.erase blockHash }
    let txId := config.libs.computeTxid proof.tx
    match (← get).own.requestPeginFlow config.libs txId with
    | none => pure ()
    | some (id, flow) =>
      match ← attemptRequest config env id flow .retryRequestPegin with
      | .ok _ => do
        untrackRequest txId
        replayPendingPeginRequested config env txId
      | .error e =>
        if !e.isMissingNativeBridgeConfirmations then untrackRequest txId
        else scheduleRequestPeginRetry config proof (saturatingSucc attempt)

def retryAcceptPegin (id : FlowId) : CoreM Unit := do
  match (← get).own.unconfirmedAcceptPegin.lookup id with
  | none => pure ()
  | some attempts => do
    modifyCore fun core =>
      { core with unconfirmedAcceptPegin := core.unconfirmedAcceptPegin.erase id }
    match (← get).own.peginFlows.lookup id with
    | none => pure ()
    | some flow =>
      if flow.ctx.step ≠ .acceptPegin then pure ()
      else
        match ← attempt FlowError.isError (completeFlowStep config env id flow .retryAcceptPegin) with
        | .ok _ => pure ()
        | .error e =>
          if e.isPeginAlreadyAccepted then pure ()
          else if !e.isMissingNativeBridgeConfirmations then pure ()
          else scheduleAcceptPeginRetry config id (saturatingSucc attempts)

def handleRequestRetries : CoreM Unit := do
  let w ← get
  let (ready, scheduler) := w.own.peginRetryScheduler.tick (env.rank w.log .requestRetries)
  modifyCore fun core => { core with peginRetryScheduler := scheduler }
  ready.forM (retryRequestPegin config env)

def handleAcceptRetries : CoreM Unit := do
  let w ← get
  let (ready, scheduler) := w.own.acceptPeginRetryScheduler.tick (env.rank w.log .acceptRetries)
  modifyCore fun core => { core with acceptPeginRetryScheduler := scheduler }
  ready.forM (retryAcceptPegin config env)

def handlePeginRetryTick : CoreM Unit := do
  handleRequestRetries config env
  handleAcceptRetries config env

/-! ## Messages of `BitVMX` -/

/-- The flow joins the table once its first step is done. -/
def handlePeginTransactionFound (txId : Txid) : CoreM Unit := do
  let flowId := flowIdFromRequestPeginTxid config.libs txId
  let core := (← get).own
  if txId ∈ core.peginRequestTracker ∨ (core.peginFlows.lookup flowId).isSome then pure ()
  else do
    let flow ← onNewFlow flowId (State.new txId flowId) do
      completeStep config.toConfig env.toEnv .peginTransactionFound
      return (← get).own.state
    modifyCore fun core => { core with
      peginFlows := core.peginFlows.insert flowId flow
      peginRequestTracker := insert txId core.peginRequestTracker }

def handleSpvProofForRequestPegin (txId : Txid) (proof : BtcTxSPVProof) : CoreM Unit := do
  let core := (← get).own
  if txId ∉ core.peginRequestTracker then pure ()
  else
    match core.requestPeginFlow config.libs txId with
    | none => pure ()
    | some (id, flow) =>
      match ← attemptRequest config env id flow (.requestPeginSpvProof proof) with
      | .ok _ => do
        untrackRequest txId
        replayPendingPeginRequested config env txId
      | .error e =>
        if e.isMissingNativeBridgeConfirmations then scheduleRequestPeginRetry config proof 1
        else throw e

def handleSpvProofForAcceptPegin (txId : Txid) (proof : BtcTxSPVProof) : CoreM Unit := do
  match ← flowByAcceptPeginTxid env txId with
  | none => pure ()
  | some (id, flow) =>
    match ← attempt FlowError.isError
      (completeFlowStep config env id flow (.acceptPeginSpvProof proof)) with
    | .ok _ => pure ()
    | .error e =>
      if e.isMissingNativeBridgeConfirmations then do
        let attempts := ((← get).own.unconfirmedAcceptPegin.lookup id).getD 0
        scheduleAcceptPeginRetry config id (saturatingSucc attempts)
      else if e.isPeginAlreadyAccepted then pure ()
      else throw e

def handleSpvProof (txId : Txid) (proof : Option BtcTxSPVProof) : CoreM Unit := do
  let proof ← okOr proof (.msg "Received BitVMX SPVProof event, but no SPV proof was included.")
  if txId ∈ (← get).own.peginRequestTracker then
    handleSpvProofForRequestPegin config env txId proof
  else handleSpvProofForAcceptPegin config env txId proof

/-- The reply names no flow, so every flow that waits for one takes it. -/
def handleCommInfo (commInfo : CommsAddress) : CoreM Unit := do
  let w ← get
  let ids := (w.own.peginFlows.inOrder (env.rank w.log .flows)).map (·.1)
  ids.forM fun id => do
    match (← get).own.peginFlows.lookup id with
    | none => pure ()
    | some flow =>
      if flow.ctx.step = .getCommInfoAuthoritativeCheckpoint then
        completeFlowStep config env id flow (.commInfo commInfo)
      else pure ()

def handleBitvmxPeginAccepted (protocolId : Uuid) (data : String) : CoreM Unit := do
  let message ← okOr (config.libs.parsePeginAcceptedMessage data)
    (.msg "invalid pegin accepted message")
  match ← flowByProtocolId env protocolId with
  | none => throw (.msg "Flow not found for protocol_id")
  | some (id, flow) => do
    ensure (flow.ctx.step = .preparePeginSetup) (.msg "Mismatch current step for flow")
    completeFlowStep config env id flow (.bitvmxPeginAccepted message)
    match ((← get).own.peginFlows.lookup id).bind State.acceptPeginTxid with
    | some txid => replayPendingAllOperatorTakeTxidsAdded config env txid
    | none => pure ()

def startsWith (text start : String) : Bool := start.toList.isPrefixOf text.toList

/-- The step of a flow and the name of a transaction that it waits for. -/
def takesTransactionInfo (step : Steps) (txName : String) : Bool :=
  match step with
  | .requestOperatorTakeTransactionInfo => startsWith txName operatorTakeTxStart
  | .requestOperatorWonTransactionInfo => startsWith txName operatorWonTxStart
  | _ => false

/-- Handle a message; says whether the state is stored afterwards. -/
def handleTransactionInfo (protocolId : Uuid)
    (txName : String) (transaction : Transaction) : CoreM Bool := do
  match ← flowByProtocolId env protocolId with
  | none => return false
  | some (id, flow) =>
    if takesTransactionInfo flow.ctx.step txName then do
      completeFlowStep config env id flow
        (.transactionInfo txName (config.libs.computeTxid transaction))
      return true
    else return true

def andStore (m : CoreM Unit) : CoreM Bool := do
  m
  return true

def handleBitvmxEvent : OutgoingBitVMXApiMessages → CoreM Bool
  | .peginTransactionFound txId => andStore (handlePeginTransactionFound config env txId)
  | .spvProof txId proof => andStore (handleSpvProof config env txId proof)
  | .commInfo _ info => andStore (handleCommInfo config env info)
  | .variable protocolId name (.string data) =>
    if name = peginAcceptedInputMsg then
      andStore (handleBitvmxPeginAccepted config env protocolId data)
    else return true
  | .transactionInfo protocolId txName transaction =>
    handleTransactionInfo config env protocolId txName transaction
  | .transaction protocolId txStatus =>
    andStore (handleTransactionStatusReceived config env protocolId txStatus)
  | _ => return true

/-! ## The calls of the coordinator -/

def persistIfSaid (stores : Bool) : Program Processor Unit :=
  if stores then persistProcessorState env .peginProcessorState else pure ()

def processNewBitvmxEvent (event : OutgoingBitVMXApiMessages) : Program Processor Unit := do
  liftCore (cleanupTerminalFlows config env)
  let stores ← liftCore (handleBitvmxEvent config env event)
  persistIfSaid env stores

def handleUserRequest : UserRequests → CoreM Unit
  | .failFlow .pegin id => failFlow config env id
  | _ => pure ()

def processUserRequest (request : UserRequests) : Program Processor Unit := do
  liftCore (cleanupTerminalFlows config env)
  liftCore (handleUserRequest config env request)
  persistProcessorState env .peginProcessorState

/-- The events that are confirmed before they are handled. -/
def eventInfo : RskPegManagerEvents → Option EventInfo
  | .peginRequested e => some (buildEventInfo "pegin-requested" e)
  | .peginAccepted e => some (buildEventInfo "pegin-accepted" e)
  | .allOperatorTakeTxidsAdded e => some (buildEventInfo "all-operator-take-tx-hashes-added" e)
  | _ => none

def isSignatureEvent : RskPegManagerEvents → Bool
  | .allNoncesReady _ => true
  | .allSignaturesReady _ => true
  | _ => false

def delegateSignatureEvent (event : RskPegManagerEvents) : CoreM Unit := do
  forEachSubFlow Core.signatureFlows putSubFlows
    (fun id => delegateRskEvent config.requiredConfirmations id event) (← subFlowIds env)

/-- Without confirmations an event is handled at once. -/
def processNewRskEvent (event : RskPegManagerEvents) : Program Processor Unit := do
  liftCore (cleanupTerminalFlows config env)
  if isSignatureEvent event then do
    liftCore (delegateSignatureEvent config env event)
    persistProcessorState env .peginProcessorState
  else if config.requiredConfirmations = 0 then do
    liftCore (processConfirmedRskEvent config env event)
    persistProcessorState env .peginProcessorState
  else
    match eventInfo event with
    | none => pure ()
    | some info => do
      trackEvent config.requiredConfirmations info event
      persistProcessorState env .peginProcessorState

def beforeConfirmations (block : RskBlockAndUncles) : CoreM Unit := do
  cleanupTerminalFlows config env
  processUnhandledConfirmedSigFlowEvents config env block
  handleTransactionStatusTick env
  handlePeginRetryTick config env

def processNewBlock (block : RskBlockAndUncles) : Program Processor Unit := do
  liftCore (beforeConfirmations config env block)
  processBlockConfirmations env (processConfirmedRskEvent config env)
    (cleanupTerminalFlows config env) block
  persistProcessorState env .peginProcessorState

/-! ## Starting again -/

def Core.applyProcessorState (core saved : Core) : Core :=
  { core with
    signatureFlows := saved.signatureFlows.mapValues (·.restore)
    txStatusScheduler := saved.txStatusScheduler
    peginRequestTracker := saved.peginRequestTracker
    pendingPeginRequested := saved.pendingPeginRequested
    pendingAllOperatorTakeTxidsAdded := saved.pendingAllOperatorTakeTxidsAdded
    pendingPeginAccepted := saved.pendingPeginAccepted
    unconfirmedPeginRequests := saved.unconfirmedPeginRequests
    peginRetryScheduler := saved.peginRetryScheduler
    unconfirmedAcceptPegin := saved.unconfirmedAcceptPegin
    acceptPeginRetryScheduler := saved.acceptPeginRetryScheduler }

/-- A proof that was stored is submitted again, unless its block already has a retry. -/
def Core.reconstructRequest (core : Core) (flow : State) : Core :=
  let core := { core with
    peginRequestTracker := insert flow.ctx.requestPeginBtcTxId core.peginRequestTracker }
  match flow.ctx.requestPeginSpvProof with
  | none => core
  | some proof => { core with
      unconfirmedPeginRequests :=
        core.unconfirmedPeginRequests.insertNew proof.blockHash (proof, 0)
      peginRetryScheduler :=
        core.peginRetryScheduler.scheduleNew proof.blockHash config.btcStatusRetryBlocks }

/-- One pass of `reconstruct_runtime_state_from_flows`. -/
def Core.reconstructFlow (core : Core) (id : FlowId) (flow : State) : Core :=
  match flow.ctx.step with
  | .requestPeginSpvProof => core.reconstructRequest config flow
  | .confirmAcceptPeginTransaction => { core with
      txStatusScheduler := core.txStatusScheduler.scheduleNew id config.btcStatusRetryBlocks }
  | .acceptPegin => { core with
      unconfirmedAcceptPegin := core.unconfirmedAcceptPegin.insertNew id 0
      acceptPeginRetryScheduler :=
        core.acceptPeginRetryScheduler.scheduleNew id config.btcStatusRetryBlocks }
  | _ => core

def Core.reconstructRuntimeStateFromFlows (rank : FlowId → Nat) (core : Core) : Core :=
  (core.peginFlows.inOrder rank).foldl (fun core (id, flow) => core.reconstructFlow config id flow)
    core

/-- The flows of the store, without anything that waits for them. -/
def Core.load (core : Core) : Core :=
  { Core.new with
    peginFlows := core.store.rekey State.flowId
    store := core.store
    confirmedTakes := core.confirmedTakes
    unconfirmed := core.unconfirmed }

/-- `PeginFlowProcessor::new` on the store that an earlier process left. -/
def Processor.restart (p : Processor) : Processor :=
  let core := match p.saved with
    | some (saved, _) => p.core.load.applyProcessorState saved
    | none => p.core.load
  { core := core.reconstructRuntimeStateFromFlows config (env.rank [] .flows)
    confirming := match p.saved with
      | some (_, confirming) => confirming.restore
      | none => .new
    saved := p.saved }

/-! ## Runs -/

/-- What the coordinator calls the processor with. -/
inductive Input where
  | block (block : RskBlockAndUncles)
  | rskEvent (event : RskPegManagerEvents)
  | bitvmxEvent (event : OutgoingBitVMXApiMessages)
  | userRequest (request : UserRequests)
  | restart

def callProgram : Input → Program Processor Unit
  | .block block => processNewBlock config env block
  | .rskEvent event => processNewRskEvent config env event
  | .bitvmxEvent event => processNewBitvmxEvent config env event
  | .userRequest request => processUserRequest config env request
  | .restart => pure ()

/-- A new call has dropped no flow yet. -/
def Processor.begin (p : Processor) : Processor := { p with core := { p.core with retired := [] } }

def step (config : ProcessorConfig) (s : System Core) : CallEnv × Input → System Core
  | (env, .restart) => ⟨Processor.begin (Processor.restart config env s.processor), s.past, false⟩
  | (env, input) =>
    System.call ⟨Processor.begin s.processor, s.past, s.panicked⟩ (callProgram config env input)

/-- The first start, on an empty store. -/
def start : System Core := ⟨Processor.new, [], false⟩

/-! ### One pegin, for runs on fixed inputs -/

def sampleProcessorConfig (required : UInt32) : ProcessorConfig :=
  { samplePeginConfig with
    requiredConfirmations := required, btcConfirmations := 6, btcStatusRetryBlocks := 2 }

def logIn {π : Type} (blockNumber : Nat) (txHash : TxHash) (inner : π) : EventWithBlock π :=
  ⟨inner, blockNumber, 0, false, txHash⟩

def obliging : CallEnv := .plain (.failing fun _ _ => false)

def samplePid : Uuid := (acceptPeginProtocolId Libs.sample 7 0).value

/-- The messages and events of a prover's pegin until its transaction is dispatched. -/
def dispatchedInputs : List Input :=
  [.bitvmxEvent (.peginTransactionFound ⟨1⟩), .bitvmxEvent (.spvProof ⟨1⟩ (some (sampleProof "aa" 1))),
    .rskEvent (.peginRequested (logIn 1 1 (samplePeginRequested 7 1 2))),
    .bitvmxEvent (.commInfo 0 ⟨⟨.v4 0x7f000001, 8080⟩, "02"⟩),
    .bitvmxEvent (.variable samplePid peginAcceptedInputMsg (.string "02")),
    .bitvmxEvent (.transactionInfo samplePid "OPERATOR_TAKE_TX_0" (sampleTx 3)),
    .bitvmxEvent (.transactionInfo samplePid "OPERATOR_WON_TX_0" (sampleTx 4)),
    .rskEvent (.allOperatorTakeTxidsAdded (logIn 1 2 ⟨TxIdParser.reverseBytes 2⟩)),
    .rskEvent (.allNoncesReady (logIn 1 3 (TxIdParser.reverseBytes 2))),
    .block (blockAt 1 1 0),
    .rskEvent (.allSignaturesReady (logIn 1 4 (TxIdParser.reverseBytes 2))),
    .block (blockAt 2 2 1)]

end UnionBridge.Pegin
