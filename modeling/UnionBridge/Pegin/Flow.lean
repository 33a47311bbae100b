import UnionBridge.Contracts.NativeBridge

/-!
# The pegin flow (`flows/pegin/pegin_flow.rs`)

The state machine of one pegin. A step is assigned before its entry action runs, and some data are
stored before a call that may fail, so the state after an error is part of the model: a program
keeps what it changed before it failed.
-/

namespace UnionBridge.Pegin

open Contracts Bitvmx Effect

def peginRequestVarName : String := "pegin_request"
def peginAcceptedVarName : String := "PeginAccepted"
def programTypeAcceptPegin : String := "accept_pegin"

inductive Steps where
  | peginTransactionFound
  | requestPeginSpvProof
  | waitPeginRequested
  | getCommInfoAuthoritativeCheckpoint
  | preparePeginSetup
  | requestOperatorTakeTransactionInfo
  | requestOperatorWonTransactionInfo
  | addOperatorTakeHash
  | waitAllOperatorTakeTxidsAdded
  | waitAcceptPeginSignaturesReadyAllConvergeCheckpoint
  | dispatchAcceptPeginTransactionAllConvergeCheckpoint
  | confirmAcceptPeginTransaction
  | requestAcceptPeginSpvProof
  | acceptPegin
  | done
  | failed
deriving DecidableEq

namespace Steps

def allowsFastForwardToPeginAccepted : Steps → Bool
  | dispatchAcceptPeginTransactionAllConvergeCheckpoint => true
  | confirmAcceptPeginTransaction => true
  | requestAcceptPeginSpvProof => true
  | acceptPegin => true
  | _ => false

end Steps

inductive StepData where
  | peginTransactionFound
  | requestPeginSpvProof (proof : BtcTxSPVProof)
  | retryRequestPegin
  | peginRequested (event : PeginRequested)
  | commInfo (info : CommsAddress)
  | bitvmxPeginAccepted (message : PeginAcceptedMessage)
  | transactionInfo (txName : String) (txid : Txid)
  | operatorTakeHashAdded
  | allOperatorTakeTxidsAdded
  | acceptPeginSignaturesReady
  | acceptPeginTransactionDispatched
  | acceptPeginTransactionConfirmed (status : TransactionStatus)
  | acceptPeginSpvProof (proof : BtcTxSPVProof)
  | retryAcceptPegin
  | peginAccepted (event : PeginAccepted)
deriving DecidableEq

structure FlowContext where
  requestPeginBtcTxId : Txid
  step : Steps
  /-- Not known before `PeginRequested`: it is derived from the committee and the slot. -/
  bitvmxProtocolId : Option BitVmxProtocolId
  requestPeginSpvProof : Option BtcTxSPVProof
  peginRequested : Option PeginRequested
  myP2pAddress : Option CommsAddress
  committeeOutput : Option GetCommitteeOutput
  bitvmxPeginAccepted : Option PeginAcceptedMessage
  operatorTakeTxid : Option Txid
  operatorWonTxid : Option Txid
  acceptPeginSpvProof : Option BtcTxSPVProof
  acceptPeginTxStatus : Option TransactionStatus
  peginAccepted : Option PeginAccepted
  opRole : Option ParticipantRole
deriving DecidableEq

structure State where
  flowId : FlowId
  ctx : FlowContext
deriving DecidableEq

def State.new (btcTxId : Txid) (flowId : FlowId) : State where
  flowId := flowId
  ctx := {
    requestPeginBtcTxId := btcTxId
    step := .peginTransactionFound
    bitvmxProtocolId := none
    requestPeginSpvProof := none
    peginRequested := none
    myP2pAddress := none
    committeeOutput := none
    bitvmxPeginAccepted := none
    operatorTakeTxid := none
    operatorWonTxid := none
    acceptPeginSpvProof := none
    acceptPeginTxStatus := none
    peginAccepted := none
    opRole := none }

namespace State

def isTerminal (s : State) : Bool := s.ctx.step = .done ∨ s.ctx.step = .failed

def acceptPeginTxid (s : State) : Option Txid := s.ctx.bitvmxPeginAccepted.map (·.acceptPeginTxid)

end State

/-- A flow in memory and its record in the store. -/
structure Flow where
  state : State
  saved : Option State
deriving DecidableEq

def flowIdFromRequestPeginTxid (libs : Libs) (txid : Txid) : FlowId :=
  FlowId.fromTx libs "pegin_flow" txid.value.toBigEndian

abbrev FlowM := Program Flow

/-! ## State access -/

def getCtx : FlowM FlowContext := do return (← get).own.state.ctx

def modifyCtx (f : FlowContext → FlowContext) : FlowM Unit :=
  modify fun w => { w with own :=
    { w.own with state := { w.own.state with ctx := f w.own.state.ctx } } }

variable (config : Config) (env : Env)

def persistState : FlowM Unit := do
  let state := (← get).own.state
  let result : Except String Unit ← perform env (.saveFlow (.peginFlow state.flowId.value)) id
  orText result
  modify fun w => { w with own := { w.own with saved := some w.own.state } }

def bitvmxProtocolId : FlowM BitVmxProtocolId := do
  okOr (← getCtx).bitvmxProtocolId (.msg "bitvmx_protocol_id not yet set")

def acceptPeginTxidFromBitvmxVar (message : String) : FlowM Txid := do
  okOr ((← getCtx).bitvmxPeginAccepted.map (·.acceptPeginTxid)) (.msg message)

def tryGetOpRole : FlowM ParticipantRole := do
  okOr (← getCtx).opRole (.msg "Operator role not found in context")

/-! ## The committee -/

def calcOpRole : FlowM ParticipantRole := do
  let output ← okOr (← getCtx).committeeOutput (.msg "Committee output not found")
  let member ← okOr (output.members.find? fun m => m.memberAddress = config.myAddress)
    (.msg "Address not found in committee members")
  withContext "Failed to convert u8 role to ParticipantRole"
    (okOr (ParticipantRole.tryFrom member.role) (.msg "Invalid member role"))

def myCommitteeIndex : FlowM Nat := do
  let output ← okOr (← getCtx).committeeOutput (.msg "Committee output not found")
  okOr (output.members.findIdx? fun m => m.memberAddress = config.myAddress)
    (.msg "Address not found in committee members")

def operatorTakeTransactionName : FlowM String := do
  return indexedName operatorTakeTx (← myCommitteeIndex config)

def operatorWonTransactionName : FlowM String := do
  return indexedName operatorWonTx (← myCommitteeIndex config)

def getCommitteePubkeyHashes (committeeId : CommitteeId) : FlowM (List String) := do
  (← getCommitteeOutput env committeeId).members.mapM (memberPubkeyHash env)

/-! ## Messages -/

def extractPeginAmount : FlowM UInt64 := do
  let proof ← okOr (← getCtx).requestPeginSpvProof (.msg "Request pegin SPV proof not available")
  okOr (proof.tx.output.head?.map (·.value)) (.msg "Request pegin BTC transaction has no outputs")

/-- The positions of the provers in the committee. -/
def buildOperatorIndexes (output : GetCommitteeOutput) : List Nat :=
  output.members.zipIdx.filterMap fun (member, i) =>
    if member.role = ParticipantRole.prover.toU8 then some i else none

def buildPeginRequestMessage (libs : Libs) (event : PeginRequested) (output : GetCommitteeOutput)
    (amount : UInt64) : FlowM PeginRequestMessage := do
  let checksum := libs.addressToChecksum event.requestPeginInfo.rskDestinationAddress
  ensure (2 ≤ checksum.length) (.msg "RSK address checksum too short")
  let takeAggregatedKey ← withContext "Failed to parse aggregated public key from committee"
    (okOr (libs.publicKeyFromSlice output.aggregatedKey) (.msg "invalid public key"))
  let reimbursementPubkey ←
    withContext "Failed to parse reimbursement public key from pegin event"
      (okOr (libs.evenKeyFromXOnly event.requestPeginInfo.btcReimbursementPubKey.toBigEndian)
        (.msg "invalid x-only public key"))
  return {
    txid := TxIdParser.fb32ToTxid event.requestPeginTxid
    amount := amount
    acceptPeginSighash := event.acceptPeginSignatureMessage.toBigEndian
    takeAggregatedKey := takeAggregatedKey
    operatorIndexes := buildOperatorIndexes output
    slotIndex := event.streamPosition.slotId
    committeeId := event.committeeId
    rootstockAddress := String.ofList (checksum.toList.drop 2)
    reimbursementPubkey := reimbursementPubkey }

/-- The second half of `send_pegin_request_to_bitvmx`. -/
def sendPeginRequestMessage (output : GetCommitteeOutput) : FlowM Unit := do
  let event ← okOr (← getCtx).peginRequested (.msg "PeginRequested data not available")
  let amount ← extractPeginAmount
  let message ← buildPeginRequestMessage config.libs event output amount
  let pid ← bitvmxProtocolId
  sendBitvmxMsg env (.setVar pid.value peginRequestVarName (.peginRequest message))

def sendPeginRequestToBitvmx (committeeId : CommitteeId) : FlowM Unit := do
  let output ← getCommitteeOutput env committeeId
  modifyCtx fun ctx => { ctx with committeeOutput := some output }
  let role ← calcOpRole config
  modifyCtx fun ctx => { ctx with opRole := some role }
  sendPeginRequestMessage config env output

def sendSetupToBitvmx (committeeId : CommitteeId) : FlowM Unit := do
  let addresses ← getCommitteeAddresses config.libs env config.myAddress committeeId
  let pubkeyHashes ← getCommitteePubkeyHashes env committeeId
  let myAddress ← okOr (← getCtx).myP2pAddress (.msg "P2P address not available for setup")
  let participants ← orText (buildCommunicationData config.libs
    (config.libs.socketAddrToString myAddress.address) addresses pubkeyHashes)
  let pid ← bitvmxProtocolId
  -- no leader
  sendBitvmxMsg env (.setup pid.value programTypeAcceptPegin participants 0)

def preparePeginSetup : FlowM Unit := do
  let event ← okOr (← getCtx).peginRequested (.msg "PeginRequested data not available")
  sendPeginRequestToBitvmx config env event.committeeId
  sendSetupToBitvmx config env event.committeeId

def requestPeginSpvProof : FlowM Unit := do
  sendBitvmxMsg env (.getSPVProof (← getCtx).requestPeginBtcTxId)

def requestBitvmxCommInfo : FlowM Unit := do
  sendBitvmxMsg env (.getCommInfo (env.newUuid (← get).log))

-- The protocol id is looked up before the name, as the arguments are written.
def requestOperatorTakeTransactionInfo : FlowM Unit := do
  let pid ← bitvmxProtocolId
  let name ← operatorTakeTransactionName config
  sendBitvmxMsg env (.getTransactionInfoByName pid.value name)

def requestOperatorWonTransactionInfo : FlowM Unit := do
  let pid ← bitvmxProtocolId
  let name ← operatorWonTransactionName config
  sendBitvmxMsg env (.getTransactionInfoByName pid.value name)

def dispatchTransaction : FlowM Unit := do
  let pid ← bitvmxProtocolId
  sendBitvmxMsg env (.dispatchTransactionName pid.value acceptPeginTx)

def requestTransactionStatus : FlowM Unit := do
  let txid ← acceptPeginTxidFromBitvmxVar "Expected accept pegin tx_id not found"
  let pid ← bitvmxProtocolId
  sendBitvmxMsg env (.getTransaction pid.value txid)

def requestSpvProof : FlowM Unit := do
  let txid ← acceptPeginTxidFromBitvmxVar "Expected accept pegin tx_id not found"
  sendBitvmxMsg env (.getSPVProof txid)

def sendPeginAcceptedToBitvmx : FlowM Unit := do
  let event ← okOr (← getCtx).peginAccepted (.msg "PeginAccepted data not available")
  let pid ← bitvmxProtocolId
  sendBitvmxMsg env (.setVar pid.value peginAcceptedVarName (.peginAccepted event))

def writeCompletionMarker : FlowM Unit := do
  let pid ← bitvmxProtocolId
  let result : Except String Unit ← perform env (.signalDone .pegin pid.value) id
  orText result

/-! ## Contract calls -/

/-- Only a prover registers its transactions. -/
def addOperatorTakeHash : FlowM Unit := do
  let role ← tryGetOpRole
  if role ≠ .prover then pure ()
  else do
    let txid ← acceptPeginTxidFromBitvmxVar "BitVMX pegin accepted message not found"
    let take ← okOr (← getCtx).operatorTakeTxid
      (.msg "operator_take_txid missing in pegin flow state")
    let won ← okOr (← getCtx).operatorWonTxid
      (.msg "operator_won_txid missing in pegin flow state")
    let result : Except DomainErrors TxSentOutput ←
      perform env (.addOperatorTakeTxHash txid take won) id
    let _ ← orDomain result
    pure ()

def acceptPegin (proof : BtcTxSPVProof) : FlowM Unit := do
  let result : Except DomainErrors TxSentOutput ←
    invokeContractSafe config.libs env config.verifier proof
      (perform env (.acceptPegin (BtcTxSPVProofInput.ofProof proof)) id)
  let _ ← withContext "Failed to accept pegin with provided SPV proof" (orDomain result)
  pure ()

/-- A pegin that was already requested counts as requested. -/
def requestPegin (proof : BtcTxSPVProof) : FlowM Unit := do
  let result : Except DomainErrors TxSentOutput ←
    invokeContractSafe config.libs env config.verifier proof
      (perform env (.requestPegin (BtcTxSPVProofInput.ofProof proof)) id)
  match result with
  | .ok _ => pure ()
  | .error (.peginAlreadyRequested _) => pure ()
  | .error e =>
    throw ((FlowError.ofDomain e).context "Failed to request pegin with provided SPV proof")

/-! ## Steps -/

def retryRequestPeginStep : FlowM Steps := do
  let proof ← okOr (← getCtx).requestPeginSpvProof
    (.msg "SPV proof not available for pegin request")
  requestPegin config env proof
  return .waitPeginRequested

def handleOperatorTakeTransactionInfo (txName : String) (txid : Txid) : FlowM Steps := do
  let expected ← operatorTakeTransactionName config
  ensure (txName = expected) (.msg "Unexpected transaction info in step")
  modifyCtx fun ctx => { ctx with operatorTakeTxid := some txid }
  return .requestOperatorWonTransactionInfo

def handleOperatorWonTransactionInfo (txName : String) (txid : Txid) : FlowM Steps := do
  let expected ← operatorWonTransactionName config
  ensure (txName = expected) (.msg "Unexpected transaction info in step")
  modifyCtx fun ctx => { ctx with operatorWonTxid := some txid }
  return .addOperatorTakeHash

def confirmAcceptPeginTransaction (status : TransactionStatus) : FlowM Steps := do
  let expected ← acceptPeginTxidFromBitvmxVar "Expected accept pegin txid not found"
  ensure (status.txId = expected) (.msg "transaction status txId mismatch")
  modifyCtx fun ctx => { ctx with acceptPeginTxStatus := some status }
  return .requestAcceptPeginSpvProof

def completeWithConfirmedPeginAcceptance (event : PeginAccepted) : FlowM Steps := do
  let expected ← acceptPeginTxidFromBitvmxVar "Expected accept pegin txid not found"
  ensure (TxIdParser.fb32ToTxid event.acceptPeginTxid = expected)
    (.msg "PeginAccepted txid mismatch")
  modifyCtx fun ctx => { ctx with peginAccepted := some event }
  return .done

/-- Store the data of a step and find the next one. -/
def processStepData (current : Steps) (data : StepData) : FlowM Steps :=
  match current, data with
  | .peginTransactionFound, .peginTransactionFound => pure .requestPeginSpvProof
  | .requestPeginSpvProof, .requestPeginSpvProof proof => do
    modifyCtx fun ctx => { ctx with requestPeginSpvProof := some proof }
    persistState env
    requestPegin config env proof
    return .waitPeginRequested
  | .requestPeginSpvProof, .retryRequestPegin => retryRequestPeginStep config env
  | .waitPeginRequested, .peginRequested event => do
    modifyCtx fun ctx => { ctx with
      peginRequested := some event
      bitvmxProtocolId :=
        some (acceptPeginProtocolId config.libs event.committeeId event.streamPosition.slotId) }
    return .getCommInfoAuthoritativeCheckpoint
  | .getCommInfoAuthoritativeCheckpoint, .commInfo info => do
    modifyCtx fun ctx => { ctx with myP2pAddress := some info }
    return .preparePeginSetup
  | .preparePeginSetup, .bitvmxPeginAccepted message => do
    modifyCtx fun ctx => { ctx with bitvmxPeginAccepted := some message }
    let role ← tryGetOpRole
    if role = .prover then return .requestOperatorTakeTransactionInfo
    else return .waitAllOperatorTakeTxidsAdded
  | .requestOperatorTakeTransactionInfo, .transactionInfo txName txid =>
    handleOperatorTakeTransactionInfo config txName txid
  | .requestOperatorWonTransactionInfo, .transactionInfo txName txid =>
    handleOperatorWonTransactionInfo config txName txid
  | .addOperatorTakeHash, .operatorTakeHashAdded => pure .waitAllOperatorTakeTxidsAdded
  | .waitAllOperatorTakeTxidsAdded, .allOperatorTakeTxidsAdded =>
    pure .waitAcceptPeginSignaturesReadyAllConvergeCheckpoint
  | .waitAcceptPeginSignaturesReadyAllConvergeCheckpoint, .acceptPeginSignaturesReady =>
    pure .dispatchAcceptPeginTransactionAllConvergeCheckpoint
  | .dispatchAcceptPeginTransactionAllConvergeCheckpoint, .acceptPeginTransactionDispatched =>
    pure .confirmAcceptPeginTransaction
  | .confirmAcceptPeginTransaction, .acceptPeginTransactionConfirmed status =>
    confirmAcceptPeginTransaction status
  | .requestAcceptPeginSpvProof, .acceptPeginSpvProof proof => do
    modifyCtx fun ctx => { ctx with acceptPeginSpvProof := some proof }
    return .acceptPegin
  | .acceptPegin, .retryAcceptPegin => pure .acceptPegin
  | step, .peginAccepted event =>
    if step.allowsFastForwardToPeginAccepted then completeWithConfirmedPeginAcceptance event
    else throw (.msg "Invalid state transition")
  | _, _ => throw (.msg "Invalid state transition")

/-- The action on entering a step; two of them complete the step themselves. -/
def entryAction (completeStep : StepData → FlowM Unit) : Steps → FlowM Unit
  | .peginTransactionFound => throw (.panic "Init step should not be reached in start_step")
  | .requestPeginSpvProof => requestPeginSpvProof env
  | .waitPeginRequested => pure ()
  | .getCommInfoAuthoritativeCheckpoint => requestBitvmxCommInfo env
  | .preparePeginSetup => preparePeginSetup config env
  | .requestOperatorTakeTransactionInfo => requestOperatorTakeTransactionInfo config env
  | .requestOperatorWonTransactionInfo => requestOperatorWonTransactionInfo config env
  | .addOperatorTakeHash => do
    addOperatorTakeHash env
    completeStep .operatorTakeHashAdded
  | .waitAllOperatorTakeTxidsAdded => pure ()
  | .waitAcceptPeginSignaturesReadyAllConvergeCheckpoint => pure ()
  | .dispatchAcceptPeginTransactionAllConvergeCheckpoint => do
    dispatchTransaction env
    completeStep .acceptPeginTransactionDispatched
  | .confirmAcceptPeginTransaction => pure ()
  | .requestAcceptPeginSpvProof => requestSpvProof env
  | .acceptPegin => do
    let proof ← okOr (← getCtx).acceptPeginSpvProof
      (.msg "SPV proof not available for pegin acceptance")
    acceptPegin config env proof
  | .done => do
    sendPeginAcceptedToBitvmx env
    writeCompletionMarker env
  | .failed => pure ()

def persistIf (c : Prop) [Decidable c] (env : Env) : FlowM Unit :=
  if c then persistState env else pure ()

/-- The step is assigned before its action runs. A step that completed itself has already stored a
newer state. -/
def startStepWith (completeStep : StepData → FlowM Unit) (next : Steps) : FlowM Unit := do
  modifyCtx fun ctx => { ctx with step := next }
  persistIf (next = .acceptPegin) env
  entryAction config env completeStep next
  let ctx ← getCtx
  persistIf (ctx.step = next) env

def completeStepWith (startStep : Steps → FlowM Unit) (data : StepData) : FlowM Unit := do
  let next ← processStepData config env (← getCtx).step data
  startStep next

/-- A step completed by its own action leads to one that is not, so the two functions call each
other once. -/
def completeStepInner : StepData → FlowM Unit :=
  completeStepWith config env
    (startStepWith config env fun _ => throw (.panic "a second step completed itself"))

def startStep : Steps → FlowM Unit :=
  startStepWith config env (completeStepInner config env)

def completeStep : StepData → FlowM Unit :=
  completeStepWith config env (startStep config env)

def markFailed : FlowM Unit := startStep config env .failed

/-! ## What the helpers call -/

section OnlyCalls

variable {allowed : Call → Prop} {config : Config} {env : Env}

theorem onlyCalls_getCtx : OnlyCalls allowed getCtx := .bind .get fun _ => .pure _

theorem onlyCalls_bitvmxProtocolId : OnlyCalls allowed bitvmxProtocolId :=
  .bind onlyCalls_getCtx fun _ => within_okOr _ _

theorem onlyCalls_acceptPeginTxidFromBitvmxVar (message : String) :
    OnlyCalls allowed (acceptPeginTxidFromBitvmxVar message) :=
  .bind onlyCalls_getCtx fun _ => within_okOr _ _

theorem onlyCalls_tryGetOpRole : OnlyCalls allowed tryGetOpRole :=
  .bind onlyCalls_getCtx fun _ => within_okOr _ _

theorem onlyCalls_myCommitteeIndex : OnlyCalls allowed (myCommitteeIndex config) :=
  .bind onlyCalls_getCtx fun _ => .okOr fun _ => within_okOr _ _

theorem onlyCalls_operatorTakeTransactionName :
    OnlyCalls allowed (operatorTakeTransactionName config) :=
  .bind onlyCalls_myCommitteeIndex fun _ => .pure _

theorem onlyCalls_operatorWonTransactionName :
    OnlyCalls allowed (operatorWonTransactionName config) :=
  .bind onlyCalls_myCommitteeIndex fun _ => .pure _

-- the instances of a long program nest
set_option synthInstance.maxSize 100000

instance : Stays (CallStep allowed) getCtx := ⟨onlyCalls_getCtx⟩

instance : Stays (CallStep allowed) bitvmxProtocolId := ⟨onlyCalls_bitvmxProtocolId⟩

theorem onlyCalls_calcOpRole : OnlyCalls allowed (calcOpRole config) := by
  unfold calcOpRole; exact Stays.within

theorem onlyCalls_sendPeginRequestMessage (output : GetCommitteeOutput) :
    OnlyCalls Call.Plain (sendPeginRequestMessage config env output) := by
  dsimp only [sendPeginRequestMessage, extractPeginAmount, buildPeginRequestMessage]
  exact Stays.within

theorem onlyCalls_sendSetupToBitvmx (committeeId : CommitteeId) :
    OnlyCalls Call.Plain (sendSetupToBitvmx config env committeeId) := by
  dsimp only [sendSetupToBitvmx, getCommitteePubkeyHashes]
  exact Stays.within

theorem within_preparePeginSetup {R : World Flow → World Flow → Prop} [IsPreorder (World Flow) R]
    (hcalls : ∀ {α : Type} {m : FlowM α}, OnlyCalls Call.Plain m → Within R m)
    (hset : ∀ (output : Option GetCommitteeOutput → Option GetCommitteeOutput)
      (role : Option ParticipantRole → Option ParticipantRole), Within R (modifyCtx fun ctx =>
        { ctx with committeeOutput := output ctx.committeeOutput, opRole := role ctx.opRole })) :
    Within R (preparePeginSetup config env) := by
  refine .bind (hcalls onlyCalls_getCtx) fun ctx => .okOr fun event => ?_
  refine .bind ?_ fun _ => hcalls (onlyCalls_sendSetupToBitvmx _)
  refine .bind (hcalls Stays.within) fun output => ?_
  refine .bind (hset (fun _ => some output) id) fun _ => ?_
  refine .bind (hcalls onlyCalls_calcOpRole) fun role => ?_
  refine .bind (hset id fun _ => some role) fun _ => ?_
  exact hcalls (onlyCalls_sendPeginRequestMessage _)

theorem onlyCalls_dispatchTransaction : OnlyCalls Call.Plain (dispatchTransaction env) :=
  .bind onlyCalls_bitvmxProtocolId fun _ => onlyCalls_sendBitvmxMsg rfl

theorem onlyCalls_addOperatorTakeHash : OnlyCalls Call.Plain (addOperatorTakeHash env) := by
  dsimp only [addOperatorTakeHash, tryGetOpRole, acceptPeginTxidFromBitvmxVar]
  exact Stays.within

theorem onlyCalls_requestPegin (hplain : ∀ c, Call.Plain c → allowed c)
    (hallowed : ∀ input, allowed (.requestPegin input)) (proof : BtcTxSPVProof) :
    OnlyCalls allowed (requestPegin config env proof) := by
  refine .bind (onlyCalls_invokeContractSafe (fun _ => hplain _ rfl) _ _
    (onlyCalls_perform (hallowed _))) fun result => ?_
  split
  · exact .pure ()
  · exact .pure ()
  · exact .throw _

theorem onlyCalls_entryAction {complete : StepData → FlowM Unit} {next : Steps}
    (hnext : next ∉ [.preparePeginSetup, .addOperatorTakeHash,
      .dispatchAcceptPeginTransactionAllConvergeCheckpoint, .acceptPegin]) :
    OnlyCalls Call.Plain (entryAction config env complete next) := by
  cases next
  case preparePeginSetup => exact absurd (by decide) hnext
  case addOperatorTakeHash => exact absurd (by decide) hnext
  case dispatchAcceptPeginTransactionAllConvergeCheckpoint => exact absurd (by decide) hnext
  case acceptPegin => exact absurd (by decide) hnext
  all_goals
    dsimp only [entryAction, requestPeginSpvProof, requestBitvmxCommInfo,
      requestOperatorTakeTransactionInfo, operatorTakeTransactionName,
      requestOperatorWonTransactionInfo, operatorWonTransactionName, myCommitteeIndex,
      requestSpvProof, acceptPeginTxidFromBitvmxVar, sendPeginAcceptedToBitvmx,
      writeCompletionMarker]
    exact Stays.within

end OnlyCalls

end UnionBridge.Pegin
