import UnionBridge.Contracts.NativeBridge

/-!
# The advance-funds flow (`flows/operator_take/operator_take_flow.rs`)

The state machine of one operator take. The selected operator advances the funds and registers each
transaction; the others follow the registrations. When the action on entering a step fails, the state
before the step is restored.
-/

namespace UnionBridge.AdvanceFunds

open Contracts Bitvmx Effect

def programTypeAdvanceFunds : String := "advance_funds"
def advanceFundsRequestVarName : String := "advance_funds_request"

inductive Steps where
  | waitRskOperatorTakeTriggered
  | getBitVmxCommInfo
  | requestBitVmxOperatorTakeTransactionInfo
  | setupBitVmxAdvanceFundsProtocol
  | waitBitVmxAdvanceFundsSpv
  | registerOrWaitRskAdvanceFunds
  | setVarBitVmxAdvanceFundsRegistered
  | registerOrWaitRskReimbursementKickoff
  | waitBitVmxOperatorTakeSpv
  | registerOrWaitRskOperatorTake
  | done
  | failed
deriving DecidableEq

namespace Steps

/-- The place of a step on the way of the selected operator. -/
def pos : Steps → Nat
  | waitRskOperatorTakeTriggered => 0
  | getBitVmxCommInfo => 1
  | requestBitVmxOperatorTakeTransactionInfo => 2
  | setupBitVmxAdvanceFundsProtocol => 3
  | waitBitVmxAdvanceFundsSpv => 4
  | registerOrWaitRskAdvanceFunds => 5
  | setVarBitVmxAdvanceFundsRegistered => 6
  | registerOrWaitRskReimbursementKickoff => 7
  | waitBitVmxOperatorTakeSpv => 8
  | registerOrWaitRskOperatorTake => 9
  | done => 10
  | failed => 2 ^ 32 - 1

def isPast (self other : Steps) : Bool := other.pos < self.pos

/-- The selected operator goes step by step. The others may skip, but not over the checkpoint. -/
def isValidTransition (self target : Steps) (isSelected : Bool) : Bool :=
  if isSelected then self = target
  else
    let first := waitRskOperatorTakeTriggered.pos
    let checkpoint := setVarBitVmxAdvanceFundsRegistered.pos
    let max := target.pos
    let current := self.pos
    let min := if max < checkpoint then first else checkpoint
    min ≤ current && current ≤ max

def isRetriableStep : Steps → Bool
  | registerOrWaitRskAdvanceFunds => true
  | registerOrWaitRskReimbursementKickoff => true
  | registerOrWaitRskOperatorTake => true
  | _ => false

end Steps

inductive StepData where
  | operatorTakeTriggered
  | commInfo (info : CommsAddress)
  | setupCompleted
  | operatorTakeTransactionInfo (txid : Txid)
  | advanceFundsSPV (spv : FundsAdvanceSPV)
  | advanceFundsConfirmed (message : AdvanceFundsRegisteredMessage)
  | reimbursementKickoffSPV (proof : BtcTxSPVProof)
  | reimbursementKickoffConfirmed
  | operatorTakeSPV (proof : BtcTxSPVProof)
  | pegoutRegistered (event : PegoutRegistered)
  | retry
deriving DecidableEq

inductive StepOutcome where
  | done
  | noOp
  | retry (reason : String)
deriving DecidableEq

structure OperatorTakeTriggerData where
  pegoutTxid : U256
  pegoutId : U256
  committeeId : CommitteeId
  slotId : UInt64
  slotIndex : Nat
  requestPegoutTxHash : Option TxHash
  userPubkey : PublicKey
  takeOperatorAddress : Address
  operatorTakePubkey : PublicKey
deriving DecidableEq

def xonlyToCompressedPubkey (libs : Libs) (bytes : Bytes) : Except String PublicKey :=
  match libs.evenKeyFromXOnly bytes with
  | some key => .ok key
  | none => .error "Failed to parse x-only public key bytes"

/-- `try_from_event`; the slot of an event always fits the index. -/
def OperatorTakeTriggerData.tryFromEvent (libs : Libs) (event : OperatorTakeTriggered)
    (requestPegoutTxHash : Option TxHash) : Except String OperatorTakeTriggerData :=
  match libs.publicKeyFromSlice event.pegoutInfo.userPubKey with
  | none => .error "invalid public key"
  | some userPubkey =>
    (xonlyToCompressedPubkey libs event.pegoutInfo.operatorTakePubKey).map fun operatorTakePubkey => {
      pegoutTxid := event.pegoutTxid
      pegoutId := event.pegoutInfo.pegoutId
      committeeId := event.pegoutInfo.committeeId
      slotId := event.streamPosition.slotId
      slotIndex := event.streamPosition.slotId.toNat
      requestPegoutTxHash := requestPegoutTxHash
      userPubkey := userPubkey
      takeOperatorAddress := event.pegoutInfo.takeOperatorAddress
      operatorTakePubkey := operatorTakePubkey }

def advanceFundsRegisteredFromEvent (libs : Libs) (event : AdvanceFundsRegistered) :
    Except String AdvanceFundsRegisteredMessage :=
  (xonlyToCompressedPubkey libs event.operatorTakePubKey).map fun operatorPubkey => {
    committeeId := event.committeeId
    slotIndex := event.streamInfo.slotId.toNat
    txid := TxIdParser.fb32ToTxid event.txid
    pegoutId := event.pegoutId.toBigEndian
    operatorPubkey := operatorPubkey }

structure FlowContext where
  flowId : FlowId
  bitvmxProtocolId : BitVmxProtocolId
  step : Steps
  triggerData : OperatorTakeTriggerData
  myP2pAddress : Option CommsAddress
  acceptPeginTxid : Option U256
  myCommitteeIndex : Option Nat
  operatorTakeTxid : Option Txid
  advanceFundsSpv : Option FundsAdvanceSPV
  advanceFundsRegistered : Option AdvanceFundsRegisteredMessage
  reimbursementKickoffSpv : Option BtcTxSPVProof
  operatorTakeSpv : Option BtcTxSPVProof
  acceptPeginPid : Option Uuid
  pendingRetry : Bool
deriving DecidableEq

def flowIdFromOperatorTakeTriggeredTxHash (libs : Libs) (txHash : TxHash) : FlowId :=
  FlowId.fromTx libs "operator_take_flow" txHash.toBigEndian

namespace FlowContext

/-- A new flow. -/
def new (libs : Libs) (flowId : FlowId) (triggerData : OperatorTakeTriggerData) : FlowContext where
  flowId := flowId
  bitvmxProtocolId :=
    advanceFundsProtocolId libs triggerData.committeeId triggerData.slotId
  step := .waitRskOperatorTakeTriggered
  triggerData := triggerData
  myP2pAddress := none
  acceptPeginTxid := none
  myCommitteeIndex := none
  operatorTakeTxid := none
  advanceFundsSpv := none
  advanceFundsRegistered := none
  reimbursementKickoffSpv := none
  operatorTakeSpv := none
  acceptPeginPid := none
  pendingRetry := false

def isTerminal (s : FlowContext) : Bool := s.step = .done ∨ s.step = .failed

def wasSelectedOperator (config : Config) (s : FlowContext) : Bool :=
  config.myAddress = s.triggerData.takeOperatorAddress

def isWaitingCommInfo (s : FlowContext) : Bool := s.step = .getBitVmxCommInfo

def matchesAcceptPeginPid (s : FlowContext) (programId : Uuid) : Bool :=
  s.step = .requestBitVmxOperatorTakeTransactionInfo ∧ s.acceptPeginPid = some programId

def matchesPegout (s : FlowContext) (pegoutId : U256) : Bool := s.triggerData.pegoutId = pegoutId

def matchesCommitteeSlot (s : FlowContext) (committeeId : CommitteeId) (slotId : UInt64) : Bool :=
  s.triggerData.committeeId = committeeId ∧ s.triggerData.slotId = slotId

end FlowContext

/-- A flow in memory and its record in the store. -/
structure Flow where
  state : FlowContext
  saved : Option FlowContext
deriving DecidableEq

abbrev FlowM := Program Flow

/-! ## State access -/

def getState : FlowM FlowContext := do return (← get).own.state

def modifyState (f : FlowContext → FlowContext) : FlowM Unit :=
  modify fun w => { w with own := { w.own with state := f w.own.state } }

variable (config : Config) (env : Env) (current : Steps)

def persistState : FlowM Unit := do
  let state ← getState
  let result : Except String Unit ←
    perform env (.saveFlow (.operatorTakeFlow state.flowId.value)) id
  orText result
  modify fun w => { w with own := { w.own with saved := some w.own.state } }

/-! ## Entering a step -/

def enterRequestCommInfo : FlowM Unit := do
  sendBitvmxMsg env (.getCommInfo (env.newUuid (← get).log))

/-- The index is looked up once. -/
def myCommitteeIndex : FlowM Nat := do
  let state ← getState
  match state.myCommitteeIndex with
  | some index => pure index
  | none => do
    let output ← withContext "Failed to fetch committee for take operator index lookup"
      (getCommitteeOutput env state.triggerData.committeeId)
    let index ← okOr (output.members.findIdx? fun m => m.memberAddress = config.myAddress)
      (.msg "Address not found in committee members")
    modifyState fun s => { s with myCommitteeIndex := some index }
    return index

def enterRequestTransactionInfo : FlowM Unit := do
  let index ← myCommitteeIndex config env
  let state ← getState
  let pid := acceptPeginProtocolId config.libs state.triggerData.committeeId state.triggerData.slotId
  modifyState fun s => { s with acceptPeginPid := some pid.value }
  sendBitvmxMsg env (.getTransactionInfoByName pid.value (indexedName operatorTakeTx index))

def enterSetupProtocol : FlowM Unit := do
  let state ← getState
  ensure (state.wasSelectedOperator config = true)
    (.msg "Only the selected operator can set up the advance funds protocol")
  let myAddress ← okOr state.myP2pAddress
    (.msg "P2P address not available for advance funds setup")
  sendBitvmxMsg env (.setVar state.bitvmxProtocolId.value advanceFundsRequestVarName
    (.advanceFundsRequest {
      committeeId := state.triggerData.committeeId
      slotIndex := state.triggerData.slotIndex
      pegoutId := state.triggerData.pegoutId.toBigEndian
      fee := 335
      userPubkey := state.triggerData.userPubkey
      myTakePubkey := state.triggerData.operatorTakePubkey }))
  sendBitvmxMsg env (.setup state.bitvmxProtocolId.value programTypeAdvanceFunds [myAddress] 0)

/-- The variable belongs to the committee, not to the protocol of the flow. -/
def enterNotifyRegistered : FlowM Unit := do
  let data ← okOr (← getState).advanceFundsRegistered
    (.msg "AdvanceFundsRegistered data not available for notification")
  sendBitvmxMsg env (.setVar data.committeeId (AdvanceFundsRegisteredMessage.name data.slotIndex)
    (.advanceFundsRegistered data))

def enterWriteCompletionMarker : FlowM Unit := do
  let state ← getState
  let result : Except String Unit ← perform env (.signalDone .advanceFunds state.flowId.value) id
  orText result

/-- The txid is asked for once. -/
def resolveAcceptPeginTxid : FlowM U256 := do
  let state ← getState
  match state.acceptPeginTxid with
  | some cached => pure cached
  | none => do
    let result : Except DomainErrors U256 ←
      perform env (.getAcceptPeginTxid state.triggerData.pegoutTxid) id
    let txid ← withContext "Failed to get accept pegin txid for pegout" (orDomain result)
    modifyState fun s => { s with acceptPeginTxid := some txid }
    return txid

/-- A registration: missing confirmations ask for a retry, other errors go up. -/
def submitRegistration (proof : BtcTxSPVProof)
    (retryReason failure : String) (invoke : FlowM (Except DomainErrors TxSentOutput)) :
    FlowM StepOutcome := do
  let result ← invokeContractSafe config.libs env config.verifier proof invoke
  match result with
  | .ok _ => return .done
  | .error (.missingConfirmationsOnNativeBridge detail) => return .retry (retryReason ++ detail)
  | .error e => throw ((FlowError.ofDomain e).context failure)

def enterRegisterAdvanceFunds : FlowM StepOutcome := do
  let spv ← okOr (← getState).advanceFundsSpv (.msg "Advance funds SPV data not available")
  let acceptPeginTxid ← resolveAcceptPeginTxid env
  submitRegistration config env spv.spvProof
    "native bridge missing confirmations for advance-funds registration: "
    "Failed to register advance funds SPV proof"
    (perform env (.registerAdvanceFunds acceptPeginTxid (BtcTxSPVProofInput.ofProof spv.spvProof)) id)

def enterRegisterReimbursementKickoff : FlowM StepOutcome := do
  let proof ← okOr (← getState).reimbursementKickoffSpv
    (.msg "Reimbursement kickoff SPV not available")
  let acceptPeginTxid ← resolveAcceptPeginTxid env
  submitRegistration config env proof
    "native bridge missing confirmations for reimbursement-kickoff registration: "
    "Failed to register reimbursement kickoff SPV proof"
    (perform env
      (.registerReimbursementKickoff acceptPeginTxid (BtcTxSPVProofInput.ofProof proof)) id)

def enterRegisterOperatorTake : FlowM StepOutcome := do
  let proof ← okOr (← getState).operatorTakeSpv (.msg "Operator take SPV not available")
  submitRegistration config env proof
    "native bridge missing confirmations for operator-take registration: "
    "Failed to register operator take with provided SPV proof"
    (perform env (.registerOperatorTake (BtcTxSPVProofInput.ofProof proof)) id)

/-- The others wait where the selected operator registers. -/
def ifSelected (register : FlowM StepOutcome) : FlowM StepOutcome := do
  if (← getState).wasSelectedOperator config then register else return .done

def enterStep : Steps → FlowM StepOutcome
  | .waitRskOperatorTakeTriggered =>
    throw (.panic "OperatorTakeTriggered is the initial step and should not be started explicitly")
  | .getBitVmxCommInfo => do
    enterRequestCommInfo env
    return .done
  | .requestBitVmxOperatorTakeTransactionInfo => do
    enterRequestTransactionInfo config env
    return .done
  | .setupBitVmxAdvanceFundsProtocol => do
    enterSetupProtocol config env
    return .done
  | .waitBitVmxAdvanceFundsSpv => pure .done
  | .registerOrWaitRskAdvanceFunds => ifSelected config (enterRegisterAdvanceFunds config env)
  | .setVarBitVmxAdvanceFundsRegistered => do
    enterNotifyRegistered env
    return .done
  | .registerOrWaitRskReimbursementKickoff =>
    ifSelected config (enterRegisterReimbursementKickoff config env)
  | .waitBitVmxOperatorTakeSpv => pure .done
  | .registerOrWaitRskOperatorTake => ifSelected config (enterRegisterOperatorTake config env)
  | .done => do
    enterWriteCompletionMarker env
    return .done
  | .failed => pure .done

/-- An error of the action is passed on after the state was restored. -/
def orRestore (previous : FlowContext) (m : FlowM StepOutcome) : FlowM StepOutcome := do
  match ← attempt FlowError.isError m with
  | .ok outcome => return outcome
  | .error e => do
    modifyState fun _ => previous
    throw e

def StepOutcome.isRetry : StepOutcome → Bool
  | .retry _ => true
  | _ => false

def startStep (next : Steps) : FlowM StepOutcome := do
  let previous ← getState
  modifyState fun s => { s with step := next }
  let outcome ← orRestore previous (enterStep config env next)
  modifyState fun s => { s with pendingRetry := outcome.isRetry }
  persistState env
  return outcome

/-! ## Completing a step -/

def onOperatorTakeTriggered : FlowM (Option Steps) := do
  ensure (current = .waitRskOperatorTakeTriggered)
    (.msg "Invalid state transition with OperatorTakeTriggered")
  if (← getState).wasSelectedOperator config then return some .getBitVmxCommInfo
  else return some .registerOrWaitRskAdvanceFunds

def onCommInfo (info : CommsAddress) : FlowM (Option Steps) := do
  ensure (current = .getBitVmxCommInfo) (.msg "Invalid state transition with CommInfo")
  modifyState fun s => { s with myP2pAddress := some info }
  return some .requestBitVmxOperatorTakeTransactionInfo

def onOperatorTakeTransactionInfo (txid : Txid) : FlowM (Option Steps) := do
  ensure (current = .requestBitVmxOperatorTakeTransactionInfo)
    (.msg "Invalid state transition with OperatorTakeTransactionInfo")
  modifyState fun s => { s with operatorTakeTxid := some txid }
  return some .setupBitVmxAdvanceFundsProtocol

def onSetupCompleted : FlowM (Option Steps) := do
  ensure (current = .setupBitVmxAdvanceFundsProtocol)
    (.msg "Invalid state transition with SetupCompleted")
  return some .waitBitVmxAdvanceFundsSpv

/-- Notifications about transactions are repeated; late ones are absorbed. -/
def onAdvanceFundsSpv (spv : FundsAdvanceSPV) : FlowM (Option Steps) := do
  if current.isPast .waitBitVmxAdvanceFundsSpv then return none
  else do
    ensure (current = .waitBitVmxAdvanceFundsSpv)
      (.msg "Invalid state transition with AdvanceFundsSPV")
    modifyState fun s => { s with advanceFundsSpv := some spv }
    return some .registerOrWaitRskAdvanceFunds

def onAdvanceFundsConfirmed (message : AdvanceFundsRegisteredMessage) : FlowM (Option Steps) := do
  let selected := (← getState).wasSelectedOperator config
  ensure (current.isValidTransition .registerOrWaitRskAdvanceFunds selected = true)
    (.msg "Invalid state transition with AdvanceFundsConfirmed")
  modifyState fun s => { s with advanceFundsRegistered := some message }
  return some .setVarBitVmxAdvanceFundsRegistered

/-- Only the selected operator keeps the proof. -/
def onReimbursementKickoffSpv (proof : BtcTxSPVProof) : FlowM (Option Steps) := do
  if current.isPast .setVarBitVmxAdvanceFundsRegistered then return none
  else do
    let selected := (← getState).wasSelectedOperator config
    ensure (current.isValidTransition .setVarBitVmxAdvanceFundsRegistered selected = true)
      (.msg "Invalid state transition with ReimbursementKickoffSPV")
    modifyState fun s =>
      if selected then { s with reimbursementKickoffSpv := some proof } else s
    return some .registerOrWaitRskReimbursementKickoff

def onReimbursementKickoffConfirmed : FlowM (Option Steps) := do
  let selected := (← getState).wasSelectedOperator config
  ensure (current.isValidTransition .registerOrWaitRskReimbursementKickoff selected = true)
    (.msg "Invalid state transition with ReimbursementKickoffConfirmed")
  return some .waitBitVmxOperatorTakeSpv

def onOperatorTakeSpv (proof : BtcTxSPVProof) : FlowM (Option Steps) := do
  if current.isPast .waitBitVmxOperatorTakeSpv then return none
  else do
    let selected := (← getState).wasSelectedOperator config
    ensure (current.isValidTransition .waitBitVmxOperatorTakeSpv selected = true)
      (.msg "Invalid state transition with OperatorTakeSPV")
    modifyState fun s => if selected then { s with operatorTakeSpv := some proof } else s
    return some .registerOrWaitRskOperatorTake

def onPegoutRegistered : FlowM (Option Steps) := do
  let selected := (← getState).wasSelectedOperator config
  ensure (current.isValidTransition .registerOrWaitRskOperatorTake selected = true)
    (.msg "Invalid state transition with PegoutRegistered")
  return some .done

def onRetry : Option Steps := if current.isRetriableStep then some current else none

/-- The handler of the data: it stores them and finds the next step, if there is one. -/
def handleStepData : StepData → FlowM (Option Steps)
  | .operatorTakeTriggered => onOperatorTakeTriggered config current
  | .commInfo info => onCommInfo current info
  | .setupCompleted => onSetupCompleted current
  | .operatorTakeTransactionInfo txid => onOperatorTakeTransactionInfo current txid
  | .advanceFundsSPV spv => onAdvanceFundsSpv current spv
  | .advanceFundsConfirmed message => onAdvanceFundsConfirmed config current message
  | .reimbursementKickoffSPV proof => onReimbursementKickoffSpv config current proof
  | .reimbursementKickoffConfirmed => onReimbursementKickoffConfirmed config current
  | .operatorTakeSPV proof => onOperatorTakeSpv config current proof
  | .pegoutRegistered _ => onPegoutRegistered config current
  | .retry => pure (onRetry current)

def completeStep (data : StepData) : FlowM StepOutcome := do
  match ← handleStepData config (← getState).step data with
  | some next => startStep config env next
  | none => return .noOp

def markFailed : FlowM Unit := do
  let _ ← startStep config env .failed
  pure ()

/-! ## Turns -/

inductive FlowInput where
  | completeStep (data : StepData)
  | markFailed
  | restart

def restart (w : World Flow) : World Flow :=
  match w.own.saved with
  | some state => { w with own := { w.own with state := state } }
  | none => w

def turn (config : Config) (w : World Flow) : Env × FlowInput → World Flow
  | (env, .completeStep data) => after (completeStep config env data) w
  | (env, .markFailed) => after (markFailed config env) w
  | (_, .restart) => restart w

/-- A proof, for runs on fixed inputs. -/
def sampleSpv (id : UInt32) : BtcTxSPVProof :=
  ⟨"aa", ⟨2, id, [], [⟨100000, []⟩]⟩, "00", ⟨[], RVec.nil_bound⟩⟩

end UnionBridge.AdvanceFunds
