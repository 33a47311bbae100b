import UnionBridge.Contracts.NativeBridge

/-!
# The pegout flow (`flows/pegout/pegout_flow.rs`)

The state machine of one pegout. As in the pegin flow, a step is assigned before its entry action
runs. Its state is stored at the end of every transition, except after a successful trigger of the
operator take.
-/

namespace UnionBridge.Pegout

open Contracts Bitvmx Effect

def programTypeUserTake : String := "take"
def userTakeTx : String := "USER_TAKE_TX"
def pegoutCompletedVarName : String := "PEG_OUT_COMPLETED"
def pegoutAcceptedName : String := "pegout_accepted"

inductive Steps where
  | waitPegoutRequested
  | getCommInfoAuthoritativeCheckpoint
  | prepareUserTakeSetup
  | waitUserTakeSignaturesReady
  | dispatchUserTakeTransactionAllConvergeCheckpoint
  | triggerOperatorTake
  | confirmUserTakeTransaction
  | requestUserTakeSpvProof
  | registerPegout
  | done
  | failed
deriving DecidableEq

def Steps.allowsFastForwardToPegoutRegistered : Steps → Bool
  | dispatchUserTakeTransactionAllConvergeCheckpoint => true
  | confirmUserTakeTransaction => true
  | requestUserTakeSpvProof => true
  | registerPegout => true
  | _ => false

inductive StepData where
  | pegoutRequested
  | commInfo (info : CommsAddress)
  | pegoutAccepted (accepted : PegOutAccepted)
  | userTakeSignaturesReady
  | userTakeTransactionDispatched
  | triggerOperatorTakeTimeout
  | transactionConfirmed (status : TransactionStatus)
  | spvProof (proof : BtcTxSPVProof)
  | retryRegisterPegout
  | pegoutRegistered (event : EventWithBlock PegoutRegistered)
deriving DecidableEq

structure FlowContext where
  pegoutRequested : PegoutRequested
  pegoutRequestedTxHash : TxHash
  bitvmxProtocolId : BitVmxProtocolId
  myP2pAddress : Option CommsAddress
  committeeOutput : Option GetCommitteeOutput
  pegOutAccepted : Option PegOutAccepted
  spvProof : Option BtcTxSPVProof
  pegoutRegistered : Option PegoutRegistered
  pegoutRegisteredTx : Option TxHash
  transactionStatus : Option TransactionStatus
deriving DecidableEq

structure State where
  flowId : FlowId
  step : Steps
  ctx : FlowContext
deriving DecidableEq

def flowIdFromPegoutRequestedTxHash (libs : Libs) (txHash : TxHash) : FlowId :=
  FlowId.fromTx libs "pegout_flow" txHash.toBigEndian

/-- A new flow; the slot of an event always fits the index. -/
def State.new (libs : Libs) (event : EventWithBlock PegoutRequested) : Option State :=
  (CommitteeId.tryFrom event.inner.committeeId).map fun committeeId => {
    flowId := flowIdFromPegoutRequestedTxHash libs event.txHash
    step := .waitPegoutRequested
    ctx := {
      pegoutRequested := event.inner
      pegoutRequestedTxHash := event.txHash
      bitvmxProtocolId := userTakeProtocolId libs committeeId event.inner.slotId
      myP2pAddress := none
      committeeOutput := none
      pegOutAccepted := none
      spvProof := none
      pegoutRegistered := none
      pegoutRegisteredTx := none
      transactionStatus := none } }

namespace State

def isTerminal (s : State) : Bool := s.step = .done ∨ s.step = .failed

def userTakeTxid (s : State) : Option Txid := s.ctx.pegOutAccepted.map (·.userTakeTxid)

/-- The text of the pegout id. -/
def pegoutTxid (s : State) : String :=
  Hex.encode s.ctx.pegoutRequested.pegoutSignatureData.txid.toBigEndian

end State

/-- A flow in memory and its record in the store. -/
structure Flow where
  state : State
  saved : Option State
deriving DecidableEq

abbrev FlowM := Program Flow

/-! ## State access -/

def getState : FlowM State := do return (← get).own.state

def modifyState (f : State → State) : FlowM Unit :=
  modify fun w => { w with own := { w.own with state := f w.own.state } }

variable (config : Config) (env : Env)

def persistState : FlowM Unit := do
  let state ← getState
  let result : Except String Unit ← perform env (.saveFlow (.pegoutFlow state.flowId.value)) id
  orText result
  modify fun w => { w with own := { w.own with saved := some w.own.state } }

def persistIf (c : Prop) [Decidable c] (env : Env) : FlowM Unit :=
  if c then persistState env else pure ()

/-- The id that the committee agreed on. -/
def getUserTakeTxid (message : String) : FlowM Txid := do
  okOr (← getState).userTakeTxid (.msg message)

/-! ## Messages -/

def buildTakeAggregatedKey (libs : Libs) (output : GetCommitteeOutput) : FlowM PublicKey :=
  withContext "Failed to parse aggregated public key from committee"
    (okOr (libs.publicKeyFromSlice output.aggregatedKey) (.msg "invalid public key"))

def pegoutRequestedToBitvmxRequest (libs : Libs) (event : PegoutRequested)
    (output : GetCommitteeOutput) : FlowM PegOutRequest := do
  let committeeId ← okOr (CommitteeId.tryFrom event.committeeId) (.msg "committee id too large")
  ensure (event.userPubKey.length = 33) (.msg "Invalid user public key length")
  let userPubkey ← withContext "Failed to parse user public key as compressed public key"
    (okOr (libs.publicKeyFromSlice event.userPubKey) (.msg "invalid public key"))
  let takeAggregatedKey ← buildTakeAggregatedKey libs output
  return {
    committeeId := committeeId
    slotIndex := event.slotId.toNat
    amount := event.amount
    pegoutId := event.pegoutSignatureData.txid.toBigEndian
    userPubkey := userPubkey
    pegoutSighash := event.pegoutSignatureData.signatureHash.toBigEndian
    takeAggregatedKey := takeAggregatedKey }

def sendPegoutRequestedToBitvmx (committeeId : CommitteeId) : FlowM Unit := do
  let output ← getCommitteeOutput env committeeId
  modifyState fun s => { s with ctx := { s.ctx with committeeOutput := some output } }
  let state ← getState
  let message ← pegoutRequestedToBitvmxRequest config.libs state.ctx.pegoutRequested output
  sendBitvmxMsg env (.setVar state.ctx.bitvmxProtocolId.value PegOutRequest.name
    (.pegOutRequest message))

def sendSetupToBitvmx (committeeId : CommitteeId) : FlowM Unit := do
  let output ← okOr (← getState).ctx.committeeOutput
    (.msg "Committee output not available for setup")
  let pubkeyHashes ← output.members.mapM (memberPubkeyHash env)
  let addresses ← getCommitteeAddresses config.libs env config.myAddress committeeId
  let myAddress ← okOr (← getState).ctx.myP2pAddress (.msg "P2P address not available for setup")
  let participants ← orText (buildCommunicationData config.libs
    (config.libs.socketAddrToString myAddress.address) addresses pubkeyHashes)
  let state ← getState
  -- no leader
  sendBitvmxMsg env (.setup state.ctx.bitvmxProtocolId.value programTypeUserTake participants 0)

def communicatePegoutRequestedToBitvmx : FlowM Unit := do
  let committeeId ← okOr (CommitteeId.tryFrom (← getState).ctx.pegoutRequested.committeeId)
    (.msg "committee id too large")
  sendPegoutRequestedToBitvmx config env committeeId
  sendSetupToBitvmx config env committeeId

def requestBitvmxCommInfo : FlowM Unit := do
  sendBitvmxMsg env (.getCommInfo (env.newUuid (← get).log))

def dispatchTransaction : FlowM Unit := do
  let state ← getState
  sendBitvmxMsg env (.dispatchTransactionName state.ctx.bitvmxProtocolId.value userTakeTx)

def requestTransactionStatus : FlowM Unit := do
  let txid ← getUserTakeTxid "Expected user take tx_id not found"
  let state ← getState
  sendBitvmxMsg env (.getTransaction state.ctx.bitvmxProtocolId.value txid)

def requestSpvProof : FlowM Unit := do
  let txid ← getUserTakeTxid "Expected user take tx_id not found"
  sendBitvmxMsg env (.getSPVProof txid)

def requestPegoutAcceptedVar : FlowM Unit := do
  let state ← getState
  sendBitvmxMsg env (.getVar state.ctx.bitvmxProtocolId.value pegoutAcceptedName)

/-- On recovery the queries are sent again whose answers may be lost. -/
def redrivePendingBitvmxRequest : FlowM Unit := do
  match (← getState).step with
  | .prepareUserTakeSetup => requestPegoutAcceptedVar env
  | .getCommInfoAuthoritativeCheckpoint => requestBitvmxCommInfo env
  | .requestUserTakeSpvProof => requestSpvProof env
  | _ => pure ()

def sendPegoutCompletedToBitvmx (event : PegoutRegistered) : FlowM Unit := do
  let state ← getState
  sendBitvmxMsg env (.setVar state.ctx.bitvmxProtocolId.value pegoutCompletedVarName
    (.pegoutRegistered event))

def writeCompletionMarker : FlowM Unit := do
  let state ← getState
  let result : Except String Unit ←
    perform env (.signalDone .pegout state.ctx.bitvmxProtocolId.value) id
  orText result

/-! ## Contract calls -/

def registerPegout (proof : BtcTxSPVProof) : FlowM Unit := do
  let result : Except DomainErrors TxSentOutput ←
    invokeContractSafe config.libs env config.verifier proof
      (perform env (.registerPegout (BtcTxSPVProofInput.ofProof proof)) id)
  let _ ← withContext "Failed to register pegout with provided SPV proof" (orDomain result)
  pure ()

def triggerOperatorTake : FlowM Unit := do
  let state ← getState
  let result : Except DomainErrors TxSentOutput ←
    perform env (.triggerOperatorTake state.pegoutTxid) id
  match result with
  | .ok _ => pure ()
  | .error _ => throw (.msg "Failed to trigger operator take")

/-! ## Steps -/

def completeWithConfirmedPegoutRegistration (event : EventWithBlock PegoutRegistered) :
    FlowM Steps := do
  let expected ← getUserTakeTxid "Expected user take txid not found"
  ensure (TxIdParser.fb32ToTxid event.inner.txid = expected) (.msg "PegoutRegistered txid mismatch")
  modifyState fun s => { s with ctx := { s.ctx with
    pegoutRegistered := some event.inner
    pegoutRegisteredTx := some event.txHash } }
  sendPegoutCompletedToBitvmx env event.inner
  return .done

def confirmUserTakeTransaction (status : TransactionStatus) : FlowM Steps := do
  let expected ← getUserTakeTxid "Expected user take txid not found"
  ensure (status.txId = expected) (.msg "Transaction status txId mismatch")
  modifyState fun s => { s with ctx := { s.ctx with transactionStatus := some status } }
  return .requestUserTakeSpvProof

/-- Store the data of a step and find the next one. -/
def processStepData (current : Steps) (data : StepData) : FlowM Steps :=
  match current, data with
  | .waitPegoutRequested, .pegoutRequested => pure .getCommInfoAuthoritativeCheckpoint
  | .getCommInfoAuthoritativeCheckpoint, .commInfo info => do
    modifyState fun s => { s with ctx := { s.ctx with myP2pAddress := some info } }
    return .prepareUserTakeSetup
  | .prepareUserTakeSetup, .pegoutAccepted accepted => do
    modifyState fun s => { s with ctx := { s.ctx with pegOutAccepted := some accepted } }
    return .waitUserTakeSignaturesReady
  | .waitUserTakeSignaturesReady, .userTakeSignaturesReady =>
    pure .dispatchUserTakeTransactionAllConvergeCheckpoint
  | .dispatchUserTakeTransactionAllConvergeCheckpoint, .userTakeTransactionDispatched =>
    pure .confirmUserTakeTransaction
  | .waitUserTakeSignaturesReady, .triggerOperatorTakeTimeout => pure .triggerOperatorTake
  | .triggerOperatorTake, .triggerOperatorTakeTimeout => pure .done
  | .confirmUserTakeTransaction, .transactionConfirmed status => confirmUserTakeTransaction status
  | .requestUserTakeSpvProof, .spvProof proof => do
    modifyState fun s => { s with ctx := { s.ctx with spvProof := some proof } }
    return .registerPegout
  | .registerPegout, .retryRegisterPegout => pure .registerPegout
  | step, .pegoutRegistered event =>
    if step.allowsFastForwardToPegoutRegistered then
      completeWithConfirmedPegoutRegistration env event
    else throw (.msg "Invalid state transition")
  | _, _ => throw (.msg "Invalid state transition")

/-- Only a registered pegout writes its marker. -/
def completionMarkerIf (registered : Bool) (env : Env) : FlowM Unit :=
  if registered then writeCompletionMarker env else pure ()

/-- The action on entering a step, and whether the state is still to be stored: after a successful
trigger of the operator take `start_step` has returned already. -/
def entryAction (completeStep : StepData → FlowM Unit) : Steps → FlowM Bool
  | .waitPegoutRequested => throw (.panic "Init step should not be reached in start_step")
  | .getCommInfoAuthoritativeCheckpoint => do
    requestBitvmxCommInfo env
    return true
  | .prepareUserTakeSetup => do
    communicatePegoutRequestedToBitvmx config env
    return true
  | .waitUserTakeSignaturesReady => pure true
  | .dispatchUserTakeTransactionAllConvergeCheckpoint => do
    dispatchTransaction env
    completeStep .userTakeTransactionDispatched
    return true
  | .triggerOperatorTake => do
    match ← attempt FlowError.isError (triggerOperatorTake env) with
    | .ok _ => return false
    | .error _ => return true
  | .confirmUserTakeTransaction => pure true
  | .requestUserTakeSpvProof => do
    requestSpvProof env
    return true
  | .registerPegout => do
    let proof ← okOr (← getState).ctx.spvProof
      (.msg "SPV proof not available for pegout registration")
    registerPegout config env proof
    return true
  | .done => do
    let state ← getState
    completionMarkerIf state.ctx.pegoutRegisteredTx.isSome env
    return true
  | .failed => pure true

def startStepWith (completeStep : StepData → FlowM Unit) (next : Steps) : FlowM Unit := do
  modifyState fun s => { s with step := next }
  persistIf (next = .registerPegout) env
  let stores ← entryAction config env completeStep next
  persistIf (stores = true) env

def completeStepWith (startStep : Steps → FlowM Unit) (data : StepData) : FlowM Unit := do
  let next ← processStepData env (← getState).step data
  startStep next

/-- The dispatch is the only step that completes itself, and what follows does not, so the two
functions call each other once. -/
def completeStepInner : StepData → FlowM Unit :=
  completeStepWith env
    (startStepWith config env fun _ => throw (.panic "a second step completed itself"))

def startStep : Steps → FlowM Unit :=
  startStepWith config env (completeStepInner config env)

def completeStep : StepData → FlowM Unit :=
  completeStepWith env (startStep config env)

def markFailed : FlowM Unit := startStep config env .failed

/-! ## Turns -/

inductive FlowInput where
  | completeStep (data : StepData)
  | markFailed
  | restart

def restart (w : World Flow) : World Flow :=
  match w.own.saved with
  | some state => { w with own := { w.own with state := state } }
  | none => w

def turn (config : Config) (w : World Flow) : Env × FlowInput → World Flow
  | (env, .completeStep data) => after (completeStep config env data) w
  | (env, .markFailed) => after (markFailed config env) w
  | (_, .restart) => restart w

/-! ## What the helpers call -/

/-- The calls that pay the user: by the transaction of the committee, or by an operator. -/
@[reducible]
def paysOut : Call → Bool
  | .send (.dispatchTransactionName _ name) => name = userTakeTx
  | .triggerOperatorTake _ => true
  | _ => false

/-- A call that neither submits a proof nor pays. -/
def Quiet (c : Call) : Prop := c.submittedProof = none ∧ paysOut c = false

instance {c : Call} [hplain : Fact (c.submittedProof = none)] [hpays : Fact (paysOut c = false)] :
    Fact (Quiet c) := ⟨hplain.out, hpays.out⟩

section OnlyCalls

variable {allowed : Call → Prop} {config : Config} {env : Env}

theorem onlyCalls_getState : OnlyCalls allowed getState := .bind .get fun _ => .pure _

theorem onlyCalls_getUserTakeTxid (message : String) :
    OnlyCalls allowed (getUserTakeTxid message) :=
  .bind onlyCalls_getState fun _ => within_okOr _ _

instance : Stays (CallStep allowed) getState := ⟨onlyCalls_getState⟩

-- the instances of a long program nest
set_option synthInstance.maxSize 100000

theorem onlyCalls_sendSetupToBitvmx (committeeId : CommitteeId) :
    OnlyCalls Quiet (sendSetupToBitvmx config env committeeId) := by
  unfold sendSetupToBitvmx; exact Stays.within

theorem within_communicatePegoutRequestedToBitvmx {R : World Flow → World Flow → Prop}
    [IsPreorder (World Flow) R]
    (hcalls : ∀ {α : Type} {m : FlowM α}, OnlyCalls Quiet m → Within R m)
    (hset : ∀ output, Within R (modifyState fun state =>
      { state with ctx := { state.ctx with committeeOutput := some output } })) :
    Within R (communicatePegoutRequestedToBitvmx config env) := by
  refine .bind (hcalls onlyCalls_getState) fun state => .okOr fun committeeId => ?_
  refine .bind ?_ fun _ => hcalls (onlyCalls_sendSetupToBitvmx _)
  refine .bind (hcalls Stays.within) fun output => ?_
  refine .bind (hset output) fun _ => .bind (hcalls onlyCalls_getState) fun state' => ?_
  refine hcalls ?_
  unfold pegoutRequestedToBitvmxRequest buildTakeAggregatedKey
  exact Stays.within

theorem onlyCalls_requestBitvmxCommInfo : OnlyCalls Quiet (requestBitvmxCommInfo env) :=
  .bind .get fun _ => onlyCalls_sendBitvmxMsg ⟨rfl, rfl⟩

theorem onlyCalls_dispatchTransaction : OnlyCalls Call.Plain (dispatchTransaction env) :=
  .bind onlyCalls_getState fun _ => onlyCalls_sendBitvmxMsg rfl

theorem onlyCalls_requestSpvProof : OnlyCalls Quiet (requestSpvProof env) :=
  .bind (onlyCalls_getUserTakeTxid _) fun _ => onlyCalls_sendBitvmxMsg ⟨rfl, rfl⟩

theorem onlyCalls_completionMarkerIf (registered : Bool) :
    OnlyCalls Quiet (completionMarkerIf registered env) := by
  unfold completionMarkerIf writeCompletionMarker; exact Stays.within

theorem onlyCalls_triggerOperatorTake : OnlyCalls Call.Plain (triggerOperatorTake env) := by
  refine .bind onlyCalls_getState fun state => ?_
  refine .bind (onlyCalls_perform rfl) fun result => ?_
  split
  · exact .pure ()
  · exact .throw _

end OnlyCalls

section Recursion

variable {config : Config} {env : Env}

theorem completeStepInner_eq {w : World Flow}
    (h : w.own.state.step = .dispatchUserTakeTransactionAllConvergeCheckpoint) :
    completeStepInner config env .userTakeTransactionDispatched w
      = completeStep config env .userTakeTransactionDispatched w := by
  show (processStepData env w.own.state.step .userTakeTransactionDispatched >>= _) w
    = (processStepData env w.own.state.step .userTakeTransactionDispatched >>= _) w
  rw [h]
  rfl

theorem entryAction_inner (next : Steps) {w : World Flow} (h : w.own.state.step = next) :
    entryAction config env (completeStepInner config env) next w
      = entryAction config env (completeStep config env) next w := by
  cases next
  case dispatchUserTakeTransactionAllConvergeCheckpoint =>
    apply bind_apply_congr
    apply wp_mono (within_iff_wp.mp onlyCalls_dispatchTransaction w) _ fun _ _ _ => trivial
    intro _ w' hw'
    have hstep : w'.own.state.step = .dispatchUserTakeTransactionAllConvergeCheckpoint := by
      rw [hw'.own, h]
    show EStateM.bind _ _ w' = EStateM.bind _ _ w'
    unfold EStateM.bind
    rw [completeStepInner_eq hstep]
  all_goals rfl

/-- **The recursive equation of the source**, as for the pegins. -/
theorem pegoutStartStep_eq (next : Steps) :
    startStep config env next = startStepWith config env (completeStep config env) next := by
  funext w
  apply bind_apply_congr
  rw [modifyState, wp_modify]
  apply bind_apply_congr
  have hstored : wp (persistIf (next = .registerPegout) env)
      (fun _ w' => w'.own.state.step = next) (fun _ _ => True)
      { w with own := { w.own with state := { w.own.state with step := next } } } := by
    unfold persistIf
    rw [wp_ite]
    split
    · simp only [persistState, getState, wp_bind, wp_get, wp_pure, wp_perform, wp_orText, wp_modify]
      exact ⟨fun _ _ => trivial, fun _ _ => trivial⟩
    · rfl
  apply wp_mono hstored _ fun _ _ _ => trivial
  intro _ w' hw'
  show EStateM.bind _ _ w' = EStateM.bind _ _ w'
  unfold EStateM.bind
  rw [entryAction_inner next hw']

end Recursion

end UnionBridge.Pegout
