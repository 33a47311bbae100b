import UnionBridge.CommitteeSetup.Programs
import UnionBridge.Lib.Keccak
import UnionBridge.OpFunding.Profile

/-!
# The committee setup flow (`coordinator/src/flows/committee/setup_committee_flow.rs`)

A flow goes from the request of the user to the registered committee in twenty steps. `complete_step`
takes the data of an answer, closes what the current step was waiting for, and starts the next step;
`start_step` moves the flow to the step first, then runs its entry action, and saves the flow last.
Five steps collect several answers and stay where they are until the last one.

The keys of the node and its committees are shared by all flows (`GlobalContext`). A flow is modelled
with the shared context and its own record in the store next to its state.
-/

namespace UnionBridge.CommitteeSetup

open Contracts Bitvmx Effect OpFunding

/-! ## The shared context (`flows/common/context.rs`) -/

structure MyKeys where
  takeKey : Option SignedPublicKey
  disputeKey : Option SignedPublicKey
  commKey : Option SignedPublicKey
deriving DecidableEq

def MyKeys.isSet (keys : MyKeys) : Bool :=
  keys.takeKey.isSome && keys.disputeKey.isSome && keys.commKey.isSome

structure GlobalContext where
  myCommittees : Table CommitteeId ParticipantRole
  myKeys : MyKeys
deriving DecidableEq

namespace GlobalContext

def new : GlobalContext := ⟨∅, ⟨none, none, none⟩⟩

def imMember (context : GlobalContext) (committeeId : CommitteeId) : Bool :=
  (context.myCommittees.lookup committeeId).isSome

end GlobalContext

/-! ## State -/

inductive Steps where
  | init
  | validateBalances
  | getMyCommInfo
  | getMyTakeKey
  | signMyTakeKey
  | getMyDisputeKey
  | signMyDisputeKey
  | getMyCommKey
  | signMyCommKey
  | fundMyBitVmxAccount
  | applyToStream
  | depositP2PDataAuthoritativeCheckpoint
  | setupTakeAggregatedKeyAllConvergeCheckpoint
  | setupDisputeAggregatedKey
  | setupPairwiseKeys
  | setupDisputeCore
  | requestDisputeChannelVars
  | disputeChannelSetup
  | fullPenalizationSetup
  | depositAggregatedKey
  | done
  | failed
deriving DecidableEq

abbrev NewCommitteePendingEvent := EventWithBlock NewCommittee
abbrev AllCommunicationDataReadyEvent := EventWithBlock AllCommunicationDataReady
abbrev NewCommitteeReadyEvent := EventWithBlock NewCommittee

inductive StepData where
  | userRequest (input : ApplyToStream)
  | bitVmxFundingBalance (balance : UInt64)
  | commInfo (address : CommsAddress)
  | publicKey (key : PublicKey)
  | pairwiseAggregatedKey (reqId : Uuid) (key : PublicKey)
  | signedMessage (signatureR signatureS : U256) (recoveryId : UInt8)
  | setupCompleted (id : Uuid)
  | fundsSent (txid : Txid)
  | disputeCoreVariable (disputeCorePid : Uuid) (name data : String)
  | pendingCommittee (event : NewCommitteePendingEvent)
  | readyCommunicationData (event : AllCommunicationDataReadyEvent)
  | readyCommittee (event : NewCommitteeReadyEvent)
deriving DecidableEq

/-- A request for one of my keys and, later, for its signature. -/
structure PubKeyReq where
  reqId : Uuid
  publicKey : Option PublicKey
  signReqId : Option Uuid
  signed : Option SignedPublicKey
deriving DecidableEq

/-- A request with one answer. -/
structure Request (α : Type) where
  reqId : Uuid
  answer : Option α
deriving DecidableEq

structure SetupCoreReq where
  protocolId : Uuid
  committeeId : CommitteeId
  completed : Bool
deriving DecidableEq

structure SetupChannelReq where
  protocolId : Uuid
  completed : Bool
deriving DecidableEq

structure FlowContext where
  userInput : Option ApplyToStream
  fundingBalanceReq : Option (Request UInt64)
  myCommInfo : Option CommsAddress
  commInfoReqId : Option Uuid
  myTakeKeyReq : Option PubKeyReq
  myDisputeKeyReq : Option PubKeyReq
  myCommKeyReq : Option PubKeyReq
  sendFundsReq : Option (Request Txid)
  aggTakeKeyReq : Option (Request PublicKey)
  aggDisputeKeyReq : Option (Request PublicKey)
  pairwiseKeysReq : List PairwiseKeyReq
  /-- By the JSON text of the partner's address. -/
  pairwiseKeys : Table String PublicKey
  setupCoreReq : List SetupCoreReq
  setupChannelReq : List DisputeChannelSetupRequest
  setupChannelSetupReq : List SetupChannelReq
  setupFullPenalizationReq : List SetupChannelReq
  committeeData : Option CommitteeData
  committeePendingEv : Option NewCommitteePendingEvent
  communicationDataReadyEv : Option (List CommsAddress)
  committeeReadyReq : Option NewCommitteeReadyEvent
deriving DecidableEq

def FlowContext.default : FlowContext :=
  ⟨none, none, none, none, none, none, none, none, none, none, [], ∅, [], [], [], [], none, none,
    none, none⟩

structure State where
  flowId : FlowId
  step : Steps
  ctx : FlowContext
deriving DecidableEq

def State.new (flowId : FlowId) : State := ⟨flowId, .init, .default⟩

def State.isTerminal (state : State) : Bool := state.step = .done || state.step = .failed

/-- A flow with the shared context and its record in the store. -/
structure Flow where
  state : State
  globalContext : GlobalContext
  record : Option State

/-! ## The data of a step -/

section Data

variable {σ α : Type}

/-- What a step takes from its data: anything but the one kind it waits for is an error. -/
def expected (kind : String) (value : Option α) : Program σ α :=
  okOr value (.fatal ("Expected " ++ kind ++ " data"))

namespace StepData

variable (data : StepData)

def intoUserInput : Program σ ApplyToStream :=
  expected "UserRequest" <| match data with
    | .userRequest input => some input
    | _ => none

def intoBitvmxFundingBalance : Program σ UInt64 :=
  expected "FundingBalance" <| match data with
    | .bitVmxFundingBalance balance => some balance
    | _ => none

def intoCommsAddress : Program σ CommsAddress :=
  expected "CommsAddress" <| match data with
    | .commInfo address => some address
    | _ => none

def intoPubkey : Program σ PublicKey :=
  expected "PublicKey" <| match data with
    | .publicKey key => some key
    | _ => none

def intoSignedPayload : Program σ (U256 × U256 × UInt8) :=
  expected "SignedMessage" <| match data with
    | .signedMessage signatureR signatureS recoveryId => some (signatureR, signatureS, recoveryId)
    | _ => none

def intoCommitteePending : Program σ NewCommitteePendingEvent :=
  expected "PendingCommittee" <| match data with
    | .pendingCommittee event => some event
    | _ => none

def intoAllCommDataReady : Program σ AllCommunicationDataReadyEvent :=
  expected "ReadyCommunicationData" <| match data with
    | .readyCommunicationData event => some event
    | _ => none

def intoCommitteeReady : Program σ NewCommitteeReadyEvent :=
  expected "ReadyCommittee" <| match data with
    | .readyCommittee event => some event
    | _ => none

def intoSetupCompleted : Program σ Uuid :=
  expected "SetupCompleted" <| match data with
    | .setupCompleted id => some id
    | _ => none

def intoFundsSent : Program σ Txid :=
  expected "FundsSent" <| match data with
    | .fundsSent txid => some txid
    | _ => none

def intoPairwiseAggregatedKey : Program σ (Uuid × PublicKey) :=
  expected "PairwiseAggregatedKey" <| match data with
    | .pairwiseAggregatedKey reqId key => some (reqId, key)
    | _ => none

def intoDisputeCoreVariable : Program σ (Uuid × String × String) :=
  expected "DisputeCoreVariable" <| match data with
    | .disputeCoreVariable disputeCorePid name text => some (disputeCorePid, name, text)
    | _ => none

end StepData

end Data

/-! ## Requests that a flow waits for -/

def requestMatches {α : Type} (request : Option (Request α)) (reqId : Uuid) : Bool :=
  request.any fun request => request.reqId = reqId

def requestIdMatches (storedReqId : Option Uuid) (reqId : Uuid) : Bool :=
  storedReqId.any fun stored => stored = reqId

def pubkeyRequestMatches (pubkeyReq : Option PubKeyReq) (reqId : Uuid) : Bool :=
  pubkeyReq.any fun req => req.reqId = reqId || req.signReqId.any fun id => id = reqId

/-- The first request with the id decides. -/
def setupCoreRequestMatches (setupCore : List SetupCoreReq) (reqId : Uuid)
    (flowCommitteeId : Option CommitteeId) : Bool :=
  match flowCommitteeId, setupCore.find? fun req => req.protocolId = reqId with
  | some id, some req => id = req.committeeId
  | _, _ => false

def setupChannelRequestMatches (setupChannel : List SetupChannelReq) (reqId : Uuid) : Bool :=
  setupChannel.any fun req => req.protocolId = reqId

def pairwiseKeyRequestMatches (pairwiseKeysReq : List PairwiseKeyReq) (reqId : Uuid) : Bool :=
  pairwiseKeysReq.any fun req => req.aggregationId = reqId

namespace State

variable (state : State)

/-- An answer is looked up among all requests that the flow ever made. -/
def isWaitingForBitvmxRequest (reqId : Uuid) : Bool :=
  requestMatches state.ctx.fundingBalanceReq reqId
    || requestIdMatches state.ctx.commInfoReqId reqId
    || pubkeyRequestMatches state.ctx.myTakeKeyReq reqId
    || pubkeyRequestMatches state.ctx.myDisputeKeyReq reqId
    || pubkeyRequestMatches state.ctx.myCommKeyReq reqId
    || requestMatches state.ctx.aggTakeKeyReq reqId
    || requestMatches state.ctx.aggDisputeKeyReq reqId
    || pairwiseKeyRequestMatches state.ctx.pairwiseKeysReq reqId
    || requestMatches state.ctx.sendFundsReq reqId
    || setupCoreRequestMatches state.ctx.setupCoreReq reqId
        (state.ctx.committeeData.map (·.committeeId))
    || setupChannelRequestMatches state.ctx.setupChannelSetupReq reqId
    || setupChannelRequestMatches state.ctx.setupFullPenalizationReq reqId

def isPairwiseAggregatedKeyRequest (reqId : Uuid) : Bool :=
  pairwiseKeyRequestMatches state.ctx.pairwiseKeysReq reqId

def isForStream (streamId : UInt64) : Bool :=
  state.ctx.userInput.any fun input => input.streamId = streamId

def isForCommittee (committeeId : CommitteeId) : Bool :=
  state.ctx.committeePendingEv.any fun event => event.inner.committeeId = committeeId

def isWaitingForDisputeCoreVariable (programId : Uuid) : Bool :=
  state.step = .requestDisputeChannelVars
    && state.ctx.setupChannelReq.any fun req => req.disputeCorePid = programId

end State

/-! ## What a flow reads of its context -/

namespace FlowContext

variable {σ : Type} (ctx : FlowContext)

def getUserInput : Program σ ApplyToStream :=
  okOr ctx.userInput (.fatal "Missing User Input in context")

def getStreamId : Program σ UInt64 := do
  let input ← okOr ctx.userInput (.fatal "Missing stream_id")
  return input.streamId

def getCommitteeData : Program σ CommitteeData :=
  okOr ctx.committeeData
    (.fatal "CommitteeData not yet initialized (NewCommitteePending not received)")

def getMyCommInfo : Program σ CommsAddress :=
  okOr ctx.myCommInfo (.fatal "My Comm Info missing in context")

def getAggregatedTakeKey : Program σ PublicKey := do
  let req ← okOr ctx.aggTakeKeyReq (.fatal "Aggregated Take Key request missing in context")
  okOr req.answer (.fatal "Aggregated Take Key missing in context")

def getAggregatedDisputeKey : Program σ PublicKey := do
  let req ← okOr ctx.aggDisputeKeyReq (.fatal "Aggregated Dispute Key request missing in context")
  okOr req.answer (.fatal "Aggregated Dispute Key missing in context")

def getMyCommunicationData : Program σ (List CommsAddress) :=
  okOr ctx.communicationDataReadyEv (.fatal "Missing Communication Data in context")

/-- A key of the shared context goes before the one that the flow asked for itself. -/
def getMyKey (shared : Option SignedPublicKey) (own : Option PubKeyReq)
    (missingRequest missingKey : String) : Program σ SignedPublicKey :=
  match shared with
  | some key => pure key
  | none => do
    let req ← okOr own (.fatal missingRequest)
    okOr req.signed (.fatal missingKey)

def getMyTakeKey (globalContext : GlobalContext) : Program σ SignedPublicKey :=
  getMyKey globalContext.myKeys.takeKey ctx.myTakeKeyReq "Missing request for My Take Key"
    "Missing My Signed Take Key in context"

def getMyDisputeKey (globalContext : GlobalContext) : Program σ SignedPublicKey :=
  getMyKey globalContext.myKeys.disputeKey ctx.myDisputeKeyReq
    "My Dispute Key request missing in context" "My Signed Dispute Key missing in context"

def getMyCommKey (globalContext : GlobalContext) : Program σ SignedPublicKey :=
  getMyKey globalContext.myKeys.commKey ctx.myCommKeyReq
    "My Communication Key request missing in context"
    "My Signed Communication Key missing in context"

end FlowContext

/-- The advance funds with a buffer of 20 percent, in 64-bit words that wrap. -/
def calculateAdvanceFundsValue (advanceFundsUserInput : UInt64) : UInt64 :=
  advanceFundsUserInput * 12 / 10

def newP2wpkh (wpkh : Bytes) : Bytes := 0x00 :: 0x14 :: wpkh

structure FundingUtxos where
  speedup : PartialUtxo
  protocolFunding : PartialUtxo
  advanceFunds : PartialUtxo

/-- The outputs of the batch that funds the protocol, in its order. -/
def FlowContext.getMyProtocolUtxos {σ : Type} (libs : Libs) (ctx : FlowContext)
    (globalContext : GlobalContext) : Program σ FundingUtxos := do
  let req ← okOr ctx.sendFundsReq (.fatal "Missing Send Funds Request")
  let txid ← okOr req.answer (.fatal "Missing Send Funds Request TxId")
  let publicKey := (← ctx.getMyDisputeKey globalContext).publicKey
  let input ← ctx.getUserInput
  let wpkh ← okOr (libs.wpubkeyHash publicKey)
    (.fatal "Failed to get wpubkey_hash from dispute public key")
  let output (vout : UInt32) (value : UInt64) : PartialUtxo :=
    ⟨txid, vout, some value, some ⟨value, newP2wpkh wpkh, publicKey⟩⟩
  return {
    speedup := output 0 input.speedUpUtxo
    protocolFunding := output 1 input.fundingUtxo
    advanceFunds := output 2 (calculateAdvanceFundsValue input.advanceFunds) }

/-! ## Programs of a flow -/

def World.setCtx (w : World Flow) (ctx : FlowContext) : World Flow :=
  ⟨{ w.own with state := { w.own.state with ctx } }, w.log⟩

def World.setStep (w : World Flow) (step : Steps) : World Flow :=
  ⟨{ w.own with state := { w.own.state with step } }, w.log⟩

def World.setGlobal (w : World Flow) (globalContext : GlobalContext) : World Flow :=
  ⟨{ w.own with globalContext }, w.log⟩

def World.save (w : World Flow) : World Flow := ⟨{ w.own with record := some w.own.state }, w.log⟩

def World.ctx (w : World Flow) : FlowContext := w.own.state.ctx

def getCtx : Program Flow FlowContext := do
  let w ← get
  return w.ctx

def getGlobal : Program Flow GlobalContext := do
  let w ← get
  return w.own.globalContext

def modifyCtx (f : FlowContext → FlowContext) : Program Flow PUnit := modify fun w => w.setCtx (f w.ctx)

def modifyGlobal (f : GlobalContext → GlobalContext) : Program Flow PUnit :=
  modify fun w => w.setGlobal (f w.own.globalContext)

def newUuid {σ : Type} (env : Env) : Program σ Uuid := perform env .newUuid id

variable (config : Config) (env : Env)

def persistState : Program Flow Unit := do
  let w ← get
  let result : Except String Unit ← perform env (.saveFlow w.own.state.flowId.value) id
  withContext "Failed to persist state" (orText result)
  modify World.save

def markFailed : Program Flow Unit := do
  modify fun w => w.setStep .failed
  persistState env

/-- The `fail` of a flow: an error of the store is only logged. -/
def fail : Program Flow Unit := do
  let _ ← attempt FlowError.isCaught (markFailed env)

/-- `run(call).or_else(..)?`: an error that means the call had been made before counts as success,
and one without a revert is transient. -/
def orRetriable {σ : Type} (repeated : DomainErrors → Bool) (result : Except DomainErrors Unit) :
    Program σ Unit :=
  match result with
  | .ok () => pure ()
  | .error e => if repeated e then pure () else match e with
    | .noRevertError message => throw (.transient message)
    | e => throw (.fatal e.text)

/-! ## Balances -/

def validateBitvmxBalance (data : StepData) : Program Flow Unit := do
  let balance ← data.intoBitvmxFundingBalance
  let streamId ← (← getCtx).getStreamId
  let slots ← orText config.slotsPerPackage
  let members ← orText config.committeeMemberCount
  let provers ← orText config.proverCount
  match deriveStreamFundingProfile streamId config.isRegtest slots members provers with
  | .error e => throw (.fatal e.text)
  | .ok profile => do
    let req ← okOr (← getCtx).fundingBalanceReq (.fatal "Funding balance request missing in context")
    modifyCtx fun ctx => { ctx with fundingBalanceReq := some ⟨req.reqId, some balance⟩ }
    ensure (profile.operatorFundAmount ≤ balance)
      (.fatal ("Insufficient funding balance: " ++ toString balance ++ " < "
        ++ toString profile.operatorFundAmount))

def ensureMemberWhitelisted : Program Flow Unit := do
  let result : Except DomainErrors Bool ← perform env .isWhitelisted id
  let isWhitelisted ← orDomain result
  ensure (isWhitelisted = true)
    (.fatal ("Member address " ++ config.libs.addressToString config.myAddress
      ++ " is not whitelisted in the CommitteeRegistry contract"))

/-- A failure of `op_funding`. -/
def orFailure {σ α : Type} (result : Outcome α) : Program σ α :=
  match result with
  | .ok a => pure a
  | .error (.err message) => throw (.fatal message)
  | .error (.panic message) => throw (.panic message)

def validateRskBalance : Program Flow Unit := do
  let result : Except DomainErrors U256 ← perform env .getBalance id
  let balanceWei ← orDomain result
  let ctx ← getCtx
  let streamId ← ctx.getStreamId
  let role := (← ctx.getUserInput).role.toU8
  ensure (streamId.toNat < 256) (.fatal ("Failed to convert StreamId " ++ toString streamId
    ++ " to u8: out of range integral type conversion attempted"))
  let result : Except DomainErrors U256 ←
    perform env (.getMinimumDeposit (UInt8.ofNat streamId.toNat) role) id
  let minDeposit ← orDomain result
  let slots ← orText config.slotsPerPackage
  let members ← orText config.committeeMemberCount
  let minRskBalance ← orFailure (requiredMemberRskBalance minDeposit slots members)
  ensure (minRskBalance ≤ balanceWei)
    (.fatal ("Insufficient RSK balance: " ++ toString balanceWei.toNat ++ " < "
      ++ toString minRskBalance.toNat))

/-! ## My keys -/

/-- The hash of an uncompressed public key, without its leading byte. -/
def createPubkeyHash (libs : Libs) (publicKey : PublicKey) : Bytes :=
  (Keccak.keccak256 ((libs.serializeUncompressed publicKey).drop 1)).val

def closePubKeyReq {σ : Type} (pubKeyReq : Option PubKeyReq) (data : StepData) :
    Program σ PubKeyReq := do
  let req ← okOr pubKeyReq (.fatal "Public Key request missing in context")
  let key ← data.intoPubkey
  return { req with publicKey := some key }

def closePubKeySigningReq {σ : Type} (pubKeyReq : Option PubKeyReq) (data : StepData) :
    Program σ PubKeyReq := do
  let (signatureR, signatureS, recoveryId) ← data.intoSignedPayload
  let req ← okOr pubKeyReq (.fatal "Public Key request missing in context")
  let publicKey ← okOr req.publicKey (.fatal "Missing Public Key to sign")
  return { req with signed := some ⟨publicKey, signatureR, signatureS, recoveryId⟩ }

def requestBitvmxPubKey {σ : Type} (env : Env) (set : PubKeyReq → Program σ PUnit) :
    Program σ Unit := do
  let reqId ← newUuid env
  set ⟨reqId, none, none, none⟩
  trySendBitvmxMsg env (.getEvenPubKey reqId)

def requestBitvmxKeySigning {σ : Type} (config : Config) (env : Env) (pubKeyReq : Option PubKeyReq)
    (set : PubKeyReq → Program σ PUnit) : Program σ Unit := do
  let req ← okOr pubKeyReq (.fatal "Missing Public Key request")
  let publicKey ← okOr req.publicKey (.fatal "Missing Sign Public Key request")
  let reqId ← newUuid env
  set { req with signReqId := some reqId }
  trySendBitvmxMsg env (.signMessage reqId (createPubkeyHash config.libs publicKey) publicKey)

def setMyTakeKeyReq (req : PubKeyReq) : Program Flow PUnit :=
  modifyCtx fun ctx => { ctx with myTakeKeyReq := some req }

def setMyDisputeKeyReq (req : PubKeyReq) : Program Flow PUnit :=
  modifyCtx fun ctx => { ctx with myDisputeKeyReq := some req }

def setMyCommKeyReq (req : PubKeyReq) : Program Flow PUnit :=
  modifyCtx fun ctx => { ctx with myCommKeyReq := some req }

/-- The entry action of the six steps for my keys, which have no business when they are set. -/
def unlessKeysSet (stepName : String) (action : Program Flow Unit) : Program Flow Unit := do
  if (← getGlobal).myKeys.isSet then
    throw (.panic ("Running " ++ stepName ++ " when MyKeys are already set"))
  else action

/-! ## Funding and application -/

def feeRate : UInt64 := if config.isRegtest then 10 else 1

def fundProtocol : Program Flow Unit := do
  let reqId ← newUuid env
  let ctx ← getCtx
  let publicKey := (← ctx.getMyDisputeKey (← getGlobal)).publicKey
  let input ← ctx.getUserInput
  modifyCtx fun ctx => { ctx with sendFundsReq := some ⟨reqId, none⟩ }
  let result : Except String Unit ← perform env (.send (.sendFunds reqId
    [⟨publicKey, input.speedUpUtxo⟩, ⟨publicKey, input.fundingUtxo⟩,
      ⟨publicKey, calculateAdvanceFundsValue input.advanceFunds⟩] (some (feeRate config)))) id
  match result with
  | .ok () => pure ()
  | .error e => throw (.fatal ("Failed to send msg to BitVMX: " ++ e))

def buildFundingUtxo : Program Flow ContractUtxo := do
  let utxos ← (← getCtx).getMyProtocolUtxos config.libs (← getGlobal)
  let fundingUtxo := utxos.protocolFunding
  let amount ← okOr fundingUtxo.amount (.fatal "Missing funding UTXO amount")
  return ⟨TxIdParser.txidToFb32 fundingUtxo.txid, fundingUtxo.vout, amount⟩

/-- A signed key as the contracts take it. -/
def signedToCommitteePublicKey {σ : Type} (libs : Libs) (key : SignedPublicKey) :
    Program σ CommitteeECDSA := do
  let bytes := libs.serializeUncompressed key.publicKey
  ensure (bytes.length = 65 ∧ bytes.head? = some 0x04) (.fatal "invalid uncompressed pubkey")
  ensure (key.recoveryId ∈ [0, 1, 27, 28])
    (.fatal "invalid recovery_id (expected 0/1 or 27/28)")
  return {
    x := Hex.encode ((bytes.drop 1).take 32)
    y := Hex.encode (bytes.drop 33)
    r := Hex.encode key.signatureR.toBigEndian
    s := Hex.encode key.signatureS.toBigEndian
    v := if key.recoveryId ≤ 1 then 27 + key.recoveryId else key.recoveryId }

def DomainErrors.isAlreadyRegistered : DomainErrors → Bool
  | memberAlreadyRegisteredForStream _ => true
  | _ => false

def DomainErrors.isAlreadyDeposited : DomainErrors → Bool
  | memberAlreadyDepositedCommunicationData _ => true
  | _ => false

def DomainErrors.isInfoAlreadyDeposited : DomainErrors → Bool
  | memberInfoAlreadyDeposited _ => true
  | _ => false

def buildApplyToStreamInput (takeKey disputeKey : SignedPublicKey)
    (fundingUtxo : ContractUtxo) : Program Flow ApplyToStreamInput := do
  let ctx ← getCtx
  let userInput ← ctx.getUserInput
  let take ← signedToCommitteePublicKey config.libs takeKey
  let dispute ← signedToCommitteePublicKey config.libs disputeKey
  return {
    streamId := userInput.streamId
    role := userInput.role.toU8
    takeKey := take
    disputeKey := dispute
    pubkeyHash := (← ctx.getMyCommInfo).pubkeyHash
    fundingUtxo }

/-- The keys of an application become those of the node. -/
def applyToStream : Program Flow Unit := do
  let fundingUtxo ← buildFundingUtxo config
  let ctx ← getCtx
  let _ ← ctx.getStreamId
  let takeKey ← ctx.getMyTakeKey (← getGlobal)
  let disputeKey ← ctx.getMyDisputeKey (← getGlobal)
  let input ← buildApplyToStreamInput config takeKey disputeKey fundingUtxo
  let result : Except DomainErrors Unit ← perform env (.applyToStream input) id
  orRetriable DomainErrors.isAlreadyRegistered result
  modifyGlobal fun g => { g with myKeys := { g.myKeys with takeKey := some takeKey } }
  modifyGlobal fun g => { g with myKeys := { g.myKeys with disputeKey := some disputeKey } }
  let commKey ← ctx.getMyCommKey (← getGlobal)
  modifyGlobal fun g => { g with myKeys := { g.myKeys with commKey := some commKey } }

/-! ## The committee -/

/-- The indices of the keys of a member. -/
def takeKeyIndex : Nat := 0
def disputeKeyIndex : Nat := 1

def imSelectedToNewCommittee (event : NewCommitteePendingEvent)
    (committeeId : CommitteeId) : Program Flow Bool := do
  ensure ((← getGlobal).imMember committeeId = false)
    (.fatal ("Already part of committee " ++ toString committeeId.toNat))
  return event.inner.committee.members.val.any fun member => member.memberAddress = config.myAddress

def updateMyCommittees (event : NewCommitteePendingEvent) (committeeId : CommitteeId) :
    Program Flow Unit := do
  modifyCtx fun ctx => { ctx with committeePendingEv := some event, committeeData := none }
  let role := (← (← getCtx).getUserInput).role
  modifyGlobal fun g => { g with myCommittees := g.myCommittees.insert committeeId role }

section Members

variable {σ : Type} (config : Config) (env : Env)

def getMemberPublicKeysFromContracts (memberAddress : Address) : Program σ (List String) := do
  let result : Except DomainErrors (List String) ← perform env (.getMemberPublicKeys memberAddress) id
  match result with
  | .ok keys => pure keys
  | .error e => throw (.fatal ("Failed to get member public keys: " ++ e.text))

/-- Member keys are stored without their parity, and `BitVMX` makes it even. -/
def parseMemberKey (keyStr keyType : String) (memberAddr : Address) : Program σ PublicKey := do
  let word ← okOr (config.libs.parseH256 keyStr) (.fatal ("Failed to parse " ++ keyType
    ++ " key to FixedBytes<32> for member " ++ config.libs.addressToString memberAddr))
  okOr (config.libs.evenKeyFromXOnly word.toBigEndian) (.fatal ("Failed to parse " ++ keyType
    ++ " x-only key for member " ++ config.libs.addressToString memberAddr))

def buildMemberFundingUtxo (memberDisputeKey : PublicKey) (utxo : ContractUtxo) :
    Program σ PartialUtxo := do
  let wpkh ← okOr (config.libs.wpubkeyHash memberDisputeKey)
    (.fatal "Failed to get wpubkey_hash from dispute public key")
  return ⟨TxIdParser.fb32ToTxid utxo.txid, utxo.outputIndex, some utxo.amount,
    some ⟨utxo.amount, newP2wpkh wpkh, memberDisputeKey⟩⟩

def buildMemberOfCommittee (committee : Committee) :
    CommitteeMember × Nat → Program σ MemberOfCommittee
  | (member, idx) => do
    let text := toString idx
    let role ← okOr (ParticipantRole.tryFrom member.role) (.fatal ("Failed to convert member role "
      ++ toString member.role ++ " at idx " ++ text))
    let keys ← withContext ("Failed to get keys for member " ++ text)
      (getMemberPublicKeysFromContracts env member.memberAddress)
    let takeKeyStr ← okOr keys[takeKeyIndex]? (.fatal ("Take key not found on Committee for "
      ++ config.libs.addressToString member.memberAddress))
    let disputeKeyStr ← okOr keys[disputeKeyIndex]? (.fatal ("Dispute key not found on Committee for "
      ++ config.libs.addressToString member.memberAddress))
    let takeKey ← withContext ("Failed to parse take key for member " ++ text)
      (parseMemberKey config takeKeyStr "Take" member.memberAddress)
    let disputeKey ← withContext ("Failed to parse dispute key for member " ++ text)
      (parseMemberKey config disputeKeyStr "Dispute" member.memberAddress)
    let utxo ← okOr committee.fundingUTXOs[idx]?
      (.fatal ("Missing utxo for committee member " ++ text))
    let fundingUtxo ← withContext ("Failed to build funding utxo for member " ++ text)
      (buildMemberFundingUtxo config disputeKey utxo)
    return ⟨member.memberAddress, role, takeKey, disputeKey, fundingUtxo, idx⟩

/-- A vector of the members, which is as long as the one of the event. -/
def buildMembersOfCommittee (committee : Committee) : Program σ (RVec MemberOfCommittee) := do
  let members ← committee.members.val.zipIdx.mapM (buildMemberOfCommittee config env committee)
  if h : members.length < 2 ^ 63 then return ⟨members, h⟩
  else throw (.panic "capacity overflow")

def memberPubkeyHash (member : MemberOfCommittee) : Program σ String := do
  let keys ← getMemberPublicKeysFromContracts env member.address
  okOr keys[commKeyIndex]? (.fatal ("Communication key not found on Committee for "
    ++ config.libs.addressToString member.address))

/-- The address of a member as a text, empty when nothing was deposited. -/
def memberAddressText (data : CommunicationData) : Program σ String := do
  let address ← orText (P2PAddressParser.socketAddrFromContracts config.libs.toLibs data)
  return (address.map config.libs.socketAddrToString).getD ""

end Members

def buildCommitteeData : Program Flow Unit := do
  let event ← okOr (← getCtx).committeePendingEv (.fatal "Missing committee pending event")
  let committee := event.inner.committee
  let members ← buildMembersOfCommittee config env committee
  modifyCtx fun ctx =>
    { ctx with committeeData := some ⟨event.inner.committeeId, committee, members⟩ }

def buildMyCommunicationData : Program Flow (List CommsAddress) := do
  let ctx ← getCtx
  let data ← withContext "Get Communication Data" ctx.getCommitteeData
  let result : Except DomainErrors (List CommunicationData) ←
    perform env (.getCommitteeCommunicationData data.committeeId config.myAddress) id
  let addresses ← (← orDomain result).mapM (memberAddressText config)
  let myP2pAddress := config.libs.socketAddrToString (← ctx.getMyCommInfo).address
  let pubkeyHashes ← data.members.val.mapM (memberPubkeyHash config env)
  orText (buildCommunicationData config.libs.toLibs myP2pAddress addresses pubkeyHashes)

/-- `bytes_to_fb_array`: a length of two bytes, the payload, and padding. -/
def bytesToFbArray (bytes : Bytes) : Except String (List.Vector U256 8) :=
  if 254 < bytes.length then .error ("payload too large: " ++ toString bytes.length ++ " > 254")
  else
    let buf := toBE 2 bytes.length ++ bytes ++ List.replicate (254 - bytes.length) 0
    .ok (.ofFn fun i => U256.fromBigEndian ((buf.drop (32 * i)).take 32))

def multiaddrText (libs : Libs) (address : SocketAddr) : String :=
  (match address.ip with
    | .v4 _ => "/ip4/"
    | .v6 _ => "/ip6/") ++ libs.ipToString address.ip ++ "/tcp/" ++ toString address.port

def socketAddrToContracts (libs : Libs) (address : SocketAddr) : Except String CommunicationData := do
  match libs.multiaddrToBytes (multiaddrText libs address) with
  | none => throw "invalid multiaddr"
  | some bytes => return ⟨← bytesToFbArray bytes⟩

/-- The contracts want zeros at my own place. -/
def memberCommunicationData {σ : Type} (config : Config) (myAddress : SocketAddr)
    (member : MemberOfCommittee) : Program σ CommunicationData :=
  if member.address = config.myAddress then pure ⟨List.Vector.replicate 8 0⟩
  else orText (socketAddrToContracts config.libs myAddress)

def depositCommunicationData : Program Flow Unit := do
  let ctx ← getCtx
  let data ← withContext "Deposit Communication Data" ctx.getCommitteeData
  let myP2pAddress ← ctx.getMyCommInfo
  let communicationData ← data.members.val.mapM
    (memberCommunicationData config myP2pAddress.address)
  let result : Except DomainErrors Unit ←
    perform env (.depositCommunicationData data.committeeId communicationData) id
  orRetriable DomainErrors.isAlreadyDeposited result

/-! ## Keys of the committee -/

def setupBitvmxAggregatedTakePubkey : Program Flow Unit := do
  let ctx ← getCtx
  let data ← ctx.getCommitteeData
  let takeKeyId := (takeAggregatedKeyProtocolId config.libs.toLibs data.committeeUuid).value
  modifyCtx fun ctx => { ctx with aggTakeKeyReq := some ⟨takeKeyId, none⟩ }
  let communicationData ← ctx.getMyCommunicationData
  trySendBitvmxMsg env (.setupKey takeKeyId communicationData
    (some (data.members.val.map (·.takeKey))) noLeaderIdx)

def setupBitvmxAggregatedDisputePubkey : Program Flow Unit := do
  let ctx ← getCtx
  let data ← ctx.getCommitteeData
  let disputeKeyId := (disputeAggregatedKeyProtocolId config.libs.toLibs data.committeeUuid).value
  modifyCtx fun ctx => { ctx with aggDisputeKeyReq := some ⟨disputeKeyId, none⟩ }
  let communicationData ← ctx.getMyCommunicationData
  trySendBitvmxMsg env (.setupKey disputeKeyId communicationData
    (some (data.members.val.map (·.disputeKey))) noLeaderIdx)

def closeAggKeyReq {σ : Type} (aggKeyReq : Option (Request PublicKey)) (data : StepData) :
    Program σ (Request PublicKey) := do
  let req ← okOr aggKeyReq (.fatal "Aggregated Key request missing in context")
  let key ← data.intoPubkey
  return ⟨req.reqId, some key⟩

def requestPairwiseKeys : Program Flow Unit := do
  let ctx ← getCtx
  let data ← ctx.getCommitteeData
  let communicationData ← ctx.getMyCommunicationData
  let requests ← setupPairwiseKeys config env data communicationData
  modifyCtx fun ctx => { ctx with pairwiseKeysReq := requests }

/-- The text about a matching request prints both of its participants. -/
def answerPairwiseKeyReq {σ : Type} (reqId : Uuid) (key : PublicKey) (req : PairwiseKeyReq) :
    Program σ PairwiseKeyReq :=
  if req.aggregationId = reqId then do
    let _ ← index req.participants 0
    let _ ← index req.participants 1
    return { req with aggregatedKey := some key }
  else return req

/-- The requests with the answer, and the last one that matches. -/
def closePairwiseKeyReq {σ : Type} (reqs : List PairwiseKeyReq) (reqId : Uuid) (key : PublicKey) :
    Program σ (List PairwiseKeyReq × PairwiseKeyReq) := do
  let answered ← reqs.mapM (answerPairwiseKeyReq reqId key)
  let last ← okOr (reqs.filter fun req => req.aggregationId = reqId).getLast?
    (.fatal "No matching pairwise key request found")
  return (answered, last)

def processPairwiseKeyResponse (stepData : StepData) : Program Flow Bool := do
  let (reqId, key) ← stepData.intoPairwiseAggregatedKey
  let (answered, req) ← closePairwiseKeyReq (← getCtx).pairwiseKeysReq reqId key
  modifyCtx fun ctx => { ctx with pairwiseKeysReq := answered }
  let communicationData ← (← getCtx).getMyCommunicationData
  let partnerAddress ← okOr communicationData[req.partnerIndex]?
    (.fatal ("Partner address not found at index " ++ toString req.partnerIndex))
  modifyCtx fun ctx => { ctx with
    pairwiseKeys := ctx.pairwiseKeys.insert (config.libs.commsAddressJson partnerAddress) key }
  let data ← (← getCtx).getCommitteeData
  let result : Except String Unit ← perform env (.send (.setVar data.committeeUuid
    (getDisputePairKeyName req.myIndex req.partnerIndex) (.pubKey key))) id
  withContext "Failed to send pairwise key to BitVMX" (orText result)
  return answered.any fun req => req.aggregatedKey.isNone

/-! ## Programs of the committee -/

def setupDisputeCoreProtocol : Program Flow Unit := do
  let ctx ← getCtx
  let globalContext ← getGlobal
  let data ← ctx.getCommitteeData
  let speedup := (← ctx.getMyProtocolUtxos config.libs globalContext).speedup
  let amount ← okOr speedup.amount (.fatal "Missing speedup UTXO amount")
  let pubKey := (← ctx.getMyDisputeKey globalContext).publicKey
  let p2pAddrs ← ctx.getMyCommunicationData
  let streamId ← ctx.getStreamId
  let advanceFunds := (← ctx.getMyProtocolUtxos config.libs globalContext).advanceFunds
  let take ← ctx.getAggregatedTakeKey
  let dispute ← ctx.getAggregatedDisputeKey
  let protocolIds ← DisputeCoreSetup.setup config env data p2pAddrs ⟨take, dispute⟩
    ⟨speedup.txid, speedup.vout, amount, pubKey⟩ streamId advanceFunds
  modifyCtx fun ctx => { ctx with
    setupCoreReq := ctx.setupCoreReq ++ protocolIds.map fun id => ⟨id, data.committeeId, false⟩ }

/-- The requests after an answer, and whether one is still open. -/
def closeSetupCoreReq {σ : Type} (reqs : List SetupCoreReq) (data : StepData) :
    Program σ (List SetupCoreReq × Bool) := do
  let id ← data.intoSetupCompleted
  let closed := reqs.map fun req => if req.protocolId = id then { req with completed := true } else req
  return (closed, closed.any fun req => !req.completed)

def getMyIndex (data : CommitteeData) : Program Flow Nat :=
  okOr (data.memberIndex config.myAddress) (.fatal "My address not found in committee members")

def requestDisputeCoreVars : Program Flow Unit := do
  let data ← (← getCtx).getCommitteeData
  let myIndex ← getMyIndex config data
  let requests ← DisputeChannelSetup.requestDisputeCoreVar config env data myIndex
  modifyCtx fun ctx => { ctx with setupChannelReq := requests }

def answerDisputeCoreVariable {σ : Type} (libs : Libs) (name text : String)
    (req : DisputeChannelSetupRequest) : Program σ DisputeChannelSetupRequest :=
  if name = opCosignUtxos then do
    let utxos ← okOr (libs.parseOpCosignUtxos text)
      (.fatal "Failed to deserialize OP_COSIGN_UTXOS")
    return { req with opCosignUtxos := some utxos }
  else if name = wtInitChallengeUtxos then do
    let utxos ← okOr (libs.parseWtInitChallengeUtxos text)
      (.fatal "Failed to deserialize WT_INIT_CHALLENGE_UTXOS")
    return { req with wtInitChallengeUtxos := some utxos }
  else return req

def DisputeChannelSetupRequest.isMissing (req : DisputeChannelSetupRequest) : Bool :=
  req.opCosignUtxos.isNone || req.wtInitChallengeUtxos.isNone

/-- The first request for the program gets the variable. -/
def processDisputeCoreVariable (disputeCorePid : Uuid) (name text : String) :
    Program Flow Bool := do
  let reqs := (← getCtx).setupChannelReq
  let i := reqs.findIdx fun req => req.disputeCorePid = disputeCorePid
  let req ← okOr reqs[i]?
    (.fatal "No DisputeChannelSetupRequest found for this dispute_core_pid")
  let answered ← answerDisputeCoreVariable config.libs name text req
  modifyCtx fun ctx => { ctx with setupChannelReq := reqs.set i answered }
  return (reqs.set i answered).any DisputeChannelSetupRequest.isMissing

def completeDisputeChannelSetup : Program Flow Unit := do
  let ctx ← getCtx
  let data ← ctx.getCommitteeData
  let p2pAddrs ← ctx.getMyCommunicationData
  let myIndex ← getMyIndex config data
  let protocolIds ← DisputeChannelSetup.completeSetup config env data myIndex
    ⟨p2pAddrs, ctx.pairwiseKeys, ctx.setupChannelReq⟩
  modifyCtx fun ctx => { ctx with setupChannelSetupReq := protocolIds.map fun id => ⟨id, false⟩ }

def closeSetupChannelReq {σ : Type} (reqs : List SetupChannelReq) (data : StepData) :
    Program σ (List SetupChannelReq × Bool) := do
  let id ← data.intoSetupCompleted
  let closed := reqs.map fun req => if req.protocolId = id then { req with completed := true } else req
  return (closed, closed.any fun req => !req.completed)

def completeFullPenalizationSetup : Program Flow Unit := do
  let ctx ← getCtx
  let data ← ctx.getCommitteeData
  let p2pAddrs ← ctx.getMyCommunicationData
  let _ ← getMyIndex config data
  let protocolId ← FullPenalizationSetup.setup config env data.committeeUuid p2pAddrs
  modifyCtx fun ctx => { ctx with setupFullPenalizationReq := [⟨protocolId, false⟩] }

def depositAggregatedKey : Program Flow Unit := do
  let ctx ← getCtx
  let aggregatedTakeKey ← withContext "Deposit Aggregated Key" ctx.getAggregatedTakeKey
  let data ← ctx.getCommitteeData
  let result : Except DomainErrors Unit ←
    perform env (.depositAggregatedKey data.committeeId aggregatedTakeKey.bytes) id
  orRetriable DomainErrors.isInfoAlreadyDeposited result

/-- One member of the pending committee against the one of the ready committee. -/
def validateMember {σ : Type} (libs : Libs) :
    (CommitteeMember × CommitteeMember) × Nat → Program σ Unit
  | ((pending, ready), idx) => do
    ensure (pending.memberAddress = ready.memberAddress)
      (.fatal ("Member address mismatch at index " ++ toString idx ++ ": pending="
        ++ libs.addressToString pending.memberAddress ++ ", ready="
        ++ libs.addressToString ready.memberAddress))
    ensure (pending.role = ready.role)
      (.fatal ("Member role mismatch at index " ++ toString idx ++ ": pending="
        ++ toString pending.role ++ ", ready=" ++ toString ready.role))

def validateCommitteeReady : Program Flow Unit := do
  let ctx ← getCtx
  let event ← okOr ctx.committeeReadyReq (.fatal "Missing committee ready event")
  let data ← ctx.getCommitteeData
  ensure (data.committeeId = event.inner.committeeId)
    (.fatal ("Committee ID mismatch: pending=" ++ toString data.committeeId.toNat ++ ", ready="
      ++ toString event.inner.committeeId.toNat))
  let pendingMembers := data.committee.members.val
  let readyMembers := event.inner.committee.members.val
  ensure (pendingMembers.length = readyMembers.length)
    (.fatal ("Member count mismatch: pending=" ++ toString pendingMembers.length ++ ", ready="
      ++ toString readyMembers.length))
  (pendingMembers.zip readyMembers).zipIdx.forM (validateMember config.libs)

/-! ## Steps -/

section Steps

variable (config : Config) (env : Env)

def enterStep : Steps → Program Flow Unit
  | .init => throw (.panic "Init step should not be reached in start_step")
  | .validateBalances => do
    mapError .orTransient (validateRskBalance config env)
    let reqId ← newUuid env
    modifyCtx fun ctx => { ctx with fundingBalanceReq := some ⟨reqId, none⟩ }
    trySendBitvmxMsg env (.getFundingBalance reqId)
  | .getMyCommInfo => do
    let reqId ← newUuid env
    modifyCtx fun ctx => { ctx with commInfoReqId := some reqId }
    trySendBitvmxMsg env (.getCommInfo reqId)
  | .getMyTakeKey => unlessKeysSet "GetMyTakeKey" (requestBitvmxPubKey env setMyTakeKeyReq)
  | .signMyTakeKey => unlessKeysSet "SignMyTakeKey" do
    requestBitvmxKeySigning config env (← getCtx).myTakeKeyReq setMyTakeKeyReq
  | .getMyDisputeKey => unlessKeysSet "GetMyDisputeKey" (requestBitvmxPubKey env setMyDisputeKeyReq)
  | .signMyDisputeKey => unlessKeysSet "SignMyDisputeKey" do
    requestBitvmxKeySigning config env (← getCtx).myDisputeKeyReq setMyDisputeKeyReq
  | .getMyCommKey => unlessKeysSet "GetMyCommKey" (requestBitvmxPubKey env setMyCommKeyReq)
  | .signMyCommKey => unlessKeysSet "SignMyCommKey" do
    requestBitvmxKeySigning config env (← getCtx).myCommKeyReq setMyCommKeyReq
  | .fundMyBitVmxAccount => fundProtocol config env
  | .applyToStream => applyToStream config env
  | .depositP2PDataAuthoritativeCheckpoint => depositCommunicationData config env
  | .setupTakeAggregatedKeyAllConvergeCheckpoint => setupBitvmxAggregatedTakePubkey config env
  | .setupDisputeAggregatedKey => setupBitvmxAggregatedDisputePubkey config env
  | .setupPairwiseKeys => requestPairwiseKeys config env
  | .setupDisputeCore => setupDisputeCoreProtocol config env
  | .requestDisputeChannelVars => requestDisputeCoreVars config env
  | .disputeChannelSetup => completeDisputeChannelSetup config env
  | .fullPenalizationSetup => completeFullPenalizationSetup config env
  | .depositAggregatedKey => depositAggregatedKey env
  | .done => do
    -- the completion marker
    let w ← get
    let result : Except String Unit ← perform env (.signalDone w.own.state.flowId.value) id
    orText result
  | .failed => throw (.panic "Failed step should not be reached in start_step")

/-- The flow is at the new step before the entry action runs. -/
def startStep (nextStep : Steps) : Program Flow Unit := do
  modify fun w => w.setStep nextStep
  enterStep config env nextStep
  persistState env

/-- The first half of `complete_step`: close the request of the current step. The result is the step
to start next, or nothing while answers are missing. -/
def closeStep (data : StepData) : Steps → Program Flow (Option Steps)
  | .init => do
    let input ← data.intoUserInput
    modifyCtx fun ctx => { ctx with userInput := some input }
    ensureMemberWhitelisted config env
    return some .validateBalances
  | .validateBalances => do
    validateBitvmxBalance config data
    return some .getMyCommInfo
  | .getMyCommInfo => do
    let address ← data.intoCommsAddress
    modifyCtx fun ctx => { ctx with myCommInfo := some address, commInfoReqId := none }
    if (← getGlobal).myKeys.isSet then return some .fundMyBitVmxAccount
    else return some .getMyTakeKey
  | .getMyTakeKey => do
    setMyTakeKeyReq (← closePubKeyReq (← getCtx).myTakeKeyReq data)
    return some .signMyTakeKey
  | .signMyTakeKey => do
    setMyTakeKeyReq (← closePubKeySigningReq (← getCtx).myTakeKeyReq data)
    return some .getMyDisputeKey
  | .getMyDisputeKey => do
    setMyDisputeKeyReq (← closePubKeyReq (← getCtx).myDisputeKeyReq data)
    return some .signMyDisputeKey
  | .signMyDisputeKey => do
    setMyDisputeKeyReq (← closePubKeySigningReq (← getCtx).myDisputeKeyReq data)
    return some .getMyCommKey
  | .getMyCommKey => do
    setMyCommKeyReq (← closePubKeyReq (← getCtx).myCommKeyReq data)
    return some .signMyCommKey
  | .signMyCommKey => do
    setMyCommKeyReq (← closePubKeySigningReq (← getCtx).myCommKeyReq data)
    return some .fundMyBitVmxAccount
  | .fundMyBitVmxAccount => do
    let txid ← data.intoFundsSent
    let req ← okOr (← getCtx).sendFundsReq (.fatal "Send Funds request missing in context")
    modifyCtx fun ctx => { ctx with sendFundsReq := some ⟨req.reqId, some txid⟩ }
    return some .applyToStream
  | .applyToStream => do
    let event ← data.intoCommitteePending
    let committeeId := event.inner.committeeId
    if ← imSelectedToNewCommittee config event committeeId then do
      updateMyCommittees event committeeId
      buildCommitteeData config env
      return some .depositP2PDataAuthoritativeCheckpoint
    else return some .done
  | .depositP2PDataAuthoritativeCheckpoint => do
    let _ ← data.intoAllCommDataReady
    let communicationData ← buildMyCommunicationData config env
    modifyCtx fun ctx => { ctx with communicationDataReadyEv := some communicationData }
    return some .setupTakeAggregatedKeyAllConvergeCheckpoint
  | .setupTakeAggregatedKeyAllConvergeCheckpoint => do
    let req ← closeAggKeyReq (← getCtx).aggTakeKeyReq data
    modifyCtx fun ctx => { ctx with aggTakeKeyReq := some req }
    return some .setupDisputeAggregatedKey
  | .setupDisputeAggregatedKey => do
    let req ← closeAggKeyReq (← getCtx).aggDisputeKeyReq data
    modifyCtx fun ctx => { ctx with aggDisputeKeyReq := some req }
    return some .setupPairwiseKeys
  | .setupPairwiseKeys => do
    let missingResponses ← processPairwiseKeyResponse config env data
    return if missingResponses then none else some .setupDisputeCore
  | .setupDisputeCore => do
    let (reqs, missingResponses) ← closeSetupCoreReq (← getCtx).setupCoreReq data
    modifyCtx fun ctx => { ctx with setupCoreReq := reqs }
    return if missingResponses then none else some .requestDisputeChannelVars
  | .requestDisputeChannelVars => do
    let (disputeCorePid, name, text) ← data.intoDisputeCoreVariable
    let missingResponses ← processDisputeCoreVariable config disputeCorePid name text
    return if missingResponses then none else some .disputeChannelSetup
  | .disputeChannelSetup => do
    let (reqs, missingResponses) ← closeSetupChannelReq (← getCtx).setupChannelSetupReq data
    modifyCtx fun ctx => { ctx with setupChannelSetupReq := reqs }
    return if missingResponses then none else some .fullPenalizationSetup
  | .fullPenalizationSetup => do
    let (reqs, missingResponses) ← closeSetupChannelReq (← getCtx).setupFullPenalizationReq data
    modifyCtx fun ctx => { ctx with setupFullPenalizationReq := reqs }
    return if missingResponses then none else some .depositAggregatedKey
  | .depositAggregatedKey => do
    let event ← data.intoCommitteeReady
    modifyCtx fun ctx => { ctx with committeeReadyReq := some event }
    validateCommitteeReady config
    return some .done
  | .done => throw (.panic "Done step should not be reached in complete_step")
  | .failed => throw (.panic "Failed step should not be reached in complete_step")

def completeStep (data : StepData) : Program Flow Unit := do
  let w ← get
  match ← closeStep config env data w.own.state.step with
  | none => pure ()
  | some nextStep => startStep config env nextStep

end Steps

end UnionBridge.CommitteeSetup
