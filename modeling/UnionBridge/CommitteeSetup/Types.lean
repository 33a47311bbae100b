import UnionBridge.Bitvmx.IdDerivation
import UnionBridge.Contracts.Gateway
import UnionBridge.Lib.Table
import Mathlib.Data.BitVec

/-!
# Data, messages and calls of committee setup (`coordinator/src/flows/committee`)

A member applies to a stream, and the members that the contracts select set up the programs of their
committee with `BitVMX`. As for the other flows, everything that is asked of the outside is a `Call`
whose answer is arbitrary, and a program keeps the log of its calls, the latest one first.

An error of a flow is fatal or transient. Fatal is the default: an error without a kind of its own
becomes a fatal one with the text of its outermost context.
-/

namespace UnionBridge.CommitteeSetup

open Contracts Bitvmx Effect

/-! ## Committees -/

/-- `OutputType::SegwitPublicKey`, the only kind that is used here. -/
structure OutputType where
  value : UInt64
  scriptPubkey : Bytes
  publicKey : PublicKey
deriving DecidableEq

structure PartialUtxo where
  txid : Txid
  vout : UInt32
  amount : Option UInt64
  outputType : Option OutputType
deriving DecidableEq

/-- A spendable output with its key. -/
structure Utxo where
  txid : Txid
  vout : UInt32
  amount : UInt64
  pubKey : PublicKey
deriving DecidableEq

/-- An output as the contracts keep it. -/
structure ContractUtxo where
  txid : U256
  outputIndex : UInt32
  amount : UInt64
deriving DecidableEq

structure WtInitChallengeUtxos where
  wtStopper : PartialUtxo
  opStopper : PartialUtxo
deriving DecidableEq

structure SignedPublicKey where
  publicKey : PublicKey
  signatureR : U256
  signatureS : U256
  recoveryId : UInt8
deriving DecidableEq

structure Committee where
  members : RVec CommitteeMember
  streamId : UInt64
  fundingUTXOs : List ContractUtxo
deriving DecidableEq

/-- The payload of `NewPendingCommittee` and of `NewCommittee`. -/
structure NewCommittee where
  committeeId : CommitteeId
  committee : Committee
deriving DecidableEq

structure AllCommunicationDataReady where
  committeeId : CommitteeId
deriving DecidableEq

structure MemberOfCommittee where
  address : Address
  role : ParticipantRole
  takeKey : PublicKey
  disputeKey : PublicKey
  fundingUtxo : PartialUtxo
  committeeIdx : Nat
deriving DecidableEq

structure CommitteeData where
  committeeId : CommitteeId
  committee : Committee
  members : RVec MemberOfCommittee
deriving DecidableEq

/-- A pending setup of the dispute channels of a member. -/
structure DisputeChannelSetupRequest where
  disputeCorePid : Uuid
  memberIndex : Nat
  opCosignUtxos : Option (List (Option PartialUtxo))
  wtInitChallengeUtxos : Option (List (Option WtInitChallengeUtxos))
deriving DecidableEq

structure ApplyToStream where
  streamId : UInt64
  role : ParticipantRole
  fundingUtxo : UInt64
  speedUpUtxo : UInt64
  advanceFunds : UInt64
deriving DecidableEq

/-! ## Messages to `BitVMX` -/

structure MemberData where
  role : ParticipantRole
  takeKey : PublicKey
  disputeKey : PublicKey
deriving DecidableEq

/-- The committee as `BitVMX` gets it. -/
structure BitvmxCommittee where
  members : List MemberData
  takeAggregatedKey : PublicKey
  disputeAggregatedKey : PublicKey
  packetSize : UInt32
  streamDenomination : UInt64
  peginConfirmations : UInt32
  pegoutConfirmations : UInt32
  rejectPeginConfirmations : UInt32
deriving DecidableEq

structure DisputeCoreData where
  committeeId : Uuid
  memberIndex : Nat
  fundingUtxo : PartialUtxo
deriving DecidableEq

structure DisputeConfiguration where
  id : Uuid
  operatorsAggregatedPub : PublicKey
  protocolConnection : PartialUtxo × Nat
  proverActions : List (PartialUtxo × List Nat)
  verifierActions : List (PartialUtxo × List Nat)
  timelockBlocks : UInt16
  programDefinition : String
  notifyProtocol : List (String × Uuid)
  autoDispatchInput : Option UInt8
deriving DecidableEq

/-- `VariableTypes`; a JSON text is kept as the value that was serialised. -/
inductive VariableTypes where
  | utxo (utxo : PartialUtxo)
  | pubKey (key : PublicKey)
  | input (data : Bytes)
  | committee (committee : BitvmxCommittee)
  | disputeCoreData (data : DisputeCoreData)
  | disputeConfiguration (configuration : DisputeConfiguration)
  | fullPenalizationData (committeeId : Uuid)
deriving DecidableEq

/-- `Destination::P2WPKH`. -/
structure Destination where
  publicKey : PublicKey
  amount : UInt64
deriving DecidableEq

inductive IncomingBitVMXApiMessages where
  | getFundingBalance (reqId : Uuid)
  | getCommInfo (reqId : Uuid)
  | getEvenPubKey (reqId : Uuid)
  | signMessage (reqId : Uuid) (hash : Bytes) (publicKey : PublicKey)
  | sendFunds (reqId : Uuid) (batch : List Destination) (feeRate : Option UInt64)
  | setupKey (id : Uuid) (participants : List CommsAddress) (keys : Option (List PublicKey))
      (leader : UInt16)
  | setVar (id : Uuid) (name : String) (value : VariableTypes)
  | getVar (id : Uuid) (name : String)
  | setFundingUtxo (utxo : Utxo)
  | setup (id : Uuid) (programType : String) (participants : List CommsAddress) (leader : UInt16)
deriving DecidableEq

def opCosignUtxos : String := "OP_COSIGN_UTXOS"
def wtInitChallengeUtxos : String := "WT_INIT_CHALLENGE_UTXOS"
def advanceFundsInput : String := "ADVANCE_FUNDS_INPUT"
def programTypeDrp : String := "drp"
def programTypeDisputeCore : String := "dispute_core"
def programTypeFullPenalization : String := "full_penalization"
def BitvmxCommittee.name : String := "committee"
def DisputeCoreData.name : String := "dispute_core_data"
def DisputeConfiguration.name : String := "dispute_configuration"
def fullPenalizationDataName : String := "full_penalization_data"

def noLeaderIdx : UInt16 := 0

/-! ## Calls -/

/-- The errors of the contracts that committee setup tells apart, and the rest with their text. -/
inductive DomainErrors where
  | memberAlreadyRegisteredForStream (message : String)
  | memberAlreadyDepositedCommunicationData (message : String)
  | memberInfoAlreadyDeposited (message : String)
  | noRevertError (message : String)
  | other (message : String)
deriving DecidableEq

def DomainErrors.text : DomainErrors → String
  | memberAlreadyRegisteredForStream message => "Member already registered for stream: " ++ message
  | memberAlreadyDepositedCommunicationData message =>
    "Member already deposited communication data: " ++ message
  | memberInfoAlreadyDeposited message => "Member info already deposited: " ++ message
  | noRevertError message => message
  | other message => message

/-- A public key with its signature, as the contracts take it. -/
structure CommitteeECDSA where
  x : String
  y : String
  r : String
  s : String
  v : UInt8
deriving DecidableEq

structure ApplyToStreamInput where
  streamId : UInt64
  role : UInt8
  takeKey : CommitteeECDSA
  disputeKey : CommitteeECDSA
  pubkeyHash : String
  fundingUtxo : ContractUtxo
deriving DecidableEq

inductive Call where
  /-- `Uuid::new_v4`. -/
  | newUuid
  | isWhitelisted
  | getBalance
  | getMinimumDeposit (streamId role : UInt8)
  | applyToStream (input : ApplyToStreamInput)
  | depositCommunicationData (committeeId : CommitteeId) (data : List CommunicationData)
  | depositAggregatedKey (committeeId : CommitteeId) (key : Bytes)
  | getMemberPublicKeys (memberAddress : Address)
  | getCommitteeCommunicationData (committeeId : CommitteeId) (memberAddress : Address)
  | send (message : IncomingBitVMXApiMessages)
  | saveFlow (id : Uuid)
  | deleteFlow (id : Uuid)
  | signalDone (id : Uuid)
deriving DecidableEq

@[reducible] def Call.Answer : Call → Type
  | .newUuid => Uuid
  | .isWhitelisted => Except DomainErrors Bool
  | .getBalance => Except DomainErrors U256
  | .getMinimumDeposit _ _ => Except DomainErrors U256
  | .applyToStream _ => Except DomainErrors Unit
  | .depositCommunicationData _ _ => Except DomainErrors Unit
  | .depositAggregatedKey _ _ => Except DomainErrors Unit
  | .getMemberPublicKeys _ => Except DomainErrors (List String)
  | .getCommitteeCommunicationData _ _ => Except DomainErrors (List CommunicationData)
  | .send _ => Except String Unit
  | .saveFlow _ => Except String Unit
  | .deleteFlow _ => Except String Unit
  | .signalDone _ => Except String Unit

abbrev LogEntry := (c : Call) × c.Answer

/-- The calls so far, the latest one first. -/
abbrev Log := List LogEntry

/-- The environment in which one call of the processor runs. -/
structure Env where
  answer : Log → (c : Call) → c.Answer

def LogEntry.message? (entry : LogEntry) : Option IncomingBitVMXApiMessages :=
  match entry.1 with
  | .send message => some message
  | _ => none

/-- The messages of a log, in the order in which they were sent. -/
def sent (log : Log) : List IncomingBitVMXApiMessages := (log.filterMap LogEntry.message?).reverse

def Env.Delivers (env : Env) : Prop := ∀ log message, env.answer log (.send message) = .ok ()

/-! ## Errors and programs -/

/-- The error of a flow, or a panic, which nothing catches. -/
inductive FlowError where
  | fatal (message : String)
  | transient (message : String)
  | panic (message : String)
deriving DecidableEq

namespace FlowError

/-- `.context(..)`: the kind of an error is found again under its context. -/
def context (text : String) : FlowError → FlowError
  | fatal _ => fatal text
  | transient message => transient message
  | panic message => panic message

def orTransient : FlowError → FlowError
  | fatal message => transient message
  | transient message => transient ("Transient error: " ++ message)
  | panic message => panic message

/-- What `continue_flow` can match on. -/
def isCaught : FlowError → Bool
  | panic _ => false
  | _ => true

end FlowError

/-- The state of a program and the calls it has made. -/
structure World (σ : Type) where
  own : σ
  log : Log

abbrev Program (σ : Type) := EStateM FlowError (World σ)

section Programs

variable {σ α : Type}

/-- Make a call. The type of an answer depends on its call; `read` gives it a plain type. -/
def perform (env : Env) (c : Call) (read : c.Answer → α) : Program σ α :=
  modifyGet fun w =>
    let answer := env.answer w.log c
    (read answer, { w with log := ⟨c, answer⟩ :: w.log })

variable {E : FlowError → World σ → Prop} {Q : α → World σ → Prop} {w : World σ}

@[simp] theorem wp_perform {env : Env} {c : Call} {read : c.Answer → α} :
    wp (perform env c read) Q E w
      ↔ Q (read (env.answer w.log c)) { w with log := ⟨c, env.answer w.log c⟩ :: w.log } :=
  wp_modifyGet _

/-- `result?` for an error of a contract. -/
def orDomain (result : Except DomainErrors α) : Program σ α :=
  match result with
  | .ok a => pure a
  | .error e => throw (.fatal e.text)

/-- `result?` for any other error. -/
def orText (result : Except String α) : Program σ α :=
  match result with
  | .ok a => pure a
  | .error e => throw (.fatal e)

theorem wp_orText {result : Except String α} : wp (orText result) Q E w
      ↔ (∀ a, result = .ok a → Q a w) ∧ ∀ e, result = .error e → E (.fatal e) w := by
  cases result with
  | ok a => simp [orText]
  | error e => simp [orText]

def mapError (f : FlowError → FlowError) (m : Program σ α) : Program σ α := fun w =>
  match m w with
  | .ok a w' => .ok a w'
  | .error e w' => .error (f e) w'

@[simp] theorem wp_mapError {f : FlowError → FlowError} {m : Program σ α} :
    wp (mapError f m) Q E w ↔ wp m Q (fun e w => E (f e) w) w := by
  unfold wp mapError
  cases m w with
  | ok a w' => exact Iff.rfl
  | error e w' => exact Iff.rfl

/-- `m.context(text)?`. -/
def withContext (text : String) (m : Program σ α) : Program σ α := mapError (.context text) m

/-- The `send_bitvmx_msg` of `common.rs`: a failure is an error. -/
def sendBitvmxMsg (env : Env) (message : IncomingBitVMXApiMessages) : Program σ Unit := do
  let result : Except String Unit ← perform env (.send message) id
  withContext "Failed to send message to BitVMX broker" (orText result)

/-- The `send_bitvmx_msg` of the flow: a failure is only logged. -/
def trySendBitvmxMsg (env : Env) (message : IncomingBitVMXApiMessages) : Program σ Unit := do
  let _ : Except String Unit ← perform env (.send message) id

/-- `xs[i]`. -/
def index (xs : List α) (i : Nat) : Program σ α :=
  okOr (xs[i]?) (.panic "index out of bounds")

end Programs

/-! ## Ids of a committee -/

/-- The functions of other crates that committee setup calls, besides those of the other flows. -/
structure Libs extends Bitvmx.Libs where
  /-- `PublicKey::wpubkey_hash`; only a compressed key has one. -/
  wpubkeyHash : PublicKey → Option Bytes
  serializeUncompressed : PublicKey → Bytes
  /-- `serde_json::to_string` of an address. -/
  commsAddressJson : CommsAddress → String
  parseOpCosignUtxos : String → Option (List (Option PartialUtxo))
  parseWtInitChallengeUtxos : String → Option (List (Option WtInitChallengeUtxos))
  /-- The bytes of a multiaddress. -/
  multiaddrToBytes : String → Option Bytes
  ipToString : IpAddr → String

namespace CommitteeData

def committeeUuid (data : CommitteeData) : Uuid := data.committeeId

def getDisputeCorePidForKey (libs : Libs) (data : CommitteeData) (pubkey : PublicKey) :
    BitVmxProtocolId :=
  disputeCoreProtocolId libs.toLibs data.committeeUuid pubkey

def memberIndex (data : CommitteeData) (address : Address) : Option Nat :=
  data.members.val.findIdx? fun member => member.address = address

end CommitteeData

def sampleUtxo : PartialUtxo := ⟨⟨7⟩, 0, some 1000, none⟩

/-- One choice of these functions, for runs on fixed inputs with committees of two. -/
def Libs.sample : Libs where
  toLibs := Bitvmx.Libs.sample
  wpubkeyHash key := some (key.bytes.take 20)
  serializeUncompressed key := 4 :: toBE 64 (beNat key.bytes)
  commsAddressJson address := address.pubkeyHash
  parseOpCosignUtxos _ := some [some sampleUtxo, some sampleUtxo]
  parseWtInitChallengeUtxos _ := some [some ⟨sampleUtxo, sampleUtxo⟩, some ⟨sampleUtxo, sampleUtxo⟩]
  multiaddrToBytes text := some text.toUTF8.toList
  ipToString _ := "127.0.0.1"

/-- What a node is configured with. The sizes come from the environment, if they can be read. -/
structure Config where
  libs : Libs
  myAddress : Address
  /-- The Bitcoin network is the regression test network. -/
  isRegtest : Bool
  drpProgramDefinition : String
  btcConfirmations : UInt32
  requiredConfirmations : Nat
  committeeMemberCount : Except String UInt64
  proverCount : Except String UInt64
  slotsPerPackage : Except String UInt64

def Config.sample (myAddress : Address) : Config where
  libs := Libs.sample
  myAddress
  isRegtest := true
  drpProgramDefinition := "drp"
  btcConfirmations := 1
  requiredConfirmations := 0
  committeeMemberCount := .ok 4
  proverCount := .ok 2
  slotsPerPackage := .ok 100

/-- A successful answer to each call, with keys that depend on nothing. -/
def Call.accepted : (c : Call) → c.Answer
  | .newUuid => (0 : Uuid)
  | .isWhitelisted => .ok true
  | .getBalance => .ok (10 ^ 20)
  | .getMinimumDeposit _ _ => .ok 0
  | .getMemberPublicKeys _ => .ok (List.replicate 3 (Hex.encode (toBE 32 1)))
  | .getCommitteeCommunicationData _ _ => .ok (List.replicate 2 ⟨List.Vector.replicate 8 0⟩)
  | .applyToStream _ | .depositCommunicationData _ _ | .depositAggregatedKey _ _ => .ok ()
  | .send _ | .saveFlow _ | .deleteFlow _ | .signalDone _ => .ok ()

/-- An environment that accepts every call and draws its ids from `seed` on. -/
def Env.accepting (seed : Nat) : Env where
  answer log
    | .newUuid => BitVec.ofNat 128 (seed + log.length)
    | c => c.accepted

end UnionBridge.CommitteeSetup
