import Mathlib.Data.Vector.Basic
import UnionBridge.Contracts.Events
import UnionBridge.Lib.Hex

/-!
# Messages to and from `BitVMX` (`common/bitvmx/src/bitvmx_types.rs`)

The messages that the three flows exchange with `BitVMX`, with the values they carry. A variable
that the coordinator sets is JSON text; the model keeps the value that was serialised.

The functions of other crates are a parameter (`Libs`).
-/

namespace UnionBridge.Bitvmx

open Contracts

structure FlowId where
  value : Uuid
deriving DecidableEq

structure BitVmxProtocolId where
  value : Uuid
deriving DecidableEq

structure PublicKey where
  bytes : Bytes
deriving DecidableEq

structure PubNonce where
  bytes : Bytes
deriving DecidableEq

structure PartialSignature where
  bytes : Bytes
deriving DecidableEq

inductive IpAddr where
  | v4 (addr : BitVec 32)
  | v6 (addr : BitVec 128)
deriving DecidableEq

structure SocketAddr where
  ip : IpAddr
  port : UInt16
deriving DecidableEq

structure CommsAddress where
  address : SocketAddr
  pubkeyHash : String
deriving DecidableEq

/-! ## Bitcoin -/

structure TxIn where
  previousTxid : Txid
  previousVout : UInt32
  sequence : UInt32
  scriptSig : Bytes
deriving DecidableEq

structure TxOut where
  value : UInt64
  scriptPubkey : Bytes
deriving DecidableEq

structure Transaction where
  version : UInt32
  lockTime : UInt32
  input : List TxIn
  output : List TxOut
deriving DecidableEq

structure BtcTxSPVProof where
  blockHash : String
  tx : Transaction
  merkleBranchPath : String
  merkleBranchHashes : RVec H256
deriving DecidableEq

structure TransactionStatus where
  txId : Txid
  confirmations : UInt32
deriving DecidableEq

/-- One part of a multiaddress. -/
inductive Protocol where
  | ip4 (addr : BitVec 32)
  | ip6 (addr : BitVec 128)
  | tcp (port : UInt16)
  | udp (port : UInt16)
  | other
deriving DecidableEq

/-! ## Messages -/

structure PeginAcceptedMessage where
  committeeId : Uuid
  acceptPeginTxid : Txid
  acceptPeginSighash : Bytes
  acceptPeginNonce : PubNonce
  acceptPeginSignature : PartialSignature
deriving DecidableEq

structure PegOutAccepted where
  committeeId : Uuid
  userTakeTxid : Txid
  userTakeSighash : Bytes
  userTakeNonce : PubNonce
  userTakeSignature : PartialSignature
deriving DecidableEq

structure FundsAdvanceSPV where
  txid : Txid
  committeeId : Uuid
  slotIndex : Nat
  pegoutId : Bytes
  spvProof : BtcTxSPVProof
deriving DecidableEq

inductive UnionTxType where
  | reimbursementKickoff | operatorTake | operatorWon | challenge | revealInput
deriving DecidableEq

structure UnionSPVNotification where
  txid : Txid
  committeeId : Uuid
  slotIndex : Nat
  spvProof : Option BtcTxSPVProof
  txType : UnionTxType
deriving DecidableEq

structure PeginRequestMessage where
  txid : Txid
  amount : UInt64
  acceptPeginSighash : Bytes
  takeAggregatedKey : PublicKey
  operatorIndexes : List Nat
  slotIndex : UInt64
  committeeId : Uuid
  rootstockAddress : String
  reimbursementPubkey : PublicKey
deriving DecidableEq

structure PegOutRequest where
  committeeId : Uuid
  slotIndex : Nat
  amount : UInt64
  pegoutId : Bytes
  userPubkey : PublicKey
  pegoutSighash : Bytes
  takeAggregatedKey : PublicKey
deriving DecidableEq

structure AdvanceFundsRequest where
  committeeId : Uuid
  slotIndex : Nat
  pegoutId : Bytes
  fee : UInt64
  userPubkey : PublicKey
  myTakePubkey : PublicKey
deriving DecidableEq

/-- What the coordinator sends about registered advance funds. -/
structure AdvanceFundsRegisteredMessage where
  committeeId : Uuid
  slotIndex : Nat
  txid : Txid
  pegoutId : Bytes
  operatorPubkey : PublicKey
deriving DecidableEq

/-- The value behind the JSON text of a variable. -/
inductive VariableValue where
  | peginRequest (message : PeginRequestMessage)
  | peginAccepted (event : PeginAccepted)
  | pegOutRequest (message : PegOutRequest)
  | pegoutRegistered (event : PegoutRegistered)
  | advanceFundsRequest (message : AdvanceFundsRequest)
  | advanceFundsRegistered (message : AdvanceFundsRegisteredMessage)
deriving DecidableEq

inductive IncomingBitVMXApiMessages where
  | setVar (id : Uuid) (name : String) (value : VariableValue)
  | getVar (id : Uuid) (name : String)
  | getCommInfo (reqId : Uuid)
  | getTransaction (id : Uuid) (txid : Txid)
  | getTransactionInfoByName (id : Uuid) (name : String)
  | setup (id : Uuid) (programType : String) (participants : List CommsAddress) (leader : UInt16)
  | getSPVProof (txid : Txid)
  | dispatchTransactionName (id : Uuid) (name : String)
deriving DecidableEq

/-- `VariableTypes`: only the text of a string variable is read. -/
inductive VariableTypes where
  | string (data : String)
  | other
deriving DecidableEq

inductive OutgoingBitVMXApiMessages where
  | transaction (id : Uuid) (txStatus : TransactionStatus)
  | peginTransactionFound (txId : Txid)
  | setupCompleted (programId : Uuid)
  | transactionInfo (id : Uuid) (txName : String) (transaction : Transaction)
  | commInfo (reqId : Uuid) (commInfo : CommsAddress)
  | variable (id : Uuid) (name : String) (value : VariableTypes)
  | spvProof (txId : Txid) (proof : Option BtcTxSPVProof)
  | other
deriving DecidableEq

def PegOutRequest.name : String := "pegout_request"
def FundsAdvanceSPV.name : String := "funds_advance_spv"
def UnionSPVNotification.name : String := "union_spv_notification"

def AdvanceFundsRegisteredMessage.name (slotIndex : Nat) : String :=
  "ADVANCED_FUNDS_" ++ toString slotIndex

def acceptPeginTx : String := "ACCEPT_PEGIN_TX"
def operatorTakeTx : String := "OPERATOR_TAKE_TX"
def operatorWonTx : String := "OPERATOR_WON_TX"

inductive ParticipantRole where
  | prover | verifier
deriving DecidableEq

namespace ParticipantRole

def toU8 : ParticipantRole → UInt8
  | prover => 1
  | verifier => 2

def tryFrom (role : UInt8) : Option ParticipantRole :=
  if role = 1 then some prover else if role = 2 then some verifier else none

end ParticipantRole

/-- The functions of other crates that the flows call. -/
structure Libs where
  sha256 : Digest
  computeTxid : Transaction → Txid
  /-- `bitcoin::PublicKey::from_slice`. -/
  publicKeyFromSlice : Bytes → Option PublicKey
  /-- `XOnlyPublicKey::from_slice` and the even key of it. -/
  evenKeyFromXOnly : Bytes → Option PublicKey
  /-- `to_checksum` of an address, with its leading `0x`. -/
  addressToChecksum : Address → String
  addressToString : Address → String
  parseH256 : String → Option U256
  parseU256 : String → Option U256
  socketAddrToString : SocketAddr → String
  parseSocketAddr : String → Option SocketAddr
  /-- The text of the multiaddress that the bytes encode. -/
  multiaddrFromBytes : Bytes → Option String
  parseMultiaddr : String → Option (List Protocol)
  parsePeginAcceptedMessage : String → Option PeginAcceptedMessage
  parsePegOutAccepted : String → Option PegOutAccepted
  parseFundsAdvanceSPV : String → Option FundsAdvanceSPV
  parseUnionSPVNotification : String → Option UnionSPVNotification

/-- One choice of these functions, for runs on fixed inputs. -/
def Libs.sample : Libs where
  sha256 bytes :=
    ⟨toBE 32 (bytes.foldl (fun acc b => (acc * (2 ^ 128 + 257) + b.toNat + 1) % 2 ^ 256) 0),
      length_toBE _ _⟩
  computeTxid tx := ⟨BitVec.ofNat 256 tx.lockTime.toNat⟩
  publicKeyFromSlice bytes := if bytes.length = 33 then some ⟨bytes⟩ else none
  evenKeyFromXOnly bytes := if bytes.length = 32 then some ⟨2 :: bytes⟩ else none
  addressToChecksum address := "0x" ++ Hex.encode (toBE 20 address.toNat)
  addressToString address := "0x" ++ Hex.encode (toBE 20 address.toNat)
  parseH256 text := (Hex.decode text).bind fun bytes =>
    if bytes.length = 32 then some (U256.fromBigEndian bytes) else none
  parseU256 text := (Hex.decode text).bind fun bytes =>
    if bytes.length ≤ 32 then some (U256.fromBigEndian bytes) else none
  socketAddrToString _ := "127.0.0.1:8080"
  parseSocketAddr text := if text = "127.0.0.1:8080" then some ⟨.v4 0x7f000001, 8080⟩ else none
  multiaddrFromBytes _ := some "/ip4/127.0.0.1/tcp/8080"
  parseMultiaddr text :=
    if text = "/ip4/127.0.0.1/tcp/8080" then some [.ip4 0x7f000001, .tcp 8080] else none
  parsePeginAcceptedMessage text := (Hex.decode text).map fun bytes =>
    ⟨0, ⟨U256.fromBigEndian bytes⟩, [], ⟨[]⟩, ⟨[]⟩⟩
  parsePegOutAccepted text := (Hex.decode text).map fun bytes =>
    ⟨0, ⟨U256.fromBigEndian bytes⟩, [], ⟨[]⟩, ⟨[]⟩⟩
  parseFundsAdvanceSPV _ := none
  parseUnionSPVNotification _ := none

/-! ## Ids -/

def Uuid.toBytes (id : Uuid) : Bytes := toBE 16 id.toNat

def Uuid.fromBytes (bytes : Bytes) : Uuid := BitVec.ofNat 128 (beNat bytes)

/-- Flow ids are derived from a transaction and a salt for each kind of flow. -/
def FlowId.fromTx (libs : Libs) (salt : String) (txIdOrHash : Bytes) : FlowId :=
  ⟨Uuid.fromBytes ((libs.sha256 (txIdOrHash ++ salt.toUTF8.toList)).val.take 16)⟩

def deriveProtocolId (libs : Libs) (committeeId : Uuid) (slotIndex : UInt64) (salt : String) :
    BitVmxProtocolId :=
  let preimage := Uuid.toBytes committeeId ++ toBE 8 slotIndex.toNat ++ salt.toUTF8.toList
  ⟨Uuid.fromBytes ((libs.sha256 preimage).val.take 16)⟩

def acceptPeginProtocolId (libs : Libs) (committeeId : Uuid) (slotIndex : UInt64) :
    BitVmxProtocolId :=
  deriveProtocolId libs committeeId slotIndex "accept_pegin"

def userTakeProtocolId (libs : Libs) (committeeId : Uuid) (slotIndex : UInt64) :
    BitVmxProtocolId :=
  deriveProtocolId libs committeeId slotIndex "user_take"

def advanceFundsProtocolId (libs : Libs) (committeeId : Uuid) (slotIndex : UInt64) :
    BitVmxProtocolId :=
  deriveProtocolId libs committeeId slotIndex "advance_funds"

/-! ## Addresses of the committee -/

/-- What a member has deposited for the others: eight words. -/
structure CommunicationData where
  data : List.Vector U256 8
deriving DecidableEq

/-- The stored bytes: a length of two bytes, the payload, and padding. -/
def fbArrayToBytes (data : List.Vector U256 8) : Except String Bytes :=
  let buf := data.toList.flatMap U256.toBigEndian
  let len := beNat (buf.take 2)
  if len > buf.length - 2 then .error "invalid stored length" else .ok ((buf.drop 2).take len)

namespace P2PAddressParser

/-- No bytes mean that nothing was deposited yet. -/
def addrFromContracts (libs : Libs) (commData : CommunicationData) : Except String String := do
  let bytes ← fbArrayToBytes commData.data
  if bytes.isEmpty then pure ""
  else match libs.multiaddrFromBytes bytes with
    | some text => pure text
    | none => throw "invalid multiaddr"

-- The last address and the last port count.
def lastIp (protocols : List Protocol) : Option IpAddr :=
  protocols.foldl (fun ip protocol => match protocol with
    | .ip4 addr => some (.v4 addr)
    | .ip6 addr => some (.v6 addr)
    | _ => ip) none

def lastPort (protocols : List Protocol) : Option UInt16 :=
  protocols.foldl (fun port protocol => match protocol with
    | .tcp p => some p
    | .udp p => some p
    | _ => port) none

def multiaddrToSocketAddr (libs : Libs) (multiaddr : String) : Except String SocketAddr :=
  match libs.parseMultiaddr multiaddr with
  | none => .error "Failed to parse multiaddr"
  | some protocols =>
    match lastIp protocols, lastPort protocols with
    | none, _ => .error "No IP address found in multiaddr"
    | some _, none => .error "No port found in multiaddr"
    | some ip, some port => .ok ⟨ip, port⟩

def socketAddrFromContracts (libs : Libs) (commData : CommunicationData) :
    Except String (Option SocketAddr) := do
  let multiaddr ← addrFromContracts libs commData
  if multiaddr.isEmpty then pure none
  else some <$> multiaddrToSocketAddr libs multiaddr

end P2PAddressParser

/-- The contracts keep no address for the member itself, so its own one stands in. -/
def buildCommunicationData (libs : Libs) (myP2pAddress : String) (committeeAddresses : List String)
    (committeePubkeyHashes : List String) : Except String (List CommsAddress) :=
  if committeeAddresses.length ≠ committeePubkeyHashes.length then
    .error "Inconsistent committee size"
  else
    (committeeAddresses.zip committeePubkeyHashes).mapM fun (address, pubkeyHash) =>
      match libs.parseSocketAddr (if address.isEmpty then myP2pAddress else address) with
      | some socketAddr => .ok ⟨socketAddr, pubkeyHash⟩
      | none => .error "Invalid address"

def indexedName (txName : String) (index : Nat) : String := txName ++ "_" ++ toString index

end UnionBridge.Bitvmx
