import UnionBridge.Common.Block

/-!
# The events of the bridge contracts (`coordinator/src/types.rs`)

The decoded logs with the fields that the flows read. An event carries its place in the chain; it
does not carry the index of its log.
-/

namespace UnionBridge.Contracts

open Chain

abbrev Uuid := BitVec 128

/-- The contracts use 128-bit committee ids. -/
abbrev CommitteeId := BitVec 128

/-- `CommitteeId::try_from`: some events carry the id as a 256-bit word. -/
def CommitteeId.tryFrom (value : U256) : Option CommitteeId :=
  if value.toNat < 2 ^ 128 then some (BitVec.ofNat 128 value.toNat) else none

abbrev Address := BitVec 160

abbrev TxHash := U256

/-- A Bitcoin transaction id, in the byte order in which Bitcoin hashes. -/
structure Txid where
  value : U256
deriving DecidableEq

namespace TxIdParser

-- Irreducible: the unifier would otherwise reverse the bytes of an unknown word.
@[irreducible] def reverseBytes (value : U256) : U256 := U256.fromBigEndian value.toBigEndian.reverse

/-- The contracts use the byte order in which ids are displayed. -/
def fb32ToTxid (txId : U256) : Txid := ⟨reverseBytes txId⟩

def txidToFb32 (txid : Txid) : U256 := reverseBytes txid.value

end TxIdParser

structure EventWithBlock (π : Type) where
  inner : π
  blockNumber : Nat
  blockHash : BlockHash
  removed : Bool
  txHash : TxHash
deriving DecidableEq

structure StreamPosition where
  streamId : UInt64
  packetNumber : UInt64
  slotId : UInt64
deriving DecidableEq

structure RequestPeginInfo where
  rskDestinationAddress : Address
  btcReimbursementPubKey : U256
deriving DecidableEq

structure PeginRequested where
  committeeId : CommitteeId
  requestPeginTxid : U256
  acceptPeginTxid : U256
  streamPosition : StreamPosition
  requestPeginInfo : RequestPeginInfo
  acceptPeginSignatureMessage : U256
deriving DecidableEq

structure PeginAccepted where
  acceptPeginTxid : U256
  requestPeginTxid : U256
  streamPosition : StreamPosition
  rskDestinationAddress : Address
  rbtcAmount : U256
deriving DecidableEq

structure AllOperatorTakeTxidsAdded where
  acceptPeginTxid : U256
deriving DecidableEq

structure BitcoinSignatureData where
  txid : U256
  signatureHash : U256
deriving DecidableEq

structure PegoutRequested where
  userPubKey : Bytes
  committeeId : U256
  pegoutSignatureData : BitcoinSignatureData
  streamId : UInt64
  packetNumber : UInt64
  slotId : UInt64
  amount : UInt64
deriving DecidableEq

structure PegoutRegistered where
  txid : U256
  acceptPeginTxid : U256
  committeeId : CommitteeId
  streamInfo : StreamPosition
deriving DecidableEq

structure PegoutInfo where
  pegoutId : U256
  committeeId : CommitteeId
  userPubKey : Bytes
  takeOperatorAddress : Address
  operatorTakePubKey : Bytes
deriving DecidableEq

structure OperatorTakeTriggered where
  pegoutTxid : U256
  pegoutInfo : PegoutInfo
  streamPosition : StreamPosition
deriving DecidableEq

structure AdvanceFundsRegistered where
  committeeId : CommitteeId
  streamInfo : StreamPosition
  txid : U256
  pegoutId : U256
  operatorTakePubKey : Bytes
deriving DecidableEq

structure ReimbursementKickoffRegistered where
  pegoutId : U256
deriving DecidableEq

/-- The events of the committee setup are `otherEvent` here. -/
inductive RskPegManagerEvents where
  | peginRequested (event : EventWithBlock PeginRequested)
  | peginAccepted (event : EventWithBlock PeginAccepted)
  | pegoutRegistered (event : EventWithBlock PegoutRegistered)
  | pegoutRequested (event : EventWithBlock PegoutRequested)
  | operatorTakeTriggered (event : EventWithBlock OperatorTakeTriggered)
  | advanceFundsRegistered (event : EventWithBlock AdvanceFundsRegistered)
  | reimbursementKickoffRegistered (event : EventWithBlock ReimbursementKickoffRegistered)
  | allNoncesReady (event : EventWithBlock U256)
  | allSignaturesReady (event : EventWithBlock U256)
  | allOperatorTakeTxidsAdded (event : EventWithBlock AllOperatorTakeTxidsAdded)
  | otherEvent
deriving DecidableEq

end UnionBridge.Contracts
