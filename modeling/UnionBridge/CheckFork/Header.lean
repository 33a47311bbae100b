import UnionBridge.Lib.Outcome
import UnionBridge.Lib.Rlp
import UnionBridge.Lib.Word256

/-!
# Rootstock block headers (`check-fork/src/block_header.rs`, `check-fork/src/rlp.rs`)

The header a fork proof carries and the byte string its hash is taken of. Keccak-256 is the
parameter `keccak`; RLP is the encoder of `UnionBridge.Lib.Rlp`.

The encoding depends on the header version in one field, the extension field: version 2 and
version 1 with PTE edges replace the logs bloom by a short list with the hash of a nested list,
version 1 without edges writes the 256-byte bloom itself.
-/

namespace UnionBridge.CheckFork

open Rlp Outcome

def RSK_HEADER_EXTENSION_TYPE_V1 : UInt8 := 1
def RSK_HEADER_EXTENSION_TYPE_V2 : UInt8 := 2
def BASE_EVENT_MAX_SIZE : Nat := 128
def MAX_RSK_PTE_EDGES : Nat := 0

structure RskBlockHeader where
  number : UInt64
  hash : H256
  parent : H256
  difficulty : U256
  timestamp : UInt64
  unclesHash : H256
  coinbase : FixedBytes 20
  stateRoot : H256
  txTrieRoot : H256
  receiptTrieRoot : H256
  /-- The logs bloom as the RPC returns it. -/
  extensionData : RVec UInt8
  gasLimit : RVec UInt8
  gasUsed : UInt64
  extraData : RVec UInt8
  paidFees : U256
  minimumGasPrice : Option U256
  uncles : RVec H256
  /-- `none` leaves the field out of the hash input, `some []` includes an empty one. -/
  rskPteEdges : Option (RVec UInt16)
  version : UInt8
  baseEvent : Option (RVec UInt8)
  bitcoinMergedMiningHeader : RVec UInt8
deriving DecidableEq

def zeroBytes (n : Nat) : FixedBytes n := ⟨List.replicate n 0, List.length_replicate⟩

theorem gasLimit_bound : [(0 : UInt8)].length < 2 ^ 63 := by decide

theorem bloom_bound : (List.replicate 256 (0 : UInt8)).length < 2 ^ 63 := by
  rw [List.length_replicate]
  omega

theorem miningHeader_bound : (List.replicate 80 (0 : UInt8)).length < 2 ^ 63 := by
  rw [List.length_replicate]
  omega

/-- `RskBlockHeader::default()`. -/
instance : Inhabited RskBlockHeader where
  default :=
    { version := 1
      number := 0
      hash := zeroBytes 32
      parent := zeroBytes 32
      difficulty := 0
      timestamp := 0
      unclesHash := zeroBytes 32
      coinbase := zeroBytes 20
      stateRoot := zeroBytes 32
      txTrieRoot := zeroBytes 32
      receiptTrieRoot := zeroBytes 32
      extensionData := ⟨List.replicate 256 0, bloom_bound⟩
      gasLimit := ⟨[0], gasLimit_bound⟩
      gasUsed := 0
      extraData := ⟨[], RVec.nil_bound⟩
      paidFees := 0
      minimumGasPrice := some 0
      uncles := ⟨[], RVec.nil_bound⟩
      rskPteEdges := none
      baseEvent := none
      bitcoinMergedMiningHeader := ⟨List.replicate 80 0, miningHeader_bound⟩ }

/-! ## Coin values -/

def u256BeTrimmed (value : U256) : Bytes :=
  trimZeros (U256.toBigEndian value)

def u256BeCoinBytes (value : U256) : Bytes :=
  if value = 0 then [] else u256BeTrimmed value

def encodeCoinValue (value : U256) : Bytes :=
  encodeBytes (u256BeCoinBytes value)

/-- The bytes of a signed coin value: a `0x00` in front keeps the value positive. -/
def signedCoinBytes (value : U256) : Bytes :=
  match u256BeCoinBytes value with
  | [] => []
  | b :: bs => if b ≥ 0x80 then 0 :: b :: bs else b :: bs

def encodeSignedCoinValue (value : U256) : Bytes :=
  encodeBytes (signedCoinBytes value)

def encodeSignedCoinValueAsByte (value : U256) : Bytes :=
  if value = 0 then encodeBytes [0] else encodeSignedCoinValue value

/-! ## The encoded header -/

namespace RskBlockHeader

/-- `umm_root` is always empty. -/
def ummRoot (_ : RskBlockHeader) : Bytes := []

variable (keccak : Digest) (h : RskBlockHeader)

def logsBloomV0 : Outcome Bytes :=
  if h.extensionData.val.length ≠ 256 then
    fail "unsupported extension_data format: expected RPC logsBloom (256 bytes)"
  else
    .ok h.extensionData.val

def encodedRskPteEdges : Outcome (Option Bytes) :=
  match h.rskPteEdges with
  | none => .ok none
  | some edges =>
    let edgeBytesLen := edges.val.length * 2
    if ¬ edgeBytesLen < 2 ^ 64 then
      fail "rsk_pte_edges byte length overflow"
    else if edgeBytesLen > MAX_RSK_PTE_EDGES then
      fail "rsk_pte_edges exceeds maximum allowed length"
    else
      .ok (some (encodeBytes (edges.val.flatMap fun e : UInt16 => [e.toUInt8, (e >>> 8).toUInt8])))

/-- The nested list the extension hash is taken of. -/
def extensionForHash (logsBloom : Bytes) (extraFields : List Bytes)
    (edgesField : Option Bytes) : Bytes :=
  encodeList (encodeBytes (keccak logsBloom).val :: extraFields ++ edgesField.toList)

def compressedExtensionData (extensionType : UInt8) (extraFields : List Bytes) : Outcome Bytes := do
  let logsBloom ← h.logsBloomV0
  let edgesField ← h.encodedRskPteEdges
  let extensionHash := keccak (extensionForHash keccak logsBloom extraFields edgesField)
  pure (encodeList [encodeUint 1 extensionType.toNat, encodeBytes extensionHash.val])

def compressedExtensionDataV1 : Outcome Bytes :=
  h.compressedExtensionData keccak RSK_HEADER_EXTENSION_TYPE_V1 []

/-- `base_event.as_deref().unwrap_or_default()`. -/
def baseEventBytes : Bytes :=
  match h.baseEvent with
  | none => []
  | some event => event.val

def compressedExtensionDataV2 : Outcome Bytes :=
  if h.baseEventBytes.length > BASE_EVENT_MAX_SIZE then
    fail "base_event exceeds maximum allowed length"
  else
    h.compressedExtensionData keccak RSK_HEADER_EXTENSION_TYPE_V2 [encodeBytes h.baseEventBytes]

/-- The version-dependent field of the encoding. -/
def extensionField : Outcome Bytes :=
  if h.version = RSK_HEADER_EXTENSION_TYPE_V2 then
    h.compressedExtensionDataV2 keccak
  else if h.version = RSK_HEADER_EXTENSION_TYPE_V1 then
    if h.rskPteEdges.isSome then h.compressedExtensionDataV1 keccak else h.logsBloomV0
  else
    fail "unsupported RSK block header version"

def encodeRlp : Outcome Bytes :=
  match h.minimumGasPrice with
  | none => fail "minimum_gas_price is None"
  | some minimumGasPrice => do
    let extensionField ← h.extensionField keccak
    pure (encodeList [
      encodeBytes h.parent.val,
      encodeBytes h.unclesHash.val,
      encodeBytes h.coinbase.val,
      encodeBytes h.stateRoot.val,
      encodeBytes h.txTrieRoot.val,
      encodeBytes h.receiptTrieRoot.val,
      encodeBytes extensionField,
      encodeCoinValue h.difficulty,
      encodeUint 8 h.number.toNat,
      encodeBytes h.gasLimit.val,
      encodeUint 8 h.gasUsed.toNat,
      encodeUint 8 h.timestamp.toNat,
      encodeBytes h.extraData.val,
      encodeCoinValue h.paidFees,
      encodeSignedCoinValueAsByte minimumGasPrice,
      encodeUint 8 h.uncles.val.length,
      encodeBytes h.ummRoot,
      encodeBytes h.bitcoinMergedMiningHeader.val])

def calculateBlockHash : Outcome H256 := do
  let rlpEncoded ← h.encodeRlp keccak
  pure (keccak rlpEncoded)

/-! ## No panics -/

theorem noPanic_extensionField : NoPanic (h.extensionField keccak) := by
  have hbloom : NoPanic h.logsBloomV0 := noPanic_guard (noPanic_ok _)
  have hedges : NoPanic h.encodedRskPteEdges := by
    unfold encodedRskPteEdges
    cases h.rskPteEdges with
    | none => exact noPanic_ok _
    | some edges => exact noPanic_guard (noPanic_guard (noPanic_ok _))
  have hcompressed : ∀ ty extra, NoPanic (h.compressedExtensionData keccak ty extra) := by
    intro ty extra
    exact noPanic_bind hbloom fun _ _ => noPanic_bind hedges fun _ _ => noPanic_ok _
  unfold extensionField compressedExtensionDataV2 compressedExtensionDataV1
  split
  · exact noPanic_guard (hcompressed _ _)
  · split
    · split
      · exact hcompressed _ _
      · exact hbloom
    · exact noPanic_fail _

theorem noPanic_calculateBlockHash : NoPanic (h.calculateBlockHash keccak) := by
  refine noPanic_bind ?_ fun _ _ => noPanic_ok _
  unfold encodeRlp
  cases h.minimumGasPrice with
  | none => exact noPanic_fail _
  | some price => exact noPanic_bind (noPanic_extensionField keccak h) fun _ _ => noPanic_ok _

theorem calculateBlockHash_eq_ok {keccak : Digest} {h : RskBlockHeader} {hash : H256} :
    h.calculateBlockHash keccak = .ok hash
      ↔ ∃ bytes, h.encodeRlp keccak = .ok bytes ∧ hash = keccak bytes := by
  rw [calculateBlockHash, bind_eq_ok]
  simp only [pure_eq_ok, Except.ok.injEq]
  exact ⟨fun ⟨b, hb, heq⟩ => ⟨b, hb, heq.symm⟩, fun ⟨b, hb, heq⟩ => ⟨b, hb, heq.symm⟩⟩

end RskBlockHeader

end UnionBridge.CheckFork
