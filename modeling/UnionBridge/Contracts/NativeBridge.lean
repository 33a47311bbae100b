import UnionBridge.Contracts.Gateway
import UnionBridge.Lib.Abi
import UnionBridge.Lib.Keccak

/-!
# The native bridge (`contracts/native_bridge.rs`, `flows/common/native_bridge_verifier.rs`)

Before a proof of a Bitcoin transaction is submitted to a contract, the native bridge is asked for
the confirmations of the transaction. The query is encoded by hand and its answer is a signed word:
a count, or a negative error code.
-/

namespace UnionBridge.Contracts

open Bitvmx Effect

/-! ## The query -/

structure GetBtcTransactionConfirmationsInput where
  txHash : U256
  blockHash : U256
  merkleBranchPath : String
  merkleBranchHashes : List String

def getBtcTxConfirmationsSelector : Bytes := [0x5b, 0x64, 0x45, 0x87]

theorem getBtcTxConfirmationsSelector_eq :
    getBtcTxConfirmationsSelector = (Keccak.keccak256
      "getBtcTransactionConfirmations(bytes32,bytes32,uint256,bytes32[])".toUTF8.toList).val.take 4 := by
  decide +kernel

/-- `parse::<FixedBytes<32>>`. -/
def parseFixedBytes32 (text : String) : Option H256 :=
  match Hex.decode text with
  | some bytes => if h : bytes.length = 32 then some ⟨bytes, h⟩ else none
  | none => none

def encodeCallData (txHash blockHash merkleBranchPath : U256) (merkleBranchHashes : List H256) :
    Bytes :=
  getBtcTxConfirmationsSelector
    ++ txHash.toBigEndian
    ++ blockHash.toBigEndian
    ++ merkleBranchPath.toBigEndian
    ++ U256.toBigEndian (BitVec.ofNat 256 128)
    ++ U256.toBigEndian (BitVec.ofNat 256 (UInt64.ofNat merkleBranchHashes.length).toNat)
    ++ merkleBranchHashes.flatMap Subtype.val

/-! ## The answer -/

/-- The first word of an answer, read as an `int256`. -/
def answerInt (answer : Bytes) : Int := (U256.fromBigEndian (answer.take 32)).toInt

/-- `i32::try_from(..).unwrap_or(i32::MIN)`. -/
def errorCode (n : Int) : Int := if -2 ^ 31 ≤ n ∧ n < 2 ^ 31 then n else -2 ^ 31

def decodeConfirmations (answer : Bytes) : Except String UInt32 :=
  if answer.length < 32 then .error "Invalid response length from Native Bridge"
  else
    let n := answerInt answer
    if n < 0 then
      .error ("Native Bridge returned error code: " ++ toString (errorCode n)
        ++ " (see RSKIP122 for error meanings)")
    else if n < 2 ^ 32 then .ok (UInt32.ofNat n.toNat)
    else .error "Confirmations value exceeds u32 maximum"

section Query

variable {σ α : Type}

def providerCall (env : Env) (callData : Bytes) : Program σ (Except String Bytes) :=
  perform env (.getBtcTransactionConfirmations callData) id

@[simp] theorem wp_providerCall {env : Env} {callData : Bytes}
    {Q : Except String Bytes → World σ → Prop} {E : FlowError → World σ → Prop} {w : World σ} :
    wp (providerCall env callData) Q E w
      ↔ Q (env.answer w.log (.getBtcTransactionConfirmations callData))
          { w with log := ⟨.getBtcTransactionConfirmations callData,
            env.answer w.log (.getBtcTransactionConfirmations callData)⟩ :: w.log } :=
  wp_perform

def callGetBtcTransactionConfirmations (libs : Libs) (env : Env)
    (input : GetBtcTransactionConfirmationsInput) : Program σ (Except String UInt32) :=
  match input.merkleBranchHashes.mapM parseFixedBytes32 with
  | none => pure (.error "Invalid merkle branch hash")
  | some hashes =>
    match libs.parseU256 input.merkleBranchPath with
    | none => pure (.error "Invalid merkle branch path")
    | some path => do
      let result ← providerCall env (encodeCallData input.txHash input.blockHash path hashes)
      pure (result.bind decodeConfirmations)

def getBtcConfirmations (libs : Libs) (env : Env) (input : GetBtcTransactionConfirmationsInput) :
    Program σ (Except DomainErrors UInt32) := do
  let result ← callGetBtcTransactionConfirmations libs env input
  pure (result.mapError fun e => .unhandledContractError ("Failed to get bitcoin confirmations: " ++ e))

end Query

/-! ## The verifier -/

inductive VerificationStatus where
  | verified
  | insufficientConfirmations (required actual : UInt32)
deriving DecidableEq

inductive NativeBridgeVerifier where
  | real (requiredConfirmations : UInt32)
  | dummy
deriving DecidableEq

structure Config where
  libs : Libs
  myAddress : Address
  verifier : NativeBridgeVerifier

def NativeBridgeVerifier.requiredConfirmations : NativeBridgeVerifier → UInt32
  | real required => required
  | dummy => 0

def nativeBridgeErrorMarker : String := "Native Bridge returned error code:"

/-- What follows the first occurrence of `marker`. -/
def afterFirst (marker : List Char) : List Char → Option (List Char)
  | [] => if marker.isEmpty then some [] else none
  | c :: text =>
    if marker.isPrefixOf (c :: text) then some ((c :: text).drop marker.length)
    else afterFirst marker text

/-- `parse::<i32>`: a sign and at least one digit. -/
def parseI32 (text : List Char) : Option Int :=
  let (negative, digits) := match text with
    | '-' :: rest => (true, rest)
    | '+' :: rest => (false, rest)
    | rest => (false, rest)
  if digits.isEmpty || !digits.all Char.isDigit then none
  else
    let n : Int := digits.foldl (fun acc c => acc * 10 + (c.toNat - '0'.toNat)) 0
    let value := if negative then -n else n
    if -2 ^ 31 ≤ value ∧ value < 2 ^ 31 then some value else none

def parseNativeBridgeErrorCode : DomainErrors → Option Int
  | .unhandledContractError message => do
    let rest ← afterFirst nativeBridgeErrorMarker.toList message.toList
    let code := (rest.dropWhile Char.isWhitespace).takeWhile fun c => !c.isWhitespace
    parseI32 code
  | _ => none

def nativeBridgeErrorReason (code : Int) : Option String :=
  if code = -1 then some "block hash not found in bridge view"
  else if code = -2 then some "block is not in best chain"
  else if code = -3 then some "internal inconsistency prevented block lookup"
  else if code = -4 then some "block too old to be processed"
  else if code = -5 then some "merkle branch does not prove inclusion"
  else none

section Guard

variable {σ α : Type}

def verifyBtcConfirmations (libs : Libs) (env : Env) (spvProof : BtcTxSPVProof)
    (requiredConfirmations : UInt32) : Program σ (Except DomainErrors VerificationStatus) :=
  match libs.parseH256 spvProof.blockHash with
  | none => pure (.error (.invalidBtcTxSpvProof "Invalid block hash"))
  | some blockHash => do
    let result ← getBtcConfirmations libs env {
      txHash := TxIdParser.txidToFb32 (libs.computeTxid spvProof.tx)
      blockHash := blockHash
      merkleBranchPath := spvProof.merkleBranchPath
      merkleBranchHashes := spvProof.merkleBranchHashes.val.map fun hash => Hex.encode hash.val }
    match result with
    | .ok confirmations =>
      if requiredConfirmations ≤ confirmations then pure (.ok .verified)
      else pure (.ok (.insufficientConfirmations requiredConfirmations confirmations))
    | .error e =>
      -- A known error code means that the bridge may still catch up.
      match (parseNativeBridgeErrorCode e).bind nativeBridgeErrorReason with
      | some _ => pure (.ok (.insufficientConfirmations requiredConfirmations 0))
      | none => pure (.error e)

def verifyConfirmations (libs : Libs) (env : Env) (verifier : NativeBridgeVerifier)
    (spvProof : BtcTxSPVProof) (requiredConfirmations : UInt32) :
    Program σ (Except DomainErrors VerificationStatus) :=
  match verifier with
  | .real _ => verifyBtcConfirmations libs env spvProof requiredConfirmations
  | .dummy => pure (.ok .verified)

/-- Verify the confirmations of a proof, and only then invoke the contract. -/
def invokeContractSafe (libs : Libs) (env : Env) (verifier : NativeBridgeVerifier)
    (spvProof : BtcTxSPVProof) (invoke : Program σ (Except DomainErrors α)) :
    Program σ (Except DomainErrors α) := do
  let status ← verifyConfirmations libs env verifier spvProof verifier.requiredConfirmations
  match status with
  | .error e => pure (.error e)
  | .ok .verified => invoke
  | .ok (.insufficientConfirmations required actual) =>
    pure (.error (.missingConfirmationsOnNativeBridge
      (toString actual ++ "/" ++ toString required ++ " confirmations")))

/-! ### What the guard calls -/

variable {libs : Libs} {env : Env} {allowed : Call → Prop}

theorem onlyCalls_verifyConfirmations
    (hasks : ∀ callData, allowed (.getBtcTransactionConfirmations callData))
    (verifier : NativeBridgeVerifier) (proof : BtcTxSPVProof) (required : UInt32) :
    OnlyCalls (σ := σ) allowed (verifyConfirmations libs env verifier proof required) := by
  unfold verifyConfirmations
  cases verifier with
  | dummy => exact .pure _
  | real _ =>
    unfold verifyBtcConfirmations
    simp only
    split
    · exact .pure _
    refine .bind (.bind ?_ fun _ => .pure _) fun result => ?_
    · unfold callGetBtcTransactionConfirmations
      split
      · exact .pure _
      split
      · exact .pure _
      · exact .bind (onlyCalls_perform (hasks _)) fun _ => .pure _
    · split
      · split
        · exact .pure _
        · exact .pure _
      · split
        · exact .pure _
        · exact .pure _

theorem onlyCalls_invokeContractSafe
    (hasks : ∀ callData, allowed (.getBtcTransactionConfirmations callData))
    (verifier : NativeBridgeVerifier) (proof : BtcTxSPVProof)
    {invoke : Program σ (Except DomainErrors α)} (hinvoke : OnlyCalls allowed invoke) :
    OnlyCalls allowed (invokeContractSafe libs env verifier proof invoke) := by
  refine .bind (onlyCalls_verifyConfirmations hasks _ _ _) fun status => ?_
  split
  · exact .pure _
  · exact hinvoke
  · exact .pure _

end Guard

end UnionBridge.Contracts
