import UnionBridge.Contracts.NativeBridge

/-!
# No submission without confirmations

A log is guarded when each submission of a proof directly follows a query of the native bridge about
that very proof, and the answer was a count of at least the required confirmations. A program that
submits proofs only through `invokeContractSafe` keeps its log guarded.
-/

namespace UnionBridge.Contracts

open Bitvmx Effect

/-! ## The encoder -/

def wordOf (v : U256) : H256 := ⟨v.toBigEndian, length_toBE 32 v.toNat⟩

/-- The call data of the query in terms of the standard encoding. -/
def standardCallData (txHash blockHash merkleBranchPath : U256) (merkleBranchHashes : List H256) :
    Bytes :=
  (Keccak.keccak256
      "getBtcTransactionConfirmations(bytes32,bytes32,uint256,bytes32[])".toUTF8.toList).val.take 4
    ++ Abi.encode [.word (wordOf txHash), .word (wordOf blockHash), .word (wordOf merkleBranchPath),
      .array merkleBranchHashes]

/-- A vector is too short for its length to wrap. -/
theorem encodeCallData_eq_standard (txHash blockHash merkleBranchPath : U256)
    (merkleBranchHashes : RVec H256) :
    encodeCallData txHash blockHash merkleBranchPath merkleBranchHashes.val
      = standardCallData txHash blockHash merkleBranchPath merkleBranchHashes.val := by
  have hlen : merkleBranchHashes.val.length < 2 ^ 63 := merkleBranchHashes.property
  have hwrap : (UInt64.ofNat merkleBranchHashes.val.length).toNat
      = merkleBranchHashes.val.length := by
    rw [UInt64.toNat_ofNat']
    exact Nat.mod_eq_of_lt (by omega)
  have hword : (BitVec.ofNat 256 merkleBranchHashes.val.length).toNat
      = merkleBranchHashes.val.length := by
    rw [BitVec.toNat_ofNat]
    exact Nat.mod_eq_of_lt (by omega)
  have hoffset : (BitVec.ofNat 256 128).toNat = 128 := rfl
  unfold encodeCallData standardCallData
  rw [← getBtcTxConfirmationsSelector_eq, hwrap]
  simp only [Abi.encode, Abi.heads, Abi.tail, Abi.uint, wordOf, U256.toBigEndian, hword, hoffset,
    List.length_cons, List.length_nil, List.flatMap_cons, List.flatMap_nil, List.append_assoc,
    List.nil_append, List.append_nil]

theorem parseFixedBytes32_encode (hash : H256) :
    parseFixedBytes32 (Hex.encode hash.val) = some hash := by
  unfold parseFixedBytes32
  rw [Hex.decode_encode]
  show (if h : hash.val.length = 32 then some (⟨hash.val, h⟩ : H256) else none) = some hash
  rw [dif_pos hash.property]

theorem mapM_parseFixedBytes32_encode (hashes : List H256) :
    (hashes.map fun hash => Hex.encode hash.val).mapM parseFixedBytes32 = some hashes := by
  induction hashes with
  | nil => rfl
  | cons hash hashes ih =>
    rw [List.map_cons, List.mapM_cons, parseFixedBytes32_encode, ih]
    rfl

/-! ## The answer -/

theorem decodeConfirmations_eq_ok {answer : Bytes} {n : UInt32}
    (h : decodeConfirmations answer = .ok n) :
    32 ≤ answer.length ∧ answerInt answer = n.toNat := by
  unfold decodeConfirmations at h
  split at h
  · cases h
  · next hlen =>
    simp only at h
    split at h
    · cases h
    · next hneg =>
      split at h
      · next hlt =>
        injection h with h
        subst h
        refine ⟨by omega, ?_⟩
        rw [UInt32.toNat_ofNat', Nat.mod_eq_of_lt (by omega)]
        omega
      · cases h

/-! ## The log -/

/-- The latest call is a query about the proof, and its answer counts enough confirmations. -/
def Covered (libs : Libs) (required : UInt32) (input : BtcTxSPVProofInput) (log : Log) : Prop :=
  ∃ (proof : BtcTxSPVProof) (blockHash path : U256) (answer : Bytes) (older : Log),
    input = BtcTxSPVProofInput.ofProof proof ∧
    libs.parseH256 proof.blockHash = some blockHash ∧
    libs.parseU256 proof.merkleBranchPath = some path ∧
    log = ⟨.getBtcTransactionConfirmations
        (standardCallData (TxIdParser.txidToFb32 (libs.computeTxid proof.tx)) blockHash path
          proof.merkleBranchHashes.val), (.ok answer : Except String Bytes)⟩ :: older ∧
    32 ≤ answer.length ∧
    required.toNat ≤ answerInt answer ∧ answerInt answer ≤ 2 ^ 32 - 1

/-- Every submission in the log is covered by the calls before it. -/
def Guarded (libs : Libs) (required : UInt32) : Log → Prop
  | [] => True
  | entry :: log =>
    (∀ input, entry.1.submittedProof = some input → Covered libs required input log)
      ∧ Guarded libs required log

theorem Guarded.covered {libs : Libs} {required : UInt32} {newer older : Log} {entry : LogEntry}
    (h : Guarded libs required (newer ++ entry :: older)) {input : BtcTxSPVProofInput}
    (hinput : entry.1.submittedProof = some input) : Covered libs required input older := by
  induction newer with
  | nil => exact h.1 input hinput
  | cons _ newer ih => exact ih h.2

section Guard

variable {σ α : Type} {libs : Libs} {env : Env} {required : UInt32}

instance : IsPreorder (World σ) fun w w' =>
    Guarded libs required w.log → Guarded libs required w'.log where
  refl _ h := h
  trans _ _ _ h h' hguarded := h' (h hguarded)

def KeepsGuarded (libs : Libs) (required : UInt32) (m : Program σ α) : Prop :=
  Within (fun w w' => Guarded libs required w.log → Guarded libs required w'.log) m

theorem Guarded.of_adds {log log' : Log} (h : Adds Call.Plain log log')
    (hguarded : Guarded libs required log) : Guarded libs required log' := by
  obtain ⟨new, rfl, hnew⟩ := h
  induction new with
  | nil => exact hguarded
  | cons entry new ih =>
    refine ⟨fun input hinput => ?_, ih fun e he => hnew e (List.mem_cons_of_mem _ he)⟩
    rw [hnew entry List.mem_cons_self] at hinput
    cases hinput

theorem OnlyCalls.guarded {m : Program σ α} (h : OnlyCalls Call.Plain m) :
    KeepsGuarded libs required m :=
  fun w => Guarded.of_adds (h w).log

theorem keepsGuarded_modify {f : World σ → World σ} (hf : ∀ w, (f w).log = w.log) :
    KeepsGuarded libs required (modify f : Program σ Unit) :=
  within_modify fun w hguarded => by rw [hf]; exact hguarded

def queryInput (libs : Libs) (proof : BtcTxSPVProof) (blockHash : U256) :
    GetBtcTransactionConfirmationsInput where
  txHash := TxIdParser.txidToFb32 (libs.computeTxid proof.tx)
  blockHash := blockHash
  merkleBranchPath := proof.merkleBranchPath
  merkleBranchHashes := proof.merkleBranchHashes.val.map fun hash => Hex.encode hash.val

theorem callGetBtcTransactionConfirmations_spec {proof : BtcTxSPVProof} {blockHash : U256}
    (hhash : libs.parseH256 proof.blockHash = some blockHash) {w : World σ}
    (hw : Guarded libs required w.log) :
    wp (callGetBtcTransactionConfirmations libs env (queryInput libs proof blockHash))
      (fun result w' => Guarded libs required w'.log ∧ ∀ n, result = .ok n → required ≤ n →
        Covered libs required (BtcTxSPVProofInput.ofProof proof) w'.log)
      (fun _ _ => False) w := by
  unfold callGetBtcTransactionConfirmations queryInput
  simp only [mapM_parseFixedBytes32_encode]
  cases hpath : libs.parseU256 proof.merkleBranchPath with
  | none => exact ⟨hw, fun n h => by cases h⟩
  | some path =>
    -- The log entry depends on its call, so the call data is rewritten before the call is made.
    simp only [encodeCallData_eq_standard]
    simp only [wp_bind, wp_providerCall, wp_pure]
    refine ⟨⟨fun _ h => (by cases h), hw⟩, fun n hn hle => ?_⟩
    generalize hanswer : env.answer w.log _ = result at hn ⊢
    cases result with
    | error text => cases hn
    | ok answer =>
      obtain ⟨hlen, hint⟩ := decodeConfirmations_eq_ok hn
      have hlt : n.toNat < 2 ^ 32 := n.toNat_lt
      have hreq : required.toNat ≤ n.toNat := hle
      exact ⟨proof, blockHash, path, answer, w.log, rfl, hhash, hpath, rfl, hlen, by omega,
        by omega⟩

theorem verifyBtcConfirmations_spec (proof : BtcTxSPVProof) {w : World σ}
    (hw : Guarded libs required w.log) :
    wp (verifyBtcConfirmations libs env proof required)
      (fun status w' => Guarded libs required w'.log ∧
        (status = .ok .verified →
          Covered libs required (BtcTxSPVProofInput.ofProof proof) w'.log))
      (fun _ _ => False) w := by
  unfold verifyBtcConfirmations
  cases hhash : libs.parseH256 proof.blockHash with
  | none => exact ⟨hw, fun h => by cases h⟩
  | some blockHash =>
    simp only [getBtcConfirmations, wp_bind, wp_pure]
    apply wp_mono (callGetBtcTransactionConfirmations_spec hhash hw)
    · rintro result w' ⟨hguarded, hcovered⟩
      cases result with
      | ok n =>
        simp only [Except.mapError, wp_ite, wp_pure]
        split
        · next hle => exact ⟨hguarded, fun _ => hcovered n rfl hle⟩
        · exact ⟨hguarded, fun h => by cases h⟩
      | error e =>
        simp only [Except.mapError]
        split
        · exact ⟨hguarded, fun h => by cases h⟩
        · exact ⟨hguarded, fun h => by cases h⟩
    · intro e w' hfalse
      exact hfalse

/-- **The guard.** A submission through `invokeContractSafe` is covered, whatever the node answers. -/
theorem keepsGuarded_invokeContractSafe {c : Call} {proof : BtcTxSPVProof}
    (hc : c.submittedProof = some (BtcTxSPVProofInput.ofProof proof))
    {invoke : Program σ (Except DomainErrors α)}
    (hinvoke : ∀ w, (after invoke w).log = ⟨c, env.answer w.log c⟩ :: w.log) :
    KeepsGuarded libs required
      (invokeContractSafe libs env (.real required) proof invoke) := by
  unfold KeepsGuarded
  rw [within_iff_wp]
  intro w
  by_cases hw : Guarded libs required w.log
  · unfold invokeContractSafe
    rw [wp_bind]
    apply wp_mono (verifyBtcConfirmations_spec proof hw)
    · rintro status w' ⟨hguarded, hcovered⟩
      match status with
      | .error e => exact fun _ => hguarded
      | .ok (.insufficientConfirmations _ _) => exact fun _ => hguarded
      | .ok .verified =>
        have hlog : Guarded libs required (after invoke w').log := by
          rw [hinvoke w']
          refine ⟨fun input hinput => ?_, hguarded⟩
          rw [hc] at hinput
          injection hinput with hinput
          rw [← hinput]
          exact hcovered rfl
        show wp invoke _ _ w'
        unfold wp
        unfold after at hlog
        cases hrun : invoke w' with
        | ok a w'' => rw [hrun] at hlog; exact fun _ => hlog
        | error e w'' => rw [hrun] at hlog; exact fun _ => hlog
    · intro e w' hfalse
      exact hfalse.elim
  · unfold wp
    split
    · exact fun h => absurd h hw
    · exact fun h => absurd h hw

end Guard

end UnionBridge.Contracts
