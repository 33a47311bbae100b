import UnionBridge.BitcoinWallet.Wallet

/-!
# Transactions of one call

`create_transactions` reads the wallet and does not change it, so each of its transactions is selected
from the same list of outputs: all of them spend the same inputs.
-/

namespace UnionBridge.BitcoinWallet

open Contracts Word64

section Inversion

variable {libs : Libs} {w : Wallet} {outputs : List TxOut} {total amount : UInt64}
  {scripts : List Bytes} {created : CreatedTransaction}

theorem Wallet.buildTransactionWithOutputs_eq_ok
    (h : w.buildTransactionWithOutputs libs outputs total = .ok created) :
    ∃ privateKey address, w.requireActivePrivateKey = .ok privateKey ∧ w.activeAddress = some address
      ∧ buildFrom libs ⟨privateKey, outputs, total, w.satsPerByte⟩ w.utxos address total
        = .ok created := by
  obtain ⟨privateKey, hkey, h⟩ := Outcome.bind_eq_ok.mp h
  obtain ⟨address, haddress, h⟩ := Outcome.bind_eq_ok.mp h
  split at h
  · exact ⟨privateKey, address, hkey, orMessage_eq_ok.mp haddress, h⟩
  · cases h

theorem Wallet.createTransactionOnce_isBuilt
    (h : w.createTransactionOnce libs scripts amount = .ok created) :
    ∃ address, w.activeAddress = some address ∧ IsBuilt libs w.utxos address created := by
  unfold createTransactionOnce at h
  split at h
  · cases h
  · obtain ⟨total, -, h⟩ := Outcome.bind_eq_ok.mp h
    obtain ⟨_, address, -, haddress, h⟩ := buildTransactionWithOutputs_eq_ok h
    exact ⟨address, haddress, buildFrom_isBuilt h⟩

theorem mapM_const_eq_replicate {ε α β : Type} {m : Except ε α} {xs : List β} {results : List α}
    (h : xs.mapM (fun _ => m) = .ok results) :
    results = [] ∧ xs = [] ∨ ∃ a, m = .ok a ∧ results = List.replicate xs.length a := by
  induction xs generalizing results with
  | nil =>
    cases h
    exact .inl ⟨rfl, rfl⟩
  | cons x xs ih =>
    rw [List.mapM_cons] at h
    obtain ⟨a, ha, h⟩ := Outcome.bind_eq_ok.mp h
    obtain ⟨rest, hrest, h⟩ := Outcome.bind_eq_ok.mp h
    cases h
    refine .inr ⟨a, ha, ?_⟩
    rcases ih hrest with ⟨hnil, hxs⟩ | ⟨b, hb, hrest⟩
    · rw [hnil, hxs]
      rfl
    · cases ha.symm.trans hb
      rw [hrest]
      rfl

theorem Wallet.createTransactions_eq_replicate {count : Nat} {created : List CreatedTransaction}
    (h : w.createTransactions libs scripts amount count = .ok created) :
    0 < count ∧ ∃ one, w.createTransactionOnce libs scripts amount = .ok one
      ∧ created = List.replicate count one := by
  unfold createTransactions at h
  split at h
  · cases h
  · next hcount =>
    split at h
    · cases h
    · obtain ⟨privateKey, -, h⟩ := Outcome.bind_eq_ok.mp h
      rcases mapM_const_eq_replicate h with ⟨-, hnil⟩ | ⟨one, hone, heq⟩
      · exact absurd (List.range_eq_nil.mp hnil) hcount
      · rw [List.length_range] at heq
        exact ⟨Nat.pos_of_ne_zero hcount, one, hone, heq⟩

end Inversion

def DisjointInputs (created : List CreatedTransaction) : Prop :=
  created.Pairwise fun a b => a.inputs.Disjoint b.inputs

/-- **The transactions of one call can be broadcast together** only if there is one of them, or if
the wallet has nothing to spend. -/
theorem createTransactions_disjoint_iff {libs : Libs} {w : Wallet} {scripts : List Bytes}
    {amount : UInt64} {count : Nat} {created : List CreatedTransaction}
    (h : w.createTransactions libs scripts amount count = .ok created) :
    DisjointInputs created ↔ count = 1 ∨ w.utxos = [] := by
  obtain ⟨hcount, one, hone, rfl⟩ := Wallet.createTransactions_eq_replicate h
  obtain ⟨address, -, hbuilt⟩ := Wallet.createTransactionOnce_isBuilt hone
  rw [DisjointInputs, List.pairwise_replicate]
  have hself : one.inputs.Disjoint one.inputs ↔ w.utxos = [] := by
    constructor
    · intro hdisjoint
      by_contra hutxos
      obtain ⟨utxo, hmem⟩ := List.exists_mem_of_ne_nil _ (hbuilt.spent_nonempty hutxos)
      have hinput : utxo.outpoint ∈ one.inputs := hbuilt.inputs_eq ▸ List.mem_map_of_mem hmem
      exact hdisjoint hinput hinput
    · intro hnil
      rw [hbuilt.inputs_eq, hbuilt.spent_eq, hnil, List.take_nil]
      exact List.disjoint_nil_left _
  rw [hself]
  refine or_congr_left' fun _ => ?_
  omega

def samplePayments (count : Nat) : List CreatedTransaction :=
  (Wallet.sample.createTransactions .sample [[1]] 1000 count).toOption.getD []

theorem samplePayments_eq (count : Nat)
    (h : (Wallet.sample.createTransactions .sample [[1]] 1000 count).isOk = true) :
    Wallet.sample.createTransactions .sample [[1]] 1000 count = .ok (samplePayments count) := by
  obtain ⟨created, hcreated⟩ := Outcome.exists_of_isOk h
  rw [samplePayments, hcreated]
  rfl

/-- A single payment. -/
theorem one_payment_disjoint :
    Wallet.sample.createTransactions .sample [[1]] 1000 1 = .ok (samplePayments 1)
      ∧ DisjointInputs (samplePayments 1) := by
  have hcreated := samplePayments_eq 1 (by decide +kernel)
  exact ⟨hcreated, (createTransactions_disjoint_iff hcreated).mpr (.inl rfl)⟩

/-- The same payment twice: both transactions spend the first output of the wallet. -/
theorem two_payments_share_input :
    Wallet.sample.createTransactions .sample [[1]] 1000 2 = .ok (samplePayments 2)
      ∧ (samplePayments 2).map (·.inputs) = [[sampleOutpoint 1], [sampleOutpoint 1]]
      ∧ ¬ DisjointInputs (samplePayments 2) := by
  have hinputs : (samplePayments 2).map (·.inputs) = [[sampleOutpoint 1], [sampleOutpoint 1]] := by
    decide +kernel
  refine ⟨samplePayments_eq 2 (by decide +kernel), hinputs, fun hdisjoint => ?_⟩
  have hpairwise := List.pairwise_map.mpr hdisjoint
  rw [hinputs] at hpairwise
  simp at hpairwise

end UnionBridge.BitcoinWallet
