import UnionBridge.BitcoinWallet.Creation

/-!
# Replacing a transaction

`replace_transaction` marks the inputs of the original as available, builds the replacement from them
alone, and takes the original out of the pending transactions. Two things are asked of it here: that
a failed replacement leaves the wallet as it was, and that a successful one leaves no output of the
original, or of a transaction that spends from it, to be selected.
-/

namespace UnionBridge.BitcoinWallet

open Contracts Effect Word64

/-! ## Symbolic execution -/

section Execution

variable {α : Type} {env : Env} {w : World} {E : Failure → World → Prop}

@[simp] theorem wp_getWallet {Q : Wallet → World → Prop} : wp getWallet Q E w ↔ Q w.wallet w := Iff.rfl

@[simp] theorem wp_modifyWallet {Q : PUnit → World → Prop} {f : Wallet → Wallet} :
    wp (modifyWallet f) Q E w ↔ Q ⟨⟩ ⟨f w.wallet, w.calls⟩ := Iff.rfl

@[simp] theorem wp_nextCall {Q : Nat → World → Prop} :
    wp nextCall Q E w ↔ Q w.calls ⟨w.wallet, w.calls + 1⟩ := Iff.rfl

@[simp] theorem wp_fail {Q : α → World → Prop} {message : String} :
    wp (fail message) Q E w ↔ E (.err message) w := Iff.rfl

theorem wp_orFail {Q : α → World → Prop} {o : Option α} {message : String} :
    wp (orFail o message) Q E w ↔ (∀ a, o = some a → Q a w) ∧ (o = none → E (.err message) w) :=
  wp_okOr

theorem wp_orError {Q : α → World → Prop} {result : Except String α} :
    wp (orError result) Q E w
      ↔ (∀ a, result = .ok a → Q a w) ∧ ∀ e, result = .error e → E (.err e) w := by
  cases result with
  | ok a => simp [orError]
  | error e => simp [orError]

theorem wp_access {Q : Unit → World → Prop} {context : String} :
    wp (access env context) Q E w
      ↔ (env.dbError w.calls = none → Q () ⟨w.wallet, w.calls + 1⟩)
        ∧ ∀ e, env.dbError w.calls = some e → E (.err (context ++ e)) ⟨w.wallet, w.calls + 1⟩ := by
  rw [access, wp_bind, wp_nextCall]
  cases h : env.dbError w.calls with
  | none => simp
  | some e => simp

end Execution

/-! ## Marks -/

/-- The outputs have the state now, and nothing else changed. -/
structure Marked (state : UtxoState) (outpoints : List OutPoint) (w w' : Wallet) : Prop where
  rest : w' = { w with utxoStore := w'.utxoStore }
  store : ∀ o, w'.utxoStore.lookup o
    = if o ∈ outpoints then (w.utxoStore.lookup o).map fun stored => { stored with state }
      else w.utxoStore.lookup o

theorem Marked.refl (state : UtxoState) (w : Wallet) : Marked state [] w w := ⟨rfl, fun _ => rfl⟩

theorem Marked.cons {state : UtxoState} {outpoint : OutPoint} {outpoints : List OutPoint}
    {w w' : Wallet} {stored : StoredUtxo} (hlookup : w.utxoStore.lookup outpoint = some stored)
    (h : Marked state outpoints
      { w with utxoStore := w.utxoStore.insert outpoint { stored with state } } w') :
    Marked state (outpoint :: outpoints) w w' := by
  refine ⟨h.rest, fun o => (h.store o).trans ?_⟩
  by_cases ho : o = outpoint
  · subst ho
    by_cases hmem : o ∈ outpoints
    · simp [hmem, hlookup]
    · simp [hmem, hlookup]
  · simp only [List.mem_cons, ho, false_or]
    by_cases hmem : o ∈ outpoints
    · simp [hmem, AList.lookup_insert_ne ho]
    · simp [hmem, AList.lookup_insert_ne ho]

/-- How many of the outputs are marked before a mark fails: it needs a read, an entry and a write. -/
def marksMade (env : Env) (store : Table OutPoint StoredUtxo) : Nat → List OutPoint → Nat
  | _, [] => 0
  | n, outpoint :: rest =>
    if env.dbError n = none ∧ (store.lookup outpoint).isSome = true ∧ env.dbError (n + 1) = none then
      marksMade env store (n + 2) rest + 1
    else 0

theorem marksMade_congr {env : Env} {store store' : Table OutPoint StoredUtxo}
    (h : ∀ o, (store.lookup o).isSome = (store'.lookup o).isSome) (n : Nat)
    (outpoints : List OutPoint) :
    marksMade env store n outpoints = marksMade env store' n outpoints := by
  induction outpoints generalizing n with
  | nil => rfl
  | cons outpoint rest ih =>
    unfold marksMade
    rw [h, ih]

theorem Marked.isSome {state : UtxoState} {outpoints : List OutPoint} {w w' : Wallet}
    (h : Marked state outpoints w w') (o : OutPoint) :
    (w'.utxoStore.lookup o).isSome = (w.utxoStore.lookup o).isSome := by
  rw [h.store]
  split
  · exact Option.isSome_map
  · rfl

/-- **The loop of marks.** The induction is on the outputs; each pass makes two calls. -/
theorem wp_marks (env : Env) (state : UtxoState) (utxos : List Utxo) (w : World) :
    let outpoints := utxos.map (·.outpoint)
    let made := marksMade env w.wallet.utxoStore w.calls outpoints
    wp (utxos.forM fun utxo => UtxoStore.mark env state utxo.outpoint)
      (fun _ w' => made = outpoints.length ∧ Marked state outpoints w.wallet w'.wallet
        ∧ w'.calls = w.calls + 2 * outpoints.length)
      (fun _ w' => made < outpoints.length ∧ Marked state (outpoints.take made) w.wallet w'.wallet)
      w := by
  intro outpoints made
  induction utxos generalizing w with
  | nil => exact ⟨rfl, .refl state w.wallet, rfl⟩
  | cons utxo utxos ih =>
    change wp (UtxoStore.mark env state utxo.outpoint >>= fun _ => _) _ _ w
    simp only [UtxoStore.mark, wp_bind, wp_access, wp_getWallet, wp_orFail, wp_modifyWallet]
    have hmade : made = if env.dbError w.calls = none
        ∧ (w.wallet.utxoStore.lookup utxo.outpoint).isSome = true
        ∧ env.dbError (w.calls + 1) = none then
        marksMade env w.wallet.utxoStore (w.calls + 2) (utxos.map (·.outpoint)) + 1 else 0 := rfl
    -- a mark that fails leaves the wallet as it is
    have hstop : ¬ (env.dbError w.calls = none
        ∧ (w.wallet.utxoStore.lookup utxo.outpoint).isSome = true
        ∧ env.dbError (w.calls + 1) = none) → made < outpoints.length
          ∧ Marked state (outpoints.take made) w.wallet w.wallet := by
      intro hno
      rw [hmade, if_neg hno]
      exact ⟨Nat.succ_pos _, .refl state w.wallet⟩
    refine ⟨fun hread => ⟨fun stored hstored => ⟨fun hwrite => ?_, fun e hwrite => ?_⟩, fun hnone => ?_⟩,
      fun e hread => ?_⟩
    · rw [if_pos ⟨hread, by rw [hstored]; rfl, hwrite⟩] at hmade
      have hsame : ∀ o, ((w.wallet.utxoStore.insert utxo.outpoint
          { stored with state }).lookup o).isSome = (w.wallet.utxoStore.lookup o).isSome := by
        intro o
        by_cases ho : o = utxo.outpoint
        · rw [ho, AList.lookup_insert, hstored]
          rfl
        · rw [AList.lookup_insert_ne ho]
      refine wp_mono (ih ⟨_, w.calls + 2⟩) ?_ ?_
      · rintro - w' ⟨hcount, hmarked, hcalls⟩
        rw [marksMade_congr hsame] at hcount
        refine ⟨by rw [hmade, hcount]; rfl, .cons hstored hmarked, hcalls.trans ?_⟩
        simp only [outpoints, List.map_cons, List.length_cons]
        omega
      · rintro - w' ⟨hcount, hmarked⟩
        rw [marksMade_congr hsame] at hcount hmarked
        rw [hmade]
        exact ⟨Nat.succ_lt_succ hcount, .cons hstored hmarked⟩
    · exact hstop fun h => by rw [h.2.2] at hwrite; cases hwrite
    · exact hstop fun h => by rw [hnone] at h; cases h.2.1
    · exact hstop fun h => by rw [h.1] at hread; cases hread

/-! ## How a replacement ends -/

def CreatedTransaction.spentOutpoints (created : CreatedTransaction) : List OutPoint :=
  created.spentUtxos.map (·.outpoint)

/-- The replacement, built from the inputs of the original at the new fee rate. -/
def Wallet.replacement (libs : Libs) (w : Wallet) (original : CreatedTransaction)
    (newSatsPerByte : UInt64) : Except String CreatedTransaction :=
  { w with utxos := original.spentUtxos, satsPerByte := newSatsPerByte }.buildTransactionWithOutputs
    libs original.payments (totalValue original.payments)

/-- The request gets past its checks, and all inputs of the original are marked as available. -/
structure Attempted (env : Env) (w : Wallet) (originalTxid : Txid) (newSatsPerByte : UInt64)
    (original : CreatedTransaction) : Prop where
  pending : w.pendingTransactions.lookup originalTxid = some original
  rate : w.satsPerByte < newSatsPerByte
  marks : marksMade env w.utxoStore 0 original.spentOutpoints = original.spentOutpoints.length

/-- The marks that a low fee takes back: they start after those that were made. -/
def CreatedTransaction.marksTakenBack (env : Env) (w : Wallet) (original : CreatedTransaction) :
    List OutPoint :=
  original.spentOutpoints.take (marksMade env w.utxoStore (2 * original.spentOutpoints.length)
    original.spentOutpoints)

/-- Every way in which a replacement fails, with the wallet it leaves. -/
inductive ReplaceFails (libs : Libs) (env : Env) (w : Wallet) (originalTxid : Txid)
    (newSatsPerByte : UInt64) : Wallet → Prop where
  | notPending (hpending : w.pendingTransactions.lookup originalTxid = none) :
    ReplaceFails libs env w originalTxid newSatsPerByte w
  | lowRate {original : CreatedTransaction}
    (hpending : w.pendingTransactions.lookup originalTxid = some original)
    (hrate : newSatsPerByte ≤ w.satsPerByte) :
    ReplaceFails libs env w originalTxid newSatsPerByte w
  | unmarked {original : CreatedTransaction} {w' : Wallet}
    (hpending : w.pendingTransactions.lookup originalTxid = some original)
    (hrate : w.satsPerByte < newSatsPerByte)
    (hmade : marksMade env w.utxoStore 0 original.spentOutpoints < original.spentOutpoints.length)
    (hmarked : Marked .available (original.spentOutpoints.take
      (marksMade env w.utxoStore 0 original.spentOutpoints)) w w') :
    ReplaceFails libs env w originalTxid newSatsPerByte w'
  | unbuilt {original : CreatedTransaction} {e : String} {w' : Wallet}
    (hattempted : Attempted env w originalTxid newSatsPerByte original)
    (hbuild : w.replacement libs original newSatsPerByte = .error e)
    (hmarked : Marked .available original.spentOutpoints w w') :
    ReplaceFails libs env w originalTxid newSatsPerByte { w' with utxos := original.spentUtxos }
  | lowFee {original replacement : CreatedTransaction} {w' w'' : Wallet}
    (hattempted : Attempted env w originalTxid newSatsPerByte original)
    (hbuild : w.replacement libs original newSatsPerByte = .ok replacement)
    (hfee : replacement.feeSat ≤ original.feeSat)
    (hmarked : Marked .available original.spentOutpoints w w')
    (hback : Marked .spentUnconfirmed (original.marksTakenBack env w) w' w'') :
    ReplaceFails libs env w originalTxid newSatsPerByte w''
  | unremoved {original replacement : CreatedTransaction} {w' : Wallet}
    (hattempted : Attempted env w originalTxid newSatsPerByte original)
    (hbuild : w.replacement libs original newSatsPerByte = .ok replacement)
    (hfee : original.feeSat < replacement.feeSat)
    (hmarked : Marked .available original.spentOutpoints w w') :
    ReplaceFails libs env w originalTxid newSatsPerByte
      { w' with pendingTransactions := w'.pendingTransactions.erase originalTxid }

/-- The old change goes; that its deletion failed is ignored. -/
def Wallet.dropChange (env : Env) (originalTxid : Txid) (original : CreatedTransaction) (w : Wallet) :
    Wallet :=
  if 0 < original.changeValue then
    { w with utxoStore :=
        if env.dbError (2 * original.spentOutpoints.length + 1) = none then
          w.utxoStore.erase (original.changeOutpoint originalTxid) else w.utxoStore }.without
      [original.changeOutpoint originalTxid]
  else w

section DropChange

variable (env : Env) (originalTxid : Txid) (original : CreatedTransaction) (w : Wallet)

theorem Wallet.dropChange_utxos : (w.dropChange env originalTxid original).utxos
    = w.utxos.filter fun utxo => ¬ (0 < original.changeValue
      ∧ utxo.outpoint = original.changeOutpoint originalTxid) := by
  unfold dropChange
  split
  · next hchange => simp [Wallet.without, hchange]
  · next hchange => simp [hchange]

theorem Wallet.dropChange_utxoStore : (w.dropChange env originalTxid original).utxoStore
    = if 0 < original.changeValue ∧ env.dbError (2 * original.spentOutpoints.length + 1) = none then
        w.utxoStore.erase (original.changeOutpoint originalTxid)
      else w.utxoStore := by
  unfold dropChange
  split
  · next hchange => simp [Wallet.without, hchange]
  · next hchange => simp [hchange]

theorem Wallet.dropChange_pendingTransactions :
    (w.dropChange env originalTxid original).pendingTransactions = w.pendingTransactions := by
  unfold dropChange
  split
  · rfl
  · rfl

end DropChange

structure Replaced (libs : Libs) (env : Env) (w : Wallet) (originalTxid : Txid)
    (newSatsPerByte : UInt64) (original replacement : CreatedTransaction) (w' : Wallet) : Prop where
  attempted : Attempted env w originalTxid newSatsPerByte original
  build : w.replacement libs original newSatsPerByte = .ok replacement
  fee : original.feeSat < replacement.feeSat
  wallet : ∃ marked, Marked .available original.spentOutpoints w marked
    ∧ w' = { marked with
        pendingTransactions := w.pendingTransactions.erase originalTxid
        pendingTxStore := w.pendingTxStore.erase originalTxid }.dropChange env originalTxid original

theorem wp_replaceTransaction (libs : Libs) (env : Env) (w : Wallet) (originalTxid : Txid)
    (newSatsPerByte : UInt64) :
    wp (replaceTransaction libs env originalTxid newSatsPerByte)
      (fun replacement w' => ∃ original,
        Replaced libs env w originalTxid newSatsPerByte original replacement w'.wallet)
      (fun _ w' => ReplaceFails libs env w originalTxid newSatsPerByte w'.wallet) ⟨w, 0⟩ := by
  unfold replaceTransaction
  simp only [wp_bind, wp_getWallet, wp_orFail, wp_ensure]
  refine ⟨fun original hpending => ?_, fun hpending => .notPending hpending⟩
  split
  case isFalse hrate => exact .lowRate hpending (UInt64.not_lt.mp hrate)
  case isTrue hrate =>
  refine wp_mono (wp_marks env .available original.spentUtxos ⟨w, 0⟩) ?_ ?_
  · rintro - ⟨marked, calls⟩ ⟨hmade, hmarked, hcalls⟩
    have hattempted : Attempted env w originalTxid newSatsPerByte original := ⟨hpending, hrate, hmade⟩
    obtain ⟨store, rfl⟩ : ∃ store, marked = { w with utxoStore := store } := ⟨_, hmarked.rest⟩
    obtain rfl : calls = 2 * original.spentOutpoints.length := hcalls.trans (Nat.zero_add _)
    simp only [wp_modifyWallet, wp_orError]
    refine ⟨fun replacement hbuild => ?_, fun e hbuild => .unbuilt hattempted hbuild hmarked⟩
    split
    · -- the fee is too low: the marks are taken back, as far as the database lets them
      next hfee =>
      have hmade : marksMade env store (2 * original.spentOutpoints.length) original.spentOutpoints
          = marksMade env w.utxoStore _ original.spentOutpoints := marksMade_congr hmarked.isSome _ _
      rw [wp_bind]
      refine wp_mono (wp_marks env .spentUnconfirmed original.spentUtxos _) ?_ ?_
      · rintro - w' ⟨hall, hback, -⟩
        refine .lowFee hattempted hbuild hfee hmarked ?_
        have htake : original.marksTakenBack env w = original.spentOutpoints :=
          List.take_of_length_le (hmade ▸ hall.ge)
        rw [htake]
        exact hback
      · rintro - w' ⟨-, hback⟩
        refine .lowFee hattempted hbuild hfee hmarked ?_
        rw [CreatedTransaction.marksTakenBack, ← hmade]
        exact hback
    · next hfee =>
      have hfee : original.feeSat < replacement.feeSat := UInt64.not_le.mp hfee
      simp only [PendingTransactionStore.remove, UtxoStore.remove, wp_bind, wp_modifyWallet, wp_access,
        wp_ite, wp_attempt, wp_pure]
      refine ⟨fun hdelete => ?_, fun e hdelete => .unremoved hattempted hbuild hfee hmarked⟩
      split
      · next hchange =>
        refine ⟨fun hdelete => ?_, fun e hdelete => ?_⟩
        · refine ⟨original, hattempted, hbuild, hfee, _, hmarked, ?_⟩
          simp only [Wallet.dropChange, if_pos hchange, if_pos hdelete]
        · refine ⟨original, hattempted, hbuild, hfee, _, hmarked, ?_⟩
          have hfailed : ¬ env.dbError (2 * original.spentOutpoints.length + 1) = none := by
            rw [hdelete]
            rintro ⟨⟩
          simp only [Wallet.dropChange, if_pos hchange, if_neg hfailed]
      · next hchange =>
        refine ⟨original, hattempted, hbuild, hfee, _, hmarked, ?_⟩
        simp only [Wallet.dropChange, if_neg hchange]
  · rintro - w' ⟨hmade, hmarked⟩
    exact .unmarked hpending hrate hmade hmarked

/-! ## A failed replacement -/

/-- The lists, states, pending transactions and the fee rate are what they were. -/
structure Unchanged (w w' : Wallet) : Prop where
  utxos : w'.utxos = w.utxos
  satsPerByte : w'.satsPerByte = w.satsPerByte
  utxoStore : ∀ o, w'.utxoStore.lookup o = w.utxoStore.lookup o
  pendingTransactions : ∀ txid, w'.pendingTransactions.lookup txid = w.pendingTransactions.lookup txid
  pendingTxStore : ∀ txid, w'.pendingTxStore.lookup txid = w.pendingTxStore.lookup txid

/-- The entry of the output, if there is one, has the state. -/
def Wallet.StoredAs (w : Wallet) (state : UtxoState) (o : OutPoint) : Prop :=
  ∀ stored, w.utxoStore.lookup o = some stored → stored.state = state

theorem map_state_eq_iff {w : Wallet} {state : UtxoState} {o : OutPoint} :
    (w.utxoStore.lookup o).map (fun stored => { stored with state }) = w.utxoStore.lookup o
      ↔ w.StoredAs state o := by
  unfold Wallet.StoredAs
  cases w.utxoStore.lookup o with
  | none => simp
  | some stored =>
    cases stored
    simp [eq_comm]

theorem unchanged_iff_store {w w' : Wallet} (h : w' = { w with utxoStore := w'.utxoStore }) :
    Unchanged w w' ↔ ∀ o, w'.utxoStore.lookup o = w.utxoStore.lookup o := by
  refine ⟨fun hsame => hsame.utxoStore, fun hstore => ?_⟩
  rw [h] at hstore ⊢
  exact ⟨rfl, rfl, hstore, fun _ => rfl, fun _ => rfl⟩

theorem Marked.unchanged_iff {state : UtxoState} {outpoints : List OutPoint} {w w' : Wallet}
    (h : Marked state outpoints w w') :
    Unchanged w w' ↔ ∀ o ∈ outpoints, w.StoredAs state o := by
  rw [unchanged_iff_store h.rest]
  refine forall_congr' fun o => ?_
  rw [h.store]
  by_cases ho : o ∈ outpoints
  · simp [ho, map_state_eq_iff]
  · simp [ho]

/-- Marks that are taken back in part leave the store as it was when the inputs had the states in
which they end. -/
theorem Marked.takenBack_unchanged_iff {outpoints back : List OutPoint} {w w' w'' : Wallet}
    (h : Marked .available outpoints w w') (hback : Marked .spentUnconfirmed back w' w'')
    (hsub : back ⊆ outpoints) :
    Unchanged w w'' ↔ (∀ o ∈ back, w.StoredAs .spentUnconfirmed o)
      ∧ ∀ o ∈ outpoints, o ∉ back → w.StoredAs .available o := by
  rw [unchanged_iff_store (hback.rest.trans (by rw [h.rest])), ← forall_and]
  refine forall_congr' fun o => ?_
  rw [hback.store, h.store]
  by_cases ho : o ∈ back
  · rw [if_pos ho, if_pos (hsub ho), Option.map_map]
    simpa [ho, Function.comp_def] using map_state_eq_iff
  · by_cases hout : o ∈ outpoints
    · simp [ho, hout, map_state_eq_iff]
    · simp [ho, hout]

/-- When a failed request leaves the wallet as it was: it is rejected by its first checks, or what it
writes before it fails was there already. -/
def RejectedCleanly (libs : Libs) (env : Env) (w : Wallet) (originalTxid : Txid)
    (newSatsPerByte : UInt64) : Prop :=
  match w.pendingTransactions.lookup originalTxid with
  | none => True
  | some original =>
    let outpoints := original.spentOutpoints
    let made := marksMade env w.utxoStore 0 outpoints
    let back := original.marksTakenBack env w
    newSatsPerByte ≤ w.satsPerByte ∨
      if made < outpoints.length then
        -- an input cannot be marked, and those before it were available
        ∀ o ∈ outpoints.take made, w.StoredAs .available o
      else match w.replacement libs original newSatsPerByte with
        | .error _ =>
          -- the inputs do not pay for the replacement, and they were available and the whole list
          w.utxos = original.spentUtxos ∧ ∀ o ∈ outpoints, w.StoredAs .available o
        | .ok replacement =>
          -- the fee is too low, and the inputs had the states in which taking back leaves them
          replacement.feeSat ≤ original.feeSat
            ∧ (∀ o ∈ back, w.StoredAs .spentUnconfirmed o)
            ∧ ∀ o ∈ outpoints, o ∉ back → w.StoredAs .available o

/-- **A failed replacement leaves the wallet as it was** exactly when it is rejected cleanly. -/
theorem replace_error_unchanged_iff {libs : Libs} {env : Env} {w : Wallet} {originalTxid : Txid}
    {newSatsPerByte : UInt64} {e : Failure} {w' : World}
    (h : replaceTransaction libs env originalTxid newSatsPerByte ⟨w, 0⟩ = .error e w') :
    Unchanged w w'.wallet ↔ RejectedCleanly libs env w originalTxid newSatsPerByte := by
  have hfails : ReplaceFails libs env w originalTxid newSatsPerByte w'.wallet := by
    have hends := wp_replaceTransaction libs env w originalTxid newSatsPerByte
    unfold wp at hends
    rwa [h] at hends
  generalize w'.wallet = result at hfails ⊢
  have hsame : Unchanged w w := ⟨rfl, rfl, fun _ => rfl, fun _ => rfl, fun _ => rfl⟩
  unfold RejectedCleanly
  cases hfails with
  | notPending hpending =>
    rw [hpending]
    exact iff_of_true hsame trivial
  | lowRate hpending hrate =>
    rw [hpending]
    exact iff_of_true hsame (.inl hrate)
  | unmarked hpending hrate hmade hmarked =>
    rw [hpending]
    simp only [UInt64.not_le.mpr hrate, false_or, if_pos hmade]
    exact hmarked.unchanged_iff
  | @unbuilt original e marked hattempted hbuild hmarked =>
    rw [hattempted.pending]
    simp only [UInt64.not_le.mpr hattempted.rate, false_or, hattempted.marks, lt_irrefl, if_false,
      hbuild]
    rw [← hmarked.unchanged_iff]
    constructor
    · intro hsame
      exact ⟨hsame.utxos.symm, (unchanged_iff_store hmarked.rest).mpr hsame.utxoStore⟩
    · rintro ⟨hlist, hunchanged⟩
      exact ⟨hlist.symm, hunchanged.satsPerByte, hunchanged.utxoStore, hunchanged.pendingTransactions,
        hunchanged.pendingTxStore⟩
  | lowFee hattempted hbuild hfee hmarked hback =>
    rw [hattempted.pending]
    simp only [UInt64.not_le.mpr hattempted.rate, false_or, hattempted.marks, lt_irrefl, if_false,
      hbuild, hfee, true_and]
    exact hmarked.takenBack_unchanged_iff hback (List.take_subset _ _)
  | unremoved hattempted hbuild hfee hmarked =>
    rw [hattempted.pending]
    simp only [UInt64.not_le.mpr hattempted.rate, false_or, hattempted.marks, lt_irrefl, if_false,
      hbuild, UInt64.not_le.mpr hfee, false_and, iff_false]
    -- the transaction is no longer tracked
    intro hunchanged
    have hpending := hunchanged.pendingTransactions originalTxid
    rw [hattempted.pending, AList.lookup_erase] at hpending
    cases hpending

/-- A payment from a wallet, for runs on fixed inputs. -/
def Wallet.samplePayment (w : Wallet) (amount : UInt64) : CreatedTransaction :=
  ((w.createTransactionOnce .sample [[1]] amount).toOption).getD
    ⟨⟨2, 0, [], []⟩, none, 0, [], [], 0, sampleAddress⟩

def Wallet.samplePaymentTxid (w : Wallet) (amount : UInt64) : Txid :=
  sampleTxid (w.samplePayment amount).transaction

def Wallet.samplePay (w : Wallet) (amount : UInt64) : Wallet :=
  (after (broadcastTransaction .sample .accepting (w.samplePayment amount)) ⟨w, 0⟩).wallet

/-- The first output pays 9000 satoshi; the change would be dust. -/
def Wallet.spent : Wallet := Wallet.sample.samplePay 9000

def spentTxid : Txid := Wallet.sample.samplePaymentTxid 9000

/-- A request at the current rate. -/
theorem current_rate_replacement_unchanged :
    ∃ e w', replaceTransaction .sample .accepting spentTxid 5 ⟨.spent, 0⟩ = .error e w'
      ∧ Unchanged .spent w'.wallet := by
  obtain ⟨e, hfailed⟩ := exists_of_fails (m := replaceTransaction .sample .accepting spentTxid 5)
    (s := ⟨.spent, 0⟩) (by decide +kernel)
  refine ⟨e, _, hfailed, (replace_error_unchanged_iff hfailed).mpr ?_⟩
  have hpending : Wallet.spent.pendingTransactions.lookup spentTxid
      = some (Wallet.sample.samplePayment 9000) := by
    decide +kernel
  unfold RejectedCleanly
  rw [hpending]
  exact .inl (by decide +kernel)

/-- At a high rate the input does not pay for the replacement: the wallet is left with the input as
its whole list, and with the input marked as available. -/
theorem unaffordable_replacement_changes :
    ∃ e w', replaceTransaction .sample .accepting spentTxid 100 ⟨.spent, 0⟩ = .error e w'
      ∧ Wallet.spent.utxos = [⟨sampleOutpoint 2, 20000⟩]
      ∧ w'.wallet.utxos = [⟨sampleOutpoint 1, 10000⟩]
      ∧ (Wallet.spent.utxoStore.lookup (sampleOutpoint 1)).map (·.state) = some .spentUnconfirmed
      ∧ (w'.wallet.utxoStore.lookup (sampleOutpoint 1)).map (·.state) = some .available
      ∧ ¬ Unchanged .spent w'.wallet := by
  obtain ⟨e, hfailed⟩ := exists_of_fails (m := replaceTransaction .sample .accepting spentTxid 100)
    (s := ⟨.spent, 0⟩) (by decide +kernel)
  refine ⟨e, _, hfailed, by decide +kernel, by decide +kernel, by decide +kernel, by decide +kernel,
    fun hunchanged => ?_⟩
  exact absurd hunchanged.utxos (by decide +kernel)

/-! ## A successful replacement -/

/-- The root, and the tracked transactions that spend from it, directly or through others. -/
inductive Descends (pending : Table Txid CreatedTransaction) (root : Txid) : Txid → Prop where
  | root : Descends pending root root
  | spend {txid : Txid} {created : CreatedTransaction} {input : OutPoint}
    (htracked : pending.lookup txid = some created) (hinput : input ∈ created.inputs)
    (h : Descends pending root input.txid) : Descends pending root txid

/-- That the root itself is tracked makes no difference. -/
theorem descends_erase_root {pending : Table Txid CreatedTransaction} {root txid : Txid} :
    Descends (pending.erase root) root txid ↔ Descends pending root txid := by
  constructor
  · intro h
    induction h with
    | root => exact .root
    | spend htracked hinput _ ih =>
      exact .spend (Table.lookup_erase_eq_some.mp htracked).2 hinput ih
  · intro h
    induction h with
    | root => exact .root
    | @spend txid created input htracked hinput _ ih =>
      by_cases hroot : txid = root
      · rw [hroot]
        exact .root
      · exact .spend (Table.lookup_erase_eq_some.mpr ⟨hroot, htracked⟩) hinput ih

def Wallet.StoredAvailable (w : Wallet) (o : OutPoint) : Prop :=
  ∃ stored, w.utxoStore.lookup o = some stored ∧ stored.state = .available

def Wallet.Listed (w : Wallet) (o : OutPoint) : Prop := ∃ utxo ∈ w.utxos, utxo.outpoint = o

/-- No output of the transaction, or of one that spends from it, can be selected. -/
def Wallet.NothingLeftOf (w : Wallet) (root : Txid) : Prop :=
  ∀ o, w.StoredAvailable o ∨ w.Listed o → ¬ Descends w.pendingTransactions root o.txid

/-- The change of the original is the only output of it, and of what spends from it, that is listed,
available or an input of the original; and it can be deleted. -/
def OnlyChangeLeft (env : Env) (w : Wallet) (originalTxid : Txid) (original : CreatedTransaction) :
    Prop :=
  (∀ o, w.StoredAvailable o ∨ o ∈ original.spentOutpoints →
    Descends w.pendingTransactions originalTxid o.txid →
      0 < original.changeValue ∧ o = original.changeOutpoint originalTxid
        ∧ env.dbError (2 * original.spentOutpoints.length + 1) = none)
  ∧ ∀ o, w.Listed o → Descends w.pendingTransactions originalTxid o.txid →
      0 < original.changeValue ∧ o = original.changeOutpoint originalTxid

section Replaced

variable {libs : Libs} {env : Env} {w w' : Wallet} {originalTxid : Txid} {newSatsPerByte : UInt64}
  {original replacement : CreatedTransaction}

theorem Marked.storedAvailable_iff {outpoints : List OutPoint} (h : Marked .available outpoints w w')
    (hstored : ∀ o ∈ outpoints, (w.utxoStore.lookup o).isSome = true) (o : OutPoint) :
    w'.StoredAvailable o ↔ w.StoredAvailable o ∨ o ∈ outpoints := by
  unfold Wallet.StoredAvailable
  rw [h.store]
  by_cases ho : o ∈ outpoints
  · obtain ⟨stored, hlookup⟩ := Option.isSome_iff_exists.mp (hstored o ho)
    simp [ho, hlookup]
  · simp [ho]

theorem isSome_of_marksMade {store : Table OutPoint StoredUtxo} {n : Nat} {outpoints : List OutPoint}
    (h : marksMade env store n outpoints = outpoints.length) :
    ∀ o ∈ outpoints, (store.lookup o).isSome = true := by
  induction outpoints generalizing n with
  | nil => exact nofun
  | cons outpoint rest ih =>
    unfold marksMade at h
    split at h
    · next hcond =>
      intro o ho
      rcases List.mem_cons.mp ho with rfl | hrest
      · exact hcond.2.1
      · exact ih (Nat.succ.inj h) o hrest
    · cases h

variable (h : Replaced libs env w originalTxid newSatsPerByte original replacement w')
include h

/-- What can be selected afterwards: what could be before, and the inputs of the original; not the
old change, if it could be deleted. -/
theorem Replaced.storedAvailable_iff (o : OutPoint) :
    w'.StoredAvailable o ↔ (w.StoredAvailable o ∨ o ∈ original.spentOutpoints)
      ∧ ¬ (0 < original.changeValue ∧ o = original.changeOutpoint originalTxid
        ∧ env.dbError (2 * original.spentOutpoints.length + 1) = none) := by
  obtain ⟨marked, hmarked, rfl⟩ := h.wallet
  rw [← hmarked.storedAvailable_iff (isSome_of_marksMade h.attempted.marks)]
  unfold Wallet.StoredAvailable
  rw [Wallet.dropChange_utxoStore]
  split
  · next hdeleted =>
    simp only [Table.lookup_erase_eq_some, hdeleted, true_and, and_true, and_assoc, exists_and_left]
    exact and_comm
  · next hdeleted =>
    refine (and_iff_left fun hnot => hdeleted ⟨hnot.1, hnot.2.2⟩).symm

theorem Replaced.listed_iff (o : OutPoint) :
    w'.Listed o ↔ w.Listed o
      ∧ ¬ (0 < original.changeValue ∧ o = original.changeOutpoint originalTxid) := by
  obtain ⟨marked, hmarked, rfl⟩ := h.wallet
  have hutxos : marked.utxos = w.utxos := by rw [hmarked.rest]
  simp only [Wallet.Listed, Wallet.dropChange_utxos, hutxos, List.mem_filter, decide_eq_true_eq]
  constructor
  · rintro ⟨utxo, ⟨hmem, hnot⟩, rfl⟩
    exact ⟨⟨utxo, hmem, rfl⟩, hnot⟩
  · rintro ⟨⟨utxo, hmem, rfl⟩, hnot⟩
    exact ⟨utxo, ⟨hmem, hnot⟩, rfl⟩

theorem Replaced.pending_eq :
    w'.pendingTransactions = w.pendingTransactions.erase originalTxid := by
  obtain ⟨marked, -, rfl⟩ := h.wallet
  exact Wallet.dropChange_pendingTransactions ..

end Replaced

/-- **A successful replacement leaves nothing of the original to be selected** exactly when its
change was all there was. -/
theorem replace_leaves_nothing_iff {libs : Libs} {env : Env} {w : Wallet} {originalTxid : Txid}
    {newSatsPerByte : UInt64} {original replacement : CreatedTransaction} {w' : World}
    (hpending : w.pendingTransactions.lookup originalTxid = some original)
    (h : replaceTransaction libs env originalTxid newSatsPerByte ⟨w, 0⟩ = .ok replacement w') :
    w'.wallet.NothingLeftOf originalTxid ↔ OnlyChangeLeft env w originalTxid original := by
  obtain ⟨tracked, hreplaced⟩ : ∃ original,
      Replaced libs env w originalTxid newSatsPerByte original replacement w'.wallet := by
    have hends := wp_replaceTransaction libs env w originalTxid newSatsPerByte
    unfold wp at hends
    rwa [h] at hends
  cases hpending.symm.trans hreplaced.attempted.pending
  unfold Wallet.NothingLeftOf OnlyChangeLeft
  simp only [hreplaced.pending_eq, descends_erase_root, hreplaced.storedAvailable_iff,
    hreplaced.listed_iff]
  constructor
  · intro hnothing
    refine ⟨fun o ho hdescends => ?_, fun o ho hdescends => ?_⟩
    · by_contra hnot
      exact hnothing o (.inl ⟨ho, hnot⟩) hdescends
    · by_contra hnot
      exact hnothing o (.inr ⟨ho, hnot⟩) hdescends
  · rintro ⟨hstored, hlisted⟩ o (⟨ho, hnot⟩ | ⟨ho, hnot⟩) hdescends
    · exact hnot (hstored o ho hdescends)
    · exact hnot (hlisted o ho hdescends)

/-- The first output pays 1000 satoshi; the change is available. -/
def Wallet.parent : Wallet := Wallet.sample.samplePay 1000

def parentTxid : Txid := Wallet.sample.samplePaymentTxid 1000

/-- The replacement of a payment that nothing spends from. -/
theorem replaced_payment_leaves_nothing :
    ∃ replacement w', replaceTransaction .sample .accepting parentTxid 6 ⟨.parent, 0⟩
        = .ok replacement w'
      ∧ w'.wallet.NothingLeftOf parentTxid := by
  obtain ⟨replacement, hreplaced⟩ := exists_of_not_fails
    (m := replaceTransaction .sample .accepting parentTxid 6) (s := ⟨.parent, 0⟩) (by decide +kernel)
  have hpending : Wallet.parent.pendingTransactions.lookup parentTxid
      = some (Wallet.sample.samplePayment 1000) := by
    decide +kernel
  refine ⟨replacement, _, hreplaced, (replace_leaves_nothing_iff hpending hreplaced).mpr ?_⟩
  -- the payment is the only transaction that is tracked
  have htracked : ∀ {txid}, Descends Wallet.parent.pendingTransactions parentTxid txid →
      txid = parentTxid := by
    intro txid h
    cases h with
    | root => rfl
    | @spend _ created _ hlookup _ _ =>
      have hall : ∀ entry ∈ Wallet.parent.pendingTransactions.inOrder (fun _ => 0),
          entry.1 = parentTxid := by
        decide +kernel
      exact hall (txid, created) (Table.mem_inOrder.mpr hlookup)
  have hchange : 0 < (Wallet.sample.samplePayment 1000).changeValue := by decide +kernel
  refine ⟨fun o ho hdescends => ⟨hchange, ?_, rfl⟩, fun o ho hdescends => ⟨hchange, ?_⟩⟩
  · have hstored : ∀ entry ∈ Wallet.parent.utxoStore.inOrder (fun _ => 0), entry.1.txid = parentTxid →
        entry.1 = (Wallet.sample.samplePayment 1000).changeOutpoint parentTxid := by
      decide +kernel
    have hspent : ∀ o ∈ (Wallet.sample.samplePayment 1000).spentOutpoints, o.txid ≠ parentTxid := by
      decide +kernel
    rcases ho with ⟨stored, hlookup, -⟩ | ho
    · exact hstored (o, stored) (Table.mem_inOrder.mpr hlookup) (htracked hdescends)
    · exact absurd (htracked hdescends) (hspent o ho)
  · have hlisted : ∀ utxo ∈ Wallet.parent.utxos, utxo.outpoint.txid = parentTxid →
        utxo.outpoint = (Wallet.sample.samplePayment 1000).changeOutpoint parentTxid := by
      decide +kernel
    obtain ⟨utxo, hmem, rfl⟩ := ho
    exact hlisted utxo hmem (htracked hdescends)

/-- The change of the first payment and the second output pay 25000 satoshi. -/
def Wallet.child : Wallet := Wallet.parent.samplePay 25000

def childTxid : Txid := Wallet.parent.samplePaymentTxid 25000

/-- After the replacement of the first payment, the change of the second one can be selected, though
it can no longer be confirmed. -/
theorem replaced_parent_leaves_child :
    ∃ replacement w', replaceTransaction .sample .accepting parentTxid 6 ⟨.child, 0⟩
        = .ok replacement w'
      ∧ w'.wallet.utxos.map (·.outpoint) = [⟨childTxid, 1⟩]
      ∧ ¬ w'.wallet.NothingLeftOf parentTxid := by
  obtain ⟨replacement, hreplaced⟩ := exists_of_not_fails
    (m := replaceTransaction .sample .accepting parentTxid 6) (s := ⟨.child, 0⟩) (by decide +kernel)
  have hutxos : (after (replaceTransaction .sample .accepting parentTxid 6)
      ⟨.child, 0⟩).wallet.utxos.map (·.outpoint) = [⟨childTxid, 1⟩] := by
    decide +kernel
  refine ⟨replacement, _, hreplaced, hutxos, fun hnothing => ?_⟩
  have hchild : (after (replaceTransaction .sample .accepting parentTxid 6)
      ⟨.child, 0⟩).wallet.pendingTransactions.lookup childTxid
        = some (Wallet.parent.samplePayment 25000) := by
    decide +kernel
  have hinput : (⟨parentTxid, 1⟩ : OutPoint) ∈ (Wallet.parent.samplePayment 25000).inputs := by
    decide +kernel
  have hlisted : (⟨childTxid, 1⟩ : OutPoint) ∈ (after (replaceTransaction .sample .accepting
      parentTxid 6) ⟨.child, 0⟩).wallet.utxos.map (·.outpoint) := by
    rw [hutxos]
    exact List.mem_singleton_self _
  obtain ⟨utxo, hmem, heq⟩ := List.mem_map.mp hlisted
  exact hnothing ⟨childTxid, 1⟩ (.inr ⟨utxo, hmem, heq⟩) (.spend hchild hinput .root)

end UnionBridge.BitcoinWallet
