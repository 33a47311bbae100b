import UnionBridge.BitcoinWallet.Transactions
import Mathlib.Data.UInt

/-!
# The wallet (`bitcoin-wallet/src/wallet.rs`, `utxo_store.rs`, `pending_tx_store.rs`)

The wallet keeps the unspent outputs of the active address in memory, and those of all addresses with
their state in a database. A transaction that was broadcast stays in the table of pending
transactions until it is confirmed or replaced.

Each access to a database can fail, and what was written before it stays. Accesses, clock, random
numbers and answers of the node are numbered through an operation (`calls`); `Env` has what each of
them gives.
-/

namespace UnionBridge.BitcoinWallet

open Contracts Effect Word64

inductive UtxoState where
  | available
  | spentUnconfirmed
deriving DecidableEq

structure StoredUtxo where
  valueSat : UInt64
  timestamp : UInt64
  address : Option Address
  state : UtxoState
deriving DecidableEq

/-- What the database keeps of a pending transaction. -/
structure StoredTransaction where
  transaction : Transaction
  change : Option Utxo
  feeSat : UInt64
  spentUtxos : List Utxo
  changeAddress : Address
deriving DecidableEq

def StoredTransaction.fromCreated (created : CreatedTransaction) : StoredTransaction where
  transaction := created.transaction
  change := created.change
  feeSat := created.feeSat
  spentUtxos := created.spentUtxos
  changeAddress := created.changeAddress

structure Wallet where
  network : Network
  privateKeys : Table Address PrivateKey
  activeAddress : Option Address
  utxos : List Utxo
  satsPerByte : UInt64
  utxoStore : Table OutPoint StoredUtxo
  /-- An RPC client is configured. -/
  rpcClient : Bool
  pendingTransactions : Table Txid CreatedTransaction
  pendingTxStore : Table Txid StoredTransaction
  enablerAmount : UInt64

def Wallet.new (network : Network) : Wallet where
  network
  privateKeys := ∅
  activeAddress := none
  utxos := []
  satsPerByte := defaultSatsPerByte
  utxoStore := ∅
  rpcClient := false
  pendingTransactions := ∅
  pendingTxStore := ∅
  enablerAmount := defaultEnablerAmount

/-- The outside of one operation, by the number of the call. -/
structure Env where
  dbError : Nat → Option String
  timestamp : Nat → UInt64
  secretKey : Nat → Bytes
  sendRawTransaction : Nat → Transaction → Except String Txid

structure World where
  wallet : Wallet
  calls : Nat

abbrev Program := EStateM Failure World

def fail {α : Type} (message : String) : Program α := throw (.err message)

/-- `opt.ok_or_else(..)?`. -/
def orFail {α : Type} (o : Option α) (message : String) : Program α := okOr o (.err message)

/-- `result?`. -/
def orError {α : Type} (result : Except String α) : Program α :=
  match result with
  | .ok a => pure a
  | .error e => fail e

def isErr : Failure → Bool
  | .err _ => true
  | .panic _ => false

def getWallet : Program Wallet := do
  let w ← get
  return w.wallet

def modifyWallet (f : Wallet → Wallet) : Program PUnit := modify fun w => { w with wallet := f w.wallet }

def nextCall : Program Nat := modifyGet fun w => (w.calls, { w with calls := w.calls + 1 })

variable (libs : Libs) (env : Env)

def access (context : String) : Program Unit := do
  let n ← nextCall
  match env.dbError n with
  | some e => fail (context ++ e)
  | none => pure ()

/-! ## The store of outputs -/

namespace UtxoStore

def insert (env : Env) (outpoint : OutPoint) (valueSat : UInt64) (address : Address) :
    Program Unit := do
  let timestamp := env.timestamp (← nextCall)
  access env "failed to write utxo: "
  modifyWallet fun w => { w with
    utxoStore := w.utxoStore.insert outpoint ⟨valueSat, timestamp, some address, .available⟩ }

/-- `mark_spent_unconfirmed` and `mark_available`, which differ in the state alone. -/
def mark (env : Env) (state : UtxoState) (outpoint : OutPoint) : Program Unit := do
  access env "failed to read utxo: "
  let stored ← orFail ((← getWallet).utxoStore.lookup outpoint)
    ("utxo not found: " ++ outpoint.text)
  access env "failed to update utxo state: "
  modifyWallet fun w => { w with utxoStore := w.utxoStore.insert outpoint { stored with state } }

def markSpentUnconfirmed (env : Env) (outpoint : OutPoint) : Program Unit :=
  mark env .spentUnconfirmed outpoint

def markAvailable (env : Env) (outpoint : OutPoint) : Program Unit := mark env .available outpoint

def remove (env : Env) (outpoint : OutPoint) : Program Unit := do
  access env "failed to delete utxo: "
  modifyWallet fun w => { w with utxoStore := w.utxoStore.erase outpoint }

/-- The entries of an address, in the order of the keys. -/
def loadByAddress (libs : Libs) (env : Env) (address : Address) :
    Program (List (OutPoint × StoredUtxo)) := do
  access env "failed to iterate utxos: "
  return ((← getWallet).utxoStore.inOrder libs.keyOrder).filter fun entry =>
    entry.2.address = some address

def contains (env : Env) (outpoint : OutPoint) : Program Bool := do
  access env "failed to read utxo: "
  return ((← getWallet).utxoStore.lookup outpoint).isSome

def clear (libs : Libs) (env : Env) : Program Unit := do
  access env "failed to iterate utxos: "
  let entries := (← getWallet).utxoStore.inOrder libs.keyOrder
  entries.forM fun entry => remove env entry.1

end UtxoStore

namespace PendingTransactionStore

def save (env : Env) (txid : Txid) (created : CreatedTransaction) : Program Unit := do
  access env "failed to save pending transaction: "
  modifyWallet fun w => { w with pendingTxStore := w.pendingTxStore.insert txid (.fromCreated created) }

def remove (env : Env) (txid : Txid) : Program Unit := do
  access env "failed to delete pending transaction: "
  modifyWallet fun w => { w with pendingTxStore := w.pendingTxStore.erase txid }

end PendingTransactionStore

/-! ## Keys and addresses -/

def Wallet.requireActiveAddress (w : Wallet) : Except String Address :=
  orMessage "import a private key first" w.activeAddress

def Wallet.requireActivePrivateKey (w : Wallet) : Except String PrivateKey := do
  let address ← w.requireActiveAddress
  orMessage ("no private key loaded for " ++ address.text) (w.privateKeys.lookup address)

def availableUtxos (entries : List (OutPoint × StoredUtxo)) : List Utxo :=
  (entries.filter fun entry => entry.2.state = .available).map fun entry =>
    ⟨entry.1, entry.2.valueSat⟩

def reloadActiveUtxos : Program Unit := do
  match (← getWallet).activeAddress with
  | some address => do
    let entries ← UtxoStore.loadByAddress libs env address
    modifyWallet fun w => { w with utxos := availableUtxos entries }
  | none => modifyWallet fun w => { w with utxos := [] }

def importPrivateKey (wif : String) : Program Address := do
  let privateKey ← orFail (libs.fromWif wif) "failed to parse WIF private key"
  let network := (← getWallet).network
  ensure (privateKey.network = network.kind)
    (.err ("private key network (" ++ privateKey.network.text
      ++ ") does not match current wallet network (" ++ network.text ++ ")."))
  ensure (privateKey.compressed = true)
    (.err "private key must correspond to a compressed public key")
  let address := libs.addressOf privateKey network
  modifyWallet fun w => { w with
    privateKeys := w.privateKeys.insert address privateKey, activeAddress := some address }
  reloadActiveUtxos libs env
  return address

/-- A new key is compressed and of the network; it becomes active only if there was none. -/
def generateAddress : Program Address := do
  let network := (← getWallet).network
  let privateKey : PrivateKey := ⟨env.secretKey (← nextCall), true, network.kind⟩
  let address := libs.addressOf privateKey network
  modifyWallet fun w => { w with
    privateKeys := w.privateKeys.insert address privateKey
    activeAddress := some (w.activeAddress.getD address) }
  reloadActiveUtxos libs env
  return address

def switchActiveAddress (address : Address) : Program Unit := do
  ensure (((← getWallet).privateKeys.lookup address).isSome = true)
    (.err ("address " ++ address.text ++ " is not managed by this wallet"))
  modifyWallet fun w => { w with activeAddress := some address }
  reloadActiveUtxos libs env

def registerUtxo (outpoint : OutPoint) (amount : UInt64) : Program Unit := do
  let w ← getWallet
  let address ← orError w.requireActiveAddress
  let _ ← orError w.requireActivePrivateKey
  ensure (w.utxos.all fun utxo => utxo.outpoint ≠ outpoint)
    (.err ("UTXO " ++ outpoint.text ++ " already registered"))
  let contained ← UtxoStore.contains env outpoint
  ensure (contained = false) (.err ("UTXO " ++ outpoint.text ++ " already exists in the database"))
  UtxoStore.insert env outpoint amount address
  modifyWallet fun w => { w with utxos := w.utxos ++ [⟨outpoint, amount⟩] }

/-! ## Creating transactions -/

def Wallet.buildTransactionWithOutputs (w : Wallet) (outputs : List TxOut)
    (totalOutputAmount : UInt64) : Except String CreatedTransaction := do
  let privateKey ← w.requireActivePrivateKey
  let address ← w.requireActiveAddress
  if privateKey.compressed then
    buildFrom libs ⟨privateKey, outputs, totalOutputAmount, w.satsPerByte⟩ w.utxos address
      totalOutputAmount
  else .error "private key must correspond to a compressed public key"

def Wallet.createTransactionOnce (w : Wallet) (targetScripts : List Bytes)
    (amountSat : UInt64) : Except String CreatedTransaction := do
  if targetScripts.isEmpty then .error "at least one target script is required"
  else
    let totalAmount ← orMessage "total amount overflowed"
      (checkedMul amountSat (.ofNat targetScripts.length))
    w.buildTransactionWithOutputs libs (targetScripts.map fun script => ⟨amountSat, script⟩)
      totalAmount

/-- The same payment `count` times. The wallet is only read. -/
def Wallet.createTransactions (w : Wallet) (targetScripts : List Bytes)
    (amountSat : UInt64) (count : Nat) : Except String (List CreatedTransaction) := do
  if count = 0 then .error "count must be at least 1"
  else if targetScripts.isEmpty then .error "at least one target script is required"
  else
    let _ ← w.requireActivePrivateKey
    (List.range count).mapM fun _ => w.createTransactionOnce libs targetScripts amountSat

/-- `trim_start_matches("0x")`: every leading `0x` goes. -/
def trimHexPrefix : List Char → List Char
  | '0' :: 'x' :: rest => trimHexPrefix rest
  | text => text

def fromHex (text : String) : Option Bytes := Hex.decodeChars (trimHexPrefix text.toList)

/-- `create_pegin_op_return_data`. -/
def peginOpReturnData (packetNumber : UInt64) (rskAddress xpk : Bytes) : Bytes :=
  "RSK_PEGIN".toUTF8.toList ++ toBE 8 packetNumber.toNat ++ rskAddress ++ xpk

def Wallet.createPeginTransaction (w : Wallet) (streamValue packetNumber : UInt64)
    (tmpAddr rskAddressHex enablerScriptPubkeyHex : String) : Except String CreatedTransaction := do
  let privateKey ← w.requireActivePrivateKey
  let destination ← libs.scriptOf tmpAddr w.network
  let rskAddress ← orMessage "invalid RSK address hex" (fromHex rskAddressHex)
  if rskAddress.length ≠ 20 then
    .error ("RSK address must be 20 bytes, got " ++ toString rskAddress.length)
  else
    let data := peginOpReturnData packetNumber rskAddress (libs.xOnlyPublicKey privateKey)
    let enablerScript ← orMessage "invalid enabler scriptPubKey hex"
      (fromHex enablerScriptPubkeyHex)
    let opReturn ← libs.opReturnScript data
    w.buildTransactionWithOutputs libs
      [⟨streamValue, destination⟩, ⟨0, opReturn⟩, ⟨w.enablerAmount, enablerScript⟩]
      (streamValue + w.enablerAmount)

/-! ## Spending -/

/-- The change is the last output. -/
def CreatedTransaction.changeOutpoint (txid : Txid) (created : CreatedTransaction) : OutPoint :=
  ⟨txid, .ofNat (created.transaction.output.length - 1)⟩

def Wallet.without (w : Wallet) (outpoints : List OutPoint) : Wallet :=
  { w with utxos := w.utxos.filter fun utxo => utxo.outpoint ∉ outpoints }

/-- The change can be spent at once. -/
def addChange (txid : Txid) (created : CreatedTransaction) : Program Unit := do
  UtxoStore.insert env (created.changeOutpoint txid) created.changeValue created.changeAddress
  modifyWallet fun w => { w with
    utxos := w.utxos ++ [⟨created.changeOutpoint txid, created.changeValue⟩] }

def commitSpendPending (created : CreatedTransaction) : Program Unit := do
  let txid := libs.computeTxid created.transaction
  created.spentUtxos.forM fun utxo => UtxoStore.markSpentUnconfirmed env utxo.outpoint
  modifyWallet fun w => w.without (created.spentUtxos.map (·.outpoint))
  if 0 < created.changeValue then addChange env txid created
  modifyWallet fun w => { w with pendingTransactions := w.pendingTransactions.insert txid created }
  PendingTransactionStore.save env txid created

/-- A failure of the local bookkeeping is only a warning. -/
def broadcastTransaction (created : CreatedTransaction) : Program Txid := do
  ensure ((← getWallet).rpcClient = true) (.err "RPC client required but not configured")
  let txid ← orError (env.sendRawTransaction (← nextCall) created.transaction)
  let _ ← attempt isErr (commitSpendPending libs env created)
  return txid

/-- `Vec::swap_remove`: the last element takes the place of the removed one. -/
def swapRemove (utxos : List Utxo) (index : Nat) : Outcome (List Utxo) :=
  match utxos.getLast? with
  | none => .error (.panic "swap_remove index out of bounds")
  | some last =>
    if index < utxos.length then .ok ((utxos.set index last).dropLast)
    else .error (.panic "swap_remove index out of bounds")

/-- `update_utxos_after_spend`: the largest position first. -/
def commitSpend (created : CreatedTransaction) : Program (Option Utxo) := do
  created.spentUtxos.forM fun utxo => UtxoStore.remove env utxo.outpoint
  (created.spentIndices.insertionSort (· ≥ ·)).forM fun index => do
    match swapRemove (← getWallet).utxos index with
    | .ok utxos => modifyWallet fun w => { w with utxos }
    | .error e => throw e
  if 0 < created.changeValue then
    let txid := libs.computeTxid created.transaction
    addChange env txid created
    return some ⟨created.changeOutpoint txid, created.changeValue⟩
  else return none

/-! ## Replacing and confirming -/

/-- The outputs without the change, and their sum in 64-bit words. -/
def CreatedTransaction.payments (created : CreatedTransaction) : List TxOut :=
  created.transaction.output.take
    (created.transaction.output.length - if 0 < created.changeValue then 1 else 0)

def totalValue (outputs : List TxOut) : UInt64 := (outputs.map (·.value)).sum

/-- Replace a transaction by one with the same inputs and a higher fee. The wallet has these inputs
alone, and the new fee rate, while the replacement is built. -/
def replaceTransaction (originalTxid : Txid) (newSatsPerByte : UInt64) :
    Program CreatedTransaction := do
  let original ← orFail ((← getWallet).pendingTransactions.lookup originalTxid)
    ("transaction " ++ Hex.encode (TxIdParser.txidToFb32 originalTxid).toBigEndian ++ " is not pending")
  let oldSatsPerByte := (← getWallet).satsPerByte
  ensure (oldSatsPerByte < newSatsPerByte)
    (.err ("new fee rate (" ++ toString newSatsPerByte ++ " sats/byte) must be higher than current ("
      ++ toString oldSatsPerByte ++ " sats/byte)"))
  original.spentUtxos.forM fun utxo => UtxoStore.markAvailable env utxo.outpoint
  let savedUtxos := (← getWallet).utxos
  modifyWallet fun w => { w with utxos := original.spentUtxos, satsPerByte := newSatsPerByte }
  let replacement := (← getWallet).buildTransactionWithOutputs libs original.payments
    (totalValue original.payments)
  modifyWallet fun w => { w with satsPerByte := oldSatsPerByte }
  let replacement ← orError replacement
  modifyWallet fun w => { w with utxos := savedUtxos }
  if replacement.feeSat ≤ original.feeSat then do
    original.spentUtxos.forM fun utxo => UtxoStore.markSpentUnconfirmed env utxo.outpoint
    fail ("replacement transaction fee (" ++ toString replacement.feeSat
      ++ " sats) must be higher than original (" ++ toString original.feeSat ++ " sats)")
  modifyWallet fun w => { w with pendingTransactions := w.pendingTransactions.erase originalTxid }
  PendingTransactionStore.remove env originalTxid
  if 0 < original.changeValue then do
    let oldChange := original.changeOutpoint originalTxid
    let _ ← attempt isErr (UtxoStore.remove env oldChange)
    modifyWallet fun w => w.without [oldChange]
  return replacement

def confirmTransaction (txid : Txid) : Program Unit := do
  let created ← orFail ((← getWallet).pendingTransactions.lookup txid)
    ("transaction " ++ Hex.encode (TxIdParser.txidToFb32 txid).toBigEndian ++ " is not pending")
  modifyWallet fun w => { w with pendingTransactions := w.pendingTransactions.erase txid }
  PendingTransactionStore.remove env txid
  created.spentUtxos.forM fun utxo => UtxoStore.remove env utxo.outpoint

/-! ## Clearing -/

def clearDb : Program Unit := do
  UtxoStore.clear libs env
  modifyWallet fun w => { w with utxos := [] }

def clearActiveAddressUtxos : Program Nat := do
  match (← getWallet).activeAddress with
  | none => return 0
  | some address => do
    let entries ← UtxoStore.loadByAddress libs env address
    entries.forM fun entry => UtxoStore.remove env entry.1
    reloadActiveUtxos libs env
    return entries.length

/-! ## A wallet for runs on fixed inputs -/

/-- An id that tells the transactions of short runs apart. -/
def sampleTxid (tx : Transaction) : Txid :=
  ⟨.ofNat 256 (tx.output.foldl (fun n output => 10007 * n + output.value.toNat)
    (tx.inputs.foldl (fun n input => 1009 * n + 17 * input.txid.value.toNat + input.vout.toNat) 7))⟩

def Libs.sample : Libs where
  computeTxid := sampleTxid
  vsize tx := .ofNat (11 + 68 * tx.input.length + 31 * tx.output.length)
  signInput _ _ _ _ _ := .ok []
  changeScript privateKey := 0x00 :: 0x14 :: privateKey.secret
  addressOf privateKey _ := ⟨Hex.encode privateKey.secret⟩
  fromWif text := some ⟨text.toUTF8.toList, true, .test⟩
  scriptOf text _ := .ok text.toUTF8.toList
  xOnlyPublicKey privateKey := privateKey.secret
  opReturnScript data := .ok (0x6a :: data)
  keyOrder outpoint := outpoint.txid.value.toNat

/-- Every access succeeds and the node takes every transaction. -/
def Env.accepting : Env where
  dbError _ := none
  timestamp _ := 0
  secretKey n := [.ofNat n]
  sendRawTransaction _ tx := .ok (sampleTxid tx)

def sampleAddress : Address := ⟨Hex.encode [1]⟩

def sampleOutpoint (n : Nat) : OutPoint := ⟨⟨.ofNat 256 n⟩, 0⟩

def Wallet.sample : Wallet :=
  { Wallet.new .regtest with
    privateKeys := (∅ : Table Address PrivateKey).insert sampleAddress ⟨[1], true, .test⟩
    activeAddress := some sampleAddress
    utxos := [⟨sampleOutpoint 1, 10000⟩, ⟨sampleOutpoint 2, 20000⟩]
    utxoStore := ((∅ : Table OutPoint StoredUtxo).insert (sampleOutpoint 2)
        ⟨20000, 0, some sampleAddress, .available⟩).insert (sampleOutpoint 1)
        ⟨10000, 0, some sampleAddress, .available⟩
    rpcClient := true }

end UnionBridge.BitcoinWallet
