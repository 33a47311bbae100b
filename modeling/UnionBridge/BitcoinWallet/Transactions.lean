import UnionBridge.Contracts.Events
import UnionBridge.Lib.Effect
import UnionBridge.Lib.Hex
import UnionBridge.Lib.Outcome
import UnionBridge.Lib.Table
import UnionBridge.Lib.Word64

/-!
# How the wallet builds transactions (`bitcoin-wallet/src/wallet.rs`)

A transaction pays its outputs from unspent outputs of the active address. The inputs are taken in
the order of the list until they cover what is required. The fee depends on the size of the signed
transaction, and the size on whether there is a change output, so the transaction is built until
fee and change fit; when the inputs do not cover the fee, more of them are selected.

Both loops end: the assumed fee rises in each pass of the inner one and stays below the inputs, and
the required amount rises in each pass of the outer one.
-/

namespace UnionBridge.BitcoinWallet

open Contracts Word64

structure OutPoint where
  txid : Txid
  vout : UInt32
deriving DecidableEq

/-- An id is displayed with its bytes in the other order. -/
def OutPoint.text (outpoint : OutPoint) : String :=
  Hex.encode (TxIdParser.txidToFb32 outpoint.txid).toBigEndian ++ ":" ++ toString outpoint.vout

structure TxIn where
  previousOutput : OutPoint
  scriptSig : Bytes
  sequence : UInt32
  witness : List Bytes
deriving DecidableEq

structure TxOut where
  value : UInt64
  scriptPubkey : Bytes
deriving DecidableEq

structure Transaction where
  version : UInt32
  lockTime : UInt32
  input : List TxIn
  output : List TxOut
deriving DecidableEq

/-- An address, as its text. -/
structure Address where
  text : String
deriving DecidableEq

inductive NetworkKind where
  | main
  | test
deriving DecidableEq

def NetworkKind.text : NetworkKind → String
  | main => "Main"
  | test => "Test"

inductive Network where
  | bitcoin
  | testnet
  | testnet4
  | signet
  | regtest
deriving DecidableEq

def Network.kind : Network → NetworkKind
  | bitcoin => .main
  | _ => .test

def Network.text : Network → String
  | bitcoin => "Bitcoin"
  | testnet => "Testnet"
  | testnet4 => "Testnet4"
  | signet => "Signet"
  | regtest => "Regtest"

structure PrivateKey where
  secret : Bytes
  compressed : Bool
  network : NetworkKind
deriving DecidableEq

structure Utxo where
  outpoint : OutPoint
  valueSat : UInt64
deriving DecidableEq

structure CreatedTransaction where
  transaction : Transaction
  change : Option Utxo
  feeSat : UInt64
  spentIndices : List Nat
  spentUtxos : List Utxo
  changeValue : UInt64
  changeAddress : Address
deriving DecidableEq

/-- The functions of other crates, and the order of the keys in the database. -/
structure Libs where
  computeTxid : Transaction → Txid
  vsize : Transaction → UInt64
  /-- The witness of an input, over the script and the value that it spends. -/
  signInput : PrivateKey → Transaction → Nat → Bytes → UInt64 → Except String (List Bytes)
  /-- `ScriptBuf::new_p2wpkh` for the public key. -/
  changeScript : PrivateKey → Bytes
  /-- `Address::p2wpkh` for the public key. -/
  addressOf : PrivateKey → Network → Address
  fromWif : String → Option PrivateKey
  /-- The script of an address that was written as text, if it is one of the network. -/
  scriptOf : String → Network → Except String Bytes
  xOnlyPublicKey : PrivateKey → Bytes
  opReturnScript : Bytes → Except String Bytes
  keyOrder : OutPoint → Nat

def defaultSatsPerByte : UInt64 := 5
def defaultEnablerAmount : UInt64 := 1080
def p2wpkhDustLimitSats : UInt64 := 330

/-- `Sequence::ENABLE_RBF_NO_LOCKTIME`. -/
def enableRbfNoLocktime : UInt32 := 0xFFFFFFFD

def Transaction.inputs (tx : Transaction) : List OutPoint := tx.input.map (·.previousOutput)

def CreatedTransaction.inputs (created : CreatedTransaction) : List OutPoint :=
  created.transaction.inputs

/-- `opt.context(message)`. -/
def orMessage {α : Type} (message : String) : Option α → Except String α
  | some a => .ok a
  | none => .error message

theorem orMessage_eq_ok {α : Type} {message : String} {o : Option α} {a : α} :
    orMessage message o = .ok a ↔ o = some a := by
  cases o with
  | none => exact ⟨nofun, nofun⟩
  | some b => simp [orMessage]

/-! ## Selection -/

structure Selection where
  indices : List Nat
  utxos : List Utxo
  total : UInt64

def Selection.empty : Selection := ⟨[], [], 0⟩

/-- The loop of `select_utxos`, with the position of the next entry. -/
def selectLoop (required : UInt64) : List Utxo → Nat → Selection → Except String Selection
  | [], _, selection => .ok selection
  | utxo :: rest, index, selection => do
    let total ← orMessage "overflow selecting UTXOs" (checkedAdd selection.total utxo.valueSat)
    let selection := ⟨selection.indices ++ [index], selection.utxos ++ [utxo], total⟩
    if required ≤ total then .ok selection else selectLoop required rest (index + 1) selection

def selectUtxos (utxos : List Utxo) (required : UInt64) : Except String Selection := do
  let selection ← selectLoop required utxos 0 .empty
  if selection.total < required then
    .error ("insufficient funds: selected " ++ toString selection.total ++ " sat but need at least "
      ++ toString required ++ " sat (including fee)")
  else .ok selection

/-! ## Building -/

structure Plan where
  privateKey : PrivateKey
  outputs : List TxOut
  totalOutputAmount : UInt64
  satsPerByte : UInt64

/-- The transaction without witnesses. The change is the last output. -/
def Plan.unsigned (libs : Libs) (plan : Plan) (utxos : List Utxo) (includeChange : Bool)
    (changeValue : UInt64) : Transaction where
  version := 2
  lockTime := 0
  input := utxos.map fun utxo => ⟨utxo.outpoint, [], enableRbfNoLocktime, []⟩
  output := plan.outputs ++
    if includeChange then [⟨changeValue, libs.changeScript plan.privateKey⟩] else []

def Transaction.setWitness (tx : Transaction) (index : Nat) (witness : List Bytes) : Transaction :=
  { tx with input := tx.input.modify index fun input => { input with witness } }

/-- The loop of `sign_transaction`, over the inputs from `index` on. -/
def signLoop (libs : Libs) (privateKey : PrivateKey) :
    List Utxo → Nat → Transaction → Except String Transaction
  | [], _, tx => .ok tx
  | utxo :: rest, index, tx => do
    let witness ← libs.signInput privateKey tx index (libs.changeScript privateKey) utxo.valueSat
    signLoop libs privateKey rest (index + 1) (tx.setWitness index witness)

def signTransaction (libs : Libs) (privateKey : PrivateKey) (tx : Transaction) (utxos : List Utxo) :
    Except String Transaction :=
  signLoop libs privateKey utxos 0 tx

/-- How the inner loop ends: the inputs do not cover the amount, or the transaction is built. -/
inductive Built where
  | short (required : UInt64)
  | done (signed : Transaction) (fee change : UInt64)

def finishBuild (plan : Plan) (selection : Selection) (signed : Transaction) (includeChange : Bool)
    (changeValue : UInt64) : Except String Built :=
  let change := if includeChange then changeValue else 0
  match (checkedSub selection.total plan.totalOutputAmount).bind (checkedSub · change) with
  | none => .error "fee computation underflow"
  | some fee => .ok (.done signed fee change)

/-- The inner loop of `build_transaction_with_outputs`. -/
def buildLoop (libs : Libs) (plan : Plan) (selection : Selection) (includeChange : Bool)
    (changeValue assumedFee : UInt64) : Except String Built :=
  match signTransaction libs plan.privateKey
      (plan.unsigned libs selection.utxos includeChange changeValue) selection.utxos with
  | .error e => .error e
  | .ok signed =>
    match checkedMul (libs.vsize signed) plan.satsPerByte with
    | none => .error "fee computation overflowed"
    | some fee =>
      match _hsum : checkedAdd plan.totalOutputAmount fee with
      | none => .error "amount plus fee overflowed"
      | some totalRequired =>
        if selection.total < totalRequired then .ok (.short totalRequired)
        else if assumedFee < fee then
          let newChangeValue := selection.total - plan.totalOutputAmount - fee
          let shouldIncludeChange : Bool := p2wpkhDustLimitSats ≤ newChangeValue
          if shouldIncludeChange ≠ includeChange ∨ newChangeValue ≠ changeValue then
            buildLoop libs plan selection shouldIncludeChange newChangeValue fee
          else finishBuild plan selection signed includeChange changeValue
        else finishBuild plan selection signed includeChange changeValue
termination_by selection.total.toNat - assumedFee.toNat
decreasing_by
  -- the fee is above the one assumed before, and the inputs cover it
  rename_i hcovered hmore _
  have hsum := checkedAdd_eq_some.mp _hsum
  rw [UInt64.lt_iff_toNat_lt] at hcovered hmore
  omega

/-! ### Why the outer loop ends -/

variable {selection : Selection} {utxos : List Utxo} {required : UInt64} {libs : Libs}
  {plan : Plan}

theorem selectUtxos_eq_ok (h : selectUtxos utxos required = .ok selection) :
    selectLoop required utxos 0 .empty = .ok selection ∧ required ≤ selection.total := by
  obtain ⟨selected, hloop, h⟩ := Outcome.bind_eq_ok.mp h
  split at h
  · cases h
  · next hcovered =>
    cases h
    exact ⟨hloop, UInt64.not_lt.mp hcovered⟩

/-- How the inner loop can end: with inputs that do not cover what is required, or with the
transaction of some pass. -/
inductive BuildEnd (libs : Libs) (plan : Plan) (selection : Selection) : Built → Prop where
  | short {required : UInt64} (h : selection.total < required) :
    BuildEnd libs plan selection (.short required)
  | done {signed : Transaction} {includeChange : Bool} {changeValue : UInt64} {result : Built}
    (hsigned : signTransaction libs plan.privateKey
      (plan.unsigned libs selection.utxos includeChange changeValue) selection.utxos = .ok signed)
    (hfinish : finishBuild plan selection signed includeChange changeValue = .ok result) :
    BuildEnd libs plan selection result

theorem buildLoop_end {includeChange : Bool} {changeValue assumedFee : UInt64} {result : Built}
    (h : buildLoop libs plan selection includeChange changeValue assumedFee = .ok result) :
    BuildEnd libs plan selection result := by
  fun_induction buildLoop libs plan selection includeChange changeValue assumedFee with
  | case1 | case2 | case3 => cases h
  | case4 _ _ _ _ _ _ _ _ _ hshort =>
    cases h
    exact .short hshort
  | case5 _ _ _ _ _ _ _ _ _ _ _ _ _ _ ih => exact ih h
  | case6 _ _ _ _ hsigned => exact .done hsigned h
  | case7 _ _ _ _ hsigned => exact .done hsigned h

theorem finishBuild_eq_done {signed : Transaction}
    {includeChange : Bool} {changeValue : UInt64} {result : Built}
    (h : finishBuild plan selection signed includeChange changeValue = .ok result) :
    ∃ fee, result = .done signed fee (if includeChange then changeValue else 0) := by
  unfold finishBuild at h
  dsimp only at h
  split at h
  · cases h
  · cases h
    exact ⟨_, rfl⟩

theorem BuildEnd.total_lt
    (h : BuildEnd libs plan selection (.short required)) : selection.total < required := by
  cases h with
  | short h => exact h
  | done hsigned hfinish =>
    obtain ⟨fee, heq⟩ := finishBuild_eq_done hfinish
    cases heq

/-! ### The whole build -/

/-- The outer loop of `build_transaction_with_outputs`. -/
def buildFrom (libs : Libs) (plan : Plan) (utxos : List Utxo) (address : Address)
    (required : UInt64) : Except String CreatedTransaction :=
  match _hselect : selectUtxos utxos required with
  | .error e => .error e
  | .ok selection =>
    let changeValue := saturatingSub selection.total plan.totalOutputAmount
    match _hbuild : buildLoop libs plan selection (p2wpkhDustLimitSats ≤ changeValue) changeValue 0 with
    | .error e => .error e
    | .ok (.short totalRequired) => buildFrom libs plan utxos address totalRequired
    | .ok (.done signed feeSat finalChange) =>
      .ok {
        transaction := signed
        change := if 0 < finalChange then
          some ⟨⟨libs.computeTxid signed, .ofNat (signed.output.length - 1)⟩, finalChange⟩ else none
        feeSat
        spentIndices := selection.indices
        spentUtxos := selection.utxos
        changeValue := finalChange
        changeAddress := address }
termination_by 2 ^ 64 - required.toNat
decreasing_by
  have hcovers := (selectUtxos_eq_ok _hselect).2
  have hshort := (buildLoop_end _hbuild).total_lt
  have hmax := totalRequired.toNat_lt
  rw [UInt64.le_iff_toNat_le] at hcovers
  rw [UInt64.lt_iff_toNat_lt] at hshort
  omega

/-! ## What is built -/

/-- Selected is a first part of the list, and some of it unless the list is empty. -/
structure Selection.Prefix (selection : Selection) (utxos : List Utxo) : Prop where
  utxos_eq : selection.utxos = utxos.take selection.utxos.length
  indices_eq : selection.indices = List.range selection.utxos.length
  nonempty : utxos ≠ [] → selection.utxos ≠ []

/-- The induction is on what is left of the list; `done` was selected before. -/
theorem selectLoop_initial {required : UInt64} {rest done : List Utxo} {total : UInt64}
    {selection : Selection}
    (h : selectLoop required rest done.length ⟨List.range done.length, done, total⟩ = .ok selection) :
    selection.utxos = (done ++ rest).take selection.utxos.length
      ∧ selection.indices = List.range selection.utxos.length
      ∧ (done ++ rest ≠ [] → selection.utxos ≠ []) := by
  induction rest generalizing done total with
  | nil =>
    cases h
    simp
  | cons utxo rest ih =>
    obtain ⟨sum, -, h⟩ := Outcome.bind_eq_ok.mp h
    have hrange : List.range done.length ++ [done.length] = List.range (done ++ [utxo]).length := by
      rw [List.length_append, List.length_singleton, List.range_succ]
    split at h
    · cases h
      refine ⟨?_, hrange, fun _ => by simp⟩
      show done ++ [utxo] = (done ++ utxo :: rest).take (done ++ [utxo]).length
      rw [List.append_cons done utxo rest, List.take_left]
    · rw [hrange, show done.length + 1 = (done ++ [utxo]).length by simp] at h
      simpa using ih h

theorem selectUtxos_initial
    (h : selectUtxos utxos required = .ok selection) : selection.Prefix utxos := by
  obtain ⟨hutxos, hindices, hnonempty⟩ := @selectLoop_initial _ _ [] _ _ (selectUtxos_eq_ok h).1
  exact ⟨hutxos, hindices, hnonempty⟩

theorem signLoop_keeps {privateKey : PrivateKey} {index : Nat}
    {tx signed : Transaction} (h : signLoop libs privateKey utxos index tx = .ok signed) :
    signed.inputs = tx.inputs ∧ signed.output = tx.output := by
  induction utxos generalizing index tx with
  | nil =>
    cases h
    exact ⟨rfl, rfl⟩
  | cons utxo utxos ih =>
    obtain ⟨witness, -, h⟩ := Outcome.bind_eq_ok.mp h
    obtain ⟨hinputs, houtput⟩ := ih h
    refine ⟨hinputs.trans ?_, houtput⟩
    simp only [Transaction.inputs, Transaction.setWitness]
    refine List.ext_getElem? fun i => ?_
    simp only [List.getElem?_map, List.getElem?_modify]
    split
    · cases tx.input[i]? with
      | none => rfl
      | some input => rfl
    · simp

/-- A transaction that the wallet built from a list of outputs. -/
structure IsBuilt (libs : Libs) (utxos : List Utxo) (address : Address)
    (created : CreatedTransaction) : Prop where
  spent_eq : created.spentUtxos = utxos.take created.spentUtxos.length
  indices_eq : created.spentIndices = List.range created.spentUtxos.length
  spent_nonempty : utxos ≠ [] → created.spentUtxos ≠ []
  inputs_eq : created.inputs = created.spentUtxos.map (·.outpoint)
  address_eq : created.changeAddress = address
  change_eq : created.change = if 0 < created.changeValue then
    some ⟨⟨libs.computeTxid created.transaction, .ofNat (created.transaction.output.length - 1)⟩,
      created.changeValue⟩ else none

theorem buildFrom_isBuilt {address : Address} {created : CreatedTransaction}
    (h : buildFrom libs plan utxos address required = .ok created) :
    IsBuilt libs utxos address created := by
  fun_induction buildFrom libs plan utxos address required with
  | case1 => cases h
  | case2 => cases h
  | case3 _ _ _ _ _ _ ih => exact ih h
  | case4 required selection hselect changeValue signed feeSat finalChange hbuild =>
    cases h
    obtain ⟨hutxos, hindices, hnonempty⟩ := selectUtxos_initial hselect
    refine ⟨hutxos, hindices, hnonempty, ?_, rfl, rfl⟩
    cases buildLoop_end hbuild with
    | done hsigned hfinish =>
      obtain ⟨fee, heq⟩ := finishBuild_eq_done hfinish
      cases heq
      refine (signLoop_keeps hsigned).1.trans ?_
      simp [Transaction.inputs, Plan.unsigned]

end UnionBridge.BitcoinWallet
