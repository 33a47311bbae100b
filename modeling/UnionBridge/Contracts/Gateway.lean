import UnionBridge.Bitvmx.Types
import UnionBridge.Lib.Effect

/-!
# Calls to the outside (`transaction-dispatcher/src/rsk_gateway.rs`)

Everything a flow asks of the contracts, the broker, the store and the completion markers is a
`Call`. An environment answers each call in any way its type allows, and may look at everything
that was asked before; so a statement about every environment is a statement about every pattern of
failures. A program keeps the log of its calls and their answers next to its own state.
-/

namespace UnionBridge.Contracts

open Bitvmx Effect

/-- The errors that the flows tell apart, and the rest with their text. -/
inductive DomainErrors where
  | peginAlreadyRequested (message : String)
  | peginAlreadyAccepted (message : String)
  | invalidBtcTxSpvProof (message : String)
  | missingConfirmationsOnNativeBridge (message : String)
  | pegStatusAlreadyCompleted
  | unhandledContractError (message : String)
  | other (message : String)
deriving DecidableEq

/-! ## Inputs and outputs of the contracts -/

structure BitcoinTransactionIn where
  txId : String
  vOut : UInt32
  sequence : UInt32
  scriptSig : String
deriving DecidableEq

structure BitcoinTransactionOut where
  amount : UInt64
  scriptPubKey : String
deriving DecidableEq

structure BitcoinTransaction where
  version : UInt32
  inputs : List BitcoinTransactionIn
  outputs : List BitcoinTransactionOut
  lockTime : UInt32
deriving DecidableEq

structure BtcTxSPVProofInput where
  blockHash : String
  btcTx : BitcoinTransaction
  merkleBranchPath : String
  merkleBranchHashes : List String
deriving DecidableEq

def txidToString (txid : Txid) : String := Hex.encode (TxIdParser.txidToFb32 txid).toBigEndian

def BitcoinTransactionIn.ofTxIn (input : TxIn) : BitcoinTransactionIn where
  txId := txidToString input.previousTxid
  vOut := input.previousVout
  sequence := input.sequence
  scriptSig := Hex.encode input.scriptSig

def BitcoinTransactionOut.ofTxOut (output : TxOut) : BitcoinTransactionOut where
  amount := output.value
  scriptPubKey := Hex.encode output.scriptPubkey

def BitcoinTransaction.ofTransaction (tx : Transaction) : BitcoinTransaction where
  version := tx.version
  inputs := tx.input.map BitcoinTransactionIn.ofTxIn
  outputs := tx.output.map BitcoinTransactionOut.ofTxOut
  lockTime := tx.lockTime

def BtcTxSPVProofInput.ofProof (proof : BtcTxSPVProof) : BtcTxSPVProofInput where
  blockHash := proof.blockHash
  btcTx := BitcoinTransaction.ofTransaction proof.tx
  merkleBranchPath := proof.merkleBranchPath
  merkleBranchHashes := proof.merkleBranchHashes.val.map fun hash => Hex.encode hash.val

structure CommitteeMember where
  memberAddress : Address
  role : UInt8
deriving DecidableEq

structure GetCommitteeOutput where
  members : List CommitteeMember
  aggregatedKey : Bytes
deriving DecidableEq

structure TxSentOutput where
  transactionHash : String
deriving DecidableEq

/-! ## Calls and answers -/

inductive StoreKey where
  | peginFlow (id : Uuid)
  | peginProcessorState
  | pegoutFlow (id : Uuid)
  | pegoutProcessorState
  | operatorTakeFlow (id : Uuid)
  | advanceFundsProcessorState
deriving DecidableEq

inductive FlowKind where
  | pegin | pegout | advanceFunds
deriving DecidableEq

inductive Call where
  | getCommittee (committeeId : CommitteeId)
  | getCommitteeCommunicationData (committeeId : CommitteeId) (memberAddress : Address)
  | getMemberPublicKeys (memberAddress : Address)
  | getAcceptPeginTxid (pegoutTxid : U256)
  -- The native bridge has no binding: its call data is built by hand.
  | getBtcTransactionConfirmations (callData : Bytes)
  | requestPegin (input : BtcTxSPVProofInput)
  | acceptPegin (input : BtcTxSPVProofInput)
  | registerPegout (input : BtcTxSPVProofInput)
  | registerOperatorTake (input : BtcTxSPVProofInput)
  | registerAdvanceFunds (acceptPeginTxid : U256) (advanceFundsSpvProof : BtcTxSPVProofInput)
  | registerReimbursementKickoff (acceptPeginTxid : U256) (kickoffSpvProof : BtcTxSPVProofInput)
  | addMemberNonce (hashToSign : U256) (nonce : PubNonce)
  | addMemberSignature (hashToSign : U256) (signature : PartialSignature)
  | addOperatorTakeTxHash (acceptPeginTxHash takeTxHash wonTxHash : Txid)
  | triggerOperatorTake (pegoutTxid : String)
  | send (message : IncomingBitVMXApiMessages)
  | saveFlow (key : StoreKey)
  | deleteFlow (key : StoreKey)
  | signalDone (kind : FlowKind) (id : Uuid)
deriving DecidableEq

@[reducible] def Call.Answer : Call → Type
  | .getCommittee _ => Except DomainErrors GetCommitteeOutput
  | .getCommitteeCommunicationData _ _ => Except DomainErrors (List CommunicationData)
  | .getMemberPublicKeys _ => Except DomainErrors (List String)
  | .getAcceptPeginTxid _ => Except DomainErrors U256
  | .getBtcTransactionConfirmations _ => Except String Bytes
  | .send _ => Except String Unit
  | .saveFlow _ => Except String Unit
  | .deleteFlow _ => Except String Unit
  | .signalDone _ _ => Except String Unit
  | .requestPegin _ => Except DomainErrors TxSentOutput
  | .acceptPegin _ => Except DomainErrors TxSentOutput
  | .registerPegout _ => Except DomainErrors TxSentOutput
  | .registerOperatorTake _ => Except DomainErrors TxSentOutput
  | .registerAdvanceFunds _ _ => Except DomainErrors TxSentOutput
  | .registerReimbursementKickoff _ _ => Except DomainErrors TxSentOutput
  | .addMemberNonce _ _ => Except DomainErrors TxSentOutput
  | .addMemberSignature _ _ => Except DomainErrors TxSentOutput
  | .addOperatorTakeTxHash _ _ _ => Except DomainErrors TxSentOutput
  | .triggerOperatorTake _ => Except DomainErrors TxSentOutput

@[reducible]
def Call.submittedProof : Call → Option BtcTxSPVProofInput
  | .requestPegin input | .acceptPegin input | .registerPegout input => some input
  | .registerOperatorTake input => some input
  | .registerAdvanceFunds _ input | .registerReimbursementKickoff _ input => some input
  | _ => none

abbrev LogEntry := (c : Call) × c.Answer

/-- The calls so far, the latest one first. -/
abbrev Log := List LogEntry

/-- The calls at the front of `log'` that `log` does not have yet. -/
def callsSince (log log' : Log) : Log := log'.take (log'.length - log.length)

theorem callsSince_append (new log : Log) : callsSince log (new ++ log) = new := by
  simp [callsSince]

/-- The state of a program and the calls it has made. -/
structure World (σ : Type) where
  own : σ
  log : Log

/-- The environment in which one processor call runs. -/
structure Env where
  answer : Log → (c : Call) → c.Answer
  /-- `Uuid::new_v4`. -/
  newUuid : Log → Uuid

/-- A successful answer to each call; the only member of a committee is address 1, a prover. -/
def Call.accepted : (c : Call) → c.Answer
  | .getCommittee _ => .ok { members := [⟨1, ParticipantRole.prover.toU8⟩], aggregatedKey := toBE 33 1 }
  | .getCommitteeCommunicationData _ _ => .ok [⟨List.Vector.replicate 8 0⟩]
  | .getMemberPublicKeys _ => .ok ["02", "02", "02"]
  | .getAcceptPeginTxid pegoutTxid => .ok pegoutTxid
  | .getBtcTransactionConfirmations _ => .ok (toBE 32 100)
  | .send _ | .saveFlow _ | .deleteFlow _ | .signalDone _ _ => .ok ()
  | .requestPegin _ | .acceptPegin _ | .registerPegout _ | .registerOperatorTake _
  | .registerAdvanceFunds _ _ | .registerReimbursementKickoff _ _ | .addMemberNonce _ _
  | .addMemberSignature _ _ | .addOperatorTakeTxHash _ _ _ | .triggerOperatorTake _ => .ok ⟨"0x01"⟩

def Call.refused : (c : Call) → c.Answer
  | .getBtcTransactionConfirmations _ | .send _ | .saveFlow _ | .deleteFlow _ | .signalDone _ _ =>
    .error "connection closed"
  | .getCommittee _ | .getCommitteeCommunicationData _ _ | .getMemberPublicKeys _
  | .getAcceptPeginTxid _ | .requestPegin _ | .acceptPegin _ | .registerPegout _
  | .registerOperatorTake _ | .registerAdvanceFunds _ _ | .registerReimbursementKickoff _ _
  | .addMemberNonce _ _ | .addMemberSignature _ _ | .addOperatorTakeTxHash _ _ _
  | .triggerOperatorTake _ => .error (.other "connection closed")

/-- An environment in which exactly the calls in `refuses` fail. -/
def Env.failing (refuses : Log → Call → Bool) : Env where
  answer log c := if refuses log c then c.refused else c.accepted
  newUuid log := BitVec.ofNat 128 log.length

def Env.Saves (env : Env) : Prop := ∀ log key, env.answer log (.saveFlow key) = .ok ()

/-! ## Errors of the flows -/

inductive ErrorCause where
  | domain (error : DomainErrors)
  | text (message : String)
deriving DecidableEq

/-- An error with the contexts added on its way up, or a panic, which nothing catches. -/
inductive FlowError where
  | error (contexts : List String) (cause : ErrorCause)
  | panic (message : String)
deriving DecidableEq

namespace FlowError

/-- `anyhow!` and `bail!`. -/
def msg (message : String) : FlowError := .error [] (.text message)

def ofDomain (error : DomainErrors) : FlowError := .error [] (.domain error)

/-- `.context(..)`. -/
def context (text : String) : FlowError → FlowError
  | .error contexts cause => .error (text :: contexts) cause
  | .panic message => .panic message

def isError : FlowError → Bool
  | .error _ _ => true
  | .panic _ => false

def isMissingNativeBridgeConfirmations : FlowError → Bool
  | .error _ (.domain (.missingConfirmationsOnNativeBridge _)) => true
  | _ => false

def isPeginAlreadyAccepted : FlowError → Bool
  | .error _ (.domain (.peginAlreadyAccepted _)) => true
  | _ => false

def isPegStatusCompleted : FlowError → Bool
  | .error _ (.domain .pegStatusAlreadyCompleted) => true
  | _ => false

end FlowError

/-- A program over the state `σ`. -/
abbrev Program (σ : Type) := EStateM FlowError (World σ)

section Calls

variable {σ α : Type}

/-- Make a call. The type of an answer depends on its call; `read` gives it a plain type. -/
def perform (env : Env) (c : Call) (read : c.Answer → α) : Program σ α :=
  modifyGet fun w =>
    let answer := env.answer w.log c
    (read answer, { w with log := ⟨c, answer⟩ :: w.log })

variable {E : FlowError → World σ → Prop} {Q : α → World σ → Prop} {R : World σ → World σ → Prop}
  {w : World σ}

@[simp] theorem wp_perform {env : Env} {c : Call} {read : c.Answer → α} :
    wp (perform env c read) Q E w
      ↔ Q (read (env.answer w.log c)) { w with log := ⟨c, env.answer w.log c⟩ :: w.log } :=
  wp_modifyGet _

/-- `result?` for an error of a contract. -/
def orDomain (result : Except DomainErrors α) : Program σ α :=
  match result with
  | .ok a => pure a
  | .error e => throw (.ofDomain e)

/-- `result?` for any other error. -/
def orText (result : Except String α) : Program σ α :=
  match result with
  | .ok a => pure a
  | .error e => throw (.msg e)

theorem wp_orDomain {result : Except DomainErrors α} : wp (orDomain result) Q E w
      ↔ (∀ a, result = .ok a → Q a w) ∧ ∀ e, result = .error e → E (.ofDomain e) w := by
  cases result with
  | ok a => simp [orDomain]
  | error e => simp [orDomain]

theorem wp_orText {result : Except String α} : wp (orText result) Q E w
      ↔ (∀ a, result = .ok a → Q a w) ∧ ∀ e, result = .error e → E (.msg e) w := by
  cases result with
  | ok a => simp [orText]
  | error e => simp [orText]

theorem within_orDomain [IsPreorder (World σ) R]
    (r : Except DomainErrors α) : Within R (orDomain r : Program σ α) := by
  cases r with
  | ok a => exact .pure a
  | error e => exact .throw _

theorem within_orText [IsPreorder (World σ) R]
    (r : Except String α) : Within R (orText r : Program σ α) := by
  cases r with
  | ok a => exact .pure a
  | error e => exact .throw _

/-- `m.context(text)?`. -/
def withContext (text : String) (m : Program σ α) : Program σ α := fun w =>
  match m w with
  | .ok a w' => .ok a w'
  | .error e w' => .error (e.context text) w'

@[simp] theorem wp_withContext {text : String} {m : Program σ α} :
    wp (withContext text m) Q E w ↔ wp m Q (fun e w => E (e.context text) w) w := by
  unfold wp withContext
  cases m w with
  | ok a w' => exact Iff.rfl
  | error e w' => exact Iff.rfl

theorem within_withContext {text : String} {m : Program σ α}
    (h : Within R m) : Within R (withContext text m) :=
  within_iff_wp.mpr fun w => wp_withContext.mpr (within_iff_wp.mp h w)

def sendBitvmxMsg (env : Env) (message : IncomingBitVMXApiMessages) : Program σ Unit := do
  let result : Except String Unit ← perform env (.send message) id
  orText result

/-! ## Lookups of the committee -/

/-- The index of the communication key among the keys of a member. -/
def commKeyIndex : Nat := 2

def getCommitteeOutput (env : Env) (committeeId : CommitteeId) : Program σ GetCommitteeOutput := do
  let result : Except DomainErrors GetCommitteeOutput ← perform env (.getCommittee committeeId) id
  orDomain result

/-- The text of a member's address, empty when nothing was deposited. -/
def addressText (libs : Libs) (commData : CommunicationData) : Program σ String :=
  withContext "Failed to convert communication data to P2P address" do
    let address ← orText (P2PAddressParser.socketAddrFromContracts libs commData)
    return (address.map libs.socketAddrToString).getD ""

def getCommitteeAddresses (libs : Libs) (env : Env) (myAddress : Address)
    (committeeId : CommitteeId) : Program σ (List String) := do
  let result : Except DomainErrors (List CommunicationData) ←
    perform env (.getCommitteeCommunicationData committeeId myAddress) id
  (← orDomain result).mapM (addressText libs)

def memberPubkeyHash (env : Env) (member : CommitteeMember) : Program σ String := do
  let result : Except DomainErrors (List String) ←
    perform env (.getMemberPublicKeys member.memberAddress) id
  okOr (← orDomain result)[commKeyIndex]? (.msg "Communication key not found for member")

end Calls

/-! ## Programs followed by instance search -/

/-- A relation that a call stays within. -/
class AllowsCall {σ : Type} (R : World σ → World σ → Prop) (c : Call) : Prop where
  call : ∀ (w : World σ) (answer : c.Answer), R w { w with log := ⟨c, answer⟩ :: w.log }

section Stays

variable {σ α : Type} {R : World σ → World σ → Prop}

instance {env : Env} {c : Call} {read : c.Answer → α} [h : AllowsCall R c] :
    Stays R (perform env c read : Program σ α) := ⟨fun w => h.call w _⟩

instance {m : Program σ α} [h : Stays R m] (text : String) : Stays R (withContext text m) :=
  ⟨within_withContext h.within⟩

variable [IsPreorder (World σ) R]

instance (r : Except DomainErrors α) : Stays R (orDomain r : Program σ α) := ⟨within_orDomain r⟩

instance (r : Except String α) : Stays R (orText r : Program σ α) := ⟨within_orText r⟩

instance {env : Env} {message : IncomingBitVMXApiMessages} [AllowsCall R (.send message)] :
    Stays R (sendBitvmxMsg env message : Program σ Unit) := by unfold sendBitvmxMsg; infer_instance

instance {env : Env} {id : CommitteeId} [AllowsCall R (.getCommittee id)] :
    Stays R (getCommitteeOutput env id : Program σ _) := by unfold getCommitteeOutput; infer_instance

instance (libs : Libs) (commData : CommunicationData) :
    Stays R (addressText libs commData : Program σ _) := by unfold addressText; infer_instance

instance {libs : Libs} {env : Env} {myAddress : Address} {id : CommitteeId}
    [AllowsCall R (.getCommitteeCommunicationData id myAddress)] :
    Stays R (getCommitteeAddresses libs env myAddress id : Program σ _) := by
  unfold getCommitteeAddresses; infer_instance

instance {env : Env} {member : CommitteeMember}
    [AllowsCall R (.getMemberPublicKeys member.memberAddress)] :
    Stays R (memberPubkeyHash env member : Program σ _) := by unfold memberPubkeyHash; infer_instance

end Stays

/-! ## Programs that only call -/

def Adds (allowed : Call → Prop) (log log' : Log) : Prop :=
  ∃ new : Log, log' = new ++ log ∧ ∀ entry ∈ new, allowed entry.1

theorem Adds.refl (allowed : Call → Prop) (log : Log) : Adds allowed log log :=
  ⟨[], rfl, fun _ h => nomatch h⟩

theorem Adds.trans {allowed : Call → Prop} {a b c : Log} (h : Adds allowed a b)
    (h' : Adds allowed b c) : Adds allowed a c := by
  obtain ⟨new, rfl, hnew⟩ := h
  obtain ⟨new', rfl, hnew'⟩ := h'
  refine ⟨new' ++ new, (List.append_assoc _ _ _).symm, fun entry hentry => ?_⟩
  rcases List.mem_append.mp hentry with h | h
  · exact hnew' entry h
  · exact hnew entry h

theorem Adds.mono {allowed allowed' : Call → Prop} (himp : ∀ c, allowed c → allowed' c)
    {log log' : Log} (h : Adds allowed log log') : Adds allowed' log log' := by
  obtain ⟨new, hnew, hallowed⟩ := h
  exact ⟨new, hnew, fun entry hentry => himp _ (hallowed entry hentry)⟩

theorem Adds.call {allowed : Call → Prop} {c : Call} (h : allowed c) (answer : c.Answer)
    (log : Log) : Adds allowed log (⟨c, answer⟩ :: log) :=
  ⟨[⟨c, answer⟩], rfl, fun entry hentry => by rw [List.mem_singleton.mp hentry]; exact h⟩

structure CallStep {σ : Type} (allowed : Call → Prop) (w w' : World σ) : Prop where
  own : w'.own = w.own
  log : Adds allowed w.log w'.log

/-- The program makes allowed calls and leaves the state alone. -/
def OnlyCalls {σ α : Type} (allowed : Call → Prop) (m : Program σ α) : Prop :=
  Within (CallStep allowed) m

/-- A question about a committee and its members. -/
def Call.AsksCommittee : Call → Prop
  | .getCommittee _ | .getCommitteeCommunicationData _ _ | .getMemberPublicKeys _ => True
  | _ => False

/-- A call that submits no proof. -/
@[reducible]
def Call.Plain (c : Call) : Prop := c.submittedProof = none

section OnlyCalls

variable {σ α β : Type} {allowed : Call → Prop} {env : Env}

instance : IsPreorder (World σ) (CallStep allowed) where
  refl _ := ⟨rfl, Adds.refl _ _⟩
  trans _ _ _ h h' := ⟨h'.own.trans h.own, h.log.trans h'.log⟩

instance {c : Call} [h : Fact (allowed c)] : AllowsCall (CallStep (σ := σ) allowed) c :=
  ⟨fun w answer => ⟨rfl, Adds.call h.out answer w.log⟩⟩

theorem OnlyCalls.mono {allowed' : Call → Prop} {m : Program σ α} (h : OnlyCalls allowed m)
    (himp : ∀ c, allowed c → allowed' c) : OnlyCalls allowed' m :=
  fun w => ⟨(h w).own, (h w).log.mono himp⟩

theorem onlyCalls_perform {c : Call} {read : c.Answer → α} (h : allowed c) :
    OnlyCalls allowed (perform env c read : Program σ α) :=
  fun w => ⟨rfl, Adds.call h _ w.log⟩

theorem onlyCalls_sendBitvmxMsg {message : IncomingBitVMXApiMessages} (h : allowed (.send message)) :
    OnlyCalls allowed (sendBitvmxMsg env message : Program σ Unit) :=
  .bind (onlyCalls_perform h) fun _ => within_orText _

end OnlyCalls

/-! ## The log grows -/

instance {σ : Type} : IsPreorder (World σ) fun w w' => w.log <:+ w'.log where
  refl _ := List.suffix_rfl
  trans _ _ _ h h' := h.trans h'

/-- The relation of `Grows`, for instance search. -/
abbrev LogGrows {σ : Type} (w w' : World σ) : Prop := w.log <:+ w'.log

instance {σ : Type} {c : Call} : AllowsCall (LogGrows (σ := σ)) c :=
  ⟨fun _ _ => List.suffix_cons _ _⟩

/-- Whatever else the program does, calls are only added to the log. -/
def Grows {σ α : Type} (m : Program σ α) : Prop := Within (fun w w' => w.log <:+ w'.log) m

section Grows

variable {σ α β : Type}

theorem grows_of_onlyCalls {allowed : Call → Prop} {m : Program σ α} (h : OnlyCalls allowed m) :
    Grows m := by
  intro w
  obtain ⟨new, hnew, -⟩ := (h w).log
  exact ⟨new, hnew.symm⟩

theorem grows_of_calls {m : Program σ α} (h : OnlyCalls (fun _ => True) m) : Grows m :=
  grows_of_onlyCalls h

theorem grows_modify {f : World σ → World σ} (h : ∀ w, (f w).log = w.log) :
    Grows (modify f : Program σ PUnit) := by
  intro w
  have hlog : w.log = (f w).log := (h w).symm
  exact hlog ▸ List.suffix_rfl

theorem grows_wp {m : Program σ α} (h : Grows m) (w : World σ) :
    wp m (fun _ w' => w.log <:+ w'.log) (fun _ w' => w.log <:+ w'.log) w :=
  within_iff_wp.mp h w

end Grows

/-! ## Programs that do not panic -/

/-- However the program ends, it is not with a panic. -/
def NeverPanics {σ α : Type} (m : Program σ α) : Prop :=
  ∀ w, wp m (fun _ _ => True) (fun e _ => e.isError = true) w

section NeverPanics

variable {σ τ α β : Type} {env : Env}

theorem neverPanics_pure (a : α) : NeverPanics (pure a : Program σ α) := fun _ => trivial

theorem neverPanics_throw {e : FlowError} (h : e.isError = true) :
    NeverPanics (throw e : Program σ α) := fun _ => h

theorem neverPanics_get : NeverPanics (get : Program σ (World σ)) := fun _ => trivial

theorem neverPanics_bind {m : Program σ β} {f : β → Program σ α} (hm : NeverPanics m)
    (hf : ∀ b, NeverPanics (f b)) : NeverPanics (m >>= f) := by
  intro w
  rw [wp_bind]
  exact wp_imp (hm w) fun b w' _ => hf b w'

theorem neverPanics_perform {c : Call} {read : c.Answer → α} :
    NeverPanics (perform env c read : Program σ α) := by
  intro w
  rw [wp_perform]
  trivial

theorem neverPanics_okOr (o : Option α) {e : FlowError} (h : e.isError = true) :
    NeverPanics (okOr o e : Program σ α) := by
  cases o with
  | none => exact neverPanics_throw h
  | some a => exact neverPanics_pure a

theorem neverPanics_ensure {c : Prop} [Decidable c] {e : FlowError} (h : e.isError = true) :
    NeverPanics (ensure c e : Program σ Unit) := by
  unfold ensure
  split
  · exact neverPanics_pure ()
  · exact neverPanics_throw h

theorem neverPanics_orText (r : Except String α) : NeverPanics (orText r : Program σ α) := by
  cases r with
  | ok a => exact neverPanics_pure a
  | error e => exact neverPanics_throw rfl

theorem neverPanics_sendBitvmxMsg (message : IncomingBitVMXApiMessages) :
    NeverPanics (sendBitvmxMsg env message : Program σ Unit) :=
  neverPanics_bind neverPanics_perform fun _ => neverPanics_orText _

end NeverPanics

end UnionBridge.Contracts
