import UnionBridge.Coordinator.EventConfirmations

/-!
# The signature subflow (`flows/btc_signature`)

A pegin or pegout that needs the signatures of its committee runs a subflow: this member's nonce
goes to the contracts, and once `AllNoncesReady` is confirmed its signature. `AllSignaturesReady`
confirmed ends the subflow. The subflow has a view of the chain of its own, and the lifecycle and
the subflow of the source are one record here.
-/

namespace UnionBridge.Coordinator

open Chain Contracts Bitvmx Effect

structure RegisterSignaturesBitVmxData where
  hashToSign : U256
  nonce : PubNonce
  signature : PartialSignature
deriving DecidableEq

/-- The two events a subflow confirms; the observers of its view are the cells of their counters. -/
inductive SignaturePhase where
  | nonces | signatures
deriving DecidableEq

/-- `ConfirmableEvent`: the counter is there from `start_confirming` to `stop_confirming`. -/
structure ConfirmableEvent where
  confirmations : Option BlockConfirmations

namespace ConfirmableEvent

def new : ConfirmableEvent := ⟨none⟩

def isConfirmed (e : ConfirmableEvent) : Bool := e.confirmations.any (·.isConfirmed)

def notify (e : ConfirmableEvent) (sent : List Notification) : ConfirmableEvent :=
  ⟨e.confirmations.map fun c => sent.foldl BlockConfirmations.notify c⟩

end ConfirmableEvent

structure SignatureSubFlow where
  flowId : Uuid
  data : Option RegisterSignaturesBitVmxData
  nonceStep : Option ConfirmableEvent
  signatureStep : Option ConfirmableEvent
  blockchainView : BlockchainView SignaturePhase
  isDone : Bool
  isNoncesStepDone : Bool

namespace SignatureSubFlow

/-- `create_flow`. -/
def new (flowId : Uuid) : SignatureSubFlow where
  flowId := flowId
  data := none
  nonceStep := none
  signatureStep := none
  blockchainView := .new
  isDone := false
  isNoncesStepDone := false

def isAllNoncesReadyConfirmed (s : SignatureSubFlow) : Bool := s.nonceStep.any (·.isConfirmed)

def isAllSignaturesReadyConfirmed (s : SignatureSubFlow) : Bool :=
  s.signatureStep.any (·.isConfirmed)

def getHashToSign (s : SignatureSubFlow) : Option U256 := s.data.map (·.hashToSign)

/-- The messages of the view reach the counters that observe it. -/
def notifyObservers (s : SignatureSubFlow) (view : BlockchainView SignaturePhase)
    (sent : List Notification) : SignatureSubFlow :=
  { s with
    blockchainView := view
    nonceStep := if .nonces ∈ view.observers then s.nonceStep.map (·.notify sent) else s.nonceStep
    signatureStep := if .signatures ∈ view.observers then s.signatureStep.map (·.notify sent)
      else s.signatureStep }

/-- `create_flow_from_snapshot`, after `snapshot`: the counters start again in an empty view. -/
def restore (s : SignatureSubFlow) : SignatureSubFlow :=
  let again (e : ConfirmableEvent) : ConfirmableEvent :=
    ⟨e.confirmations.map fun c => .new c.init c.required⟩
  let observes (phase : SignaturePhase) (step : Option ConfirmableEvent) : List SignaturePhase :=
    if step.any (·.confirmations.isSome) then [phase] else []
  { s with
    nonceStep := s.nonceStep.map again
    signatureStep := s.signatureStep.map again
    blockchainView := { blocks := .empty
                        observers := observes .nonces s.nonceStep
                          ++ observes .signatures s.signatureStep } }

end SignatureSubFlow

abbrev SubFlowM := Program SignatureSubFlow

def modifySubFlow (f : SignatureSubFlow → SignatureSubFlow) : SubFlowM Unit :=
  modify fun w => { w with own := f w.own }

def sendNonceToContracts (env : Env) (data : RegisterSignaturesBitVmxData) : SubFlowM Unit := do
  let s := (← get).own
  ensure (s.nonceStep.isNone ∧ s.data.isNone) (.msg "flow is already in Nonces step")
  modifySubFlow fun s => { s with data := some data }
  let result : Except DomainErrors TxSentOutput ←
    perform env (.addMemberNonce data.hashToSign data.nonce) id
  let _ ← withContext "Failed to send nonce" (orDomain result)
  modifySubFlow fun s => { s with nonceStep := some .new }

def startSignatureFlow (env : Env) (flowId : Uuid) (data : RegisterSignaturesBitVmxData) :
    SubFlowM Unit := do
  if (← get).own.flowId ≠ flowId then pure () else sendNonceToContracts env data

variable (phase : SignaturePhase) (requiredConfirmations : UInt32)

/-- `start_confirming`: a counter from the block on, observed by the view. -/
def startCounter (block : Nat) : SubFlowM ConfirmableEvent := do
  let view ← orFailure
    (((← get).own.blockchainView.removeObserver phase).addObserver phase)
  modifySubFlow fun s => { s with blockchainView := view }
  return ⟨some (.new block requiredConfirmations)⟩

/-- `stop_confirming`. -/
def stopCounter : SubFlowM ConfirmableEvent := do
  modifySubFlow fun s => { s with blockchainView := s.blockchainView.removeObserver phase }
  return ⟨none⟩

def modifyEventConfirmationStatus (block : Option Nat) : SubFlowM ConfirmableEvent :=
  match block with
  | some block => startCounter phase requiredConfirmations block
  | none => stopCounter phase

def modifyNoncesConfirmationStatus (block : Option Nat) : SubFlowM Unit := do
  let s := (← get).own
  ensure s.signatureStep.isNone (.msg "Nonces unset received for flow in Signatures step")
  ensure s.nonceStep.isSome (.msg "flow is not at Nonces step")
  let event ← modifyEventConfirmationStatus .nonces requiredConfirmations block
  modifySubFlow fun s => { s with nonceStep := some event }

def modifySignaturesConfirmationStatus (block : Option Nat) : SubFlowM Unit := do
  let s := (← get).own
  ensure s.signatureStep.isSome (.msg "flow is not at Signatures step")
  let event ← modifyEventConfirmationStatus .signatures requiredConfirmations block
  modifySubFlow fun s => { s with signatureStep := some event }

/-- An event for another hash is not this subflow's. -/
def delegateRskEvent (flowId : Uuid) (event : RskPegManagerEvents) : SubFlowM Unit := do
  let s := (← get).own
  if s.flowId ≠ flowId then pure ()
  else match event with
    | .allNoncesReady e =>
      if s.getHashToSign = some e.inner then
        modifyNoncesConfirmationStatus requiredConfirmations
          (if e.removed then none else some e.blockNumber)
      else pure ()
    | .allSignaturesReady e =>
      if s.getHashToSign = some e.inner then
        modifySignaturesConfirmationStatus requiredConfirmations
          (if e.removed then none else some e.blockNumber)
      else pure ()
    | _ => throw (.msg "Unexpected RSK event in BtcSignatureSubFlow")

def sendSignatureToContracts (env : Env) : SubFlowM Unit := do
  let s := (← get).own
  if s.signatureStep.isSome then pure ()
  else do
    ensure (s.isAllNoncesReadyConfirmed = true) (.msg "flow has not completed the Nonces step yet")
    ensure s.nonceStep.isSome (.msg "Nonce step is not found for flow")
    let event ← stopCounter .nonces
    modifySubFlow fun s => { s with nonceStep := some event }
    let data ← okOr s.data (.msg "Signature data missing on flow")
    let result : Except DomainErrors TxSentOutput ←
      perform env (.addMemberSignature data.hashToSign data.signature) id
    let _ ← withContext "Failed to send signature" (orDomain result)
    modifySubFlow fun s => { s with signatureStep := some .new }

/-- The first half of `delegate_block`: the view takes the block, whatever follows. -/
def updateSubFlowView (block : RskBlockAndUncles) : SubFlowM Unit := do
  let (view, sent) ← orFailure ((← get).own.blockchainView.update block)
  modifySubFlow fun s => s.notifyObservers view sent

def delegateBlock (env : Env) (block : RskBlockAndUncles) : SubFlowM Unit := do
  updateSubFlowView block
  let s := (← get).own
  if s.blockchainView.observers.isEmpty then pure ()
  else if !s.isNoncesStepDone && s.isAllNoncesReadyConfirmed then do
    modifySubFlow fun s => { s with isNoncesStepDone := true }
    sendSignatureToContracts env
  else if s.isAllSignaturesReadyConfirmed then
    modifySubFlow fun s => { s with isDone := true, blockchainView := s.blockchainView.clear }
  else pure ()

/-! ## What a subflow keeps -/

/-- A subflow in its nonce step has the data to sign. -/
def SignatureSubFlow.Formed (s : SignatureSubFlow) : Prop :=
  s.nonceStep.isSome = true → s.data.isSome = true

section Formed

variable {Q : SignatureSubFlow → Prop}

theorem keeps_own_modify {f : SignatureSubFlow → SignatureSubFlow} (h : ∀ s, Q s → Q (f s)) :
    Keeps (fun w : World SignatureSubFlow => Q w.own) (modifySubFlow f) :=
  keeps_modify fun w hw => h w.own hw

theorem keeps_own_of_onlyCalls {α : Type} {m : SubFlowM α} (h : OnlyCalls (fun _ => True) m) :
    Keeps (fun w : World SignatureSubFlow => Q w.own) m := by
  intro w hw
  apply wp_mono (within_iff_wp.mp h w)
  · intro _ w' hw'
    rw [hw'.own]
    exact hw
  · intro _ w' hw'
    rw [hw'.own]
    exact hw

theorem onlyCalls_orFailure {α : Type} (result : Outcome α) :
    OnlyCalls (fun _ => True) (orFailure result : SubFlowM α) := by
  unfold orFailure
  split
  · exact .pure _
  · exact .throw _
  · exact .throw _

theorem keeps_own_modifyEventConfirmationStatus
    (hview : ∀ s view, Q s → Q { s with blockchainView := view }) (phase : SignaturePhase)
    (requiredConfirmations : UInt32) (block : Option Nat) :
    Keeps (fun w : World SignatureSubFlow => Q w.own)
      (modifyEventConfirmationStatus phase requiredConfirmations block) := by
  unfold modifyEventConfirmationStatus
  split
  · refine keeps_bind (fun _ hw => hw) fun w => ?_
    refine keeps_bind (keeps_own_of_onlyCalls (onlyCalls_orFailure _)) fun view => ?_
    exact keeps_bind (keeps_own_modify fun s hs => hview s _ hs) fun _ => keeps_pure _
  · exact keeps_bind (keeps_own_modify fun s hs => hview s _ hs) fun _ => keeps_pure _

theorem keeps_formed_delegateRskEvent (requiredConfirmations : UInt32) (flowId : Uuid)
    (event : RskPegManagerEvents) :
    Keeps (fun w : World SignatureSubFlow => w.own.Formed)
      (delegateRskEvent requiredConfirmations flowId event) := by
  have hnonces : ∀ block, Keeps (fun w : World SignatureSubFlow => w.own.Formed)
      (modifyNoncesConfirmationStatus requiredConfirmations block) := by
    intro block w hw
    simp only [modifyNoncesConfirmationStatus, wp_bind, wp_get, wp_ensure]
    split
    · split
      · next hnonce =>
        -- the step was there, so the data are
        have hkeeps := keeps_own_modifyEventConfirmationStatus
          (fun s view (hs : s.data.isSome = true) => hs) .nonces requiredConfirmations block w
          (hw hnonce)
        exact wp_mono hkeeps (fun event w' hw' _ => hw') fun _ w' hw' _ => hw'
      · exact hw
    · exact hw
  have hsignatures : ∀ block, Keeps (fun w : World SignatureSubFlow => w.own.Formed)
      (modifySignaturesConfirmationStatus requiredConfirmations block) := by
    intro block w hw
    simp only [modifySignaturesConfirmationStatus, wp_bind, wp_get, wp_ensure]
    split
    · have hkeeps := keeps_own_modifyEventConfirmationStatus
        (fun s view (hs : s.Formed) => hs) .signatures requiredConfirmations block w hw
      exact wp_mono hkeeps (fun event w' hw' => hw') fun _ w' hw' => hw'
    · exact hw
  refine keeps_bind (fun _ hw => hw) fun w => ?_
  dsimp only
  split
  · exact keeps_pure ()
  split
  · split
    · exact hnonces _
    · exact keeps_pure ()
  · split
    · exact hsignatures _
    · exact keeps_pure ()
  · exact keeps_throw _

theorem keeps_formed_sendSignatureToContracts (env : Env) :
    Keeps (fun w : World SignatureSubFlow => w.own.Formed) (sendSignatureToContracts env) := by
  intro w hw
  simp only [sendSignatureToContracts, stopCounter, modifySubFlow, wp_bind, wp_get, wp_ite, wp_pure,
    wp_ensure, wp_modify, wp_okOr, wp_perform, wp_withContext, wp_orDomain]
  split
  · exact hw
  split
  · split
    · next hnonce =>
      have hdata : w.own.data.isSome = true := hw hnonce
      exact ⟨fun _ _ => ⟨fun _ _ _ => hdata, fun _ _ _ => hdata⟩, fun _ _ => hdata⟩
    · exact hw
  · exact hw

theorem keeps_formed_delegateBlock (env : Env) (block : RskBlockAndUncles) :
    Keeps (fun w : World SignatureSubFlow => w.own.Formed) (delegateBlock env block) := by
  refine keeps_bind ?_ fun _ => keeps_bind (fun _ hw => hw) fun w => ?_
  · refine keeps_bind (fun _ hw => hw) fun w => ?_
    refine keeps_bind (keeps_own_of_onlyCalls (onlyCalls_orFailure _)) fun updated => ?_
    refine keeps_own_modify fun s hs hnonce => hs ?_
    -- the messages reach a counter that is there
    simp only [SignatureSubFlow.notifyObservers] at hnonce
    split at hnonce
    · simpa using hnonce
    · exact hnonce
  · dsimp only
    split
    · exact keeps_pure ()
    split
    · exact keeps_bind (keeps_own_modify fun s hs => hs) fun _ =>
        keeps_formed_sendSignatureToContracts env
    split
    · exact keeps_own_modify fun s hs => hs
    · exact keeps_pure ()

theorem keeps_formed_startSignatureFlow (env : Env) (flowId : Uuid)
    (data : RegisterSignaturesBitVmxData) :
    Keeps (fun w : World SignatureSubFlow => w.own.Formed) (startSignatureFlow env flowId data) := by
  intro w hw
  simp only [startSignatureFlow, sendNonceToContracts, modifySubFlow, wp_bind, wp_get, wp_ite,
    wp_pure, wp_ensure, wp_modify, wp_perform, wp_withContext, wp_orDomain]
  split
  · exact hw
  split
  · exact ⟨fun _ _ _ => rfl, fun _ _ _ => rfl⟩
  · exact hw

theorem SignatureSubFlow.Formed.restore {s : SignatureSubFlow} (h : s.Formed) : s.restore.Formed := by
  intro hnonce
  refine h ?_
  simpa [SignatureSubFlow.restore] using hnonce

end Formed

section Grows

variable {env : Env}

instance (f : SignatureSubFlow → SignatureSubFlow) :
    Stays LogGrows (modifySubFlow f) :=
  ⟨grows_modify fun _ => rfl⟩

instance {α : Type} (result : Outcome α) :
    Stays LogGrows (orFailure result : SubFlowM α) :=
  ⟨grows_of_calls (onlyCalls_orFailure result)⟩

theorem grows_startSignatureFlow (flowId : Uuid) (data : RegisterSignaturesBitVmxData) :
    Grows (startSignatureFlow env flowId data) := by
  dsimp only [startSignatureFlow, sendNonceToContracts]
  exact Stays.within

instance (phase : SignaturePhase) (requiredConfirmations : UInt32) (block : Option Nat) :
    Stays LogGrows (modifyEventConfirmationStatus phase requiredConfirmations block) := by
  dsimp only [modifyEventConfirmationStatus, startCounter, stopCounter]
  split <;> infer_instance

theorem grows_delegateRskEvent (requiredConfirmations : UInt32) (flowId : Uuid)
    (event : RskPegManagerEvents) :
    Grows (delegateRskEvent requiredConfirmations flowId event) := by
  refine .bind .get fun w => ?_
  dsimp only [modifyNoncesConfirmationStatus, modifySignaturesConfirmationStatus]
  split
  · exact .pure ()
  split
  · exact Stays.within
  · exact Stays.within
  · exact .throw _

-- the instances of a long program nest
set_option synthInstance.maxSize 100000 in
theorem grows_delegateBlock (block : RskBlockAndUncles) : Grows (delegateBlock env block) := by
  dsimp only [delegateBlock, updateSubFlowView, sendSignatureToContracts, stopCounter]
  exact Stays.within

end Grows

/-! ## The subflows of a processor -/

abbrev SubFlows := Table Uuid SignatureSubFlow

section SubFlows

variable {κ α : Type}

/-- Run a program on one entry of a table of the state. -/
def onEntry {ι ν : Type} [DecidableEq ι] (put : (Table ι ν → Table ι ν) → κ → κ) (id : ι)
    (value : ν) (m : Program ν α) : Program κ α :=
  zoom (fun w => ⟨value, w.log⟩) (fun t w => ⟨put (fun table => table.insert id t.own) w.own, t.log⟩)
    m

/-- Deliver something to every subflow, in the order of the table. -/
def forEachSubFlow (subFlows : κ → SubFlows) (put : (SubFlows → SubFlows) → κ → κ)
    (m : Uuid → SubFlowM Unit) (ids : List Uuid) : Program κ Unit :=
  ids.forM fun id => do
    match (subFlows (← get).own).lookup id with
    | none => pure ()
    | some subFlow => onEntry put id subFlow (m id)

theorem keeps_forEachSubFlow {subFlows : κ → SubFlows} {put : (SubFlows → SubFlows) → κ → κ}
    {m : Uuid → SubFlowM Unit} {I : World κ → Prop}
    (h : ∀ {w : World κ} {id : Uuid} {subFlow : SignatureSubFlow}, I w →
      (subFlows w.own).lookup id = some subFlow →
      wp (m id) (fun _ t => I ⟨put (fun table => table.insert id t.own) w.own, t.log⟩)
        (fun _ t => I ⟨put (fun table => table.insert id t.own) w.own, t.log⟩) ⟨subFlow, w.log⟩)
    (ids : List Uuid) : Keeps I (forEachSubFlow subFlows put m ids) := by
  refine keeps_forM (fun id w hw => ?_) ids
  simp only [wp_bind, wp_get]
  split
  · exact hw
  · next subFlow hlookup =>
    rw [onEntry, wp_zoom]
    exact h hw hlookup

end SubFlows

end UnionBridge.Coordinator
