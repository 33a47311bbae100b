import UnionBridge.AdvanceFunds.Flow
import UnionBridge.Contracts.FinalityGuard
import UnionBridge.Pegin.FlowInvariant
import UnionBridge.Pegout.Flow

/-!
# Every submission of a node is covered

The flows of a node share the contracts, so their calls form one log, in any interleaving of the
flows' turns and of whatever else the node calls. With the real verifier each of the six submissions
goes through `invokeContractSafe` with the proof it submits.
-/

namespace UnionBridge

open Contracts Bitvmx Effect

/-- The real verifier with its number of required confirmations. -/
def guardedConfig (libs : Libs) (myAddress : Address) (required : UInt32) : Config where
  libs := libs
  myAddress := myAddress
  verifier := .real required

section Guard

variable {libs : Libs} {myAddress : Address} {required : UInt32} {env : Env} {σ α : Type}

/-- The relation of `KeepsGuarded`, for instance search: everything but a submission keeps it. -/
abbrev Guards (libs : Libs) (required : UInt32) (w w' : World σ) : Prop :=
  Guarded libs required w.log → Guarded libs required w'.log

instance {c : Call} [hc : Fact (c.submittedProof = none)] :
    AllowsCall (Guards (σ := σ) libs required) c :=
  ⟨fun w answer => Guarded.of_adds (Adds.call hc.out answer w.log)⟩

/-- A submission whose answer is only looked at. -/
instance {c : Call} {proof : BtcTxSPVProof} {read : c.Answer → Except DomainErrors α}
    [hc : Fact (c.submittedProof = some (BtcTxSPVProofInput.ofProof proof))] :
    Stays (Guards libs required)
      (invokeContractSafe libs env (.real required) proof (perform env c read) : Program σ _) :=
  ⟨keepsGuarded_invokeContractSafe hc.out fun _ => rfl⟩

instance (f : World σ → World σ) [h : ∀ w, Fact ((f w).log = w.log)] :
    Stays (Guards libs required) (modify f : Program σ Unit) :=
  ⟨keepsGuarded_modify fun w => (h w).out⟩

/-! ## The pegin flow -/

namespace Pegin

theorem admitsAll_guarded :
    AdmitsAll (guardedConfig libs myAddress required) env (Guards libs required) where
  calls := OnlyCalls.guarded
  modify := keepsGuarded_modify
  submit hc := keepsGuarded_invokeContractSafe hc fun _ => rfl

/-- **A turn of a pegin flow** keeps the log guarded. -/
theorem guarded_turn {w : World Flow} (i : Env × FlowInput) (h : Guarded libs required w.log) :
    Guarded libs required (turn (guardedConfig libs myAddress required) w i).log := by
  obtain ⟨env, input⟩ := i
  cases input with
  | completeStep data => exact within_completeStep admitsAll_guarded data w h
  | markFailed => exact within_startStep ⟨OnlyCalls.guarded, keepsGuarded_modify⟩ (by rintro ⟨⟩) w h
  | restart =>
    show Guarded libs required (restart w).log
    unfold restart
    split
    · exact h
    · exact h

end Pegin

/-! ## The pegout flow -/

namespace Pegout

instance : Stays (Guards libs required) getState := by unfold getState; infer_instance

instance (f : State → State) : Stays (Guards libs required) (modifyState f) := by
  unfold modifyState; infer_instance

instance {c : Prop} [Decidable c] : Stays (Guards libs required) (persistIf c env) := by
  dsimp only [persistIf, persistState]; infer_instance

instance (proof : BtcTxSPVProof) : Stays (Guards libs required)
    (registerPegout (guardedConfig libs myAddress required) env proof) := by
  dsimp only [registerPegout, guardedConfig]; infer_instance

instance (config : Config) :
    Stays (Guards libs required) (communicatePegoutRequestedToBitvmx config env) :=
  ⟨within_communicatePegoutRequestedToBitvmx (fun hm => (hm.mono fun _ hc => hc.1).guarded)
    fun _ => Stays.within⟩

instance (current : Steps) (data : StepData) :
    Stays (Guards libs required) (processStepData env current data) := by
  dsimp only [processStepData, completeWithConfirmedPegoutRegistration, confirmUserTakeTransaction,
    getUserTakeTxid, sendPegoutCompletedToBitvmx]
  split <;> infer_instance

instance {complete : StepData → FlowM Unit}
    [∀ data, Stays (Guards libs required) (complete data)] (next : Steps) :
    Stays (Guards libs required)
      (entryAction (guardedConfig libs myAddress required) env complete next) := by
  cases next
  case triggerOperatorTake =>
    refine ⟨.bind (.attempt onlyCalls_triggerOperatorTake.guarded) fun result => ?_⟩
    split
    · exact .pure _
    · exact .pure _
  all_goals
    dsimp only [entryAction, requestBitvmxCommInfo, dispatchTransaction, requestSpvProof,
      getUserTakeTxid, completionMarkerIf, writeCompletionMarker]
    infer_instance

instance {complete : StepData → FlowM Unit}
    [∀ data, Stays (Guards libs required) (complete data)] (next : Steps) :
    Stays (Guards libs required)
      (startStepWith (guardedConfig libs myAddress required) env complete next) := by
  unfold startStepWith; infer_instance

instance {start : Steps → FlowM Unit} [∀ next, Stays (Guards libs required) (start next)]
    (data : StepData) : Stays (Guards libs required) (completeStepWith env start data) := by
  unfold completeStepWith; infer_instance

instance (next : Steps) : Stays (Guards libs required)
    (startStep (guardedConfig libs myAddress required) env next) := by
  unfold startStep completeStepInner; infer_instance

/-- **A turn of a pegout flow.** -/
theorem guarded_turn {w : World Flow} (i : Env × FlowInput) (h : Guarded libs required w.log) :
    Guarded libs required (turn (guardedConfig libs myAddress required) w i).log := by
  obtain ⟨env, input⟩ := i
  cases input with
  | completeStep data =>
    have hcomplete : Stays (Guards libs required)
        (completeStep (guardedConfig libs myAddress required) env data) := by
      unfold completeStep; infer_instance
    exact hcomplete.within w h
  | markFailed =>
    have hfailed : Stays (Guards libs required)
        (markFailed (guardedConfig libs myAddress required) env) := by
      unfold markFailed; infer_instance
    exact hfailed.within w h
  | restart =>
    show Guarded libs required (restart w).log
    unfold restart
    split
    · exact h
    · exact h

end Pegout

/-! ## The advance-funds flow -/

namespace AdvanceFunds

instance : Stays (Guards libs required) getState := by unfold getState; infer_instance

instance (f : FlowContext → FlowContext) : Stays (Guards libs required) (modifyState f) := by
  unfold modifyState; infer_instance

instance : Stays (Guards libs required) (persistState env) := by unfold persistState; infer_instance

instance : Stays (Guards libs required) (resolveAcceptPeginTxid env) := by
  refine ⟨.bind Stays.within fun state => ?_⟩
  split
  · exact .pure _
  · exact Stays.within

instance {proof : BtcTxSPVProof} {invoke : FlowM (Except DomainErrors TxSentOutput)}
    [h : Stays (Guards libs required) (invokeContractSafe libs env (.real required) proof invoke)]
    (retryReason failure : String) : Stays (Guards libs required) (submitRegistration
      (guardedConfig libs myAddress required) env proof retryReason failure invoke) := by
  refine ⟨.bind h.within fun result => ?_⟩
  split
  · exact .pure _
  · exact .pure _
  · exact .throw _

instance {config : Config} : Stays (Guards libs required) (myCommitteeIndex config env) := by
  refine ⟨.bind Stays.within fun state => ?_⟩
  split
  · exact .pure _
  · dsimp only [getCommitteeOutput]
    exact Stays.within

instance (next : Steps) : Stays (Guards libs required)
    (enterStep (guardedConfig libs myAddress required) env next) := by
  cases next
  all_goals
    dsimp only [enterStep, ifSelected, enterRequestCommInfo, enterRequestTransactionInfo,
      enterSetupProtocol, enterNotifyRegistered, enterRegisterAdvanceFunds,
      enterRegisterReimbursementKickoff, enterRegisterOperatorTake, enterWriteCompletionMarker]
    infer_instance

instance (next : Steps) : Stays (Guards libs required)
    (startStep (guardedConfig libs myAddress required) env next) := by
  have hrestore : ∀ previous, Stays (Guards libs required) (orRestore previous
      (enterStep (guardedConfig libs myAddress required) env next)) := by
    intro previous
    refine ⟨.bind (.attempt Stays.within) fun result => ?_⟩
    split
    · exact .pure _
    · exact Stays.within
  unfold startStep
  infer_instance

/-- The handlers of the data make no call at all. -/
instance (config : Config) (current : Steps) (data : StepData) :
    Stays (Guards libs required) (handleStepData config current data) := by
  cases data
  all_goals
    dsimp only [handleStepData, onOperatorTakeTriggered, onCommInfo, onSetupCompleted,
      onOperatorTakeTransactionInfo, onAdvanceFundsSpv, onAdvanceFundsConfirmed,
      onReimbursementKickoffSpv, onReimbursementKickoffConfirmed, onOperatorTakeSpv,
      onPegoutRegistered]
    infer_instance

/-- **A turn of an advance-funds flow.** -/
theorem guarded_turn {w : World Flow} (i : Env × FlowInput) (h : Guarded libs required w.log) :
    Guarded libs required (turn (guardedConfig libs myAddress required) w i).log := by
  obtain ⟨env, input⟩ := i
  cases input with
  | completeStep data =>
    have hcomplete : Stays (Guards libs required)
        (completeStep (guardedConfig libs myAddress required) env data) := by
      refine ⟨.bind Stays.within fun state => .bind Stays.within fun next => ?_⟩
      split
      · exact Stays.within
      · exact .pure _
    exact hcomplete.within w h
  | markFailed =>
    have hfailed : Stays (Guards libs required)
        (markFailed (guardedConfig libs myAddress required) env) := by
      unfold markFailed; infer_instance
    exact hfailed.within w h
  | restart =>
    show Guarded libs required (restart w).log
    unfold restart
    split
    · exact h
    · exact h

end AdvanceFunds

end Guard

/-! ## The node -/

/-- The flows of a node, and the calls of all of them. -/
structure Node where
  pegins : Nat → Pegin.Flow
  pegouts : Nat → Pegout.Flow
  operatorTakes : Nat → AdvanceFunds.Flow
  log : Log

inductive NodeInput where
  | pegin (i : Nat) (turn : Env × Pegin.FlowInput)
  | pegout (i : Nat) (turn : Env × Pegout.FlowInput)
  | operatorTake (i : Nat) (turn : Env × AdvanceFunds.FlowInput)
  /-- Any other call, such as those of the signature flows. -/
  | other (call : { c : Call // c.Plain }) (answer : call.val.Answer)

namespace Node

/-- A node with any flows. -/
def start (pegins : Nat → Pegin.Flow) (pegouts : Nat → Pegout.Flow)
    (operatorTakes : Nat → AdvanceFunds.Flow) : Node :=
  { pegins := pegins, pegouts := pegouts, operatorTakes := operatorTakes, log := [] }

def turn (config : Config) (node : Node) : NodeInput → Node
  | .pegin i t =>
    let w := Pegin.turn config ⟨node.pegins i, node.log⟩ t
    { node with pegins := Function.update node.pegins i w.own, log := w.log }
  | .pegout i t =>
    let w := Pegout.turn config ⟨node.pegouts i, node.log⟩ t
    { node with pegouts := Function.update node.pegouts i w.own, log := w.log }
  | .operatorTake i t =>
    let w := AdvanceFunds.turn config ⟨node.operatorTakes i, node.log⟩ t
    { node with operatorTakes := Function.update node.operatorTakes i w.own, log := w.log }
  | .other call answer => { node with log := ⟨call.val, answer⟩ :: node.log }

/-- **One turn** of a node, whichever flow takes it. -/
theorem guarded_turn {libs : Libs} {myAddress : Address} {required : UInt32} {node : Node}
    (input : NodeInput) (h : Guarded libs required node.log) :
    Guarded libs required (node.turn (guardedConfig libs myAddress required) input).log := by
  cases input with
  | pegin i t => exact Pegin.guarded_turn t h
  | pegout i t => exact Pegout.guarded_turn t h
  | operatorTake i t => exact AdvanceFunds.guarded_turn t h
  | other call answer => exact Guarded.of_adds (Adds.call call.property answer node.log) h

end Node

/-- **Every submission is covered.** Whatever the flows of a node do, in any order and with any
answers of the contracts: when one of the six methods was called with a proof, the call before it
was the query about this proof in the standard encoding, and its answer was a number between the
required confirmations and `2 ^ 32 - 1`. -/
theorem submissions_covered (libs : Libs) (myAddress : Address) (required : UInt32)
    (pegins : Nat → Pegin.Flow) (pegouts : Nat → Pegout.Flow)
    (operatorTakes : Nat → AdvanceFunds.Flow) (inputs : List NodeInput)
    {newer older : Log} {entry : LogEntry} {input : BtcTxSPVProofInput}
    (hlog : (Machine.run (Node.turn (guardedConfig libs myAddress required))
      (Node.start pegins pegouts operatorTakes) inputs).log = newer ++ entry :: older)
    (hinput : entry.1.submittedProof = some input) : Covered libs required input older := by
  have hallowed : Machine.Allowed (Node.turn (guardedConfig libs myAddress required))
      (fun _ _ => True) (Node.start pegins pegouts operatorTakes) inputs :=
    Machine.allowed_of_forall fun _ _ => trivial
  have hstart : Guarded libs required (Node.start pegins pegouts operatorTakes).log := trivial
  have hguarded := Machine.run_invariant (fun node : Node => Guarded libs required node.log)
    (fun _ input h _ => Node.guarded_turn input h) hstart hallowed
  rw [hlog] at hguarded
  exact hguarded.covered hinput

/-! ### A run on fixed inputs -/

def samplePegout : Pegout.Flow where
  state := {
    flowId := ⟨1⟩
    step := .waitPegoutRequested
    ctx := {
      pegoutRequested := ⟨toBE 33 1, 7, ⟨1, 1⟩, 0, 0, 0, 100000⟩
      pegoutRequestedTxHash := 1
      bitvmxProtocolId := ⟨1⟩
      myP2pAddress := none
      committeeOutput := none
      pegOutAccepted := none
      spvProof := none
      pegoutRegistered := none
      pegoutRegisteredTx := none
      transactionStatus := none } }
  saved := none

def sampleOperatorTake : AdvanceFunds.Flow where
  state := .new Libs.sample ⟨1⟩ {
    pegoutTxid := 1
    pegoutId := 1
    committeeId := 7
    slotId := 0
    slotIndex := 0
    requestPegoutTxHash := none
    userPubkey := ⟨toBE 33 1⟩
    takeOperatorAddress := 1
    operatorTakePubkey := ⟨toBE 33 1⟩ }
  saved := none

def minedProof : BtcTxSPVProof := Pegin.sampleProof (Hex.encode (toBE 32 5)) 1

/-- One pegin is requested with its proof, which has 100 confirmations. -/
def requestRun : List NodeInput :=
  [.pegin 0 (.failing fun _ _ => false, .completeStep .peginTransactionFound),
    .other ⟨.getCommittee 7, rfl⟩ (.error (.other "timeout")),
    .pegin 0 (.failing fun _ _ => false, .completeStep (.requestPeginSpvProof minedProof))]

def requestLog : Log :=
  (Machine.run (Node.turn (guardedConfig Libs.sample 1 6))
    (Node.start (fun _ => (Pegin.Flow.start (guardedConfig Libs.sample 1 6) ⟨1⟩).own)
      (fun _ => samplePegout) fun _ => sampleOperatorTake) requestRun).log

theorem requestLog_eq : requestLog = requestLog.take 1 ++
    ⟨.requestPegin (BtcTxSPVProofInput.ofProof minedProof), .ok ⟨"0x01"⟩⟩ :: requestLog.drop 2 := by
  rfl

theorem submissions_covered_requestRun :
    requestLog.length = 7 ∧
      Covered Libs.sample 6 (BtcTxSPVProofInput.ofProof minedProof) (requestLog.drop 2) :=
  ⟨by decide +kernel, submissions_covered Libs.sample 1 6 _ _ _ requestRun requestLog_eq rfl⟩

end UnionBridge
