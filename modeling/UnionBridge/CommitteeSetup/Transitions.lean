import UnionBridge.CommitteeSetup.Calls

/-!
# What the parts of a step leave alone

Closing the current step and entering the next one change the context of the flow and, once, the keys
of the node. Both leave the flow at its step, do not touch its record, and keep the request of the user
(`Works`). A whole step then keeps the request in the flow and in its record, and so does everything
that happens to a flow between its creation and its end (`Life`).
-/

namespace UnionBridge.CommitteeSetup

open Contracts Bitvmx Effect OpFunding

def fundingAmounts (input : ApplyToStream) : List UInt64 :=
  [input.speedUpUtxo, input.fundingUtxo, calculateAdvanceFundsValue input.advanceFunds]

/-- Funds are sent only in the amounts of the request. -/
def PaysAsRequested (input : Option ApplyToStream) (c : Call) : Prop :=
  ∀ batch, c.batch = some batch → input.map fundingAmounts = some (batch.map (·.amount))

theorem paysAsRequested_of_batch_none {input : Option ApplyToStream} {c : Call}
    (h : c.batch = none) : PaysAsRequested input c := by
  intro batch hbatch
  rw [h] at hbatch
  cases hbatch

/-- The flow is still at its step, with its record and the request of its user, and sent no funds but
those of the request. -/
structure Works (w w' : World Flow) : Prop where
  flowId : w'.own.state.flowId = w.own.state.flowId
  step : w'.own.state.step = w.own.state.step
  record : w'.own.record = w.own.record
  input : w'.ctx.userInput = w.ctx.userInput
  log : ∃ new : Log, w'.log = new ++ w.log ∧ ∀ entry ∈ new, PaysAsRequested w.ctx.userInput entry.1

theorem Works.of_own {w w' : World Flow} (hlog : w'.log = w.log)
    (hflowId : w'.own.state.flowId = w.own.state.flowId)
    (hstep : w'.own.state.step = w.own.state.step) (hrecord : w'.own.record = w.own.record)
    (hinput : w'.ctx.userInput = w.ctx.userInput) : Works w w' :=
  ⟨hflowId, hstep, hrecord, hinput, [], hlog, fun _ h => nomatch h⟩

theorem Works.refl (w : World Flow) : Works w w := .of_own rfl rfl rfl rfl rfl

theorem Works.trans {w w' w'' : World Flow} (h : Works w w') (h' : Works w' w'') : Works w w'' := by
  obtain ⟨new, hnew, hpays⟩ := h.log
  obtain ⟨new', hnew', hpays'⟩ := h'.log
  refine ⟨h'.flowId.trans h.flowId, h'.step.trans h.step, h'.record.trans h.record,
    h'.input.trans h.input, new' ++ new, ?_, fun entry hentry => ?_⟩
  · rw [hnew', hnew, List.append_assoc]
  · rcases List.mem_append.mp hentry with hmem | hmem
    · exact h.input ▸ hpays' entry hmem
    · exact hpays entry hmem

theorem Works.call {w : World Flow} {c : Call} (h : PaysAsRequested w.ctx.userInput c)
    (answer : c.Answer) : Works w { w with log := ⟨c, answer⟩ :: w.log } := by
  refine ⟨rfl, rfl, rfl, rfl, [⟨c, answer⟩], rfl, fun entry hentry => ?_⟩
  rw [List.mem_singleton.mp hentry]
  exact h

instance : AllowsCalls Works where
  refl := Works.refl
  trans _ _ _ := Works.trans
  call hquiet := .call (paysAsRequested_of_batch_none hquiet)

/-- However the program ends, the flow is where it was. -/
abbrev Working {α : Type} (m : Program Flow α) : Prop := Within Works m

/-- A change of the context that keeps the request. -/
instance {f : FlowContext → FlowContext} [h : ∀ ctx, Fact ((f ctx).userInput = ctx.userInput)] :
    Stays Works (modifyCtx f) :=
  ⟨fun w => .of_own rfl rfl rfl rfl (h w.ctx).out⟩

instance (f : GlobalContext → GlobalContext) : Stays Works (modifyGlobal f) :=
  ⟨fun _ => .of_own rfl rfl rfl rfl rfl⟩

/-! ## Entering a step -/

section Entering

variable {config : Config} {env : Env}

-- the instances of a long program nest
set_option synthInstance.maxSize 100000

instance {α : Type} (result : Outcome α) : Stays Works (orFailure result) := by
  unfold orFailure; split <;> infer_instance

instance : Stays Works (validateRskBalance config env) := by
  dsimp only [validateRskBalance]; infer_instance

instance {name : String} {action : Program Flow Unit} [Stays Works action] :
    Stays Works (unlessKeysSet name action) := by
  unfold unlessKeysSet; infer_instance

instance {set : PubKeyReq → Program Flow PUnit} [∀ req, Stays Works (set req)] :
    Stays Works (requestBitvmxPubKey env set) := by
  unfold requestBitvmxPubKey; infer_instance

instance {pubKeyReq : Option PubKeyReq} {set : PubKeyReq → Program Flow PUnit}
    [∀ req, Stays Works (set req)] :
    Stays Works (requestBitvmxKeySigning config env pubKeyReq set) := by
  unfold requestBitvmxKeySigning; infer_instance

instance (req : PubKeyReq) : Stays Works (setMyTakeKeyReq req) := by
  unfold setMyTakeKeyReq; infer_instance

instance (req : PubKeyReq) : Stays Works (setMyDisputeKeyReq req) := by
  unfold setMyDisputeKeyReq; infer_instance

instance (req : PubKeyReq) : Stays Works (setMyCommKeyReq req) := by
  unfold setMyCommKeyReq; infer_instance

/-- The one program that sends funds: their amounts are those of the request in the context. -/
instance : Stays Works (fundProtocol config env) := by
  refine ⟨.bind (within_perform rfl) fun reqId => within_iff_wp.mpr fun w => ?_⟩
  simp only [getCtx, getGlobal, modifyCtx, FlowContext.getUserInput, wp_bind, wp_get, wp_pure]
  refine wp_imp (within_iff_wp.mp Stays.within w) fun key w' h => ?_
  rw [wp_okOr]
  refine ⟨fun input hinput => ?_, fun _ => h⟩
  have hset : Works w (w'.setCtx { w'.ctx with sendFundsReq := some ⟨reqId, none⟩ }) :=
    h.trans (.of_own rfl rfl rfl rfl rfl)
  rw [wp_modify, wp_perform]
  have hsent := fun answer => hset.trans (.call (c := .send (.sendFunds reqId
    [⟨key.publicKey, input.speedUpUtxo⟩, ⟨key.publicKey, input.fundingUtxo⟩,
      ⟨key.publicKey, calculateAdvanceFundsValue input.advanceFunds⟩] (some (feeRate config)))) ?_ answer)
  · split
    · exact hsent _
    · exact hsent _
  · intro batch hbatch
    cases hbatch
    rw [hset.input, hinput]
    rfl

instance : Stays Works (buildFundingUtxo config) := by
  dsimp only [buildFundingUtxo]; infer_instance

instance (takeKey disputeKey : SignedPublicKey) (fundingUtxo : ContractUtxo) :
    Stays Works (buildApplyToStreamInput config takeKey disputeKey fundingUtxo) := by
  dsimp only [buildApplyToStreamInput, signedToCommitteePublicKey]; infer_instance

instance : Stays Works (applyToStream config env) := by unfold applyToStream; infer_instance

instance : Stays Works (depositCommunicationData config env) := by
  unfold depositCommunicationData; infer_instance

instance : Stays Works (setupBitvmxAggregatedTakePubkey config env) := by
  dsimp only [setupBitvmxAggregatedTakePubkey]; infer_instance

instance : Stays Works (setupBitvmxAggregatedDisputePubkey config env) := by
  dsimp only [setupBitvmxAggregatedDisputePubkey]; infer_instance

instance (data : CommitteeData) (communicationData : List CommsAddress)
    (myIndex : Nat) (myRole : ParticipantRole) (partner : MemberOfCommittee × Nat) :
    Stays Works (setupPairwiseKey config env data communicationData myIndex myRole partner) := by
  dsimp only [setupPairwiseKey, index]; infer_instance

instance : Stays Works (requestPairwiseKeys config env) := by
  dsimp only [requestPairwiseKeys, setupPairwiseKeys, index]; infer_instance

instance : Stays Works (setupDisputeCoreProtocol config env) := by
  dsimp only [setupDisputeCoreProtocol, DisputeCoreSetup.setup, DisputeCoreSetup.bitvmxSlotsPerPackage]
  infer_instance

instance : Stays Works (requestDisputeCoreVars config env) := by
  dsimp only [requestDisputeCoreVars, getMyIndex, DisputeChannelSetup.requestDisputeCoreVar]
  infer_instance

instance : Stays Works (completeDisputeChannelSetup config env) := by
  dsimp only [completeDisputeChannelSetup, getMyIndex]; infer_instance

instance : Stays Works (completeFullPenalizationSetup config env) := by
  dsimp only [completeFullPenalizationSetup, getMyIndex]; infer_instance

instance : Stays Works (depositAggregatedKey env) := by unfold depositAggregatedKey; infer_instance

/-- **Entering a step leaves the flow at that step.** -/
theorem working_enterStep (step : Steps) : Working (enterStep config env step) := by
  have hstays : Stays Works (enterStep config env step) := by
    unfold enterStep
    split <;> infer_instance
  exact hstays.within

end Entering

/-! ## Closing a step -/

section Closing

variable {config : Config} {env : Env} {data : StepData}

set_option synthInstance.maxSize 100000

instance : Stays Works (validateBitvmxBalance config data) := by
  refine ⟨.okOr fun _ => .bind Stays.within fun _ => .bind Stays.within fun _ =>
    .bind Stays.within fun _ => .bind Stays.within fun _ => .bind Stays.within fun _ => ?_⟩
  split
  · exact .throw _
  · exact Stays.within

instance (pubKeyReq : Option PubKeyReq) : Stays Works (closePubKeyReq pubKeyReq data) := by
  dsimp only [closePubKeyReq, StepData.intoPubkey]; infer_instance

instance (pubKeyReq : Option PubKeyReq) :
    Stays Works (closePubKeySigningReq pubKeyReq data) := by
  dsimp only [closePubKeySigningReq, StepData.intoSignedPayload]; infer_instance

instance (request : Option (Request PublicKey)) :
    Stays Works (closeAggKeyReq request data) := by
  dsimp only [closeAggKeyReq, StepData.intoPubkey]; infer_instance

instance (event : NewCommitteePendingEvent) (committeeId : CommitteeId) :
    Stays Works (imSelectedToNewCommittee config event committeeId) := by
  unfold imSelectedToNewCommittee; infer_instance

instance (event : NewCommitteePendingEvent) (committeeId : CommitteeId) :
    Stays Works (updateMyCommittees event committeeId) := by
  dsimp only [updateMyCommittees]; infer_instance

instance : Stays Works (buildCommitteeData config env) := by
  dsimp only [buildCommitteeData]; infer_instance

instance : Stays Works (buildMyCommunicationData config env) := by
  dsimp only [buildMyCommunicationData]; infer_instance

instance : Stays Works (processPairwiseKeyResponse config env data) := by
  have hanswer : ∀ reqId key req, Stays Works (answerPairwiseKeyReq reqId key req) := by
    intro reqId key req
    dsimp only [answerPairwiseKeyReq, index]
    infer_instance
  dsimp only [processPairwiseKeyResponse, closePairwiseKeyReq, StepData.intoPairwiseAggregatedKey]
  infer_instance

instance (disputeCorePid : Uuid) (name text : String) :
    Stays Works (processDisputeCoreVariable config disputeCorePid name text) := by
  dsimp only [processDisputeCoreVariable, answerDisputeCoreVariable]; infer_instance

instance : Stays Works (validateCommitteeReady config) := by
  dsimp only [validateCommitteeReady]; infer_instance

/-- **Closing a step leaves the flow at that step.** Only the first step takes a request. -/
theorem working_closeStep {step : Steps} (h : step ≠ .init) :
    Working (closeStep config env data step) := by
  have hstays : Stays Works (closeStep config env data step) := by
    dsimp only [closeStep, closeSetupCoreReq, closeSetupChannelReq, StepData.intoCommsAddress,
      StepData.intoFundsSent, StepData.intoCommitteePending, StepData.intoAllCommDataReady,
      StepData.intoSetupCompleted, StepData.intoDisputeCoreVariable, StepData.intoCommitteeReady]
    split
    · exact absurd rfl h
    all_goals infer_instance
  exact hstays.within

end Closing

end UnionBridge.CommitteeSetup
