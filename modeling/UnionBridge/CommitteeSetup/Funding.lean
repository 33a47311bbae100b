import UnionBridge.CommitteeSetup.Transitions

/-!
# What a committee flow pays

A flow checks its Bitcoin balance once, against the funding profile of its stream, and later sends
funds in the amounts of the request that started it. The request does not change in between
(`Evolves.holds`), whatever answers arrive, whatever other flows do to the shared context, and across
restarts from the record in the store. So every batch that a flow sends has the amounts of its request,
with the advance funds multiplied by 12/10 in words that wrap.

The operators' tool posts the amounts of the profile as the request (`postApply`), and the advance
funds of the profile have their buffer of 20 percent already.
-/

namespace UnionBridge.CommitteeSetup

open Contracts Bitvmx Effect OpFunding

/-! ## The life of a flow -/

/-- The flow has the request, and so has its record; its funds were sent in the amounts of the request. -/
structure Holds (input : ApplyToStream) (w : World Flow) : Prop where
  request : w.ctx.userInput = some input
  record : ∀ state, w.own.record = some state → state.ctx.userInput = some input
  log : ∀ entry ∈ w.log, PaysAsRequested (some input) entry.1

theorem Works.holds {input : ApplyToStream} {w w' : World Flow} (h : Works w w')
    (hw : Holds input w) : Holds input w' := by
  obtain ⟨new, hnew, hpays⟩ := h.log
  refine ⟨h.input.trans hw.request, fun state hstate => hw.record state (h.record ▸ hstate), ?_⟩
  intro entry hentry
  rw [hnew] at hentry
  rcases List.mem_append.mp hentry with hmem | hmem
  · exact hw.request ▸ hpays entry hmem
  · exact hw.log entry hmem

/-- A flow right after the request of its user, when no flow was stored under its id. -/
inductive Created (input : ApplyToStream) : World Flow → Prop where
  | mk (config : Config) (env : Env) (flowId : FlowId) (globalContext : GlobalContext) :
      Created input (after (completeStep config env (.userRequest input))
        ⟨⟨.new flowId, globalContext, none⟩, []⟩)

/-- What can happen to a flow: an answer arrives, the flow is given up, another flow changes the shared
context, or the process starts again with the record of the flow. -/
inductive Evolves : World Flow → World Flow → Prop where
  | answer (config : Config) (env : Env) {data : StepData} (w : World Flow)
      (hdata : ∀ input, data ≠ .userRequest input) :
      Evolves w (after (completeStep config env data) w)
  | failed (env : Env) (w : World Flow) : Evolves w (after (fail env) w)
  | shared (globalContext : GlobalContext) (w : World Flow) : Evolves w (w.setGlobal globalContext)
  | restart {state : State} (w : World Flow) (hrecord : w.own.record = some state) :
      Evolves w ⟨{ w.own with state }, w.log⟩

abbrev Later : World Flow → World Flow → Prop := Relation.ReflTransGen Evolves

section Holds

variable {input : ApplyToStream} {config : Config} {env : Env} {w w' : World Flow}

theorem keeps_holds_of_working {α : Type} {m : Program Flow α} (h : Working m) :
    Keeps (Holds input) m :=
  fun w hw => wp_always (within_iff_wp.mp h w) fun _ hworks => hworks.holds hw

theorem keeps_holds_setStep (step : Steps) :
    Keeps (Holds input) (modify fun w => w.setStep step : Program Flow PUnit) :=
  keeps_modify fun _ hw => ⟨hw.request, hw.record, hw.log⟩

theorem keeps_holds_persistState : Keeps (Holds input) (persistState env) := by
  refine keeps_bind (keeps_holds_of_working Works.refl) fun _ =>
    keeps_bind (keeps_holds_of_working (within_perform rfl)) fun _ =>
    keeps_bind (keeps_holds_of_working Stays.within) fun _ =>
    keeps_modify fun w hw => ⟨hw.request, fun state hstate => ?_, hw.log⟩
  cases hstate
  exact hw.request

theorem keeps_holds_startStep (step : Steps) : Keeps (Holds input) (startStep config env step) :=
  keeps_bind (keeps_holds_setStep step) fun _ =>
    keeps_bind (keeps_holds_of_working (working_enterStep step)) fun _ => keeps_holds_persistState

theorem keeps_holds_startNext (next : Option Steps) :
    Keeps (Holds input) (match next with
      | none => pure ()
      | some nextStep => startStep config env nextStep) := by
  cases next with
  | none => exact keeps_pure ()
  | some nextStep => exact keeps_holds_startStep nextStep

theorem working_closeStep_of_ne {data : StepData} (hdata : ∀ input, data ≠ .userRequest input)
    (step : Steps) : Working (closeStep config env data step) := by
  by_cases hstep : step = .init
  · subst hstep
    cases data with
    | userRequest input => exact absurd rfl (hdata input)
    | _ => exact Works.refl
  · exact working_closeStep hstep

theorem keeps_holds_completeStep {data : StepData} (hdata : ∀ input, data ≠ .userRequest input) :
    Keeps (Holds input) (completeStep config env data) :=
  keeps_bind (keeps_holds_of_working Works.refl) fun _ =>
    keeps_bind (keeps_holds_of_working (working_closeStep_of_ne hdata _)) keeps_holds_startNext

theorem Created.holds (h : Created input w) : Holds input w := by
  obtain ⟨config, env, flowId, globalContext⟩ := h
  refine after_of_wp ?_
  rw [completeStep, wp_bind, wp_get, wp_bind]
  -- at the first step the request is put into the context before anything can fail
  have hworking : Working (do
      ensureMemberWhitelisted config env
      return some Steps.validateBalances) :=
    .bind (.bind (within_perform rfl) fun _ => .bind Stays.within fun _ => within_ensure _)
      fun _ => .pure _
  refine wp_mono (within_iff_wp.mp hworking _)
    (fun next w' h => keeps_holds_startNext next w' (h.holds ?_)) fun _ _ h => h.holds ?_
  all_goals exact ⟨rfl, (fun _ hrecord => nomatch hrecord), (fun _ hentry => nomatch hentry)⟩

theorem Evolves.holds (h : Evolves w w') (hw : Holds input w) : Holds input w' := by
  cases h with
  | answer config env _ hdata => exact after_of_wp (keeps_holds_completeStep hdata w hw)
  | failed env =>
    have hmark : Keeps (Holds input) (markFailed env) :=
      keeps_bind (keeps_holds_setStep .failed) fun _ => keeps_holds_persistState
    exact after_of_wp (keeps_bind (keeps_attempt hmark) (fun _ => keeps_pure ()) w hw)
  | shared g => exact ⟨hw.request, hw.record, hw.log⟩
  | restart _ hrecord => exact ⟨hw.record _ hrecord, hw.record, hw.log⟩

theorem Later.holds (h : Later w w') (hw : Holds input w) : Holds input w' := by
  induction h with
  | refl => exact hw
  | tail _ hstep ih => exact hstep.holds ih

end Holds

variable (input : ApplyToStream) (balance : UInt64)

/-- The states of the flow that a request started. -/
def Reached (w : World Flow) : Prop :=
  ∃ start, Created input start ∧ Later start w

def Sent (w : World Flow) (batch : List Destination) : Prop :=
  ∃ entry ∈ w.log, entry.1.batch = some batch

/-- **Every batch of a flow has the amounts of its request.** -/
theorem Reached.amounts_eq {input : ApplyToStream} {w : World Flow} {batch : List Destination}
    (h : Reached input w) (hsent : Sent w batch) :
    batch.map (·.amount) = fundingAmounts input := by
  obtain ⟨start, hcreated, hlater⟩ := h
  obtain ⟨entry, hentry, hbatch⟩ := hsent
  have hpays := (Later.holds hlater hcreated.holds).log entry hentry batch hbatch
  exact (Option.some.inj hpays).symm

/-! ## The batch against the balance -/

def Validated (config : Config) (w : World Flow) (balance : UInt64) : Prop :=
  ∃ w', validateBitvmxBalance config (.bitVmxFundingBalance balance) w = .ok () w'

/-- No word wraps: neither the buffer of the advance funds nor the sum that is logged with the batch. -/
structure ApplyToStream.Fits (input : ApplyToStream) : Prop where
  buffer : input.advanceFunds.toNat * 12 < 2 ^ 64
  logged : input.speedUpUtxo.toNat + input.fundingUtxo.toNat < 2 ^ 64

/-- What a request asks to be sent, in natural numbers. -/
def ApplyToStream.requested : Nat :=
  input.speedUpUtxo.toNat + input.fundingUtxo.toNat + input.advanceFunds.toNat * 12 / 10

theorem toNat_calculateAdvanceFundsValue {value : UInt64} (h : value.toNat * 12 < 2 ^ 64) :
    (calculateAdvanceFundsValue value).toNat = value.toNat * 12 / 10 := by
  rw [calculateAdvanceFundsValue, UInt64.toNat_div, UInt64.toNat_mul]
  rw [show (12 : UInt64).toNat = 12 from rfl, show (10 : UInt64).toNat = 10 from rfl,
    Nat.mod_eq_of_lt h]

theorem sum_fundingAmounts {input : ApplyToStream} (h : input.advanceFunds.toNat * 12 < 2 ^ 64) :
    ((fundingAmounts input).map UInt64.toNat).sum = input.requested := by
  simp only [fundingAmounts, List.map_cons, List.map_nil, List.sum_cons, List.sum_nil,
    toNat_calculateAdvanceFundsValue h, ApplyToStream.requested]
  omega

/-- A flow whose balance passed the check, and that sent a batch later. -/
def PaidAfterCheck (config : Config) (balance : UInt64) (batch : List Destination) : Prop :=
  ∃ w w', Reached input w ∧ Validated config w balance ∧ Later w w' ∧ Sent w' batch

/-- A node that has its keys. -/
def GlobalContext.sample : GlobalContext :=
  let key : SignedPublicKey := ⟨⟨[2]⟩, 1, 1, 0⟩
  ⟨∅, ⟨some key, some key, some key⟩⟩

def ApplyToStream.sample (fundingUtxo speedUpUtxo advanceFunds : UInt64) : ApplyToStream :=
  ⟨0, .prover, fundingUtxo, speedUpUtxo, advanceFunds⟩

/-- A flow after the request, after the balance, and after the address, when it sends its funds. -/
def sampleCreated : World Flow :=
  after (completeStep (.sample 1) (.accepting 1) (.userRequest input))
    ⟨⟨.new ⟨1⟩, .sample, none⟩, []⟩

def sampleChecked : World Flow :=
  after (completeStep (.sample 1) (.accepting 2) (.bitVmxFundingBalance balance)) (sampleCreated input)

def samplePaid : World Flow :=
  after (completeStep (.sample 1) (.accepting 3) (.commInfo ⟨⟨.v4 0, 1⟩, "a"⟩))
    (sampleChecked input balance)

theorem sampleCreated_later : Later (sampleCreated input) (samplePaid input balance) :=
  .tail (.single (.answer (.sample 1) (.accepting 2) _ (by rintro _ ⟨⟩)))
    (.answer (.sample 1) (.accepting 3) _ (by rintro _ ⟨⟩))

theorem sample_reached : Reached input (samplePaid input balance) :=
  ⟨_, .mk (.sample 1) (.accepting 1) ⟨1⟩ .sample, sampleCreated_later input balance⟩

def batches (w : World Flow) : List (List Destination) := w.log.filterMap fun entry => entry.1.batch

theorem sent_of_mem_batches {w : World Flow} {batch : List Destination} (h : batch ∈ batches w) :
    Sent w batch := by
  obtain ⟨entry, hentry, hbatch⟩ := List.mem_filterMap.mp h
  exact ⟨entry, hentry, hbatch⟩

theorem sample_paidAfterCheck {input : ApplyToStream} {balance : UInt64} {batch : List Destination}
    (hvalidated : fails (validateBitvmxBalance (.sample 1) (.bitVmxFundingBalance balance))
      (sampleCreated input) = false)
    (hbatch : batch ∈ batches (samplePaid input balance)) :
    PaidAfterCheck input (.sample 1) balance batch := by
  obtain ⟨⟨⟩, hok⟩ := exists_of_not_fails hvalidated
  exact ⟨_, _, ⟨_, .mk (.sample 1) (.accepting 1) ⟨1⟩ .sample, .refl⟩, ⟨_, hok⟩,
    sampleCreated_later input balance, sent_of_mem_batches hbatch⟩

/-- The request that `post_apply` posts (`cli/operations/src/committee.rs`): the amounts of the profile. -/
def postApply (streamId : UInt64) (role : ParticipantRole) (usesBitcoinRegtest : Bool)
    (slotsPerPackage committeeMemberCount proverCount : Except String UInt64) :
    Except String ApplyToStream := do
  let slots ← slotsPerPackage
  let members ← committeeMemberCount
  let provers ← proverCount
  match deriveStreamFundingProfile streamId usesBitcoinRegtest slots members provers with
  | .error e => throw e.text
  | .ok fundingProfile => return {
      streamId
      role
      fundingUtxo := fundingProfile.protocolFunding
      speedUpUtxo := fundingProfile.speedUpUtxo
      advanceFunds := fundingProfile.advanceFunds }

section PostApply

variable {streamId slots members provers : UInt64} {role : ParticipantRole} {isRegtest : Bool}
  {profile : StreamFundingProfile} {input : ApplyToStream}

theorem postApply_eq
    (hprofile : deriveStreamFundingProfile streamId isRegtest slots members provers = .ok profile)
    (hpost : postApply streamId role isRegtest (.ok slots) (.ok members) (.ok provers) = .ok input) :
    input = ⟨streamId, role, profile.protocolFunding, profile.speedUpUtxo, profile.advanceFunds⟩ := by
  simp only [postApply, bind, Except.bind, hprofile] at hpost
  cases hpost
  rfl

/-- No denomination is large enough for the second buffer to wrap. -/
theorem advanceFunds_fits {work : Nat} (h : profile.IsDerived work) :
    profile.advanceFunds.toNat * 12 < 2 ^ 64 := by
  have hdenomination : profile.denomination.toNat ≤ 1000000000 := by
    have hmem := h.denomination
    simp only [streamDenominations, List.mem_cons, List.not_mem_nil, or_false] at hmem
    rcases hmem with heq | heq | heq | heq | heq
    all_goals
      rw [heq]
      decide
  have hadvance := h.advanceFunds
  omega

/-- The check compares the balance with the profile of the stream. -/
theorem Validated.le {config : Config} {w : World Flow} {balance : UInt64}
    (hslots : config.slotsPerPackage = .ok slots) (hmembers : config.committeeMemberCount = .ok members)
    (hprovers : config.proverCount = .ok provers) (hrequest : w.ctx.userInput = some input)
    (hprofile : deriveStreamFundingProfile input.streamId config.isRegtest slots members provers
      = .ok profile)
    (h : Validated config w balance) : profile.operatorFundAmount ≤ balance := by
  have hwp : wp (validateBitvmxBalance config (.bitVmxFundingBalance balance))
      (fun _ _ => profile.operatorFundAmount ≤ balance) (fun _ _ => True) w := by
    simp only [validateBitvmxBalance, StepData.intoBitvmxFundingBalance, expected, okOr, getCtx,
      FlowContext.getStreamId, hrequest, orText, hslots, hmembers, hprovers, hprofile, wp_bind, wp_get,
      wp_pure]
    cases w.ctx.fundingBalanceReq with
    | none => trivial
    | some req =>
      simp only [modifyCtx, wp_modify, wp_ensure, wp_pure]
      split
      · assumption
      · trivial
  obtain ⟨w', hok⟩ := h
  unfold wp at hwp
  rwa [hok] at hwp

/-- **A request of the tool is covered**, by a node with the same settings: the margin of 25 percent in
the balance is more than the second buffer. -/
theorem postApply_covered {config : Config} {w : World Flow} {balance : UInt64}
    (hslots : config.slotsPerPackage = .ok slots) (hmembers : config.committeeMemberCount = .ok members)
    (hprovers : config.proverCount = .ok provers)
    (hprofile : deriveStreamFundingProfile streamId config.isRegtest slots members provers
      = .ok profile)
    (hpost : postApply streamId role config.isRegtest (.ok slots) (.ok members) (.ok provers)
      = .ok input)
    (hreached : Reached input w) (hvalidated : Validated config w balance) :
    input.advanceFunds.toNat * 12 < 2 ^ 64 ∧ input.requested ≤ balance.toNat := by
  obtain ⟨work, hderived⟩ := deriveStreamFundingProfile_isDerived hprofile
  obtain ⟨start, hcreated, hlater⟩ := hreached
  have hrequest := (Later.holds hlater hcreated.holds).request
  have hinput := postApply_eq hprofile hpost
  subst hinput
  have hle := UInt64.le_iff_toNat_le.mp (hvalidated.le hslots hmembers hprovers hrequest hprofile)
  have hadvance := hderived.advanceFunds
  have hprotocol := hderived.protocolFunding
  have htotal := hderived.operatorFundAmount
  refine ⟨advanceFunds_fits hderived, ?_⟩
  simp only [ApplyToStream.requested]
  omega

/-- **Every batch for a request of the tool is covered** by the balance that the flow has checked before,
on a node with the same settings. -/
theorem tool_request_batch_covered {config : Config} {balance : UInt64} {batch : List Destination}
    (hslots : config.slotsPerPackage = .ok slots) (hmembers : config.committeeMemberCount = .ok members)
    (hprovers : config.proverCount = .ok provers)
    (hpost : postApply streamId role config.isRegtest (.ok slots) (.ok members) (.ok provers)
      = .ok input)
    (hpaid : PaidAfterCheck input config balance batch) :
    (batch.map fun output => output.amount.toNat).sum ≤ balance.toNat := by
  obtain ⟨w, w', hreached, hvalidated, hlater, hsent⟩ := hpaid
  cases hprofile : deriveStreamFundingProfile streamId config.isRegtest slots members provers with
  | error e =>
    simp only [postApply, bind, Except.bind, hprofile] at hpost
    cases hpost
  | ok profile =>
    obtain ⟨hbuffer, hle⟩ :=
      postApply_covered hslots hmembers hprovers hprofile hpost hreached hvalidated
    obtain ⟨start, hcreated, hstart⟩ := hreached
    have hamounts := Reached.amounts_eq ⟨start, hcreated, hstart.trans hlater⟩ hsent
    rw [← sum_fundingAmounts hbuffer, ← hamounts, List.map_map] at hle
    exact hle

/-- The buffer is applied a second time, which only amounts below five satoshi do not show. -/
theorem advance_output_buffered_once_iff {w : World Flow} {batch : List Destination}
    (hprofile : deriveStreamFundingProfile streamId isRegtest slots members provers = .ok profile)
    (hpost : postApply streamId role isRegtest (.ok slots) (.ok members) (.ok provers) = .ok input)
    (hreached : Reached input w) (hsent : Sent w batch) :
    batch[2]?.map (fun output => output.amount.toNat) = some (profile.denomination.toNat * 12 / 10)
      ↔ profile.denomination.toNat < 5 := by
  obtain ⟨work, hderived⟩ := deriveStreamFundingProfile_isDerived hprofile
  have hamounts := hreached.amounts_eq hsent
  rw [postApply_eq hprofile hpost] at hamounts
  have houtput : batch[2]?.map (fun output => output.amount.toNat)
      = some (profile.advanceFunds.toNat * 12 / 10) := by
    have hget := congrArg (fun amounts : List UInt64 => amounts[2]?.map UInt64.toNat) hamounts
    simp only [List.getElem?_map, Option.map_map] at hget
    rw [← toNat_calculateAdvanceFundsValue (advanceFunds_fits hderived)]
    exact hget
  have hadvance := hderived.advanceFunds
  rw [houtput, Option.some_inj]
  omega

end PostApply

/-- A flow for the smallest stream, with the request of the tool. -/
theorem smallest_stream_profile :
    deriveStreamFundingProfile 0 true 100 4 2
      = .ok ⟨100000, 1541660, 1000000, 120000, 2691660⟩ := by
  decide +kernel

theorem tool_request_batch_covered_smallest :
    ∃ batch, PaidAfterCheck (.sample 1541660 1000000 120000) (.sample 1) 2691660 batch
      ∧ (batch.map fun output => output.amount.toNat).sum ≤ (2691660 : UInt64).toNat := by
  have hpost : postApply 0 .prover true (.ok 100) (.ok 4) (.ok 2)
      = .ok (.sample 1541660 1000000 120000) := by decide +kernel
  have hpaid : PaidAfterCheck (.sample 1541660 1000000 120000) (.sample 1) 2691660
      [⟨⟨[2]⟩, 1000000⟩, ⟨⟨[2]⟩, 1541660⟩, ⟨⟨[2]⟩, 144000⟩] :=
    sample_paidAfterCheck (by decide +kernel) (by decide +kernel)
  exact ⟨_, hpaid, tool_request_batch_covered rfl rfl rfl hpost hpaid⟩

theorem smallest_stream_sent :
    Sent (samplePaid (.sample 1541660 1000000 120000) 2691660)
      [⟨⟨[2]⟩, 1000000⟩, ⟨⟨[2]⟩, 1541660⟩, ⟨⟨[2]⟩, 144000⟩] :=
  sent_of_mem_batches (by decide +kernel)

theorem smallest_stream_output_iff :
    ∃ profile input w batch, deriveStreamFundingProfile 0 true 100 4 2 = .ok profile
      ∧ postApply 0 .prover true (.ok 100) (.ok 4) (.ok 2) = .ok input
      ∧ Reached input w ∧ Sent w batch
      ∧ (batch[2]?.map (fun output => output.amount.toNat)
          = some (profile.denomination.toNat * 12 / 10) ↔ profile.denomination.toNat < 5) := by
  have hpost : postApply 0 .prover true (.ok 100) (.ok 4) (.ok 2)
      = .ok (.sample 1541660 1000000 120000) := by decide +kernel
  exact ⟨_, _, _, _, smallest_stream_profile, hpost, sample_reached _ _, smallest_stream_sent,
    advance_output_buffered_once_iff smallest_stream_profile hpost (sample_reached _ _)
      smallest_stream_sent⟩

/-- The smallest stream: 144000 are sent, where 12/10 of the denomination are 120000. -/
theorem smallest_stream_buffered_twice :
    ∃ profile input w batch, deriveStreamFundingProfile 0 true 100 4 2 = .ok profile
      ∧ postApply 0 .prover true (.ok 100) (.ok 4) (.ok 2) = .ok input
      ∧ Reached input w ∧ Sent w batch
      ∧ batch[2]?.map (fun output => output.amount.toNat) = some 144000
      ∧ profile.denomination.toNat * 12 / 10 = 120000 :=
  ⟨_, .sample 1541660 1000000 120000, _, _, smallest_stream_profile, by decide +kernel,
    sample_reached _ _, smallest_stream_sent, rfl, rfl⟩

end UnionBridge.CommitteeSetup
