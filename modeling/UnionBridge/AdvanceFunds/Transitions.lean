import UnionBridge.AdvanceFunds.Attempts

/-!
# What a step of an advance-funds flow can do

`completeStep` is a handler, which looks at the current step and stores the data, followed by the
entry into the next step. This module says once what each of the two can do, with every answer of
the outside. An entry that fails restores the state, so apart from a failed write of the store an
error leaves the step alone.
-/

namespace UnionBridge.AdvanceFunds

open Contracts Bitvmx Effect

/-! ## Entering a step -/

/-- What an entry looks up is kept in the state. -/
def Looked (s s' : FlowContext) : Prop :=
  ∃ index txid pid,
    s' = { s with myCommitteeIndex := index, acceptPeginTxid := txid, acceptPeginPid := pid }

variable (config : Config) (s : FlowContext)

theorem Looked.refl : Looked s s := ⟨_, _, _, rfl⟩

/-- The call is the registration of a step, with the proof that is stored for it. -/
def Registers : Steps → Call → Prop
  | .registerOrWaitRskAdvanceFunds, .registerAdvanceFunds _ input =>
    ∃ spv, s.advanceFundsSpv = some spv ∧ input = BtcTxSPVProofInput.ofProof spv.spvProof
  | .registerOrWaitRskReimbursementKickoff, .registerReimbursementKickoff _ input =>
    ∃ proof, s.reimbursementKickoffSpv = some proof ∧ input = BtcTxSPVProofInput.ofProof proof
  | .registerOrWaitRskOperatorTake, .registerOperatorTake input =>
    ∃ proof, s.operatorTakeSpv = some proof ∧ input = BtcTxSPVProofInput.ofProof proof
  | _, _ => False

def registersAt (next : Steps) : Bool :=
  next.isRetriableStep && s.wasSelectedOperator config

def FlowContext.proofFor : Steps → Option BtcTxSPVProof
  | .registerOrWaitRskAdvanceFunds => s.advanceFundsSpv.map (·.spvProof)
  | .registerOrWaitRskReimbursementKickoff => s.reimbursementKickoffSpv
  | .registerOrWaitRskOperatorTake => s.operatorTakeSpv
  | _ => none

/-- Why a registration may fail, apart from missing confirmations. -/
inductive Refusal (config : Config) (env : Env) (s : FlowContext) (next : Steps) : Prop
  | proof (h : s.proofFor next = none)
  | lookup (hcached : s.acceptPeginTxid = none) (log : Contracts.Log) (e : DomainErrors)
      (h : env.answer log (.getAcceptPeginTxid s.triggerData.pegoutTxid) = .error e)
  | registration {proof : BtcTxSPVProof} {c : Call} (hproof : s.proofFor next = some proof)
      (hc : Registers s next c) (h : RegistrationFails config.libs env config.verifier proof c)

/-- The calls of an entry: only the selected operator registers. -/
def EntryCall (next : Steps) (c : Call) : Prop :=
  c.Plain ∨ s.wasSelectedOperator config = true ∧ Registers s next c

/-- The broker took the variable that announces the registration. -/
def Announced (log : Contracts.Log) : Prop :=
  ∃ message, s.advanceFundsRegistered = some message
    ∧ (⟨.send (.setVar message.committeeId (AdvanceFundsRegisteredMessage.name message.slotIndex)
      (.advanceFundsRegistered message)), .ok ()⟩ : LogEntry) ∈ log

structure EntryOk (config : Config) (next : Steps) (outcome : StepOutcome) (w w' : World Flow) :
    Prop where
  looked : Looked w.own.state w'.own.state
  saved : w'.own.saved = w.own.saved
  log : Adds (EntryCall config w.own.state next) w.log w'.log
  announced : next = .setVarBitVmxAdvanceFundsRegistered → Announced w'.own.state w'.log
  retry : outcome.isRetry = true → registersAt config w.own.state next = true
  attempt : Attempted config.verifier (if registersAt config w.own.state next then
      some (if outcome.isRetry then .lacking else .accepted) else none) w.log w'.log

/-- An entry failed: nothing was accepted, and a registration has a reason. -/
structure EntryFails (config : Config) (env : Env) (s : FlowContext) (next : Steps)
    (log log' : Contracts.Log) : Prop where
  attempt : ∃ ended, Attempted config.verifier ended log log'
    ∧ (ended = none ∨ registersAt config s next = true ∧ ended = some .refused)
  refusal : registersAt config s next = true → Refusal config env s next

/-- What it leaves when it fails. -/
structure EntryError (config : Config) (env : Env) (next : Steps) (e : FlowError)
    (w w' : World Flow) : Prop where
  saved : w'.own.saved = w.own.saved
  log : Adds (EntryCall config w.own.state next) w.log w'.log
  isError : e.isError = true
  fails : EntryFails config env w.own.state next w.log w'.log

section Entry

variable {config : Config} {env : Env} {next : Steps} {w : World Flow}

theorem registersAt_of_not_retriable {s : FlowContext} (hnext : next.isRetriableStep = false) :
    registersAt config s next = false := by
  rw [registersAt, hnext, Bool.false_and]

theorem Refusal.of_step {s : FlowContext} {step : Steps}
    (h : Refusal config env { s with step := step } next) : Refusal config env s next := by
  cases h with
  | proof h => exact .proof h
  | lookup hcached log e h => exact .lookup hcached log e h
  | registration hproof hc h => exact .registration hproof hc h

theorem EntryFails.of_silent {s : FlowContext} {log log' : Contracts.Log}
    (hregisters : registersAt config s next = false)
    (h : Attempted config.verifier none log log') : EntryFails config env s next log log' :=
  ⟨⟨none, h, .inl rfl⟩, fun hregisters' => absurd (hregisters.symm.trans hregisters') nofun⟩

theorem neverPanics_getState : NeverPanics getState :=
  neverPanics_bind neverPanics_get fun _ => neverPanics_pure _

theorem enters_of_onlyCalls {m : FlowM Unit} (hnext : next.isRetriableStep = false)
    (hcalls : OnlyCalls Idle m) (hpanics : NeverPanics m)
    (hannounced : next = .setVarBitVmxAdvanceFundsRegistered →
      wp m (fun _ w' => Announced w'.own.state w'.log) (fun _ _ => True) w) :
    wp (m >>= fun _ => (pure .done : FlowM StepOutcome))
      (fun outcome => EntryOk config next outcome w) (fun e => EntryError config env next e w) w := by
  have hboth := wp_and (within_iff_wp.mp hcalls w) (hpanics w)
  have hentry : ∀ {w' : World Flow}, CallStep Idle w w' →
      Adds (EntryCall config w.own.state next) w.log w'.log :=
    fun h => h.log.mono fun _ hc => .inl hc.1
  have hdone : wp m (fun _ w' => next = .setVarBitVmxAdvanceFundsRegistered →
      Announced w'.own.state w'.log) (fun _ _ => True) w := by
    by_cases hnext : next = .setVarBitVmxAdvanceFundsRegistered
    · exact wp_imp (hannounced hnext) fun _ _ h _ => h
    · exact wp_imp wp_trivial fun _ _ _ h => absurd h hnext
  rw [wp_bind]
  apply wp_mono (wp_and hboth hdone)
  · rintro _ w' ⟨⟨hstep, -⟩, hann⟩
    refine ⟨?_, by rw [hstep.own], hentry hstep, hann, (fun h => nomatch h), ?_⟩
    · rw [hstep.own]
      exact .refl _
    · rw [registersAt_of_not_retriable hnext]
      exact .of_idle hstep.log
  · rintro e w' ⟨⟨hstep, herror⟩, -⟩
    exact ⟨by rw [hstep.own], hentry hstep, herror,
      .of_silent (registersAt_of_not_retriable hnext) (.of_idle hstep.log)⟩

/-- What was done before the registration of a step. -/
structure Resolved (config : Config) (next : Steps) (w w' : World Flow) : Prop where
  looked : Looked w.own.state w'.own.state
  saved : w'.own.saved = w.own.saved
  log : Adds (EntryCall config w.own.state next) w.log w'.log
  silent : Attempted config.verifier none w.log w'.log

theorem Resolved.refl (w : World Flow) : Resolved config next w w :=
  ⟨.refl _, rfl, Adds.refl _ _, .refl _⟩

theorem onlyCalls_submitRegistration {allowed : Call → Prop} {proof : BtcTxSPVProof} {c : Call}
    {read : c.Answer → Except DomainErrors TxSentOutput} (hplain : ∀ c, Call.Plain c → allowed c)
    (hc : allowed c) (retryReason failure : String) :
    OnlyCalls allowed
      (submitRegistration config env proof retryReason failure (perform env c read)) := by
  refine .bind (onlyCalls_invokeContractSafe (fun _ => hplain _ rfl) _ _
    (onlyCalls_perform hc))
    fun result => ?_
  split
  · exact .pure _
  · exact .pure _
  · exact .throw _

theorem submits {w₁ : World Flow} {proof : BtcTxSPVProof} {c : Call}
    {read : c.Answer → Except DomainErrors TxSentOutput}
    (hread : ∀ answer, attemptEnd config.verifier ⟨c, answer⟩ = some (registrationEnd (read answer)))
    (h : Resolved config next w w₁) (hregisters : registersAt config w.own.state next = true)
    (hproof : w.own.state.proofFor next = some proof) (hc : Registers w.own.state next c)
    (retryReason failure : String) :
    wp (submitRegistration config env proof retryReason failure (perform env c read))
      (fun outcome => EntryOk config next outcome w) (fun e => EntryError config env next e w)
      w₁ := by
  obtain ⟨hretriable, hselected⟩ : next.isRetriableStep = true
      ∧ w.own.state.wasSelectedOperator config = true := Bool.and_eq_true_iff.mp hregisters
  have hset : next = .setVarBitVmxAdvanceFundsRegistered → False := by
    rintro rfl
    cases hretriable
  have hcall : EntryCall config w.own.state next c := .inr ⟨hselected, hc⟩
  have hcalls : OnlyCalls (EntryCall config w.own.state next)
      (submitRegistration config env proof retryReason failure (perform env c read)) :=
    onlyCalls_submitRegistration (fun _ => .inl) hcall _ _
  apply wp_mono (wp_and (within_iff_wp.mp hcalls w₁)
    (submitRegistration_ends hread retryReason failure))
  · rintro outcome w' ⟨hstep, -, hattempt⟩
    refine ⟨by rw [hstep.own]; exact h.looked, by rw [hstep.own]; exact h.saved,
      h.log.trans hstep.log, fun h => (hset h).elim, fun _ => hregisters, ?_⟩
    rw [if_pos hregisters]
    exact h.silent.silent_then hattempt
  · rintro e w' ⟨hstep, herror, hfails, ended, hattempt, hended⟩
    refine ⟨by rw [hstep.own]; exact h.saved, h.log.trans hstep.log, herror,
      ⟨⟨ended, h.silent.silent_then hattempt, ?_⟩, fun _ => .registration hproof hc hfails⟩⟩
    exact hended.imp_right fun hrefused => ⟨hregisters, hrefused⟩

theorem resolves {Q : U256 → World Flow → Prop} {E : FlowError → World Flow → Prop}
    (hok : ∀ txid w', Resolved config next w w' → Q txid w')
    (herror : ∀ e w', EntryError config env next e w w' → E e w') :
    wp (resolveAcceptPeginTxid env) Q E w := by
  simp only [resolveAcceptPeginTxid, getState, modifyState, wp_bind, wp_get, wp_pure]
  split
  · exact hok _ _ (.refl _)
  · next hcached =>
    simp only [wp_bind, wp_perform, wp_withContext, wp_orDomain, wp_modify, wp_pure]
    have hlooked : Adds Idle w.log (⟨.getAcceptPeginTxid w.own.state.triggerData.pegoutTxid,
        env.answer w.log (.getAcceptPeginTxid w.own.state.triggerData.pegoutTxid)⟩ :: w.log) :=
      Adds.call ⟨rfl, by rintro _ ⟨⟩⟩ _ _
    have hcalls := hlooked.mono fun _ hc => show EntryCall config w.own.state next _ from .inl hc.1
    refine ⟨fun txid _ => ?_, fun e hrefused => ?_⟩
    · exact hok _ _ ⟨⟨_, _, _, rfl⟩, rfl, hcalls, .of_idle hlooked⟩
    · exact herror _ _ ⟨rfl, hcalls, rfl, ⟨⟨none, .of_idle hlooked, .inl rfl⟩,
        fun _ => .lookup hcached _ e hrefused⟩⟩

theorem enters_ifSelected {register : FlowM StepOutcome} (hnext : next.isRetriableStep = true)
    (h : registersAt config w.own.state next = true →
      wp register (fun outcome => EntryOk config next outcome w)
        (fun e => EntryError config env next e w) w) :
    wp (ifSelected config register) (fun outcome => EntryOk config next outcome w)
      (fun e => EntryError config env next e w) w := by
  have hset : next = .setVarBitVmxAdvanceFundsRegistered → False := by
    rintro rfl
    cases hnext
  simp only [ifSelected, getState, wp_bind, wp_get, wp_ite, wp_pure]
  split
  · next hselected => exact h (by rw [registersAt, hnext, hselected]; rfl)
  · next hselected =>
    have hregisters : registersAt config w.own.state next = false := by
      rw [registersAt, Bool.eq_false_iff.mpr hselected, Bool.and_false]
    refine ⟨.refl _, rfl, Adds.refl _ _, fun h => (hset h).elim, (fun h => by cases h), ?_⟩
    rw [hregisters]
    exact .refl _

theorem entryError_noProof {e : FlowError} (herror : e.isError = true)
    (hproof : w.own.state.proofFor next = none) : EntryError config env next e w w :=
  ⟨rfl, Adds.refl _ _, herror, ⟨⟨none, .refl _, .inl rfl⟩, fun _ => .proof hproof⟩⟩

theorem enters_requestTransactionInfo :
    wp (enterRequestTransactionInfo config env >>= fun _ => (pure .done : FlowM StepOutcome))
      (fun outcome => EntryOk config .requestBitVmxOperatorTakeTransactionInfo outcome w)
      (fun e => EntryError config env .requestBitVmxOperatorTakeTransactionInfo e w) w := by
  have hok : ∀ {w' : World Flow}, Looked w.own.state w'.own.state → w'.own.saved = w.own.saved →
      Adds Idle w.log w'.log →
      EntryOk config .requestBitVmxOperatorTakeTransactionInfo .done w w' :=
    fun hlooked hsaved hlog => ⟨hlooked, hsaved, hlog.mono fun _ hc => .inl hc.1,
      (fun h => by cases h), (fun h => by cases h), .of_idle hlog⟩
  have herror : ∀ {e : FlowError} {w' : World Flow}, w'.own.saved = w.own.saved →
      Adds Idle w.log w'.log → e.isError = true →
      EntryError config env .requestBitVmxOperatorTakeTransactionInfo e w w' :=
    fun hsaved hlog he => ⟨hsaved, hlog.mono fun _ hc => .inl hc.1, he, .of_silent rfl (.of_idle hlog)⟩
  have hone : ∀ {c : Call} (answer : c.Answer), Idle c → Adds Idle w.log (⟨c, answer⟩ :: w.log) :=
    fun answer hc => Adds.call hc answer _
  have htwo : ∀ {c c' : Call} (answer : c.Answer) (answer' : c'.Answer), Idle c → Idle c' →
      Adds Idle w.log (⟨c', answer'⟩ :: ⟨c, answer⟩ :: w.log) :=
    fun answer answer' hc hc' => (hone answer hc).trans (Adds.call hc' answer' _)
  simp only [enterRequestTransactionInfo, myCommitteeIndex, getState, modifyState, sendBitvmxMsg,
    wp_bind, wp_get, wp_pure]
  split
  · simp only [wp_modify, wp_perform, wp_orText, wp_pure]
    exact ⟨fun _ _ => hok ⟨_, _, _, rfl⟩ rfl (hone _ ⟨rfl, by rintro _ ⟨⟩⟩),
      fun _ _ => herror rfl (hone _ ⟨rfl, by rintro _ ⟨⟩⟩) rfl⟩
  · simp only [getCommitteeOutput, wp_bind, wp_withContext, wp_perform, wp_orDomain, wp_okOr,
      wp_modify, wp_pure, wp_orText]
    refine ⟨fun output _ => ⟨fun index _ => ⟨fun _ _ => ?_, fun _ _ => ?_⟩, fun _ => ?_⟩,
      fun e _ => ?_⟩
    · exact hok ⟨_, _, _, rfl⟩ rfl (htwo _ _ ⟨rfl, by rintro _ ⟨⟩⟩ ⟨rfl, by rintro _ ⟨⟩⟩)
    · exact herror rfl (htwo _ _ ⟨rfl, by rintro _ ⟨⟩⟩ ⟨rfl, by rintro _ ⟨⟩⟩) rfl
    · exact herror rfl (hone _ ⟨rfl, by rintro _ ⟨⟩⟩) rfl
    · exact herror rfl (hone _ ⟨rfl, by rintro _ ⟨⟩⟩) rfl

theorem enters_notifyRegistered :
    wp (enterNotifyRegistered env) (fun _ w' => Announced w'.own.state w'.log) (fun _ _ => True)
      w := by
  simp only [enterNotifyRegistered, getState, sendBitvmxMsg, wp_bind, wp_get, wp_pure, wp_okOr,
    wp_perform, wp_orText]
  refine ⟨fun message hmessage => ⟨fun _ hsent => ?_, fun _ _ => trivial⟩, fun _ => trivial⟩
  refine ⟨message, hmessage, ?_⟩
  rw [show env.answer w.log (.send _) = .ok () from hsent]
  exact List.mem_cons_self

instance {allowed : Call → Prop} : Stays (CallStep allowed) getState := by
  unfold getState; infer_instance

instance (message : IncomingBitVMXApiMessages) : Fact (Idle (.send message)) :=
  ⟨rfl, by rintro _ ⟨⟩⟩

instance (kind : FlowKind) (id : Uuid) : Fact (Idle (.signalDone kind id)) :=
  ⟨rfl, by rintro _ ⟨⟩⟩

theorem neverPanics_enterSetupProtocol : NeverPanics (enterSetupProtocol config env) := by
  refine neverPanics_bind neverPanics_getState fun state => ?_
  refine neverPanics_bind (neverPanics_ensure rfl) fun _ => ?_
  refine neverPanics_bind (neverPanics_okOr _ rfl) fun myAddress => ?_
  exact neverPanics_bind (neverPanics_sendBitvmxMsg _) fun _ => neverPanics_sendBitvmxMsg _

/-- **Entering a step.** -/
theorem enterStep_enters (hnext : next ≠ .waitRskOperatorTakeTriggered) :
    wp (enterStep config env next) (fun outcome => EntryOk config next outcome w)
      (fun e => EntryError config env next e w) w := by
  cases next
  case waitRskOperatorTakeTriggered => exact absurd rfl hnext
  case getBitVmxCommInfo =>
    exact enters_of_onlyCalls rfl (by unfold enterRequestCommInfo; exact Stays.within)
      (neverPanics_bind neverPanics_get fun _ => neverPanics_sendBitvmxMsg _) fun h => by cases h
  case requestBitVmxOperatorTakeTransactionInfo => exact enters_requestTransactionInfo
  case setupBitVmxAdvanceFundsProtocol =>
    exact enters_of_onlyCalls rfl (by unfold enterSetupProtocol; exact Stays.within)
      neverPanics_enterSetupProtocol fun h => by cases h
  case registerOrWaitRskAdvanceFunds =>
    refine enters_ifSelected rfl fun hregisters => ?_
    simp only [enterRegisterAdvanceFunds, getState, wp_bind, wp_get, wp_pure, wp_okOr]
    refine ⟨fun spv hspv => resolves (fun txid w' h => ?_) fun _ _ h => h, fun hnone => ?_⟩
    · have hc : Registers w.own.state .registerOrWaitRskAdvanceFunds
          (.registerAdvanceFunds txid (BtcTxSPVProofInput.ofProof spv.spvProof)) := ⟨spv, hspv, rfl⟩
      refine submits (fun _ => rfl) h hregisters ?_ hc _ _
      show w.own.state.advanceFundsSpv.map _ = _
      rw [hspv]
      rfl
    · refine entryError_noProof rfl ?_
      show w.own.state.advanceFundsSpv.map _ = none
      rw [hnone]
      rfl
  case setVarBitVmxAdvanceFundsRegistered =>
    refine enters_of_onlyCalls rfl (by unfold enterNotifyRegistered; exact Stays.within) ?_
      fun _ => enters_notifyRegistered
    refine neverPanics_bind neverPanics_getState fun state => ?_
    exact neverPanics_bind (neverPanics_okOr _ rfl) fun _ => neverPanics_sendBitvmxMsg _
  case registerOrWaitRskReimbursementKickoff =>
    refine enters_ifSelected rfl fun hregisters => ?_
    simp only [enterRegisterReimbursementKickoff, getState, wp_bind, wp_get, wp_pure, wp_okOr]
    refine ⟨fun proof hproof => resolves (fun txid w' h => ?_) fun _ _ h => h,
      fun hnone => entryError_noProof rfl hnone⟩
    have hc : Registers w.own.state .registerOrWaitRskReimbursementKickoff
        (.registerReimbursementKickoff txid (BtcTxSPVProofInput.ofProof proof)) :=
      ⟨proof, hproof, rfl⟩
    exact submits (fun _ => rfl) h hregisters hproof hc _ _
  case registerOrWaitRskOperatorTake =>
    refine enters_ifSelected rfl fun hregisters => ?_
    simp only [enterRegisterOperatorTake, getState, wp_bind, wp_get, wp_pure, wp_okOr]
    refine ⟨fun proof hproof => ?_, fun hnone => entryError_noProof rfl hnone⟩
    have hc : Registers w.own.state .registerOrWaitRskOperatorTake
        (.registerOperatorTake (BtcTxSPVProofInput.ofProof proof)) := ⟨proof, hproof, rfl⟩
    exact submits (fun _ => rfl) (.refl _) hregisters hproof hc _ _
  case done =>
    refine enters_of_onlyCalls rfl (by unfold enterWriteCompletionMarker; exact Stays.within) ?_
      fun h => by cases h
    refine neverPanics_bind neverPanics_getState fun state => ?_
    exact neverPanics_bind neverPanics_perform fun _ => neverPanics_orText _
  all_goals
    exact ⟨.refl _, rfl, Adds.refl _ _, (fun h => by cases h), (fun h => by cases h), .refl _⟩

end Entry

/-! ## Starting a step -/

/-- A flow that has entered a step. -/
structure Entered (config : Config) (next : Steps) (w w' : World Flow) : Prop where
  state : ∃ index txid pid retry, w'.own.state = { w.own.state with
    step := next, myCommitteeIndex := index, acceptPeginTxid := txid, acceptPeginPid := pid
    pendingRetry := retry }
  log : Adds (EntryCall config w.own.state next) w.log w'.log
  announced : next = .setVarBitVmxAdvanceFundsRegistered → Announced w'.own.state w'.log
  retry : w'.own.state.pendingRetry = true → registersAt config w.own.state next = true
  attempt : Attempted config.verifier (if registersAt config w.own.state next then
      some (if w'.own.state.pendingRetry then .lacking else .accepted) else none) w.log w'.log

def SaveRefused (env : Env) (id : FlowId) : Prop :=
  ∃ log text, env.answer log (.saveFlow (.operatorTakeFlow id.value)) = .error text

/-- Everything that starting a step can do. The last case is a failed write of the store. -/
inductive Starts (config : Config) (env : Env) (next : Steps) (w w' : World Flow) : Bool → Prop
  | entered (h : Entered config next w w') (hsaved : w'.own.saved = some w'.own.state) :
      Starts config env next w w' true
  | restored (hown : w'.own = w.own)
      (hlog : Adds (EntryCall config w.own.state next) w.log w'.log)
      (hfails : EntryFails config env w.own.state next w.log w'.log) :
      Starts config env next w w' false
  | unsaved (h : Entered config next w w') (hsaved : w'.own.saved = w.own.saved)
      (hrefused : SaveRefused env w.own.state.flowId) :
      Starts config env next w w' false

theorem startStep_starts {config : Config} {env : Env} {next : Steps} {w : World Flow}
    (hnext : next ≠ .waitRskOperatorTakeTriggered) :
    wp (startStep config env next)
      (fun outcome w' => Starts config env next w w' true
        ∧ w'.own.state.pendingRetry = outcome.isRetry)
      (fun e w' => Starts config env next w w' false ∧ e.isError = true) w := by
  let w₁ : World Flow := ⟨{ w.own with state := { w.own.state with step := next } }, w.log⟩
  have henter : wp (enterStep config env next) (fun outcome => EntryOk config next outcome w₁)
      (fun e => EntryError config env next e w₁) w₁ := enterStep_enters hnext
  simp only [startStep, orRestore, persistState, getState, modifyState, wp_bind, wp_get, wp_pure,
    wp_modify, wp_attempt]
  apply wp_mono henter
  · intro outcome w' h
    obtain ⟨index, txid, pid, hstate⟩ := h.looked
    simp only [wp_perform, wp_orText]
    have hidle : ∀ {key : StoreKey} (answer : Except String Unit),
        Adds Idle w'.log (⟨.saveFlow key, answer⟩ :: w'.log) := by
      intro key answer
      have hsave : Idle (.saveFlow key) := ⟨rfl, by rintro _ ⟨⟩⟩
      exact Adds.call hsave answer w'.log
    have hadds : ∀ {key : StoreKey} (answer : Except String Unit),
        Adds (EntryCall config w.own.state next) w.log (⟨.saveFlow key, answer⟩ :: w'.log) := by
      intro key answer
      exact Adds.trans h.log ((hidle answer).mono fun _ hc => .inl hc.1)
    have hentered : ∀ {key : StoreKey} (answer : Except String Unit) (saved : Option FlowContext),
        Entered config next w ⟨{ w'.own with
          state := { w'.own.state with pendingRetry := outcome.isRetry }, saved := saved },
          ⟨.saveFlow key, answer⟩ :: w'.log⟩ := by
      intro key answer saved
      refine ⟨⟨index, txid, pid, outcome.isRetry, by rw [hstate]⟩, hadds answer, ?_, h.retry,
        h.attempt.then_silent (.of_idle (hidle answer))⟩
      intro hset
      obtain ⟨message, hmessage, hmem⟩ := h.announced hset
      exact ⟨message, hmessage, List.mem_cons_of_mem _ hmem⟩
    refine ⟨fun _ _ => ⟨.entered (hentered _ _) rfl, trivial⟩, fun text hrefused => ?_⟩
    refine ⟨.unsaved (hentered _ _) h.saved ⟨w'.log, text, ?_⟩, rfl⟩
    rw [hstate] at hrefused
    exact hrefused
  · intro e w' h
    simp only [h.isError, if_true, wp_throw]
    refine ⟨.restored ?_ h.log ⟨h.fails.attempt, fun hregisters => ?_⟩, trivial⟩
    · show Flow.mk w.own.state w'.own.saved = w.own
      rw [h.saved]
    · exact (h.fails.refusal hregisters).of_step

/-! ## Handling the data -/

/-- The data are a notification about a transaction, and the flow is past the step for it. -/
def StepData.isLate (current : Steps) : StepData → Bool
  | .advanceFundsSPV _ => current.isPast .waitBitVmxAdvanceFundsSpv
  | .reimbursementKickoffSPV _ => current.isPast .setVarBitVmxAdvanceFundsRegistered
  | .operatorTakeSPV _ => current.isPast .waitBitVmxOperatorTakeSpv
  | _ => false

/-- What the handlers of the data can do: what they store and the step they find. -/
inductive Handled (config : Config) (s : FlowContext) :
    StepData → FlowContext → Option Steps → Prop
  | triggered (hstep : s.step = .waitRskOperatorTakeTriggered) :
      Handled config s .operatorTakeTriggered s (some (if s.wasSelectedOperator config then
        .getBitVmxCommInfo else .registerOrWaitRskAdvanceFunds))
  | commInfo (info : CommsAddress) (hstep : s.step = .getBitVmxCommInfo) :
      Handled config s (.commInfo info) { s with myP2pAddress := some info }
        (some .requestBitVmxOperatorTakeTransactionInfo)
  | transactionInfo (txid : Txid) (hstep : s.step = .requestBitVmxOperatorTakeTransactionInfo) :
      Handled config s (.operatorTakeTransactionInfo txid) { s with operatorTakeTxid := some txid }
        (some .setupBitVmxAdvanceFundsProtocol)
  | setupCompleted (hstep : s.step = .setupBitVmxAdvanceFundsProtocol) :
      Handled config s .setupCompleted s (some .waitBitVmxAdvanceFundsSpv)
  | late (data : StepData) (hlate : data.isLate s.step = true) : Handled config s data s none
  | advanceFundsSpv (spv : FundsAdvanceSPV) (hstep : s.step = .waitBitVmxAdvanceFundsSpv) :
      Handled config s (.advanceFundsSPV spv) { s with advanceFundsSpv := some spv }
        (some .registerOrWaitRskAdvanceFunds)
  | confirmed (message : AdvanceFundsRegisteredMessage)
      (hvalid : s.step.isValidTransition .registerOrWaitRskAdvanceFunds
        (s.wasSelectedOperator config) = true) :
      Handled config s (.advanceFundsConfirmed message)
        { s with advanceFundsRegistered := some message }
        (some .setVarBitVmxAdvanceFundsRegistered)
  | kickoffSpv (proof : BtcTxSPVProof)
      (hvalid : s.step.isValidTransition .setVarBitVmxAdvanceFundsRegistered
        (s.wasSelectedOperator config) = true) :
      Handled config s (.reimbursementKickoffSPV proof)
        (if s.wasSelectedOperator config then { s with reimbursementKickoffSpv := some proof }
          else s)
        (some .registerOrWaitRskReimbursementKickoff)
  | kickoffConfirmed (hvalid : s.step.isValidTransition .registerOrWaitRskReimbursementKickoff
        (s.wasSelectedOperator config) = true) :
      Handled config s .reimbursementKickoffConfirmed s (some .waitBitVmxOperatorTakeSpv)
  | takeSpv (proof : BtcTxSPVProof)
      (hvalid : s.step.isValidTransition .waitBitVmxOperatorTakeSpv
        (s.wasSelectedOperator config) = true) :
      Handled config s (.operatorTakeSPV proof)
        (if s.wasSelectedOperator config then { s with operatorTakeSpv := some proof } else s)
        (some .registerOrWaitRskOperatorTake)
  | registered (event : PegoutRegistered)
      (hvalid : s.step.isValidTransition .registerOrWaitRskOperatorTake
        (s.wasSelectedOperator config) = true) :
      Handled config s (.pegoutRegistered event) s (some .done)
  | retry (hstep : s.step.isRetriableStep = true) : Handled config s .retry s (some s.step)
  | stale (hstep : s.step.isRetriableStep = false) : Handled config s .retry s none

/-- A handler makes no call and does not touch the store. -/
structure HandlerOk (config : Config) (data : StepData) (w : World Flow) (next : Option Steps)
    (w' : World Flow) : Prop where
  handled : Handled config w.own.state data w'.own.state next
  frame : w' = ⟨{ w.own with state := w'.own.state }, w.log⟩

/-- It may reject the data, but never a retry. -/
structure HandlerError (data : StepData) (w : World Flow) (e : FlowError) (w' : World Flow) :
    Prop where
  same : w' = w
  isError : e.isError = true
  data_ne : data ≠ .retry

theorem handleStepData_handles (data : StepData) (w : World Flow) :
    wp (handleStepData config w.own.state.step data) (HandlerOk config data w) (HandlerError data w)
      w := by
  cases data <;> simp only [handleStepData, onOperatorTakeTriggered, onCommInfo, onSetupCompleted,
    onOperatorTakeTransactionInfo, onAdvanceFundsSpv, onAdvanceFundsConfirmed,
    onReimbursementKickoffSpv, onReimbursementKickoffConfirmed, onOperatorTakeSpv, onPegoutRegistered,
    onRetry, getState, modifyState, wp_bind, wp_get, wp_pure, wp_ensure, wp_modify, wp_ite]
  case operatorTakeTriggered =>
    split
    · next hstep =>
      have h : Handled config w.own.state .operatorTakeTriggered w.own.state _ := .triggered hstep
      split
      · next hselected => rw [if_pos hselected] at h; exact ⟨h, rfl⟩
      · next hselected => rw [if_neg hselected] at h; exact ⟨h, rfl⟩
    · exact ⟨rfl, rfl, by rintro ⟨⟩⟩
  case commInfo info =>
    split
    · next hstep => exact ⟨.commInfo info hstep, rfl⟩
    · exact ⟨rfl, rfl, by rintro ⟨⟩⟩
  case setupCompleted =>
    split
    · next hstep => exact ⟨.setupCompleted hstep, rfl⟩
    · exact ⟨rfl, rfl, by rintro ⟨⟩⟩
  case operatorTakeTransactionInfo txid =>
    split
    · next hstep => exact ⟨.transactionInfo txid hstep, rfl⟩
    · exact ⟨rfl, rfl, by rintro ⟨⟩⟩
  case advanceFundsSPV spv =>
    split
    · next hlate => exact ⟨.late _ hlate, rfl⟩
    split
    · next hstep => exact ⟨.advanceFundsSpv spv hstep, rfl⟩
    · exact ⟨rfl, rfl, by rintro ⟨⟩⟩
  case advanceFundsConfirmed message =>
    split
    · next hvalid => exact ⟨.confirmed message hvalid, rfl⟩
    · exact ⟨rfl, rfl, by rintro ⟨⟩⟩
  case reimbursementKickoffSPV proof =>
    split
    · next hlate => exact ⟨.late _ hlate, rfl⟩
    split
    · next hvalid => exact ⟨.kickoffSpv proof hvalid, rfl⟩
    · exact ⟨rfl, rfl, by rintro ⟨⟩⟩
  case reimbursementKickoffConfirmed =>
    split
    · next hvalid => exact ⟨.kickoffConfirmed hvalid, rfl⟩
    · exact ⟨rfl, rfl, by rintro ⟨⟩⟩
  case operatorTakeSPV proof =>
    split
    · next hlate => exact ⟨.late _ hlate, rfl⟩
    split
    · next hvalid => exact ⟨.takeSpv proof hvalid, rfl⟩
    · exact ⟨rfl, rfl, by rintro ⟨⟩⟩
  case pegoutRegistered event =>
    split
    · next hvalid => exact ⟨.registered event hvalid, rfl⟩
    · exact ⟨rfl, rfl, by rintro ⟨⟩⟩
  case retry =>
    split
    · next hstep => exact ⟨.retry hstep, rfl⟩
    · next hstep => exact ⟨.stale (by simpa using hstep), rfl⟩

/-! ## Completing a step -/

/-- Everything that completing a step can do; `ok` says whether it succeeded. -/
inductive Completes (config : Config) (env : Env) (data : StepData) (w w' : World Flow) :
    Bool → Prop
  | rejected (hsame : w' = w) (hdata : data ≠ .retry) : Completes config env data w w' false
  | ignored (hsame : w' = w) (hhandled : Handled config w.own.state data w.own.state none) :
      Completes config env data w w' true
  | started {state : FlowContext} {next : Steps} {ok : Bool}
      (hhandled : Handled config w.own.state data state (some next))
      (hstarts : Starts config env next ⟨{ w.own with state := state }, w.log⟩ w' ok) :
      Completes config env data w w' ok

theorem Handled.none_same {config : Config} {s s' : FlowContext} {data : StepData}
    (h : Handled config s data s' none) : s' = s := by
  cases h with
  | late => rfl
  | stale => rfl

theorem Handled.next_ne {config : Config} {s s' : FlowContext} {data : StepData} {next : Steps}
    (h : Handled config s data s' (some next)) : next ≠ .waitRskOperatorTakeTriggered := by
  cases h with
  | triggered => split <;> exact nofun
  | retry hstep =>
    intro hwait
    rw [hwait] at hstep
    cases hstep
  | _ => exact nofun

/-- The data take the flow to a step where it registers. -/
def Parks (data : StepData) : Prop :=
  ∃ state next, Handled config s data state (some next) ∧ registersAt config state next = true

/-- **Completing a step.** -/
theorem completeStep_completes (env : Env) (data : StepData) (w : World Flow) :
    wp (completeStep config env data)
      (fun outcome w' => Completes config env data w w' true
        ∧ (outcome = .noOp ∧ w' = w ∨ w'.own.state.pendingRetry = outcome.isRetry)
        ∧ (outcome.isRetry = true → Parks config w.own.state data))
      (fun e w' => Completes config env data w w' false ∧ e.isError = true) w := by
  simp only [completeStep, getState, wp_bind, wp_get, wp_pure]
  apply wp_mono (handleStepData_handles config data w)
  · rintro next ⟨⟨state, saved⟩, log⟩ ⟨hhandled, hw⟩
    cases hw
    cases next with
    | none =>
      have hsame : state = w.own.state := hhandled.none_same
      subst hsame
      exact ⟨.ignored rfl hhandled, .inl ⟨rfl, rfl⟩, fun h => by cases h⟩
    | some next =>
      apply wp_mono (startStep_starts hhandled.next_ne)
      · rintro outcome w' ⟨hstarts, hretry⟩
        refine ⟨.started hhandled hstarts, .inr hretry, fun hparks => ?_⟩
        cases hstarts with
        | entered h _ => exact ⟨state, next, hhandled, h.retry (hretry.trans hparks)⟩
      · rintro e w' ⟨hstarts, herror⟩
        exact ⟨.started hhandled hstarts, herror⟩
  · rintro e w' ⟨hsame, herror, hdata⟩
    exact ⟨.rejected hsame hdata, herror⟩

end UnionBridge.AdvanceFunds
