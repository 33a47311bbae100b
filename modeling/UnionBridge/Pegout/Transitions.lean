import UnionBridge.Pegout.Flow

/-!
# What a step of a pegout flow can do

`completeStep` stores the data of the current step and then starts the next one. This module says
once what each of the two can do, with every answer of the outside. Starting a step assigns it before
its entry action runs, so that an error can leave the flow in the new step; a failed answer to the
trigger of the operator take is no error at all.
-/

namespace UnionBridge.Pegout

open Contracts Bitvmx Effect

/-! ## Payouts -/

def payouts (log : Contracts.Log) : List Call := (log.map (·.1)).filter paysOut

/-- The payout on entering a step. -/
def State.payoutsAt (s : State) : Steps → List Call
  | .dispatchUserTakeTransactionAllConvergeCheckpoint =>
    [.send (.dispatchTransactionName s.ctx.bitvmxProtocolId.value userTakeTx)]
  | .triggerOperatorTake => [.triggerOperatorTake s.pegoutTxid]
  | _ => []

theorem payouts_append (log log' : Contracts.Log) :
    payouts (log ++ log') = payouts log ++ payouts log' := by
  simp [payouts]

theorem payouts_of_quiet {log : Contracts.Log} (h : ∀ entry ∈ log, paysOut entry.1 = false) :
    payouts log = [] := by
  simp only [payouts, List.filter_eq_nil_iff, List.mem_map]
  rintro c ⟨entry, hentry, rfl⟩
  simp [h entry hentry]

/-- Calls were added to a log, and they pay exactly `paid`. -/
def AddsPayouts (paid : List Call) (log log' : Contracts.Log) : Prop :=
  ∃ new, log' = new ++ log ∧ payouts new = paid

theorem AddsPayouts.refl (log : Contracts.Log) : AddsPayouts [] log log := ⟨[], rfl, rfl⟩

theorem AddsPayouts.trans {paid paid' : List Call} {a b c : Contracts.Log}
    (h : AddsPayouts paid a b) (h' : AddsPayouts paid' b c) : AddsPayouts (paid' ++ paid) a c := by
  obtain ⟨new, rfl, rfl⟩ := h
  obtain ⟨new', rfl, rfl⟩ := h'
  exact ⟨new' ++ new, (List.append_assoc _ _ _).symm, payouts_append _ _⟩

theorem AddsPayouts.quiet {paid : List Call} {a b c : Contracts.Log} (h : AddsPayouts paid a b)
    (h' : AddsPayouts [] b c) : AddsPayouts paid a c := h.trans h'

theorem AddsPayouts.call {c : Call} (h : paysOut c = false) (answer : c.Answer)
    (log : Contracts.Log) : AddsPayouts [] log (⟨c, answer⟩ :: log) :=
  ⟨[⟨c, answer⟩], rfl, by simp [payouts, h]⟩

theorem AddsPayouts.of_adds {allowed : Call → Prop} (h : ∀ c, allowed c → paysOut c = false)
    {log log' : Contracts.Log} (hadds : Adds allowed log log') : AddsPayouts [] log log' := by
  obtain ⟨new, rfl, hnew⟩ := hadds
  exact ⟨new, rfl, payouts_of_quiet fun entry hentry => h _ (hnew entry hentry)⟩

theorem AddsPayouts.suffix {paid : List Call} {log log' : Contracts.Log}
    (h : AddsPayouts paid log log') : log <:+ log' := by
  obtain ⟨new, rfl, -⟩ := h
  exact List.suffix_append _ _

/-! ## Entry actions -/

/-- The store refused to write the flow. -/
def SaveRefused (env : Env) (id : FlowId) : Prop :=
  ∃ log text, env.answer log (.saveFlow (.pegoutFlow id.value)) = .error text

/-- The steps whose entry action cannot fail: what it calls, if anything, is not waited for. -/
def State.entersSilently (s : State) : Steps → Bool
  | .waitUserTakeSignaturesReady | .triggerOperatorTake | .confirmUserTakeTransaction
  | .failed => true
  | .done => s.ctx.pegoutRegisteredTx.isNone
  | _ => false

/-- What an entry action leaves: the setup keeps the committee that it looked up. -/
structure Acted (next : Steps) (w w' : World Flow) : Prop where
  state : ∃ output, w'.own.state = { w.own.state with ctx := { w.own.state.ctx with
    committeeOutput := output } }
  kept : next ≠ .prepareUserTakeSetup → w'.own.state = w.own.state
  saved : w'.own.saved = w.own.saved
  log : AddsPayouts (w.own.state.payoutsAt next) w.log w'.log

section Entry

variable {config : Config} {env : Env} {complete : StepData → FlowM Unit} {next : Steps}
  {w : World Flow}

theorem acted_of_callStep {w' : World Flow} (hpayouts : w.own.state.payoutsAt next = [])
    (h : CallStep (fun c => paysOut c = false) w w') : Acted next w w' where
  state := ⟨w.own.state.ctx.committeeOutput, by rw [h.own]⟩
  kept _ := by rw [h.own]
  saved := by rw [h.own]
  log := by
    rw [hpayouts]
    exact .of_adds (fun _ hc => hc) h.log

theorem acts_of_onlyCalls {m : FlowM Unit} (hpayouts : w.own.state.payoutsAt next = [])
    (h : OnlyCalls (fun c => paysOut c = false) m) :
    wp m (fun _ => Acted next w) (fun _ => Acted next w) w :=
  wp_always (within_iff_wp.mp h w) fun _ hstep => acted_of_callStep hpayouts hstep

theorem onlyCalls_registerPegout (proof : BtcTxSPVProof) :
    OnlyCalls (fun c => paysOut c = false) (registerPegout config env proof) :=
  .bind (onlyCalls_invokeContractSafe (fun _ => rfl) _ _ (onlyCalls_perform rfl)) fun _ =>
    .bind (within_withContext (within_orDomain _)) fun _ => .pure ()

theorem acts_communicatePegoutRequested :
    wp (communicatePegoutRequestedToBitvmx config env) (fun _ => Acted .prepareUserTakeSetup w)
      (fun _ => Acted .prepareUserTakeSetup w) w := by
  have hpreorder : IsPreorder (World Flow) (Acted .prepareUserTakeSetup) := by
    refine { refl := fun w => acted_of_callStep rfl (refl_of _ w), trans := fun a b c hab hbc => ?_ }
    obtain ⟨output, hstate⟩ := hab.state
    obtain ⟨output', hstate'⟩ := hbc.state
    exact ⟨⟨output', by rw [hstate', hstate]⟩, fun h => absurd rfl h, hbc.saved.trans hab.saved,
      hab.log.quiet hbc.log⟩
  refine within_iff_wp.mp (within_communicatePegoutRequestedToBitvmx (fun hm w => ?_) fun output => ?_) w
  · exact acted_of_callStep rfl ((hm.mono fun _ hc => hc.2) w)
  · exact within_modify fun w => ⟨⟨some output, rfl⟩, fun h => absurd rfl h, rfl, .refl _⟩

/-- The trigger is called once; how it ends only decides whether the step is stored. -/
theorem acts_triggerOperatorTake :
    wp (triggerOperatorTake env) (fun _ => Acted .triggerOperatorTake w)
      (fun e w' => Acted .triggerOperatorTake w w' ∧ e.isError = true) w := by
  have hcalled : ∀ answer : Except DomainErrors TxSentOutput, Acted .triggerOperatorTake w
      ⟨w.own, ⟨.triggerOperatorTake w.own.state.pegoutTxid, answer⟩ :: w.log⟩ := fun answer =>
    ⟨⟨w.own.state.ctx.committeeOutput, rfl⟩, fun _ => rfl, rfl,
      ⟨[⟨.triggerOperatorTake w.own.state.pegoutTxid, answer⟩], rfl, rfl⟩⟩
  simp only [triggerOperatorTake, getState, wp_bind, wp_get, wp_pure, wp_perform]
  split
  · exact hcalled _
  · exact ⟨hcalled _, rfl⟩

/-- **The entry actions**, apart from the dispatch, which completes itself. -/
theorem entryAction_acts (hnext : next ≠ .waitPegoutRequested)
    (hdispatch : next ≠ .dispatchUserTakeTransactionAllConvergeCheckpoint) :
    wp (entryAction config env complete next)
      (fun stores w' => Acted next w w' ∧ (stores = false → next = .triggerOperatorTake))
      (fun _ w' => Acted next w w' ∧ w.own.state.entersSilently next = false) w := by
  have hquiet : ∀ {m : FlowM Unit}, w.own.state.entersSilently next = false →
      wp m (fun _ => Acted next w) (fun _ => Acted next w) w →
      wp m (fun _ w' => Acted next w w' ∧ (true = false → next = .triggerOperatorTake))
        (fun _ w' => Acted next w w' ∧ w.own.state.entersSilently next = false) w :=
    fun hsilent hm => wp_mono hm (fun _ _ h => ⟨h, fun hstores => nomatch hstores⟩)
      fun _ _ h => ⟨h, hsilent⟩
  have hidle : w.own.state.payoutsAt next = [] → Acted next w w := fun hpayouts =>
    acted_of_callStep hpayouts (refl_of _ w)
  cases next
  case waitPegoutRequested => exact absurd rfl hnext
  case dispatchUserTakeTransactionAllConvergeCheckpoint => exact absurd rfl hdispatch
  case getCommInfoAuthoritativeCheckpoint =>
    simp only [entryAction, wp_bind, wp_pure]
    exact hquiet rfl (acts_of_onlyCalls rfl (onlyCalls_requestBitvmxCommInfo.mono fun _ hc => hc.2))
  case prepareUserTakeSetup =>
    simp only [entryAction, wp_bind, wp_pure]
    exact hquiet rfl acts_communicatePegoutRequested
  case requestUserTakeSpvProof =>
    simp only [entryAction, wp_bind, wp_pure]
    exact hquiet rfl (acts_of_onlyCalls rfl (onlyCalls_requestSpvProof.mono fun _ hc => hc.2))
  case triggerOperatorTake =>
    simp only [entryAction, wp_bind, wp_attempt]
    apply wp_mono acts_triggerOperatorTake
    · exact fun _ w' h => ⟨h, fun _ => trivial⟩
    · rintro e w' ⟨h, herror⟩
      rw [if_pos herror]
      exact ⟨h, fun hstores => nomatch hstores⟩
  case registerPegout =>
    simp only [entryAction, getState, wp_bind, wp_get, wp_pure, wp_okOr]
    refine ⟨fun proof _ => ?_, fun _ => ⟨hidle rfl, rfl⟩⟩
    exact hquiet rfl (acts_of_onlyCalls rfl (onlyCalls_registerPegout proof))
  case done =>
    simp only [entryAction, getState, wp_bind, wp_get, wp_pure]
    cases hregistered : w.own.state.ctx.pegoutRegisteredTx with
    | none => exact ⟨hidle rfl, fun hstores => nomatch hstores⟩
    | some tx =>
      have hsilent : w.own.state.entersSilently .done = false := by
        simp [State.entersSilently, hregistered]
      exact hquiet hsilent
        (acts_of_onlyCalls rfl ((onlyCalls_completionMarkerIf true).mono fun _ hc => hc.2))
  all_goals exact ⟨hidle rfl, fun hstores => nomatch hstores⟩

end Entry

/-! ## Starting a step -/

/-- The dispatch goes on to the step after it. -/
def Reaches (next reached : Steps) : Prop :=
  reached = next ∨ next = .dispatchUserTakeTransactionAllConvergeCheckpoint
    ∧ reached = .confirmUserTakeTransaction

/-- A flow that has entered a step. -/
structure Entered (next : Steps) (w w' : World Flow) : Prop where
  state : ∃ reached output, Reaches next reached ∧ w'.own.state = { w.own.state with
    step := reached, ctx := { w.own.state.ctx with committeeOutput := output } }
  saved : w'.own.saved = w.own.saved ∨ w'.own.saved = some w'.own.state
  log : AddsPayouts (w.own.state.payoutsAt next) w.log w'.log

/-- The steps whose start writes the store more than once. -/
def Steps.storesTwice : Steps → Bool
  | dispatchUserTakeTransactionAllConvergeCheckpoint => true
  | registerPegout => true
  | _ => false

/-- Everything that starting a step can do. Only after a successful trigger is the flow not stored
and yet no error returned. -/
inductive Starts (env : Env) (next : Steps) (w w' : World Flow) : Bool → Prop
  | stored (h : Entered next w w') (hsaved : w'.own.saved = some w'.own.state) :
      Starts env next w w' true
  | triggered (h : Entered next w w') (hnext : next = .triggerOperatorTake) :
      Starts env next w w' true
  | failed (h : Entered next w w') (hsaved : next.storesTwice = false → w'.own.saved = w.own.saved)
      (hrefused : w.own.state.entersSilently next = true → SaveRefused env w.own.state.flowId) :
      Starts env next w w' false

theorem Starts.entered {env : Env} {next : Steps} {w w' : World Flow} {ok : Bool}
    (h : Starts env next w w' ok) : Entered next w w' := by
  cases h with
  | stored h _ => exact h
  | triggered h _ => exact h
  | failed h _ _ => exact h

section Start

variable {config : Config} {env : Env} {complete : StepData → FlowM Unit} {next : Steps}
  {w : World Flow}

theorem wp_persistState {Q : Unit → World Flow → Prop} {E : FlowError → World Flow → Prop} :
    wp (persistState env) Q E w ↔
      (∀ answer, env.answer w.log (.saveFlow (.pegoutFlow w.own.state.flowId.value)) = .ok answer →
        Q () ⟨{ w.own with saved := some w.own.state },
          ⟨.saveFlow (.pegoutFlow w.own.state.flowId.value), .ok answer⟩ :: w.log⟩)
      ∧ ∀ text, env.answer w.log (.saveFlow (.pegoutFlow w.own.state.flowId.value)) = .error text →
        E (.msg text) ⟨w.own,
          ⟨.saveFlow (.pegoutFlow w.own.state.flowId.value), .error text⟩ :: w.log⟩ := by
  simp only [persistState, getState, wp_bind, wp_get, wp_pure, wp_perform, wp_orText, wp_modify, id]
  refine and_congr (forall_congr' fun answer => ?_) (forall_congr' fun text => ?_)
  · exact imp_congr_right fun h => by rw [h]
  · exact imp_congr_right fun h => by rw [h]

theorem wp_persistIf {c : Prop} [Decidable c] {Q : Unit → World Flow → Prop}
    {E : FlowError → World Flow → Prop} :
    wp (persistIf c env) Q E w ↔ if c then wp (persistState env) Q E w else Q () w := by
  rw [persistIf, wp_ite, wp_pure]

theorem AddsPayouts.saved {paid : List Call} {log log' : Contracts.Log}
    (h : AddsPayouts paid log log') (id : Uuid) (answer : Except String Unit) :
    AddsPayouts paid log (⟨.saveFlow (.pegoutFlow id), answer⟩ :: log') :=
  h.quiet (.call rfl _ _)

theorem starts_persist {w' : World Flow} (h : Entered next w w')
    (hsaved : next.storesTwice = false → w'.own.saved = w.own.saved) :
    wp (persistState env) (fun _ w'' => Starts env next w w'' true)
      (fun _ w'' => Starts env next w w'' false) w' := by
  obtain ⟨reached, output, hreaches, hstate⟩ := h.state
  have hid : w'.own.state.flowId = w.own.state.flowId := by rw [hstate]
  rw [wp_persistState]
  refine ⟨fun answer _ => .stored ⟨h.state, .inr rfl, h.log.saved _ _⟩ rfl, fun text hrefused => ?_⟩
  refine .failed ⟨h.state, h.saved, h.log.saved _ _⟩ hsaved fun _ => ?_
  rw [hid] at hrefused
  exact ⟨w'.log, text, hrefused⟩

theorem startStepWith_starts (hnext : next ≠ .waitPegoutRequested)
    (hdispatch : next ≠ .dispatchUserTakeTransactionAllConvergeCheckpoint) :
    wp (startStepWith config env complete next) (fun _ w' => Starts env next w w' true)
      (fun _ w' => Starts env next w w' false) w := by
  -- the flow in its new step, before the entry action
  let s : State := { w.own.state with step := next }
  have hpayouts : s.payoutsAt next = w.own.state.payoutsAt next := by
    cases next <;> rfl
  have hsilent : s.entersSilently next = w.own.state.entersSilently next := by
    cases next <;> rfl
  have hentry : ∀ {saved : Option State} {log : Contracts.Log},
      (saved = w.own.saved ∨ next = .registerPegout ∧ saved = some s) → AddsPayouts [] w.log log →
      wp (do let stores ← entryAction config env complete next; persistIf (stores = true) env)
        (fun _ w' => Starts env next w w' true) (fun _ w' => Starts env next w w' false)
        ⟨⟨s, saved⟩, log⟩ := by
    intro saved log hsaved hlog
    have hentered : ∀ {w' : World Flow}, Acted next ⟨⟨s, saved⟩, log⟩ w' → Entered next w w' := by
      intro w' hacted
      obtain ⟨output, hstate⟩ := hacted.state
      refine ⟨⟨next, output, .inl rfl, hstate⟩, ?_, ?_⟩
      · rcases hsaved with rfl | ⟨rfl, rfl⟩
        · exact .inl hacted.saved
        · refine .inr ?_
          rw [hacted.saved, hacted.kept (fun h => nomatch h)]
      · have hpaid := hlog.trans hacted.log
        rwa [List.append_nil, show State.payoutsAt s next = _ from hpayouts] at hpaid
    have hunsaved : ∀ {w' : World Flow}, Acted next ⟨⟨s, saved⟩, log⟩ w' →
        next.storesTwice = false → w'.own.saved = w.own.saved := by
      intro w' hacted honce
      rcases hsaved with rfl | ⟨rfl, -⟩
      · exact hacted.saved
      · cases honce
    rw [wp_bind]
    apply wp_mono (entryAction_acts hnext hdispatch)
    · rintro stores w' ⟨hacted, hstores⟩
      rw [wp_persistIf]
      split
      · exact starts_persist (hentered hacted) (hunsaved hacted)
      · next hfalse => exact .triggered (hentered hacted) (hstores (by simpa using hfalse))
    · rintro _ w' ⟨hacted, hloud⟩
      refine .failed (hentered hacted) (hunsaved hacted) fun htrue => ?_
      rw [← hsilent] at htrue
      exact absurd (htrue.symm.trans hloud) (fun h => nomatch h)
  rw [startStepWith, modifyState, wp_bind, wp_modify, wp_bind, wp_persistIf]
  split
  · next hregister =>
    -- the registration is stored before it is attempted
    have hs : Entered next w ⟨⟨s, w.own.saved⟩, w.log⟩ :=
      ⟨⟨next, w.own.state.ctx.committeeOutput, .inl rfl, rfl⟩, .inl rfl, by
        rw [hregister]
        exact .refl _⟩
    rw [wp_persistState]
    refine ⟨fun answer _ => ?_, fun text hrefused => ?_⟩
    · exact hentry (.inr ⟨hregister, rfl⟩)
        ((AddsPayouts.refl w.log).saved w.own.state.flowId.value (.ok answer))
    · refine .failed ⟨hs.state, hs.saved, hs.log.saved _ _⟩ (fun _ => rfl) fun _ => ?_
      exact ⟨w.log, text, hrefused⟩
  · exact hentry (.inl rfl) (.refl w.log)

/-- The dispatch sends its message, and on success the flow is already in the step after it. -/
theorem startStep_dispatch :
    wp (startStep config env .dispatchUserTakeTransactionAllConvergeCheckpoint)
      (fun _ w' => Starts env .dispatchUserTakeTransactionAllConvergeCheckpoint w w' true)
      (fun _ w' => Starts env .dispatchUserTakeTransactionAllConvergeCheckpoint w w' false) w := by
  let message : Call :=
    .send (.dispatchTransactionName w.own.state.ctx.bitvmxProtocolId.value userTakeTx)
  have hsent : ∀ answer : Except String Unit,
      AddsPayouts [message] w.log (⟨message, answer⟩ :: w.log) := fun answer =>
    ⟨[⟨message, answer⟩], rfl, by simp [payouts, paysOut, message]⟩
  have hentered : ∀ (answer : Except String Unit) {w' : World Flow},
      Entered .confirmUserTakeTransaction ⟨{ w.own with state := { w.own.state with
        step := .dispatchUserTakeTransactionAllConvergeCheckpoint } }, ⟨message, answer⟩ :: w.log⟩ w' →
      Entered .dispatchUserTakeTransactionAllConvergeCheckpoint w w' := by
    intro answer w' h
    obtain ⟨reached, output, hreaches, hstate⟩ := h.state
    have hreached : reached = .confirmUserTakeTransaction := by
      rcases hreaches with h | ⟨h, -⟩
      · exact h
      · cases h
    subst hreached
    exact ⟨⟨_, output, .inr ⟨rfl, rfl⟩, hstate⟩, h.saved, (hsent answer).quiet h.log⟩
  have hconfirm : ∀ {w₁ : World Flow},
      w₁.own.state.step = .dispatchUserTakeTransactionAllConvergeCheckpoint →
      wp (completeStepInner config env .userTakeTransactionDispatched)
        (fun _ w' => Starts env .confirmUserTakeTransaction w₁ w' true)
        (fun _ w' => Starts env .confirmUserTakeTransaction w₁ w' false) w₁ := by
    intro w₁ hstep
    simp only [completeStepInner, completeStepWith, getState, wp_bind, wp_get, wp_pure, hstep,
      processStepData]
    exact startStepWith_starts (fun h => by cases h) (fun h => by cases h)
  rw [startStep, startStepWith, modifyState, wp_bind, wp_modify, wp_bind, wp_persistIf,
    if_neg (fun h => by cases h), wp_bind]
  simp only [entryAction, dispatchTransaction, getState, sendBitvmxMsg, wp_bind, wp_get, wp_pure,
    wp_perform, wp_orText, id]
  refine ⟨fun answer hanswer => ?_, fun text hrefused => ?_⟩
  · apply wp_mono (hconfirm rfl)
    · intro _ w' h
      rw [wp_persistIf, if_pos rfl]
      exact starts_persist (hentered _ h.entered) fun honce => by cases honce
    · intro _ w' h
      exact .failed (hentered _ h.entered) (fun honce => by cases honce) fun hsilent => by cases hsilent
  · exact .failed ⟨⟨_, w.own.state.ctx.committeeOutput, .inl rfl, rfl⟩, .inl rfl, hsent _⟩
      (fun _ => rfl) fun hsilent => by cases hsilent

/-- **Starting a step.** -/
theorem startStep_starts (hnext : next ≠ .waitPegoutRequested) :
    wp (startStep config env next) (fun _ w' => Starts env next w w' true)
      (fun _ w' => Starts env next w w' false) w := by
  by_cases hdispatch : next = .dispatchUserTakeTransactionAllConvergeCheckpoint
  · subst hdispatch
    exact startStep_dispatch
  · exact startStepWith_starts hnext hdispatch

end Start

/-! ## Taking the data -/

def Steps.next : Steps → StepData → Option Steps
  | .waitPegoutRequested, .pegoutRequested => some .getCommInfoAuthoritativeCheckpoint
  | .getCommInfoAuthoritativeCheckpoint, .commInfo _ => some .prepareUserTakeSetup
  | .prepareUserTakeSetup, .pegoutAccepted _ => some .waitUserTakeSignaturesReady
  | .waitUserTakeSignaturesReady, .userTakeSignaturesReady =>
    some .dispatchUserTakeTransactionAllConvergeCheckpoint
  | .dispatchUserTakeTransactionAllConvergeCheckpoint, .userTakeTransactionDispatched =>
    some .confirmUserTakeTransaction
  | .waitUserTakeSignaturesReady, .triggerOperatorTakeTimeout => some .triggerOperatorTake
  | .triggerOperatorTake, .triggerOperatorTakeTimeout => some .done
  | .confirmUserTakeTransaction, .transactionConfirmed _ => some .requestUserTakeSpvProof
  | .requestUserTakeSpvProof, .spvProof _ => some .registerPegout
  | .registerPegout, .retryRegisterPegout => some .registerPegout
  | step, .pegoutRegistered _ =>
    if step.allowsFastForwardToPegoutRegistered then some .done else none
  | _, _ => none

/-- What the state keeps of the data. -/
def State.take (s : State) : StepData → State
  | .commInfo info => { s with ctx := { s.ctx with myP2pAddress := some info } }
  | .pegoutAccepted accepted => { s with ctx := { s.ctx with pegOutAccepted := some accepted } }
  | .transactionConfirmed status => { s with ctx := { s.ctx with transactionStatus := some status } }
  | .spvProof proof => { s with ctx := { s.ctx with spvProof := some proof } }
  | .pegoutRegistered event => { s with ctx := { s.ctx with
      pegoutRegistered := some event.inner, pegoutRegisteredTx := some event.txHash } }
  | _ => s

/-- Data about the user-take transaction name the one that was agreed on. -/
def State.Names (s : State) : StepData → Prop
  | .transactionConfirmed status => s.userTakeTxid = some status.txId
  | .pegoutRegistered event => s.userTakeTxid = some (TxIdParser.fb32ToTxid event.inner.txid)
  | _ => True

def CompletionRefused (env : Env) (s : State) (event : PegoutRegistered) : Prop :=
  ∃ log text, env.answer log (.send (.setVar s.ctx.bitvmxProtocolId.value pegoutCompletedVarName
    (.pegoutRegistered event))) = .error text

inductive Completes (env : Env) (data : StepData) (w w' : World Flow) : Bool → Prop
  | rejected (h : w' = w)
      (hcause : w.own.state.step.next data = none ∨ ¬ w.own.state.Names data) :
      Completes env data w w' false
  | unannounced (event : EventWithBlock PegoutRegistered) (hdata : data = .pegoutRegistered event)
      (hwindow : w.own.state.step.allowsFastForwardToPegoutRegistered = true)
      (hown : w'.own = { w.own with state := w.own.state.take data })
      (hlog : AddsPayouts [] w.log w'.log)
      (hrefused : CompletionRefused env w.own.state event.inner) : Completes env data w w' false
  | started {ok : Bool} (next : Steps) (hnext : w.own.state.step.next data = some next)
      (hnames : w.own.state.Names data) (w₁ : World Flow)
      (hown : w₁.own = { w.own with state := w.own.state.take data })
      (hlog : AddsPayouts [] w.log w₁.log) (h : Starts env next w₁ w' ok) :
      Completes env data w w' ok

/-! ### Where the steps lead -/

theorem Steps.window_of_next {step next : Steps} {data : StepData} (h : step.next data = some next)
    (hwindow : step.allowsFastForwardToPegoutRegistered = true) :
    next.allowsFastForwardToPegoutRegistered = true ∨ next = .done := by
  cases data <;> cases step <;> cases h <;> first | exact .inl rfl | exact .inr rfl | cases hwindow

theorem Steps.next_of_terminal {s : State} (h : s.isTerminal = true) (data : StepData) :
    s.step.next data = none := by
  rcases of_decide_eq_true h with h | h
  all_goals
    rw [h]
    cases data <;> rfl

theorem Steps.next_eq_wait {step : Steps} {data : StepData}
    (h : step.next data = some .waitUserTakeSignaturesReady) :
    ∃ accepted, data = .pegoutAccepted accepted := by
  cases data
  case pegoutAccepted accepted => exact ⟨accepted, rfl⟩
  all_goals cases step <;> cases h

theorem Reaches.eq_wait {next reached : Steps} (h : Reaches next reached)
    (hwait : reached = .waitUserTakeSignaturesReady) : next = .waitUserTakeSignaturesReady := by
  rcases h with rfl | ⟨-, rfl⟩
  · exact hwait
  · cases hwait

section Complete

variable {config : Config} {env : Env} {data : StepData} {w : World Flow}

theorem Steps.next_ne_init {step next : Steps} (h : step.next data = some next) :
    next ≠ .waitPegoutRequested := by
  rintro rfl
  cases data <;> cases step <;> cases h

theorem processStepData_of_next {step : Steps} (h : step.next data = none) :
    processStepData env step data = throw (.msg "Invalid state transition") := by
  cases data <;> cases step <;> first | rfl | cases h

theorem wp_expected {txid : Txid} {message : String} {e : FlowError} {Q : Unit → World Flow → Prop}
    {E : FlowError → World Flow → Prop} (hok : w.own.state.userTakeTxid = some txid → Q () w)
    (herror : w.own.state.userTakeTxid ≠ some txid → ∀ e, E e w) :
    wp (getUserTakeTxid message) (fun expected w => wp (ensure (txid = expected) e) Q E w) E w := by
  simp only [getUserTakeTxid, getState, wp_bind, wp_get, wp_pure, wp_okOr, wp_ensure]
  refine ⟨fun expected hexpected => ?_, fun hnone => herror (by rw [hnone]; rintro ⟨⟩) _⟩
  split
  · next heq => exact hok (by rw [hexpected, heq])
  · next hne => exact herror (fun h => hne (Option.some.inj (h.symm.trans hexpected))) _

theorem processStepData_takes :
    wp (processStepData env w.own.state.step data)
      (fun next w' => w.own.state.step.next data = some next ∧ w.own.state.Names data
        ∧ w'.own = { w.own with state := w.own.state.take data } ∧ AddsPayouts [] w.log w'.log)
      (fun _ w' => Completes env data w w' false) w := by
  cases hnext : w.own.state.step.next data with
  | none =>
    rw [processStepData_of_next hnext, wp_throw]
    exact .rejected rfl (.inl hnext)
  | some next =>
    generalize hstep : w.own.state.step = step at hnext
    cases data
    case transactionConfirmed status =>
      cases step <;> cases hnext
      simp only [processStepData, confirmUserTakeTransaction, wp_bind]
      apply wp_expected
      · exact fun htxid => ⟨rfl, htxid, rfl, .refl _⟩
      · exact fun hne _ => .rejected rfl (.inr hne)
    case pegoutRegistered event =>
      have hwindow : step.allowsFastForwardToPegoutRegistered = true := by
        cases step <;> first | rfl | cases hnext
      have hdone : next = .done := by
        cases step <;> cases hnext <;> rfl
      have hprocess : processStepData env step (.pegoutRegistered event)
          = completeWithConfirmedPegoutRegistration env event := by
        cases step <;> first | rfl | cases hwindow
      rw [hprocess, completeWithConfirmedPegoutRegistration, wp_bind]
      simp only [wp_bind]
      apply wp_expected
      · intro htxid
        simp only [modifyState, sendPegoutCompletedToBitvmx, getState, sendBitvmxMsg, wp_bind,
          wp_modify, wp_get, wp_pure, wp_perform, wp_orText, id]
        refine ⟨fun answer _ => ⟨by rw [hdone], htxid, rfl, .call rfl _ _⟩, fun text hrefused => ?_⟩
        exact .unannounced event rfl (hstep ▸ hwindow) rfl (.call rfl _ _) ⟨w.log, text, hrefused⟩
      · exact fun hne _ => .rejected rfl (.inr hne)
    all_goals
      cases step <;> cases hnext
      all_goals exact ⟨rfl, trivial, rfl, .refl _⟩

/-- **Completing a step.** -/
theorem completeStep_completes :
    wp (completeStep config env data) (fun _ w' => Completes env data w w' true)
      (fun _ w' => Completes env data w w' false) w := by
  simp only [completeStep, completeStepWith, getState, wp_bind, wp_get, wp_pure]
  apply wp_mono processStepData_takes
  · rintro next w₁ ⟨hnext, hnames, hown, hlog⟩
    exact wp_mono (startStep_starts (Steps.next_ne_init hnext))
      (fun _ _ h => .started next hnext hnames w₁ hown hlog h)
      fun _ _ h => .started next hnext hnames w₁ hown hlog h
  · exact fun _ _ h => h

end Complete

/-! ## What any program of a flow leaves -/

structure Kept (s s' : State) : Prop where
  flowId : s'.flowId = s.flowId
  request : s'.ctx.pegoutRequested = s.ctx.pegoutRequested
  protocolId : s'.ctx.bitvmxProtocolId = s.ctx.bitvmxProtocolId

theorem Kept.pegoutTxid {s s' : State} (h : Kept s s') : s'.pegoutTxid = s.pegoutTxid := by
  rw [State.pegoutTxid, h.request, State.pegoutTxid]

/-- A flow has stayed in its step, or moved on to `next` and paid what is due on entering it. -/
structure Turned (next : Option Steps) (w w' : World Flow) : Prop where
  kept : Kept w.own.state w'.own.state
  saved : w'.own.saved = w.own.saved ∨ w'.own.saved = some w'.own.state
  stays : next = none → w'.own.state.step = w.own.state.step
  moves : ∀ n, next = some n → Reaches n w'.own.state.step
  txid : next ≠ some .waitUserTakeSignaturesReady →
    w'.own.state.userTakeTxid = w.own.state.userTakeTxid
  registered : w'.own.state.ctx.pegoutRegisteredTx = w.own.state.ctx.pegoutRegisteredTx
    ∨ w.own.state.step.allowsFastForwardToPegoutRegistered = true
  log : AddsPayouts ((next.map w.own.state.payoutsAt).getD []) w.log w'.log

section Turned

variable {config : Config} {env : Env} {data : StepData} {next : Steps} {w w' : World Flow}
  {ok : Bool}

theorem Entered.userTakeTxid (h : Entered next w w') :
    w'.own.state.userTakeTxid = w.own.state.userTakeTxid := by
  obtain ⟨reached, output, -, hstate⟩ := h.state
  rw [hstate]
  rfl

theorem Entered.turned (h : Entered next w w') : Turned (some next) w w' := by
  obtain ⟨reached, output, hreaches, hstate⟩ := h.state
  refine ⟨?_, h.saved, (fun hnone => nomatch hnone), ?_, fun _ => h.userTakeTxid, .inl ?_, h.log⟩
  · rw [hstate]
    exact ⟨rfl, rfl, rfl⟩
  · rintro n hn
    cases hn
    rw [hstate]
    exact hreaches
  · rw [hstate]

theorem kept_take (s : State) (data : StepData) : Kept s (s.take data) := by
  cases data <;> exact ⟨rfl, rfl, rfl⟩

theorem payoutsAt_take (s : State) (data : StepData) : (s.take data).payoutsAt = s.payoutsAt := by
  funext next
  cases data <;> cases next <;> rfl

theorem step_take (s : State) (data : StepData) : (s.take data).step = s.step := by
  cases data <;> rfl

/-- Only the message of `BitVMX` names a user-take transaction. -/
theorem userTakeTxid_take (s : State) (hdata : ∀ accepted, data ≠ .pegoutAccepted accepted) :
    (s.take data).userTakeTxid = s.userTakeTxid := by
  cases data
  case pegoutAccepted accepted => exact absurd rfl (hdata accepted)
  all_goals rfl

/-- Only the event of a registration names its transaction, and it is taken in the window. -/
theorem registeredTx_take {s : State} (h : s.step.next data = some next) :
    (s.take data).ctx.pegoutRegisteredTx = s.ctx.pegoutRegisteredTx
      ∨ s.step.allowsFastForwardToPegoutRegistered = true := by
  cases data
  case pegoutRegistered event =>
    generalize s.step = step at h
    cases step <;> first | exact .inr rfl | cases h
  all_goals exact .inl rfl

/-- **A step was completed, or it was not.** -/
theorem Completes.turned (h : Completes env data w w' ok) :
    ∃ next, Turned next w w' ∧ (∀ n, next = some n → w.own.state.step.next data = some n
      ∧ w.own.state.Names data) := by
  cases h with
  | rejected h _ =>
    subst h
    exact ⟨none, ⟨⟨rfl, rfl, rfl⟩, .inl rfl, (fun _ => rfl), nofun, (fun _ => rfl), .inl rfl,
      .refl _⟩, nofun⟩
  | unannounced event hdata hwindow hown hlog _ =>
    refine ⟨none, ⟨?_, .inl (by rw [hown]), fun _ => ?_, nofun, fun _ => ?_, .inr hwindow, hlog⟩,
      nofun⟩
    · rw [hown]
      exact kept_take _ _
    · rw [hown]
      exact step_take _ _
    · rw [hown]
      exact userTakeTxid_take _ fun accepted haccepted => nomatch hdata.symm.trans haccepted
  | started next hnext hnames w₁ hown hlog h =>
    have ht := h.entered.turned
    have hkept : Kept w.own.state w₁.own.state := by
      rw [hown]
      exact kept_take _ _
    refine ⟨some next, ⟨?_, ?_, nofun, ht.moves, fun hne => ?_, ?_, ?_⟩, ?_⟩
    · exact ⟨ht.kept.flowId.trans hkept.flowId, ht.kept.request.trans hkept.request,
        ht.kept.protocolId.trans hkept.protocolId⟩
    · have hsaved : w₁.own.saved = w.own.saved := by rw [hown]
      rw [← hsaved]
      exact ht.saved
    · rw [ht.txid hne, hown]
      refine userTakeTxid_take _ fun accepted haccepted => hne ?_
      subst haccepted
      generalize w.own.state.step = step at hnext
      cases step <;> cases hnext
      rfl
    · have hsame : w'.own.state.ctx.pegoutRegisteredTx
          = (w.own.state.take data).ctx.pegoutRegisteredTx := by
        obtain ⟨_, _, -, hstate⟩ := h.entered.state
        rw [hstate, hown]
      rw [hsame]
      exact registeredTx_take hnext
    · have hpaid := hlog.trans ht.log
      rw [hown] at hpaid
      simpa [payoutsAt_take] using hpaid
    · rintro n hn
      cases hn
      exact ⟨hnext, hnames⟩

theorem turned_of_callStep (h : CallStep Quiet w w') : Turned none w w' where
  kept := by
    rw [h.own]
    exact ⟨rfl, rfl, rfl⟩
  saved := .inl (by rw [h.own])
  stays _ := by rw [h.own]
  moves := nofun
  txid _ := by rw [h.own]
  registered := .inl (by rw [h.own])
  log := .of_adds (fun _ hc => hc.2) h.log

end Turned

end UnionBridge.Pegout
