import UnionBridge.Pegin.Flow

/-!
# What a call can do to a pegin flow

`Stored` lists everything that the data of a step can do to a flow, `Entered` says what entering the
next step does, and `Completed` puts them together: whatever the data and however the call ends,
`completeStep` does one of these things. The invariants of the processor are derived from this,
without looking into the flow again.
-/

namespace UnionBridge.Pegin

open Contracts Bitvmx Effect

/-! ## The order of the steps -/

def Steps.pos : Steps → Nat
  | peginTransactionFound => 0
  | requestPeginSpvProof => 1
  | waitPeginRequested => 2
  | getCommInfoAuthoritativeCheckpoint => 3
  | preparePeginSetup => 4
  | requestOperatorTakeTransactionInfo => 5
  | requestOperatorWonTransactionInfo => 6
  | addOperatorTakeHash => 7
  | waitAllOperatorTakeTxidsAdded => 8
  | waitAcceptPeginSignaturesReadyAllConvergeCheckpoint => 9
  | dispatchAcceptPeginTransactionAllConvergeCheckpoint => 10
  | confirmAcceptPeginTransaction => 11
  | requestAcceptPeginSpvProof => 12
  | acceptPegin => 13
  | done => 14
  | failed => 15

/-- A flow that has not failed has come at least as far as `step`. -/
def Steps.reached (step current : Steps) : Prop := step.pos ≤ current.pos ∧ current ≠ .failed

instance (step current : Steps) : Decidable (step.reached current) :=
  inferInstanceAs (Decidable (_ ∧ _))

/-- Forward in the declared order, with `Done` entered only from the four fast-forward steps. -/
def Steps.Forward (before after : Steps) : Prop :=
  before.pos ≤ after.pos
    ∧ (after = .done → before = .done ∨ before.allowsFastForwardToPeginAccepted = true)

theorem Steps.Forward.refl (step : Steps) : step.Forward step := ⟨Nat.le_refl _, Or.inl⟩

instance (before after : Steps) : Decidable (before.Forward after) :=
  inferInstanceAs (Decidable (_ ∧ _))

theorem Steps.fastForward_facts (step : Steps)
    (h : step.allowsFastForwardToPeginAccepted = true) :
    Steps.getCommInfoAuthoritativeCheckpoint.reached step ∧
      Steps.requestOperatorTakeTransactionInfo.reached step ∧ step.Forward .done ∧
      step ≠ .done := by
  revert h
  cases step <;> decide

def Steps.chain : Steps → List Steps
  | .addOperatorTakeHash => [.addOperatorTakeHash, .waitAllOperatorTakeTxidsAdded]
  | .dispatchAcceptPeginTransactionAllConvergeCheckpoint =>
    [.dispatchAcceptPeginTransactionAllConvergeCheckpoint, .confirmAcceptPeginTransaction]
  | step => [step]

/-! ## Changes of a flow -/

def Flow.update (f : Flow) (g : FlowContext → FlowContext) : Flow :=
  { f with state := { f.state with ctx := g f.state.ctx } }

/-- The same flow at another step. -/
def Flow.at (f : Flow) (step : Steps) : Flow := f.update fun ctx => { ctx with step := step }

/-! ## Entering a step -/

/-- A flow has entered `next`: the step is set, the committee may have been read, and the store
holds what it held or the new state. -/
structure Entered (next : Steps) (f f' : Flow) : Prop where
  flowId : f'.state.flowId = f.state.flowId
  step : f'.state.ctx.step ∈ next.chain
  ctx : ∃ output role, f'.state.ctx = { f.state.ctx with
      step := f'.state.ctx.step, committeeOutput := output, opRole := role }
  saved : f'.saved = f.saved ∨ f'.saved = some f'.state

section Entering

variable {config : Config} {env : Env} {w : World Flow} {next : Steps}

theorem Steps.mem_chain (step : Steps) : step ∈ step.chain := by
  cases step <;> decide

variable {E : FlowError → World Flow → Prop} {f : Flow}

theorem wp_modifyCtx {f : FlowContext → FlowContext} {Q : Unit → World Flow → Prop} :
    wp (modifyCtx f) Q E w ↔ Q () ⟨w.own.update f, w.log⟩ := Iff.rfl

theorem wp_getCtx {Q : FlowContext → World Flow → Prop} :
    wp getCtx Q E w ↔ Q w.own.state.ctx w := Iff.rfl

theorem wp_own_of_onlyCalls {α : Type} {allowed : Call → Prop} {m : FlowM α}
    (h : OnlyCalls allowed m) :
    wp m (fun _ w' => w'.own = w.own) (fun _ w' => w'.own = w.own) w :=
  wp_always (within_iff_wp.mp h w) fun _ hw => hw.own

theorem wp_persistState :
    wp (persistState env) (fun _ w' => w'.own = { w.own with saved := some w.own.state })
      (fun _ w' => w'.own = w.own) w := by
  simp only [persistState, wp_bind, wp_get, wp_perform, wp_orText, wp_modify, implies_true,
    and_self]

theorem wp_persistIf {c : Prop} [Decidable c] :
    wp (persistIf c env)
      (fun _ w' => w'.own = w.own ∨ w'.own = { w.own with saved := some w.own.state })
      (fun _ w' => w'.own = w.own) w := by
  unfold persistIf
  rw [wp_ite]
  split
  · exact wp_imp wp_persistState fun _ _ h => .inr h
  · exact .inl rfl

/-- The flow stands at the step, before its action. Only `acceptPegin` is stored first. -/
structure StandsAt (next : Steps) (f f' : Flow) : Prop where
  state : f'.state = (f.at next).state
  saved : f'.saved = f.saved ∨ next = .acceptPegin ∧ f'.saved = some f'.state

theorem StandsAt.entered {f f' : Flow} (h : StandsAt next f f') : Entered next f f' where
  flowId := by rw [h.state]; rfl
  step := by rw [h.state]; exact next.mem_chain
  ctx := ⟨f.state.ctx.committeeOutput, f.state.ctx.opRole, by rw [h.state]; rfl⟩
  saved := h.saved.imp_right And.right

theorem Entered.persisted {f f' f'' : Flow} (h : Entered next f f')
    (hsaved : f'' = f' ∨ f'' = { f' with saved := some f'.state }) : Entered next f f'' := by
  rcases hsaved with rfl | rfl
  · exact h
  · exact ⟨h.flowId, h.step, h.ctx, .inr rfl⟩

/-- What is known of a flow while it enters a step. -/
def Enters (next : Steps) (f : Flow) : World Flow → Prop := fun w => Entered next f w.own

/-- The step in which an action that succeeds ends. -/
def Steps.settled : Steps → Steps
  | .addOperatorTakeHash => .waitAllOperatorTakeTxidsAdded
  | .dispatchAcceptPeginTransactionAllConvergeCheckpoint => .confirmAcceptPeginTransaction
  | step => step

/-- What is known when the step was entered and its action succeeded. -/
def Settles (next : Steps) (f : Flow) : World Flow → Prop :=
  fun w => Entered next f w.own ∧ w.own.state.ctx.step = next.settled

theorem startStepWith_enters {complete : StepData → FlowM Unit}
    (hentry : ∀ w', StandsAt next w.own w'.own →
      wp (entryAction config env complete next) (fun _ => Settles next w.own)
        (fun _ => Enters next w.own) w') :
    wp (startStepWith config env complete next) (fun _ => Settles next w.own)
      (fun _ => Enters next w.own) w := by
  have hset : StandsAt next w.own (w.own.at next) := ⟨rfl, .inl rfl⟩
  have hfirst : wp (persistIf (next = .acceptPegin) env)
      (fun _ w' => StandsAt next w.own w'.own) (fun _ w' => StandsAt next w.own w'.own)
      ⟨w.own.at next, w.log⟩ := by
    unfold persistIf
    rw [wp_ite]
    split
    · next hnext =>
      apply wp_mono wp_persistState
      · intro _ w' hw'
        rw [hw']
        exact ⟨rfl, .inr ⟨hnext, rfl⟩⟩
      · intro _ w' hw'
        rw [hw']
        exact hset
    · exact hset
  simp only [startStepWith, wp_bind, wp_modifyCtx]
  apply wp_mono hfirst _ fun _ _ hw₁ => hw₁.entered
  intro _ w₁ hw₁
  apply wp_imp (hentry w₁ hw₁)
  intro _ w₂ hw₂
  rw [wp_getCtx]
  apply wp_mono wp_persistIf _ fun _ _ hw₃ => Entered.persisted hw₂.1 (.inl hw₃)
  intro _ w₃ hw₃
  refine ⟨hw₂.1.persisted hw₃, ?_⟩
  rcases hw₃ with h | h
  · rw [h]
    exact hw₂.2
  · rw [h]
    exact hw₂.2

theorem settles_of_onlyCalls {α : Type} {allowed : Call → Prop} {m : FlowM α}
    (hm : OnlyCalls allowed m) (hnext : next.settled = next) (h : StandsAt next f w.own) :
    wp m (fun _ => Settles next f) (fun _ => Enters next f) w := by
  apply wp_mono (wp_own_of_onlyCalls hm)
  · intro _ w' hw'
    rw [Settles, hw', hnext, h.state]
    exact ⟨h.entered, rfl⟩
  · intro _ w' hw'
    rw [Enters, hw']
    exact h.entered

def CommitteeRead (f f' : Flow) : Prop :=
  ∃ output role, f' = f.update fun ctx => { ctx with committeeOutput := output, opRole := role }

instance : IsPreorder (World Flow) fun w w' => CommitteeRead w.own w'.own where
  refl _ := ⟨_, _, rfl⟩
  trans w _ _ := by
    rintro ⟨_, _, h⟩ ⟨output, role, h'⟩
    exact ⟨output, role, by rw [h', h]; rfl⟩

theorem preparePeginSetup_reads :
    Within (fun w w' : World Flow => CommitteeRead w.own w'.own) (preparePeginSetup config env) := by
  refine within_preparePeginSetup (fun hm w => ?_) fun output role w => ⟨_, _, rfl⟩
  rw [(hm w).own]
  exact ⟨_, _, rfl⟩

theorem settles_preparePeginSetup (h : StandsAt .preparePeginSetup f w.own) :
    wp (preparePeginSetup config env) (fun _ => Settles .preparePeginSetup f)
      (fun _ => Enters .preparePeginSetup f) w := by
  have hread : ∀ f', CommitteeRead w.own f' → Entered .preparePeginSetup f f' := by
    rintro _ ⟨output, role, rfl⟩
    obtain ⟨⟨state, saved⟩, log⟩ := w
    obtain ⟨rfl, hsaved⟩ := h
    exact ⟨rfl, List.mem_singleton.mpr rfl, ⟨output, role, rfl⟩,
      .inl (hsaved.resolve_right fun hcontra => nomatch hcontra.1)⟩
  apply wp_mono (within_iff_wp.mp preparePeginSetup_reads w)
  · exact fun _ _ hw' => ⟨hread _ hw', List.mem_singleton.mp (hread _ hw').step⟩
  · exact fun _ _ hw' => hread _ hw'

/-- A step that its own action completed: the flow stood at the one and entered the other. -/
theorem StandsAt.chained {last : Steps} {f f' f'' : Flow} (h : StandsAt next f f')
    (h' : Entered last f' f'') (hnext : next ≠ .acceptPegin)
    (hchain : ∀ step ∈ last.chain, step ∈ next.chain) : Entered next f f'' where
  flowId := by rw [h'.flowId, h.state]; rfl
  step := hchain _ h'.step
  ctx := by
    obtain ⟨output, role, hctx⟩ := h'.ctx
    refine ⟨output, role, ?_⟩
    rw [h.state] at hctx
    exact hctx
  saved := by
    rw [← h.saved.resolve_right fun hcontra => hnext hcontra.1]
    exact h'.saved

theorem completeStepInner_settles {data : StepData} {before : Steps}
    (hdata : processStepData config env before data = pure next)
    (hentry : entryAction config env (fun _ => throw (.panic "a second step completed itself")) next
      = pure ())
    (hnext : next.settled = next) (hbefore : before.settled = next) (haccept : before ≠ .acceptPegin)
    (hchain : ∀ step ∈ next.chain, step ∈ before.chain) (h : StandsAt before f w.own) :
    wp (completeStepInner config env data) (fun _ => Settles before f) (fun _ => Enters before f)
      w := by
  have hstep : w.own.state.ctx.step = before := by rw [h.state]; rfl
  have hinner : wp (startStepWith config env (fun _ => throw (.panic "a second step completed itself"))
      next) (fun _ => Settles next w.own) (fun _ => Enters next w.own) w := by
    apply startStepWith_enters
    intro w' hw'
    have hcalls : OnlyCalls Call.Plain (pure () : FlowM Unit) := .pure ()
    rw [hentry]
    exact settles_of_onlyCalls hcalls hnext hw'
  simp only [completeStepInner, completeStepWith, wp_bind, wp_getCtx]
  rw [hstep, hdata, wp_pure]
  apply wp_mono hinner
  · exact fun _ w' hw' => ⟨h.chained hw'.1 haccept hchain, by rw [hw'.2, hnext, hbefore]⟩
  · exact fun _ w' hw' => h.chained hw' haccept hchain

theorem onlyCalls_acceptPegin (proof : BtcTxSPVProof) :
    OnlyCalls (fun _ => True) (acceptPegin config env proof) :=
  .bind (onlyCalls_invokeContractSafe (fun _ => trivial) _ _
    (onlyCalls_perform trivial)) fun _ =>
      .bind (within_withContext (within_orDomain _)) fun _ => .pure ()

/-- **Entering a step.** -/
theorem startStep_settles (next : Steps) :
    wp (startStep config env next) (fun _ => Settles next w.own) (fun _ => Enters next w.own) w := by
  apply startStepWith_enters
  intro w' hw'
  cases next
  case preparePeginSetup => exact settles_preparePeginSetup hw'
  case addOperatorTakeHash =>
    simp only [entryAction, wp_bind]
    apply wp_mono (wp_own_of_onlyCalls onlyCalls_addOperatorTakeHash)
    · intro _ w₂ hw₂
      rw [← hw₂] at hw'
      exact completeStepInner_settles rfl rfl rfl rfl (by decide) (by decide) hw'
    · intro _ w₂ hw₂
      rw [Enters, hw₂]
      exact hw'.entered
  case dispatchAcceptPeginTransactionAllConvergeCheckpoint =>
    simp only [entryAction, wp_bind]
    apply wp_mono (wp_own_of_onlyCalls onlyCalls_dispatchTransaction)
    · intro _ w₂ hw₂
      rw [← hw₂] at hw'
      exact completeStepInner_settles rfl rfl rfl rfl (by decide) (by decide) hw'
    · intro _ w₂ hw₂
      rw [Enters, hw₂]
      exact hw'.entered
  case acceptPegin =>
    have hcalls : OnlyCalls (fun _ => True)
        (entryAction config env (completeStepInner config env) .acceptPegin) :=
      .bind onlyCalls_getCtx fun _ => .okOr fun _ =>
        onlyCalls_acceptPegin _
    exact settles_of_onlyCalls hcalls rfl hw'
  all_goals exact settles_of_onlyCalls (onlyCalls_entryAction (by decide)) rfl hw'

end Entering

/-! ## The recursion of the source -/

section Recursion

variable {config : Config} {env : Env}

/-- A step that leads to a plain one is completed in the same way at both depths. -/
theorem completeStepInner_eq {data : StepData} {before next : Steps} {w : World Flow}
    (hdata : processStepData config env before data = pure next)
    (hentry : ∀ complete complete', entryAction config env complete next
      = entryAction config env complete' next)
    (h : w.own.state.ctx.step = before) :
    completeStepInner config env data w = completeStep config env data w := by
  show (processStepData config env w.own.state.ctx.step data >>= startStepWith config env _) w
    = (processStepData config env w.own.state.ctx.step data >>= startStepWith config env _) w
  rw [h, hdata, pure_bind, pure_bind]
  unfold startStepWith
  rw [hentry]

theorem entryAction_inner (next : Steps) {w : World Flow} (h : w.own.state.ctx.step = next) :
    entryAction config env (completeStepInner config env) next w
      = entryAction config env (completeStep config env) next w := by
  cases next
  case addOperatorTakeHash =>
    apply bind_apply_congr
    exact wp_mono (wp_own_of_onlyCalls onlyCalls_addOperatorTakeHash)
      (fun _ _ hw' => completeStepInner_eq rfl (fun _ _ => rfl) (hw' ▸ h)) fun _ _ _ => trivial
  case dispatchAcceptPeginTransactionAllConvergeCheckpoint =>
    apply bind_apply_congr
    exact wp_mono (wp_own_of_onlyCalls onlyCalls_dispatchTransaction)
      (fun _ _ hw' => completeStepInner_eq rfl (fun _ _ => rfl) (hw' ▸ h)) fun _ _ _ => trivial
  all_goals rfl

/-- **The recursive equation of the source**: `start_step` calls `complete_step`, and the other way
round. -/
theorem peginStartStep_eq (next : Steps) :
    startStep config env next = startStepWith config env (completeStep config env) next := by
  funext w
  apply bind_apply_congr
  rw [modifyCtx, wp_modify]
  apply bind_apply_congr
  apply wp_mono wp_persistIf
  · intro _ w' hw'
    have hstep : w'.own.state.ctx.step = next := by
      rcases hw' with h | h <;> rw [h]
    show EStateM.bind _ _ w' = EStateM.bind _ _ w'
    unfold EStateM.bind
    rw [entryAction_inner next hstep]
  · intro _ _ _
    trivial

end Recursion

/-! ## Completing a step -/

/-- The step after `bitvmxPeginAccepted`: a prover registers its transactions first. -/
def afterPeginAccepted : Option ParticipantRole → Option Steps
  | none => none
  | some role => some (if role = .prover then .requestOperatorTakeTransactionInfo
      else .waitAllOperatorTakeTxidsAdded)

/-- What `process_step_data` can do to a flow, and the step it leads to when it succeeds. -/
inductive Stored (libs : Libs) (f : Flow) : StepData → Flow → Option Steps → Prop where
  | rejected (data : StepData) : Stored libs f data f none
  | found (h : f.state.ctx.step = .peginTransactionFound) :
    Stored libs f .peginTransactionFound f (some .requestPeginSpvProof)
  -- the proof is stored before the request, and kept when the store or the request fails
  | unsaved (proof : BtcTxSPVProof) (h : f.state.ctx.step = .requestPeginSpvProof) :
    Stored libs f (.requestPeginSpvProof proof)
      (f.update fun ctx => { ctx with requestPeginSpvProof := some proof }) none
  | proof (proof : BtcTxSPVProof) (next : Option Steps)
      (h : f.state.ctx.step = .requestPeginSpvProof)
      (hnext : next = none ∨ next = some .waitPeginRequested) :
    Stored libs f (.requestPeginSpvProof proof)
      { f.update fun ctx => { ctx with requestPeginSpvProof := some proof } with
        saved := some (f.update fun ctx => { ctx with requestPeginSpvProof := some proof }).state }
      next
  | retried (h : f.state.ctx.step = .requestPeginSpvProof) :
    Stored libs f .retryRequestPegin f (some .waitPeginRequested)
  | requested (event : PeginRequested) (h : f.state.ctx.step = .waitPeginRequested) :
    Stored libs f (.peginRequested event)
      (f.update fun ctx => { ctx with
        peginRequested := some event
        bitvmxProtocolId :=
          some (acceptPeginProtocolId libs event.committeeId event.streamPosition.slotId) })
      (some .getCommInfoAuthoritativeCheckpoint)
  | commInfo (info : CommsAddress) (h : f.state.ctx.step = .getCommInfoAuthoritativeCheckpoint) :
    Stored libs f (.commInfo info) (f.update fun ctx => { ctx with myP2pAddress := some info })
      (some .preparePeginSetup)
  | accepted (message : PeginAcceptedMessage) (h : f.state.ctx.step = .preparePeginSetup) :
    Stored libs f (.bitvmxPeginAccepted message)
      (f.update fun ctx => { ctx with bitvmxPeginAccepted := some message })
      (afterPeginAccepted f.state.ctx.opRole)
  | take (txName : String) (txid : Txid)
      (h : f.state.ctx.step = .requestOperatorTakeTransactionInfo) :
    Stored libs f (.transactionInfo txName txid)
      (f.update fun ctx => { ctx with operatorTakeTxid := some txid })
      (some .requestOperatorWonTransactionInfo)
  | won (txName : String) (txid : Txid)
      (h : f.state.ctx.step = .requestOperatorWonTransactionInfo) :
    Stored libs f (.transactionInfo txName txid)
      (f.update fun ctx => { ctx with operatorWonTxid := some txid })
      (some .addOperatorTakeHash)
  | hashAdded (h : f.state.ctx.step = .addOperatorTakeHash) :
    Stored libs f .operatorTakeHashAdded f (some .waitAllOperatorTakeTxidsAdded)
  | allAdded (h : f.state.ctx.step = .waitAllOperatorTakeTxidsAdded) :
    Stored libs f .allOperatorTakeTxidsAdded f
      (some .waitAcceptPeginSignaturesReadyAllConvergeCheckpoint)
  | signed (h : f.state.ctx.step = .waitAcceptPeginSignaturesReadyAllConvergeCheckpoint) :
    Stored libs f .acceptPeginSignaturesReady f
      (some .dispatchAcceptPeginTransactionAllConvergeCheckpoint)
  | dispatched (h : f.state.ctx.step = .dispatchAcceptPeginTransactionAllConvergeCheckpoint) :
    Stored libs f .acceptPeginTransactionDispatched f (some .confirmAcceptPeginTransaction)
  | confirmed (status : TransactionStatus) (h : f.state.ctx.step = .confirmAcceptPeginTransaction) :
    Stored libs f (.acceptPeginTransactionConfirmed status)
      (f.update fun ctx => { ctx with acceptPeginTxStatus := some status })
      (some .requestAcceptPeginSpvProof)
  | acceptProof (proof : BtcTxSPVProof) (h : f.state.ctx.step = .requestAcceptPeginSpvProof) :
    Stored libs f (.acceptPeginSpvProof proof)
      (f.update fun ctx => { ctx with acceptPeginSpvProof := some proof }) (some .acceptPegin)
  | retriedAccept (h : f.state.ctx.step = .acceptPegin) :
    Stored libs f .retryAcceptPegin f (some .acceptPegin)
  | peginAccepted (event : PeginAccepted)
      (h : f.state.ctx.step.allowsFastForwardToPeginAccepted = true)
      (htxid : f.state.acceptPeginTxid = some (TxIdParser.fb32ToTxid event.acceptPeginTxid)) :
    Stored libs f (.peginAccepted event)
      (f.update fun ctx => { ctx with peginAccepted := some event }) (some .done)

section Completing

variable {config : Config} {env : Env} {w : World Flow}

/-- What is known after `process_step_data` of a flow. -/
def Stores (libs : Libs) (f : Flow) (data : StepData) (next : Option Steps) : World Flow → Prop :=
  fun w => Stored libs f data w.own next

theorem onlyCalls_requestPegin' (proof : BtcTxSPVProof) :
    OnlyCalls (fun _ => True) (requestPegin config env proof) :=
  onlyCalls_requestPegin (fun _ _ => trivial) (fun _ => trivial) proof

theorem stores_of_onlyCalls {α : Type} {m : FlowM α} {f : Flow} {data : StepData} {next : Steps}
    (hm : OnlyCalls (fun _ => True) m) (hok : Stored config.libs f data w.own (some next))
    (herror : Stored config.libs f data w.own none) :
    wp (m >>= fun _ => pure next) (fun next => Stores config.libs f data (some next))
      (fun _ => Stores config.libs f data none) w := by
  simp only [wp_bind, wp_pure]
  apply wp_mono (wp_own_of_onlyCalls hm)
  · intro _ w' hw'
    rw [Stores, hw']
    exact hok
  · intro _ w' hw'
    rw [Stores, hw']
    exact herror

theorem stores_requestPeginSpvProof (proof : BtcTxSPVProof)
    (h : w.own.state.ctx.step = .requestPeginSpvProof) :
    wp (processStepData config env .requestPeginSpvProof (.requestPeginSpvProof proof))
      (fun next => Stores config.libs w.own (.requestPeginSpvProof proof) (some next))
      (fun _ => Stores config.libs w.own (.requestPeginSpvProof proof) none) w := by
  simp only [processStepData, wp_bind, wp_modifyCtx]
  apply wp_mono wp_persistState
  · intro _ w' hw'
    rw [← wp_bind]
    apply stores_of_onlyCalls (onlyCalls_requestPegin' proof)
    · rw [hw']
      exact .proof proof _ h (.inr rfl)
    · rw [hw']
      exact .proof proof _ h (.inl rfl)
  · intro _ w' hw'
    rw [Stores, hw']
    exact .unsaved proof h

theorem stores_retryRequestPegin (h : w.own.state.ctx.step = .requestPeginSpvProof) :
    wp (retryRequestPeginStep config env)
      (fun next => Stores config.libs w.own .retryRequestPegin (some next))
      (fun _ => Stores config.libs w.own .retryRequestPegin none) w := by
  simp only [retryRequestPeginStep, wp_bind, wp_getCtx, wp_okOr]
  refine ⟨fun proof _ => ?_, fun _ => .rejected _⟩
  rw [← wp_bind]
  exact stores_of_onlyCalls (onlyCalls_requestPegin' proof) (.retried h) (.rejected _)

theorem stores_bitvmxPeginAccepted (message : PeginAcceptedMessage)
    (h : w.own.state.ctx.step = .preparePeginSetup) :
    wp (processStepData config env .preparePeginSetup (.bitvmxPeginAccepted message))
      (fun next => Stores config.libs w.own (.bitvmxPeginAccepted message) (some next))
      (fun _ => Stores config.libs w.own (.bitvmxPeginAccepted message) none) w := by
  have hstored := (.accepted message h : Stored config.libs w.own _ _ _)
  simp only [processStepData, tryGetOpRole, wp_bind, wp_modifyCtx, wp_getCtx, wp_okOr]
  constructor
  · intro role hrole
    have hrole : w.own.state.ctx.opRole = some role := hrole
    rw [hrole, afterPeginAccepted] at hstored
    rw [wp_ite]
    split
    · next hprover =>
      rw [if_pos hprover] at hstored
      exact hstored
    · next hprover =>
      rw [if_neg hprover] at hstored
      exact hstored
  · intro hrole
    have hrole : w.own.state.ctx.opRole = none := hrole
    rw [hrole] at hstored
    exact hstored

theorem stores_of_check {α : Type} {m : FlowM α} {check : α → Prop} [∀ a, Decidable (check a)]
    {e : FlowError} {g : FlowContext → FlowContext} {data : StepData} {next : Steps}
    (hm : OnlyCalls Call.Plain m)
    (hok : Stored config.libs w.own data (w.own.update g) (some next)) :
    wp (do let a ← m; ensure (check a) e; modifyCtx g; return next)
      (fun next => Stores config.libs w.own data (some next))
      (fun _ => Stores config.libs w.own data none) w := by
  simp only [wp_bind, wp_ensure, wp_modifyCtx, wp_pure]
  apply wp_mono (wp_own_of_onlyCalls hm)
  · intro a w' hw'
    split
    · rw [Stores, hw']
      exact hok
    · rw [Stores, hw']
      exact .rejected _
  · intro _ w' hw'
    rw [Stores, hw']
    exact .rejected _

theorem stores_peginAccepted (event : PeginAccepted)
    (h : w.own.state.ctx.step.allowsFastForwardToPeginAccepted = true) :
    wp (completeWithConfirmedPeginAcceptance event)
      (fun next => Stores config.libs w.own (.peginAccepted event) (some next))
      (fun _ => Stores config.libs w.own (.peginAccepted event) none) w := by
  simp only [completeWithConfirmedPeginAcceptance, acceptPeginTxidFromBitvmxVar, wp_bind, wp_getCtx,
    wp_okOr, wp_ensure, wp_modifyCtx, wp_pure]
  refine ⟨fun txid htxid => ?_, fun _ => .rejected _⟩
  split
  · next heq =>
    refine .peginAccepted event h ?_
    rw [heq]
    exact htxid
  · exact .rejected _

/-- **The data of a step.** -/
theorem processStepData_stores (data : StepData) :
    wp (processStepData config env w.own.state.ctx.step data)
      (fun next => Stores config.libs w.own data (some next))
      (fun _ => Stores config.libs w.own data none) w := by
  generalize hstep : w.own.state.ctx.step = step
  unfold processStepData
  split
  · exact .found hstep
  · exact stores_requestPeginSpvProof _ hstep
  · exact stores_retryRequestPegin hstep
  · exact .requested _ hstep
  · exact .commInfo _ hstep
  · exact @stores_bitvmxPeginAccepted config env w _ hstep
  · exact stores_of_check onlyCalls_operatorTakeTransactionName (.take _ _ hstep)
  · exact stores_of_check onlyCalls_operatorWonTransactionName (.won _ _ hstep)
  · exact .hashAdded hstep
  · exact .allAdded hstep
  · exact .signed hstep
  · exact .dispatched hstep
  · exact stores_of_check (onlyCalls_acceptPeginTxidFromBitvmxVar _) (.confirmed _ hstep)
  · exact .acceptProof _ hstep
  · exact .retriedAccept hstep
  · rw [wp_ite]
    split
    · next hff => exact stores_peginAccepted _ (hstep ▸ hff)
    · exact .rejected _
  · exact .rejected _

/-- **What `complete_step` can do**: store the data and stop, or enter the next step as well. -/
inductive Completed (libs : Libs) (data : StepData) (f f' : Flow) : Prop where
  | stopped (h : Stored libs f data f' none)
  | entered (next : Steps) (f₁ : Flow) (h : Stored libs f data f₁ (some next))
      (hentered : Entered next f₁ f')

/-- The same when it succeeded. -/
inductive Succeeded (libs : Libs) (data : StepData) (f f' : Flow) : Prop where
  | settled (next : Steps) (f₁ : Flow) (h : Stored libs f data f₁ (some next))
      (hentered : Entered next f₁ f') (hstep : f'.state.ctx.step = next.settled)

theorem Succeeded.completed {libs : Libs} {data : StepData} {f f' : Flow}
    (h : Succeeded libs data f f') : Completed libs data f f' := by
  obtain ⟨next, f₁, h, hentered, -⟩ := h
  exact .entered next f₁ h hentered

theorem completeStep_succeeds (data : StepData) :
    wp (completeStep config env data) (fun _ w' => Succeeded config.libs data w.own w'.own)
      (fun _ w' => Completed config.libs data w.own w'.own) w := by
  simp only [completeStep, completeStepWith, wp_bind, wp_getCtx]
  apply wp_mono (processStepData_stores data)
  · intro next w₁ hw₁
    apply wp_mono (startStep_settles next)
    · exact fun _ w₂ hw₂ => .settled next w₁.own hw₁ hw₂.1 hw₂.2
    · exact fun _ w₂ hw₂ => .entered next w₁.own hw₁ hw₂
  · exact fun _ w₁ hw₁ => .stopped hw₁

theorem markFailed_enters :
    wp (markFailed config env) (fun _ => Enters .failed w.own) (fun _ => Enters .failed w.own) w :=
  wp_imp (startStep_settles .failed) fun _ _ h => h.1

end Completing

/-! ## The data of a step -/

/-- The data that a flow has at a step. -/
structure FormedAt (step : Steps) (ctx : FlowContext) : Prop where
  requested : Steps.getCommInfoAuthoritativeCheckpoint.reached step →
    ctx.peginRequested.isSome = true
  accepted : Steps.requestOperatorTakeTransactionInfo.reached step →
    ctx.bitvmxPeginAccepted.isSome = true
  paired : ctx.bitvmxProtocolId.isSome = ctx.peginRequested.isSome
  message : ctx.bitvmxPeginAccepted.isSome = true → ctx.peginRequested.isSome = true
  early : step.pos < 3 → ctx.peginRequested = none
  unset : step.pos < 4 → ctx.bitvmxPeginAccepted = none

/-- The id of a flow comes from its transaction, and it has the data of its step. -/
structure State.Formed (libs : Libs) (id : FlowId) (s : State) : Prop where
  flowId : s.flowId = id
  source : flowIdFromRequestPeginTxid libs s.ctx.requestPeginBtcTxId = id
  data : FormedAt s.ctx.step s.ctx

structure Flow.Formed (libs : Libs) (id : FlowId) (f : Flow) : Prop where
  memory : f.state.Formed libs id
  record : ∀ s, f.saved = some s → s.Formed libs id

theorem State.Formed.new (libs : Libs) (txid : Txid) :
    (State.new txid (flowIdFromRequestPeginTxid libs txid)).Formed libs
      (flowIdFromRequestPeginTxid libs txid) where
  flowId := rfl
  source := rfl
  data := by
    show FormedAt .peginTransactionFound _
    refine ⟨fun h => ?_, fun h => ?_, rfl, fun h => ?_, fun _ => rfl, fun _ => rfl⟩
    · exact absurd h (by decide)
    · exact absurd h (by decide)
    · cases h

section Formed

variable {libs : Libs} {id : FlowId} {data : StepData} {f f₁ f' : Flow} {next : Option Steps}

variable {ctx : FlowContext} {step : Steps}

theorem FormedAt.accepted_set (h : FormedAt .preparePeginSetup ctx)
    (message : PeginAcceptedMessage) (hstep : 4 ≤ step.pos) :
    FormedAt step { ctx with bitvmxPeginAccepted := some message } where
  requested _ := h.requested (by decide)
  accepted _ := rfl
  paired := h.paired
  message _ := h.requested (by decide)
  early hearly := by omega
  unset hunset := by omega

theorem FormedAt.done_of_fastForward (h : FormedAt step ctx)
    (hff : step.allowsFastForwardToPeginAccepted = true) (event : PeginAccepted) :
    FormedAt .done { ctx with peginAccepted := some event } := by
  obtain ⟨hcommInfo, htake, -, -⟩ := step.fastForward_facts hff
  exact ⟨fun _ => h.requested hcommInfo, fun _ => h.accepted htake, h.paired, h.message,
    fun hcontra => absurd hcontra (by decide), fun hcontra => absurd hcontra (by decide)⟩

theorem Stored.formedAt (h : Stored libs f data f₁ next) (hf : FormedAt f.state.ctx.step f.state.ctx) :
    (next = none → FormedAt f.state.ctx.step f₁.state.ctx)
      ∧ ∀ step, next = some step → FormedAt step f₁.state.ctx := by
  cases h with
  | rejected => exact ⟨fun _ => hf, fun _ hnext => nomatch hnext⟩
  | accepted message hstep =>
    rw [hstep] at hf
    refine ⟨fun _ => ?_, fun step hnext => ?_⟩
    · rw [hstep]
      exact hf.accepted_set message (by decide)
    · refine hf.accepted_set message ?_
      -- a prover goes to step 5, the others to step 8
      cases hrole : f.state.ctx.opRole with
      | none => rw [hrole] at hnext; cases hnext
      | some role =>
        rw [hrole] at hnext
        cases hnext
        split <;> decide
  | peginAccepted event hff =>
    refine ⟨(fun hnext => nomatch hnext), fun step hnext => ?_⟩
    cases hnext
    exact hf.done_of_fastForward hff event
  | proof proof next hstep =>
    rw [hstep] at hf ⊢
    grind [FormedAt, Steps.reached, Steps.pos, Flow.update]
  | _ =>
    rename_i hstep
    rw [hstep] at hf ⊢
    grind [FormedAt, Steps.reached, Steps.pos, Flow.update]

/-- Storing the data of a step keeps the identity; only a proof is written to the store. -/
theorem Stored.frame (h : Stored libs f data f₁ next) :
    f₁.state.flowId = f.state.flowId
      ∧ f₁.state.ctx.requestPeginBtcTxId = f.state.ctx.requestPeginBtcTxId
      ∧ f₁.state.ctx.step = f.state.ctx.step
      ∧ (f₁.saved = f.saved ∨ f₁.saved = some f₁.state
        ∧ f₁.state.ctx.peginRequested = f.state.ctx.peginRequested
        ∧ f₁.state.ctx.bitvmxProtocolId = f.state.ctx.bitvmxProtocolId
        ∧ f₁.state.ctx.bitvmxPeginAccepted = f.state.ctx.bitvmxPeginAccepted) := by
  cases h with
  | proof => exact ⟨rfl, rfl, rfl, .inr ⟨rfl, rfl, rfl, rfl⟩⟩
  | _ => exact ⟨rfl, rfl, rfl, .inl rfl⟩

/-- Entering a step needs no data beyond those of the step, also where it completes itself. -/
theorem FormedAt.chain {step step' : Steps} (h : FormedAt step ctx)
    (hmem : step' ∈ step.chain) : FormedAt step' ctx := by
  cases step
  case addOperatorTakeHash =>
    rcases List.mem_pair.mp hmem with rfl | rfl
    · exact h
    · exact ⟨fun _ => h.requested (by decide), fun _ => h.accepted (by decide), h.paired, h.message,
        fun hcontra => absurd hcontra (by decide), fun hcontra => absurd hcontra (by decide)⟩
  case dispatchAcceptPeginTransactionAllConvergeCheckpoint =>
    rcases List.mem_pair.mp hmem with rfl | rfl
    · exact h
    · exact ⟨fun _ => h.requested (by decide), fun _ => h.accepted (by decide), h.paired, h.message,
        fun hcontra => absurd hcontra (by decide), fun hcontra => absurd hcontra (by decide)⟩
  all_goals
    rw [List.mem_singleton.mp hmem]
    exact h

theorem FormedAt.congr {ctx ctx' : FlowContext} (h : FormedAt step ctx)
    (hrequested : ctx'.peginRequested = ctx.peginRequested)
    (hprotocol : ctx'.bitvmxProtocolId = ctx.bitvmxProtocolId)
    (haccepted : ctx'.bitvmxPeginAccepted = ctx.bitvmxPeginAccepted) : FormedAt step ctx' := by
  obtain ⟨h₁, h₂, h₃, h₄, h₅, h₆⟩ := h
  rw [← hrequested] at h₁ h₃ h₄ h₅
  rw [← hprotocol] at h₃
  rw [← haccepted] at h₂ h₄ h₆
  exact ⟨h₁, h₂, h₃, h₄, h₅, h₆⟩

theorem Entered.formed (h : Entered step f f') (hf : FormedAt step f.state.ctx)
    (hid : f.state.flowId = id)
    (hsource : flowIdFromRequestPeginTxid libs f.state.ctx.requestPeginBtcTxId = id) :
    f'.state.Formed libs id := by
  obtain ⟨output, role, hctx⟩ := h.ctx
  refine ⟨h.flowId.trans hid, ?_, ?_⟩
  · rw [hctx]
    exact hsource
  · refine (hf.chain h.step).congr ?_ ?_ ?_ <;> rw [hctx]

/-- **Completing a step** leaves a formed flow. -/
theorem Completed.formed (h : Completed libs data f f') (hf : f.Formed libs id) :
    f'.Formed libs id := by
  cases h with
  | stopped h =>
    obtain ⟨hid, htxid, hstep, hsaved⟩ := h.frame
    have hmemory : f'.state.Formed libs id := by
      refine ⟨hid.trans hf.memory.flowId, htxid ▸ hf.memory.source, ?_⟩
      rw [hstep]
      exact (h.formedAt hf.memory.data).1 rfl
    refine ⟨hmemory, fun s hs => ?_⟩
    rcases hsaved with hsaved | ⟨hsaved, -⟩
    · exact hf.record s (hsaved ▸ hs)
    · rw [hsaved] at hs
      cases hs
      exact hmemory
  | entered next f₁ h hentered =>
    obtain ⟨hid, htxid, hstep, hsaved⟩ := h.frame
    have hmemory : f'.state.Formed libs id :=
      hentered.formed ((h.formedAt hf.memory.data).2 next rfl) (hid.trans hf.memory.flowId)
        (htxid ▸ hf.memory.source)
    refine ⟨hmemory, fun s hs => ?_⟩
    rcases hentered.saved with hsaved' | hsaved'
    · rcases hsaved with hsaved | ⟨hsaved, hrequested, hprotocol, haccepted⟩
      · exact hf.record s (by rw [← hsaved, ← hsaved', hs])
      · -- the proof was stored at the old step
        rw [hsaved', hsaved] at hs
        cases hs
        refine ⟨hid.trans hf.memory.flowId, htxid ▸ hf.memory.source, ?_⟩
        rw [hstep]
        exact hf.memory.data.congr hrequested hprotocol haccepted
    · rw [hsaved'] at hs
      cases hs
      exact hmemory

theorem Entered.failed_formed (h : Entered .failed f f') (hf : f.Formed libs id) :
    f'.Formed libs id := by
  have hdata : FormedAt .failed f.state.ctx :=
    ⟨fun hcontra => absurd rfl hcontra.2, fun hcontra => absurd rfl hcontra.2, hf.memory.data.paired,
      hf.memory.data.message, fun hcontra => absurd hcontra (by decide),
      fun hcontra => absurd hcontra (by decide)⟩
  have hmemory : f'.state.Formed libs id := h.formed hdata hf.memory.flowId hf.memory.source
  refine ⟨hmemory, fun s hs => ?_⟩
  rcases h.saved with hsaved | hsaved
  · exact hf.record s (hsaved ▸ hs)
  · rw [hsaved] at hs
    cases hs
    exact hmemory

end Formed

/-! ## The log -/

/-- A relation between logs that plain calls stay within. -/
structure Admits (R : World Flow → World Flow → Prop) : Prop where
  calls : ∀ {α : Type} {m : FlowM α}, OnlyCalls Call.Plain m → Within R m
  modify : ∀ {f : World Flow → World Flow}, (∀ w, (f w).log = w.log) →
    Within R (modify f : FlowM PUnit)

/-- Submissions stay within it as well, and with them the whole flow. -/
structure AdmitsAll (config : Config) (env : Env) (R : World Flow → World Flow → Prop) : Prop
    extends Admits R where
  submit : ∀ {c : Call} {proof : BtcTxSPVProof} {read : c.Answer → Except DomainErrors TxSentOutput},
    c.submittedProof = some (BtcTxSPVProofInput.ofProof proof) →
    Within R (invokeContractSafe config.libs env config.verifier proof (perform env c read))

section Log

variable {config : Config} {env : Env} {R : World Flow → World Flow → Prop}

theorem Admits.set (h : Admits R) (f : FlowContext → FlowContext) : Within R (modifyCtx f) :=
  h.modify fun _ => rfl

variable [IsPreorder (World Flow) R]

theorem Admits.setThen (h : Admits R) (f : FlowContext → FlowContext) (next : Steps) :
    Within R (modifyCtx f >>= fun _ => pure next) := .bind (h.set f) fun _ => .pure _

theorem within_persistState (h : Admits R) : Within R (persistState env) :=
  .bind .get fun _ => .bind (h.calls (onlyCalls_perform rfl)) fun _ =>
    .bind (within_orText _) fun _ => h.modify fun _ => rfl

theorem within_persistIf (h : Admits R) (c : Prop) [Decidable c] : Within R (persistIf c env) :=
  .ite (within_persistState h) (.pure ())

variable (h : AdmitsAll config env R)

include h

theorem within_requestPegin (proof : BtcTxSPVProof) : Within R (requestPegin config env proof) := by
  refine .bind (h.submit rfl) fun result => ?_
  split
  · exact .pure ()
  · exact .pure ()
  · exact .throw _

theorem within_acceptPegin (proof : BtcTxSPVProof) : Within R (acceptPegin config env proof) :=
  .bind (h.submit rfl) fun _ => .bind (within_withContext (within_orDomain _)) fun _ => .pure ()

omit h

/-- The reports of the two steps that complete themselves. -/
def StepData.IsReport (data : StepData) : Prop :=
  data = .operatorTakeHashAdded ∨ data = .acceptPeginTransactionDispatched

theorem within_startStepWith (h : Admits R) {complete : StepData → FlowM Unit} {next : Steps}
    (hcomplete : ∀ data, data.IsReport → Within R (complete data))
    (haccept : next = .acceptPegin → ∀ proof, Within R (acceptPegin config env proof)) :
    Within R (startStepWith config env complete next) := by
  have hentry : Within R (entryAction config env complete next) := by
    cases next
    case preparePeginSetup => exact within_preparePeginSetup h.calls fun _ _ => h.set _
    case addOperatorTakeHash =>
      exact .bind (h.calls onlyCalls_addOperatorTakeHash) fun _ => hcomplete _ (.inl rfl)
    case dispatchAcceptPeginTransactionAllConvergeCheckpoint =>
      exact .bind (h.calls onlyCalls_dispatchTransaction) fun _ => hcomplete _ (.inr rfl)
    case acceptPegin =>
      exact .bind (h.calls onlyCalls_getCtx) fun _ => .okOr fun _ => haccept rfl _
    all_goals exact h.calls (onlyCalls_entryAction (by decide))
  refine .bind (h.set _) fun _ => .bind (within_persistIf h _) fun _ => ?_
  exact .bind hentry fun _ => .bind (h.calls onlyCalls_getCtx) fun _ => within_persistIf h _

theorem within_completeStepInner (h : Admits R) {data : StepData} (hdata : data.IsReport) :
    Within R (completeStepInner config env data) := by
  have hwaits : ∀ next, next ≠ .acceptPegin → Within R (startStepWith config env
      (fun _ => throw (.panic "a second step completed itself")) next) :=
    fun _ hnext => within_startStepWith h (fun _ _ => .throw _) fun hcontra => absurd hcontra hnext
  refine .bind (h.calls onlyCalls_getCtx) fun ctx => ?_
  generalize ctx.step = step
  rcases hdata with rfl | rfl
  · cases step
    case addOperatorTakeHash => exact hwaits .waitAllOperatorTakeTxidsAdded (by decide)
    all_goals exact fun w => refl_of R w
  · cases step
    case dispatchAcceptPeginTransactionAllConvergeCheckpoint =>
      exact hwaits .confirmAcceptPeginTransaction (by decide)
    all_goals exact fun w => refl_of R w

theorem within_startStep (h : Admits R) {next : Steps}
    (haccept : next = .acceptPegin → ∀ proof, Within R (acceptPegin config env proof)) :
    Within R (startStep config env next) :=
  within_startStepWith h (fun _ => within_completeStepInner h) haccept

theorem within_processStepData (h : Admits R)
    (hrequest : ∀ proof, Within R (requestPegin config env proof)) (step : Steps)
    (data : StepData) : Within R (processStepData config env step data) := by
  have hcheck : ∀ {α : Type} {m : FlowM α} {check : α → Prop} [∀ a, Decidable (check a)]
      {e : FlowError} {g : FlowContext → FlowContext} {next : Steps}, OnlyCalls Call.Plain m →
      Within R (do let a ← m; ensure (check a) e; modifyCtx g; return next) := fun hm =>
    .bind (h.calls hm) fun _ => .ensure fun _ => h.setThen _ _
  unfold processStepData
  split
  · exact .pure _
  · refine .bind (h.set _) fun _ => .bind (within_persistState h) fun _ => ?_
    exact .bind (hrequest _) fun _ => .pure _
  · refine .bind (h.calls onlyCalls_getCtx) fun _ => .okOr fun _ => ?_
    exact .bind (hrequest _) fun _ => .pure _
  · exact h.setThen _ _
  · exact h.setThen _ _
  · refine .bind (h.set _) fun _ => .bind (h.calls onlyCalls_tryGetOpRole) fun role => ?_
    split
    · exact .pure _
    · exact .pure _
  · exact hcheck onlyCalls_operatorTakeTransactionName
  · exact hcheck onlyCalls_operatorWonTransactionName
  · exact .pure _
  · exact .pure _
  · exact .pure _
  · exact .pure _
  · exact hcheck (onlyCalls_acceptPeginTxidFromBitvmxVar _)
  · exact h.setThen _ _
  · exact .pure _
  · split
    · exact hcheck (onlyCalls_acceptPeginTxidFromBitvmxVar _)
    · exact .throw _
  · exact .throw _

theorem within_completeStep (h : AdmitsAll config env R) (data : StepData) :
    Within R (completeStep config env data) :=
  .bind (h.calls onlyCalls_getCtx) fun _ =>
    .bind (within_processStepData h.toAdmits (within_requestPegin h) _ data) fun _ =>
      within_startStep h.toAdmits fun _ => within_acceptPegin h

end Log

theorem admits_grows : Admits fun w w' => w.log <:+ w'.log := ⟨grows_of_onlyCalls, grows_modify⟩

theorem admitsAll_grows {config : Config} {env : Env} :
    AdmitsAll config env fun w w' => w.log <:+ w'.log where
  toAdmits := admits_grows
  submit _ := grows_of_calls (onlyCalls_invokeContractSafe (fun _ => trivial) _ _
    (onlyCalls_perform trivial))

end UnionBridge.Pegin
