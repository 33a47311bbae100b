import UnionBridge.Lib.Machine
import UnionBridge.Pegin.Transitions

/-!
# What a pegin flow keeps

The data that a step relies on are there whenever the flow is at that step, in memory and in the
store, at every point where a call can fail. What a transition can do is taken from `Stored` and
`Entered`; what they leave open is the log, where `acceptPegin` is called only on entering its own
step and the dispatch step is left only after its message was sent.
-/

namespace UnionBridge.Pegin

open Contracts Bitvmx Effect

/-! ## The log -/

def Call.isAcceptPegin : Call → Bool
  | .acceptPegin _ => true
  | _ => false

def isDispatch : LogEntry → Bool
  | ⟨.send (.dispatchTransactionName _ name), .ok _⟩ => name = acceptPeginTx
  | _ => false

def Dispatched (log : Log) : Prop := ∃ entry ∈ log, isDispatch entry = true

instance (log : Log) : Decidable (Dispatched log) := List.decidableBEx _ log

/-- Every call of `acceptPegin` comes after a dispatch message. -/
def AcceptsAfterDispatch : Log → Prop
  | [] => True
  | entry :: log => (Call.isAcceptPegin entry.1 = true → Dispatched log) ∧ AcceptsAfterDispatch log

instance decidableAcceptsAfterDispatch : (log : Log) → Decidable (AcceptsAfterDispatch log)
  | [] => .isTrue trivial
  | _ :: log =>
    have := decidableAcceptsAfterDispatch log
    inferInstanceAs (Decidable (_ ∧ _))

/-- Calls were added, with `acceptPegin` among them only when `accepts` holds. -/
abbrev Extends (accepts : Prop) (log log' : Log) : Prop :=
  Adds (fun c => Call.isAcceptPegin c = true → accepts) log log'

theorem Extends.dispatched {accepts : Prop} {log log' : Log} (h : Extends accepts log log')
    (hd : Dispatched log) : Dispatched log' := by
  obtain ⟨new, rfl, -⟩ := h
  obtain ⟨entry, hentry, hsent⟩ := hd
  exact ⟨entry, List.mem_append_right _ hentry, hsent⟩

theorem Extends.acceptsAfterDispatch {accepts : Prop} {log log' : Log}
    (h : Extends accepts log log') (hd : accepts → Dispatched log)
    (ha : AcceptsAfterDispatch log) : AcceptsAfterDispatch log' := by
  obtain ⟨new, rfl, hnew⟩ := h
  induction new with
  | nil => exact ha
  | cons entry new ih =>
    have hrest : ∀ e ∈ new, Call.isAcceptPegin e.1 = true → accepts :=
      fun e he => hnew e (List.mem_cons_of_mem _ he)
    refine ⟨fun haccept => ?_, ih hrest⟩
    exact Extends.dispatched ⟨new, rfl, hrest⟩ (hd (hnew entry List.mem_cons_self haccept))

theorem not_isAcceptPegin_of_plain (c : Call) (h : c.Plain) : ¬ Call.isAcceptPegin c = true := by
  cases c
  case acceptPegin => cases h
  all_goals exact Bool.false_ne_true

section Log

variable {config : Config} {env : Env} {accepts : Prop}

instance : IsPreorder (World Flow) fun w w' => Extends accepts w.log w'.log where
  refl _ := Adds.refl _ _
  trans _ _ _ h h' := h.trans h'

theorem admits_extends : Admits fun w w' => Extends accepts w.log w'.log where
  calls h w := (h w).log.mono fun c hc haccept => absurd haccept (not_isAcceptPegin_of_plain c hc)
  modify h w := ⟨[], h w, fun _ hmem => nomatch hmem⟩

theorem extends_requestPegin (proof : BtcTxSPVProof) :
    Within (fun w w' => Extends accepts w.log w'.log) (requestPegin config env proof) :=
  fun w => (onlyCalls_requestPegin
    (fun c hc haccept => absurd haccept (not_isAcceptPegin_of_plain c hc))
    (fun _ haccept => nomatch haccept) proof w).log

end Log

/-! ## The data of the steps -/

/-- What `step` promises about the data of a flow. -/
structure SoundAt (libs : Libs) (log : Log) (step : Steps) (ctx : FlowContext) : Prop where
  protocolId : Steps.getCommInfoAuthoritativeCheckpoint.reached step →
    ∃ event, ctx.peginRequested = some event ∧ ctx.bitvmxProtocolId
      = some (acceptPeginProtocolId libs event.committeeId event.streamPosition.slotId)
  bitvmxAccepted : Steps.requestOperatorTakeTransactionInfo.reached step →
    ctx.bitvmxPeginAccepted.isSome = true
  takeTxid : step = .requestOperatorWonTransactionInfo ∨ step = .addOperatorTakeHash →
    ctx.operatorTakeTxid.isSome = true
  wonTxid : step = .addOperatorTakeHash → ctx.operatorWonTxid.isSome = true
  acceptProof : step = .acceptPegin → ctx.acceptPeginSpvProof.isSome = true
  dispatched : Steps.confirmAcceptPeginTransaction.reached step → step ≠ .done → Dispatched log
  acceptTxid : step = .done → ∃ event message, ctx.peginAccepted = some event ∧
    ctx.bitvmxPeginAccepted = some message ∧
    TxIdParser.fb32ToTxid event.acceptPeginTxid = message.acceptPeginTxid

/-- The promises of its own step. -/
def Sound (libs : Libs) (log : Log) (ctx : FlowContext) : Prop := SoundAt libs log ctx.step ctx

theorem SoundAt.mono {libs : Libs} {log log' : Log} {step : Steps} {ctx : FlowContext}
    (h : SoundAt libs log step ctx) (hd : Dispatched log → Dispatched log') :
    SoundAt libs log' step ctx :=
  { h with dispatched := fun hreached hdone => hd (h.dispatched hreached hdone) }

theorem soundAt_of_idle (libs : Libs) (log : Log) (ctx : FlowContext) {step : Steps}
    (h : step = .peginTransactionFound ∨ step = .failed) : SoundAt libs log step ctx := by
  rcases h with rfl | rfl
  all_goals
    refine ⟨fun h => ?_, fun h => ?_, fun h => ?_, fun h => ?_, fun h => ?_, fun h => ?_, fun h => ?_⟩
    all_goals exact absurd h (by decide)

/-! ## One transition -/

section Transition

variable {libs : Libs} {log : Log} {data : StepData} {f f₁ : Flow}

/-- **The data of a step.** Whatever they are, the flow stays sound at its step, and the step they
lead to is ahead and has what it needs. Only the flow itself reports the dispatch. -/
theorem Stored.sound {next : Option Steps} (h : Stored libs f data f₁ next)
    (hdata : data ≠ .acceptPeginTransactionDispatched) (hf : Sound libs log f.state.ctx) :
    SoundAt libs log f.state.ctx.step f₁.state.ctx
      ∧ ∀ n, next = some n → SoundAt libs log n f₁.state.ctx ∧ f.state.ctx.step.Forward n := by
  unfold Sound at hf
  cases h with
  | rejected => exact ⟨hf, by rintro _ ⟨⟩⟩
  | dispatched => exact absurd rfl hdata
  | accepted message hstep =>
    rw [hstep] at hf ⊢
    -- a prover goes to step 5, the others to step 8
    cases hrole : f.state.ctx.opRole with
    | none => grind [SoundAt, Steps.reached, Steps.pos, Flow.update, afterPeginAccepted]
    | some role =>
      grind [SoundAt, Steps.reached, Steps.pos, Flow.update, Steps.Forward, afterPeginAccepted]
  | peginAccepted event hff htxid =>
    obtain ⟨hcommInfo, htake, hforward, hdone⟩ := Steps.fastForward_facts _ hff
    obtain ⟨message, hstored, hid⟩ := Option.map_eq_some_iff.mp htxid
    refine ⟨{ hf with acceptTxid := fun hcontra => absurd hcontra hdone }, fun n hnext => ?_⟩
    cases hnext
    refine ⟨?_, hforward⟩
    exact {
      protocolId := fun _ => hf.protocolId hcommInfo
      bitvmxAccepted := fun _ => hf.bitvmxAccepted htake
      takeTxid := fun hcontra => absurd hcontra (by decide)
      wonTxid := by rintro ⟨⟩
      acceptProof := by rintro ⟨⟩
      dispatched := fun _ hcontra => absurd rfl hcontra
      acceptTxid := fun _ => ⟨event, message, rfl, hstored, hid.symm⟩ }
  | proof proof next hstep =>
    rw [hstep] at hf ⊢
    grind [SoundAt, Steps.reached, Steps.pos, Flow.update, Steps.Forward]
  | _ =>
    rename_i hstep
    rw [hstep] at hf ⊢
    grind [SoundAt, Steps.reached, Steps.pos, Flow.update, Steps.Forward]

/-- A step that completes itself needs no data beyond its own, and the dispatch message for the step
that waits for its confirmation. -/
theorem SoundAt.chain {step step' : Steps} {ctx : FlowContext} (h : SoundAt libs log step ctx)
    (hmem : step' ∈ step.chain)
    (hd : step = .dispatchAcceptPeginTransactionAllConvergeCheckpoint →
      step' = .confirmAcceptPeginTransaction → Dispatched log) : SoundAt libs log step' ctx := by
  cases step
  case addOperatorTakeHash =>
    rcases List.mem_pair.mp hmem with rfl | rfl
    · exact h
    · grind [SoundAt, Steps.reached, Steps.pos]
  case dispatchAcceptPeginTransactionAllConvergeCheckpoint =>
    rcases List.mem_pair.mp hmem with rfl | rfl
    · exact h
    · grind [SoundAt, Steps.reached, Steps.pos]
  all_goals
    rw [List.mem_singleton.mp hmem]
    exact h

theorem Steps.Forward.chain {before next step : Steps} (h : before.Forward next)
    (hmem : step ∈ next.chain) : before.Forward step := by
  cases next
  case addOperatorTakeHash =>
    rcases List.mem_pair.mp hmem with rfl | rfl
    · exact h
    · exact ⟨Nat.le_trans h.1 (by decide), fun hcontra => nomatch hcontra⟩
  case dispatchAcceptPeginTransactionAllConvergeCheckpoint =>
    rcases List.mem_pair.mp hmem with rfl | rfl
    · exact h
    · exact ⟨Nat.le_trans h.1 (by decide), fun hcontra => nomatch hcontra⟩
  all_goals
    rw [List.mem_singleton.mp hmem]
    exact h

end Transition

/-! ## The invariant -/

/-- A sound record, of a step that the flow has reached. -/
structure RecordSound (libs : Libs) (log : Log) (step : Steps) (s : State) : Prop where
  sound : Sound libs log s.ctx
  behind : s.ctx.step.pos ≤ step.pos

/-- The flow in memory and its record are sound, and no `acceptPegin` came before a dispatch. -/
structure Inv (libs : Libs) (w : World Flow) : Prop where
  memory : Sound libs w.log w.own.state.ctx
  record : ∀ s, w.own.saved = some s → RecordSound libs w.log w.own.state.ctx.step s
  accepts : AcceptsAfterDispatch w.log

theorem RecordSound.mono {libs : Libs} {log log' : Log} {step step' : Steps} {s : State}
    (h : RecordSound libs log step s) (hd : Dispatched log → Dispatched log')
    (hpos : step.pos ≤ step'.pos) : RecordSound libs log' step' s :=
  ⟨SoundAt.mono h.sound hd, Nat.le_trans h.behind hpos⟩

/-! ## Steps of the flow -/

section Steps

variable {config : Config} {env : Env} {libs : Libs} {w w' : World Flow}

/-- What entering a step does to the flow and to the log. -/
structure Started (next : Steps) (w w' : World Flow) : Prop where
  entered : Entered next w.own w'.own
  log : Extends (next = .acceptPegin) w.log w'.log
  dispatched : next = .dispatchAcceptPeginTransactionAllConvergeCheckpoint →
    w'.own.state.ctx.step = .confirmAcceptPeginTransaction → Dispatched w'.log

theorem dispatchTransaction_sends :
    wp (dispatchTransaction env) (fun _ w' => Dispatched w'.log) (fun _ w' => w'.own = w.own) w := by
  simp only [dispatchTransaction, bitvmxProtocolId, sendBitvmxMsg, wp_bind, wp_getCtx, wp_okOr,
    wp_perform, wp_orText]
  refine ⟨fun pid _ => ⟨fun _ hok => ⟨_, List.mem_cons_self, ?_⟩, fun _ _ => trivial⟩, fun _ => trivial⟩
  have hsent : env.answer w.log (.send (.dispatchTransactionName pid.value acceptPeginTx))
      = (.ok () : Except String Unit) := hok
  rw [hsent]
  rfl

/-- The dispatch step is left only after its message was sent. -/
theorem startStep_dispatches :
    wp (startStep config env .dispatchAcceptPeginTransactionAllConvergeCheckpoint)
      (fun _ w' => Dispatched w'.log)
      (fun _ w' => w'.own.state.ctx.step = .confirmAcceptPeginTransaction → Dispatched w'.log)
      w := by
  have hreport : Within (fun w w' => Extends False w.log w'.log) (do
      completeStepInner config env .acceptPeginTransactionDispatched
      let ctx ← getCtx
      persistIf (ctx.step = .dispatchAcceptPeginTransactionAllConvergeCheckpoint) env) :=
    .bind (within_completeStepInner admits_extends (.inr rfl)) fun _ =>
      .bind (admits_extends.calls onlyCalls_getCtx) fun _ => within_persistIf admits_extends _
  simp only [startStep, startStepWith, entryAction, bind_assoc]
  rw [wp_bind, wp_modifyCtx, wp_bind, persistIf, if_neg (by decide), wp_pure, wp_bind]
  apply wp_mono dispatchTransaction_sends
  · intro _ w₁ hsent
    exact wp_mono (within_iff_wp.mp hreport w₁) (fun _ _ hlog => hlog.dispatched hsent) fun _ _ hlog _ =>
      hlog.dispatched hsent
  · intro _ w₁ hown hstep
    rw [hown] at hstep
    cases hstep

theorem startStep_started (next : Steps) :
    wp (startStep config env next) (fun _ => Started next w) (fun _ => Started next w) w := by
  have hlog : Within (fun w w' => Extends (next = .acceptPegin) w.log w'.log)
      (startStep config env next) := by
    refine within_startStep admits_extends fun haccept proof w => ?_
    obtain ⟨new, hnew, -⟩ := (onlyCalls_acceptPegin proof w).log
    exact ⟨new, hnew, fun _ _ _ => haccept⟩
  have hsettles := wp_and (startStep_settles next) (within_iff_wp.mp hlog w)
  by_cases hnext : next = .dispatchAcceptPeginTransactionAllConvergeCheckpoint
  · subst hnext
    apply wp_mono (wp_and hsettles startStep_dispatches)
    · exact fun _ _ h => ⟨h.1.1.1, h.1.2, fun _ _ => h.2⟩
    · exact fun _ _ h => ⟨h.1.1, h.1.2, fun _ => h.2⟩
  · apply wp_mono hsettles
    · exact fun _ _ h => ⟨h.1.1, h.2, fun hcontra => absurd hcontra hnext⟩
    · exact fun _ _ h => ⟨h.1, h.2, fun hcontra => absurd hcontra hnext⟩

theorem Inv.stored {data : StepData} {next : Option Steps} (h : Inv libs w)
    (hstored : Stored libs w.own data w'.own next)
    (hdata : data ≠ .acceptPeginTransactionDispatched) (hlog : Extends False w.log w'.log) :
    Inv libs w' ∧ w'.own.state.ctx.step = w.own.state.ctx.step
      ∧ ∀ n, next = some n → SoundAt libs w'.log n w'.own.state.ctx
        ∧ w.own.state.ctx.step.Forward n := by
  obtain ⟨hsound, hnext⟩ := hstored.sound hdata h.memory
  obtain ⟨-, -, hstep, hsaved⟩ := hstored.frame
  have hmemory : Sound libs w'.log w'.own.state.ctx := by
    rw [Sound, hstep]
    exact hsound.mono hlog.dispatched
  refine ⟨⟨hmemory, fun s hs => ?_, ?_⟩, hstep, fun n hn => ?_⟩
  · rcases hsaved with hsaved | ⟨hsaved, -⟩
    · rw [hstep]
      exact (h.record s (hsaved ▸ hs)).mono hlog.dispatched (Nat.le_refl _)
    · rw [hsaved] at hs
      cases hs
      exact ⟨hmemory, Nat.le_refl _⟩
  · exact hlog.acceptsAfterDispatch False.elim h.accepts
  · exact ⟨(hnext n hn).1.mono hlog.dispatched, (hnext n hn).2⟩

/-- Where a transition can end: the invariant holds, and the step went forward. -/
def Moves (libs : Libs) (before : Steps) (w : World Flow) : Prop :=
  Inv libs w ∧ before.Forward w.own.state.ctx.step

theorem Inv.started {next : Steps} (h : Inv libs w)
    (hready : SoundAt libs w.log next w.own.state.ctx)
    (hforward : w.own.state.ctx.step.Forward next) (hstarted : Started next w w') :
    Moves libs w.own.state.ctx.step w' := by
  obtain ⟨hentered, hlog, hsent⟩ := hstarted
  have hforward' := hforward.chain hentered.step
  have hmemory : Sound libs w'.log w'.own.state.ctx := by
    obtain ⟨output, role, hctx⟩ := hentered.ctx
    have hsound := (hready.mono hlog.dispatched).chain hentered.step hsent
    rw [Sound]
    generalize w'.own.state.ctx.step = step at hctx hsound ⊢
    rw [hctx]
    exact { hsound with }
  refine ⟨⟨hmemory, fun s hs => ?_, hlog.acceptsAfterDispatch ?_ h.accepts⟩, hforward'⟩
  · rcases hentered.saved with hsaved | hsaved
    · exact (h.record s (hsaved ▸ hs)).mono hlog.dispatched hforward'.1
    · rw [hsaved] at hs
      cases hs
      exact ⟨hmemory, Nat.le_refl _⟩
  · rintro rfl
    exact hready.dispatched (by decide) (by decide)

theorem completeStep_moves {data : StepData} (hdata : data ≠ .acceptPeginTransactionDispatched)
    (h : Inv config.libs w) :
    wp (completeStep config env data) (fun _ => Moves config.libs w.own.state.ctx.step)
      (fun _ => Moves config.libs w.own.state.ctx.step) w := by
  simp only [completeStep, completeStepWith, wp_bind, wp_getCtx]
  have hlog : Within (fun w w' => Extends False w.log w'.log)
      (processStepData config env w.own.state.ctx.step data) :=
    within_processStepData admits_extends extends_requestPegin _ data
  apply wp_mono (wp_and (processStepData_stores data) (within_iff_wp.mp hlog w))
  · rintro next w₁ ⟨hstored, hlog⟩
    obtain ⟨hinv, hstep, hnext⟩ := h.stored hstored hdata hlog
    obtain ⟨hready, hforward⟩ := hnext next rfl
    rw [← hstep] at hforward ⊢
    exact wp_always (startStep_started next) fun _ => hinv.started hready hforward
  · rintro _ w₁ ⟨hstored, hlog⟩
    obtain ⟨hinv, hstep, -⟩ := h.stored hstored hdata hlog
    exact ⟨hinv, hstep ▸ .refl _⟩

theorem markFailed_moves (h : Inv config.libs w) :
    wp (markFailed config env) (fun _ => Moves config.libs w.own.state.ctx.step)
      (fun _ => Moves config.libs w.own.state.ctx.step) w := by
  have hforward : w.own.state.ctx.step.Forward .failed := by
    cases w.own.state.ctx.step <;> decide
  exact wp_always (startStep_started .failed) fun _ =>
    h.started (soundAt_of_idle _ _ _ (.inr rfl)) hforward

end Steps

/-! ## Runs -/

inductive FlowInput where
  | completeStep (data : StepData)
  | markFailed
  /-- The node starts again, from the record of the flow. -/
  | restart
deriving DecidableEq

/-- The dispatch is reported by the flow itself, not from outside. -/
def FlowInput.Genuine (input : FlowInput) : Prop :=
  input ≠ .completeStep .acceptPeginTransactionDispatched

instance (input : FlowInput) : Decidable input.Genuine := inferInstanceAs (Decidable (_ ≠ _))

def restart (w : World Flow) : World Flow :=
  match w.own.saved with
  | some state => { w with own := { w.own with state := state } }
  | none => w

def turn (config : Config) (w : World Flow) : Env × FlowInput → World Flow
  | (env, .completeStep data) => after (completeStep config env data) w
  | (env, .markFailed) => after (markFailed config env) w
  | (_, .restart) => restart w

def Flow.start (config : Config) (btcTxId : Txid) : World Flow where
  own := {
    state := State.new btcTxId (flowIdFromRequestPeginTxid config.libs btcTxId)
    saved := none }
  log := []

section Runs

variable {config : Config}

theorem inv_start (btcTxId : Txid) : Inv config.libs (Flow.start config btcTxId) where
  memory := soundAt_of_idle _ _ _ (.inl rfl)
  record := fun _ hs => nomatch hs
  accepts := trivial

theorem Inv.restart {libs : Libs} {w : World Flow} (h : Inv libs w) : Inv libs (restart w) := by
  unfold Pegin.restart
  split
  · next state hsaved =>
    refine ⟨(h.record state hsaved).sound, fun s hs => ?_, h.accepts⟩
    have heq : state = s := Option.some.inj (hsaved.symm.trans hs)
    exact ⟨(h.record s hs).sound, Nat.le_of_eq (by rw [heq])⟩
  · exact h

/-- **One turn.** -/
theorem turn_moves {w : World Flow} {env : Env} {input : FlowInput} (hgenuine : input.Genuine)
    (h : Inv config.libs w) : Inv config.libs (turn config w (env, input)) ∧
      (input ≠ .restart →
        w.own.state.ctx.step.Forward (turn config w (env, input)).own.state.ctx.step) := by
  cases input with
  | completeStep data =>
    have hdata : data ≠ .acceptPeginTransactionDispatched := fun hcontra =>
      hgenuine (congrArg FlowInput.completeStep hcontra)
    have hmoves : Moves config.libs w.own.state.ctx.step
        (turn config w (env, .completeStep data)) := after_of_wp (completeStep_moves hdata h)
    exact ⟨hmoves.1, fun _ => hmoves.2⟩
  | markFailed =>
    have hmoves : Moves config.libs w.own.state.ctx.step (turn config w (env, .markFailed)) :=
      after_of_wp (markFailed_moves h)
    exact ⟨hmoves.1, fun _ => hmoves.2⟩
  | restart => exact ⟨h.restart, fun hcontra => absurd rfl hcontra⟩

def samplePeginConfig : Config where
  libs := Libs.sample
  myAddress := 1
  verifier := .dummy

/-- A transaction with one output; `id` is its id in `Libs.sample`. -/
def sampleTx (id : UInt32) : Transaction where
  version := 2
  lockTime := id
  input := []
  output := [⟨100000, []⟩]

def sampleProof (blockHash : String) (id : UInt32) : BtcTxSPVProof where
  blockHash := blockHash
  tx := sampleTx id
  merkleBranchPath := "00"
  merkleBranchHashes := ⟨[], RVec.nil_bound⟩

def samplePeginRequested (committeeId : CommitteeId) (requestTxid acceptTxid : U256) :
    PeginRequested where
  committeeId := committeeId
  requestPeginTxid := TxIdParser.reverseBytes requestTxid
  acceptPeginTxid := TxIdParser.reverseBytes acceptTxid
  streamPosition := ⟨0, 0, 0⟩
  requestPeginInfo := ⟨0, 0⟩
  acceptPeginSignatureMessage := 0

def samplePeginAccepted (acceptTxid : U256) : PeginAccepted where
  acceptPeginTxid := TxIdParser.reverseBytes acceptTxid
  requestPeginTxid := 0
  streamPosition := ⟨0, 0, 0⟩
  rskDestinationAddress := 0
  rbtcAmount := 0

def sampleAcceptedMessage (acceptTxid : U256) : PeginAcceptedMessage :=
  ⟨0, ⟨acceptTxid⟩, [], ⟨[]⟩, ⟨[]⟩⟩

/-- The data of a prover's pegin until the signatures are there. -/
def signedData : List StepData :=
  [.peginTransactionFound, .requestPeginSpvProof (sampleProof "aa" 1),
    .peginRequested (samplePeginRequested 7 1 2), .commInfo ⟨⟨.v4 0x7f000001, 8080⟩, "02"⟩,
    .bitvmxPeginAccepted (sampleAcceptedMessage 2), .transactionInfo "OPERATOR_TAKE_TX_0" ⟨3⟩,
    .transactionInfo "OPERATOR_WON_TX_0" ⟨4⟩, .allOperatorTakeTxidsAdded,
    .acceptPeginSignaturesReady]

def acceptedData : List StepData :=
  signedData ++ [.acceptPeginTransactionConfirmed ⟨⟨2⟩, 6⟩, .acceptPeginSpvProof (sampleProof "bb" 2),
    .peginAccepted (samplePeginAccepted 2)]

def inputsIn (env : Env) (data : List StepData) : List (Env × FlowInput) :=
  data.map fun d => (env, .completeStep d)

/-- The whole pegin, with a restart before its last event. -/
def restartedRun : List (Env × FlowInput) :=
  inputsIn (.failing fun _ _ => false) acceptedData.dropLast
    ++ [(.failing fun _ _ => false, .restart)]
    ++ inputsIn (.failing fun _ _ => false) [.peginAccepted (samplePeginAccepted 2)]

/-- The state is stored no more after the first four calls. -/
def storeLost : Env := .failing fun log c => 4 ≤ log.length && match c with
  | .saveFlow _ => true
  | _ => false

def dispatchRefused : Env := .failing fun _ c => match c with
  | .send (.dispatchTransactionName _ _) => true
  | _ => false

end Runs

end UnionBridge.Pegin
