import UnionBridge.Pegin.Soundness

/-!
# A finished pegin is announced

A pegin ends with two effects on the outside: `BitVMX` gets the variable `PeginAccepted`, and the
completion marker is written. The flow is set to `Done` before them, so when one of them fails it is
`Done` without having been announced, and the next call drops it like any terminal flow. Where they
do not fail, every flow is announced before it is dropped.
-/

namespace UnionBridge.Pegin

open Chain Contracts Bitvmx Coordinator Effect

/-- The acceptance of the flow was sent to `BitVMX`, and its completion marker was written. -/
def Announced (log : Contracts.Log) (flow : State) : Prop :=
  ∃ event pid, flow.ctx.peginAccepted = some event ∧ flow.ctx.bitvmxProtocolId = some pid
    ∧ (⟨.send (.setVar pid.value peginAcceptedVarName (.peginAccepted event)), .ok ()⟩ : LogEntry)
      ∈ log
    ∧ (⟨.signalDone .pegin pid.value, .ok ()⟩ : LogEntry) ∈ log

/-- The broker takes the acceptances, and the completion markers can be written. -/
structure Reports (env : Env) : Prop where
  sent : ∀ log pid event,
    env.answer log (.send (.setVar pid peginAcceptedVarName (.peginAccepted event))) = .ok ()
  marked : ∀ log pid, env.answer log (.signalDone .pegin pid) = .ok ()

theorem Announced.mono {log log' : Contracts.Log} {flow : State} (h : Announced log flow)
    (hlog : log <:+ log') : Announced log' flow := by
  obtain ⟨event, pid, hevent, hpid, hsent, hmarked⟩ := h
  exact ⟨event, pid, hevent, hpid, hlog.subset hsent, hlog.subset hmarked⟩

/-! ## One flow -/

section Flow

variable {config : Config} {env : Env} {past : Contracts.Log} {w : World Flow}

theorem announced_persistIf {c : Prop} [Decidable c] (h : Announced w.log w.own.state) :
    wp (persistIf c env) (fun _ w' => Announced w'.log w'.own.state)
      (fun _ w' => Announced w'.log w'.own.state) w := by
  apply wp_mono (wp_and wp_persistIf (grows_wp (within_persistIf admits_grows c) w))
  · rintro _ w' ⟨hown, hlog⟩
    have hstate : w'.own.state = w.own.state := by
      rcases hown with h | h <;> rw [h]
    rw [hstate]
    exact h.mono hlog
  · rintro _ w' ⟨hown, hlog⟩
    rw [hown]
    exact h.mono hlog

/-- Entering `Done` announces the pegin, also when the state cannot be stored afterwards. -/
theorem startStep_done_announces (henv : Reports env) {event : PeginAccepted}
    {pid : BitVmxProtocolId} (hevent : w.own.state.ctx.peginAccepted = some event)
    (hpid : w.own.state.ctx.bitvmxProtocolId = some pid) :
    wp (startStep config env .done) (fun _ w' => Announced w'.log w'.own.state)
      (fun _ w' => Announced w'.log w'.own.state) w := by
  have hfirst : persistIf (Steps.done = .acceptPegin) env = pure () := rfl
  simp only [startStep, startStepWith, entryAction, sendPeginAcceptedToBitvmx,
    writeCompletionMarker, bitvmxProtocolId, sendBitvmxMsg, wp_bind, wp_modifyCtx, hfirst, wp_pure,
    wp_getCtx, wp_perform]
  simp only [Flow.update, hevent, hpid, okOr, wp_pure, henv.sent, henv.marked, orText, id]
  exact announced_persistIf ⟨event, pid, rfl, rfl, List.mem_cons_of_mem _ List.mem_cons_self,
    List.mem_cons_self⟩

variable {data : StepData} {next : Steps} {libs : Libs}

theorem Stored.of_done {f f₁ : Flow} {next : Option Steps}
    (h : Stored libs f data f₁ next) (hdone : f.state.ctx.step = .done) : f₁ = f ∧ next = none := by
  cases h with
  | rejected => exact ⟨rfl, rfl⟩
  | peginAccepted event hff =>
    rw [hdone] at hff
    cases hff
  | proof proof next hstep =>
    rw [hdone] at hstep
    cases hstep
  | _ =>
    rename_i hstep
    rw [hdone] at hstep
    cases hstep

theorem Stored.to_done {f f₁ : Flow}
    (h : Stored libs f data f₁ (some .done)) : f₁.state.ctx.peginAccepted.isSome = true := by
  generalize hnext : some Steps.done = next at h
  cases h with
  | peginAccepted event => rfl
  | accepted message hstep =>
    cases hrole : f.state.ctx.opRole with
    | none => rw [hrole] at hnext; cases hnext
    | some role =>
      rw [hrole, afterPeginAccepted, Option.some.injEq] at hnext
      split at hnext <;> cases hnext
  | proof proof next hstep hproof =>
    subst hnext
    rcases hproof with hcontra | hcontra <;> cases hcontra
  | _ => cases hnext

theorem Entered.not_done {f f' : Flow} (h : Entered next f f') (hnext : next ≠ .done) :
    f'.state.ctx.step ≠ .done := by
  intro hdone
  have hmem := h.step
  rw [hdone] at hmem
  cases next
  case done => exact hnext rfl
  all_goals revert hmem; decide

/-- A flow that is `Done` was announced, in this call or before it. -/
def DoneAnnounced (past log : Contracts.Log) (flow : State) : Prop :=
  flow.ctx.step = .done → Announced (log ++ past) flow

theorem DoneAnnounced.mono {log log' : Contracts.Log} {flow : State}
    (h : DoneAnnounced past log flow) (hlog : log <:+ log') : DoneAnnounced past log' flow := by
  intro hdone
  obtain ⟨new, rfl⟩ := hlog
  exact (h hdone).mono ⟨new, by rw [List.append_assoc]⟩

theorem Announced.doneAnnounced {log : Contracts.Log} {flow : State} (h : Announced log flow) :
    DoneAnnounced past log flow := by
  obtain ⟨event, pid, hevent, hpid, hsent, hmarked⟩ := h
  exact fun _ => ⟨event, pid, hevent, hpid, List.mem_append_left _ hsent,
    List.mem_append_left _ hmarked⟩

/-- The flow and its record. -/
def BothAnnounced (past : Contracts.Log) (w : World Flow) : Prop :=
  DoneAnnounced past w.log w.own.state
    ∧ ∀ s, w.own.saved = some s → DoneAnnounced past w.log s

/-- After the data were stored: nothing has come to be `Done`. -/
theorem Stored.bothAnnounced {next : Option Steps}
    {w' : World Flow} (h : Stored libs w.own data w'.own next) (hlog : w.log <:+ w'.log)
    (hw : BothAnnounced past w) : BothAnnounced past w' := by
  have hmemory : DoneAnnounced past w'.log w'.own.state := by
    intro hdone
    have hbefore : w.own.state.ctx.step = .done := by rw [← h.frame.2.2.1, hdone]
    rw [(h.of_done hbefore).1] at hdone ⊢
    exact hw.1.mono hlog hdone
  refine ⟨hmemory, fun s hs => ?_⟩
  rcases h.frame.2.2.2 with hsaved | ⟨hsaved, -⟩
  · exact (hw.2 s (hsaved ▸ hs)).mono hlog
  · rw [hsaved] at hs
    cases hs
    exact hmemory

theorem Entered.bothAnnounced {w' : World Flow} (h : Entered next w.own w'.own)
    (hlog : w.log <:+ w'.log) (hw : BothAnnounced past w)
    (hmemory : DoneAnnounced past w'.log w'.own.state) : BothAnnounced past w' := by
  refine ⟨hmemory, fun s hs => ?_⟩
  rcases h.saved with hsaved | hsaved
  · exact (hw.2 s (hsaved ▸ hs)).mono hlog
  · rw [hsaved] at hs
    cases hs
    exact hmemory

theorem bothAnnounced_startStep (hnext : next ≠ .done) (hw : BothAnnounced past w) :
    wp (startStep config env next) (fun _ => BothAnnounced past) (fun _ => BothAnnounced past) w := by
  have hentered : ∀ w' : World Flow, Entered next w.own w'.own → w.log <:+ w'.log →
      BothAnnounced past w' := fun w' h hlog =>
    h.bothAnnounced hlog hw fun hdone => absurd hdone (h.not_done hnext)
  exact wp_mono (wp_and (startStep_settles next) (grows_wp (within_startStep admits_grows fun _ => within_acceptPegin admitsAll_grows) w))
    (fun _ w' h => hentered w' h.1.1 h.2) fun _ w' h => hentered w' h.1 h.2

theorem bothAnnounced_completeStep (henv : Reports env) (data : StepData)
    (hformed : FormedAt w.own.state.ctx.step w.own.state.ctx) (hw : BothAnnounced past w) :
    wp (completeStep config env data) (fun _ => BothAnnounced past) (fun _ => BothAnnounced past)
      w := by
  simp only [completeStep, completeStepWith, wp_bind, wp_getCtx]
  apply wp_mono (wp_and (processStepData_stores data) (grows_wp (within_processStepData admits_grows (within_requestPegin admitsAll_grows) _ data) w))
  · rintro next w₁ ⟨hstored, hlog⟩
    have hw₁ : BothAnnounced past w₁ := hstored.bothAnnounced hlog hw
    by_cases hnext : next = .done
    · subst hnext
      -- the acceptance is in the context, and so is the protocol id
      have hdata : FormedAt .done w₁.own.state.ctx := (hstored.formedAt hformed).2 _ rfl
      obtain ⟨event, hevent⟩ := Option.isSome_iff_exists.mp hstored.to_done
      obtain ⟨pid, hpid⟩ := Option.isSome_iff_exists.mp
        (hdata.paired.trans (hdata.requested (by decide)))
      have hentered : ∀ w' : World Flow, Entered .done w₁.own w'.own → w₁.log <:+ w'.log →
          Announced w'.log w'.own.state → BothAnnounced past w' := fun w' h hlog' hannounced =>
        h.bothAnnounced hlog' hw₁ hannounced.doneAnnounced
      exact wp_mono (wp_and (startStep_settles .done) (wp_and (grows_wp (within_startStep admits_grows (by rintro ⟨⟩)) w₁)
          (startStep_done_announces henv hevent hpid)))
        (fun _ w' h => hentered w' h.1.1 h.2.1 h.2.2) fun _ w' h => hentered w' h.1 h.2.1 h.2.2
    · exact bothAnnounced_startStep hnext hw₁
  · rintro _ w₁ ⟨hstored, hlog⟩
    exact Stored.bothAnnounced hstored hlog hw

end Flow

/-! ## The processor -/

section Processor

variable {config : ProcessorConfig} {env : CallEnv}

def FormedAndAnnounced (libs : Libs) (id : FlowId) (log : Contracts.Log) (flow : State) : Prop :=
  flow.Formed libs id ∧ (flow.ctx.step = .done → Announced log flow)

theorem flowProperty_announced (henv : Reports env.toEnv) (past : Contracts.Log) :
    FlowProperty config env (fun _ => True)
      fun id log flow => FormedAndAnnounced config.libs id (log ++ past) flow where
  calls id log log' flow hlog h := by
    have hdone : DoneAnnounced past log flow := h.2
    exact ⟨h.1, hdone.mono hlog⟩
  keyed h := h.1.flowId
  new log txid := ⟨.new _ _, fun hcontra => nomatch hcontra⟩
  found := trivial
  completed {id data} _ := by
    intro w hw
    have hformed : Flow.Formed config.libs _ w.own := ⟨hw.memory.1, fun s hs => (hw.record s hs).1⟩
    have hannounced : BothAnnounced past w := ⟨hw.memory.2, fun s hs => (hw.record s hs).2⟩
    apply wp_mono (wp_and (completeStep_succeeds data)
      (bothAnnounced_completeStep henv data hw.memory.1.data hannounced))
    · rintro _ w' ⟨hsucceeded, hannounced'⟩
      have hformed' := hsucceeded.completed.formed hformed
      exact ⟨⟨hformed'.memory, hannounced'.1⟩, fun s hs => ⟨hformed'.record s hs, hannounced'.2 s hs⟩⟩
    · rintro _ w' ⟨hcompleted, hannounced'⟩
      have hformed' := hcompleted.formed hformed
      exact ⟨⟨hformed'.memory, hannounced'.1⟩, fun s hs => ⟨hformed'.record s hs, hannounced'.2 s hs⟩⟩
  failed := by
    intro id w hw
    have hformed : Flow.Formed config.libs id w.own := ⟨hw.memory.1, fun s hs => (hw.record s hs).1⟩
    have hannounced : BothAnnounced past w := ⟨hw.memory.2, fun s hs => (hw.record s hs).2⟩
    have hend : ∀ w' : World Flow, Entered .failed w.own w'.own ∧ BothAnnounced past w' →
        HasProperty (fun id log flow => FormedAndAnnounced config.libs id (log ++ past) flow) id w' := by
      rintro w' ⟨hentered, hannounced'⟩
      have hformed' := hentered.failed_formed hformed
      exact ⟨⟨hformed'.memory, hannounced'.1⟩, fun s hs => ⟨hformed'.record s hs, hannounced'.2 s hs⟩⟩
    exact wp_mono (wp_and markFailed_enters (bothAnnounced_startStep (by decide) hannounced))
      (fun _ => hend) fun _ => hend

end Processor

theorem reports_obliging : Reports obliging.toEnv := ⟨fun _ _ _ => rfl, fun _ _ => rfl⟩

def callsIn (env : CallEnv) (inputs : List Input) : List (CallEnv × Input) :=
  inputs.map fun input => (env, input)

def sampleAcceptance : Input := .rskEvent (.peginAccepted (logIn 2 5 (samplePeginAccepted 2)))

/-- The process when the transaction of the pegin has been dispatched. -/
def dispatchedSystem : System Core :=
  Machine.run (step (sampleProcessorConfig 0)) start (callsIn obliging dispatchedInputs)

/-- An acceptance that the broker took. -/
def isAcceptanceSent : LogEntry → Bool
  | ⟨.send (.setVar _ name _), .ok _⟩ => name = peginAcceptedVarName
  | _ => false

theorem Announced.any_sent {log : Contracts.Log} {flow : State} (h : Announced log flow) :
    log.any isAcceptanceSent = true := by
  obtain ⟨event, pid, -, -, hsent, -⟩ := h
  exact List.any_eq_true.mpr ⟨_, hsent, rfl⟩

/-- The broker does not take the acceptance of a pegin. -/
def acceptanceRefused : CallEnv := .plain (.failing fun _ c => match c with
  | .send (.setVar _ name _) => name = peginAcceptedVarName
  | _ => false)

end UnionBridge.Pegin
