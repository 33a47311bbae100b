import UnionBridge.Pegin.FlowInvariant

/-!
# The step in memory and the step in the store

`start_step` assigns the step before it runs the entry action, and stores the state after the
action. When the action or the store fails in between, the flow stays at the new step in memory and
at the old one in the store: nothing takes the assignment back. Two places are different. A flow
whose data are refused has not moved, and `AcceptPegin` is stored before its action as well.
-/

namespace UnionBridge.Pegin

open Contracts Bitvmx Effect

def Flow.Persisted (f : Flow) : Prop := f.saved.map (·.ctx.step) = some f.state.ctx.step

instance (f : Flow) : Decidable f.Persisted := inferInstanceAs (Decidable (_ = _))

/-! ## Entering a step -/

structure Still (w w' : World Flow) : Prop where
  step : w'.own.state.ctx.step = w.own.state.ctx.step
  saved : w'.own.saved = w.own.saved

instance : IsPreorder (World Flow) Still where
  refl _ := ⟨rfl, rfl⟩
  trans _ _ _ h h' := ⟨h'.step.trans h.step, h'.saved.trans h.saved⟩

section Entering

variable {config : Config} {env : Env} {w : World Flow} {next : Steps}
  {complete : StepData → FlowM Unit}

theorem still_of_onlyCalls {α : Type} {allowed : Call → Prop} {m : FlowM α}
    (h : OnlyCalls allowed m) : Within Still m :=
  fun w => ⟨by rw [(h w).own], by rw [(h w).own]⟩

theorem still_entryAction (hadd : next ≠ .addOperatorTakeHash)
    (hdispatch : next ≠ .dispatchAcceptPeginTransactionAllConvergeCheckpoint) :
    Within Still (entryAction config env complete next) := by
  have hctx : OnlyCalls Call.Plain getCtx := onlyCalls_getCtx
  cases next
  case addOperatorTakeHash => exact absurd rfl hadd
  case dispatchAcceptPeginTransactionAllConvergeCheckpoint => exact absurd rfl hdispatch
  case preparePeginSetup =>
    exact within_preparePeginSetup still_of_onlyCalls fun _ _ _ => ⟨rfl, rfl⟩
  case acceptPegin =>
    exact .bind (still_of_onlyCalls hctx) fun _ => .okOr fun _ =>
      still_of_onlyCalls (onlyCalls_acceptPegin _)
  all_goals exact still_of_onlyCalls (onlyCalls_entryAction (by decide))

theorem startStepWith_saves (hnext : next ≠ .acceptPegin)
    (hentry : Within Still (entryAction config env complete next)) :
    wp (startStepWith config env complete next)
      (fun _ w' => w'.own.Persisted ∧ w'.own.state.ctx.step = next)
      (fun _ w' => w'.own.saved = w.own.saved) w := by
  simp only [startStepWith, wp_bind, wp_modifyCtx]
  rw [persistIf, if_neg hnext, wp_pure]
  apply wp_mono (within_iff_wp.mp hentry _)
  · intro _ w₁ h₁
    have hstep : w₁.own.state.ctx.step = next := h₁.step
    rw [wp_getCtx, persistIf, if_pos hstep]
    apply wp_mono wp_persistState
    · intro _ w₂ h₂
      rw [h₂]
      exact ⟨rfl, hstep⟩
    · intro _ w₂ h₂
      rw [h₂]
      exact h₁.saved
  · exact fun _ _ h₁ => h₁.saved

/-- The same for a step whose action completes it: the state is stored at the step it leads to. -/
theorem startStep_saves_of_report {m : FlowM Unit} {data : StepData} {last : Steps}
    (hentry : entryAction config env (completeStepInner config env) next
      = m >>= fun _ => completeStepInner config env data)
    (hm : Within Still m) (hdata : processStepData config env next data = pure last)
    (hlast : Within Still (entryAction config env
      (fun _ => throw (.panic "a second step completed itself")) last))
    (hnext : next ≠ .acceptPegin) (haccept : last ≠ .acceptPegin) (hne : last ≠ next) :
    wp (startStep config env next) (fun _ w' => w'.own.Persisted)
      (fun _ w' => w'.own.saved = w.own.saved) w := by
  simp only [startStep, startStepWith, hentry, wp_bind, wp_modifyCtx]
  rw [persistIf, if_neg hnext, wp_pure]
  apply wp_mono (within_iff_wp.mp hm _)
  · intro _ w₁ h₁
    have hstep : w₁.own.state.ctx.step = next := h₁.step
    simp only [completeStepInner, completeStepWith, wp_bind, wp_getCtx]
    rw [hstep, hdata, wp_pure]
    apply wp_mono (startStepWith_saves haccept hlast)
    · intro _ w₂ h₂
      rw [persistIf, if_neg (by rw [h₂.2]; exact hne)]
      exact h₂.1
    · exact fun _ _ h₂ => h₂.trans h₁.saved
  · exact fun _ _ h₁ => h₁.saved

theorem startStep_saves (hnext : next ≠ .acceptPegin) :
    wp (startStep config env next) (fun _ w' => w'.own.Persisted)
      (fun _ w' => w'.own.saved = w.own.saved) w := by
  by_cases hadd : next = .addOperatorTakeHash
  · subst hadd
    exact startStep_saves_of_report rfl (still_of_onlyCalls onlyCalls_addOperatorTakeHash) rfl
      (still_entryAction (by decide) (by decide)) hnext (by decide) (by decide)
  by_cases hdispatch : next = .dispatchAcceptPeginTransactionAllConvergeCheckpoint
  · subst hdispatch
    exact startStep_saves_of_report rfl (still_of_onlyCalls onlyCalls_dispatchTransaction) rfl
      (still_entryAction (by decide) (by decide)) hnext (by decide) (by decide)
  · exact wp_imp (startStepWith_saves hnext (still_entryAction hadd hdispatch)) fun _ _ h => h.1

/-- `AcceptPegin` is stored first: when that succeeds, nothing that fails later matters. -/
theorem startStep_acceptPegin_saves
    (h : fails (persistState env) ⟨w.own.at .acceptPegin, w.log⟩ = false) :
    wp (startStep config env .acceptPegin) (fun _ w' => w'.own.Persisted)
      (fun _ w' => w'.own.Persisted) w := by
  simp only [startStep, startStepWith, wp_bind, wp_modifyCtx]
  rw [persistIf, if_pos rfl]
  apply wp_of_not_fails h
  apply wp_imp wp_persistState
  intro _ w₁ h₁
  have hstored : ∀ w₂, Still w₁ w₂ → w₂.own.Persisted := by
    intro w₂ h₂
    rw [Flow.Persisted, h₂.saved, h₂.step, h₁]
    rfl
  apply wp_mono (within_iff_wp.mp (still_entryAction (by decide) (by decide)) w₁) _ fun _ => hstored
  intro _ w₂ h₂
  rw [wp_getCtx]
  apply wp_mono wp_persistIf
  · rintro _ w₃ (h₃ | h₃)
    · exact h₃ ▸ hstored w₂ h₂
    · rw [h₃]
      rfl
  · exact fun _ _ h₃ => h₃ ▸ hstored w₂ h₂

theorem startStep_acceptPegin_unsaved
    (h : fails (persistState env) ⟨w.own.at .acceptPegin, w.log⟩ = true) :
    wp (startStep config env .acceptPegin) (fun _ _ => False)
      (fun _ w' => w'.own = w.own.at .acceptPegin) w := by
  simp only [startStep, startStepWith, wp_bind, wp_modifyCtx]
  rw [persistIf, if_pos rfl]
  exact wp_of_fails h wp_persistState

end Entering

/-! ## Completing a step -/

theorem Stored.leaves {libs : Libs} {f f₁ : Flow} {data : StepData} {next : Steps}
    (h : Stored libs f data f₁ (some next)) (hnext : next ≠ .acceptPegin) :
    f.state.ctx.step ∉ next.chain := by
  generalize hsome : some next = o at h
  cases h with
  | rejected => cases hsome
  | unsaved => cases hsome
  | proof _ _ hstep hnext' => 
    obtain rfl : next = .waitPeginRequested := by
      rcases hnext' with rfl | rfl <;> cases hsome
      rfl
    rw [hstep]
    decide
  | accepted message hstep =>
    rw [hstep]
    cases hrole : f.state.ctx.opRole with
    | none => rw [hrole] at hsome; cases hsome
    | some role =>
      rw [hrole] at hsome
      cases hsome
      split <;> decide
  | acceptProof => cases hsome; exact absurd rfl hnext
  | retriedAccept => cases hsome; exact absurd rfl hnext
  | peginAccepted event hff =>
    cases hsome
    have := (Steps.fastForward_facts _ hff).2.2.2
    exact fun hmem => this (List.mem_singleton.mp hmem)
  | _ =>
    rename_i hstep
    cases hsome
    rw [hstep]
    decide

/-- The data are refused; or all that is asked for on entering the next step is answered; or that
step is `AcceptPegin`, and it was stored, now or before. -/
def StepStored (config : Config) (env : Env) (data : StepData) (w : World Flow) : Prop :=
  ∀ next w₁, processStepData config env w.own.state.ctx.step data w = .ok next w₁ →
    fails (startStep config env next) w₁ = false
      ∨ next = .acceptPegin ∧ (w.own.state.ctx.step = .acceptPegin
        ∨ fails (persistState env) ⟨w₁.own.at .acceptPegin, w₁.log⟩ = false)

/-- The step in memory is the one in the store, or the flow is new and has not been stored. -/
def Flow.UpToDate (f : Flow) (data : StepData) : Prop :=
  f.Persisted ∨ f.saved = none ∧ f.state.ctx.step = .peginTransactionFound
    ∧ data = .peginTransactionFound

section Completing

variable {config : Config} {env : Env} {w w₁ : World Flow} {data : StepData} {next : Steps}

/-- Storing the data leaves a record of the step the flow is at, or none for a new flow. -/
theorem Flow.UpToDate.stored {libs : Libs} {f f₁ : Flow} {o : Option Steps}
    (hbefore : f.UpToDate data) (h : Stored libs f data f₁ o) :
    f₁.saved.map (·.ctx.step) = some f.state.ctx.step
      ∨ f₁.saved = none ∧ f.state.ctx.step = .peginTransactionFound
        ∧ data = .peginTransactionFound := by
  obtain ⟨-, -, hstep, hsaved⟩ := h.frame
  rcases hsaved with hsaved | ⟨hsaved, -⟩
  · rw [hsaved]
    exact hbefore
  · rw [hsaved, Option.map_some, hstep]
    exact .inl rfl

theorem stored_of_ok (hprocess : processStepData config env w.own.state.ctx.step data w
    = .ok next w₁) : Stored config.libs w.own data w₁.own (some next) := by
  have hstored := @processStepData_stores config env w data
  unfold wp at hstored
  rw [hprocess] at hstored
  exact hstored

theorem persisted_of_refused {e : FlowError} (hbefore : w.own.UpToDate data)
    (hprocess : processStepData config env w.own.state.ctx.step data w = .error e w₁) :
    w₁.own.Persisted := by
  have hstored := @processStepData_stores config env w data
  unfold wp at hstored
  rw [hprocess] at hstored
  have hstored : Stored config.libs w.own data w₁.own none := hstored
  rw [Flow.Persisted, hstored.frame.2.2.1]
  rcases hbefore.stored hstored with h | ⟨-, hstep, rfl⟩
  · exact h
  · rw [hstep] at hprocess
    cases hprocess

theorem persisted_acceptPegin_iff (hbefore : w.own.UpToDate data)
    (hstored : Stored config.libs w.own data w₁.own (some .acceptPegin)) :
    (w₁.own.at .acceptPegin).Persisted ↔ w.own.state.ctx.step = .acceptPegin := by
  have hrecord : (w₁.own.at .acceptPegin).Persisted
      ↔ w₁.own.saved.map (·.ctx.step) = some .acceptPegin := Iff.rfl
  rw [hrecord]
  rcases hbefore.stored hstored with h | ⟨hnone, hstep, -⟩
  · rw [h, Option.some.injEq]
  · rw [hnone, hstep]
    exact iff_of_false (by rintro ⟨⟩) (by rintro ⟨⟩)

/-- A step other than `AcceptPegin` that could not be entered is not the one of the record. -/
theorem not_persisted_of_fails (hbefore : w.own.UpToDate data)
    (hstored : Stored config.libs w.own data w₁.own (some next)) (hnext : next ≠ .acceptPegin)
    (hfails : fails (startStep config env next) w₁ = true) :
    ¬ (after (startStep config env next) w₁).own.Persisted := by
  have hsaved : (after (startStep config env next) w₁).own.saved = w₁.own.saved :=
    after_of_wp (wp_of_fails hfails (startStep_saves hnext))
  have hentered : Enters next w₁.own (after (startStep config env next) w₁) :=
    after_of_wp (wp_imp (startStep_settles next) fun _ _ h => h.1)
  intro hpersisted
  rw [Flow.Persisted, hsaved] at hpersisted
  rcases hbefore.stored hstored with h | ⟨hnone, -⟩
  · apply hstored.leaves hnext
    rw [Option.some.inj (h.symm.trans hpersisted)]
    exact hentered.step
  · rw [hnone] at hpersisted
    cases hpersisted

end Completing

def waitingFlow : World Flow :=
  Machine.run (turn samplePeginConfig) (Flow.start samplePeginConfig ⟨1⟩)
    (inputsIn (.failing fun _ _ => false) signedData.dropLast)

end UnionBridge.Pegin
