import UnionBridge.AdvanceFunds.FlowInvariant

/-!
# Moves of a flow

A completed step either leaves a flow where it is or moves it to the step that the handler found.
`Moved` says for both what happens to the flag `pendingRetry` and how an attempt to register ended.
Only a retry enters a register step from a register step, and it enters the same one.
-/

namespace UnionBridge.AdvanceFunds

open Contracts Bitvmx Effect

def FlowContext.registers (config : Config) (s : FlowContext) : Bool := registersAt config s s.step

/-- The data that a confirmed event brings to a flow. -/
def StepData.isEvent : StepData → Bool
  | .operatorTakeTriggered => true
  | .advanceFundsConfirmed _ => true
  | .reimbursementKickoffConfirmed => true
  | .pegoutRegistered _ => true
  | _ => false

/-- The data that a message of `BitVMX` brings to a flow. -/
def StepData.isMessage : StepData → Bool
  | .commInfo _ => true
  | .setupCompleted => true
  | .operatorTakeTransactionInfo _ => true
  | .advanceFundsSPV _ => true
  | .reimbursementKickoffSPV _ => true
  | .operatorTakeSPV _ => true
  | _ => false

section Handled

variable {config : Config} {s s' : FlowContext} {data : StepData} {next : Steps}

theorem Handled.advances (h : Handled config s data s' (some next)) (hdata : data ≠ .retry) :
    s.step.pos < next.pos := by
  cases h with
  | triggered hstep =>
    rw [hstep]
    split <;> decide
  | commInfo info hstep => rw [hstep]; decide
  | transactionInfo txid hstep => rw [hstep]; decide
  | setupCompleted hstep => rw [hstep]; decide
  | advanceFundsSpv spv hstep => rw [hstep]; decide
  | confirmed message h => exact (Steps.isValidTransition_le h).trans_lt (by decide)
  | kickoffSpv proof h => exact (Steps.isValidTransition_le h).trans_lt (by decide)
  | kickoffConfirmed h => exact (Steps.isValidTransition_le h).trans_lt (by decide)
  | takeSpv proof h => exact (Steps.isValidTransition_le h).trans_lt (by decide)
  | registered event h => exact (Steps.isValidTransition_le h).trans_lt (by decide)
  | retry => exact absurd rfl hdata

theorem Handled.event_unregistered (h : Handled config s data s' (some next))
    (hdata : data.isEvent = true) : registersAt config s next = false := by
  cases h with
  | triggered hstep =>
    unfold registersAt
    cases s.wasSelectedOperator config with
    | true => rfl
    | false => rfl
  | confirmed => rfl
  | kickoffConfirmed => rfl
  | registered => rfl
  | _ => cases hdata

/-- From one register step to another only a retry leads. -/
theorem Handled.retry_of_registers (h : Handled config s data s' (some next))
    (hat : s.registers config = true) (hnext : registersAt config s next = true) :
    data = .retry := by
  by_contra hdata
  have hstep : s.step.isRetriableStep = true := (Bool.and_eq_true_iff.mp hat).1
  have hselected : s.wasSelectedOperator config = true := (Bool.and_eq_true_iff.mp hat).2
  have hmessage : data.isEvent = false := by
    cases hevent : data.isEvent with
    | false => rfl
    | true => exact absurd ((h.event_unregistered hevent).symm.trans hnext) nofun
  -- what is left are messages, and those wait for a flow at other steps
  have hnot : ∀ {step : Steps}, s.step = step → step.isRetriableStep = false → False := by
    rintro step rfl hnot
    cases hnot.symm.trans hstep
  have hvalid : ∀ {target : Steps}, s.step.isValidTransition target (s.wasSelectedOperator config)
      = true → target.isRetriableStep = false → False := by
    intro target htransition
    rw [hselected, Steps.isValidTransition, if_pos rfl, decide_eq_true_eq] at htransition
    exact hnot htransition
  cases h with
  | commInfo info hstep => exact hnot hstep rfl
  | transactionInfo txid hstep => exact hnot hstep rfl
  | setupCompleted hstep => exact hnot hstep rfl
  | advanceFundsSpv spv hstep => exact hnot hstep rfl
  | kickoffSpv proof h => exact hvalid h rfl
  | takeSpv proof h => exact hvalid h rfl
  | retry => exact hdata rfl
  | _ => cases hmessage

end Handled

/-! ## A completed step -/

/-- Where completing a step takes a flow; `ok` says whether it succeeded. -/
inductive Moved (config : Config) (env : Env) (data : StepData) (w t : World Flow) : Bool → Prop
  | stayed {ok : Bool} {ended : Option AttemptEnd}
      (hstep : t.own.state.step = w.own.state.step)
      (hretry : t.own.state.pendingRetry = w.own.state.pendingRetry)
      (hattempt : Attempted config.verifier ended w.log t.log)
      (hended : ended = none ∨ ended = some .refused)
      (hquiet : w.own.state.registers config = true → data ≠ .retry → ended = none)
      (hrefusal : data = .retry → w.own.state.registers config = true →
        Refusal config env w.own.state w.own.state.step) :
      Moved config env data w t ok
  | entered {ok : Bool} {state : FlowContext} {next : Steps}
      (hhandled : Handled config w.own.state data state (some next))
      (hstep : t.own.state.step = next)
      (hretry : t.own.state.pendingRetry = true → registersAt config w.own.state next = true)
      (hattempt : Attempted config.verifier (if registersAt config w.own.state next then
          some (if t.own.state.pendingRetry then .lacking else .accepted) else none) w.log t.log)
      (hcalls : Adds (fun c => ∀ step, registerStep c = some step → step = next) w.log t.log)
      (hsaved : ok = true ∨ SaveRefused env w.own.state.flowId) :
      Moved config env data w t ok

section Completes

variable {config : Config} {env : Env} {w t : World Flow} {data : StepData} {ok : Bool}

theorem Handled.place {s s' : FlowContext} {next : Steps}
    (h : Handled config s data s' (some next)) :
    s'.step = s.step ∧ s'.pendingRetry = s.pendingRetry ∧ s'.flowId = s.flowId
      ∧ ∀ step, registersAt config s' step = registersAt config s step := by
  cases h with
  | kickoffSpv =>
    split
    · exact ⟨rfl, rfl, rfl, fun _ => rfl⟩
    · exact ⟨rfl, rfl, rfl, fun _ => rfl⟩
  | takeSpv =>
    split
    · exact ⟨rfl, rfl, rfl, fun _ => rfl⟩
    · exact ⟨rfl, rfl, rfl, fun _ => rfl⟩
  | _ => exact ⟨rfl, rfl, rfl, fun _ => rfl⟩

theorem Parks.not_event {s : FlowContext} (h : Parks config s data) : data.isEvent = false := by
  obtain ⟨state, next, hhandled, hregisters⟩ := h
  cases hevent : data.isEvent with
  | false => rfl
  | true =>
    have hnot := hhandled.event_unregistered hevent
    rw [← hhandled.place.2.2.2 next] at hnot
    cases hnot.symm.trans hregisters

theorem Parks.not_commInfo {s : FlowContext} {info : CommsAddress} :
    ¬ Parks config s (.commInfo info) := by
  rintro ⟨state, next, hhandled, hregisters⟩
  cases hhandled with
  | commInfo => cases hregisters

theorem EntryCall.step {state : FlowContext} {next : Steps} {c : Call} {step : Steps}
    (h : EntryCall config state next c) (hstep : registerStep c = some step) :
    step = next ∧ registersAt config state next = true := by
  rcases h with hplain | ⟨hselected, hregisters⟩
  · unfold registerStep at hstep
    split at hstep
    · cases hplain
    · cases hplain
    · cases hplain
    · cases hstep
  · unfold Registers at hregisters
    unfold registersAt
    rw [hselected]
    split at hregisters
    · cases hstep
      exact ⟨rfl, rfl⟩
    · cases hstep
      exact ⟨rfl, rfl⟩
    · cases hstep
      exact ⟨rfl, rfl⟩
    · cases hregisters

theorem EntryFails.moved {state : FlowContext} {next : Steps}
    (hhandled : Handled config w.own.state data state (some next)) (hown : t.own.state = state)
    (hfails : EntryFails config env state next w.log t.log) : Moved config env data w t ok := by
  obtain ⟨hstep, hretry, -, hregisters⟩ := hhandled.place
  obtain ⟨ended, hattempt, hended⟩ := hfails.attempt
  refine .stayed (by rw [hown, hstep]) (by rw [hown, hretry]) hattempt (hended.imp_right (·.2)) ?_ ?_
  · intro hat hdata
    refine hended.resolve_right fun hrefused => hdata (hhandled.retry_of_registers hat ?_)
    rw [← hregisters next]
    exact hrefused.1
  · rintro rfl hat
    cases hhandled with
    | retry => exact hfails.refusal hat

/-- **Where a completed step takes a flow.** -/
theorem Completes.moved (h : Completes config env data w t ok) : Moved config env data w t ok := by
  cases h with
  | rejected hsame hdata =>
    subst hsame
    exact .stayed rfl rfl (.refl _) (.inl rfl) (fun _ _ => rfl) fun hretry => absurd hretry hdata
  | ignored hsame hhandled =>
    subst hsame
    refine .stayed rfl rfl (.refl _) (.inl rfl) (fun _ _ => rfl) ?_
    rintro rfl hat
    -- an ignored retry comes at a step without a registration
    cases hhandled with
    | late data hlate => cases hlate
    | stale hstep => exact absurd (hstep.symm.trans (Bool.and_eq_true_iff.mp hat).1) nofun
  | @started state next ok hhandled hstarts =>
    obtain ⟨hstep, hretry, hid, hregisters⟩ := hhandled.place
    have hentered : Entered config next ⟨{ w.own with state := state }, w.log⟩ t →
        (ok = true ∨ SaveRefused env w.own.state.flowId) → Moved config env data w t ok := by
      intro hentered hsaved
      obtain ⟨index, txid, pid, retry, hstate⟩ := hentered.state
      refine .entered hhandled (by rw [hstate]) ?_ ?_
        (hentered.log.mono fun _ hc _ hstep => (EntryCall.step hc hstep).1) hsaved
      · rw [← hregisters next]
        exact hentered.retry
      · rw [← hregisters next]
        exact hentered.attempt
    cases hstarts with
    | entered h _ => exact hentered h (.inl rfl)
    | unsaved h _ hrefused => exact hentered h (.inr (hid ▸ hrefused))
    | restored hown _ hfails => exact hfails.moved hhandled (by rw [hown])

theorem Completes.calls (h : Completes config env data w t ok) :
    Adds (fun c => ∀ step, registerStep c = some step → registersAt config w.own.state step = true
      ∧ ∃ state, Handled config w.own.state data state (some step)) w.log t.log := by
  cases h with
  | rejected hsame _ =>
    rw [hsame]
    exact Adds.refl _ _
  | ignored hsame _ =>
    rw [hsame]
    exact Adds.refl _ _
  | @started state next ok hhandled hstarts =>
    have hlog : Adds (EntryCall config state next) w.log t.log := by
      cases hstarts with
      | entered h _ => exact h.log
      | unsaved h _ _ => exact h.log
      | restored _ hlog _ => exact hlog
    refine hlog.mono fun c hc step hstep => ?_
    obtain ⟨rfl, hregisters⟩ := EntryCall.step hc hstep
    exact ⟨(hhandled.place.2.2.2 step).symm.trans hregisters, state, hhandled⟩

end Completes

end UnionBridge.AdvanceFunds
