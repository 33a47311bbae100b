import UnionBridge.AdvanceFunds.Transitions
import UnionBridge.Lib.Machine

/-!
# Invariants of an advance-funds flow

A flow moves forward along the steps of its role, whatever the outside answers. The announcement of
the registration (the `SetVar` of `AdvanceFundsRegistered`) is a checkpoint: no later step is entered
before the broker took it, by neither role. Only the selected operator submits proofs, and only the
ones it stored for that step.
-/

namespace UnionBridge.AdvanceFunds

open Contracts Bitvmx Effect

/-! ## The steps of a handler -/

theorem Steps.isValidTransition_le {self target : Steps} {isSelected : Bool}
    (h : self.isValidTransition target isSelected = true) : self.pos ≤ target.pos := by
  cases isSelected with
  | true =>
    have heq : self = target := by simpa [isValidTransition] using h
    rw [heq]
  | false =>
    simp only [isValidTransition, Bool.false_eq_true, if_false, Bool.and_eq_true,
      decide_eq_true_eq] at h
    exact h.2

theorem Steps.isValidTransition_checkpoint {self target : Steps} {isSelected : Bool}
    (htarget : setVarBitVmxAdvanceFundsRegistered.pos ≤ target.pos)
    (h : self.isValidTransition target isSelected = true) :
    setVarBitVmxAdvanceFundsRegistered.pos ≤ self.pos := by
  cases isSelected with
  | true =>
    have heq : self = target := by simpa [isValidTransition] using h
    rw [heq]
    exact htarget
  | false =>
    simp only [isValidTransition, Bool.false_eq_true, if_false, Bool.and_eq_true,
      decide_eq_true_eq, not_lt.mpr htarget] at h
    exact h.1

/-- The step of a flow that reached the checkpoint. -/
def Steps.Reached (step : Steps) : Prop :=
  setVarBitVmxAdvanceFundsRegistered.pos ≤ step.pos ∧ step ≠ .failed

section Handled

variable {config : Config} {s s' : FlowContext} {data : StepData} {next : Steps}

theorem Handled.forward (h : Handled config s data s' (some next)) :
    s'.step = s.step ∧ s.step.pos ≤ next.pos ∧ next ≠ .failed ∧ s.isTerminal = false := by
  have hrunning : ∀ {step : Steps}, step.pos ≤ Steps.registerOrWaitRskOperatorTake.pos →
      s.step = step → s.isTerminal = false := by
    rintro step hle rfl
    unfold FlowContext.isTerminal
    cases hs : s.step <;> rw [hs] at hle <;> revert hle <;> decide
  have hvalid : ∀ {target : Steps}, target.pos ≤ Steps.registerOrWaitRskOperatorTake.pos →
      s.step.isValidTransition target (s.wasSelectedOperator config) = true →
      s.step.pos ≤ target.pos ∧ s.isTerminal = false := fun hle h =>
    ⟨Steps.isValidTransition_le h, hrunning ((Steps.isValidTransition_le h).trans hle) rfl⟩
  cases h with
  | triggered hstep =>
    rw [hstep]
    refine ⟨rfl, Nat.zero_le _, ?_, hrunning (by decide) hstep⟩
    split <;> exact nofun
  | commInfo info hstep => exact ⟨rfl, by rw [hstep]; decide, nofun, hrunning (by decide) hstep⟩
  | transactionInfo txid hstep =>
    exact ⟨rfl, by rw [hstep]; decide, nofun, hrunning (by decide) hstep⟩
  | setupCompleted hstep => exact ⟨rfl, by rw [hstep]; decide, nofun, hrunning (by decide) hstep⟩
  | advanceFundsSpv spv hstep =>
    exact ⟨rfl, by rw [hstep]; decide, nofun, hrunning (by decide) hstep⟩
  | confirmed message h =>
    obtain ⟨hle, hlive⟩ := hvalid (by decide) h
    exact ⟨rfl, hle.trans (by decide), nofun, hlive⟩
  | kickoffSpv proof h =>
    obtain ⟨hle, hlive⟩ := hvalid (by decide) h
    refine ⟨?_, hle.trans (by decide), nofun, hlive⟩
    split <;> rfl
  | kickoffConfirmed h =>
    obtain ⟨hle, hlive⟩ := hvalid (by decide) h
    exact ⟨rfl, hle.trans (by decide), nofun, hlive⟩
  | takeSpv proof h =>
    obtain ⟨hle, hlive⟩ := hvalid (by decide) h
    refine ⟨?_, hle.trans (by decide), nofun, hlive⟩
    split <;> rfl
  | registered event h =>
    obtain ⟨hle, hlive⟩ := hvalid (by decide) h
    exact ⟨rfl, hle.trans (by decide), nofun, hlive⟩
  | retry hstep =>
    refine ⟨rfl, Nat.le_refl _, ?_, ?_⟩
    · intro hfailed
      rw [hfailed] at hstep
      cases hstep
    · unfold FlowContext.isTerminal
      cases hs : s.step <;> rw [hs] at hstep <;> revert hstep <;> decide

theorem Handled.checkpoint (h : Handled config s data s' (some next)) (hnext : next.Reached) :
    next = .setVarBitVmxAdvanceFundsRegistered ∨ s.step.Reached := by
  have hreached : ∀ {target : Steps}, Steps.setVarBitVmxAdvanceFundsRegistered.pos ≤ target.pos →
      s.step.isValidTransition target (s.wasSelectedOperator config) = true → s.step.Reached := by
    intro target htarget hvalid
    refine ⟨Steps.isValidTransition_checkpoint htarget hvalid, fun hfailed => ?_⟩
    have hlive := h.forward.2.2.2
    unfold FlowContext.isTerminal at hlive
    rw [hfailed] at hlive
    cases hlive
  cases h with
  | triggered hstep =>
    have hle := hnext.1
    split at hle <;> exact absurd hle (by decide)
  | confirmed => exact .inl rfl
  | kickoffSpv proof hvalid => exact .inr (hreached (by decide) hvalid)
  | kickoffConfirmed hvalid => exact .inr (hreached (by decide) hvalid)
  | takeSpv proof hvalid => exact .inr (hreached (by decide) hvalid)
  | registered event hvalid => exact .inr (hreached (by decide) hvalid)
  | retry => exact .inr hnext
  | _ => exact absurd hnext.1 (by decide)

theorem Handled.registered_same (h : Handled config s data s' (some next))
    (hreached : s.step.Reached) : s'.advanceFundsRegistered = s.advanceFundsRegistered := by
  cases h with
  | confirmed message hvalid =>
    exact absurd (hreached.1.trans (Steps.isValidTransition_le hvalid)) (by decide)
  | kickoffSpv => split <;> rfl
  | takeSpv => split <;> rfl
  | _ => rfl

end Handled

/-! ## The invariant -/

/-- A record that reached the checkpoint was announced. -/
def Sound (log : Contracts.Log) (s : FlowContext) : Prop := s.step.Reached → Announced s log

/-- The flow and its record are announced past the checkpoint, and stand at the same step. -/
structure Inv (w : World Flow) : Prop where
  state : Sound w.log w.own.state
  saved : ∀ s, w.own.saved = some s → Sound w.log s ∧ s.step = w.own.state.step

theorem Announced.adds {allowed : Call → Prop} {s s' : FlowContext} {log log' : Contracts.Log}
    (h : Announced s log) (hlog : Adds allowed log log')
    (hdata : s'.advanceFundsRegistered = s.advanceFundsRegistered) : Announced s' log' := by
  obtain ⟨message, hmessage, hmem⟩ := h
  obtain ⟨new, rfl, -⟩ := hlog
  exact ⟨message, hdata.trans hmessage, List.mem_append_right _ hmem⟩

theorem Sound.adds {allowed : Call → Prop} {s : FlowContext} {log log' : Contracts.Log}
    (h : Sound log s) (hlog : Adds allowed log log') : Sound log' s :=
  fun hreached => (h hreached).adds hlog rfl

section Turn

variable {config : Config} {env : Env} {w w' : World Flow}

variable {data : StepData} {ok : Bool} {next : Steps}

theorem Starts.inv {state : FlowContext} (hsaves : env.Saves)
    (h : Inv w) (hstep : state.step = w.own.state.step)
    (hstate : Sound w.log state)
    (hnext : next.Reached → next = .setVarBitVmxAdvanceFundsRegistered
      ∨ Announced state w.log)
    (hstarts : Starts config env next ⟨{ w.own with state := state }, w.log⟩ w' ok) :
    Inv w' ∧ w'.own.state.step = if ok then next else w.own.state.step := by
  cases hstarts with
  | entered hentered hsaved =>
    obtain ⟨index, txid, pid, retry, hw'⟩ := hentered.state
    have hat : w'.own.state.step = next := by rw [hw']
    have hsound : Sound w'.log w'.own.state := by
      intro hreached
      rw [hat] at hreached
      rcases hnext hreached with hset | hannounced
      · exact hentered.announced hset
      · exact hannounced.adds hentered.log (by rw [hw'])
    refine ⟨⟨hsound, fun s hs => ?_⟩, by rw [if_pos rfl]; exact hat⟩
    cases hsaved.symm.trans hs
    exact ⟨hsound, rfl⟩
  | restored hown hlog _ =>
    refine ⟨⟨?_, fun s hs => ?_⟩, ?_⟩
    · rw [hown]
      exact hstate.adds hlog
    · rw [hown] at hs ⊢
      exact ⟨(h.saved s hs).1.adds hlog, (h.saved s hs).2.trans hstep.symm⟩
    · rw [hown]
      exact hstep
  | unsaved hentered hsaved hrefused =>
    obtain ⟨log, text, hrefused⟩ := hrefused
    cases (hsaves log _).symm.trans hrefused

theorem Completes.inv (hsaves : env.Saves) (h : Inv w)
    (hcompletes : Completes config env data w w' ok) :
    Inv w' ∧ w.own.state.step.pos ≤ w'.own.state.step.pos
      ∧ (ok = false → w'.own.state.step = w.own.state.step) := by
  cases hcompletes with
  | rejected hsame _ =>
    rw [hsame]
    exact ⟨h, Nat.le_refl _, fun _ => rfl⟩
  | ignored hsame =>
    rw [hsame]
    exact ⟨h, Nat.le_refl _, fun _ => rfl⟩
  | @started state next ok hhandled hstarts =>
    obtain ⟨hstep, hle, hnext, -⟩ := hhandled.forward
    have hannounced : w.own.state.step.Reached → Announced state w.log := fun hreached =>
      (h.state hreached).adds (Adds.refl (fun _ => True) _) (hhandled.registered_same hreached)
    have hcheckpoint : next.Reached → next = .setVarBitVmxAdvanceFundsRegistered
        ∨ Announced state w.log := fun hreached =>
      (hhandled.checkpoint hreached).imp_right hannounced
    have hstate : Sound w.log state := fun hreached => hannounced (hstep ▸ hreached)
    obtain ⟨hinv, hat⟩ := hstarts.inv hsaves h hstep hstate hcheckpoint
    refine ⟨hinv, ?_, ?_⟩
    · rw [hat]
      cases ok with
      | true => exact hle
      | false => exact Nat.le_refl _
    · rintro rfl
      exact hat

/-- A registration was sent by the selected operator, with the proof that it stored for it. -/
def RegistersStored (config : Config) (s : FlowContext) : Call → Prop
  | .registerAdvanceFunds _ input => s.wasSelectedOperator config = true
    ∧ ∃ spv, s.advanceFundsSpv = some spv ∧ input = BtcTxSPVProofInput.ofProof spv.spvProof
  | .registerReimbursementKickoff _ input => s.wasSelectedOperator config = true
    ∧ ∃ proof, s.reimbursementKickoffSpv = some proof ∧ input = BtcTxSPVProofInput.ofProof proof
  | .registerOperatorTake input => s.wasSelectedOperator config = true
    ∧ ∃ proof, s.operatorTakeSpv = some proof ∧ input = BtcTxSPVProofInput.ofProof proof
  | _ => True

/-- The part of a record that an entry leaves alone. -/
structure SameProofs (s s' : FlowContext) : Prop where
  triggerData : s'.triggerData = s.triggerData
  advanceFundsSpv : s'.advanceFundsSpv = s.advanceFundsSpv
  reimbursementKickoffSpv : s'.reimbursementKickoffSpv = s.reimbursementKickoffSpv
  operatorTakeSpv : s'.operatorTakeSpv = s.operatorTakeSpv

theorem EntryCall.registersStored {s s' : FlowContext} {c : Call}
    (h : EntryCall config s next c) (hsame : SameProofs s s') : RegistersStored config s' c := by
  have hselected : s'.wasSelectedOperator config = s.wasSelectedOperator config := by
    unfold FlowContext.wasSelectedOperator
    rw [hsame.triggerData]
  unfold RegistersStored
  rcases h with hplain | ⟨hsel, hregisters⟩
  · split
    · cases hplain
    · cases hplain
    · cases hplain
    · trivial
  · unfold Registers at hregisters
    rw [hselected, hsame.advanceFundsSpv, hsame.reimbursementKickoffSpv, hsame.operatorTakeSpv]
    split at hregisters
    · exact ⟨hsel, hregisters⟩
    · exact ⟨hsel, hregisters⟩
    · exact ⟨hsel, hregisters⟩
    · cases hregisters

theorem Starts.registers (h : Starts config env next w w' ok) :
    Adds (RegistersStored config w'.own.state) w.log w'.log := by
  have hentered : Entered config next w w' →
      Adds (RegistersStored config w'.own.state) w.log w'.log := by
    intro h
    obtain ⟨index, txid, pid, retry, hstate⟩ := h.state
    exact h.log.mono fun _ hc => hc.registersStored (by rw [hstate]; exact ⟨rfl, rfl, rfl, rfl⟩)
  cases h with
  | entered h => exact hentered h
  | unsaved h => exact hentered h
  | restored hown hlog _ =>
    rw [hown]
    exact hlog.mono fun _ hc => hc.registersStored ⟨rfl, rfl, rfl, rfl⟩

theorem Completes.registers (h : Completes config env data w w' ok) :
    Adds (RegistersStored config w'.own.state) w.log w'.log := by
  cases h with
  | rejected hsame _ =>
    rw [hsame]
    exact Adds.refl _ _
  | ignored hsame =>
    rw [hsame]
    exact Adds.refl _ _
  | started hhandled hstarts => exact hstarts.registers

theorem Completes.terminal (h : Completes config env data w w' ok)
    (hterminal : w.own.state.isTerminal = true) : w' = w := by
  cases h with
  | rejected hsame _ => exact hsame
  | ignored hsame => exact hsame
  | started hhandled =>
    rw [hhandled.forward.2.2.2] at hterminal
    cases hterminal

theorem turn_completes (data : StepData) :
    ∃ ok, Completes config env data w (turn config w (env, .completeStep data)) ok := by
  have h : wp (completeStep config env data)
      (fun _ w' => ∃ ok, Completes config env data w w' ok)
      (fun _ w' => ∃ ok, Completes config env data w w' ok) w :=
    wp_mono (completeStep_completes config env data w) (fun _ _ h => ⟨_, h.1⟩) fun _ _ h => ⟨_, h.1⟩
  exact after_of_wp h

theorem turn_fails : ∃ ok, Starts config env .failed w (turn config w (env, .markFailed)) ok := by
  have h : wp (markFailed config env) (fun _ w' => ∃ ok, Starts config env .failed w w' ok)
      (fun _ w' => ∃ ok, Starts config env .failed w w' ok) w := by
    simp only [markFailed, wp_bind, wp_pure]
    exact wp_mono (startStep_starts (by rintro ⟨⟩)) (fun _ _ h => ⟨_, h.1⟩) fun _ _ h => ⟨_, h.1⟩
  exact after_of_wp h

/-- **One turn**: the flow does not go back, and submits only what it stored. -/
theorem turn_inv (hsaves : env.Saves) (h : Inv w) (input : FlowInput) :
    Inv (turn config w (env, input))
      ∧ w.own.state.step.pos ≤ (turn config w (env, input)).own.state.step.pos := by
  cases input with
  | completeStep data =>
    obtain ⟨ok, hcompletes⟩ := turn_completes data
    obtain ⟨hinv, hle, -⟩ := hcompletes.inv hsaves h
    exact ⟨hinv, hle⟩
  | markFailed =>
    obtain ⟨ok, hstarts⟩ := turn_fails
    obtain ⟨hinv, hat⟩ := hstarts.inv hsaves h rfl h.state fun hreached => absurd rfl hreached.2
    refine ⟨hinv, ?_⟩
    rw [hat]
    cases ok with
    | true => cases w.own.state.step <;> decide
    | false => exact Nat.le_refl _
  | restart =>
    show Inv (restart w) ∧ w.own.state.step.pos ≤ (restart w).own.state.step.pos
    unfold restart
    cases hsaved : w.own.saved with
    | none => exact ⟨h, Nat.le_refl _⟩
    | some s =>
      obtain ⟨hsound, hstep⟩ := h.saved s hsaved
      refine ⟨⟨hsound, fun s' hs' => ?_⟩, by rw [← hstep]⟩
      cases hsaved.symm.trans hs'
      exact ⟨hsound, rfl⟩

theorem turn_registers (input : FlowInput) :
    Adds (RegistersStored config (turn config w (env, input)).own.state) w.log
      (turn config w (env, input)).log := by
  cases input with
  | completeStep data =>
    obtain ⟨ok, hcompletes⟩ := turn_completes data
    exact hcompletes.registers
  | markFailed =>
    obtain ⟨ok, hstarts⟩ := turn_fails
    exact hstarts.registers
  | restart =>
    show Adds _ w.log (restart w).log
    unfold restart
    split
    · exact Adds.refl _ _
    · exact Adds.refl _ _

theorem completeStep_late (hlate : data.isLate w.own.state.step = true) :
    completeStep config env data w = .ok .noOp w := by
  cases data <;> first | cases hlate | skip
  case advanceFundsSPV spv =>
    have hnone : onAdvanceFundsSpv w.own.state.step spv = pure none := if_pos hlate
    show (onAdvanceFundsSpv w.own.state.step spv >>= _) w = _
    rw [hnone]
    rfl
  case reimbursementKickoffSPV proof =>
    have hnone : onReimbursementKickoffSpv config w.own.state.step proof = pure none := if_pos hlate
    show (onReimbursementKickoffSpv config w.own.state.step proof >>= _) w = _
    rw [hnone]
    rfl
  case operatorTakeSPV proof =>
    have hnone : onOperatorTakeSpv config w.own.state.step proof = pure none := if_pos hlate
    show (onOperatorTakeSpv config w.own.state.step proof >>= _) w = _
    rw [hnone]
    rfl

end Turn

def Flow.start (libs : Libs) (flowId : FlowId) (triggerData : OperatorTakeTriggerData) :
    World Flow :=
  ⟨⟨.new libs flowId triggerData, none⟩, []⟩

theorem inv_start (libs : Libs) (flowId : FlowId) (triggerData : OperatorTakeTriggerData) :
    Inv (Flow.start libs flowId triggerData) where
  state hreached := absurd (show Steps.setVarBitVmxAdvanceFundsRegistered.pos
    ≤ Steps.waitRskOperatorTakeTriggered.pos from hreached.1) (by decide)
  saved _ h := nomatch h

def sampleTrigger : OperatorTakeTriggerData where
  pegoutTxid := 1
  pegoutId := 1
  committeeId := 7
  slotId := 0
  slotIndex := 0
  requestPegoutTxHash := none
  userPubkey := ⟨toBE 33 1⟩
  takeOperatorAddress := 1
  operatorTakePubkey := ⟨toBE 33 1⟩

/-- The node with address 1, without the native bridge. -/
def sampleConfig : Config := ⟨Libs.sample, 1, .dummy⟩

/-- The selected operator's way to the operator take; the first kickoff proof is refused. -/
def selectedRun : List (Env × FlowInput) :=
  [(false, .operatorTakeTriggered), (false, .commInfo ⟨⟨.v4 0x7f000001, 8080⟩, "02"⟩),
    (false, .operatorTakeTransactionInfo ⟨3⟩), (false, .setupCompleted),
    (false, .advanceFundsSPV ⟨⟨1⟩, 7, 0, [], sampleSpv 1⟩),
    (false, .advanceFundsConfirmed ⟨7, 0, ⟨1⟩, [], ⟨[]⟩⟩),
    (true, .reimbursementKickoffSPV (sampleSpv 2)), (false, .reimbursementKickoffSPV (sampleSpv 2)),
    (false, .reimbursementKickoffConfirmed), (false, .operatorTakeSPV (sampleSpv 3))].map
      fun (refuses, data) => (Env.failing fun _ c => refuses && c.submittedProof.isSome,
        FlowInput.completeStep data)

end UnionBridge.AdvanceFunds
