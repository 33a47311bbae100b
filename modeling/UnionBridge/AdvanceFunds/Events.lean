import UnionBridge.AdvanceFunds.Routing

/-!
# The logs of a take

A log of a take that follows its trigger waits for its confirmations only if the flow of the take is
in memory when the log arrives, and the flow is created when the trigger has its confirmations.
-/

namespace UnionBridge.AdvanceFunds

open Chain Contracts Bitvmx Coordinator Effect

def FlowContext.isAbout (flow : FlowContext) : RskPegManagerEvents → Bool
  | .advanceFundsRegistered e => flow.matchesPegout e.inner.pegoutId
  | .reimbursementKickoffRegistered e => flow.matchesPegout e.inner.pegoutId
  | .pegoutRegistered e => flow.matchesCommitteeSlot e.inner.committeeId e.inner.streamInfo.slotId
  | _ => false

/-! ## Arrival -/

/-- A log on the chain that follows the trigger of its take. -/
def followsTrigger : RskPegManagerEvents → Bool
  | .advanceFundsRegistered e => !e.removed
  | .reimbursementKickoffRegistered e => !e.removed
  | .pegoutRegistered e => !e.removed
  | _ => false

def Core.HasLive (core : Core) (event : RskPegManagerEvents) : Prop :=
  ∃ id flow, core.flows.lookup id = some flow ∧ flow.isTerminal = false ∧ flow.isAbout event = true

section Arrival

variable {config : ProcessorConfig} {env : CallEnv} {event : RskPegManagerEvents} {core : Core}

theorem Core.hasFlow_iff {p : FlowContext → Bool} :
    core.hasFlow p = true ↔ ∃ id flow, core.flows.lookup id = some flow ∧ p flow = true := by
  rw [Core.hasFlow, List.any_eq_true]
  constructor
  · rintro ⟨⟨id, flow⟩, hmem, hp⟩
    exact ⟨id, flow, AList.mem_lookup_iff.mpr hmem, hp⟩
  · rintro ⟨id, flow, hflow, hp⟩
    exact ⟨⟨id, flow⟩, AList.mem_lookup_iff.mp hflow, hp⟩

theorem eventInfo_of_followsTrigger (core : Core) (h : followsTrigger event = true) :
    ∃ info, info.removed = false
      ∧ core.eventInfo event = if core.hasFlow (·.isAbout event) then some info else none := by
  cases event with
  | advanceFundsRegistered e =>
    exact ⟨buildEventInfo "advance-funds-registered" e, (Bool.not_eq_true' _).mp h, rfl⟩
  | reimbursementKickoffRegistered e =>
    exact ⟨buildEventInfo "reimbursement-kickoff-registered" e, (Bool.not_eq_true' _).mp h, rfl⟩
  | pegoutRegistered e =>
    exact ⟨buildEventInfo "advance-funds-pegout-registered" e, (Bool.not_eq_true' _).mp h, rfl⟩
  | _ => cases h

/-- **A log arrives.** It waits for its confirmations if the flow of its take is live. -/
theorem processNewRskEvent_pends (hrequired : config.requiredConfirmations ≠ 0)
    (hevent : followsTrigger event = true) {w : World Processor} :
    let Tracked : World Processor → Prop := fun w' =>
      w'.own.confirming.Pends event ↔ w.own.core.HasLive event ∨ w.own.confirming.Pends event
    wp (processNewRskEvent config env event) (fun _ => Tracked) (fun _ => Tracked) w := by
  intro Tracked
  rw [processNewRskEvent, wp_bind, wp_liftCore]
  apply wp_mono cleanupTerminalFlows_cleans _ fun _ _ h => h.elim
  intro _ t hclean
  -- the flows that are left are the live ones
  have hlive : t.own.hasFlow (·.isAbout event) = true ↔ w.own.core.HasLive event := by
    rw [Core.hasFlow_iff]
    constructor
    · rintro ⟨id, flow, hflow, habout⟩
      exact ⟨id, flow, (hclean.flow hflow).1, (hclean.flow hflow).2, habout⟩
    · rintro ⟨id, flow, hflow, hterminal, habout⟩
      refine ⟨id, flow, ?_, habout⟩
      rw [hclean.flows, Option.filter_eq_some_iff]
      exact ⟨hflow, by rw [hterminal]; rfl⟩
  obtain ⟨info, hremoved, hinfo⟩ := eventInfo_of_followsTrigger t.own hevent
  simp only [if_neg hrequired, wp_bind, wp_get, hinfo]
  by_cases hflow : t.own.hasFlow (·.isAbout event) = true
  · rw [if_pos hflow, wp_bind]
    apply wp_mono (trackEvent_pends hremoved) _ fun _ _ h => h.elim
    intro _ w₁ hpends
    have htracked : ∀ w' : World Processor, w'.own.confirming = w₁.own.confirming → Tracked w' :=
      fun w' hsame => iff_of_true (hsame ▸ hpends) (.inl (hlive.mp hflow))
    simp only [persistProcessor, persistProcessorState, wp_bind, wp_perform, wp_orText, wp_modify]
    exact ⟨fun _ _ => htracked _ rfl, fun _ _ => htracked _ rfl⟩
  · rw [if_neg hflow, wp_pure]
    have hnone : ¬ w.own.core.HasLive event := fun h => hflow (hlive.mpr h)
    exact ⟨.inr, fun h => h.resolve_left hnone⟩

end Arrival

/-- **A log of a take waits for its confirmations exactly if a flow of its take is live when it
arrives**, or if it waited before, in every state that a run reaches. -/
theorem take_log_tracked_iff (config : ProcessorConfig) (inputs : List (CallEnv × Input))
    (env : CallEnv) (event : RskPegManagerEvents) (hrequired : config.requiredConfirmations ≠ 0)
    (hevent : followsTrigger event = true)
    (hrunning : (Machine.run (step config) start inputs).panicked = false) :
    (Machine.run (step config) start
        (inputs ++ [(env, .rskEvent event)])).processor.confirming.Pends event
      ↔ (Machine.run (step config) start inputs).processor.core.HasLive event
        ∨ (Machine.run (step config) start inputs).processor.confirming.Pends event := by
  rw [Machine.run, List.foldl_append]
  show (System.call (Machine.run (step config) start inputs)
    (processNewRskEvent config env event)).processor.confirming.Pends event ↔ _
  generalize Machine.run (step config) start inputs = s at hrunning
  let Tracked : System Core → Prop := fun s' => s'.processor.confirming.Pends event
    ↔ s.processor.core.HasLive event ∨ s.processor.confirming.Pends event
  have hcall : Tracked (s.call (processNewRskEvent config env event)) :=
    System.call_of_wp (fun h => absurd (hrunning.symm.trans h) nofun)
      fun _ => processNewRskEvent_pends hrequired hevent
  exact hcall

/-! A member that was not selected follows a take with one confirmation for each event. -/

def gatedConfig : ProcessorConfig :=
  { sampleProcessorConfig with requiredConfirmations := 1, myAddress := 2 }

/-- The advanced funds of the take are registered. -/
def takeLog : RskPegManagerEvents :=
  .advanceFundsRegistered (sampleEvent ⟨7, ⟨0, 0, 0⟩, 1, 1, toBE 32 1⟩ 9)

def gatedCalls (inputs : List Input) : List (CallEnv × Input) :=
  callsIn (.failing fun _ _ => false) inputs

/-- The trigger has its confirmation before the log arrives. -/
theorem take_log_tracked_after_trigger :
    (Machine.run (step gatedConfig) start
      (gatedCalls [sampleTriggered 5, .block (blockAt 1 1 0)]
        ++ [(.plain (.failing fun _ _ => false), .rskEvent takeLog)])).processor.confirming.Pends
      takeLog := by
  refine (take_log_tracked_iff gatedConfig _ _ takeLog (by decide) rfl (by decide +kernel)).mpr
    (.inl ?_)
  have hlive : ((Machine.run (step gatedConfig) start (gatedCalls [sampleTriggered 5,
      .block (blockAt 1 1 0)])).processor.core.flows.lookup (sampleFlowId 5)).any
      (fun flow => !flow.isTerminal && flow.isAbout takeLog) = true := by
    decide +kernel
  obtain ⟨flow, hflow, hp⟩ := (Option.any_eq_true _ _).mp hlive
  obtain ⟨hterminal, habout⟩ := Bool.and_eq_true_iff.mp hp
  exact ⟨sampleFlowId 5, flow, hflow, (Bool.not_eq_true' _).mp hterminal, habout⟩

/-- The log arrives after the trigger and before its confirmation: it does not wait, and the flow that
the trigger creates never learns of it. -/
theorem take_log_before_confirmation_lost :
    (∀ entry ∈ (Machine.run (step gatedConfig) start (gatedCalls [sampleTriggered 5,
        .rskEvent takeLog])).processor.confirming.eventsConfirming.inOrder fun _ => 0,
        entry.2.data ≠ takeLog)
      ∧ (Machine.run (step gatedConfig) start (gatedCalls [sampleTriggered 5, .rskEvent takeLog,
        .block (blockAt 1 1 0), .block (blockAt 2 2 1),
        .block (blockAt 3 3 2)])).processor.confirming.eventsConfirming.isEmpty = true
      ∧ ((Machine.run (step gatedConfig) start (gatedCalls [sampleTriggered 5, .rskEvent takeLog,
        .block (blockAt 1 1 0), .block (blockAt 2 2 1),
        .block (blockAt 3 3 2)])).processor.core.flows.lookup (sampleFlowId 5)).map
          (fun flow => (flow.step, flow.advanceFundsRegistered)) =
        some (.registerOrWaitRskAdvanceFunds, none) := by
  refine ⟨by decide +kernel, by decide +kernel, by decide +kernel⟩

end UnionBridge.AdvanceFunds
