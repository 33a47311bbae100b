import UnionBridge.Pegout.Changes

/-!
# One payout for each pegout flow

A flow pays when it enters the dispatch of the user-take transaction or the trigger of the operator
take. Both are entered from the wait for signatures only, and no step leads back to it.
-/

namespace UnionBridge.Pegout

open Contracts Bitvmx Coordinator Effect

def Steps.beforePayout : Steps → Bool
  | .waitPegoutRequested | .getCommInfoAuthoritativeCheckpoint | .prepareUserTakeSetup
  | .waitUserTakeSignaturesReady => true
  | _ => false

section Steps

variable {data : StepData} {step next : Steps}

theorem Steps.beforePayout_of_next (h : step.next data = some next)
    (hnext : next.beforePayout = true) : step.beforePayout = true := by
  cases data <;> cases step <;> cases h <;> first | rfl | cases hnext

theorem payoutsAt_of_next {flow : State} (h : flow.step.next data = some next) :
    flow.payoutsAt next = [] ∨ flow.step.beforePayout = true := by
  generalize flow.step = step at h
  cases data <;> cases step <;> cases h <;> first | exact .inl rfl | exact .inr rfl

theorem length_payoutsAt (flow : State) (next : Steps) : (flow.payoutsAt next).length ≤ 1 := by
  cases next <;> simp [State.payoutsAt]

theorem payoutsAt_of_beforePayout {flow : State} (h : next.beforePayout = true) :
    flow.payoutsAt next = [] := by
  cases next <;> first | rfl | cases h

theorem Reaches.beforePayout {reached : Steps} (h : Reaches next reached) :
    reached.beforePayout = next.beforePayout := by
  rcases h with rfl | ⟨rfl, rfl⟩
  · rfl
  · rfl

end Steps

/-! ## The invariant -/

/-- No flow has paid twice, and none before its time. -/
structure PaidOnce (core : Core) : Prop where
  once : ∀ id calls, core.callsOf.lookup id = some calls → (payouts calls).length ≤ 1
  replaced : ∀ calls ∈ core.callsOfReplaced, (payouts calls).length ≤ 1
  unpaid : ∀ id flow calls, core.pegoutFlows.lookup id = some flow →
    flow.step.beforePayout = true → core.callsOf.lookup id = some calls → payouts calls = []

section Invariant

variable {config : ProcessorConfig} {env : PegoutEnv} {w w' : World Core}

theorem PaidOnce.getD {core : Core} (h : PaidOnce core) (id : FlowId) (flow : State)
    (hlookup : core.pegoutFlows.lookup id = some flow) :
    (payouts ((core.callsOf.lookup id).getD [])).length ≤ 1
      ∧ (flow.step.beforePayout = true → payouts ((core.callsOf.lookup id).getD []) = []) := by
  cases hcalls : core.callsOf.lookup id with
  | none => exact ⟨Nat.zero_le _, fun _ => rfl⟩
  | some calls => exact ⟨h.once id calls hcalls, fun hbefore => h.unpaid id flow calls hlookup hbefore hcalls⟩

theorem PaidOnce.ran {id : FlowId} {flow : State} {next : Option Steps} (h : PaidOnce w.own)
    (hlookup : w.own.pegoutFlows.lookup id = some flow) (hran : Ran id flow next w w')
    (hmoves : MovesBy (fun _ => True) flow next) : PaidOnce w'.own := by
  obtain ⟨t, ht, rfl⟩ := hran
  obtain ⟨new, hnew, hpaid⟩ := ht.log
  obtain ⟨hold, hfresh⟩ := h.getD id flow hlookup
  -- what the flow has paid, before and now
  let calls := callsSince w.log t.log ++ (w.own.callsOf.lookup id).getD []
  have hcalls : payouts calls = (next.map flow.payoutsAt).getD []
      ++ payouts ((w.own.callsOf.lookup id).getD []) := by
    simp only [calls, hnew, callsSince_append, payouts_append, hpaid]
  have honce : (payouts calls).length ≤ 1 ∧ (t.own.state.step.beforePayout = true →
      payouts calls = []) := by
    rw [hcalls]
    cases next with
    | none =>
      refine ⟨hold, fun hbefore => hfresh ?_⟩
      rwa [← ht.stays rfl]
    | some n =>
      have hreaches := (ht.moves n rfl).beforePayout
      simp only [Option.map_some, Option.getD_some, List.length_append, List.append_eq_nil_iff]
      rcases hmoves n rfl with rfl | ⟨data, -, hnext, -⟩
      · refine ⟨by simpa [State.payoutsAt] using hold, fun hbefore => ?_⟩
        rw [hreaches] at hbefore
        cases hbefore
      · refine ⟨?_, fun hbefore => ?_⟩
        · rcases payoutsAt_of_next hnext with hnone | hbefore
          · rw [hnone]
            simpa using hold
          · rw [hfresh hbefore]
            simpa using length_payoutsAt flow n
        · rw [hreaches] at hbefore
          exact ⟨payoutsAt_of_beforePayout hbefore,
            hfresh (Steps.beforePayout_of_next hnext hbefore)⟩
  refine ⟨fun id' calls' hlookup' => ?_, h.replaced, fun id' flow' calls' hflow' hbefore hlookup' => ?_⟩
  · rcases Table.lookup_insert_eq_some.mp hlookup' with ⟨-, rfl⟩ | ⟨-, hlookup'⟩
    · exact honce.1
    · exact h.once id' calls' hlookup'
  · rcases Table.lookup_insert_eq_some.mp hlookup' with ⟨rfl, rfl⟩ | ⟨hne, hlookup'⟩
    · rcases Table.lookup_insert_eq_some.mp hflow' with ⟨-, rfl⟩ | ⟨hne, -⟩
      · exact honce.2 hbefore
      · exact absurd rfl hne
    · have hflow' : w.own.pegoutFlows.lookup id' = some flow' :=
        (AList.lookup_insert_ne hne).symm.trans hflow'
      exact h.unpaid id' flow' calls' hflow' hbefore hlookup'

theorem PaidOnce.created {event : EventWithBlock PegoutRequested} (h : PaidOnce w.own)
    (hcreated : Created config event w w') : PaidOnce w'.own := by
  cases hcreated with
  | refused store hown _ _ =>
    rw [hown]
    exact ⟨h.once, h.replaced, h.unpaid⟩
  | added new _ _ t hturned _ hcore =>
    subst hcore
    obtain ⟨calls, hcalls, hpaid⟩ := hturned.log
    have hnone : payouts (callsSince w.log t.log) = [] := by
      rw [hcalls, callsSince_append, hpaid]
      rfl
    refine ⟨fun id calls' hlookup => ?_, fun calls' hmem => ?_, fun id flow calls' hflow hbefore hlookup => ?_⟩
    · rcases Table.lookup_insert_eq_some.mp hlookup with ⟨-, rfl⟩ | ⟨-, hlookup⟩
      · rw [hnone]
        exact Nat.zero_le _
      · exact h.once id calls' hlookup
    · rcases List.mem_append.mp hmem with hmem | hmem
      · exact h.once new.flowId calls' (Option.mem_toList.mp hmem)
      · exact h.replaced calls' hmem
    · rcases Table.lookup_insert_eq_some.mp hlookup with ⟨-, rfl⟩ | ⟨hne, hlookup⟩
      · exact hnone
      · have hflow : w.own.pegoutFlows.lookup id = some flow :=
          (AList.lookup_insert_ne hne).symm.trans hflow
        exact h.unpaid id flow calls' hflow hbefore hlookup

theorem PaidOnce.cleanedUp (h : PaidOnce w.own) (hclean : CleanedUp env.toEnv w w') :
    PaidOnce w'.own := by
  refine ⟨?_, ?_, fun id flow calls hflow hbefore hcalls => ?_⟩
  · rw [hclean.calls.1]
    exact h.once
  · rw [hclean.calls.2]
    exact h.replaced
  · rw [hclean.flows, Option.filter_eq_some_iff] at hflow
    rw [hclean.calls.1] at hcalls
    exact h.unpaid id flow calls hflow.1 hbefore hcalls

theorem flowRules_paidOnce : FlowRules config env (fun _ => True) fun w => PaidOnce w.own where
  subFlows _ _ _ hw := ⟨hw.once, hw.replaced, hw.unpaid⟩
  schedules _ _ _ hw := ⟨hw.once, hw.replaced, hw.unpaid⟩
  ran hw hlookup hran hmoves := hw.ran hlookup hran hmoves.movesBy
  cleanedUp := PaidOnce.cleanedUp
  created := PaidOnce.created

theorem handlers_paidOnce : Handlers config env fun w => PaidOnce w.own := by
  have hrules : FlowRules config env (fun _ => True) fun w => PaidOnce w.own := flowRules_paidOnce
  have hignores : IgnoresTimeouts fun w => PaidOnce w.own :=
    fun _ _ _ hw => ⟨hw.once, hw.replaced, hw.unpaid⟩
  have htimeouts := hrules.rules.timeoutRules (fun _ _ => trivial) hignores
    (fun event => hrules.rules.keeps_handlePegoutRegistered
      (fun _ hw => ⟨hw.once, hw.replaced, hw.unpaid⟩) event trivial)
  exact hrules.rules.handlers htimeouts (fun _ => trivial) (fun _ => trivial) (fun _ => trivial)
    trivial
    (fun _ _ _ hw hlookup => wp_always markFailed_runs fun _ hran => hw.ran hlookup hran movesBy_failed)
    (hrules.keeps_reconstruct hignores)

/-- A new process starts to count anew. -/
theorem PaidOnce.load (p : Processor) : PaidOnce (Processor.load p).core := by
  obtain ⟨hcalls, hreplaced⟩ := load_calls p
  refine ⟨fun id calls hlookup => ?_, fun calls hmem => ?_, fun id flow calls _ _ hlookup => ?_⟩
  · rw [hcalls] at hlookup
    cases hlookup
  · rw [hreplaced] at hmem
    cases hmem
  · rw [hcalls] at hlookup
    cases hlookup

end Invariant

/-! ## Runs -/

/-- **No flow pays twice.** In every run, among the calls that a flow made since it was created there
is at most one that pays: the dispatch of the user-take transaction or the trigger of the operator
take. After a restart the calls are those of the new process. -/
theorem at_most_one_payout (config : ProcessorConfig) (inputs : List (PegoutEnv × Input)) :
    let core := (Machine.run (step config) start inputs).processor.core
    (∀ id calls, core.callsOf.lookup id = some calls → (payouts calls).length ≤ 1)
      ∧ ∀ calls ∈ core.callsOfReplaced, (payouts calls).length ≤ 1 := by
  have hinv : PaidOnce (Machine.run (step config) start inputs).processor.core := by
    apply Machine.run_keeps fun s : System Core => PaidOnce s.processor.core
    · rintro s ⟨env, input⟩ hs
      have hload := PaidOnce.load s.processor
      have hhandlers : Handlers config env fun w => PaidOnce w.own := handlers_paidOnce
      obtain ⟨_, -, hs'⟩ := step_keeps hhandlers ⟨hs.once, hs.replaced, hs.unpaid⟩
        ⟨hload.once, hload.replaced, hload.unpaid⟩ input
      exact hs'
    · exact ⟨(fun _ _ h => nomatch h), (fun _ h => nomatch h), fun _ _ _ _ _ h => nomatch h⟩
  exact ⟨hinv.once, hinv.replaced⟩

end UnionBridge.Pegout
