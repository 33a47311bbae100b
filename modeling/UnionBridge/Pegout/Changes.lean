import UnionBridge.Pegout.Rules

/-!
# What the pegout processor does to its flows

The handlers change the flows in three ways: a program of one flow runs (`Ran`), the terminal flows
are dropped (`CleanedUp`), and a flow is created (`Created`). `FlowRules` asks an invariant to
survive these three; the rules of the handlers follow.
-/

namespace UnionBridge.Pegout

open Chain Contracts Bitvmx Coordinator Effect

/-! ## A flow runs -/

/-- A program of the flow `id` has run, and the flow has taken a turn. -/
def Ran (id : FlowId) (flow : State) (next : Option Steps) (w w' : World Core) : Prop :=
  ∃ t : World Flow, Turned next ⟨⟨flow, w.own.store.lookup id⟩, w.log⟩ t
    ∧ w' = ⟨w.own.putFlow id t.own (callsSince w.log t.log), t.log⟩

/-- The flow only moves on for data in `plain`. -/
def AdvancesBy (plain : StepData → Prop) (flow : State) (next : Option Steps) : Prop :=
  ∀ n, next = some n → ∃ data, plain data ∧ flow.step.next data = some n ∧ flow.Names data

/-- The same, or it was failed. -/
def MovesBy (plain : StepData → Prop) (flow : State) (next : Option Steps) : Prop :=
  ∀ n, next = some n → n = .failed
    ∨ ∃ data, plain data ∧ flow.step.next data = some n ∧ flow.Names data

theorem AdvancesBy.movesBy {plain : StepData → Prop} {flow : State} {next : Option Steps}
    (h : AdvancesBy plain flow next) : MovesBy plain flow next := fun n hn => .inr (h n hn)

theorem movesBy_failed {plain : StepData → Prop} {flow : State} :
    MovesBy plain flow (some .failed) := fun _ hn => .inl (Option.some.inj hn).symm

section Run

variable {config : ProcessorConfig} {env : PegoutEnv} {id : FlowId} {flow : State}
  {next : Option Steps} {w w' : World Core}

theorem lookup_putSaved (core : Core) (id : FlowId) (saved : Option State) :
    (core.putSaved id saved).store.lookup id = saved := by
  unfold Core.putSaved
  split
  · exact AList.lookup_insert _
  · exact AList.lookup_erase _ _

theorem lookup_putSaved_ne (core : Core) {id other : FlowId} {saved : Option State}
    (hne : other ≠ id) :
    (core.putSaved id saved).store.lookup other = core.store.lookup other := by
  unfold Core.putSaved
  split
  · exact AList.lookup_insert_ne hne
  · exact AList.lookup_erase_ne hne

theorem onFlow_stays {m : FlowM Unit} (h : OnlyCalls Quiet m) :
    wp (onFlow id flow m)
      (fun _ w' => Ran id flow none w w' ∧ w'.own.pegoutFlows.lookup id = some flow)
      (fun _ w' => Ran id flow none w w' ∧ w'.own.pegoutFlows.lookup id = some flow) w := by
  have hput : ∀ t : World Flow, CallStep Quiet ⟨⟨flow, w.own.store.lookup id⟩, w.log⟩ t →
      Ran id flow none w ⟨w.own.putFlow id t.own (callsSince w.log t.log), t.log⟩
      ∧ (w.own.putFlow id t.own (callsSince w.log t.log)).pegoutFlows.lookup id = some flow := by
    intro t ht
    refine ⟨⟨t, turned_of_callStep ht, rfl⟩, ?_⟩
    rw [ht.own]
    exact AList.lookup_insert _
  rw [onFlow, wp_zoom]
  exact wp_always (within_iff_wp.mp h _) hput

/-- A step of the flow `id` was completed, or it was not. -/
def FlowCompletes (env : Env) (id : FlowId) (flow : State) (data : StepData) (ok : Bool)
    (w w' : World Core) : Prop :=
  ∃ t : World Flow, Completes env data ⟨⟨flow, w.own.store.lookup id⟩, w.log⟩ t ok
    ∧ w' = ⟨w.own.putFlow id t.own (callsSince w.log t.log), t.log⟩

theorem FlowCompletes.ran {env : Env} {data : StepData} {ok : Bool}
    (h : FlowCompletes env id flow data ok w w') :
    ∃ next, Ran id flow next w w'
      ∧ ∀ n, next = some n → flow.step.next data = some n ∧ flow.Names data := by
  obtain ⟨t, ht, rfl⟩ := h
  obtain ⟨next, hturned, hnext⟩ := ht.turned
  exact ⟨next, ⟨t, hturned, rfl⟩, hnext⟩

theorem FlowCompletes.moved {env : Env} {data : StepData} {ok : Bool} {next : Steps}
    (h : FlowCompletes env id flow data ok w w') (hnext : flow.step.next data = some next)
    (hnames : flow.Names data) (hevent : ∀ event, data ≠ .pegoutRegistered event) :
    ∃ flow', w'.own.pegoutFlows.lookup id = some flow' ∧ Reaches next flow'.step
      ∧ flow'.flowId = flow.flowId
      ∧ (ok = false → (flow.take data).entersSilently next = true → SaveRefused env flow.flowId) := by
  obtain ⟨t, ht, rfl⟩ := h
  have hid : t.own.state.flowId = flow.flowId := by
    obtain ⟨_, hturned, -⟩ := ht.turned
    exact hturned.kept.flowId
  refine ⟨t.own.state, AList.lookup_insert _, ?_⟩
  cases ht with
  | rejected _ hcause =>
    rcases hcause with hnone | hother
    · cases hnext.symm.trans hnone
    · exact absurd hnames hother
  | unannounced event hdata _ _ _ _ => exact absurd hdata (hevent event)
  | started n hn _ w₁ hown _ hstarts =>
    cases hnext.symm.trans hn
    obtain ⟨reached, output, hreaches, hstate⟩ := hstarts.entered.state
    refine ⟨by rw [hstate]; exact hreaches, hid, fun hok hsilent => ?_⟩
    subst hok
    have htake : w₁.own.state = flow.take data := by rw [hown]
    cases hstarts with
    | failed _ _ hrefused =>
      have hsame : w₁.own.state.flowId = flow.flowId := by
        rw [htake]
        exact (kept_take flow data).flowId
      rw [htake] at hrefused
      rw [← hsame, htake]
      exact hrefused hsilent

theorem completeFlowStep_completes {data : StepData} :
    wp (completeFlowStep config env id flow data)
      (fun _ => FlowCompletes env.toEnv id flow data true w)
      (fun _ => FlowCompletes env.toEnv id flow data false w) w := by
  rw [completeFlowStep, onFlow, wp_zoom]
  exact wp_mono completeStep_completes (fun _ t ht => ⟨t, ht, rfl⟩) fun _ t ht => ⟨t, ht, rfl⟩

theorem completeFlowStep_runs {plain : StepData → Prop} {data : StepData} (hplain : plain data) :
    wp (completeFlowStep config env id flow data)
      (fun _ w' => ∃ next, Ran id flow next w w' ∧ AdvancesBy plain flow next)
      (fun _ w' => ∃ next, Ran id flow next w w' ∧ AdvancesBy plain flow next) w := by
  refine wp_mono completeFlowStep_completes ?_ ?_
  all_goals
    intro _ w' h
    obtain ⟨next, hran, hnext⟩ := h.ran
    exact ⟨next, hran, fun n hn => ⟨data, hplain, hnext n hn⟩⟩

theorem markFailed_runs :
    wp (onFlow id flow (markFailed config.toConfig env.toEnv))
      (fun _ => Ran id flow (some .failed) w) (fun _ => Ran id flow (some .failed) w) w := by
  rw [onFlow, wp_zoom]
  have hnext : Steps.failed ≠ .waitPegoutRequested := nofun
  refine wp_mono (startStep_starts hnext) ?_ ?_
  · exact fun _ t ht => ⟨t, ht.entered.turned, rfl⟩
  · exact fun _ t ht => ⟨t, ht.entered.turned, rfl⟩

theorem onlyCalls_requestTransactionStatus :
    OnlyCalls Quiet (requestTransactionStatus env.toEnv) :=
  .bind (onlyCalls_getUserTakeTxid _) fun _ =>
    .bind onlyCalls_getState fun _ => onlyCalls_sendBitvmxMsg ⟨rfl, rfl⟩

theorem onlyCalls_redrivePendingBitvmxRequest :
    OnlyCalls Quiet (redrivePendingBitvmxRequest env.toEnv) := by
  refine .bind onlyCalls_getState fun state => ?_
  split
  · exact .bind onlyCalls_getState fun _ => onlyCalls_sendBitvmxMsg ⟨rfl, rfl⟩
  · exact onlyCalls_requestBitvmxCommInfo
  · exact onlyCalls_requestSpvProof
  · exact .pure ()

namespace Ran

variable (h : Ran id flow next w w')

include h

theorem log : w.log <:+ w'.log := by
  obtain ⟨t, ht, rfl⟩ := h
  exact ht.log.suffix

theorem lookup_ne {other : FlowId} (hne : other ≠ id) :
    w'.own.pegoutFlows.lookup other = w.own.pegoutFlows.lookup other := by
  obtain ⟨t, -, rfl⟩ := h
  exact AList.lookup_insert_ne hne

theorem store_ne {other : FlowId} (hne : other ≠ id) :
    w'.own.store.lookup other = w.own.store.lookup other := by
  obtain ⟨t, -, rfl⟩ := h
  exact lookup_putSaved_ne w.own hne

theorem stored {other : FlowId} {state : State} (hstored : w'.own.store.lookup other = some state) :
    w.own.store.lookup other = some state ∨ w'.own.pegoutFlows.lookup other = some state := by
  by_cases hid : other = id
  · subst hid
    obtain ⟨t, ht, rfl⟩ := h
    have hsaved : t.own.saved = some state := (lookup_putSaved w.own other _).symm.trans hstored
    rcases ht.saved with hsame | hnew
    · exact .inl (hsame.symm.trans hsaved)
    · refine .inr ((AList.lookup_insert _).trans ?_)
      exact hnew.symm.trans hsaved
  · exact .inl ((h.store_ne hid).symm.trans hstored)

theorem self : ∃ flow', w'.own.pegoutFlows.lookup id = some flow' ∧ Kept flow flow'
    ∧ (next = none → flow'.step = flow.step) ∧ (∀ n, next = some n → Reaches n flow'.step)
    ∧ (w'.own.store.lookup id = w.own.store.lookup id ∨ w'.own.store.lookup id = some flow') := by
  obtain ⟨t, ht, rfl⟩ := h
  refine ⟨t.own.state, AList.lookup_insert _, ht.kept, ht.stays, ht.moves, ?_⟩
  show (w.own.putSaved id t.own.saved).store.lookup id = _
    ∨ (w.own.putSaved id t.own.saved).store.lookup id = _
  rw [lookup_putSaved]
  exact ht.saved

end Ran

end Run

/-! ## Terminal flows are dropped -/

def Core.ended (core : Core) (id : FlowId) : Bool :=
  (core.pegoutFlows.lookup id).any State.isTerminal

def Deletes (env : Env) : Prop :=
  ∀ log id text, env.answer log (.deleteFlow (.pegoutFlow id)) ≠ .error text

/-- The terminal flows have left the table and everything that waits for them. Their records are
deleted, unless the store refused. -/
structure CleanedUp (env : Env) (w w' : World Core) : Prop where
  flows : ∀ id, w'.own.pegoutFlows.lookup id
    = (w.own.pegoutFlows.lookup id).filter fun flow => !flow.isTerminal
  store : ∀ id flow, w'.own.store.lookup id = some flow → w.own.store.lookup id = some flow
  deleted : Deletes env → ∀ id, w.own.ended id = true → w'.own.store.lookup id = none
  retired : ∀ flow log, (flow, log) ∈ w'.own.retired → (flow, log) ∈ w.own.retired
    ∨ (∃ id, w.own.pegoutFlows.lookup id = some flow) ∧ log = w.log
  timeouts : ∀ id, w'.own.advanceFundsTimeoutScheduler.pending.lookup id
    = if w.own.ended id then none else w.own.advanceFundsTimeoutScheduler.pending.lookup id
  pending : ∀ id, w'.own.flowsPendingTimeout.lookup id
    = if w.own.ended id then none else w.own.flowsPendingTimeout.lookup id
  handled : w'.own.handled = w.own.handled ∧ w'.own.handledBefore = w.own.handledBefore
  calls : w'.own.callsOf = w.own.callsOf ∧ w'.own.callsOfReplaced = w.own.callsOfReplaced
  log : w.log <:+ w'.log

section Cleanup

variable {config : ProcessorConfig} {env : PegoutEnv} {w w' : World Core}

theorem mem_terminalFlows {core : Core} {rank : FlowId → Nat} {id : FlowId} {flow : State} :
    (id, flow) ∈ core.terminalFlows rank
      ↔ core.pegoutFlows.lookup id = some flow ∧ flow.isTerminal = true := by
  rw [Core.terminalFlows, List.mem_filter, Table.mem_inOrder]

theorem ended_iff_mem {core : Core} (rank : FlowId → Nat) {id : FlowId} :
    core.ended id = true ↔ ∃ flow, (id, flow) ∈ core.terminalFlows rank := by
  simp only [Core.ended, Option.any_eq_true, mem_terminalFlows]

/-- What forgetting some flows leaves alone, and what it does to their timeouts. -/
structure Core.Forgets (core : Core) (ids : List FlowId) (core' : Core) : Prop where
  frame : ∃ subFlows txStatus timeouts retries pending attempts, core' = { core with
    signatureFlows := subFlows, txStatusScheduler := txStatus
    advanceFundsTimeoutScheduler := timeouts, registerPegoutRetryScheduler := retries
    flowsPendingTimeout := pending, unconfirmedRegisterPegout := attempts }
  timeouts : ∀ id, core'.advanceFundsTimeoutScheduler.pending.lookup id
    = if id ∈ ids then none else core.advanceFundsTimeoutScheduler.pending.lookup id
  pending : ∀ id, core'.flowsPendingTimeout.lookup id
    = if id ∈ ids then none else core.flowsPendingTimeout.lookup id

theorem forgetFlow_forgets (core : Core) (id : FlowId) (flow : State) :
    core.Forgets [id] (core.forgetFlow id flow) where
  frame := ⟨_, _, _, _, _, _, rfl⟩
  timeouts id' := by
    by_cases h : id' = id
    · subst h
      simp [Core.forgetFlow, TimeBasedScheduler.cancel]
    · simp [Core.forgetFlow, TimeBasedScheduler.cancel, AList.lookup_erase_ne h, h]
  pending id' := by
    by_cases h : id' = id
    · subst h
      simp [Core.forgetFlow]
    · simp [Core.forgetFlow, AList.lookup_erase_ne h, h]

theorem Core.Forgets.trans {a b c : Core} {ids ids' : List FlowId} (h : a.Forgets ids b)
    (h' : b.Forgets ids' c) : a.Forgets (ids ++ ids') c where
  frame := by
    obtain ⟨_, _, _, _, _, _, rfl⟩ := h.frame
    obtain ⟨_, _, _, _, _, _, rfl⟩ := h'.frame
    exact ⟨_, _, _, _, _, _, rfl⟩
  timeouts id := by
    rw [h'.timeouts, h.timeouts]
    by_cases hmem : id ∈ ids <;> simp [hmem]
  pending id := by
    rw [h'.pending, h.pending]
    by_cases hmem : id ∈ ids <;> simp [hmem]

theorem forgetFlows_forgets (terminal : List (FlowId × State)) (core : Core) :
    core.Forgets (terminal.map (·.1))
      (terminal.foldl (fun core entry => core.forgetFlow entry.1 entry.2) core) := by
  induction terminal generalizing core with
  | nil => exact ⟨⟨_, _, _, _, _, _, rfl⟩, by simp, by simp⟩
  | cons entry terminal ih => exact (forgetFlow_forgets core entry.1 entry.2).trans (ih _)

structure Deleted (env : Env) (ids : List FlowId) (w w' : World Core) : Prop where
  own : w'.own = { w.own with store := w'.own.store }
  store : ∀ id flow, w'.own.store.lookup id = some flow → w.own.store.lookup id = some flow
  deleted : Deletes env → ∀ id ∈ ids, w'.own.store.lookup id = none
  log : w.log <:+ w'.log

theorem Deleted.trans {env : Env} {a b c : World Core} {ids ids' : List FlowId}
    (h : Deleted env ids a b) (h' : Deleted env ids' b c) : Deleted env (ids ++ ids') a c where
  own := by rw [h'.own, h.own]
  store id flow hlookup := h.store id flow (h'.store id flow hlookup)
  deleted henv id hid := by
    rcases List.mem_append.mp hid with hid | hid
    · by_contra hne
      obtain ⟨flow, hflow⟩ := Option.ne_none_iff_exists'.mp hne
      cases (h.deleted henv id hid).symm.trans (h'.store id flow hflow)
    · exact h'.deleted henv id hid
  log := h.log.trans h'.log

theorem deleteFlow_deletes (id : FlowId) :
    wp (deleteFlow env id) (fun _ => Deleted env.toEnv [id] w) (fun _ _ => False) w := by
  simp only [deleteFlow, wp_bind, wp_perform]
  split
  · rw [wp_modifyCore]
    refine ⟨rfl, fun id' flow hlookup => (Table.lookup_erase_eq_some.mp hlookup).2, fun _ id' hid' => ?_,
      List.suffix_cons _ _⟩
    rw [List.mem_singleton.mp hid']
    exact AList.lookup_erase _ _
  · next text hrefused =>
    exact ⟨rfl, fun _ _ hlookup => hlookup, fun henv => absurd hrefused (henv _ _ _),
      List.suffix_cons _ _⟩

theorem deleteFlows_deletes (terminal : List (FlowId × State)) :
    wp (terminal.forM fun entry => deleteFlow env entry.1)
      (fun _ => Deleted env.toEnv (terminal.map (·.1)) w) (fun _ _ => False) w := by
  induction terminal generalizing w with
  | nil => exact ⟨rfl, (fun _ _ h => h), nofun, List.suffix_rfl⟩
  | cons entry terminal ih =>
    show wp (deleteFlow env entry.1 >>= fun _ => terminal.forM _) _ _ _
    rw [wp_bind]
    apply wp_imp (deleteFlow_deletes entry.1)
    intro _ w₁ h₁
    exact wp_imp ih fun _ _ h₂ => h₁.trans h₂

/-- **Dropping the terminal flows.** No error leaves the function. -/
theorem cleanupTerminalFlows_cleans :
    wp (cleanupTerminalFlows env) (fun _ => CleanedUp env.toEnv w) (fun _ _ => False) w := by
  let terminal := w.own.terminalFlows (env.rank w.log .flows)
  have hforgets := forgetFlows_forgets terminal w.own
  have hended : ∀ id, id ∈ terminal.map (·.1) ↔ w.own.ended id = true := by
    intro id
    rw [ended_iff_mem (env.rank w.log .flows)]
    simp [terminal]
  simp only [cleanupTerminalFlows, wp_bind, wp_get, wp_modifyCore]
  apply wp_imp (deleteFlows_deletes terminal)
  intro _ w₁ h₁
  obtain ⟨_, _, _, _, _, _, hframe⟩ := hforgets.frame
  rw [hframe] at h₁ hforgets
  have hown := h₁.own
  generalize hstore : w₁.own.store = store at hown
  rw [hown]
  refine {
    flows := fun id => Table.lookup_retain
    store := fun id flow hlookup => h₁.store id flow (hstore ▸ hlookup)
    deleted := fun henv id hid => hstore ▸ h₁.deleted henv id ((hended id).mpr hid)
    retired := fun flow log hmem => ?_
    timeouts := fun id => ?_
    pending := fun id => ?_
    handled := ⟨rfl, rfl⟩
    calls := ⟨rfl, rfl⟩
    log := h₁.log }
  · rcases List.mem_append.mp hmem with hmem | hmem
    · exact .inl hmem
    · obtain ⟨⟨id, flow'⟩, hentry, heq⟩ := List.mem_map.mp hmem
      cases heq
      exact .inr ⟨⟨id, (mem_terminalFlows.mp hentry).1⟩, rfl⟩
  · rw [hforgets.timeouts id]
    exact if_congr (hended id) rfl rfl
  · rw [hforgets.pending id]
    exact if_congr (hended id) rfl rfl

end Cleanup

/-! ## A flow is created -/

/-- A request was refused or failed, or its flow has joined the table after its first step. -/
inductive Created (config : ProcessorConfig) (event : EventWithBlock PegoutRequested)
    (w w' : World Core) : Prop
  | refused (store : Table FlowId State) (hown : w'.own = { w.own with store := store })
      (hstore : ∀ id, store.lookup id = w.own.store.lookup id) (hlog : w.log <:+ w'.log) :
      Created config event w w'
  | added (new : State) (hnew : State.new config.libs event = some new)
      (hfree : ∀ id flow, w.own.pegoutFlows.lookup id = some flow →
        flow.ctx.bitvmxProtocolId ≠ new.ctx.bitvmxProtocolId)
      (t : World Flow) (hturned : Turned (some .getCommInfoAuthoritativeCheckpoint)
        ⟨⟨new, w.own.store.lookup new.flowId⟩, w.log⟩ t)
      (hsaved : t.own.saved = some t.own.state)
      (hcore : w' = ⟨(w.own.putSaved new.flowId t.own.saved).addFlow new.flowId t.own.state
        (callsSince w.log t.log), t.log⟩) : Created config event w w'

section Create

variable {config : ProcessorConfig} {env : PegoutEnv} {w : World Core}

theorem Created.stored {event : EventWithBlock PegoutRequested} {w' : World Core}
    (h : Created config event w w') {id : FlowId} {state : State}
    (hstored : w'.own.store.lookup id = some state) :
    w.own.store.lookup id = some state ∨ w'.own.pegoutFlows.lookup id = some state := by
  cases h with
  | refused store hown hstore _ =>
    rw [hown] at hstored
    exact .inl ((hstore id).symm.trans hstored)
  | added new _ _ t _ hsaved hcore =>
    subst hcore
    by_cases hid : id = new.flowId
    · subst hid
      have hstate : t.own.saved = some state := (lookup_putSaved w.own new.flowId _).symm.trans hstored
      exact .inr ((AList.lookup_insert _).trans (hsaved.symm.trans hstate))
    · exact .inl ((lookup_putSaved_ne w.own hid).symm.trans hstored)

theorem completeStep_requested {t : World Flow} (hstep : t.own.state.step = .waitPegoutRequested) :
    wp (completeStep config.toConfig env.toEnv .pegoutRequested)
      (fun _ t' => Turned (some .getCommInfoAuthoritativeCheckpoint) t t'
        ∧ t'.own.saved = some t'.own.state)
      (fun _ t' => t'.own.saved = t.own.saved ∧ t.log <:+ t'.log) t := by
  have hcomm : t.own.state.step.next .pegoutRequested
      = some .getCommInfoAuthoritativeCheckpoint := by
    rw [hstep]
    rfl
  apply wp_mono completeStep_completes
  · intro _ t' ht
    obtain ⟨next, hturned, hnext⟩ := ht.turned
    cases ht with
    | started n hn _ t₁ hown _ hstarts =>
      cases hcomm.symm.trans hn
      cases next with
      | none =>
        -- a flow that has entered the step is not where it was
        obtain ⟨reached, output, hreaches, hstate⟩ := hstarts.entered.state
        have hstays := hturned.stays rfl
        rw [hstate, hstep] at hstays
        rcases hreaches with rfl | ⟨h, -⟩
        · cases hstays
        · cases h
      | some m =>
        cases hcomm.symm.trans (hnext m rfl).1
        refine ⟨hturned, ?_⟩
        cases hstarts with
        | stored _ hsaved => exact hsaved
        | triggered _ h => cases h
  · intro _ t' ht
    obtain ⟨_, hturned, -⟩ := ht.turned
    refine ⟨?_, hturned.log.suffix⟩
    cases ht with
    | rejected h _ => rw [h]
    | unannounced event hdata => cases hdata
    | started n hn _ t₁ hown _ hstarts =>
      cases hcomm.symm.trans hn
      cases hstarts with
      | failed _ hsaved _ =>
        rw [hsaved rfl, hown]

/-- **Creating a flow.** -/
theorem createFlow_creates (event : EventWithBlock PegoutRequested) :
    wp (createFlowForPegoutRequested config env event) (fun _ => Created config event w)
      (fun _ => Created config event w) w := by
  have hidle : Created config event w w := .refused w.own.store rfl (fun _ => rfl) List.suffix_rfl
  simp only [createFlowForPegoutRequested, wp_bind, wp_okOr]
  refine ⟨fun committeeId _ => ?_, fun _ => hidle⟩
  simp only [wp_ite, wp_pure, wp_bind, wp_okOr]
  split
  · exact hidle
  refine ⟨fun new hnew => ?_, fun _ => hidle⟩
  apply wp_findFlow
  · intro hfree
    have hstep : new.step = .waitPegoutRequested := by
      obtain ⟨_, -, rfl⟩ := Option.map_eq_some_iff.mp hnew
      rfl
    simp only [wp_ensure, Option.isNone_none, if_true, wp_get, onNewFlow, wp_zoom, wp_bind, wp_pure,
      wp_modifyCore]
    apply wp_mono (completeStep_requested hstep)
    · rintro _ t ⟨hturned, hsaved⟩
      exact .added new hnew (fun id flow hlookup => by simpa using hfree id flow hlookup) t hturned
        hsaved rfl
    · rintro _ t ⟨hsaved, hlog⟩
      refine .refused _ rfl (fun id => ?_) hlog
      by_cases hid : id = new.flowId
      · rw [hid, hsaved]
        exact lookup_putSaved w.own new.flowId _
      · exact lookup_putSaved_ne w.own hid
  · intro id flow _ _
    rw [wp_ensure, if_neg (fun h => by cases h)]
    exact hidle

end Create

/-! ## The rules of the flows -/

/-- What an invariant has to survive, in terms of what happens to the flows. -/
structure FlowRules (config : ProcessorConfig) (env : PegoutEnv) (plain : StepData → Prop)
    (I : World Core → Prop) : Prop where
  subFlows : ∀ {w : World Core} (f : SubFlows → SubFlows) {log : Contracts.Log}, w.log <:+ log →
    I w → I ⟨putSubFlows f w.own, log⟩
  schedules : ∀ {w : World Core} (txStatus attempts retries), I w →
    I ⟨w.own.withSchedules txStatus attempts retries, w.log⟩
  ran : ∀ {w w' : World Core} {id : FlowId} {flow : State} {next : Option Steps}, I w →
    w.own.pegoutFlows.lookup id = some flow → Ran id flow next w w' → AdvancesBy plain flow next →
    I w'
  cleanedUp : ∀ {w w' : World Core}, I w → CleanedUp env.toEnv w w' → I w'
  created : ∀ {w w' : World Core} {event}, I w → Created config event w w' → I w'

section FlowRules

variable {config : ProcessorConfig} {env : PegoutEnv} {plain : StepData → Prop}
  {I : World Core → Prop}

theorem FlowRules.rules (h : FlowRules config env plain I) : Rules config env plain I where
  called _ hw := h.subFlows (fun t => t) (List.suffix_cons _ _) hw
  subFlows := h.subFlows
  schedules := h.schedules
  cleanup _ hw := wp_mono cleanupTerminalFlows_cleans (fun _ _ hc => h.cleanedUp hw hc)
    fun _ _ hfalse => hfalse.elim
  completed hplain hw hlookup := wp_always (completeFlowStep_runs hplain)
    fun _ ⟨_, hran, hmoves⟩ => h.ran hw hlookup hran hmoves
  polled hw hlookup := wp_always (onFlow_stays onlyCalls_requestTransactionStatus)
    fun _ ⟨hran, _⟩ => h.ran hw hlookup hran nofun
  created event _ hw := wp_always (createFlow_creates event) fun _ hc => h.created hw hc

theorem Core.pegoutFlows_reconstructFlow (core : Core) (id : FlowId) (flow : State) :
    (core.reconstructFlow config id flow).pegoutFlows = core.pegoutFlows := by
  unfold Core.reconstructFlow
  split
  · split <;> rfl
  all_goals rfl

/-- **The loop of a start.** The runtime state is rebuilt flow by flow; `J` holds with the flows that
are still to come, and the flows in the table do not change meanwhile. -/
theorem wp_reconstruct {J : List (FlowId × State) → World Core → Prop} {E : World Core → Prop}
    {w : World Core} (hstart : J (w.own.pegoutFlows.inOrder (env.rank w.log .flows)) w)
    (hflow : ∀ {id flow rest} {w w' : World Core}, J ((id, flow) :: rest) w →
      w.own.pegoutFlows.lookup id = some flow →
      Ran id flow none ⟨w.own.reconstructFlow config id flow, w.log⟩ w' → J rest w' ∧ E w') :
    wp (reconstructRuntimeStateFromFlows config env) (fun _ => J []) (fun _ => E) w := by
  simp only [reconstructRuntimeStateFromFlows, wp_bind, wp_get]
  have hloop : wp ((w.own.pegoutFlows.inOrder (env.rank w.log .flows)).forM
        fun (entry : FlowId × State) => do
          modifyCore fun core => core.reconstructFlow config entry.1 entry.2
          onFlow entry.1 entry.2 (redrivePendingBitvmxRequest env.toEnv))
      (fun _ w' => J [] w' ∧ ∀ entry ∈ ([] : List (FlowId × State)),
        w'.own.pegoutFlows.lookup entry.1 = some entry.2) (fun _ => E) w := by
    refine wp_forM (fun (rest : List (FlowId × State)) w' => J rest w' ∧ ∀ entry ∈ rest,
      w'.own.pegoutFlows.lookup entry.1 = some entry.2) ?_ ?_
    · rintro ⟨id, flow⟩ rest w₁ ⟨hw₁, hrest⟩
      have hhere := hrest _ List.mem_cons_self
      simp only [wp_bind, wp_modifyCore]
      apply wp_mono (onFlow_stays onlyCalls_redrivePendingBitvmxRequest)
      · rintro _ w₃ ⟨hran, hsame⟩
        refine ⟨(hflow hw₁ hhere hran).1, fun entry hentry => ?_⟩
        have hother := hrest entry (List.mem_cons_of_mem _ hentry)
        by_cases hid : entry.1 = id
        · rw [hid] at hother ⊢
          rw [hsame]
          exact hhere.symm.trans hother
        · rw [hran.lookup_ne hid]
          show (w₁.own.reconstructFlow config id flow).pegoutFlows.lookup _ = _
          rw [Core.pegoutFlows_reconstructFlow]
          exact hother
      · rintro _ w₃ ⟨hran, -⟩
        exact (hflow hw₁ hhere hran).2
    · exact ⟨hstart, fun entry hentry => Table.mem_inOrder.mp hentry⟩
  exact wp_mono hloop (fun _ _ hw' => hw'.1) fun _ _ hw' => hw'

theorem FlowRules.keeps_reconstruct (h : FlowRules config env plain I)
    (htimeouts : IgnoresTimeouts I) :
    Keeps I (reconstructRuntimeStateFromFlows config env) := by
  intro w hw
  have hreconstruct : ∀ (core : Core) (log : Contracts.Log) (id : FlowId) (flow : State),
      I ⟨core, log⟩ → I ⟨core.reconstructFlow config id flow, log⟩ := by
    intro core log id flow hcore
    unfold Core.reconstructFlow
    split
    · split
      · exact hcore
      · exact htimeouts ⟨core, log⟩ core.advanceFundsTimeoutScheduler _ hcore
    · exact h.schedules _ core.unconfirmedRegisterPegout core.registerPegoutRetryScheduler hcore
    · exact h.schedules core.txStatusScheduler _ _ hcore
    · exact hcore
  refine wp_reconstruct (J := fun _ => I) hw fun {id flow _ w₁ w₂} hw₁ hlookup hran => ?_
  have hlookup' : (w₁.own.reconstructFlow config id flow).pegoutFlows.lookup id = some flow := by
    rw [Core.pegoutFlows_reconstructFlow]
    exact hlookup
  have hw₂ : I w₂ := h.ran (hreconstruct w₁.own w₁.log id flow hw₁) hlookup' hran nofun
  exact ⟨hw₂, hw₂⟩

end FlowRules

/-! ## Runs -/

/-! What a new process finds of the flows, whatever was stored of the processor. -/

@[simp] theorem load_pegoutFlows (p : Processor) :
    (Processor.load p).core.pegoutFlows = p.core.store.rekey State.flowId := by
  unfold Processor.load
  cases p.saved <;> rfl

@[simp] theorem load_store (p : Processor) : (Processor.load p).core.store = p.core.store := by
  unfold Processor.load
  cases p.saved <;> rfl

@[simp] theorem load_handled (p : Processor) :
    (Processor.load p).core.handled ++ (Processor.load p).core.handledBefore
      = p.core.handled ++ p.core.handledBefore := by
  unfold Processor.load
  cases p.saved <;> rfl

@[simp] theorem load_calls (p : Processor) : (Processor.load p).core.callsOf = ∅
    ∧ (Processor.load p).core.callsOfReplaced = [] := by
  unfold Processor.load
  cases p.saved <;> exact ⟨rfl, rfl⟩

section Runs

variable {config : ProcessorConfig} {env : PegoutEnv}

theorem step_of_wp {s : System Core} {input : Input} {Q : System Core → Prop}
    (hinput : input ≠ .restart)
    (hpanicked : s.panicked = true → Q ⟨Processor.begin s.processor, s.past, s.panicked⟩)
    (h : s.panicked = false →
      wp (callProgram config env input) (fun _ w => Q ⟨w.own, w.log ++ s.past, false⟩)
        (fun e w => Q ⟨w.own, w.log ++ s.past, !e.isError⟩) ⟨Processor.begin s.processor, []⟩) :
    Q (step config s (env, input)) := by
  have hcall : Q (System.call ⟨Processor.begin s.processor, s.past, s.panicked⟩
      (callProgram config env input)) := System.call_of_wp hpanicked h
  cases input with
  | restart => exact absurd rfl hinput
  | _ => exact hcall

theorem step_restart_of_wp {s : System Core} {Q : System Core → Prop}
    (h : wp (callProgram config env .restart) (fun _ w => Q ⟨w.own, w.log ++ s.past, false⟩)
      (fun _ w => Q ⟨w.own, w.log ++ s.past, true⟩)
      ⟨Processor.begin (Processor.load s.processor), []⟩) : Q (step config s (env, .restart)) := by
  show Q (startAgain config env s)
  unfold startAgain
  unfold wp at h
  split
  · next w heq => rw [heq] at h; exact h
  · next w heq => rw [heq] at h; exact h

/-- **One step.** The invariant has to hold of the core at the start of a call, and of the one that a
new process loads; the calls of the step are on a log of their own. -/
theorem step_keeps {I : World Core → Prop} (h : Handlers config env I) {s : System Core}
    (hbegin : I ⟨(Processor.begin s.processor).core, []⟩)
    (hload : I ⟨(Processor.begin (Processor.load s.processor)).core, []⟩) (input : Input) :
    ∃ log, (step config s (env, input)).past = log ++ s.past
      ∧ I ⟨(step config s (env, input)).processor.core, log⟩ := by
  let Q : System Core → Prop := fun s' => ∃ log, s'.past = log ++ s.past ∧ I ⟨s'.processor.core, log⟩
  have hprogram : ∀ p : Processor, I ⟨p.core, []⟩ →
      wp (callProgram config env input) (fun _ w => I ⟨w.own.core, w.log⟩)
        (fun _ w => I ⟨w.own.core, w.log⟩) ⟨p, []⟩ := by
    intro p hp
    have hstart : OnCore I ⟨p, []⟩ := ⟨hp, fun _ _ => trivial⟩
    exact wp_always (h.keeps_callProgram input _ hstart) fun _ hw => hw.1
  by_cases hinput : input = .restart
  · subst hinput
    refine step_restart_of_wp (Q := Q) ?_
    exact wp_always (hprogram _ hload) fun w hw => ⟨w.log, rfl, hw⟩
  · refine step_of_wp (Q := Q) hinput (fun _ => ⟨[], rfl, hbegin⟩) fun _ => ?_
    exact wp_always (hprogram _ hbegin) fun w hw => ⟨w.log, rfl, hw⟩

end Runs

end UnionBridge.Pegout
