import UnionBridge.Pegin.Rules

/-!
# What the pegin processor keeps

`Upholds P` holds of a processor when every flow it has, in memory, in the store or dropped as
terminal, has the property `P`, and its subflows and buffers are well formed. It survives every call
and every restart, for any `P` that survives what a call can do to a single flow (`FlowProperty`).
-/

namespace UnionBridge.Pegin

open Chain Contracts Bitvmx Coordinator Effect

/-! ## The invariant -/

/-- Formed subflows, and buffers with each event under its own key. -/
structure FormedTables (subFlows : SubFlows)
    (requested : Table Txid (EventWithBlock PeginRequested))
    (takes : Table Txid (EventWithBlock AllOperatorTakeTxidsAdded))
    (accepted : Table Txid (EventWithBlock PeginAccepted)) : Prop where
  subFlows : ∀ id s, subFlows.lookup id = some s → s.Formed
  requested : ∀ txid event, requested.lookup txid = some event →
    TxIdParser.fb32ToTxid event.inner.requestPeginTxid = txid
  takes : ∀ txid event, takes.lookup txid = some event →
    TxIdParser.fb32ToTxid event.inner.acceptPeginTxid = txid
  accepted : ∀ txid event, accepted.lookup txid = some event →
    TxIdParser.fb32ToTxid event.inner.acceptPeginTxid = txid

def Core.Tables (core : Core) : Prop :=
  FormedTables core.signatureFlows core.pendingPeginRequested
    core.pendingAllOperatorTakeTxidsAdded core.pendingPeginAccepted

/-- The property `P` may speak of the key of a flow and of the calls made so far. -/
structure Upholds (P : FlowId → Contracts.Log → State → Prop) (w : World Core) : Prop where
  flows : ∀ id s, w.own.peginFlows.lookup id = some s → P id w.log s
  store : ∀ id s, w.own.store.lookup id = some s → P id w.log s
  retired : ∀ s log, (s, log) ∈ w.own.retired → ∃ id, P id log s
  tables : w.own.Tables

def SurvivesCalls (P : FlowId → Contracts.Log → State → Prop) : Prop :=
  ∀ id log log' s, log <:+ log' → P id log s → P id log' s

structure HasProperty (P : FlowId → Contracts.Log → State → Prop) (id : FlowId) (w : World Flow) :
    Prop where
  memory : P id w.log w.own.state
  record : ∀ s, w.own.saved = some s → P id w.log s

/-- What `P` has to survive, where only the data in `plain` are used. -/
structure FlowProperty (config : ProcessorConfig) (env : CallEnv) (plain : StepData → Prop)
    (P : FlowId → Contracts.Log → State → Prop) : Prop where
  calls : SurvivesCalls P
  keyed : ∀ {id : FlowId} {log : Contracts.Log} {s : State}, P id log s → s.flowId = id
  new : ∀ (log : Contracts.Log) (txid : Txid), P (flowIdFromRequestPeginTxid config.libs txid) log
    (State.new txid (flowIdFromRequestPeginTxid config.libs txid))
  found : plain .peginTransactionFound
  completed : ∀ {id : FlowId} {data : StepData}, plain data →
    Keeps (HasProperty P id) (completeStep config.toConfig env.toEnv data)
  failed : ∀ {id : FlowId}, Keeps (HasProperty P id) (markFailed config.toConfig env.toEnv)

namespace Upholds

variable {P : FlowId → Contracts.Log → State → Prop} {w : World Core}

theorem extend (hcalls : SurvivesCalls P) (h : Upholds P w) {log : Contracts.Log}
    (hlog : w.log <:+ log) : Upholds P ⟨w.own, log⟩ where
  flows id s hs := hcalls _ _ _ _ hlog (h.flows id s hs)
  store id s hs := hcalls _ _ _ _ hlog (h.store id s hs)
  retired := h.retired
  tables := h.tables

theorem withTables (h : Upholds P w) {core : Core} (hflows : core.peginFlows = w.own.peginFlows)
    (hstore : core.store = w.own.store) (hretired : core.retired = w.own.retired)
    (htables : core.Tables) : Upholds P ⟨core, w.log⟩ where
  flows id s hs := h.flows id s (hflows ▸ hs)
  store id s hs := h.store id s (hstore ▸ hs)
  retired s log hs := h.retired s log (hretired ▸ hs)
  tables := htables

theorem putSaved (h : Upholds P w) {id : FlowId} {saved : Option State}
    (hsaved : ∀ s, saved = some s → P id w.log s) : Upholds P ⟨w.own.putSaved id saved, w.log⟩ where
  flows := h.flows
  store := by
    intro id' s hs
    cases saved with
    | none => exact h.store id' s (Table.lookup_erase_eq_some.mp hs).2
    | some s' =>
      rcases Table.lookup_insert_eq_some.mp hs with ⟨rfl, rfl⟩ | ⟨-, hs⟩
      · exact hsaved _ rfl
      · exact h.store id' s hs
  retired := h.retired
  tables := h.tables

theorem insertFlow (h : Upholds P w) {id : FlowId} {flow : State} (hflow : P id w.log flow) :
    Upholds P ⟨{ w.own with peginFlows := w.own.peginFlows.insert id flow }, w.log⟩ where
  flows := by
    intro id' s hs
    rcases Table.lookup_insert_eq_some.mp hs with ⟨rfl, rfl⟩ | ⟨-, hs⟩
    · exact hflow
    · exact h.flows id' s hs
  store := h.store
  retired := h.retired
  tables := h.tables

end Upholds

/-! ## Running a flow -/

section Run

variable {config : ProcessorConfig} {env : CallEnv} {P : FlowId → Contracts.Log → State → Prop}

theorem upholds_onFlow {α : Type} (hcalls : SurvivesCalls P) {m : FlowM α} {id : FlowId} (hgrows : Grows m) (hkeeps : Keeps (HasProperty P id) m)
    {w : World Core} {flow : State} (hw : Upholds P w) (hflow : P id w.log flow) :
    wp (onFlow id flow m) (fun _ => Upholds P) (fun _ => Upholds P) w := by
  have hput : ∀ t : World Flow, HasProperty P id t ∧ w.log <:+ t.log →
      Upholds P ⟨w.own.putFlow id t.own, t.log⟩ := by
    rintro t ⟨ht, hlog⟩
    have hsaved : Upholds P ⟨w.own.putSaved id t.own.saved, t.log⟩ :=
      (hw.extend hcalls hlog).putSaved ht.record
    exact hsaved.insertFlow ht.memory
  rw [onFlow, wp_zoom]
  have hstart : HasProperty P id ⟨⟨flow, w.own.store.lookup id⟩, w.log⟩ :=
    ⟨hflow, fun s hs => hw.store id s hs⟩
  exact wp_mono (wp_and (hkeeps _ hstart) (grows_wp hgrows _)) (fun _ => hput) fun _ => hput

theorem onlyCalls_requestTransactionStatus :
    OnlyCalls Call.Plain (requestTransactionStatus env.toEnv) :=
  .bind (onlyCalls_acceptPeginTxidFromBitvmxVar _) fun _ =>
    .bind onlyCalls_bitvmxProtocolId fun _ => onlyCalls_sendBitvmxMsg rfl

theorem keeps_requestTransactionStatus (hcalls : SurvivesCalls P) (id : FlowId) :
    Keeps (HasProperty P id) (requestTransactionStatus env.toEnv) := by
  intro w hw
  have hstep : ∀ w', w'.own = w.own ∧ w.log <:+ w'.log → HasProperty P id w' := by
    rintro w' ⟨hown, hlog⟩
    refine ⟨?_, fun s hs => ?_⟩
    · rw [hown]
      exact hcalls _ _ _ _ hlog hw.memory
    · exact hcalls _ _ _ _ hlog (hw.record s (hown ▸ hs))
  exact wp_mono (wp_and (wp_own_of_onlyCalls onlyCalls_requestTransactionStatus)
    (grows_wp (grows_of_onlyCalls onlyCalls_requestTransactionStatus) w)) (fun _ => hstep)
    fun _ => hstep

theorem upholds_found {plain : StepData → Prop} (h : FlowProperty config env plain P) (txId : Txid) :
    Keeps (Upholds P) (handlePeginTransactionFound config env txId) := by
  intro w hw
  simp only [handlePeginTransactionFound, onNewFlow, wp_bind, wp_get, wp_ite, wp_pure, wp_zoom,
    wp_modifyCore]
  split
  · exact hw
  have hstart : HasProperty P (flowIdFromRequestPeginTxid config.libs txId)
      ⟨⟨State.new txId (flowIdFromRequestPeginTxid config.libs txId),
        w.own.store.lookup (flowIdFromRequestPeginTxid config.libs txId)⟩, w.log⟩ :=
    ⟨h.new _ _, fun s hs => hw.store _ s hs⟩
  have hsaved : ∀ t : World Flow, HasProperty P (flowIdFromRequestPeginTxid config.libs txId) t →
      w.log <:+ t.log → Upholds P
        ⟨w.own.putSaved (flowIdFromRequestPeginTxid config.libs txId) t.own.saved, t.log⟩ :=
    fun t ht hlog => (hw.extend h.calls hlog).putSaved ht.record
  apply wp_mono (wp_and (h.completed h.found _ hstart)
    (grows_wp (within_completeStep admitsAll_grows _) _))
  · rintro _ t ⟨ht, hlog⟩
    have hflow : Upholds P _ := (hsaved t ht hlog).insertFlow ht.memory
    exact hflow.withTables rfl rfl rfl hflow.tables
  · rintro _ t ⟨ht, hlog⟩
    exact hsaved t ht hlog

end Run

/-! ## Terminal flows -/

section Cleanup

variable {config : ProcessorConfig} {env : CallEnv} {P : FlowId → Contracts.Log → State → Prop}

/-- Forgetting flows touches only what waits for them. -/
structure Core.Forgets (core core' : Core) : Prop where
  flows : core'.peginFlows = core.peginFlows
  store : core'.store = core.store
  retired : core'.retired = core.retired
  tables : core.Tables → core'.Tables

theorem forgetFlow_forgets (libs : Libs) (core : Core) (id : FlowId) (flow : State) :
    core.Forgets (core.forgetFlow libs id flow) where
  flows := rfl
  store := rfl
  retired := rfl
  tables h := by
    refine ⟨fun id' s hs => ?_, fun txid event hevent => ?_, h.takes, h.accepted⟩
    · simp only [Core.forgetFlow] at hs
      split at hs
      · exact h.subFlows id' s (Table.lookup_erase_eq_some.mp hs).2
      · exact h.subFlows id' s hs
    · exact h.requested txid event (Table.lookup_erase_eq_some.mp hevent).2

theorem forgetFlows_forgets (libs : Libs) (terminal : List (FlowId × State)) (core : Core) :
    core.Forgets
      (terminal.foldl (fun core entry => core.forgetFlow libs entry.1 entry.2) core) := by
  induction terminal generalizing core with
  | nil => exact ⟨rfl, rfl, rfl, id⟩
  | cons entry terminal ih =>
    have hfirst := forgetFlow_forgets libs core entry.1 entry.2
    have hrest := ih (core.forgetFlow libs entry.1 entry.2)
    exact ⟨hrest.flows.trans hfirst.flows, hrest.store.trans hfirst.store,
      hrest.retired.trans hfirst.retired, fun htables => hrest.tables (hfirst.tables htables)⟩

theorem upholds_deleteFlow (hcalls : SurvivesCalls P) (flowId : FlowId) :
    Keeps (Upholds P) (deleteFlow env flowId) := by
  intro w hw
  simp only [deleteFlow, wp_bind, wp_perform]
  have hcalled : Upholds P ⟨w.own, ⟨.deleteFlow (.peginFlow flowId.value),
      env.answer w.log (.deleteFlow (.peginFlow flowId.value))⟩ :: w.log⟩ :=
    hw.extend hcalls (List.suffix_cons _ _)
  split
  · rw [wp_modifyCore]
    exact ⟨hcalled.flows, fun id s hs => hcalled.store id s (Table.lookup_erase_eq_some.mp hs).2,
      hcalled.retired, hcalled.tables⟩
  · exact hcalled

theorem upholds_cleanup (hcalls : SurvivesCalls P) :
    Keeps (Upholds P) (cleanupTerminalFlows config env) := by
  intro w hw
  simp only [cleanupTerminalFlows, wp_bind, wp_get, wp_modifyCore]
  have hforgets := forgetFlows_forgets config.libs
    (w.own.terminalFlows (env.rank w.log .flows)) w.own
  have hforgotten := hw.withTables hforgets.flows hforgets.store hforgets.retired
    (hforgets.tables hw.tables)
  have hdeleted : Keeps (Upholds P) ((w.own.terminalFlows (env.rank w.log .flows)).forM
      fun entry => deleteFlow env entry.1) :=
    keeps_forM (fun _ => upholds_deleteFlow hcalls _) _
  apply wp_mono (hdeleted _ hforgotten)
  · intro _ w₁ hw₁
    refine ⟨fun id s hs => ?_, hw₁.store, fun s log hs => ?_, hw₁.tables⟩
    · rw [Table.lookup_retain, Option.filter_eq_some_iff] at hs
      exact hw₁.flows id s hs.1
    · rcases List.mem_append.mp hs with hs | hs
      · exact hw₁.retired s log hs
      · obtain ⟨⟨id, flow⟩, hmem, heq⟩ := List.mem_map.mp hs
        cases heq
        exact ⟨id, hw.flows id flow (Table.mem_inOrder.mp (List.mem_filter.mp hmem).1)⟩
  · exact fun _ _ hw₁ => hw₁

end Cleanup

/-! ## The rules -/

section Rules

variable {config : ProcessorConfig} {env : CallEnv} {plain : StepData → Prop} {P : FlowId → Contracts.Log → State → Prop}

theorem Upholds.withSubFlows {w : World Core} (h : Upholds P w) {f : SubFlows → SubFlows}
    (hf : ∀ id s, (f w.own.signatureFlows).lookup id = some s → s.Formed) :
    Upholds P ⟨putSubFlows f w.own, w.log⟩ :=
  h.withTables rfl rfl rfl ⟨hf, h.tables.requested, h.tables.takes, h.tables.accepted⟩

theorem upholds_subFlow (hcalls : SurvivesCalls P) {m : SubFlowM Unit} (hgrows : Grows m)
    (hkeeps : Keeps (fun w : World SignatureSubFlow => w.own.Formed) m) {w : World Core} {id : Uuid}
    {subFlow : SignatureSubFlow} (hw : Upholds P w) (hformed : subFlow.Formed) :
    wp m (fun _ t => Upholds P ⟨putSubFlows (fun table => table.insert id t.own) w.own, t.log⟩)
      (fun _ t => Upholds P ⟨putSubFlows (fun table => table.insert id t.own) w.own, t.log⟩)
      ⟨subFlow, w.log⟩ := by
  have hput : ∀ t : World SignatureSubFlow, t.own.Formed ∧ w.log <:+ t.log →
      Upholds P ⟨putSubFlows (fun table => table.insert id t.own) w.own, t.log⟩ := by
    rintro t ⟨ht, hlog⟩
    refine (hw.extend hcalls hlog).withSubFlows fun id' s hs => ?_
    rcases Table.lookup_insert_eq_some.mp hs with ⟨-, rfl⟩ | ⟨-, hs⟩
    · exact ht
    · exact hw.tables.subFlows id' s hs
  exact wp_mono (wp_and (hkeeps ⟨subFlow, w.log⟩ hformed) (grows_wp hgrows _)) (fun _ => hput)
    fun _ => hput

theorem FlowProperty.rules (h : FlowProperty config env plain P) :
    Rules config env plain (Upholds P) where
  called entry hw := hw.extend h.calls (List.suffix_cons _ _)
  schedules _ _ _ _ hw := hw.withTables rfl rfl rfl hw.tables
  cleanup := upholds_cleanup h.calls
  completed hplain hw hlookup := upholds_onFlow h.calls (within_completeStep admitsAll_grows _)
    (h.completed hplain) hw (hw.flows _ _ hlookup)
  polled hw hlookup := upholds_onFlow h.calls
    (grows_of_onlyCalls onlyCalls_requestTransactionStatus)
    (keeps_requestTransactionStatus h.calls _) hw (hw.flows _ _ hlookup)
  failed hw hlookup := upholds_onFlow h.calls (within_startStep admits_grows (by rintro ⟨⟩)) h.failed hw (hw.flows _ _ hlookup)
  found := upholds_found h
  erased protocolId hw := hw.withSubFlows fun id s hs =>
    hw.tables.subFlows id s (Table.lookup_erase_eq_some.mp hs).2
  blockDelivered block ids := keeps_forEachSubFlow (fun hw hlookup =>
    upholds_subFlow h.calls (grows_delegateBlock block) (keeps_formed_delegateBlock _ block) hw
      (hw.tables.subFlows _ _ hlookup)) ids
  eventDelivered event ids := keeps_forEachSubFlow (fun hw hlookup =>
    upholds_subFlow h.calls (grows_delegateRskEvent _ _ event)
      (keeps_formed_delegateRskEvent _ _ event) hw (hw.tables.subFlows _ _ hlookup)) ids
  requestBuffered event hw := by
    refine hw.withTables rfl rfl rfl
      ⟨hw.tables.subFlows, fun txid e he => ?_, hw.tables.takes, hw.tables.accepted⟩
    rcases Table.lookup_insert_eq_some.mp he with ⟨rfl, rfl⟩ | ⟨-, he⟩
    · rfl
    · exact hw.tables.requested txid e he
  requestTaken txid hw := hw.withTables rfl rfl rfl ⟨hw.tables.subFlows, fun txid' e he =>
    hw.tables.requested txid' e (Table.lookup_erase_eq_some.mp he).2, hw.tables.takes,
    hw.tables.accepted⟩
  acceptBuffered event hw := by
    refine hw.withTables rfl rfl rfl
      ⟨hw.tables.subFlows, hw.tables.requested, hw.tables.takes, fun txid e he => ?_⟩
    rcases Table.lookup_insert_eq_some.mp he with ⟨rfl, rfl⟩ | ⟨-, he⟩
    · rfl
    · exact hw.tables.accepted txid e he
  acceptTaken txid hw := hw.withTables rfl rfl rfl ⟨hw.tables.subFlows, hw.tables.requested,
    hw.tables.takes, fun txid' e he =>
      hw.tables.accepted txid' e (Table.lookup_erase_eq_some.mp he).2⟩

theorem FlowProperty.takeRules (h : FlowProperty config env plain P) : TakeRules env (Upholds P) where
  noted _ hw := hw.withTables rfl rfl rfl hw.tables
  buffered event hw := by
    refine hw.withTables rfl rfl rfl
      ⟨hw.tables.subFlows, hw.tables.requested, fun txid e he => ?_, hw.tables.accepted⟩
    rcases Table.lookup_insert_eq_some.mp he with ⟨rfl, rfl⟩ | ⟨-, he⟩
    · rfl
    · exact hw.tables.takes txid e he
  taken txid hw := hw.withTables rfl rfl rfl ⟨hw.tables.subFlows, hw.tables.requested,
    fun txid' e he => hw.tables.takes txid' e (Table.lookup_erase_eq_some.mp he).2,
    hw.tables.accepted⟩
  started protocolId data := by
    intro w hw
    have hnew : (SignatureSubFlow.new protocolId).Formed := fun hcontra => nomatch hcontra
    have hstart : wp (startSignatureFlow env.toEnv protocolId data)
        (fun _ t => t.own.Formed ∧ w.log <:+ t.log) (fun _ t => t.own.Formed ∧ w.log <:+ t.log)
        ⟨SignatureSubFlow.new protocolId, w.log⟩ :=
      wp_and (keeps_formed_startSignatureFlow _ _ _ _ hnew)
        (grows_wp (grows_startSignatureFlow _ _) _)
    simp only [startSubFlow, wp_bind, wp_zoom, wp_get, wp_pure, wp_modifyCore]
    apply wp_mono hstart
    · rintro _ t ⟨ht, hlog⟩
      refine (hw.extend h.calls hlog).withSubFlows fun id s hs => ?_
      rcases Table.lookup_insert_eq_some.mp hs with ⟨-, rfl⟩ | ⟨-, hs⟩
      · exact ht
      · exact hw.tables.subFlows id s hs
    · rintro _ t ⟨-, hlog⟩
      exact hw.extend h.calls hlog

theorem upholds_requestRules : RequestRules (Upholds P) where
  noted _ hw := hw.withTables rfl rfl rfl hw.tables
  scheduled _ _ hw := hw.withTables rfl rfl rfl hw.tables

/-- **What a call keeps.** -/
theorem FlowProperty.handlers (h : FlowProperty config env (fun _ => True) P) :
    Handlers config env (Upholds P) Core.Tables :=
  h.rules.handlers (fun _ _ => trivial) (fun _ => h.rules.keeps_handlePeginRequested trivial)
    h.takeRules upholds_requestRules fun hw => hw.tables

end Rules

/-! ## Starting again -/

section Restart

variable {config : ProcessorConfig} {Q : FlowId → Contracts.Log → State → Prop}

/-- Rebuilding the schedules touches nothing else. -/
structure Core.Reschedules (core core' : Core) : Prop where
  flows : core'.peginFlows = core.peginFlows
  store : core'.store = core.store
  retired : core'.retired = core.retired
  tables : core.Tables → core'.Tables

theorem reconstructFlow_reschedules (config : ProcessorConfig) (core : Core) (id : FlowId) (flow : State) :
    core.Reschedules (core.reconstructFlow config id flow) := by
  unfold Core.reconstructFlow
  split
  · unfold Core.reconstructRequest
    dsimp only
    split
    · exact ⟨rfl, rfl, rfl, fun h => h⟩
    · exact ⟨rfl, rfl, rfl, fun h => h⟩
  · exact ⟨rfl, rfl, rfl, fun h => h⟩
  · exact ⟨rfl, rfl, rfl, fun h => h⟩
  · exact ⟨rfl, rfl, rfl, fun h => h⟩

theorem reconstruct_reschedules (config : ProcessorConfig) (rank : FlowId → Nat) (core : Core) :
    core.Reschedules (core.reconstructRuntimeStateFromFlows config rank) := by
  have hfold : ∀ (entries : List (FlowId × State)) (core : Core), core.Reschedules
      (entries.foldl (fun core entry => core.reconstructFlow config entry.1 entry.2) core) := by
    intro entries
    induction entries with
    | nil => exact fun _ => ⟨rfl, rfl, rfl, fun h => h⟩
    | cons entry entries ih =>
      intro core
      have hfirst := reconstructFlow_reschedules config core entry.1 entry.2
      have hrest := ih (core.reconstructFlow config entry.1 entry.2)
      exact ⟨hrest.flows.trans hfirst.flows, hrest.store.trans hfirst.store,
        hrest.retired.trans hfirst.retired, fun h => hrest.tables (hfirst.tables h)⟩
  exact hfold _ core

theorem Core.Tables.new : Core.new.Tables :=
  ⟨(fun _ _ h => nomatch h), (fun _ _ h => nomatch h), (fun _ _ h => nomatch h),
    fun _ _ h => nomatch h⟩

theorem Core.Tables.apply {core saved : Core} (h : saved.Tables) :
    (core.applyProcessorState saved).Tables := by
  refine ⟨fun id s hs => ?_, h.requested, h.takes, h.accepted⟩
  have hs : (saved.signatureFlows.mapValues (·.restore)).lookup id = some s := hs
  rw [Table.lookup_mapValues, Option.map_eq_some_iff] at hs
  obtain ⟨s', hs', rfl⟩ := hs
  exact (h.subFlows id s' hs').restore

theorem Upholds.load (hkeyed : ∀ id log s, Q id log s → s.flowId = id) {w : World Core}
    (h : Upholds Q w) : Upholds Q ⟨w.own.load, w.log⟩ where
  flows id s hs := by
    obtain ⟨hid, id', hs'⟩ := Table.lookup_rekey hs
    have hs' := h.store id' s hs'
    rwa [← hid, hkeyed _ _ _ hs']
  store := h.store
  retired s log hs := nomatch hs
  tables := Core.Tables.new

theorem Upholds.restart (hkeyed : ∀ id log s, Q id log s → s.flowId = id) {env : CallEnv}
    {p : Processor} {log : Contracts.Log} (h : Upholds Q ⟨p.core, log⟩)
    (hsaved : ∀ saved, p.saved = some saved → saved.1.Tables) :
    Upholds Q ⟨(Processor.restart config env p).core, log⟩ := by
  have hload := h.load hkeyed
  have hreconstruct : ∀ core : Core, core.peginFlows = p.core.load.peginFlows →
      core.store = p.core.load.store → core.retired = p.core.load.retired → core.Tables →
      Upholds Q ⟨core.reconstructRuntimeStateFromFlows config (env.rank [] .flows), log⟩ := by
    intro core hflows hstore hretired htables
    have hr := reconstruct_reschedules config (env.rank [] .flows) core
    exact hload.withTables (hr.flows.trans hflows) (hr.store.trans hstore)
      (hr.retired.trans hretired) (hr.tables htables)
  unfold Processor.restart
  dsimp only
  split
  · next saved confirming heq => exact hreconstruct _ rfl rfl rfl (hsaved _ heq).apply
  · exact hreconstruct _ rfl rfl rfl hload.tables

end Restart

/-! ## Runs -/

/-- The invariant of the process, over all the calls it made. -/
structure SystemUpholds (Q : FlowId → Contracts.Log → State → Prop) (s : System Core) : Prop where
  flows : ∀ id flow, s.processor.core.peginFlows.lookup id = some flow → Q id s.past flow
  store : ∀ id flow, s.processor.core.store.lookup id = some flow → Q id s.past flow
  tables : s.processor.core.Tables
  saved : ∀ saved, s.processor.saved = some saved → saved.1.Tables

section Runs

variable {config : ProcessorConfig} {Q : FlowId → Contracts.Log → State → Prop}

theorem systemUpholds_start : SystemUpholds Q start :=
  ⟨(fun _ _ h => nomatch h), (fun _ _ h => nomatch h), Core.Tables.new, fun _ h => nomatch h⟩

theorem SystemUpholds.upholds {s : System Core} (h : SystemUpholds Q s) :
    Upholds Q ⟨(Processor.begin s.processor).core, s.past⟩ :=
  ⟨h.flows, h.store, (fun _ _ hs => nomatch hs), h.tables⟩

/-- **One call.** The flows that it dropped had the property with the calls made until then. -/
theorem SystemUpholds.step {env : CallEnv}
    (hQ : ∀ past, FlowProperty config env (fun _ => True) fun id log flow =>
      Q id (log ++ past) flow)
    {s : System Core} (h : SystemUpholds Q s) (input : Input) :
    SystemUpholds Q (step config s (env, input))
      ∧ ∀ flow log, (flow, log) ∈ (Pegin.step config s (env, input)).processor.core.retired →
        ∃ id, Q id (log ++ s.past) flow := by
  have hkeyed : ∀ id log flow, Q id log flow → flow.flowId = id := fun id log flow hflow =>
    (hQ log).keyed (show Q id ([] ++ log) flow from hflow)
  have hr : Upholds Q
      ⟨(Processor.restart config env (Processor.begin s.processor)).core, s.past⟩ :=
    h.upholds.restart hkeyed h.saved
  obtain ⟨log, hpast, hcore, hsaved⟩ := (hQ s.past).handlers.step_keeps
    (s := s) ⟨h.flows, h.store, (fun _ _ hs => nomatch hs), h.tables⟩ h.saved
    ⟨hr.flows, hr.store, (fun _ _ hs => nomatch hs), hr.tables⟩ input
  refine ⟨⟨fun id flow hflow => ?_, fun id flow hflow => ?_, hcore.tables, hsaved⟩, hcore.retired⟩
  · rw [hpast]
    exact hcore.flows id flow hflow
  · rw [hpast]
    exact hcore.store id flow hflow

end Runs

end UnionBridge.Pegin
