import UnionBridge.AdvanceFunds.Events

/-!
# The order of the confirmed events

The events that have their confirmations with one block are handled in the order of a hash table, up
to the first that fails. `Applied` says what a set of handled events makes of the flows and of the
hashes of the requests, without an order; one more event that can be handled, and is not about the
take of another one, keeps it.
-/

namespace UnionBridge.AdvanceFunds

open Chain Contracts Bitvmx Coordinator Effect

/-! ## One event and its flow -/

/-- With an event, a flow that waits at `expects` goes on to `next`. -/
structure Completion where
  data : StepData
  expects : Steps
  next : Steps

/-- What a confirmed event asks of the flow of its take; its key may be unreadable. -/
def completionOf (libs : Libs) : RskPegManagerEvents → Option Completion
  | .advanceFundsRegistered e =>
    (advanceFundsRegisteredFromEvent libs e.inner).toOption.map fun message =>
      ⟨.advanceFundsConfirmed message, .registerOrWaitRskAdvanceFunds,
        .setVarBitVmxAdvanceFundsRegistered⟩
  | .reimbursementKickoffRegistered _ => some ⟨.reimbursementKickoffConfirmed,
      .registerOrWaitRskReimbursementKickoff, .waitBitVmxOperatorTakeSpv⟩
  | .pegoutRegistered e => some ⟨.pegoutRegistered e.inner, .registerOrWaitRskOperatorTake, .done⟩
  | _ => none

/-- The flow after the event. -/
def FlowContext.completed (flow : FlowContext) (c : Completion) : FlowContext :=
  { flow with
    step := c.next
    advanceFundsRegistered := match c.data with
      | .advanceFundsConfirmed message => some message
      | _ => flow.advanceFundsRegistered
    pendingRetry := false }

/-- The outside takes the calls that entering the step makes for an event. -/
structure Serves (env : Env) (id : FlowId) (next : Steps) : Prop where
  saves : ∀ log, env.answer log (.saveFlow (.operatorTakeFlow id.value)) = .ok ()
  sends : next = .getBitVmxCommInfo ∨ next = .setVarBitVmxAdvanceFundsRegistered →
    ∀ log message, env.answer log (.send message) = .ok ()
  signals : next = .done → ∀ log, env.answer log (.signalDone .advanceFunds id.value) = .ok ()

section Flow

variable {config : Config} {env : Env} {w : World Flow} {event : RskPegManagerEvents}
  {c : Completion} {next : Steps}

theorem startStep_serves (hsaves : ∀ log, env.answer log
      (.saveFlow (.operatorTakeFlow w.own.state.flowId.value)) = .ok ())
    (henter : ∀ log, wp (enterStep config env next)
      (fun outcome t => outcome = .done
        ∧ t.own = { w.own with state := { w.own.state with step := next } })
      (fun _ _ => False) ⟨{ w.own with state := { w.own.state with step := next } }, log⟩) :
    wp (startStep config env next)
      (fun outcome t => outcome = .done
        ∧ t.own.state = { w.own.state with step := next, pendingRetry := false })
      (fun _ _ => False) w := by
  simp only [startStep, orRestore, getState, modifyState, wp_bind, wp_get, wp_pure, wp_modify,
    wp_attempt]
  refine wp_mono (henter w.log) ?_ fun _ _ h => h.elim
  rintro outcome t ⟨rfl, hown⟩
  simp only [persistState, getState, wp_bind, wp_pure, wp_modify, wp_get, wp_perform, wp_orText, hown,
    id_eq]
  refine ⟨fun _ _ => ⟨trivial, rfl⟩, fun _ h => ?_⟩
  rw [hsaves] at h
  cases h

theorem completeStep_of_event (hc : completionOf config.libs event = some c)
    (hvalid : w.own.state.step.isValidTransition c.expects
      (w.own.state.wasSelectedOperator config) = true)
    (hserves : Serves env w.own.state.flowId c.next) :
    wp (completeStep config env c.data)
      (fun outcome t => outcome = .done ∧ t.own.state = w.own.state.completed c)
      (fun _ _ => False) w := by
  cases event with
  | advanceFundsRegistered e =>
    simp only [completionOf] at hc
    obtain ⟨message, -, rfl⟩ := Option.map_eq_some_iff.mp hc
    simp only [completeStep, handleStepData, onAdvanceFundsConfirmed, getState, modifyState,
      wp_bind, wp_get, wp_pure, wp_ensure, wp_modify]
    rw [if_pos hvalid]
    refine startStep_serves hserves.saves fun log => ?_
    simp only [enterStep, enterNotifyRegistered, sendBitvmxMsg, getState, wp_bind, wp_get, wp_pure,
      wp_perform, wp_orText, wp_okOr, id_eq]
    refine ⟨fun _ _ => ⟨fun _ _ => ⟨trivial, trivial⟩, fun _ h => ?_⟩, by rintro ⟨⟩⟩
    rw [hserves.sends (.inr rfl)] at h
    cases h
  | reimbursementKickoffRegistered e =>
    cases hc
    simp only [completeStep, handleStepData, onReimbursementKickoffConfirmed, getState,
        wp_bind, wp_get, wp_pure, wp_ensure]
    rw [if_pos hvalid]
    exact startStep_serves hserves.saves fun log => ⟨rfl, rfl⟩
  | pegoutRegistered e =>
    cases hc
    simp only [completeStep, handleStepData, onPegoutRegistered, getState,
        wp_bind, wp_get, wp_pure, wp_ensure]
    rw [if_pos hvalid]
    refine startStep_serves hserves.saves fun log => ?_
    simp only [enterStep, enterWriteCompletionMarker, getState, wp_bind, wp_get, wp_pure,
      wp_perform, wp_orText, id_eq]
    refine ⟨fun _ _ => ⟨trivial, trivial⟩, fun _ h => ?_⟩
    rw [hserves.signals rfl] at h
    cases h
  | _ => cases hc

/-- The first step of a new flow. -/
def FlowContext.afterTrigger (config : Config) (flow : FlowContext) : FlowContext :=
  { flow with
    step := if flow.wasSelectedOperator config then .getBitVmxCommInfo
      else .registerOrWaitRskAdvanceFunds
    pendingRetry := false }

theorem completeStep_of_trigger (hstep : w.own.state.step = .waitRskOperatorTakeTriggered)
    (hserves : Serves env w.own.state.flowId (w.own.state.afterTrigger config).step) :
    wp (completeStep config env .operatorTakeTriggered)
      (fun outcome t => outcome = .done ∧ t.own.state = w.own.state.afterTrigger config)
      (fun _ _ => False) w := by
  simp only [completeStep, handleStepData, onOperatorTakeTriggered, getState, wp_bind, wp_get,
    wp_pure, wp_ensure]
  rw [if_pos hstep]
  unfold FlowContext.afterTrigger at hserves ⊢
  by_cases hselected : w.own.state.wasSelectedOperator config = true
  · simp only [hselected, if_true] at hserves ⊢
    refine startStep_serves hserves.saves fun log => ?_
    simp only [enterStep, enterRequestCommInfo, sendBitvmxMsg, wp_bind, wp_get, wp_pure,
      wp_perform, wp_orText, id_eq]
    refine ⟨fun _ _ => ⟨trivial, trivial⟩, fun _ h => ?_⟩
    rw [hserves.sends (.inl rfl)] at h
    cases h
  · simp only [hselected] at hserves ⊢
    refine startStep_serves hserves.saves fun log => ?_
    have hother : ({ w.own.state with step := Steps.registerOrWaitRskAdvanceFunds }
        : FlowContext).wasSelectedOperator config = false := Bool.eq_false_iff.mpr hselected
    simp only [enterStep, ifSelected, getState, wp_bind, wp_get, wp_pure, hother, Bool.false_eq_true,
      if_false]
    exact ⟨trivial, trivial⟩

end Flow

/-! ## The confirmed events of a block -/

/-- The committee and slot of a request. -/
def requestKey (e : EventWithBlock PegoutRequested) : Option (CommitteeId × UInt64) :=
  (CommitteeId.tryFrom e.inner.committeeId).map fun committeeId => (committeeId, e.inner.slotId)

variable (config : ProcessorConfig) (e : EventWithBlock OperatorTakeTriggered)

def triggerKey : CommitteeId × UInt64 :=
  (e.inner.pegoutInfo.committeeId, e.inner.streamPosition.slotId)

def triggerIsAbout : RskPegManagerEvents → Prop
  | .advanceFundsRegistered e' => e.inner.pegoutInfo.pegoutId = e'.inner.pegoutId
  | .reimbursementKickoffRegistered e' => e.inner.pegoutInfo.pegoutId = e'.inner.pegoutId
  | .pegoutRegistered e' => triggerKey e = (e'.inner.committeeId, e'.inner.streamInfo.slotId)
  | _ => False

def triggeredFlow (data : OperatorTakeTriggerData) : FlowContext :=
  (FlowContext.new config.libs (triggeredFlowId config e) data).afterTrigger config.toConfig

/-- What the handler of the event needs in order not to fail. An event that completes a step must not
be about two flows. -/
structure Core.Accepts (config : ProcessorConfig) (env : CallEnv) (core : Core)
    (event : RskPegManagerEvents) : Prop where
  request : ∀ e, event = .pegoutRequested e → (requestKey e).isSome = true
  trigger : ∀ e, event = .operatorTakeTriggered e → ∃ data,
    OperatorTakeTriggerData.tryFromEvent config.libs e.inner none = .ok data
      ∧ (env.imMember data.committeeId = true →
        (∀ flow, core.flows.lookup (triggeredFlowId config e) = some flow → flow.isTerminal = true)
          ∧ Serves env.toEnv (triggeredFlowId config e) (triggeredFlow config e data).step)
  readable : ∀ e, event = .advanceFundsRegistered e → (completionOf config.libs event).isSome = true
  valid : ∀ c id flow, completionOf config.libs event = some c → core.flows.lookup id = some flow →
    flow.isTerminal = false → flow.isAbout event = true →
    flow.step.isValidTransition c.expects (flow.wasSelectedOperator config.toConfig) = true
      ∧ Serves env.toEnv id c.next
  one : ∀ id flow id' flow', core.flows.lookup id = some flow → core.flows.lookup id' = some flow' →
    flow.isTerminal = false → flow'.isTerminal = false → flow.isAbout event = true →
    flow'.isAbout event = true → id = id'

/-- Two events whose order counts: they are about one take, or about the hash of one request. -/
inductive Conflict (config : ProcessorConfig) (env : CallEnv) (core : Core) :
    RskPegManagerEvents → RskPegManagerEvents → Prop
  | requests {e e'} (hkey : requestKey e = requestKey e') :
      Conflict config env core (.pegoutRequested e) (.pegoutRequested e')
  | requestTrigger {e e'} (hmember : env.imMember e'.inner.pegoutInfo.committeeId = true)
      (hkey : requestKey e = some (triggerKey e')) :
      Conflict config env core (.pegoutRequested e) (.operatorTakeTriggered e')
  | requestEnd {e e' id flow key} (hflow : core.flows.lookup id = some flow)
      (hlive : flow.isTerminal = false) (habout : flow.isAbout (.pegoutRegistered e') = true)
      (hkey : requestKey e = some key) (hmatches : flow.matchesCommitteeSlot key.1 key.2 = true) :
      Conflict config env core (.pegoutRequested e) (.pegoutRegistered e')
  | triggers {e e'} (hid : triggeredFlowId config e = triggeredFlowId config e') :
      Conflict config env core (.operatorTakeTriggered e) (.operatorTakeTriggered e')
  | triggerEvent {e event} (hmember : env.imMember e.inner.pegoutInfo.committeeId = true)
      (habout : triggerIsAbout e event) : Conflict config env core (.operatorTakeTriggered e) event
  | flow {event event' id flow} (hflow : core.flows.lookup id = some flow)
      (hlive : flow.isTerminal = false) (habout : flow.isAbout event = true)
      (habout' : flow.isAbout event' = true) : Conflict config env core event event'

/-! ### What the handled events make of a core -/

/-- A flow after the events `handled`. -/
inductive Becomes (config : ProcessorConfig) (env : CallEnv) (core : Core)
    (handled : RskPegManagerEvents → Prop) : FlowId → FlowContext → Prop
  | created {e data} (hhandled : handled (.operatorTakeTriggered e))
      (hdata : OperatorTakeTriggerData.tryFromEvent config.libs e.inner
        (core.requestPegoutTxHashes.lookup (triggerKey e)) = .ok data)
      (hmember : env.imMember data.committeeId = true) :
      Becomes config env core handled (triggeredFlowId config e) (triggeredFlow config e data)
  | completed {event c id flow} (hhandled : handled event)
      (hc : completionOf config.libs event = some c) (hflow : core.flows.lookup id = some flow)
      (habout : flow.isAbout event = true) (hlive : (flow.completed c).isTerminal = false) :
      Becomes config env core handled id (flow.completed c)
  | kept {id flow} (hflow : core.flows.lookup id = some flow)
      (hother : ∀ event, handled event → flow.isAbout event = false) :
      Becomes config env core handled id flow

/-- A hash after the events `handled`. -/
inductive Recorded (core : Core) (handled : RskPegManagerEvents → Prop) :
    CommitteeId × UInt64 → TxHash → Prop
  | requested {e key} (hhandled : handled (.pegoutRequested e)) (hkey : requestKey e = some key) :
      Recorded core handled key e.txHash
  | kept {key hash} (hhash : core.requestPegoutTxHashes.lookup key = some hash)
      (hrequests : ∀ e, handled (.pegoutRequested e) → requestKey e ≠ some key)
      (hends : ∀ e id flow, handled (.pegoutRegistered e) → core.flows.lookup id = some flow →
        flow.isAbout (.pegoutRegistered e) = true → flow.matchesCommitteeSlot key.1 key.2 = false) :
      Recorded core handled key hash

/-- The core after the events `handled`, in whatever order. -/
structure Applied (config : ProcessorConfig) (env : CallEnv) (core : Core)
    (handled : RskPegManagerEvents → Prop) (core' : Core) : Prop where
  flows : ∀ id flow, core'.flows.lookup id = some flow ↔ Becomes config env core handled id flow
  hashes : ∀ key hash, core'.requestPegoutTxHashes.lookup key = some hash
    ↔ Recorded core handled key hash

/-- The events and one more. -/
def Also (handled : RskPegManagerEvents → Prop) (event : RskPegManagerEvents) :
    RskPegManagerEvents → Prop := fun e => handled e ∨ e = event

/-- The event can be handled after the events `handled`, on a core without terminal flows. -/
structure Follows (config : ProcessorConfig) (env : CallEnv) (core : Core)
    (handled : RskPegManagerEvents → Prop) (event : RskPegManagerEvents) : Prop where
  live : ∀ id flow, core.flows.lookup id = some flow → flow.isTerminal = false
  keyed : ∀ id flow, core.flows.lookup id = some flow → flow.flowId = id
  accepts : core.Accepts config env event
  apart : ∀ e, handled e → ¬ Conflict config env core e event ∧ ¬ Conflict config env core event e

section Handling

variable {config : ProcessorConfig} {env : CallEnv} {core core' : Core}
  {handled : RskPegManagerEvents → Prop} {event : RskPegManagerEvents} {id : FlowId}
  {flow : FlowContext} {c : Completion}

variable {e : EventWithBlock OperatorTakeTriggered} {data : OperatorTakeTriggerData}
  {key : CommitteeId × UInt64} {core'' : Core}

theorem tryFromEvent_hash {libs : Libs} {e : OperatorTakeTriggered}
    (h : OperatorTakeTriggerData.tryFromEvent libs e none = .ok data) (hash : Option TxHash) :
    OperatorTakeTriggerData.tryFromEvent libs e hash
      = .ok { data with requestPegoutTxHash := hash } := by
  unfold OperatorTakeTriggerData.tryFromEvent at h ⊢
  split at h
  · cases h
  · cases hkey : xonlyToCompressedPubkey libs e.pegoutInfo.operatorTakePubKey with
    | error text =>
      rw [hkey] at h
      cases h
    | ok key =>
      rw [hkey] at h
      cases h
      rfl

theorem isTerminal_triggeredFlow (e : EventWithBlock OperatorTakeTriggered)
    (data : OperatorTakeTriggerData) : (triggeredFlow config e data).isTerminal = false := by
  unfold triggeredFlow FlowContext.afterTrigger FlowContext.isTerminal
  dsimp only
  split <;> rfl

theorem triggerIsAbout_of_isAbout {hash : Option TxHash}
    (hdata : OperatorTakeTriggerData.tryFromEvent config.libs e.inner hash = .ok data)
    (habout : (triggeredFlow config e data).isAbout event = true) : triggerIsAbout e event := by
  obtain ⟨hcommittee, hslot, hpegout⟩ := tryFromEvent_ids hdata
  cases event with
  | advanceFundsRegistered e' => exact hpegout.symm.trans (of_decide_eq_true habout)
  | reimbursementKickoffRegistered e' => exact hpegout.symm.trans (of_decide_eq_true habout)
  | pegoutRegistered e' =>
    obtain ⟨hcommittee', hslot'⟩ := of_decide_eq_true habout
    exact Prod.ext (hcommittee.symm.trans hcommittee') (hslot.symm.trans hslot')
  | _ => cases habout

theorem isTerminal_completed (hc : completionOf config.libs event = some c) :
    (flow.completed c).isTerminal = true ↔ ∃ e, event = .pegoutRegistered e := by
  cases event with
  | advanceFundsRegistered e =>
    obtain ⟨message, -, rfl⟩ := Option.map_eq_some_iff.mp hc
    exact iff_of_false nofun nofun
  | reimbursementKickoffRegistered e =>
    cases hc
    exact iff_of_false nofun nofun
  | pegoutRegistered e =>
    cases hc
    exact iff_of_true rfl ⟨e, rfl⟩
  | _ => cases hc

namespace Applied

variable (h : Applied config env core handled core') (hnext : Follows config env core handled event)

include h hnext

theorem live (hflow : core'.flows.lookup id = some flow) : flow.isTerminal = false := by
  cases (h.flows id flow).mp hflow with
  | created => exact isTerminal_triggeredFlow _ _
  | completed _ _ _ _ hlive => exact hlive
  | kept hold _ => exact hnext.live id flow hold

theorem about_iff : core'.flows.lookup id = some flow ∧ flow.isAbout event = true
    ↔ core.flows.lookup id = some flow ∧ flow.isAbout event = true := by
  constructor
  · rintro ⟨hflow, habout⟩
    cases (h.flows id flow).mp hflow with
    | created hhandled hdata hmember =>
      refine absurd (.triggerEvent ?_ (triggerIsAbout_of_isAbout hdata habout))
        (hnext.apart _ hhandled).1
      rw [← (tryFromEvent_ids hdata).1]
      exact hmember
    | completed hhandled _ hold habout' _ =>
      exact absurd (.flow hold (hnext.live id _ hold) habout' habout) (hnext.apart _ hhandled).1
    | kept hold _ => exact ⟨hold, habout⟩
  · rintro ⟨hflow, habout⟩
    refine ⟨(h.flows id flow).mpr (.kept hflow fun e hhandled => Bool.eq_false_iff.mpr ?_), habout⟩
    intro habout'
    exact (hnext.apart e hhandled).1 (.flow hflow (hnext.live id flow hflow) habout' habout)

end Applied

/-! ### One more event -/

theorem Becomes.also (h : Becomes config env core handled id flow)
    (hother : core.flows.lookup id = some flow → flow.isAbout event = false) :
    Becomes config env core (Also handled event) id flow := by
  cases h with
  | created hhandled hdata hmember => exact .created (.inl hhandled) hdata hmember
  | completed hhandled hc hold habout hlive =>
    exact .completed (.inl hhandled) hc hold habout hlive
  | kept hold hkept =>
    refine .kept hold ?_
    rintro e (hhandled | rfl)
    · exact hkept e hhandled
    · exact hother hold

theorem Becomes.of_also (h : Becomes config env core (Also handled event) id flow)
    (htrigger : ∀ e data hash, event = .operatorTakeTriggered e →
      OperatorTakeTriggerData.tryFromEvent config.libs e.inner hash = .ok data →
      env.imMember data.committeeId = false)
    (hflows : ∀ id flow, core.flows.lookup id = some flow → flow.isAbout event = false) :
    Becomes config env core handled id flow := by
  cases h with
  | created hhandled hdata hmember =>
    rcases hhandled with hhandled | heq
    · exact .created hhandled hdata hmember
    · cases (htrigger _ _ _ heq.symm hdata).symm.trans hmember
  | completed hhandled hc hold habout hlive =>
    rcases hhandled with hhandled | rfl
    · exact .completed hhandled hc hold habout hlive
    · cases (hflows id _ hold).symm.trans habout
  | kept hold hother => exact .kept hold fun e hhandled => hother e (.inl hhandled)

theorem Recorded.also {hash : TxHash} (h : Recorded core handled key hash)
    (hrequest : ∀ e, event = .pegoutRequested e → requestKey e ≠ some key)
    (hend : ∀ e id flow, event = .pegoutRegistered e → core.flows.lookup id = some flow →
      flow.isAbout event = true → flow.matchesCommitteeSlot key.1 key.2 = false) :
    Recorded core (Also handled event) key hash := by
  cases h with
  | requested hhandled hkey => exact .requested (.inl hhandled) hkey
  | kept hhash hrequests hends =>
    refine .kept hhash ?_ ?_
    · rintro e (hhandled | heq)
      · exact hrequests e hhandled
      · exact hrequest e heq.symm
    · rintro e id flow (hhandled | rfl) hflow habout
      · exact hends e id flow hhandled hflow habout
      · exact hend e id flow rfl hflow habout

theorem Recorded.of_also {hash : TxHash} (h : Recorded core (Also handled event) key hash)
    (hrequest : ∀ e, event = .pegoutRequested e → requestKey e ≠ some key) :
    Recorded core handled key hash := by
  cases h with
  | requested hhandled hkey =>
    rcases hhandled with hhandled | heq
    · exact .requested hhandled hkey
    · exact absurd hkey (hrequest _ heq.symm)
  | kept hhash hrequests hends =>
    exact .kept hhash (fun e hhandled => hrequests e (.inl hhandled))
      fun e id flow hhandled => hends e id flow (.inl hhandled)

namespace Applied

variable (h : Applied config env core handled core')

include h

theorem idle
    (hrequest : ∀ e, event ≠ .pegoutRequested e)
    (htrigger : ∀ e data hash, event = .operatorTakeTriggered e →
      OperatorTakeTriggerData.tryFromEvent config.libs e.inner hash = .ok data →
      env.imMember data.committeeId = false)
    (hflows : ∀ id flow, core.flows.lookup id = some flow → flow.isAbout event = false) :
    Applied config env core (Also handled event) core' where
  flows id flow := (h.flows id flow).trans
    ⟨fun hbecomes => hbecomes.also (hflows id flow), fun hbecomes => hbecomes.of_also htrigger hflows⟩
  hashes key hash := by
    refine (h.hashes key hash).trans ⟨fun hrecorded => ?_, fun hrecorded => ?_⟩
    · refine hrecorded.also (fun e heq => absurd heq (hrequest e)) fun e id flow _ hflow habout => ?_
      cases (hflows id flow hflow).symm.trans habout
    · exact hrecorded.of_also fun e heq => absurd heq (hrequest e)

theorem request
    {e : EventWithBlock PegoutRequested}
    (hnext : Follows config env core handled (.pegoutRequested e)) (hkey : requestKey e = some key) :
    Applied config env core (Also handled (.pegoutRequested e))
      { core' with
        requestPegoutTxHashes := core'.requestPegoutTxHashes.insert key e.txHash } where
  flows id flow := (h.flows id flow).trans
    ⟨fun hbecomes => hbecomes.also fun _ => rfl,
      fun hbecomes => hbecomes.of_also (fun _ _ _ heq => nomatch heq) fun _ _ _ => rfl⟩
  hashes key' hash := by
    rw [Table.lookup_insert_eq_some, h.hashes]
    constructor
    · rintro (⟨rfl, rfl⟩ | ⟨hne, hrecorded⟩)
      · exact .requested (.inr rfl) hkey
      · refine hrecorded.also (fun e' heq hkey' => hne ?_) fun _ _ _ heq => nomatch heq
        cases heq
        exact Option.some.inj (hkey'.symm.trans hkey)
    · intro hrecorded
      by_cases heq : key' = key
      · subst heq
        -- two requests for one committee and slot would be in conflict
        cases hrecorded with
        | requested hhandled hkey' =>
          rcases hhandled with hhandled | heq
          · exact absurd (.requests (hkey'.trans hkey.symm)) (hnext.apart _ hhandled).1
          · cases heq
            exact .inl ⟨rfl, rfl⟩
        | kept hhash hrequests _ => exact absurd hkey (hrequests e (.inr rfl))
      · refine .inr ⟨heq, hrecorded.of_also fun e' he hkey' => heq ?_⟩
        cases he
        exact Option.some.inj (hkey'.symm.trans hkey)

theorem create
    (hdata : OperatorTakeTriggerData.tryFromEvent config.libs e.inner
      (core.requestPegoutTxHashes.lookup (triggerKey e)) = .ok data)
    (hmember : env.imMember data.committeeId = true)
    (hnew : core'.flows.lookup (triggeredFlowId config e) = none)
    (hflows : ∀ id flow, core''.flows.lookup id = some flow ↔
      id = triggeredFlowId config e ∧ flow = triggeredFlow config e data
        ∨ id ≠ triggeredFlowId config e ∧ core'.flows.lookup id = some flow)
    (hhashes : ∀ key, core''.requestPegoutTxHashes.lookup key
      = core'.requestPegoutTxHashes.lookup key) :
    Applied config env core (Also handled (.operatorTakeTriggered e)) core'' where
  flows id flow := by
    rw [hflows]
    constructor
    · rintro (⟨rfl, rfl⟩ | ⟨-, hflow⟩)
      · exact .created (.inr rfl) hdata hmember
      · exact ((h.flows id flow).mp hflow).also fun _ => rfl
    · -- what was there before stands under another id
      have hbefore : Becomes config env core handled id flow →
          id ≠ triggeredFlowId config e ∧ core'.flows.lookup id = some flow := by
        intro hbecomes
        have hflow := (h.flows id flow).mpr hbecomes
        refine ⟨?_, hflow⟩
        rintro rfl
        cases hnew.symm.trans hflow
      intro hbecomes
      cases hbecomes with
      | created hhandled hdata' hmember' =>
        rcases hhandled with hhandled | heq
        · exact .inr (hbefore (.created hhandled hdata' hmember'))
        · cases heq
          cases hdata.symm.trans hdata'
          exact .inl ⟨rfl, rfl⟩
      | completed hhandled hc hold habout hlive =>
        rcases hhandled with hhandled | rfl
        · exact .inr (hbefore (.completed hhandled hc hold habout hlive))
        · cases hc
      | kept hold hother =>
        exact .inr (hbefore (.kept hold fun e' hhandled => hother e' (.inl hhandled)))
  hashes key hash := by
    rw [hhashes, h.hashes]
    constructor
    · intro hrecorded
      exact hrecorded.also (fun _ heq => nomatch heq) fun _ _ _ heq => nomatch heq
    · intro hrecorded
      exact hrecorded.of_also fun _ heq => nomatch heq

/-- An event completes a step of the one flow that it is about; with the last step the flow and the
hash go. -/
theorem complete
    (hnext : Follows config env core handled event) (hc : completionOf config.libs event = some c)
    (hflow : core.flows.lookup id = some flow) (habout : flow.isAbout event = true)
    (hflows : ∀ id' flow', core''.flows.lookup id' = some flow' ↔
      (id' = id ∧ flow' = flow.completed c ∧ flow'.isTerminal = false)
        ∨ id' ≠ id ∧ core'.flows.lookup id' = some flow')
    (hhashes : ∀ key hash, core''.requestPegoutTxHashes.lookup key = some hash ↔
      core'.requestPegoutTxHashes.lookup key = some hash
        ∧ ((flow.completed c).isTerminal = true → flow.matchesCommitteeSlot key.1 key.2 = false)) :
    Applied config env core (Also handled event) core'' := by
  have hone : ∀ id' flow', core.flows.lookup id' = some flow' → flow'.isAbout event = true →
      id' = id ∧ flow' = flow := by
    intro id' flow' hflow' habout'
    have hid := hnext.accepts.one id' flow' id flow hflow' hflow (hnext.live id' flow' hflow')
      (hnext.live id flow hflow) habout' habout
    subst hid
    exact ⟨rfl, Option.some.inj (hflow'.symm.trans hflow)⟩
  have hrequest : ∀ e, .pegoutRequested e ≠ event := by
    rintro e rfl
    cases hc
  refine ⟨fun id' flow' => ?_, fun key hash => ?_⟩
  · rw [hflows]
    constructor
    · rintro (⟨rfl, rfl, hlive⟩ | ⟨hne, hflow'⟩)
      · exact .completed (.inr rfl) hc hflow habout hlive
      · refine ((h.flows id' flow').mp hflow').also fun hold => ?_
        refine Bool.eq_false_iff.mpr fun habout' => ?_
        exact hne (hone id' flow' hold habout').1
    · -- a flow of the events before is not the one that this event is about
      have hbefore : Becomes config env core handled id' flow' → flow'.isAbout event = false →
          id' ≠ id ∧ core'.flows.lookup id' = some flow' := by
        intro hbecomes hother
        have hflow' := (h.flows id' flow').mpr hbecomes
        refine ⟨?_, hflow'⟩
        rintro rfl
        cases ((h.about_iff hnext).mpr ⟨hflow, habout⟩).1.symm.trans hflow'
        cases hother.symm.trans habout
      intro hbecomes
      cases hbecomes with
      | created hhandled hdata hmember =>
        rcases hhandled with hhandled | rfl
        · have hcreated : Becomes config env core handled _ _ :=
            .created hhandled hdata hmember
          refine .inr (hbefore hcreated (Bool.eq_false_iff.mpr fun habout' => ?_))
          refine (hnext.apart _ hhandled).1 (.triggerEvent ?_
            (triggerIsAbout_of_isAbout hdata habout'))
          rw [← (tryFromEvent_ids hdata).1]
          exact hmember
        · cases hc
      | @completed event' c' _ flow₀ hhandled hc' hold habout' hlive =>
        rcases hhandled with hhandled | rfl
        · refine .inr (hbefore (.completed hhandled hc' hold habout' hlive) ?_)
          refine Bool.eq_false_iff.mpr fun hboth => (hnext.apart _ hhandled).1 ?_
          exact .flow hold (hnext.live id' flow₀ hold) habout' hboth
        · obtain ⟨rfl, rfl⟩ := hone id' flow₀ hold habout'
          cases hc.symm.trans hc'
          exact .inl ⟨rfl, rfl, hlive⟩
      | kept hold hother =>
        exact .inr (hbefore (.kept hold fun e hhandled => hother e (.inl hhandled))
          (hother event (.inr rfl)))
  · rw [hhashes, h.hashes]
    constructor
    · rintro ⟨hrecorded, hends⟩
      refine hrecorded.also (fun e heq => absurd heq.symm (hrequest e)) ?_
      intro e id' flow' heq hflow' habout'
      obtain ⟨rfl, rfl⟩ := hone id' flow' hflow' habout'
      exact hends ((isTerminal_completed hc).mpr ⟨e, heq⟩)
    · intro hrecorded
      refine ⟨hrecorded.of_also fun e heq => absurd heq.symm (hrequest e), fun hterminal => ?_⟩
      obtain ⟨e', rfl⟩ := (isTerminal_completed hc).mp hterminal
      cases hrecorded with
      | requested hhandled hkey =>
        have hbefore := hhandled.resolve_right (hrequest _)
        refine Bool.eq_false_iff.mpr fun hmatches => (hnext.apart _ hbefore).1 ?_
        exact .requestEnd hflow (hnext.live id flow hflow) habout hkey hmatches
      | kept _ _ hends => exact hends e' id flow (.inr rfl) hflow habout

end Applied

/-! ### The handlers -/

/-- The flow `id` was set, and nothing else that counts here. -/
structure Sets (core : Core) (id : FlowId) (flow : FlowContext) (core' : Core) : Prop where
  flows : ∀ id' flow', core'.flows.lookup id' = some flow' ↔
    id' = id ∧ flow' = flow ∨ id' ≠ id ∧ core.flows.lookup id' = some flow'
  hashes : core'.requestPegoutTxHashes = core.requestPegoutTxHashes

variable {w : World Core}

theorem completeFlowStep_sets {data : StepData} {flow' : FlowContext}
    (hflow : w.own.flows.lookup id = some flow)
    (hstep : wp (completeStep config.toConfig env.toEnv data)
      (fun outcome t => outcome = .done ∧ t.own.state = flow') (fun _ _ => False)
      (World.at w id flow)) :
    wp (completeFlowStep config env id data) (fun _ w' => Sets w.own id flow' w'.own)
      (fun _ _ => False) w := by
  simp only [completeFlowStep, wp_bind, wp_get, hflow, runFlowStep, wp_zoom]
  refine wp_imp hstep ?_
  rintro outcome t ⟨rfl, rfl⟩
  exact ⟨fun id' flow' => Table.lookup_insert_eq_some, rfl⟩

theorem CleanedUp.of_live {w' : World Core} (h : CleanedUp env.toEnv w w')
    (hlive : ∀ id flow, w.own.flows.lookup id = some flow → flow.isTerminal = false) :
    (∀ id, w'.own.flows.lookup id = w.own.flows.lookup id)
      ∧ ∀ key, w'.own.requestPegoutTxHashes.lookup key = w.own.requestPegoutTxHashes.lookup key := by
  refine ⟨fun id => ?_, fun key => h.hashes key ?_⟩
  · rw [h.flows]
    cases hflow : w.own.flows.lookup id with
    | none => rfl
    | some flow => simp [Option.filter, hlive id flow hflow]
  · rintro ⟨id, flow, hflow, hterminal, -⟩
    cases (hlive id flow hflow).symm.trans hterminal

theorem Applied.congr (h : Applied config env core handled core')
    (hflows : ∀ id, core''.flows.lookup id = core'.flows.lookup id)
    (hhashes : ∀ key, core''.requestPegoutTxHashes.lookup key
      = core'.requestPegoutTxHashes.lookup key) : Applied config env core handled core'' :=
  ⟨fun id flow => by rw [hflows, h.flows], fun key hash => by rw [hhashes, h.hashes]⟩

theorem Applied.cleanup {w' : World Core} (h : Applied config env core handled w.own)
    (hlive : ∀ id flow, core.flows.lookup id = some flow → flow.isTerminal = false)
    (hclean : CleanedUp env.toEnv w w') : Applied config env core handled w'.own := by
  obtain ⟨hflows, hhashes⟩ := hclean.of_live fun id flow hflow => by
    cases (h.flows id flow).mp hflow with
    | created => exact isTerminal_triggeredFlow _ _
    | completed _ _ _ _ hended => exact hended
    | kept hold _ => exact hlive id flow hold
  exact h.congr hflows hhashes

theorem handleConfirmedEvent_of_completion (hc : completionOf config.libs event = some c) :
    handleConfirmedEvent config env event
      = completeStepOfFirst config env (fun flow => flow.isAbout event) c.data := by
  cases event with
  | advanceFundsRegistered e =>
    obtain ⟨message, hmessage, rfl⟩ := Option.map_eq_some_iff.mp hc
    cases hread : advanceFundsRegisteredFromEvent config.libs e.inner with
    | error text =>
      rw [hread] at hmessage
      cases hmessage
    | ok message' =>
      rw [hread] at hmessage
      cases hmessage
      simp only [handleConfirmedEvent, hread]
      rfl
  | reimbursementKickoffRegistered e =>
    cases hc
    rfl
  | pegoutRegistered e =>
    cases hc
    rfl
  | _ => cases hc

theorem Sets.flows_cleanedUp {w₁ w' : World Core} (h : Sets core' id flow w₁.own)
    (hlive : ∀ {id' flow'}, core'.flows.lookup id' = some flow' → flow'.isTerminal = false)
    (hclean : CleanedUp env.toEnv w₁ w') (id' : FlowId) (flow' : FlowContext) :
    w'.own.flows.lookup id' = some flow' ↔
      (id' = id ∧ flow' = flow ∧ flow'.isTerminal = false)
        ∨ id' ≠ id ∧ core'.flows.lookup id' = some flow' := by
  rw [hclean.flows, Option.filter_eq_some_iff, h.flows]
  constructor
  · rintro ⟨⟨rfl, rfl⟩ | hother, hlive'⟩
    · exact .inl ⟨rfl, rfl, by simpa using hlive'⟩
    · exact .inr hother
  · rintro (⟨rfl, rfl, hlive'⟩ | ⟨hne, hother⟩)
    · exact ⟨.inl ⟨rfl, rfl⟩, by simpa using hlive'⟩
    · exact ⟨.inr ⟨hne, hother⟩, by simpa using hlive hother⟩

theorem Sets.hashes_cleanedUp {w₁ w' : World Core} (h : Sets core' id flow w₁.own)
    (hlive : ∀ {id' flow'}, core'.flows.lookup id' = some flow' → flow'.isTerminal = false)
    (hclean : CleanedUp env.toEnv w₁ w') (key : CommitteeId × UInt64) (hash : TxHash) :
    w'.own.requestPegoutTxHashes.lookup key = some hash ↔
      core'.requestPegoutTxHashes.lookup key = some hash
        ∧ (flow.isTerminal = true → flow.matchesCommitteeSlot key.1 key.2 = false) := by
  -- no other flow has ended
  have hends : w₁.own.Ends (fun f => f.matchesCommitteeSlot key.1 key.2)
      ↔ flow.isTerminal = true ∧ flow.matchesCommitteeSlot key.1 key.2 = true := by
    constructor
    · rintro ⟨id', flow', hflow', hterminal, hmatches⟩
      rcases (h.flows id' flow').mp hflow' with ⟨rfl, rfl⟩ | ⟨-, hother⟩
      · exact ⟨hterminal, hmatches⟩
      · cases (hlive hother).symm.trans hterminal
    · rintro ⟨hterminal, hmatches⟩
      exact ⟨id, flow, (h.flows id flow).mpr (.inl ⟨rfl, rfl⟩), hterminal, hmatches⟩
  by_cases hended : flow.isTerminal = true ∧ flow.matchesCommitteeSlot key.1 key.2 = true
  · rw [hclean.dropped key (hends.mpr hended)]
    refine iff_of_false nofun fun hkept => ?_
    cases (hkept.2 hended.1).symm.trans hended.2
  · rw [hclean.hashes key fun h => hended (hends.mp h), h.hashes]
    refine (and_iff_left fun hterminal => Bool.eq_false_iff.mpr fun hmatches => ?_).symm
    exact hended ⟨hterminal, hmatches⟩

theorem Applied.handleCompletion (h : Applied config env core handled w.own)
    (hnext : Follows config env core handled event) (hc : completionOf config.libs event = some c) :
    wp (processConfirmedRskEvent config env event)
      (fun _ w' => Applied config env core (Also handled event) w'.own) (fun _ _ => False) w := by
  simp only [processConfirmedRskEvent, handleConfirmedEvent_of_completion hc, completeStepOfFirst,
    findFlow, wp_bind, wp_get, wp_pure]
  cases hfound : ((w.own.flows.inOrder (env.rank w.log .flows)).map (·.2)).find?
      fun flow => flow.isAbout event with
  | none =>
    have hnone : ∀ id flow, core.flows.lookup id = some flow → flow.isAbout event = false := by
      intro id flow hflow
      refine Bool.eq_false_iff.mpr fun habout => ?_
      have hmem : (id, flow) ∈ w.own.flows.inOrder (env.rank w.log .flows) :=
        Table.mem_inOrder.mpr ((h.about_iff hnext).mpr ⟨hflow, habout⟩).1
      exact List.find?_eq_none.mp hfound flow (List.mem_map.mpr ⟨_, hmem, rfl⟩) habout
    simp only [wp_pure]
    refine wp_imp cleanupTerminalFlows_cleans fun _ w' hclean => ?_
    refine (h.idle ?_ ?_ hnone).cleanup hnext.live hclean
    · rintro e rfl
      cases hc
    · rintro e _ _ rfl _
      cases hc
  | some flow =>
    obtain ⟨⟨id, _⟩, hmem, rfl⟩ := List.mem_map.mp (List.mem_of_find?_eq_some hfound)
    have habout := List.find?_some hfound
    have hflow := Table.mem_inOrder.mp hmem
    have hold := ((h.about_iff hnext).mp ⟨hflow, habout⟩).1
    have hkeyed := hnext.keyed id _ hold
    obtain ⟨hvalid, hserves⟩ := hnext.accepts.valid c id _ hc hold (hnext.live id _ hold) habout
    simp only [hkeyed]
    refine wp_imp (completeFlowStep_sets hflow (completeStep_of_event hc hvalid
      (hkeyed.symm ▸ hserves))) fun _ w₁ hsets => ?_
    refine wp_imp cleanupTerminalFlows_cleans fun _ w' hclean => ?_
    exact h.complete hnext hc hold habout (hsets.flows_cleanedUp (h.live hnext) hclean)
      (hsets.hashes_cleanedUp (h.live hnext) hclean)

/-- The hash that a trigger of a committee of this node reads is that of the beginning. -/
theorem Applied.hash_trigger (h : Applied config env core handled core')
    (hnext : Follows config env core handled (.operatorTakeTriggered e))
    (hmember : env.imMember e.inner.pegoutInfo.committeeId = true) :
    core'.requestPegoutTxHashes.lookup (triggerKey e)
      = core.requestPegoutTxHashes.lookup (triggerKey e) := by
  refine Option.ext fun hash => (h.hashes _ hash).trans ⟨fun hrecorded => ?_, fun hhash => ?_⟩
  · cases hrecorded with
    | requested hhandled hkey =>
      exact absurd (.requestTrigger hmember hkey) (hnext.apart _ hhandled).1
    | kept hhash _ _ => exact hhash
  · refine .kept hhash (fun e' hhandled hkey => ?_) fun e' id flow hhandled hflow habout => ?_
    · exact (hnext.apart _ hhandled).1 (.requestTrigger hmember hkey)
    · refine Bool.eq_false_iff.mpr fun hmatches => (hnext.apart _ hhandled).2 ?_
      obtain ⟨hcommittee, hslot⟩ := of_decide_eq_true habout
      obtain ⟨hcommittee', hslot'⟩ := of_decide_eq_true hmatches
      exact .triggerEvent hmember
        (Prod.ext (hcommittee'.symm.trans hcommittee) (hslot'.symm.trans hslot))

theorem Applied.lookup_triggered (h : Applied config env core handled core')
    (hnext : Follows config env core handled (.operatorTakeTriggered e))
    (hfree : ∀ flow, core.flows.lookup (triggeredFlowId config e) = some flow →
      flow.isTerminal = true) :
    core'.flows.lookup (triggeredFlowId config e) = none := by
  have hnone : ∀ flow, core.flows.lookup (triggeredFlowId config e) ≠ some flow := fun flow hflow =>
    absurd ((hnext.live _ flow hflow).symm.trans (hfree flow hflow)) nofun
  refine Option.eq_none_iff_forall_ne_some.mpr fun flow hflow => ?_
  have hbecomes := (h.flows _ flow).mp hflow
  generalize hid : triggeredFlowId config e = id at hbecomes hnone
  cases hbecomes with
  | created hhandled _ _ => exact (hnext.apart _ hhandled).2 (.triggers hid)
  | completed _ _ hold _ _ => exact hnone _ hold
  | kept hold _ => exact hnone _ hold

theorem createFlow_sets (hdata : OperatorTakeTriggerData.tryFromEvent config.libs e.inner
      (w.own.requestPegoutTxHashes.lookup (triggerKey e)) = .ok data)
    (hmember : env.imMember data.committeeId = true)
    (hnew : w.own.flows.lookup (triggeredFlowId config e) = none)
    (hserves : Serves env.toEnv (triggeredFlowId config e) (triggeredFlow config e data).step) :
    wp (createFlowForOperatorTakeTriggered config env e)
      (fun _ w' => Sets w.own (triggeredFlowId config e) (triggeredFlow config e data) w'.own)
      (fun _ _ => False) w := by
  unfold triggerKey at hdata
  unfold triggeredFlowId at hnew
  simp only [createFlowForOperatorTakeTriggered, wp_bind, wp_get, wp_orText, wp_ite, wp_pure,
    wp_ensure, wp_modifyCore, hdata, hnew]
  refine ⟨fun data' heq => ?_, fun _ herror => by cases herror⟩
  cases heq
  rw [hmember, if_neg (by decide), if_pos trivial]
  refine wp_imp (completeFlowStep_sets (AList.lookup_insert _)
    (completeStep_of_trigger rfl hserves)) fun _ w' hsets => ?_
  refine ⟨fun id flow => (hsets.flows id flow).trans (or_congr_right ?_), hsets.hashes⟩
  exact and_congr_right fun hne => by rw [Core.addFlow, AList.lookup_insert_ne hne]

theorem Applied.handleTrigger (h : Applied config env core handled w.own)
    (hnext : Follows config env core handled (.operatorTakeTriggered e)) :
    wp (processConfirmedRskEvent config env (.operatorTakeTriggered e))
      (fun _ w' => Applied config env core (Also handled (.operatorTakeTriggered e)) w'.own)
      (fun _ _ => False) w := by
  obtain ⟨data₀, hdata₀, hcreate⟩ := hnext.accepts.trigger e rfl
  have hcommittee := (tryFromEvent_ids hdata₀).1
  simp only [processConfirmedRskEvent, handleConfirmedEvent, wp_bind]
  by_cases hmember : env.imMember data₀.committeeId = true
  · obtain ⟨hfree, hserves⟩ := hcreate hmember
    have hnew := h.lookup_triggered hnext hfree
    have hhash := h.hash_trigger hnext (hcommittee ▸ hmember)
    obtain ⟨data, hdata, hmember, hserves⟩ : ∃ data, OperatorTakeTriggerData.tryFromEvent config.libs
        e.inner (core.requestPegoutTxHashes.lookup (triggerKey e)) = .ok data
        ∧ env.imMember data.committeeId = true
        ∧ Serves env.toEnv (triggeredFlowId config e) (triggeredFlow config e data).step :=
      ⟨_, tryFromEvent_hash hdata₀ _, hmember, hserves⟩
    refine wp_imp (createFlow_sets (by rw [hhash]; exact hdata) hmember hnew hserves)
      fun _ w₁ hsets => ?_
    refine wp_imp cleanupTerminalFlows_cleans fun _ w' hclean => ?_
    have hcreated := h.create hdata hmember hnew hsets.flows fun key => by rw [hsets.hashes]
    exact hcreated.cleanup hnext.live hclean
  · have hother : ∀ e' data hash, RskPegManagerEvents.operatorTakeTriggered e
          = .operatorTakeTriggered e' →
        OperatorTakeTriggerData.tryFromEvent config.libs e'.inner hash = .ok data →
        env.imMember data.committeeId = false := by
      rintro e' data hash heq hdata
      cases heq
      rw [(tryFromEvent_ids hdata).1, ← hcommittee]
      exact Bool.eq_false_iff.mpr hmember
    have hidle : Applied config env core (Also handled (.operatorTakeTriggered e)) w.own :=
      h.idle (fun _ heq => by cases heq) hother fun _ _ _ => rfl
    simp only [createFlowForOperatorTakeTriggered, wp_bind, wp_get, wp_orText, wp_ite, wp_pure]
    refine ⟨fun data hdata => ?_, fun text herror => ?_⟩
    · rw [if_pos (by rw [hother e data _ rfl hdata]; rfl)]
      refine wp_imp cleanupTerminalFlows_cleans fun _ w' hclean => ?_
      exact hidle.cleanup hnext.live hclean
    · rw [tryFromEvent_hash hdata₀] at herror
      cases herror

/-- **One more event is handled.** -/
theorem Applied.handle (h : Applied config env core handled w.own)
    (hnext : Follows config env core handled event) :
    wp (processConfirmedRskEvent config env event)
      (fun _ w' => Applied config env core (Also handled event) w'.own) (fun _ _ => False) w := by
  cases hc : completionOf config.libs event with
  | some c => exact h.handleCompletion hnext hc
  | none =>
    cases event with
    | operatorTakeTriggered e => exact h.handleTrigger hnext
    | pegoutRequested e =>
      obtain ⟨key, hkey⟩ := Option.isSome_iff_exists.mp (hnext.accepts.request e rfl)
      obtain ⟨committeeId, hcommittee, rfl⟩ := Option.map_eq_some_iff.mp hkey
      simp only [processConfirmedRskEvent, handleConfirmedEvent, wp_bind, wp_okOr, wp_modifyCore,
        hcommittee]
      refine ⟨fun _ heq => ?_, by rintro ⟨⟩⟩
      cases heq
      refine wp_imp cleanupTerminalFlows_cleans fun _ w' hclean => ?_
      exact (h.request hnext hkey).cleanup hnext.live hclean
    | advanceFundsRegistered e =>
      have hreadable := hnext.accepts.readable e rfl
      rw [hc] at hreadable
      cases hreadable
    | reimbursementKickoffRegistered e => cases hc
    | pegoutRegistered e => cases hc
    | _ =>
      -- events of other processors
      simp only [processConfirmedRskEvent, handleConfirmedEvent, wp_bind, wp_pure]
      refine wp_imp cleanupTerminalFlows_cleans fun _ w' hclean => ?_
      refine (h.idle ?_ ?_ ?_).cleanup hnext.live hclean
      · intro _ heq
        cases heq
      · intro _ _ _ heq
        cases heq
      · intro _ _ _
        rfl

end Handling

/-! ### The loop over the confirmed events -/

/-- The same answers and tables, with the waiting events in another order. -/
def orderedBy (env : CallEnv) (order : EventId → Nat) : CallEnv :=
  { env with
    rank := fun log table => match table with
      | .eventsConfirming => order
      | table => env.rank log table }

/-- A call with a block up to its retries. -/
def processConfirmedEvents (env : CallEnv) (block : RskBlockAndUncles) :
    Program Processor Unit := do
  liftCore (cleanupTerminalFlows env)
  processBlockConfirmations env (processConfirmedRskEvent config env) (cleanupTerminalFlows env)
    block

theorem processNewBlock_eq (env : CallEnv) (block : RskBlockAndUncles) :
    processNewBlock config env block = (do
      processConfirmedEvents config env block
      liftCore (handleRetryTick config env)
      persistProcessor env) := by
  rw [processConfirmedEvents, bind_assoc]
  rfl

/-- The event waits under the key and has its confirmations. -/
def Confirmed (confirming : Confirming) (key : EventId) (event : RskPegManagerEvents) : Prop :=
  ∃ pending, confirming.eventsConfirming.lookup key = some pending
    ∧ pending.confirmations.isConfirmed = true ∧ pending.data = event

/-- Any two events that have their confirmations with the block can be handled, and their order does
not count. -/
def Processor.Independent (env : CallEnv) (p : Processor) (block : RskBlockAndUncles) : Prop :=
  ∀ confirming, p.confirming.update block = .ok confirming →
    ∀ key key' event event', key ≠ key' → Confirmed confirming key event →
    Confirmed confirming key' event' →
    p.core.Accepts config env event ∧ ¬ Conflict config env p.core event event'

/-- The flows and the hashes of requests are the same. -/
def Core.SameTables (core core' : Core) : Prop :=
  (∀ id, core.flows.lookup id = core'.flows.lookup id)
    ∧ ∀ key, core.requestPegoutTxHashes.lookup key = core'.requestPegoutTxHashes.lookup key

section Loop

variable {config : ProcessorConfig} {env : CallEnv} {core core' core'' : Core}
  {handled : RskPegManagerEvents → Prop} {event event' : RskPegManagerEvents} {w w' : World Core}

theorem Applied.sameTables (h : Applied config env core handled core')
    (h' : Applied config env core handled core'') : core'.SameTables core'' :=
  ⟨fun id => Option.ext fun flow => (h.flows id flow).trans (h'.flows id flow).symm,
    fun key => Option.ext fun hash => (h.hashes key hash).trans (h'.hashes key hash).symm⟩

theorem Applied.none (hnone : ∀ event, ¬ handled event) : Applied config env core handled core where
  flows id flow := by
    refine ⟨fun hflow => .kept hflow fun e he => absurd he (hnone e), fun hbecomes => ?_⟩
    cases hbecomes with
    | created hhandled => exact absurd hhandled (hnone _)
    | completed hhandled => exact absurd hhandled (hnone _)
    | kept hold _ => exact hold
  hashes key hash := by
    refine ⟨fun hhash => .kept hhash (fun e he => absurd he (hnone _))
      fun e _ _ he => absurd he (hnone _), fun hrecorded => ?_⟩
    cases hrecorded with
    | requested hhandled => exact absurd hhandled (hnone _)
    | kept hhash _ _ => exact hhash

theorem Core.Accepts.cleanedUp (h : w.own.Accepts config env event)
    (hclean : CleanedUp env.toEnv w w') : w'.own.Accepts config env event where
  request := h.request
  trigger e he := by
    obtain ⟨data, hdata, hcreate⟩ := h.trigger e he
    refine ⟨data, hdata, fun hmember => ⟨fun flow hflow => ?_, (hcreate hmember).2⟩⟩
    exact (hcreate hmember).1 flow (hclean.flow hflow).1
  readable := h.readable
  valid c id flow hc hflow := h.valid c id flow hc (hclean.flow hflow).1
  one id flow id' flow' hflow hflow' :=
    h.one id flow id' flow' (hclean.flow hflow).1 (hclean.flow hflow').1

theorem Conflict.of_cleanedUp (h : Conflict config env w'.own event event')
    (hclean : CleanedUp env.toEnv w w') : Conflict config env w.own event event' := by
  cases h with
  | requests hkey => exact .requests hkey
  | requestTrigger hmember hkey => exact .requestTrigger hmember hkey
  | requestEnd hflow hlive habout hkey hmatches =>
    exact .requestEnd (hclean.flow hflow).1 hlive habout hkey hmatches
  | triggers hid => exact .triggers hid
  | triggerEvent hmember habout => exact .triggerEvent hmember habout
  | flow hflow hlive habout habout' => exact .flow (hclean.flow hflow).1 hlive habout habout'

/-- The events that have their confirmations and are not in the rest of the loop. -/
def Done (confirming : Confirming) (rest : List EventId) (event : RskPegManagerEvents) : Prop :=
  ∃ key, key ∉ rest ∧ Confirmed confirming key event

variable {confirming : Confirming} {v : World Processor}

theorem done_cons {key : EventId} {rest : List EventId}
    (hconfirmed : Confirmed confirming key event) (hkey : key ∉ rest) :
    Done confirming rest = Also (Done confirming (key :: rest)) event := by
  refine funext fun e => propext ⟨?_, ?_⟩
  · rintro ⟨key', hkey', he⟩
    by_cases heq : key' = key
    · subst heq
      obtain ⟨pending, hlookup, -, rfl⟩ := hconfirmed
      obtain ⟨pending', hlookup', -, rfl⟩ := he
      cases hlookup.symm.trans hlookup'
      exact .inr rfl
    · refine .inl ⟨key', fun hmem => ?_, he⟩
      rcases List.mem_cons.mp hmem with h | h
      · exact heq h
      · exact hkey' h
  · rintro (⟨key', hkey', he⟩ | rfl)
    · exact ⟨key', fun hmem => hkey' (List.mem_cons_of_mem _ hmem), he⟩
    · exact ⟨key, hkey, hconfirmed⟩

/-- What the confirmed events of a block must satisfy for the loop over them. -/
structure Separate (config : ProcessorConfig) (env : CallEnv) (core : Core)
    (confirming : Confirming) : Prop where
  live : ∀ id flow, core.flows.lookup id = some flow → flow.isTerminal = false
  keyed : ∀ id flow, core.flows.lookup id = some flow → flow.flowId = id
  accepts : ∀ key event, Confirmed confirming key event → core.Accepts config env event
  apart : ∀ key key' event event', key ≠ key' → Confirmed confirming key event →
    Confirmed confirming key' event' → ¬ Conflict config env core event event'

/-- **The loop.** Whatever the order of the keys, it ends with all confirmed events applied. -/
theorem forM_confirmEvent_applied {keys : List EventId}
    (hseparate : Separate config env core confirming) (hnodup : keys.Nodup)
    (hkeys : ∀ key, key ∈ keys ↔ ∃ event, Confirmed confirming key event)
    (hcore : v.own.core = core) (hconfirming : v.own.confirming = confirming) :
    wp (keys.forM (confirmEvent (processConfirmedRskEvent config env)))
      (fun _ v' => Applied config env core (Done confirming []) v'.own.core)
      (fun _ _ => False) v := by
  let I : List EventId → World Processor → Prop := fun rest v' => rest.Nodup
    ∧ (∀ key ∈ rest, (∃ event, Confirmed confirming key event)
      ∧ v'.own.confirming.eventsConfirming.lookup key = confirming.eventsConfirming.lookup key)
    ∧ Applied config env core (Done confirming rest) v'.own.core
  have hstart : I keys v := by
    refine ⟨hnodup, fun key hkey => ⟨(hkeys key).mp hkey, by rw [hconfirming]⟩, ?_⟩
    rw [hcore]
    refine Applied.none ?_
    rintro event ⟨key, hkey, hconfirmed⟩
    exact hkey ((hkeys key).mpr ⟨event, hconfirmed⟩)
  refine wp_imp (wp_forM (E := fun _ _ => False) I ?_ hstart) fun _ _ h => h.2.2
  rintro key rest v' ⟨hnodup, hrest, happlied⟩
  obtain ⟨hkey, hnodup⟩ := List.nodup_cons.mp hnodup
  obtain ⟨⟨event, hconfirmed⟩, hlookup⟩ := hrest key List.mem_cons_self
  have hfollows : Follows config env core (Done confirming (key :: rest)) event := by
    refine ⟨hseparate.live, hseparate.keyed, hseparate.accepts key event hconfirmed, ?_⟩
    rintro e ⟨key', hkey', he⟩
    have hne : key' ≠ key := fun heq => hkey' (heq ▸ List.mem_cons_self)
    exact ⟨hseparate.apart key' key e event hne he hconfirmed,
      hseparate.apart key key' event e hne.symm hconfirmed he⟩
  have hdone := done_cons hconfirmed hkey
  obtain ⟨pending, hpending, -, rfl⟩ := hconfirmed
  obtain ⟨confirming', hstop, hothers⟩ : ∃ confirming',
      v'.own.confirming.stopConfirmingEvent key = (some pending, confirming')
        ∧ ∀ other, confirming'.eventsConfirming.lookup other
          = if other = key then none else v'.own.confirming.eventsConfirming.lookup other := by
    have hfound := (v'.own.confirming.stopConfirmingEvent_lookup key key).1
    exact ⟨_, Prod.ext (hfound.trans (hlookup.trans hpending)) rfl,
      fun other => (v'.own.confirming.stopConfirmingEvent_lookup key other).2⟩
  simp only [confirmEvent, stopConfirmingEvent, wp_bind, wp_modifyGet, hstop, wp_liftCore]
  refine wp_imp (Applied.handle happlied hfollows) fun _ t ht => ?_
  refine ⟨hnodup, fun key' hmem => ?_, hdone ▸ ht⟩
  obtain ⟨hconfirmed', hlookup'⟩ := hrest key' (List.mem_cons_of_mem _ hmem)
  have hne : key' ≠ key := fun heq => hkey (heq ▸ hmem)
  refine ⟨hconfirmed', ?_⟩
  rw [hothers, if_neg hne, hlookup']

theorem mem_confirmedKeys_iff {order : EventId → Nat} {key : EventId} :
    key ∈ confirming.confirmedKeys order ↔ ∃ event, Confirmed confirming key event := by
  rw [Confirming.mem_confirmedKeys]
  exact ⟨fun ⟨pending, hlookup, hconfirmed⟩ => ⟨_, pending, hlookup, hconfirmed, rfl⟩,
    fun ⟨_, pending, hlookup, hconfirmed, _⟩ => ⟨pending, hlookup, hconfirmed⟩⟩

theorem nodup_confirmedKeys {order : EventId → Nat} : (confirming.confirmedKeys order).Nodup :=
  Table.nodup_inOrder.sublist (List.filter_sublist.map _)

theorem Separate.of_independent {p : Processor} {t : World Core}
    (hkeyed : ∀ id flow, p.core.flows.lookup id = some flow → flow.flowId = id)
    (hindependent : ∀ key key' event event', key ≠ key' → Confirmed confirming key event →
      Confirmed confirming key' event' →
      p.core.Accepts config env event ∧ ¬ Conflict config env p.core event event')
    (htwo : ¬ ∀ key key' event event', Confirmed confirming key event →
      Confirmed confirming key' event' → key = key')
    (hclean : CleanedUp env.toEnv ⟨p.core, []⟩ t) : Separate config env t.own confirming where
  live id flow hflow := (hclean.flow hflow).2
  keyed id flow hflow := hkeyed id flow (hclean.flow hflow).1
  accepts key event hconfirmed := by
    refine Core.Accepts.cleanedUp ?_ hclean
    by_contra hnot
    refine htwo fun key₁ key₂ event₁ event₂ h₁ h₂ => ?_
    -- a key other than this one would make the event acceptable
    have heq : ∀ {key' event'}, Confirmed confirming key' event' → key = key' := fun h' => by
      by_contra hne
      exact hnot (hindependent key _ event _ hne hconfirmed h').1
    exact (heq h₁).symm.trans (heq h₂)
  apart key key' event event' hne h h' hconflict :=
    (hindependent key key' event event' hne h h').2 (hconflict.of_cleanedUp hclean)

theorem Separate.applied (h : Separate config env v.own.core confirming) (order : EventId → Nat) :
    Applied config env v.own.core (Done confirming []) (after (do
      (confirming.confirmedKeys order).forM (confirmEvent (processConfirmedRskEvent config env))
      liftCore (cleanupTerminalFlows env))
        ⟨{ v.own with confirming := confirming }, v.log⟩).own.core := by
  let P : World Processor → Prop := fun v' =>
    Applied config env v.own.core (Done confirming []) v'.own.core
  refine after_of_wp (P := P) ?_
  rw [wp_bind]
  refine wp_mono (forM_confirmEvent_applied h nodup_confirmedKeys
    (fun key => mem_confirmedKeys_iff) rfl rfl) (fun _ v' hv' => ?_) fun _ _ h => h.elim
  rw [wp_liftCore]
  exact wp_mono cleanupTerminalFlows_cleans (fun _ t hclean => Applied.cleanup hv' h.live hclean)
    fun _ _ h => h.elim

theorem after_processBlockConfirmations {handle : RskPegManagerEvents → Program Core Unit}
    {cleanup : Program Core Unit} {block : RskBlockAndUncles} :
    after (processBlockConfirmations env handle cleanup block) v
      = if v.own.confirming.eventsConfirming.isEmpty then v
        else match v.own.confirming.update block with
          | .error _ => v
          | .ok confirming => after (do
              (confirming.confirmedKeys (env.rank v.log .eventsConfirming)).forM
                (confirmEvent handle)
              liftCore cleanup) ⟨{ v.own with confirming := confirming }, v.log⟩ := by
  refine (after_bind rfl).trans ?_
  split
  · rfl
  · cases v.own.confirming.update block with
    | error e =>
      cases e with
      | err message => rfl
      | panic message => rfl
    | ok confirming =>
      refine (after_bind rfl).trans ((after_bind rfl).trans rfl)

theorem confirmedKeys_eq {order order' : EventId → Nat}
    (hone : ∀ key key' event event', Confirmed confirming key event →
      Confirmed confirming key' event' → key = key') :
    confirming.confirmedKeys order = confirming.confirmedKeys order' := by
  have hperm : (confirming.confirmedKeys order).Perm (confirming.confirmedKeys order') :=
    (List.perm_ext_iff_of_nodup nodup_confirmedKeys nodup_confirmedKeys).mpr fun key =>
      mem_confirmedKeys_iff.trans mem_confirmedKeys_iff.symm
  have hsame : ∀ key ∈ confirming.confirmedKeys order, ∀ key' ∈ confirming.confirmedKeys order,
      key = key' := by
    intro key hkey key' hkey'
    obtain ⟨event, hevent⟩ := mem_confirmedKeys_iff.mp hkey
    obtain ⟨event', hevent'⟩ := mem_confirmedKeys_iff.mp hkey'
    exact hone key key' event event' hevent hevent'
  have hnodup : (confirming.confirmedKeys order).Nodup := nodup_confirmedKeys
  generalize confirming.confirmedKeys order = keys at hperm hsame hnodup
  match keys with
  | [] => exact hperm.nil_eq
  | [key] => exact List.singleton_perm.mp hperm
  | key :: key' :: rest =>
    have heq := hsame key List.mem_cons_self key' (List.mem_cons_of_mem _ List.mem_cons_self)
    exact absurd (heq ▸ List.mem_cons_self) (List.nodup_cons.mp hnodup).1

end Loop

/-- **The order of the confirmed events does not count**, if any two of them can be handled and are
not about the same take. -/
theorem confirmation_order_irrelevant (config : ProcessorConfig) (env : CallEnv) (p : Processor)
    (block : RskBlockAndUncles) (order order' : EventId → Nat)
    (hkeyed : ∀ id flow, p.core.flows.lookup id = some flow → flow.flowId = id)
    (hindependent : Processor.Independent config env p block) :
    Core.SameTables
      (after (processConfirmedEvents config (orderedBy env order) block) ⟨p, []⟩).own.core
      (after (processConfirmedEvents config (orderedBy env order') block) ⟨p, []⟩).own.core := by
  have hcleans : wp (cleanupTerminalFlows env) (fun _ => CleanedUp env.toEnv ⟨p.core, []⟩)
    (fun _ _ => False) ⟨p.core, []⟩ := cleanupTerminalFlows_cleans
  cases hcleanup : cleanupTerminalFlows env ⟨p.core, []⟩ with
  | error e t =>
    unfold wp at hcleans
    rw [hcleanup] at hcleans
    exact hcleans.elim
  | ok _ t =>
    have hclean : CleanedUp env.toEnv ⟨p.core, []⟩ t := by
      unfold wp at hcleans
      rw [hcleanup] at hcleans
      exact hcleans
    have hlift : (liftCore (cleanupTerminalFlows env) : Program Processor Unit) ⟨p, []⟩
        = .ok () ⟨{ p with core := t.own }, t.log⟩ := by
      simp only [liftCore, zoom, hcleanup]
    -- both calls do the same up to the loop
    have hloop : ∀ order, after (processConfirmedEvents config (orderedBy env order) block) ⟨p, []⟩
        = after (processBlockConfirmations (orderedBy env order) (processConfirmedRskEvent config env)
          (cleanupTerminalFlows env) block) ⟨{ p with core := t.own }, t.log⟩ :=
      fun order => after_bind hlift
    rw [hloop, hloop, after_processBlockConfirmations, after_processBlockConfirmations]
    split
    · exact ⟨fun _ => rfl, fun _ => rfl⟩
    cases hupdate : p.confirming.update block with
    | error e => exact ⟨fun _ => rfl, fun _ => rfl⟩
    | ok confirming =>
      show Core.SameTables (after (do
          (confirming.confirmedKeys order).forM (confirmEvent (processConfirmedRskEvent config env))
          liftCore (cleanupTerminalFlows env)) _).own.core
        (after (do
          (confirming.confirmedKeys order').forM (confirmEvent (processConfirmedRskEvent config env))
          liftCore (cleanupTerminalFlows env)) _).own.core
      by_cases hone : ∀ key key' event event', Confirmed confirming key event →
          Confirmed confirming key' event' → key = key'
      · have hkeys : confirming.confirmedKeys order = confirming.confirmedKeys order' :=
          confirmedKeys_eq hone
        rw [hkeys]
        exact ⟨fun _ => rfl, fun _ => rfl⟩
      · have hseparate : Separate config env t.own confirming :=
          .of_independent hkeyed (hindependent confirming hupdate) hone hclean
        exact (hseparate.applied order).sameTables (hseparate.applied order')

/-! A block confirms a request and the trigger of another slot, or two events of one take. -/

def acceptingCallEnv : CallEnv := .plain (.failing fun _ _ => false)

/-- The events with a label come first. -/
def labelFirst (label : String) (id : EventId) : Nat := if id.label = label then 0 else 1

/-- The flows and hashes after the confirmed events of a block. -/
def confirmedCore (p : Processor) (block : RskBlockAndUncles) (first : String) : Core :=
  (after (processConfirmedEvents gatedConfig (orderedBy acceptingCallEnv (labelFirst first)) block)
    ⟨p, []⟩).own.core

def triggerLog : EventWithBlock OperatorTakeTriggered :=
  sampleEvent ⟨1, ⟨1, 7, toBE 33 1, 1, toBE 32 1⟩, ⟨0, 0, 0⟩⟩ 5

def slotRequest : EventWithBlock PegoutRequested := sampleEvent ⟨[], 7, ⟨0, 0⟩, 0, 0, 1, 0⟩ 6

/-- The trigger of slot 0 and a request for slot 1 wait. -/
def waitingProcessor : Processor :=
  (Machine.run (step gatedConfig) start (gatedCalls [.rskEvent (.operatorTakeTriggered triggerLog),
    .rskEvent (.pegoutRequested slotRequest)])).processor

def confirmedWith (p : Processor) (block : RskBlockAndUncles) :
    List (EventId × RskPegManagerEvents) :=
  match p.confirming.update block with
  | .error _ => []
  | .ok confirming => ((confirming.eventsConfirming.inOrder fun _ => 0).filter fun entry =>
      entry.2.confirmations.isConfirmed).map fun entry => (entry.1, entry.2.data)

theorem mem_confirmedWith {p : Processor} {block : RskBlockAndUncles} {confirming : Confirming}
    {key : EventId} {event : RskPegManagerEvents}
    (hupdate : p.confirming.update block = .ok confirming)
    (h : Confirmed confirming key event) : (key, event) ∈ confirmedWith p block := by
  obtain ⟨pending, hlookup, hconfirmed, rfl⟩ := h
  rw [confirmedWith, hupdate]
  refine List.mem_map.mpr ⟨(key, pending), List.mem_filter.mpr ⟨?_, hconfirmed⟩, rfl⟩
  exact Table.mem_inOrder.mpr hlookup

theorem flows_waitingProcessor (id : FlowId) (flow : FlowContext) :
    waitingProcessor.core.flows.lookup id ≠ some flow := by
  intro hflow
  have hentries : waitingProcessor.core.flows.entries = [] := by decide +kernel
  have hmem := AList.mem_lookup_iff.mp hflow
  rw [hentries] at hmem
  cases hmem

theorem accepts_of_no_flows {config : ProcessorConfig} {env : CallEnv} {core : Core}
    {event : RskPegManagerEvents} (hflows : ∀ id flow, core.flows.lookup id ≠ some flow)
    (hrequest : ∀ e, event = .pegoutRequested e → (requestKey e).isSome = true)
    (htrigger : ∀ e, event = .operatorTakeTriggered e → ∃ data,
      OperatorTakeTriggerData.tryFromEvent config.libs e.inner none = .ok data
        ∧ Serves env.toEnv (triggeredFlowId config e) (triggeredFlow config e data).step)
    (hreadable : ∀ e, event = .advanceFundsRegistered e →
      (completionOf config.libs event).isSome = true) : core.Accepts config env event where
  request := hrequest
  trigger e he := by
    obtain ⟨data, hdata, hserves⟩ := htrigger e he
    exact ⟨data, hdata, fun _ => ⟨fun flow hflow => absurd hflow (hflows _ flow), hserves⟩⟩
  readable := hreadable
  valid _ id flow _ hflow := absurd hflow (hflows id flow)
  one id flow _ _ hflow := absurd hflow (hflows id flow)

theorem independent_waitingProcessor :
    Processor.Independent gatedConfig acceptingCallEnv waitingProcessor (blockAt 1 1 0) := by
  have hevents : confirmedWith waitingProcessor (blockAt 1 1 0)
      = [(⟨"advance-funds-pegout-requested", 6⟩, .pegoutRequested slotRequest),
        (⟨"operator-take-triggered", 5⟩, .operatorTakeTriggered triggerLog)] := by
    decide +kernel
  have hrequest : waitingProcessor.core.Accepts gatedConfig acceptingCallEnv
      (.pegoutRequested slotRequest) := by
    refine accepts_of_no_flows flows_waitingProcessor (fun e he => ?_) (fun _ he => nomatch he)
      fun _ he => nomatch he
    cases he
    decide
  have htrigger : waitingProcessor.core.Accepts gatedConfig acceptingCallEnv
      (.operatorTakeTriggered triggerLog) := by
    refine accepts_of_no_flows flows_waitingProcessor (fun _ he => nomatch he) (fun e he => ?_)
      fun _ he => nomatch he
    cases he
    exact ⟨_, rfl, fun _ => rfl, fun _ _ _ => rfl, fun _ _ => rfl⟩
  intro confirming hupdate key key' event event' hne h h'
  have hmem := mem_confirmedWith hupdate h
  have hmem' := mem_confirmedWith hupdate h'
  rw [hevents] at hmem hmem'
  simp only [List.mem_cons, List.not_mem_nil, or_false, Prod.mk.injEq] at hmem hmem'
  rcases hmem with ⟨rfl, rfl⟩ | ⟨rfl, rfl⟩
  · rcases hmem' with ⟨rfl, rfl⟩ | ⟨rfl, rfl⟩
    · exact absurd rfl hne
    · refine ⟨hrequest, fun hconflict => ?_⟩
      cases hconflict with
      | requestTrigger _ hkey => exact absurd hkey (by decide)
      | flow hflow => exact absurd hflow (flows_waitingProcessor _ _)
  · rcases hmem' with ⟨rfl, rfl⟩ | ⟨rfl, rfl⟩
    · refine ⟨htrigger, fun hconflict => ?_⟩
      cases hconflict with
      | triggerEvent _ habout => exact habout
      | flow hflow => exact absurd hflow (flows_waitingProcessor _ _)
    · exact absurd rfl hne

/-- The flow is created and the hash recorded, whichever event comes first. -/
theorem request_and_trigger_commute :
    ((confirmedCore waitingProcessor (blockAt 1 1 0) "operator-take-triggered").flows.lookup
        (sampleFlowId 5)).isSome = true
      ∧ (confirmedCore waitingProcessor (blockAt 1 1 0)
        "operator-take-triggered").requestPegoutTxHashes.lookup (7, 1) = some 6
      ∧ Core.SameTables
        (confirmedCore waitingProcessor (blockAt 1 1 0) "operator-take-triggered")
        (confirmedCore waitingProcessor (blockAt 1 1 0) "advance-funds-pegout-requested") := by
  refine ⟨by decide +kernel, by decide +kernel, ?_⟩
  refine confirmation_order_irrelevant gatedConfig acceptingCallEnv waitingProcessor (blockAt 1 1 0)
    _ _ (fun id flow hflow => ?_) independent_waitingProcessor
  exact absurd hflow (flows_waitingProcessor id flow)

def kickoffLog : RskPegManagerEvents := .reimbursementKickoffRegistered (sampleEvent ⟨1⟩ 10)

/-- Both registrations of a take wait; they are in one block. -/
def conflictedProcessor : Processor :=
  (Machine.run (step gatedConfig) start (gatedCalls [sampleTriggered 5, .block (blockAt 1 1 0),
    .rskEvent takeLog, .rskEvent kickoffLog])).processor

/-- In the order of the chain the flow takes both events. In the other order the kickoff is refused
and lost, and the advanced funds are not handled with this block. -/
theorem kickoff_first_is_lost :
    ((confirmedCore conflictedProcessor (blockAt 2 2 1) "advance-funds-registered").flows.lookup
        (sampleFlowId 5)).map (·.step) = some .waitBitVmxOperatorTakeSpv
      ∧ ((confirmedCore conflictedProcessor (blockAt 2 2 1)
        "reimbursement-kickoff-registered").flows.lookup (sampleFlowId 5)).map (·.step)
          = some .registerOrWaitRskAdvanceFunds := by
  decide +kernel

end UnionBridge.AdvanceFunds
