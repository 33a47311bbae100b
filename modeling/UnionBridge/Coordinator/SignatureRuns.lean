import UnionBridge.Coordinator.SignatureSubflow

/-!
# Runs of one signature subflow

A subflow is started, receives the events and blocks that its processor delegates, and is stored and
rebuilt. This module follows one of them through any such sequence, with any answers of the
contracts: everything a step can do, and what a failed call leaves behind.
-/

namespace UnionBridge.Coordinator

open Chain Contracts Bitvmx Effect

/-! ## The machine -/

inductive SubFlowInput where
  | start (flowId : Uuid) (data : RegisterSignaturesBitVmxData)
  | rskEvent (flowId : Uuid) (event : RskPegManagerEvents)
  | block (block : RskBlockAndUncles)
  | snapshot
  /-- Rebuild the subflow from its last snapshot. -/
  | restore

/-- A subflow with the calls it made and the inputs it received, each list newest first. The last
snapshot stands with the calls made before it. -/
structure SubFlowRun where
  subFlow : SignatureSubFlow
  log : Contracts.Log
  saved : Option (SignatureSubFlow × Contracts.Log)
  history : List SubFlowInput
  panicked : Bool

namespace SubFlowRun

def new (flowId : Uuid) : SubFlowRun := ⟨.new flowId, [], none, [], false⟩

/-- Deliver an input. An error is only logged; a panic ends the process. -/
def deliver (r : SubFlowRun) (input : SubFlowInput) (m : SubFlowM Unit) : SubFlowRun :=
  if r.panicked then r
  else match m ⟨r.subFlow, r.log⟩ with
    | .ok _ w => { r with subFlow := w.own, log := w.log, history := input :: r.history }
    | .error e w => { r with
        subFlow := w.own, log := w.log, history := input :: r.history, panicked := !e.isError }

def takeSnapshot (r : SubFlowRun) : SubFlowRun :=
  if r.panicked then r
  else { r with saved := some (r.subFlow, r.log), history := .snapshot :: r.history }

def restoreSnapshot (r : SubFlowRun) : SubFlowRun :=
  match r.saved with
  | none => r
  | some (subFlow, _) => { r with
      subFlow := subFlow.restore, history := .restore :: r.history, panicked := false }

def step (requiredConfirmations : UInt32) (r : SubFlowRun) : Env × SubFlowInput → SubFlowRun
  | (env, .start flowId data) => r.deliver (.start flowId data) (startSignatureFlow env flowId data)
  | (_, .rskEvent flowId event) =>
    r.deliver (.rskEvent flowId event) (delegateRskEvent requiredConfirmations flowId event)
  | (env, .block block) => r.deliver (.block block) (delegateBlock env block)
  | (_, .snapshot) => r.takeSnapshot
  | (_, .restore) => r.restoreSnapshot

end SubFlowRun

/-! ## What a delivery can do -/

def counterFor (requiredConfirmations : UInt32) (event : EventWithBlock U256) : ConfirmableEvent :=
  ⟨if event.removed then none else some (.new event.blockNumber requiredConfirmations)⟩

/-- A subflow after its nonce was sent. -/
def SignatureSubFlow.nonceSent (s : SignatureSubFlow) (data : RegisterSignaturesBitVmxData)
    (accepted : Bool) : SignatureSubFlow :=
  { s with data := some data, nonceStep := if accepted then some .new else s.nonceStep }

/-- A subflow that stopped counting nonces, before its signature is sent. -/
def SignatureSubFlow.noncesStopped (s : SignatureSubFlow) : SignatureSubFlow :=
  { s with
    isNoncesStepDone := true
    blockchainView := s.blockchainView.removeObserver .nonces
    nonceStep := some .new }

/-- Everything a delivery can do to a subflow and its log. -/
inductive Delivers (requiredConfirmations : UInt32) :
    SubFlowInput → World SignatureSubFlow → World SignatureSubFlow → Prop
  | idle (input : SubFlowInput) (w : World SignatureSubFlow) :
      Delivers requiredConfirmations input w w
  | nonce {s : SignatureSubFlow} {log : Contracts.Log} (data : RegisterSignaturesBitVmxData)
      (answer : Except DomainErrors TxSentOutput) (hdata : s.data = none)
      (hstep : s.nonceStep = none) :
      Delivers requiredConfirmations (.start s.flowId data) ⟨s, log⟩
        ⟨s.nonceSent data answer.toBool,
          ⟨.addMemberNonce data.hashToSign data.nonce, answer⟩ :: log⟩
  | nonces {s : SignatureSubFlow} {log : Contracts.Log} (event : EventWithBlock U256)
      (view : BlockchainView SignaturePhase) (hhash : s.getHashToSign = some event.inner)
      (hstep : s.nonceStep.isSome = true) :
      Delivers requiredConfirmations (.rskEvent s.flowId (.allNoncesReady event)) ⟨s, log⟩
        ⟨{ s with
            blockchainView := view
            nonceStep := some (counterFor requiredConfirmations event) }, log⟩
  | signatures {s : SignatureSubFlow} {log : Contracts.Log} (event : EventWithBlock U256)
      (view : BlockchainView SignaturePhase) (hhash : s.getHashToSign = some event.inner)
      (hstep : s.signatureStep.isSome = true) :
      Delivers requiredConfirmations (.rskEvent s.flowId (.allSignaturesReady event)) ⟨s, log⟩
        ⟨{ s with
            blockchainView := view
            signatureStep := some (counterFor requiredConfirmations event) }, log⟩
  | viewed {s : SignatureSubFlow} {log : Contracts.Log} {block : RskBlockAndUncles}
      {view : BlockchainView SignaturePhase} {sent : List Notification}
      (hupdate : s.blockchainView.update block = .ok (view, sent)) :
      Delivers requiredConfirmations (.block block) ⟨s, log⟩ ⟨s.notifyObservers view sent, log⟩
  /-- The nonces are confirmed in the signature step. -/
  | already {s : SignatureSubFlow} {log : Contracts.Log} {block : RskBlockAndUncles}
      {view : BlockchainView SignaturePhase} {sent : List Notification}
      (hupdate : s.blockchainView.update block = .ok (view, sent)) :
      Delivers requiredConfirmations (.block block) ⟨s, log⟩
        ⟨{ s.notifyObservers view sent with isNoncesStepDone := true }, log⟩
  /-- The nonces are confirmed, but there is nothing to sign. -/
  | dataless {s : SignatureSubFlow} {log : Contracts.Log} {block : RskBlockAndUncles}
      {view : BlockchainView SignaturePhase} {sent : List Notification} (hdata : s.data = none)
      (hstep : s.nonceStep.isSome = true) :
      Delivers requiredConfirmations (.block block) ⟨s, log⟩
        ⟨(s.notifyObservers view sent).noncesStopped, log⟩
  | signature {s : SignatureSubFlow} {log : Contracts.Log} {block : RskBlockAndUncles}
      {view : BlockchainView SignaturePhase} {sent : List Notification}
      (hupdate : s.blockchainView.update block = .ok (view, sent))
      (hflag : s.isNoncesStepDone = false)
      (hconfirmed : (s.notifyObservers view sent).isAllNoncesReadyConfirmed = true)
      (data : RegisterSignaturesBitVmxData) (hdata : s.data = some data)
      (answer : Except DomainErrors TxSentOutput) :
      Delivers requiredConfirmations (.block block) ⟨s, log⟩
        ⟨{ (s.notifyObservers view sent).noncesStopped with
            signatureStep := if answer.toBool then some .new
              else (s.notifyObservers view sent).signatureStep },
          ⟨.addMemberSignature data.hashToSign data.signature, answer⟩ :: log⟩
  | done {s : SignatureSubFlow} {log : Contracts.Log} {block : RskBlockAndUncles}
      {view : BlockchainView SignaturePhase} {sent : List Notification}
      (hupdate : s.blockchainView.update block = .ok (view, sent))
      (hconfirmed : (s.notifyObservers view sent).isAllSignaturesReadyConfirmed = true) :
      Delivers requiredConfirmations (.block block) ⟨s, log⟩
        ⟨{ s.notifyObservers view sent with isDone := true, blockchainView := .new }, log⟩

section Delivers

variable {requiredConfirmations : UInt32} {env : Env}

theorem startSignatureFlow_delivers (flowId : Uuid) (data : RegisterSignaturesBitVmxData)
    (w : World SignatureSubFlow) :
    wp (startSignatureFlow env flowId data)
      (fun _ => Delivers requiredConfirmations (.start flowId data) w)
      (fun _ => Delivers requiredConfirmations (.start flowId data) w) w := by
  simp only [startSignatureFlow, sendNonceToContracts, modifySubFlow, wp_bind, wp_get, wp_ite,
    wp_pure, wp_ensure, wp_modify, wp_perform, wp_withContext, wp_orDomain]
  split
  · exact .idle _ w
  next hid =>
  obtain rfl : w.own.flowId = flowId := not_not.mp hid
  split
  · next hfresh =>
    have hnonce : Delivers requiredConfirmations (.start w.own.flowId data) w _ := .nonce data
      (env.answer w.log (.addMemberNonce data.hashToSign data.nonce))
      (Option.isNone_iff_eq_none.mp hfresh.2) (Option.isNone_iff_eq_none.mp hfresh.1)
    refine ⟨fun out hok => ?_, fun e herror => ?_⟩
    · rw [show env.answer w.log (.addMemberNonce data.hashToSign data.nonce) = .ok out from hok]
        at hnonce ⊢
      exact hnonce
    · rw [show env.answer w.log (.addMemberNonce data.hashToSign data.nonce) = .error e from herror]
        at hnonce ⊢
      exact hnonce
  · exact .idle _ w

theorem wp_modifyEventConfirmationStatus {phase : SignaturePhase} {event : EventWithBlock U256}
    {w : World SignatureSubFlow} {Q : ConfirmableEvent → World SignatureSubFlow → Prop}
    {E : FlowError → World SignatureSubFlow → Prop}
    (hset : ∀ view, Q (counterFor requiredConfirmations event)
      ⟨{ w.own with blockchainView := view }, w.log⟩)
    (hfail : ∀ e, E e w) :
    wp (modifyEventConfirmationStatus phase requiredConfirmations
      (if event.removed then none else some event.blockNumber)) Q E w := by
  unfold counterFor at hset
  cases hremoved : event.removed with
  | true =>
    rw [hremoved] at hset
    exact hset _
  | false =>
    rw [hremoved] at hset
    simp only [modifyEventConfirmationStatus, startCounter, modifySubFlow, wp_bind, wp_get,
      Bool.false_eq_true, if_false]
    unfold orFailure
    split
    · exact hset _
    · exact hfail _
    · exact hfail _

theorem delegateRskEvent_delivers (flowId : Uuid) (event : RskPegManagerEvents)
    (w : World SignatureSubFlow) :
    wp (delegateRskEvent requiredConfirmations flowId event)
      (fun _ => Delivers requiredConfirmations (.rskEvent flowId event) w)
      (fun _ => Delivers requiredConfirmations (.rskEvent flowId event) w) w := by
  simp only [delegateRskEvent, wp_bind, wp_get, wp_ite, wp_pure]
  split
  · exact .idle _ w
  next hid =>
  obtain rfl : w.own.flowId = flowId := not_not.mp hid
  split
  · next event =>
    simp only [wp_ite, wp_pure]
    split
    · next hhash =>
      simp only [modifyNoncesConfirmationStatus, modifySubFlow, wp_bind, wp_get, wp_ensure,
        wp_modify]
      split
      · split
        · next hstep =>
          exact wp_modifyEventConfirmationStatus (fun view => .nonces event view hhash hstep)
            fun _ => .idle _ w
        · exact .idle _ w
      · exact .idle _ w
    · exact .idle _ w
  · next event =>
    simp only [wp_ite, wp_pure]
    split
    · next hhash =>
      simp only [modifySignaturesConfirmationStatus, modifySubFlow, wp_bind, wp_get, wp_ensure,
        wp_modify]
      split
      · next hstep =>
        exact wp_modifyEventConfirmationStatus (fun view => .signatures event view hhash hstep)
          fun _ => .idle _ w
      · exact .idle _ w
    · exact .idle _ w
  · exact .idle _ w

/-- The nonce step is there before the messages of the view when it is there after them. -/
theorem isSome_nonceStep_notifyObservers (s : SignatureSubFlow) (view : BlockchainView SignaturePhase)
    (sent : List Notification) :
    (s.notifyObservers view sent).nonceStep.isSome = s.nonceStep.isSome := by
  unfold SignatureSubFlow.notifyObservers
  dsimp only
  split
  · exact Option.isSome_map
  · rfl

theorem delegateBlock_delivers (block : RskBlockAndUncles) (w : World SignatureSubFlow) :
    wp (delegateBlock env block)
      (fun _ => Delivers requiredConfirmations (.block block) w)
      (fun _ => Delivers requiredConfirmations (.block block) w) w := by
  simp only [delegateBlock, updateSubFlowView, modifySubFlow, wp_bind, wp_get]
  unfold orFailure
  split
  case h_2 => exact .idle _ w
  case h_3 => exact .idle _ w
  next updated hupdate =>
  simp only [wp_pure, wp_modify, wp_ite, wp_bind]
  split
  · exact .viewed hupdate
  split
  · next hconfirmed =>
    -- the flag is set before the signature is sent
    simp only [Bool.and_eq_true, Bool.not_eq_true'] at hconfirmed
    simp only [sendSignatureToContracts, stopCounter, modifySubFlow, wp_bind, wp_get, wp_ite,
      wp_pure, wp_ensure, wp_modify, wp_okOr, wp_perform, wp_withContext, wp_orDomain]
    split
    · exact .already hupdate
    split
    · split
      · next hstep =>
        refine ⟨fun data hdata => ?_, fun hdata => ?_⟩
        · have hsent : Delivers requiredConfirmations (.block block) w _ := .signature hupdate
            hconfirmed.1 hconfirmed.2 data hdata
            (env.answer w.log (.addMemberSignature data.hashToSign data.signature))
          refine ⟨fun out hok => ?_, fun e herror => ?_⟩
          · rw [show env.answer w.log (.addMemberSignature data.hashToSign data.signature) = .ok out
              from hok] at hsent ⊢
            exact hsent
          · rw [show env.answer w.log (.addMemberSignature data.hashToSign data.signature) = .error e
              from herror] at hsent ⊢
            exact hsent
        · exact .dataless hdata (isSome_nonceStep_notifyObservers _ _ _ ▸ hstep)
      · exact .already hupdate
    · exact .already hupdate
  split
  · next hconfirmed => exact .done hupdate hconfirmed
  · exact .viewed hupdate

end Delivers

/-! ## Steps -/

/-- A start, an event or a block. -/
def SubFlowInput.IsDelivery : SubFlowInput → Prop
  | .start _ _ | .rskEvent _ _ | .block _ => True
  | .snapshot | .restore => False

/-- Everything a step can do to a run. -/
inductive SubFlowRun.Steps (requiredConfirmations : UInt32) (r : SubFlowRun) :
    SubFlowInput → SubFlowRun → Prop
  | ignored (input : SubFlowInput) : Steps requiredConfirmations r input r
  | delivered {input : SubFlowInput} {w : World SignatureSubFlow} (panicked : Bool)
      (hdelivers : Delivers requiredConfirmations input ⟨r.subFlow, r.log⟩ w) :
      Steps requiredConfirmations r input ⟨w.own, w.log, r.saved, input :: r.history, panicked⟩
  | stored : Steps requiredConfirmations r .snapshot
      { r with saved := some (r.subFlow, r.log), history := .snapshot :: r.history }
  | rebuilt {subFlow : SignatureSubFlow} {log : Contracts.Log}
      (hsaved : r.saved = some (subFlow, log)) : Steps requiredConfirmations r .restore
      { r with subFlow := subFlow.restore, history := .restore :: r.history, panicked := false }

theorem SubFlowRun.deliver_steps {requiredConfirmations : UInt32} {r : SubFlowRun}
    {input : SubFlowInput} {m : SubFlowM Unit}
    (h : wp m (fun _ => Delivers requiredConfirmations input ⟨r.subFlow, r.log⟩)
      (fun _ => Delivers requiredConfirmations input ⟨r.subFlow, r.log⟩) ⟨r.subFlow, r.log⟩) :
    r.Steps requiredConfirmations input (r.deliver input m) := by
  unfold deliver
  split
  · exact .ignored input
  unfold wp at h
  cases hm : m ⟨r.subFlow, r.log⟩ with
  | ok _ w =>
    rw [hm] at h
    exact .delivered r.panicked h
  | error e w =>
    rw [hm] at h
    exact .delivered (!e.isError) h

theorem SubFlowRun.step_steps {requiredConfirmations : UInt32} (r : SubFlowRun)
    (input : Env × SubFlowInput) :
    r.Steps requiredConfirmations input.2 (r.step requiredConfirmations input) := by
  obtain ⟨env, input⟩ := input
  cases input with
  | start flowId data => exact deliver_steps (startSignatureFlow_delivers flowId data _)
  | rskEvent flowId event => exact deliver_steps (delegateRskEvent_delivers flowId event _)
  | block block => exact deliver_steps (delegateBlock_delivers block _)
  | snapshot =>
    show r.Steps requiredConfirmations .snapshot r.takeSnapshot
    unfold takeSnapshot
    split
    · exact .ignored _
    · exact .stored
  | restore =>
    show r.Steps requiredConfirmations .restore r.restoreSnapshot
    unfold restoreSnapshot
    split
    · exact .ignored _
    · next hsaved => exact .rebuilt hsaved

/-! ## Failed calls -/

/-- The subflow takes a call for done: a later delivery does not make it. -/
def SignatureSubFlow.hasMade (s : SignatureSubFlow) : Call → Bool
  | .addMemberNonce _ _ => s.data.isSome
  | .addMemberSignature _ _ => s.isNoncesStepDone
  | _ => true

/-- A delivery makes no call that is taken for done; it takes each call it makes for done, whatever
the answer is, and never takes that back. -/
theorem Delivers.made {requiredConfirmations : UInt32} {input : SubFlowInput}
    {w w' : World SignatureSubFlow} (h : Delivers requiredConfirmations input w w') :
    (∀ c, w.own.hasMade c = true → w'.own.hasMade c = true)
      ∧ ∃ new, w'.log = new ++ w.log
        ∧ ∀ entry ∈ new, w.own.hasMade entry.1 = false ∧ w'.own.hasMade entry.1 = true := by
  have hquiet : ∀ {log : Contracts.Log} {s s' : SignatureSubFlow}, ∃ new, log = new ++ log
      ∧ ∀ entry ∈ new, s.hasMade entry.1 = false ∧ s'.hasMade entry.1 = true :=
    ⟨[], rfl, fun _ h => nomatch h⟩
  have hsingle : ∀ {log : Contracts.Log} {s s' : SignatureSubFlow} {entry : LogEntry},
      s.hasMade entry.1 = false → s'.hasMade entry.1 = true → ∃ new, entry :: log = new ++ log
        ∧ ∀ entry ∈ new, s.hasMade entry.1 = false ∧ s'.hasMade entry.1 = true := by
    intro log s s' entry hbefore hafter
    refine ⟨[entry], rfl, fun entry' hmem => ?_⟩
    rw [List.mem_singleton.mp hmem]
    exact ⟨hbefore, hafter⟩
  have hflag : ∀ {s s' : SignatureSubFlow}, s'.data = s.data → s'.isNoncesStepDone = true →
      ∀ c, s.hasMade c = true → s'.hasMade c = true := by
    intro s s' hdata hdone c hc
    unfold SignatureSubFlow.hasMade at hc ⊢
    split
    · rw [hdata]
      exact hc
    · exact hdone
    · rfl
  cases h with
  | nonce data answer hdata hstep =>
    refine ⟨fun c hc => ?_, hsingle (Option.isSome_eq_false_iff.mpr (by rw [hdata]; rfl)) rfl⟩
    unfold SignatureSubFlow.hasMade at hc ⊢
    split
    · rfl
    · exact hc
    · rfl
  | signature hupdate hflag' hconfirmed data hdata answer =>
    exact ⟨hflag rfl rfl, hsingle hflag' rfl⟩
  | already => exact ⟨hflag rfl rfl, hquiet⟩
  | dataless => exact ⟨hflag rfl rfl, hquiet⟩
  | _ => exact ⟨fun _ hc => hc, hquiet⟩

def isFailedCall : LogEntry → Bool
  | ⟨.addMemberNonce _ _, .error _⟩ => true
  | ⟨.addMemberSignature _ _, .error _⟩ => true
  | _ => false

/-- Some later starts, events and blocks make the subflow attempt the call. -/
def Retriable (requiredConfirmations : UInt32) (r : SubFlowRun) (c : Call) : Prop :=
  ∃ inputs : List (Env × SubFlowInput), (∀ input ∈ inputs, input.2.IsDelivery)
    ∧ ∃ new answer, (Machine.run (SubFlowRun.step requiredConfirmations) r inputs).log
      = new ++ r.log ∧ (⟨c, answer⟩ : LogEntry) ∈ new

section Failed

variable {requiredConfirmations : UInt32} {r r' : SubFlowRun} {input : SubFlowInput}

theorem SubFlowRun.Steps.makes (h : r.Steps requiredConfirmations input r') :
    ∃ new, r'.log = new ++ r.log
      ∧ ∀ entry ∈ new, r.subFlow.hasMade entry.1 = false ∧ r'.subFlow.hasMade entry.1 = true := by
  cases h with
  | delivered panicked hdelivers => exact hdelivers.made.2
  | _ => exact ⟨[], rfl, fun _ h => nomatch h⟩

theorem SubFlowRun.Steps.keeps_made (h : r.Steps requiredConfirmations input r')
    (hinput : input.IsDelivery) {c : Call} (hmade : r.subFlow.hasMade c = true) :
    r'.subFlow.hasMade c = true := by
  cases h with
  | ignored => exact hmade
  | delivered panicked hdelivers => exact hdelivers.made.1 c hmade
  | stored => cases hinput
  | rebuilt => cases hinput

theorem not_retriable_of_hasMade {c : Call} (h : r.subFlow.hasMade c = true) :
    ¬ Retriable requiredConfirmations r c := by
  have hrun : ∀ (inputs : List (Env × SubFlowInput)) (r : SubFlowRun),
      (∀ input ∈ inputs, input.2.IsDelivery) → r.subFlow.hasMade c = true →
      ∃ new, (Machine.run (SubFlowRun.step requiredConfirmations) r inputs).log = new ++ r.log
        ∧ ∀ entry ∈ new, entry.1 ≠ c := by
    intro inputs
    induction inputs with
    | nil => exact fun r _ _ => ⟨[], rfl, fun _ h => nomatch h⟩
    | cons input inputs ih =>
      intro r hinputs hmade
      obtain ⟨later, hlater, hlaterNe⟩ := ih (r.step requiredConfirmations input)
        (fun i hi => hinputs i (List.mem_cons_of_mem _ hi))
        ((r.step_steps input).keeps_made (hinputs input List.mem_cons_self) hmade)
      obtain ⟨new, hnew, hnewMade⟩ := (r.step_steps input).makes
      refine ⟨later ++ new, ?_, fun entry hentry => ?_⟩
      · rw [List.append_assoc, ← hnew]
        exact hlater
      · rcases List.mem_append.mp hentry with hentry | hentry
        · exact hlaterNe entry hentry
        · rintro rfl
          rw [(hnewMade entry hentry).1] at hmade
          cases hmade
  rintro ⟨inputs, hinputs, new, answer, hnew, hmem⟩
  obtain ⟨new', hnew', hne⟩ := hrun inputs r hinputs h
  obtain rfl : new = new' := List.append_cancel_right (hnew.symm.trans hnew')
  exact hne _ hmem rfl

/-- The calls of the last step of a run. -/
def LastStepMakes (requiredConfirmations : UInt32) (flowId : Uuid)
    (before : List (Env × SubFlowInput)) (input : Env × SubFlowInput) (entry : LogEntry) : Prop :=
  let r := Machine.run (SubFlowRun.step requiredConfirmations) (.new flowId) before
  ∃ new, (r.step requiredConfirmations input).log = new ++ r.log ∧ entry ∈ new

theorem run_concat (flowId : Uuid) (before : List (Env × SubFlowInput)) (input : Env × SubFlowInput) :
    Machine.run (SubFlowRun.step requiredConfirmations) (.new flowId) (before ++ [input])
      = (Machine.run (SubFlowRun.step requiredConfirmations) (.new flowId) before).step
        requiredConfirmations input :=
  List.foldl_concat _ _ _ _

theorem mem_log_iff {flowId : Uuid} {inputs : List (Env × SubFlowInput)} {entry : LogEntry} :
    entry ∈ (Machine.run (SubFlowRun.step requiredConfirmations) (.new flowId) inputs).log
      ↔ ∃ before input after, inputs = before ++ input :: after
        ∧ LastStepMakes requiredConfirmations flowId before input entry := by
  induction inputs using List.reverseRecOn with
  | nil =>
    refine ⟨(fun h => nomatch h), ?_⟩
    rintro ⟨before, input, after, hinputs, -⟩
    simp at hinputs
  | append_singleton inputs last ih =>
    have hsteps : (Machine.run (SubFlowRun.step requiredConfirmations) (.new flowId) inputs).Steps
        requiredConfirmations last.2 _ := SubFlowRun.step_steps _ last
    obtain ⟨new, hnew, -⟩ := hsteps.makes
    rw [run_concat, hnew, List.mem_append, ih]
    constructor
    · rintro (h | ⟨before, input, after, rfl, h⟩)
      · exact ⟨inputs, last, [], rfl, new, hnew, h⟩
      · exact ⟨before, input, after ++ [last], by simp, h⟩
    · rintro ⟨before, input, after, hinputs, h⟩
      rcases List.eq_nil_or_concat after with rfl | ⟨after, last', rfl⟩
      · obtain ⟨rfl, hlast⟩ := List.append_inj' hinputs rfl
        cases hlast
        obtain ⟨new', hnew', hmem⟩ := h
        obtain rfl : new = new' := List.append_cancel_right (hnew.symm.trans hnew')
        exact .inl hmem
      · obtain ⟨rfl, -⟩ := List.append_inj' (hinputs.trans (by simp : _ = (before ++ input :: after)
          ++ [last'])) rfl
        exact .inr ⟨before, input, after, rfl, h⟩

end Failed

/-- A run in which each failed call can be attempted again after it. -/
def RecoversFromFailures (requiredConfirmations : UInt32) (flowId : Uuid)
    (inputs : List (Env × SubFlowInput)) : Prop :=
  ∀ before input after, inputs = before ++ input :: after →
    ∀ entry, LastStepMakes requiredConfirmations flowId before input entry →
      isFailedCall entry = true →
      Retriable requiredConfirmations
        (Machine.run (SubFlowRun.step requiredConfirmations) (.new flowId) (before ++ [input]))
        entry.1

/-- **No failed call is attempted again**: the subflow takes its nonce and its signature for sent
before it sends them, so a run recovers from its failures exactly when there is none. -/
theorem subflow_recovers_iff_no_call_failed (requiredConfirmations : UInt32) (flowId : Uuid)
    (inputs : List (Env × SubFlowInput)) :
    RecoversFromFailures requiredConfirmations flowId inputs
      ↔ ∀ entry ∈ (Machine.run (SubFlowRun.step requiredConfirmations) (.new flowId) inputs).log,
        isFailedCall entry = false := by
  constructor
  · intro hrecovers entry hmem
    refine Bool.eq_false_iff.mpr fun hfailed => ?_
    obtain ⟨before, input, after, hinputs, hmakes⟩ := mem_log_iff.mp hmem
    refine not_retriable_of_hasMade ?_ (hrecovers before input after hinputs entry hmakes hfailed)
    -- the step that made the call took it for done
    obtain ⟨new, hnew, hentry⟩ := hmakes
    obtain ⟨new', hnew', hmade⟩ := (SubFlowRun.step_steps _ input).makes
    obtain rfl : new = new' := List.append_cancel_right (hnew.symm.trans hnew')
    rw [run_concat]
    exact (hmade entry hentry).2
  · intro hnone before input after hinputs entry hmakes hfailed
    have hmem := mem_log_iff.mpr ⟨before, input, after, hinputs, hmakes⟩
    rw [hnone entry hmem] at hfailed
    cases hfailed

/-! ### A subflow, for runs on fixed inputs -/

def sampleSignatureData : RegisterSignaturesBitVmxData := ⟨5, ⟨[1]⟩, ⟨[2]⟩⟩

def sampleReady : EventWithBlock U256 := ⟨5, 1, 1, false, 1⟩

/-- Calls are accepted, or all refused. -/
def answering (accepts : Bool) : Env := .failing fun _ _ => !accepts

/-- The signature is refused once; no later start, event or block makes the subflow send it. -/
theorem refused_signature_not_retriable :
    let r := Machine.run (SubFlowRun.step 2) (.new 9)
      [(answering true, .start 9 sampleSignatureData),
        (answering true, .rskEvent 9 (.allNoncesReady sampleReady)),
        (answering false, .block (blockAt 2 2 1))]
    r.log.head?.map isFailedCall = some true
      ∧ r.log.head?.map (·.1) = some (.addMemberSignature 5 ⟨[2]⟩)
      ∧ ¬ Retriable 2 r (.addMemberSignature 5 ⟨[2]⟩) := by
  refine ⟨by decide +kernel, by decide +kernel, not_retriable_of_hasMade ?_⟩
  decide +kernel

end UnionBridge.Coordinator
