import UnionBridge.Coordinator.SignatureRuns

/-!
# The order of the calls of a signature subflow

The nonce is sent once, the signature once and after it, and the subflow ends last. The invariant
says what the flags and counters of a subflow stand for: calls in the log and events in the history.
-/

namespace UnionBridge.Coordinator

open Chain Contracts Bitvmx Effect

/-! ## Confirmed events -/

/-- Of the inputs so far, an event of this subflow that was not a removal, and the number of its own
block or of a block delivered after it. -/
def CountedTo (event : EventWithBlock U256 → RskPegManagerEvents) (flowId : Uuid) (hash : U256)
    (history : List SubFlowInput) (start n : Nat) : Prop :=
  ∃ (later earlier : List SubFlowInput) (log : EventWithBlock U256),
    history = later ++ .rskEvent flowId (event log) :: earlier
      ∧ log.removed = false ∧ log.inner = hash ∧ log.blockNumber = start
      ∧ (n = start ∨ ∃ block, .block block ∈ later ∧ n = block.number)

/-- An event for the hash reached its confirmations. -/
def ReachedConfirmations (requiredConfirmations : UInt32)
    (event : EventWithBlock U256 → RskPegManagerEvents) (flowId : Uuid) (hash : U256)
    (history : List SubFlowInput) : Prop :=
  ∃ start n, CountedTo event flowId hash history start n
    ∧ requiredConfirmations.toNat ≤ n + 1 - start

section Counted

variable {event : EventWithBlock U256 → RskPegManagerEvents} {flowId : Uuid} {hash : U256}
  {history : List SubFlowInput} {start n : Nat}

theorem CountedTo.cons (h : CountedTo event flowId hash history start n) (input : SubFlowInput) :
    CountedTo event flowId hash (input :: history) start n := by
  obtain ⟨later, earlier, log, rfl, hremoved, hinner, hstart, hn⟩ := h
  refine ⟨input :: later, earlier, log, rfl, hremoved, hinner, hstart, hn.imp_right ?_⟩
  rintro ⟨block, hmem, hnumber⟩
  exact ⟨block, List.mem_cons_of_mem _ hmem, hnumber⟩

theorem ReachedConfirmations.cons {requiredConfirmations : UInt32}
    (h : ReachedConfirmations requiredConfirmations event flowId hash history)
    (input : SubFlowInput) :
    ReachedConfirmations requiredConfirmations event flowId hash (input :: history) := by
  obtain ⟨start, n, hcounted, hle⟩ := h
  exact ⟨start, n, hcounted.cons input, hle⟩

theorem CountedTo.block (h : CountedTo event flowId hash history start n)
    (block : RskBlockAndUncles) :
    CountedTo event flowId hash (.block block :: history) start block.number := by
  obtain ⟨later, earlier, log, rfl, hremoved, hinner, hstart, -⟩ := h
  exact ⟨.block block :: later, earlier, log, rfl, hremoved, hinner, hstart,
    .inr ⟨block, List.mem_cons_self, rfl⟩⟩

/-- After a restart a count begins again. -/
theorem CountedTo.again (h : CountedTo event flowId hash history start n) :
    CountedTo event flowId hash history start start := by
  obtain ⟨later, earlier, log, hhistory, hremoved, hinner, hstart, -⟩ := h
  exact ⟨later, earlier, log, hhistory, hremoved, hinner, hstart, .inl rfl⟩

/-- The counter of a step counts an event for the hash of the subflow. -/
def StepCounts (requiredConfirmations : UInt32)
    (event : EventWithBlock U256 → RskPegManagerEvents) (flowId : Uuid) (hash : U256)
    (history : List SubFlowInput) (step : Option ConfirmableEvent) : Prop :=
  ∀ e c, step = some e → e.confirmations = some c →
    c.required = requiredConfirmations ∧ CountedTo event flowId hash history c.init c.last

variable {requiredConfirmations : UInt32} {step : Option ConfirmableEvent}
  (h : StepCounts requiredConfirmations event flowId hash history step)

include h in
theorem StepCounts.cons (input : SubFlowInput) :
    StepCounts requiredConfirmations event flowId hash (input :: history) step :=
  fun e c he hc => ⟨(h e c he hc).1, (h e c he hc).2.cons input⟩

theorem stepCounts_new : StepCounts requiredConfirmations event flowId hash history (some .new) := by
  intro e c he hc
  cases he
  cases hc

include h in
theorem StepCounts.restore :
    StepCounts requiredConfirmations event flowId hash history
      (step.map fun e => ⟨e.confirmations.map fun c => .new c.init c.required⟩) := by
  intro e' c he hc
  obtain ⟨e, rfl, rfl⟩ := Option.map_eq_some_iff.mp he
  obtain ⟨c₀, hc₀, rfl⟩ := Option.map_eq_some_iff.mp hc
  obtain ⟨hrequired, hcounted⟩ := h e c₀ rfl hc₀
  exact ⟨hrequired, hcounted.again⟩

theorem stepCounts_counterFor (log : EventWithBlock U256) :
    StepCounts requiredConfirmations event flowId log.inner
      (.rskEvent flowId (event log) :: history) (some (counterFor requiredConfirmations log)) := by
  intro e c he hc
  cases he
  cases hremoved : log.removed with
  | true =>
    simp only [counterFor, hremoved, if_true] at hc
    cases hc
  | false =>
    simp only [counterFor, hremoved, Bool.false_eq_true, if_false] at hc
    cases hc
    exact ⟨rfl, [], history, log, rfl, hremoved, rfl, rfl, .inl rfl⟩

theorem foldl_notify_added (sent : List Notification) (block : RskBlockAndUncles)
    (c : BlockConfirmations) : (sent ++ [Notification.added block]).foldl BlockConfirmations.notify c
      = { c with last := block.number } := by
  induction sent generalizing c with
  | nil => rfl
  | cons message sent ih =>
    cases message with
    | added b => exact ih _
    | removed b => exact ih _

/-- The messages about a block leave a counter as it is, or at the number of the block. -/
theorem foldl_notify_of_update {ι : Type} {view view' : BlockchainView ι}
    {block : RskBlockAndUncles} {sent : List Notification}
    (hupdate : view.update block = .ok (view', sent)) (c : BlockConfirmations) :
    sent.foldl BlockConfirmations.notify c = c
      ∨ sent.foldl BlockConfirmations.notify c = { c with last := block.number } := by
  rcases BlockchainView.update_cases hupdate with ⟨-, -, rfl⟩ | ⟨-, -, -, rfl⟩ | ⟨-, -, -, removed, rfl⟩
  · exact .inl rfl
  · exact .inr rfl
  · exact .inr (foldl_notify_added _ block c)

include h in
theorem StepCounts.notify {ι : Type} {view view' : BlockchainView ι} {block : RskBlockAndUncles}
    {sent : List Notification} (hupdate : view.update block = .ok (view', sent)) (observed : Prop)
    [Decidable observed] :
    StepCounts requiredConfirmations event flowId hash (.block block :: history)
      (if observed then step.map (·.notify sent) else step) := by
  split
  · intro e' c he hc
    obtain ⟨e, rfl, rfl⟩ := Option.map_eq_some_iff.mp he
    obtain ⟨c₀, hc₀, rfl⟩ := Option.map_eq_some_iff.mp hc
    obtain ⟨hrequired, hcounted⟩ := h e c₀ rfl hc₀
    rcases foldl_notify_of_update hupdate c₀ with hsame | hnew
    · rw [hsame]
      exact ⟨hrequired, hcounted.cons _⟩
    · rw [hnew]
      exact ⟨hrequired, hcounted.block block⟩
  · exact h.cons _

include h in
theorem StepCounts.reached (hconfirmed : step.any (·.isConfirmed) = true) :
    ReachedConfirmations requiredConfirmations event flowId hash history := by
  cases step with
  | none => cases hconfirmed
  | some e =>
  cases hc : e.confirmations with
  | none => simp [ConfirmableEvent.isConfirmed, hc] at hconfirmed
  | some c =>
    obtain ⟨hrequired, hcounted⟩ := h e c rfl hc
    refine ⟨c.init, c.last, hcounted, ?_⟩
    have haccum : c.required.toNat ≤ c.accum := by
      simpa [ConfirmableEvent.isConfirmed, BlockConfirmations.isConfirmed, hc] using hconfirmed
    have hle : c.accum ≤ c.last + 1 - c.init := by
      unfold BlockConfirmations.accum
      split
      · omega
      · exact (Nat.mod_le _ _).trans (by omega)
    rw [← hrequired]
    exact haccum.trans hle

end Counted

/-! ## The order of the calls -/

def isNonceCall : LogEntry → Bool
  | ⟨.addMemberNonce _ _, _⟩ => true
  | _ => false

def isSignatureCall : LogEntry → Bool
  | ⟨.addMemberSignature _ _, _⟩ => true
  | _ => false

def NonceAccepted (hash : U256) (log : Contracts.Log) : Prop :=
  ∃ nonce out, (⟨.addMemberNonce hash nonce, .ok out⟩ : LogEntry) ∈ log

def SignatureAccepted (hash : U256) (log : Contracts.Log) : Prop :=
  ∃ signature out, (⟨.addMemberSignature hash signature, .ok out⟩ : LogEntry) ∈ log

theorem NonceAccepted.cons {hash : U256} {log : Contracts.Log} (h : NonceAccepted hash log)
    (entry : LogEntry) : NonceAccepted hash (entry :: log) := by
  obtain ⟨nonce, out, hmem⟩ := h
  exact ⟨nonce, out, List.mem_cons_of_mem _ hmem⟩

theorem SignatureAccepted.cons {hash : U256} {log : Contracts.Log} (h : SignatureAccepted hash log)
    (entry : LogEntry) : SignatureAccepted hash (entry :: log) := by
  obtain ⟨signature, out, hmem⟩ := h
  exact ⟨signature, out, List.mem_cons_of_mem _ hmem⟩

/-- The flags and counters of a subflow agree with the calls it made and the events it received. -/
structure SubFlowOrdered (requiredConfirmations : UInt32) (history : List SubFlowInput)
    (log : Contracts.Log) (s : SignatureSubFlow) : Prop where
  nonceOnce : log.countP isNonceCall ≤ if s.data.isSome then 1 else 0
  signatureOnce : log.countP isSignatureCall ≤ if s.isNoncesStepDone then 1 else 0
  nonceStep : s.nonceStep.isSome = true →
    ∃ data, s.data = some data ∧ NonceAccepted data.hashToSign log
  signatureStep : s.signatureStep.isSome = true →
    ∃ data, s.data = some data ∧ SignatureAccepted data.hashToSign log
  nonces : ∀ data, s.data = some data →
    StepCounts requiredConfirmations .allNoncesReady s.flowId data.hashToSign history s.nonceStep
  signatures : ∀ data, s.data = some data →
    StepCounts requiredConfirmations .allSignaturesReady s.flowId data.hashToSign history
      s.signatureStep
  done : s.isDone = true → ∃ data, s.data = some data ∧ SignatureAccepted data.hashToSign log
    ∧ ReachedConfirmations requiredConfirmations .allSignaturesReady s.flowId data.hashToSign history

section Ordered

variable {requiredConfirmations : UInt32} {history : List SubFlowInput} {log : Contracts.Log}
  {s : SignatureSubFlow}

theorem subFlowOrdered_new (flowId : Uuid) :
    SubFlowOrdered requiredConfirmations [] [] (.new flowId) where
  nonceOnce := Nat.le_refl 0
  signatureOnce := Nat.le_refl 0
  nonceStep h := nomatch h
  signatureStep h := nomatch h
  nonces _ h := nomatch h
  signatures _ h := nomatch h
  done h := nomatch h

namespace SubFlowOrdered

variable (h : SubFlowOrdered requiredConfirmations history log s)

include h

theorem cons
    (input : SubFlowInput) : SubFlowOrdered requiredConfirmations (input :: history) log s where
  nonceOnce := h.nonceOnce
  signatureOnce := h.signatureOnce
  nonceStep := h.nonceStep
  signatureStep := h.signatureStep
  nonces data hdata := (h.nonces data hdata).cons input
  signatures data hdata := (h.signatures data hdata).cons input
  done hdone := by
    obtain ⟨data, hdata, haccepted, hreached⟩ := h.done hdone
    exact ⟨data, hdata, haccepted, hreached.cons input⟩

theorem restore :
    SubFlowOrdered requiredConfirmations history log s.restore where
  nonceOnce := h.nonceOnce
  signatureOnce := h.signatureOnce
  nonceStep hstep := h.nonceStep (Option.isSome_map.symm.trans hstep)
  signatureStep hstep := h.signatureStep (Option.isSome_map.symm.trans hstep)
  nonces data hdata := (h.nonces data hdata).restore
  signatures data hdata := (h.signatures data hdata).restore
  done := h.done

theorem viewed
    {block : RskBlockAndUncles} {view : BlockchainView SignaturePhase} {sent : List Notification}
    (hupdate : s.blockchainView.update block = .ok (view, sent)) :
    SubFlowOrdered requiredConfirmations (.block block :: history) log
      (s.notifyObservers view sent) where
  nonceOnce := h.nonceOnce
  signatureOnce := h.signatureOnce
  nonceStep hstep := h.nonceStep (by rwa [isSome_nonceStep_notifyObservers] at hstep)
  signatureStep hstep := by
    refine h.signatureStep ?_
    simp only [SignatureSubFlow.notifyObservers] at hstep
    split at hstep
    · exact Option.isSome_map.symm.trans hstep
    · exact hstep
  nonces data hdata := (h.nonces data hdata).notify hupdate _
  signatures data hdata := (h.signatures data hdata).notify hupdate _
  done := (h.cons _).done

/-- A subflow that has nothing to sign has made no call. -/
theorem unsigned
    (hdata : s.data = none) : s.signatureStep = none ∧ s.isDone = false := by
  refine ⟨?_, ?_⟩
  · refine Option.not_isSome_iff_eq_none.mp fun hstep => ?_
    obtain ⟨data, hsome, -⟩ := h.signatureStep hstep
    cases hdata.symm.trans hsome
  · refine Bool.eq_false_iff.mpr fun hdone => ?_
    obtain ⟨data, hsome, -⟩ := h.done hdone
    cases hdata.symm.trans hsome

theorem nonceSent
    (data : RegisterSignaturesBitVmxData) (answer : Except DomainErrors TxSentOutput)
    (hdata : s.data = none) (hstep : s.nonceStep = none) :
    SubFlowOrdered requiredConfirmations history
      (⟨.addMemberNonce data.hashToSign data.nonce, answer⟩ :: log)
      (s.nonceSent data answer.toBool) where
  nonceOnce := by
    have hzero : log.countP isNonceCall ≤ 0 := by simpa [hdata] using h.nonceOnce
    rw [List.countP_cons_of_pos rfl]
    exact Nat.succ_le_succ hzero
  signatureOnce := by
    rw [List.countP_cons_of_neg Bool.false_ne_true]
    exact h.signatureOnce
  nonceStep hnonce := by
    cases answer with
    | ok out => exact ⟨data, rfl, data.nonce, out, List.mem_cons_self⟩
    | error e =>
      have hnone : (s.nonceSent data (Except.error e : Except _ TxSentOutput).toBool).nonceStep
        = none := hstep
      rw [hnone] at hnonce
      cases hnonce
  signatureStep hsignature := by
    have hnone : (s.nonceSent data answer.toBool).signatureStep = none := (h.unsigned hdata).1
    rw [hnone] at hsignature
    cases hsignature
  nonces data' _ := by
    cases answer with
    | ok out => exact stepCounts_new
    | error e =>
      intro event c hevent
      cases hstep.symm.trans hevent
  signatures data' _ := by
    intro event c hevent
    cases (h.unsigned hdata).1.symm.trans hevent
  done hdone := by cases (h.unsigned hdata).2.symm.trans hdone

theorem signatureSent
    (data : RegisterSignaturesBitVmxData) (answer : Except DomainErrors TxSentOutput)
    (hdata : s.data = some data) (hflag : s.isNoncesStepDone = false)
    (hstep : s.nonceStep.isSome = true) :
    SubFlowOrdered requiredConfirmations history
      (⟨.addMemberSignature data.hashToSign data.signature, answer⟩ :: log)
      { s.noncesStopped with
        signatureStep := if answer.toBool then some .new else s.signatureStep } where
  nonceOnce := by
    rw [List.countP_cons_of_neg Bool.false_ne_true]
    exact h.nonceOnce
  signatureOnce := by
    have hzero : log.countP isSignatureCall ≤ 0 := by simpa [hflag] using h.signatureOnce
    rw [List.countP_cons_of_pos rfl]
    exact Nat.succ_le_succ hzero
  nonceStep _ := by
    obtain ⟨data', hdata', haccepted⟩ := h.nonceStep hstep
    exact ⟨data', hdata', haccepted.cons _⟩
  signatureStep hsignature := by
    cases answer with
    | ok out => exact ⟨data, hdata, data.signature, out, List.mem_cons_self⟩
    | error e =>
      obtain ⟨data', hdata', haccepted⟩ := h.signatureStep hsignature
      exact ⟨data', hdata', haccepted.cons _⟩
  nonces _ _ := stepCounts_new
  signatures data' hdata' := by
    cases answer with
    | ok out => exact stepCounts_new
    | error e => exact h.signatures data' hdata'
  done hdone := by
    obtain ⟨data', hdata', haccepted, hreached⟩ := h.done hdone
    exact ⟨data', hdata', haccepted.cons _, hreached⟩

end SubFlowOrdered

/-- **One delivery** keeps the order. -/
theorem SubFlowOrdered.delivers {input : SubFlowInput} {w w' : World SignatureSubFlow}
    (h : SubFlowOrdered requiredConfirmations history w.log w.own)
    (hdelivers : Delivers requiredConfirmations input w w') :
    SubFlowOrdered requiredConfirmations (input :: history) w'.log w'.own := by
  cases hdelivers with
  | idle => exact h.cons _
  | nonce data answer hdata hstep => exact (h.cons _).nonceSent data answer hdata hstep
  | nonces event view hhash hstep =>
    refine { h.cons _ with nonceStep := fun _ => h.nonceStep hstep, nonces := ?_ }
    intro data hdata
    obtain ⟨data', hdata', hinner⟩ := Option.map_eq_some_iff.mp hhash
    cases hdata.symm.trans hdata'
    rw [hinner]
    exact stepCounts_counterFor event
  | signatures event view hhash hstep =>
    refine { h.cons _ with signatureStep := fun _ => h.signatureStep hstep, signatures := ?_ }
    intro data hdata
    obtain ⟨data', hdata', hinner⟩ := Option.map_eq_some_iff.mp hhash
    cases hdata.symm.trans hdata'
    rw [hinner]
    exact stepCounts_counterFor event
  | viewed hupdate => exact h.viewed hupdate
  | already hupdate =>
    refine { h.viewed hupdate with signatureOnce := ?_ }
    exact h.signatureOnce.trans (by split <;> simp)
  | dataless hdata hstep =>
    obtain ⟨data, hsome, -⟩ := h.nonceStep hstep
    cases hdata.symm.trans hsome
  | signature hupdate hflag hconfirmed data hdata answer =>
    refine (h.viewed hupdate).signatureSent data answer hdata hflag ?_
    exact Option.isSome_of_any hconfirmed
  | done hupdate hconfirmed =>
    have hviewed := h.viewed hupdate
    refine { hviewed with done := fun _ => ?_ }
    obtain ⟨data, hdata, haccepted⟩ := hviewed.signatureStep (Option.isSome_of_any hconfirmed)
    exact ⟨data, hdata, haccepted, (hviewed.signatures data hdata).reached hconfirmed⟩

end Ordered

theorem Delivers.flowId {requiredConfirmations : UInt32} {input : SubFlowInput}
    {w w' : World SignatureSubFlow} (h : Delivers requiredConfirmations input w w') :
    w'.own.flowId = w.own.flowId := by
  cases h <;> rfl

/-- The order holds of a subflow, and of its last snapshot with the calls made before it. -/
structure SubFlowRun.Ordered (requiredConfirmations : UInt32) (flowId : Uuid) (r : SubFlowRun) :
    Prop where
  own : r.subFlow.flowId = flowId
  current : SubFlowOrdered requiredConfirmations r.history r.log r.subFlow
  saved : ∀ snapshot, r.saved = some snapshot → snapshot.1.flowId = flowId
    ∧ SubFlowOrdered requiredConfirmations r.history snapshot.2 snapshot.1

/-- A subflow is rebuilt from a snapshot that was taken after its last call. -/
def SubFlowRun.RestoresCurrent (r : SubFlowRun) (input : Env × SubFlowInput) : Prop :=
  input.2 = .restore → ∀ snapshot, r.saved = some snapshot → snapshot.2 = r.log

namespace SubFlowRun

variable {requiredConfirmations : UInt32} {flowId : Uuid} {r : SubFlowRun}

/-- **One step.** -/
theorem Ordered.step (h : r.Ordered requiredConfirmations flowId) (input : Env × SubFlowInput)
    (hcurrent : r.RestoresCurrent input) :
    (r.step requiredConfirmations input).Ordered requiredConfirmations flowId := by
  have hsaved : ∀ (input : SubFlowInput) snapshot, r.saved = some snapshot →
      snapshot.1.flowId = flowId
        ∧ SubFlowOrdered requiredConfirmations (input :: r.history) snapshot.2 snapshot.1 :=
    fun input snapshot hsaved => ⟨(h.saved snapshot hsaved).1, (h.saved snapshot hsaved).2.cons _⟩
  have hsteps : r.Steps requiredConfirmations input.2 _ := r.step_steps input
  obtain ⟨env, input⟩ := input
  generalize r.step requiredConfirmations (env, input) = r' at hsteps ⊢
  cases hsteps with
  | ignored => exact h
  | delivered panicked hdelivers =>
    exact ⟨hdelivers.flowId.trans h.own, h.current.delivers hdelivers, hsaved _⟩
  | stored =>
    refine ⟨h.own, h.current.cons _, ?_⟩
    rintro snapshot hsnapshot
    cases hsnapshot
    exact ⟨h.own, h.current.cons _⟩
  | @rebuilt subFlow log hsome =>
    obtain ⟨hid, hordered⟩ := h.saved _ hsome
    -- no call was made since, so the snapshot agrees with the whole log
    obtain rfl : log = r.log := hcurrent rfl _ hsome
    exact ⟨hid, (hordered.cons _).restore, hsaved _⟩

theorem Ordered.sends (h : r.Ordered requiredConfirmations flowId) {input : Env × SubFlowInput}
    {new : Contracts.Log} {hash : U256} {signature : PartialSignature}
    {answer : Except DomainErrors TxSentOutput}
    (hnew : (r.step requiredConfirmations input).log = new ++ r.log)
    (hsent : (⟨.addMemberSignature hash signature, answer⟩ : LogEntry) ∈ new) :
    NonceAccepted hash r.log ∧ ReachedConfirmations requiredConfirmations .allNoncesReady flowId
      hash (r.step requiredConfirmations input).history := by
  have hnothing : r.log = new ++ r.log → False := by
    intro heq
    rw [List.self_eq_append_left.mp heq] at hsent
    cases hsent
  have hsteps : r.Steps requiredConfirmations input.2 _ := r.step_steps input
  obtain rfl := h.own
  obtain ⟨env, input⟩ := input
  generalize r.step requiredConfirmations (env, input) = r' at hsteps hnew ⊢
  cases hsteps with
  | ignored => exact (hnothing hnew).elim
  | stored => exact (hnothing hnew).elim
  | rebuilt => exact (hnothing hnew).elim
  | delivered panicked hdelivers =>
  cases hdelivers with
  | nonce data answer hdata hstep =>
    have hsingle : [_] = new := List.append_cancel_right hnew
    rw [← hsingle] at hsent
    cases List.mem_singleton.mp hsent
  | signature hupdate hflag hconfirmed data hdata answer =>
    have hsingle : [_] = new := List.append_cancel_right hnew
    rw [← hsingle] at hsent
    cases List.mem_singleton.mp hsent
    have hviewed := h.current.viewed hupdate
    obtain ⟨data', hdata', haccepted⟩ := hviewed.nonceStep (Option.isSome_of_any hconfirmed)
    cases hdata.symm.trans hdata'
    exact ⟨haccepted, (hviewed.nonces data hdata).reached hconfirmed⟩
  | _ => exact (hnothing hnew).elim

theorem ordered_new (flowId : Uuid) : (new flowId).Ordered requiredConfirmations flowId :=
  ⟨rfl, subFlowOrdered_new flowId, fun _ h => nomatch h⟩

end SubFlowRun

/-- Two confirmations for each event, and a restart in between. -/
def signedInputs : List (Env × SubFlowInput) :=
  [.start 9 sampleSignatureData, .rskEvent 9 (.allNoncesReady sampleReady), .snapshot, .restore,
    .block (blockAt 2 2 1), .rskEvent 9 (.allSignaturesReady sampleReady),
    .block (blockAt 3 3 2)].map fun input => (answering true, input)

end UnionBridge.Coordinator
