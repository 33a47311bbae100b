import UnionBridge.Coordinator.ConfirmationGate
import Mathlib.Data.List.Perm.Basic
import Mathlib.Data.List.Nodup

/-!
# Every log is tracked on its own

A log of the chain is identified by its transaction and its index there, but an `EventWithBlock`
carries no index and the gate keeps an event under its kind and transaction hash. The index rides
here in the payload, which the gate never looks at.

`Traced` records along a run which logs the processor received, which ones the gate handed to the
handler and which ones a removal log took out. As long as no log arrives while another log of its
kind from its transaction is pending, each received log is in exactly one of these places.
-/

namespace UnionBridge.Coordinator

open Chain

/-- The payload of a log together with the index of the log in its transaction. -/
structure Indexed (π : Type) where
  payload : π
  logIndex : Nat

abbrev ChainLog (π : Type) := RskPegManagerEvent (Indexed π)

/-- What identifies a log. -/
def RskPegManagerEvent.place {π : Type} (log : ChainLog π) : U256 × Nat := (log.txHash, log.inner.logIndex)

structure Traced (π σ : Type) where
  processor : Processor (Indexed π) σ
  /-- The added logs that the processor confirms. -/
  received : List (ChainLog π)
  /-- The logs that the gate handed to their handler; replays of kept events do not count. -/
  confirmed : List (ChainLog π)
  /-- The logs that left on a removal log, with that log. -/
  cancelled : List (ChainLog π × ChainLog π)

namespace Traced

variable {π σ : Type}

def new (flows : σ) : Traced π σ :=
  { processor := .new flows, received := [], confirmed := [], cancelled := [] }

end Traced

section Step

variable {π σ : Type} (kind : ProcessorKind) (required : UInt32)
  (logic : FlowLogic (Indexed π) σ)

/-- An added log of a kind that the processor confirms. -/
def isTracked (log : ChainLog π) : Bool := !log.removed && (trackedLabel kind log.kind).isSome

def receivedBy (p : Processor (Indexed π) σ) : ProcessorInput (Indexed π) σ → List (ChainLog π)
  | .rskEvent log =>
    if !p.panicked && isTracked kind log && (required == 0 || logic.takesEvent p.flows log) then
      [log]
    else
      []
  | _ => []

def confirmedBy (p p' : Processor (Indexed π) σ) : ProcessorInput (Indexed π) σ → List (ChainLog π)
  | .replay _ => []
  | _ => ((p'.handled.drop p.handled.length).map (·.event)).filter (isTracked kind)

/-- The events that are pending before a removal log and no longer after it. -/
def cancelledBy (p p' : Processor (Indexed π) σ) :
    ProcessorInput (Indexed π) σ → List (ChainLog π × ChainLog π)
  | .rskEvent log =>
    if log.removed then
      (p.eventsConfirming.filter fun entry => entry.1 ∉ p'.eventsConfirming.map (·.1)).map
        fun entry => (entry.2.data, log)
    else
      []
  | _ => []

def tracedStep (t : Traced π σ) (input : ProcessorInput (Indexed π) σ) : Traced π σ :=
  let p' := processorStep kind required logic t.processor input
  { processor := p'
    received := t.received ++ receivedBy kind required logic t.processor input
    confirmed := t.confirmed ++ confirmedBy kind t.processor p' input
    cancelled := t.cancelled ++ cancelledBy t.processor p' input }

/-- No log was received before at the place of an added one. -/
def Fresh (t : Traced π σ) : ProcessorInput (Indexed π) σ → Prop
  | .rskEvent log => log.removed = false → ∀ r ∈ t.received, r.place ≠ log.place
  | _ => True

/-- The event under the key of an arriving log, if one is pending, is that log. -/
def OwnKey (p : Processor (Indexed π) σ) : ProcessorInput (Indexed π) σ → Prop
  | .rskEvent log => ∀ entry ∈ p.eventsConfirming,
      trackedLabel kind log.kind = some entry.1.label → log.txHash = entry.1.txHash →
        entry.2.data.place = log.place
  | _ => True

/-- The loop over the confirmed keys gets to its end: no handler returns an error. -/
def loopFinished : Processor (Indexed π) σ → List EventId → Bool
  | _, [] => true
  | p, key :: keys =>
    match p.stopConfirmingEvent key with
    | (p, none) => loopFinished p keys
    | (p, some event) =>
      match p.processConfirmedRskEvent logic event.data with
      | (p, true) => loopFinished p keys
      | (_, false) => false

def blockFinished (p : Processor (Indexed π) σ) (order : List EventId)
    (block : RskBlockAndUncles) : Bool :=
  let (flows, ok) := logic.beforeConfirmations p.flows block
  let p := { p with flows := flows }
  ok && match p.blockchainView.update block with
    | .error _ => false
    | .ok (view, sent) =>
      let p := p.notifyObservers view sent
      loopFinished logic p (p.confirmedKeys order)

end Step

/-! ## What the gate does with the pending events -/

namespace Processor

variable {π σ : Type}

/-- The keys of the pending events belong to them, and no two are equal. -/
structure Keyed (kind : ProcessorKind) (p : Processor (Indexed π) σ) : Prop where
  keys : (p.eventsConfirming.map (·.1)).Nodup
  own : ∀ entry ∈ p.eventsConfirming, isTracked kind entry.2.data = true
    ∧ trackedLabel kind entry.2.data.kind = some entry.1.label
    ∧ entry.2.data.txHash = entry.1.txHash

variable {kind : ProcessorKind} {p : Processor (Indexed π) σ}

theorem Keyed.of_eq {p p' : Processor (Indexed π) σ} (h : p.Keyed kind)
    (heq : p'.eventsConfirming = p.eventsConfirming) : p'.Keyed kind := by
  refine ⟨?_, ?_⟩
  · rw [heq]
    exact h.keys
  · rw [heq]
    exact h.own

theorem perm_cons_filter {α : Type} {entries : List (EventId × α)} {id : EventId}
    {entry : EventId × α} (hkeys : (entries.map (·.1)).Nodup)
    (hfind : entries.find? (·.1 = id) = some entry) :
    entries.Perm (entry :: entries.filter (·.1 ≠ id)) := by
  classical
  have hmem := List.mem_of_find?_eq_some hfind
  have hid : entry.1 = id := by simpa using List.find?_some hfind
  have herase : entries.erase entry = entries.filter (·.1 ≠ id) := by
    rw [(hkeys.of_map _).erase_eq_filter]
    refine List.filter_congr fun other hother => ?_
    have hkey : other.1 = id ↔ other = entry :=
      ⟨fun h => List.inj_on_of_nodup_map hkeys hother hmem (h.trans hid.symm), fun h => h ▸ hid⟩
    rw [Bool.eq_iff_iff]
    simp [hkey]
  exact herase ▸ List.perm_cons_erase hmem

theorem stopConfirmingEvent_takes (h : p.Keyed kind) (id : EventId) :
    (p.stopConfirmingEvent id = (p, none) ∧ id ∉ p.eventsConfirming.map (·.1))
      ∨ ∃ event p', p.stopConfirmingEvent id = (p', some event)
        ∧ p.eventsConfirming.Perm ((id, event) :: p'.eventsConfirming)
        ∧ p'.eventsConfirming = p.eventsConfirming.filter (·.1 ≠ id)
        ∧ p'.Keyed kind ∧ p'.handled = p.handled := by
  unfold stopConfirmingEvent
  cases hfind : p.eventsConfirming.find? (·.1 = id) with
  | none =>
    refine .inl ⟨rfl, ?_⟩
    intro hmem
    obtain ⟨entry, hentry, hid⟩ := List.mem_map.mp hmem
    exact absurd hid (by simpa using List.find?_eq_none.mp hfind entry hentry)
  | some entry =>
    have hid : entry.1 = id := by simpa using List.find?_some hfind
    refine .inr ⟨entry.2, _, rfl, ?_, rfl, ⟨?_, ?_⟩, rfl⟩
    · subst hid
      exact perm_cons_filter h.keys hfind
    · exact h.keys.sublist (List.filter_sublist.map _)
    · intro other hother
      exact h.own other (List.mem_filter.mp hother).1

def pendingData (p : Processor (Indexed π) σ) : List (ChainLog π) :=
  p.eventsConfirming.map fun entry => entry.2.data

/-- Some pending events leave the gate and their handlers are called, once each. -/
def Hands (kind : ProcessorKind) (p p' : Processor (Indexed π) σ) : Prop :=
  p'.Keyed kind ∧ ∃ calls, p'.handled = p.handled ++ calls
    ∧ p.pendingData.Perm (calls.map (·.event) ++ p'.pendingData)

theorem Hands.refl (h : p.Keyed kind) : Hands kind p p :=
  ⟨h, [], by rw [List.append_nil], List.Perm.refl _⟩

theorem Hands.trans {p₁ p₂ p₃ : Processor (Indexed π) σ}
    (h₁ : Hands kind p₁ p₂) (h₂ : Hands kind p₂ p₃) : Hands kind p₁ p₃ := by
  obtain ⟨_, calls₁, hhandled₁, hperm₁⟩ := h₁
  obtain ⟨hkeyed, calls₂, hhandled₂, hperm₂⟩ := h₂
  refine ⟨hkeyed, calls₁ ++ calls₂, ?_, ?_⟩
  · rw [hhandled₂, hhandled₁, List.append_assoc]
  · rw [List.map_append, List.append_assoc]
    exact hperm₁.trans (hperm₂.append_left _)

theorem hands_handler {p p' : Processor (Indexed π) σ} {id : EventId}
    {event : ConfirmableEventWithData (Indexed π)} (logic : FlowLogic (Indexed π) σ)
    (hperm : p.eventsConfirming.Perm ((id, event) :: p'.eventsConfirming)) (hkeyed : p'.Keyed kind)
    (hhandled : p'.handled = p.handled) :
    Hands kind p (p'.processConfirmedRskEvent logic event.data).1 := by
  refine ⟨hkeyed.of_eq rfl, [⟨event.data, p'.blockchainView⟩], ?_, ?_⟩
  · show p'.handled ++ _ = _
    rw [hhandled]
  · exact hperm.map fun entry => entry.2.data

variable (logic : FlowLogic (Indexed π) σ)

theorem hands_confirmLoop
    (h : p.Keyed kind) (keys : List EventId) : Hands kind p (confirmLoop logic p keys) := by
  induction keys generalizing p with
  | nil => exact .refl h
  | cons key keys ih =>
    unfold confirmLoop
    rcases stopConfirmingEvent_takes h key with ⟨heq, _⟩ | ⟨event, p', heq, hperm, _, hkeyed, hh⟩
    · rw [heq]
      exact ih h
    · rw [heq]
      have hhands := hands_handler logic hperm hkeyed hh
      simp only
      split
      · next p'' hp'' =>
        rw [hp''] at hhands
        exact hhands.trans (ih hhands.1)
      · next p'' hp'' =>
        rw [hp''] at hhands
        exact hhands

theorem confirmLoop_clears
    (h : p.Keyed kind) {keys : List EventId} (hfinished : loopFinished logic p keys = true) :
    ∀ entry ∈ (confirmLoop logic p keys).eventsConfirming,
      entry ∈ p.eventsConfirming ∧ entry.1 ∉ keys := by
  induction keys generalizing p with
  | nil => exact fun entry hentry => ⟨hentry, List.not_mem_nil⟩
  | cons key keys ih =>
    unfold confirmLoop
    unfold loopFinished at hfinished
    rcases stopConfirmingEvent_takes h key with
      ⟨heq, hnone⟩ | ⟨event, p', heq, hperm, hrest, hkeyed, hh⟩
    · rw [heq] at hfinished ⊢
      intro entry hentry
      obtain ⟨hmem, hkeys⟩ := ih h hfinished entry hentry
      refine ⟨hmem, List.not_mem_cons_of_ne_of_not_mem ?_ hkeys⟩
      rintro rfl
      exact hnone (List.mem_map_of_mem hmem)
    · rw [heq] at hfinished ⊢
      have hhands := hands_handler logic hperm hkeyed hh
      simp only at hfinished ⊢
      split at hfinished
      · next p'' hp'' =>
        rw [hp''] at hhands ⊢
        have hevents : p''.eventsConfirming = p'.eventsConfirming := by
          rw [show p'' = (p'.processConfirmedRskEvent logic event.data).1 by rw [hp'']]
          rfl
        intro entry hentry
        obtain ⟨hmem, hkeys⟩ := ih hhands.1 hfinished entry hentry
        rw [hevents, hrest] at hmem
        obtain ⟨hold, hne⟩ := List.mem_filter.mp hmem
        exact ⟨hold, List.not_mem_cons_of_ne_of_not_mem (by simpa using hne) hkeys⟩
      · cases hfinished

theorem map_key_notifyObservers (p : Processor (Indexed π) σ) (view : BlockchainView EventId)
    (sent : List Notification) :
    (p.notifyObservers view sent).eventsConfirming.map (·.1) = p.eventsConfirming.map (·.1) := by
  simp only [notifyObservers, List.map_map]
  rfl

theorem pendingData_notifyObservers (p : Processor (Indexed π) σ) (view : BlockchainView EventId)
    (sent : List Notification) : (p.notifyObservers view sent).pendingData = p.pendingData := by
  simp only [pendingData, notifyObservers, List.map_map]
  refine List.map_congr_left fun entry _ => ?_
  simp only [Function.comp_apply]
  split <;> rfl

theorem Keyed.notifyObservers
    (h : p.Keyed kind) (view : BlockchainView EventId) (sent : List Notification) :
    (p.notifyObservers view sent).Keyed kind := by
  refine ⟨?_, ?_⟩
  · rw [map_key_notifyObservers]
    exact h.keys
  · intro entry hentry
    obtain ⟨old, hold, rfl⟩ := List.mem_map.mp hentry
    have hown := h.own old hold
    simp only
    split <;> exact hown

theorem hands_processBlockConfirmations (h : p.Keyed kind) (order : List EventId)
    (block : RskBlockAndUncles) : Hands kind p (processBlockConfirmations logic order p block) := by
  unfold processBlockConfirmations
  split
  · exact .refl h
  · split
    · exact .refl (h.of_eq rfl)
    · next view sent _ =>
      obtain ⟨hkeyed, calls, hhandled, hperm⟩ :=
        hands_confirmLoop logic (h.notifyObservers view sent) (confirmedKeys _ order)
      rw [pendingData_notifyObservers] at hperm
      exact ⟨hkeyed, calls, hhandled, hperm⟩

theorem hands_processNewBlock (h : p.Keyed kind) (order : List EventId)
    (block : RskBlockAndUncles) : Hands kind p (processNewBlock logic order p block) := by
  simp only [processNewBlock]
  split
  · have hflows : ({ p with flows := (logic.beforeConfirmations p.flows block).1 } :
        Processor (Indexed π) σ).Keyed kind := h.of_eq rfl
    obtain ⟨hkeyed, hcalls⟩ := hands_processBlockConfirmations logic hflows order block
    exact ⟨hkeyed.of_eq rfl, hcalls⟩
  · exact .refl (h.of_eq rfl)

theorem processNewBlock_clears (h : p.Keyed kind) {order : List EventId}
    (horder : ∀ entry ∈ p.eventsConfirming, entry.1 ∈ order) {block : RskBlockAndUncles}
    (hfinished : blockFinished logic p order block = true) :
    ∀ entry ∈ (processNewBlock logic order p block).eventsConfirming,
      entry.2.isConfirmed = false := by
  simp only [blockFinished, Bool.and_eq_true] at hfinished
  obtain ⟨hok, hloop⟩ := hfinished
  simp only [processNewBlock, hok, if_true]
  unfold processBlockConfirmations
  simp only
  split
  · next hempty =>
    intro entry hentry
    rw [List.isEmpty_iff.mp hempty] at hentry
    cases hentry
  · split
    · next heq =>
      rw [heq] at hloop
      cases hloop
    · next view sent heq =>
      rw [heq] at hloop
      have hflows : ({ p with flows := (logic.beforeConfirmations p.flows block).1 } :
          Processor (Indexed π) σ).Keyed kind := h.of_eq rfl
      intro entry hentry
      obtain ⟨hmem, hkeys⟩ :=
        confirmLoop_clears logic (hflows.notifyObservers view sent) hloop entry hentry
      by_contra hconfirmed
      -- its key is in the order, so the loop went through it
      have hlisted : entry.1 ∈ order := by
        obtain ⟨old, hold, rfl⟩ := List.mem_map.mp hmem
        exact horder old hold
      apply hkeys
      refine List.mem_filter.mpr ⟨hlisted, List.any_eq_true.mpr ⟨entry, hmem, ?_⟩⟩
      simpa using hconfirmed

end Processor

/-! ## Runs -/

/-- **Each received log is in one place**: its handler was called, or it is pending, or a removal
log took it out, and that removal log was its own. -/
structure TrackedOnce {π σ : Type} (t : Traced π σ) : Prop where
  received : t.received.Perm
    (t.confirmed ++ (t.processor.pendingData ++ t.cancelled.map (·.1)))
  apart : t.received.Pairwise fun a b => a.place ≠ b.place
  removal : ∀ c ∈ t.cancelled, c.2.removed = true ∧ c.1.place = c.2.place

section Runs

variable {π σ : Type} {kind : ProcessorKind} {required : UInt32}
  {logic : FlowLogic (Indexed π) σ}

theorem trackedLabel_of_isSignatureEvent {event : EventKind}
    (h : isSignatureEvent kind event = true) : trackedLabel kind event = none := by
  cases kind <;> cases event <;> first | rfl | cases h

theorem cancelledBy_of_eq {p p' : Processor (Indexed π) σ}
    (h : p'.eventsConfirming = p.eventsConfirming) (input : ProcessorInput (Indexed π) σ) :
    cancelledBy p p' input = [] := by
  have hnone : (p.eventsConfirming.filter fun entry =>
      entry.1 ∉ p.eventsConfirming.map (·.1)) = [] := by
    refine List.filter_eq_nil_iff.mpr fun entry hentry => ?_
    simpa using ⟨entry.2, hentry⟩
  unfold cancelledBy
  split
  · rw [h, hnone]
    simp
  · rfl

theorem confirmedBy_of_eq {p p' : Processor (Indexed π) σ} (h : p'.handled = p.handled)
    (input : ProcessorInput (Indexed π) σ) : confirmedBy kind p p' input = [] := by
  unfold confirmedBy
  split
  · rfl
  · rw [h, List.drop_length]
    rfl

variable {t : Traced π σ} {input : ProcessorInput (Indexed π) σ} {log : ChainLog π}

theorem startConfirmingEvent_of_not_mem (required : UInt32) (log : ChainLog π)
    {p : Processor (Indexed π) σ} {id : EventId} (hid : id ∉ p.eventsConfirming.map (·.1)) :
    ∃ view, p.startConfirmingEvent id required log = { p with
      blockchainView := view
      eventsConfirming := p.eventsConfirming
        ++ [(id, { data := log, confirmations := some (.new log.blockNumber required) })] } := by
  have hobserver : ∃ view,
      (p.blockchainView.removeObserver id).addObserver id = .ok view := by
    unfold BlockchainView.addObserver
    rw [if_neg (by simp [BlockchainView.removeObserver])]
    exact ⟨_, rfl⟩
  obtain ⟨view, hview⟩ := hobserver
  have hsame : p.eventsConfirming.filter (·.1 ≠ id) = p.eventsConfirming := by
    refine List.filter_eq_self.mpr fun entry hentry => ?_
    have hne : entry.1 ≠ id := by
      rintro rfl
      exact hid (List.mem_map_of_mem hentry)
    simpa using hne
  refine ⟨view, ?_⟩
  simp only [Processor.startConfirmingEvent, hview, hsame]

theorem TrackedOnce.not_pending (h : TrackedOnce t)
    (hfresh : ∀ r ∈ t.received, r.place ≠ log.place) {entry : EventId × _}
    (hentry : entry ∈ t.processor.eventsConfirming) : entry.2.data.place ≠ log.place := by
  apply hfresh
  apply h.received.mem_iff.mpr
  refine List.mem_append_right _ (List.mem_append_left _ ?_)
  exact List.mem_map.mpr ⟨entry, hentry, rfl⟩

/-- The state of a run: the keys belong to their events and each log is in one place. -/
def Tracks (kind : ProcessorKind) (t : Traced π σ) : Prop :=
  t.processor.Keyed kind ∧ TrackedOnce t

/-- One call, by what it receives, hands to the handlers and cancels: what was pending or is received
is handed over, pending or cancelled afterwards. -/
theorem Tracks.move (h : Tracks kind t) {p' : Processor (Indexed π) σ}
    {received confirmed : List (ChainLog π)}
    (hstep : processorStep kind required logic t.processor input = p') (hkeyed : p'.Keyed kind)
    (hreceived : receivedBy kind required logic t.processor input = received)
    (hconfirmed : confirmedBy kind t.processor p' input = confirmed)
    (hmoved : (received ++ t.processor.pendingData).Perm
      (confirmed ++ (p'.pendingData ++ (cancelledBy t.processor p' input).map (·.1))))
    (hfresh : ∀ log ∈ received, ∀ r ∈ t.received, r.place ≠ log.place)
    (hremoval : ∀ c ∈ cancelledBy t.processor p' input,
      c.2.removed = true ∧ c.1.place = c.2.place) :
    Tracks kind (tracedStep kind required logic t input) := by
  subst hstep hreceived hconfirmed
  refine ⟨hkeyed, ?_, ?_, ?_⟩
  · classical
    refine List.perm_iff_count.mpr fun log => ?_
    have hbefore := h.2.received.count_eq log
    have hmoved := hmoved.count_eq log
    simp only [tracedStep, List.count_append, List.map_append] at hbefore hmoved ⊢
    omega
  · refine List.pairwise_append.mpr ⟨h.2.apart, ?_, fun r hr log hlog => hfresh log hlog r hr⟩
    unfold receivedBy
    split
    · split <;> simp
    · exact .nil
  · intro c hc
    exact (List.mem_append.mp hc).elim (h.2.removal c) (hremoval c)

theorem Tracks.idle (h : Tracks kind t)
    (hreceived : receivedBy kind required logic t.processor input = [])
    (hpending : (processorStep kind required logic t.processor input).eventsConfirming
      = t.processor.eventsConfirming)
    (hconfirmed : confirmedBy kind t.processor (processorStep kind required logic t.processor input)
      input = []) : Tracks kind (tracedStep kind required logic t input) := by
  refine h.move rfl (h.1.of_eq hpending) hreceived hconfirmed ?_ (List.forall_mem_nil _) ?_
  · rw [cancelledBy_of_eq hpending, Processor.pendingData, Processor.pendingData, hpending]
    simp
  · rw [cancelledBy_of_eq hpending]
    exact List.forall_mem_nil _

theorem Tracks.newBlock (h : Tracks kind t) (hlive : t.processor.panicked = false)
    (order : List EventId) (block : RskBlockAndUncles) :
    Tracks kind (tracedStep kind required logic t (.newBlock order block)) := by
  have hstep : processorStep kind required logic t.processor (.newBlock order block)
      = t.processor.processNewBlock logic order block := by
    simp only [processorStep, hlive, Bool.false_eq_true, if_false]
  obtain ⟨hkeyed, calls, hhandled, hperm⟩ :=
    Processor.hands_processNewBlock logic h.1 order block
  -- only tracked logs are pending
  have htracked : (calls.map (·.event)).filter (isTracked kind) = calls.map (·.event) := by
    refine List.filter_eq_self.mpr fun log hlog => ?_
    have hpending : log ∈ t.processor.pendingData :=
      hperm.mem_iff.mpr (List.mem_append_left _ hlog)
    obtain ⟨entry, hentry, rfl⟩ := List.mem_map.mp hpending
    exact (h.1.own entry hentry).1
  have hconfirmed : confirmedBy kind t.processor (t.processor.processNewBlock logic order block)
      (.newBlock order block) = calls.map (·.event) := by
    simp only [confirmedBy, hhandled, List.drop_left, htracked]
  refine h.move hstep hkeyed rfl hconfirmed ?_ (List.forall_mem_nil _) (List.forall_mem_nil _)
  simpa [receivedBy, cancelledBy] using hperm

theorem Tracks.handledAtOnce (h : Tracks kind t)
    (hlive : t.processor.panicked = false) (hrequired : required = 0)
    (hfresh : Fresh t (.rskEvent log)) (hsignature : isSignatureEvent kind log.kind = false) :
    Tracks kind (tracedStep kind required logic t (.rskEvent log)) := by
  have hstep : processorStep kind required logic t.processor (.rskEvent log)
      = (t.processor.processConfirmedRskEvent logic log).1 := by
    simp only [processorStep, hlive, Processor.processNewRskEvent, hsignature, hrequired,
      Bool.false_eq_true, if_false, if_true]
  have hpending : (t.processor.processConfirmedRskEvent logic log).1.eventsConfirming
      = t.processor.eventsConfirming := rfl
  have hreceived : receivedBy kind required logic t.processor (.rskEvent log)
      = [log].filter (isTracked kind) := by
    simp [receivedBy, hlive, hrequired, List.filter_singleton]
  have hconfirmed : confirmedBy kind t.processor (t.processor.processConfirmedRskEvent logic log).1
      (.rskEvent log) = [log].filter (isTracked kind) := by
    simp [confirmedBy, Processor.processConfirmedRskEvent]
  refine h.move hstep (h.1.of_eq rfl) hreceived hconfirmed ?_ ?_ ?_
  · rw [cancelledBy_of_eq hpending]
    simp [Processor.pendingData, hpending]
  · intro received hmem
    obtain ⟨hlog, htracked⟩ := List.mem_filter.mp hmem
    rw [List.mem_singleton.mp hlog] at htracked ⊢
    simp only [isTracked, Bool.and_eq_true, Bool.not_eq_true'] at htracked
    exact hfresh htracked.1
  · rw [cancelledBy_of_eq hpending]
    exact List.forall_mem_nil _

theorem Tracks.removal (h : Tracks kind t) {label : String}
    (hlabel : trackedLabel kind log.kind = some label) (hremoved : log.removed = true)
    (hown : OwnKey kind t.processor (.rskEvent log))
    (hstep : processorStep kind required logic t.processor (.rskEvent log)
      = (t.processor.stopConfirmingEvent ⟨label, log.txHash⟩).1) :
    Tracks kind (tracedStep kind required logic t (.rskEvent log)) := by
  have hreceived : receivedBy kind required logic t.processor (.rskEvent log) = [] := by
    simp [receivedBy, isTracked, hremoved]
  rcases Processor.stopConfirmingEvent_takes h.1 ⟨label, log.txHash⟩ with
    ⟨heq, _⟩ | ⟨event, p', heq, hperm, hrest, hkeyed, hhandled⟩
  · rw [heq] at hstep
    refine h.idle hreceived ?_ ?_
    · rw [hstep]
    · exact confirmedBy_of_eq (by rw [hstep]) _
  · rw [heq] at hstep
    have hentry : (⟨label, log.txHash⟩, event) ∈ t.processor.eventsConfirming :=
      hperm.mem_iff.mpr List.mem_cons_self
    -- the entries that are gone: those under the key, that is the one found there
    have hgone : (t.processor.eventsConfirming.filter fun entry =>
        entry.1 ∉ p'.eventsConfirming.map (·.1)).Perm [(⟨label, log.txHash⟩, event)] := by
      have hkeys : (((⟨label, log.txHash⟩ : EventId), event)
          :: p'.eventsConfirming).map (·.1) |>.Nodup := (hperm.map _).nodup_iff.mp h.1.keys
      refine (hperm.filter _).trans ?_
      rw [List.filter_cons_of_pos (by simpa using (List.nodup_cons.mp hkeys).1)]
      rw [List.filter_eq_nil_iff.mpr]
      intro entry hmem
      simpa using ⟨entry.2, hmem⟩
    have hcancelled : (cancelledBy t.processor p' (.rskEvent log)).Perm [(event.data, log)] := by
      simp only [cancelledBy, hremoved, if_true]
      exact hgone.map fun entry => (entry.2.data, log)
    refine h.move hstep hkeyed hreceived (confirmedBy_of_eq hhandled _) ?_
      (List.forall_mem_nil _) ?_
    · refine (hperm.map fun entry => entry.2.data).trans ?_
      exact (List.perm_append_singleton event.data p'.pendingData).symm.trans
        (List.Perm.append_left _ (hcancelled.map Prod.fst).symm)
    · intro c hc
      rw [List.mem_singleton.mp (hcancelled.mem_iff.mp hc)]
      exact ⟨hremoved, hown _ hentry hlabel rfl⟩

/-- An added log becomes pending under a key that no pending event has. -/
theorem Tracks.added (h : Tracks kind t) {label : String}
    (hlabel : trackedLabel kind log.kind = some label) (hadded : log.removed = false)
    (hlive : t.processor.panicked = false) (htakes : logic.takesEvent t.processor.flows log = true)
    (hfresh : Fresh t (.rskEvent log)) (hown : OwnKey kind t.processor (.rskEvent log))
    (hstep : processorStep kind required logic t.processor (.rskEvent log)
      = t.processor.startConfirmingEvent ⟨label, log.txHash⟩ required log) :
    Tracks kind (tracedStep kind required logic t (.rskEvent log)) := by
  have htracked : isTracked kind log = true := by
    simp [isTracked, hadded, hlabel]
  have hreceived : receivedBy kind required logic t.processor (.rskEvent log) = [log] := by
    simp [receivedBy, hlive, htracked, htakes]
  have hid : (⟨label, log.txHash⟩ : EventId) ∉ t.processor.eventsConfirming.map (·.1) := by
    intro hmem
    obtain ⟨entry, hentry, hkey⟩ := List.mem_map.mp hmem
    refine h.2.not_pending (hfresh hadded) hentry (hown entry hentry ?_ ?_)
    · rw [hlabel, show entry.1 = _ from hkey]
    · rw [show entry.1 = _ from hkey]
  obtain ⟨view, hstart⟩ := startConfirmingEvent_of_not_mem required log hid
  rw [hstart] at hstep
  refine h.move hstep ⟨?_, ?_⟩ hreceived (confirmedBy_of_eq (by rfl) _) ?_ ?_ ?_
  · simp only [List.map_append, List.map_cons, List.map_nil]
    exact List.Nodup.append h.1.keys (List.nodup_singleton _) (List.disjoint_singleton.mpr hid)
  · intro entry hentry
    rcases List.mem_append.mp hentry with hentry | hentry
    · exact h.1.own entry hentry
    · rw [List.mem_singleton.mp hentry]
      exact ⟨htracked, hlabel, rfl⟩
  · simpa [cancelledBy, hadded, Processor.pendingData] using (List.perm_append_singleton _ _).symm
  · intro received hmem
    rw [List.mem_singleton.mp hmem]
    exact hfresh hadded
  · simp [cancelledBy, hadded]

/-- What may arrive: logs at places of their own, none while another log has its key. -/
def Arrives (kind : ProcessorKind) (t : Traced π σ) (input : ProcessorInput (Indexed π) σ) : Prop :=
  Fresh t input ∧ OwnKey kind t.processor input

theorem Tracks.step (h : Tracks kind t)
    (harrives : Arrives kind t input) : Tracks kind (tracedStep kind required logic t input) := by
  obtain ⟨hfresh, hown⟩ := harrives
  cases hlive : t.processor.panicked with
  | true =>
    have hstep : processorStep kind required logic t.processor input = t.processor := by
      simp only [processorStep, hlive, if_true]
    refine h.idle ?_ ?_ ?_
    · unfold receivedBy
      split
      · simp [hlive]
      · rfl
    · rw [hstep]
    · exact confirmedBy_of_eq (by rw [hstep]) _
  | false =>
    cases input with
    | newBlock order block => exact h.newBlock hlive order block
    | replay i =>
      refine h.idle rfl ?_ rfl
      simp only [processorStep, hlive, Bool.false_eq_true, if_false, Processor.replayBuffered]
      split <;> rfl
    | other flows =>
      refine h.idle rfl ?_ (confirmedBy_of_eq ?_ _)
      · simp only [processorStep, hlive, Bool.false_eq_true, if_false]
      · simp only [processorStep, hlive, Bool.false_eq_true, if_false]
    | rskEvent log =>
      -- a log that is neither tracked nor handled at once leaves the gate as it is
      have hskip : trackedLabel kind log.kind = none ∨
          (required ≠ 0 ∧ logic.takesEvent t.processor.flows log = false) →
          receivedBy kind required logic t.processor (.rskEvent log) = [] := by
        rintro (hnone | ⟨hrequired, htakes⟩)
        · simp [receivedBy, isTracked, hnone]
        · simp [receivedBy, hrequired, htakes]
      have hstep : processorStep kind required logic t.processor (.rskEvent log)
          = t.processor.processNewRskEvent kind required logic log := by
        simp only [processorStep, hlive, Bool.false_eq_true, if_false]
      unfold Processor.processNewRskEvent at hstep
      split at hstep
      · next hsignature =>
        refine h.idle (hskip (.inl (trackedLabel_of_isSignatureEvent hsignature))) ?_
          (confirmedBy_of_eq ?_ _)
        · rw [hstep]
        · rw [hstep]
      · next hsignature =>
        split at hstep
        · next hrequired =>
          exact h.handledAtOnce hlive hrequired hfresh (by simpa using hsignature)
        · next hrequired =>
          split at hstep
          · next hnone =>
            refine h.idle (hskip (.inl hnone)) ?_ (confirmedBy_of_eq ?_ _)
            · rw [hstep]
            · rw [hstep]
          · next label hlabel =>
            simp only at hstep
            split at hstep
            · next htakes =>
              refine h.idle (hskip (.inr ⟨hrequired, by simpa using htakes⟩)) ?_
                (confirmedBy_of_eq ?_ _)
              · rw [hstep]
              · rw [hstep]
            · next htakes =>
              have htakes : logic.takesEvent t.processor.flows log = true := by simpa using htakes
              split at hstep
              · next hremoved => exact h.removal hlabel hremoved hown hstep
              · next hadded =>
                exact h.added hlabel (by simpa using hadded) hlive htakes hfresh hown hstep

theorem tracks_new (flows : σ) : Tracks kind (Traced.new flows : Traced π σ) := by
  refine ⟨⟨List.nodup_nil, ?_⟩, List.Perm.refl _, List.Pairwise.nil, ?_⟩
  · intro entry hentry
    cases hentry
  · intro c hc
    cases hc

end Runs

/-- **Distinct logs are tracked distinctly** in every run in which no log arrives while another log
of its kind from the same transaction is pending. Each received log was handed to its handler once,
or is pending once, or was taken out by its own removal log; and a block that is processed to its
end leaves no confirmed log pending. -/
theorem logs_tracked_distinctly {π σ : Type} (kind : ProcessorKind) (required : UInt32)
    (logic : FlowLogic (Indexed π) σ) (flows : σ) (inputs : List (ProcessorInput (Indexed π) σ))
    (harrive : Machine.Allowed (tracedStep kind required logic) (Arrives kind) (.new flows) inputs) :
    let t := Machine.run (tracedStep kind required logic) (.new flows) inputs
    TrackedOnce t
      ∧ ∀ order block, (∀ entry ∈ t.processor.eventsConfirming, entry.1 ∈ order) →
        blockFinished logic t.processor order block = true →
          ∀ entry ∈ (t.processor.processNewBlock logic order block).eventsConfirming,
            entry.2.isConfirmed = false := by
  have htracks := Machine.run_invariant (Tracks kind) (fun _ _ h harrives => h.step harrives)
    (tracks_new flows) harrive
  refine ⟨htracks.2, ?_⟩
  intro order block horder hfinished
  exact Processor.processNewBlock_clears logic htracks.1 horder hfinished

/-- Flows that take every log and handle every event. -/
def takingFlows : FlowLogic (Indexed Unit) Unit where
  processConfirmedRskEvent := fun _ _ => ⟨(), false, true⟩
  takesEvent := fun _ _ => true
  untracked := fun _ _ => ()
  beforeConfirmations := fun _ _ => ((), true)
  afterConfirmations := id

/-- A log of transaction 7 in block `0xa10` at height 10. -/
def logAt (kind : EventKind) (logIndex : Nat) (removed : Bool) : ChainLog Unit :=
  { kind := kind, inner := ⟨(), logIndex⟩, blockNumber := 10, blockHash := 0xa10
    removed := removed, txHash := 7 }

def pegoutKeys : List EventId := [⟨"pegout-requested", 7⟩, ⟨"pegout-registered", 7⟩]

/-- Two logs of different kinds from one transaction, one of which is removed again. -/
def twoKindsRun : List (ProcessorInput (Indexed Unit) Unit) :=
  [.rskEvent (logAt .pegoutRequested 0 false), .rskEvent (logAt .pegoutRegistered 1 false),
    .newBlock pegoutKeys (blockAt 10 0xa10 0x9),
    .rskEvent (logAt .pegoutRegistered 1 true),
    .newBlock pegoutKeys (blockAt 11 0xa11 0xa10)]

theorem logs_tracked_distinctly_twoKindsRun :
    let t := Machine.run (tracedStep .pegout 2 takingFlows) (.new ()) twoKindsRun
    t.confirmed.map (·.place) = [(7, 0)] ∧ t.cancelled.map (·.1.place) = [(7, 1)]
      ∧ TrackedOnce t := by
  refine ⟨by decide +kernel, by decide +kernel,
    (logs_tracked_distinctly .pegout 2 takingFlows () twoKindsRun ?_).1⟩
  refine ⟨⟨?_, ?_⟩, ⟨?_, ?_⟩, ⟨trivial, trivial⟩, ⟨?_, ?_⟩, ⟨trivial, trivial⟩, trivial⟩
  · unfold Fresh; decide +kernel
  · unfold OwnKey; decide +kernel
  · unfold Fresh; decide +kernel
  · unfold OwnKey; decide +kernel
  · unfold Fresh; decide +kernel
  · unfold OwnKey; decide +kernel

/-- Two requests of one transaction share their key: the second takes the place of the first, whose
handler is never called, and the removal log of the first takes out the second. -/
theorem second_log_replaces_first :
    let first := logAt .pegoutRequested 0 false
    let second := logAt .pegoutRequested 1 false
    let t := Machine.run (tracedStep .pegout 2 takingFlows) (.new ())
      [.rskEvent first, .rskEvent second,
        .newBlock pegoutKeys (blockAt 10 0xa10 0x9), .newBlock pegoutKeys (blockAt 11 0xa11 0xa10)]
    let u := Machine.run (tracedStep .pegout 2 takingFlows) (.new ())
      [.rskEvent first, .rskEvent second, .rskEvent { first with removed := true }]
    first.place ≠ second.place
      ∧ t.received.map (·.place) = [first.place, second.place]
      ∧ t.confirmed.map (·.place) = [second.place]
      ∧ t.processor.eventsConfirming.length = 0 ∧ t.cancelled.length = 0
      ∧ u.cancelled.map (fun c => (c.1.place, c.2.place)) = [(second.place, first.place)] := by
  decide +kernel

end UnionBridge.Coordinator
