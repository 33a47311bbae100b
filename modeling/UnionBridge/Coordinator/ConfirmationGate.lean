import UnionBridge.Coordinator.BlockchainTracker
import UnionBridge.Lib.Machine

/-!
# The confirmation gate of the flow processors

The peg-in, peg-out and advance-funds processors (`coordinator/src/flows`) share one gate in front
of their flows: a log of the bridge contracts waits in `eventsConfirming` until enough blocks were
fed on top of it, a removal log takes it out again, and only then the handler of the event runs. The
peg-in handler may keep an event whose flow is not ready yet and run again on it later. The flows
themselves are a parameter (`FlowLogic`).

Logs and blocks come from two indexers, so a run is any interleaving of them. `handled` records each
call of a handler with the view at that time.
-/

namespace UnionBridge.Coordinator

open Chain Outcome

inductive EventKind where
  | peginRequested | peginAccepted | pegoutRegistered | pegoutRequested | operatorTakeTriggered
  | advanceFundsRegistered | reimbursementKickoffRegistered | removeRegisteredPeginRequest
  | allNoncesReady | allSignaturesReady | allOperatorTakeTxidsAdded | newCommitteePending
  | newCommitteeReady | allCommunicationDataReady | memberInfoDeposited | ignoredEvent
  | unknownEvent
deriving DecidableEq

/-- A decoded log with its place in the chain; `inner` is the payload of the contract event. -/
structure RskPegManagerEvent (π : Type) where
  kind : EventKind
  inner : π
  blockNumber : Nat
  blockHash : BlockHash
  removed : Bool
  txHash : U256

inductive ProcessorKind where
  | pegin | pegout | advanceFunds
deriving DecidableEq

/-- The logs a processor confirms, with the label under which it keeps them. -/
def trackedLabel : ProcessorKind → EventKind → Option String
  | .pegin, .peginRequested => some "pegin-requested"
  | .pegin, .peginAccepted => some "pegin-accepted"
  | .pegin, .allOperatorTakeTxidsAdded => some "all-operator-take-tx-hashes-added"
  | .pegout, .pegoutRequested => some "pegout-requested"
  | .pegout, .pegoutRegistered => some "pegout-registered"
  | .advanceFunds, .pegoutRequested => some "advance-funds-pegout-requested"
  | .advanceFunds, .operatorTakeTriggered => some "operator-take-triggered"
  | .advanceFunds, .advanceFundsRegistered => some "advance-funds-registered"
  | .advanceFunds, .reimbursementKickoffRegistered => some "reimbursement-kickoff-registered"
  | .advanceFunds, .pegoutRegistered => some "advance-funds-pegout-registered"
  | _, _ => none

/-- Logs that the peg-in and peg-out processors hand to their signature flows unconfirmed. -/
def isSignatureEvent : ProcessorKind → EventKind → Bool
  | .advanceFunds, _ => false
  | _, .allNoncesReady => true
  | _, .allSignaturesReady => true
  | _, _ => false

/-- The key `"{label}-{tx_hash}"` of a pending event, as the pair it is made of. -/
structure EventId where
  label : String
  txHash : U256
deriving DecidableEq

/-- What a handler leaves: the flows, whether it kept the event for later, and whether it returned
`Ok`. -/
structure HandlerResult (σ : Type) where
  flows : σ
  buffered : Bool
  ok : Bool

structure FlowLogic (π σ : Type) where
  /-- `process_confirmed_rsk_event`. -/
  processConfirmedRskEvent : σ → RskPegManagerEvent π → HandlerResult σ
  /-- A tracked log may still be dropped: the advance-funds processor looks for its flow first. -/
  takesEvent : σ → RskPegManagerEvent π → Bool
  /-- The effect of a log that is not tracked. -/
  untracked : σ → RskPegManagerEvent π → σ
  /-- The work of `process_new_block` before the confirmations, and whether it returned `Ok`. -/
  beforeConfirmations : σ → RskBlockAndUncles → σ × Bool
  /-- The work after them. -/
  afterConfirmations : σ → σ

structure ConfirmableEventWithData (π : Type) where
  data : RskPegManagerEvent π
  confirmations : Option BlockConfirmations

namespace ConfirmableEventWithData

variable {π : Type}

def isConfirmed (e : ConfirmableEventWithData π) : Bool :=
  match e.confirmations with
  | none => false
  | some c => c.isConfirmed

def notify (e : ConfirmableEventWithData π) (sent : List Notification) :
    ConfirmableEventWithData π :=
  { e with confirmations := e.confirmations.map fun c => sent.foldl BlockConfirmations.notify c }

end ConfirmableEventWithData

/-- One call of a handler. -/
structure Handled (π : Type) where
  event : RskPegManagerEvent π
  view : BlockchainView EventId

structure Processor (π σ : Type) where
  blockchainView : BlockchainView EventId
  eventsConfirming : List (EventId × ConfirmableEventWithData π)
  buffered : List (RskPegManagerEvent π)
  flows : σ
  handled : List (Handled π)
  panicked : Bool

namespace Processor

variable {π σ : Type}

def new (flows : σ) : Processor π σ :=
  { blockchainView := .new, eventsConfirming := [], buffered := [], flows := flows, handled := []
    panicked := false }

variable (logic : FlowLogic π σ) (p : Processor π σ)

/-- The view is cleared with the last pending event. -/
def stopConfirmingEvent (id : EventId) : Processor π σ × Option (ConfirmableEventWithData π) :=
  match p.eventsConfirming.find? (·.1 = id) with
  | none => (p, none)
  | some (_, event) =>
    let eventsConfirming := p.eventsConfirming.filter (·.1 ≠ id)
    let view := p.blockchainView.removeObserver id
    let view := if eventsConfirming.isEmpty then view.clear else view
    ({ p with eventsConfirming := eventsConfirming, blockchainView := view }, some event)

/-- The new cell is the only observer under its id. -/
def startConfirmingEvent (id : EventId) (requiredConfirmations : UInt32)
    (event : RskPegManagerEvent π) : Processor π σ :=
  match (p.blockchainView.removeObserver id).addObserver id with
  | .error _ => { p with panicked := true }
  | .ok view =>
    let pending : ConfirmableEventWithData π :=
      { data := event
        confirmations := some (.new event.blockNumber requiredConfirmations) }
    { p with
      blockchainView := view
      eventsConfirming := p.eventsConfirming.filter (·.1 ≠ id) ++ [(id, pending)] }

def processConfirmedRskEvent (event : RskPegManagerEvent π) : Processor π σ × Bool :=
  let result := logic.processConfirmedRskEvent p.flows event
  ({ p with
    flows := result.flows
    buffered := if result.buffered then event :: p.buffered else p.buffered
    handled := p.handled ++ [⟨event, p.blockchainView⟩] }, result.ok)

/-- The loop over the confirmed keys; an error of a handler ends it. -/
def confirmLoop (logic : FlowLogic π σ) : Processor π σ → List EventId → Processor π σ
  | p, [] => p
  | p, key :: keys =>
    match p.stopConfirmingEvent key with
    | (p, none) => confirmLoop logic p keys
    | (p, some event) =>
      match p.processConfirmedRskEvent logic event.data with
      | (p, true) => confirmLoop logic p keys
      | (p, false) => p

/-- The messages of the view reach the cells of its observers. -/
def notifyObservers (view : BlockchainView EventId) (sent : List Notification) : Processor π σ :=
  { p with
    blockchainView := view
    eventsConfirming := p.eventsConfirming.map fun (id, event) =>
      (id, if id ∈ view.observers then event.notify sent else event) }

/-- The keys of the confirmed events, in the order in which the hash map yields its keys. -/
def confirmedKeys (order : List EventId) : List EventId :=
  order.filter fun key => p.eventsConfirming.any fun (id, event) => id = key && event.isConfirmed

/-- `order` lists the keys in the order in which the hash map yields them. -/
def processBlockConfirmations (order : List EventId) (p : Processor π σ)
    (block : RskBlockAndUncles) : Processor π σ :=
  if p.eventsConfirming.isEmpty then
    p
  else
    match p.blockchainView.update block with
    | .error _ => { p with panicked := true }
    | .ok (view, sent) =>
      let p := p.notifyObservers view sent
      confirmLoop logic p (p.confirmedKeys order)

def processNewBlock (order : List EventId) (p : Processor π σ)
    (block : RskBlockAndUncles) : Processor π σ :=
  let (flows, ok) := logic.beforeConfirmations p.flows block
  let p := { p with flows := flows }
  if ok then
    let p := processBlockConfirmations logic order p block
    { p with flows := logic.afterConfirmations p.flows }
  else
    p

def processNewRskEvent (kind : ProcessorKind) (requiredConfirmations : UInt32)
    (logic : FlowLogic π σ) (p : Processor π σ) (event : RskPegManagerEvent π) : Processor π σ :=
  if isSignatureEvent kind event.kind then
    { p with flows := logic.untracked p.flows event }
  else if requiredConfirmations = 0 then
    (p.processConfirmedRskEvent logic event).1
  else
    match trackedLabel kind event.kind with
    | none => { p with flows := logic.untracked p.flows event }
    | some label =>
      let id : EventId := { label := label, txHash := event.txHash }
      if ¬ logic.takesEvent p.flows event then
        p
      else if event.removed then
        (p.stopConfirmingEvent id).1
      else
        p.startConfirmingEvent id requiredConfirmations event

/-- Run the handler on a kept event again, which takes it out of the buffer first. -/
def replayBuffered (i : Nat) : Processor π σ :=
  match p.buffered[i]? with
  | none => p
  | some event =>
    ({ p with buffered := p.buffered.eraseIdx i }.processConfirmedRskEvent logic event).1

end Processor

/-- What reaches a processor. `other` stands for everything that touches the flows only. -/
inductive ProcessorInput (π σ : Type) where
  | rskEvent (event : RskPegManagerEvent π)
  | newBlock (order : List EventId) (block : RskBlockAndUncles)
  | replay (i : Nat)
  | other (flows : σ)

/-- One call into a processor. A panicked processor takes no more calls. -/
def processorStep {π σ : Type} (kind : ProcessorKind) (requiredConfirmations : UInt32)
    (logic : FlowLogic π σ) (p : Processor π σ) (input : ProcessorInput π σ) : Processor π σ :=
  if p.panicked then
    p
  else
    match input with
    | .rskEvent event => p.processNewRskEvent kind requiredConfirmations logic event
    | .newBlock order block => p.processNewBlock logic order block
    | .replay i => p.replayBuffered logic i
    | .other flows => { p with flows := flows }

/-! ## Replaced events -/

/-- The view holds another block at the height of the event. -/
def Replaced {ι π : Type} (view : BlockchainView ι) (event : RskPegManagerEvent π) : Prop :=
  ∃ b ∈ view.blocks.values, b.number = event.blockNumber ∧ b.hash ≠ event.blockHash

instance {ι π : Type} (view : BlockchainView ι) (event : RskPegManagerEvent π) :
    Decidable (Replaced view event) :=
  inferInstanceAs (Decidable (∃ b ∈ view.blocks.values, _))

/-- The block is another one at the height of the event. -/
def ReplacedBy {π : Type} (block : RskBlockAndUncles) (event : RskPegManagerEvent π) : Prop :=
  block.number = event.blockNumber ∧ block.hash ≠ event.blockHash

instance {π : Type} (block : RskBlockAndUncles) (event : RskPegManagerEvent π) :
    Decidable (ReplacedBy block event) :=
  inferInstanceAs (Decidable (_ ∧ _))

theorem Replaced.mono {ι π : Type} {view view' : BlockchainView ι} {event : RskPegManagerEvent π}
    (hsub : ∀ b ∈ view'.blocks.values, b ∈ view.blocks.values) (h : Replaced view' event) :
    Replaced view event := by
  obtain ⟨b, hb, hnumber, hhash⟩ := h
  exact ⟨b, hsub b hb, hnumber, hhash⟩

namespace Processor

variable {π σ : Type}

/-- The events that a handler may still be called with. -/
def waiting (p : Processor π σ) : List (RskPegManagerEvent π) :=
  p.eventsConfirming.map (fun entry => entry.2.data) ++ p.buffered

variable {p : Processor π σ} {event : RskPegManagerEvent π}

theorem mem_waiting : event ∈ p.waiting
    ↔ (∃ entry ∈ p.eventsConfirming, entry.2.data = event) ∨ event ∈ p.buffered := by
  rw [waiting, List.mem_append, List.mem_map]

/-- No waiting event is replaced, and none was when its handler was called. -/
structure Sound (p : Processor π σ) : Prop where
  waiting : ∀ event ∈ p.waiting, ¬ Replaced p.blockchainView event
  handled : ∀ h ∈ p.handled, ¬ Replaced h.view h.event

theorem sound_new (flows : σ) : (new flows : Processor π σ).Sound where
  waiting := by
    intro event hmem
    cases hmem
  handled := by
    intro h hmem
    cases hmem

theorem Sound.shrink {p p' : Processor π σ} (h : p.Sound)
    (hwaiting : ∀ event ∈ p'.waiting, event ∈ p.waiting)
    (hview : ∀ b ∈ p'.blockchainView.blocks.values, b ∈ p.blockchainView.blocks.values)
    (hhandled : p'.handled = p.handled) : p'.Sound where
  waiting := fun event hw hr => h.waiting event (hwaiting event hw) (hr.mono hview)
  handled := by rw [hhandled]; exact h.handled

/-- What stopping an event does: it leaves with its data, the view at most loses blocks. -/
theorem stopConfirmingEvent_cases (p : Processor π σ) (id : EventId) :
    p.stopConfirmingEvent id = (p, none)
      ∨ ∃ event p', p.stopConfirmingEvent id = (p', some event)
        ∧ event.data ∈ p.waiting ∧ (∀ e ∈ p'.waiting, e ∈ p.waiting)
        ∧ (∀ b ∈ p'.blockchainView.blocks.values, b ∈ p.blockchainView.blocks.values)
        ∧ p'.handled = p.handled := by
  unfold stopConfirmingEvent
  cases hfind : p.eventsConfirming.find? (·.1 = id) with
  | none => exact .inl rfl
  | some entry =>
    refine .inr ⟨entry.2, _, rfl,
      mem_waiting.mpr (.inl ⟨entry, List.mem_of_find?_eq_some hfind, rfl⟩), ?_, ?_, rfl⟩
    · intro e he
      rcases mem_waiting.mp he with ⟨entry', hmem, rfl⟩ | hmem
      · exact mem_waiting.mpr (.inl ⟨entry', (List.mem_filter.mp hmem).1, rfl⟩)
      · exact mem_waiting.mpr (.inr hmem)
    · intro b hb
      simp only at hb
      split at hb
      · cases hb
      · exact hb

theorem Sound.stopConfirmingEvent (h : p.Sound) (id : EventId) :
    (p.stopConfirmingEvent id).1.Sound := by
  rcases p.stopConfirmingEvent_cases id with heq | ⟨event, p', heq, _, hwaiting, hview, hhandled⟩
  · rw [heq]
    exact h
  · rw [heq]
    exact h.shrink hwaiting hview hhandled

theorem Sound.processConfirmedRskEvent (h : p.Sound) (logic : FlowLogic π σ)
    (hevent : ¬ Replaced p.blockchainView event) :
    (p.processConfirmedRskEvent logic event).1.Sound where
  waiting := by
    intro e he
    rcases mem_waiting.mp he with hpending | hbuffered
    · exact h.waiting e (mem_waiting.mpr (.inl hpending))
    · simp only [Processor.processConfirmedRskEvent] at hbuffered
      split at hbuffered
      · rcases List.mem_cons.mp hbuffered with rfl | hmem
        · exact hevent
        · exact h.waiting e (mem_waiting.mpr (.inr hmem))
      · exact h.waiting e (mem_waiting.mpr (.inr hbuffered))
  handled := by
    intro entry hmem
    simp only [Processor.processConfirmedRskEvent, List.mem_append, List.mem_singleton] at hmem
    rcases hmem with hmem | rfl
    · exact h.handled entry hmem
    · exact hevent

theorem Sound.confirmLoop (h : p.Sound) (logic : FlowLogic π σ)
    (keys : List EventId) : (confirmLoop logic p keys).Sound := by
  -- along the loop the view only shrinks, so an event that waited stays unreplaced
  induction keys generalizing p with
  | nil => exact h
  | cons key keys ih =>
    unfold Processor.confirmLoop
    rcases p.stopConfirmingEvent_cases key with heq | ⟨event, p', heq, hwaits, hwaiting, hview, hh⟩
    · rw [heq]
      exact ih h
    · rw [heq]
      have hp' : p'.Sound := h.shrink hwaiting hview hh
      have hfree : ¬ Replaced p'.blockchainView event.data :=
        fun hr => h.waiting event.data hwaits (hr.mono hview)
      have hnext := hp'.processConfirmedRskEvent logic hfree
      simp only
      split
      · next p'' hp'' =>
        rw [hp''] at hnext
        exact ih hnext
      · next p'' hp'' =>
        rw [hp''] at hnext
        exact hnext

theorem not_replaced_of_update {view view' : BlockchainView EventId} {block : RskBlockAndUncles}
    {sent : List Notification} (hupdate : view.update block = .ok (view', sent))
    (hview : ¬ Replaced view event)
    (hblock : ¬ ReplacedBy block event) : ¬ Replaced view' event := by
  rintro ⟨b, hb, hnumber, hhash⟩
  rcases BlockchainView.mem_of_update hupdate hb with rfl | hold
  · exact hblock ⟨hnumber, hhash⟩
  · exact hview ⟨b, hold, hnumber, hhash⟩

theorem waiting_of_notifyObservers {view : BlockchainView EventId} {sent : List Notification}
    (h : event ∈ (p.notifyObservers view sent).waiting) : event ∈ p.waiting := by
  rcases mem_waiting.mp h with ⟨entry, hmem, rfl⟩ | hmem
  · obtain ⟨old, hold, rfl⟩ := List.mem_map.mp hmem
    refine mem_waiting.mpr (.inl ⟨old, hold, ?_⟩)
    simp only
    split <;> rfl
  · exact mem_waiting.mpr (.inr hmem)

theorem Sound.processBlockConfirmations (h : p.Sound) (logic : FlowLogic π σ)
    (order : List EventId) {block : RskBlockAndUncles}
    (hblock : ∀ event ∈ p.waiting, ¬ ReplacedBy block event) :
    (processBlockConfirmations logic order p block).Sound := by
  unfold Processor.processBlockConfirmations
  split
  · exact h
  · split
    · exact ⟨h.waiting, h.handled⟩
    · next view sent hupdate =>
      have hnotified : (p.notifyObservers view sent).Sound := by
        refine ⟨fun event hw => ?_, h.handled⟩
        have hw := waiting_of_notifyObservers hw
        exact not_replaced_of_update hupdate (h.waiting event hw) (hblock event hw)
      exact hnotified.confirmLoop logic _

theorem Sound.startConfirmingEvent (h : p.Sound) (id : EventId) (required : UInt32)
    (hevent : ¬ Replaced p.blockchainView event) :
    (p.startConfirmingEvent id required event).Sound := by
  unfold Processor.startConfirmingEvent
  split
  · exact ⟨h.waiting, h.handled⟩
  · next view hview =>
    have hblocks : view.blocks = p.blockchainView.blocks := by
      unfold BlockchainView.addObserver at hview
      split at hview
      · cases hview
      · cases hview
        rfl
    have hsame : ∀ e : RskPegManagerEvent π, Replaced view e → Replaced p.blockchainView e :=
      fun e he => he.mono fun b hb => by rw [hblocks] at hb; exact hb
    refine ⟨?_, h.handled⟩
    intro e he hr
    rcases mem_waiting.mp he with ⟨entry, hmem, rfl⟩ | hmem
    · rcases List.mem_append.mp hmem with hmem | hmem
      · exact h.waiting _ (mem_waiting.mpr (.inl ⟨entry, (List.mem_filter.mp hmem).1, rfl⟩))
          (hsame _ hr)
      · rw [List.mem_singleton] at hmem
        rw [hmem] at hr
        exact hevent (hsame _ hr)
    · exact h.waiting e (mem_waiting.mpr (.inr hmem)) (hsame e hr)

/-- The logs and blocks come in the right order: no block replaces an event that still waits, and
no log is added when the view has replaced it already. -/
def InOrder (p : Processor π σ) : ProcessorInput π σ → Prop
  | .rskEvent event => event.removed = false → ¬ Replaced p.blockchainView event
  | .newBlock _ block => ∀ event ∈ p.waiting, ¬ ReplacedBy block event
  | .replay _ => True
  | .other _ => True

instance (p : Processor π σ) (input : ProcessorInput π σ) : Decidable (p.InOrder input) :=
  match input with
  | .rskEvent event => inferInstanceAs (Decidable (event.removed = false → _))
  | .newBlock _ block => inferInstanceAs (Decidable (∀ event ∈ p.waiting, ¬ ReplacedBy block event))
  | .replay _ => inferInstanceAs (Decidable True)
  | .other _ => inferInstanceAs (Decidable True)

theorem Sound.processNewRskEvent (h : p.Sound) {kind : ProcessorKind}
    {required : UInt32} (hrequired : required ≠ 0) (logic : FlowLogic π σ)
    (hin : p.InOrder (.rskEvent event)) :
    (p.processNewRskEvent kind required logic event).Sound := by
  unfold Processor.processNewRskEvent
  rw [if_neg hrequired]
  split
  · exact ⟨h.waiting, h.handled⟩
  · split
    · exact ⟨h.waiting, h.handled⟩
    · simp only
      split
      · exact h
      · split
        · exact h.stopConfirmingEvent _
        · next hremoved => exact h.startConfirmingEvent _ _ (hin (by simpa using hremoved))

theorem Sound.replayBuffered (h : p.Sound) (logic : FlowLogic π σ) (i : Nat) :
    (p.replayBuffered logic i).Sound := by
  unfold Processor.replayBuffered
  split
  · exact h
  · next event hevent =>
    have hrest : ({ p with buffered := p.buffered.eraseIdx i } : Processor π σ).Sound := by
      refine h.shrink ?_ (fun b hb => hb) rfl
      intro e he
      rcases mem_waiting.mp he with hpending | hmem
      · exact mem_waiting.mpr (.inl hpending)
      · exact mem_waiting.mpr (.inr (List.mem_of_mem_eraseIdx hmem))
    exact hrest.processConfirmedRskEvent logic
      (h.waiting event (mem_waiting.mpr (.inr (List.mem_of_getElem? hevent))))

theorem Sound.step (h : p.Sound) {kind : ProcessorKind} {required : UInt32}
    (hrequired : required ≠ 0) (logic : FlowLogic π σ) {input : ProcessorInput π σ}
    (hin : p.InOrder input) : (processorStep kind required logic p input).Sound := by
  unfold processorStep
  split
  · exact h
  cases input with
  | rskEvent event => exact h.processNewRskEvent hrequired logic hin
  | newBlock order block =>
    simp only [Processor.processNewBlock]
    split
    · have hflows : ({ p with flows := (logic.beforeConfirmations p.flows block).1 } :
          Processor π σ).Sound := ⟨h.waiting, h.handled⟩
      have hblock : ∀ event ∈ p.waiting, ¬ ReplacedBy block event := hin
      have hdone := hflows.processBlockConfirmations logic order hblock
      exact ⟨hdone.waiting, hdone.handled⟩
    · exact ⟨h.waiting, h.handled⟩
  | replay i => exact h.replayBuffered logic i
  | other flows => exact ⟨h.waiting, h.handled⟩

end Processor

/-- Flows that take every log and handle every event. -/
def plainFlows : FlowLogic Unit Unit where
  processConfirmedRskEvent := fun _ _ => ⟨(), false, true⟩
  takesEvent := fun _ _ => true
  untracked := fun _ _ => ()
  beforeConfirmations := fun _ _ => ((), true)
  afterConfirmations := id

/-- A peg-in request in block `0xa10` at height 10, an acceptance in block `0xb11` above `0xb10`. -/
def requestLog : RskPegManagerEvent Unit :=
  { kind := .peginRequested, inner := (), blockNumber := 10, blockHash := 0xa10, removed := false
    txHash := 1 }

def acceptLog : RskPegManagerEvent Unit :=
  { kind := .peginAccepted, inner := (), blockNumber := 11, blockHash := 0xb11, removed := false
    txHash := 2 }

def blockAt (number : UInt64) (hash parentHash : BlockHash) : RskBlockAndUncles :=
  ⟨.plain number hash parentHash 0, []⟩

def keyOrder : List EventId := [⟨"pegin-requested", 1⟩, ⟨"pegin-accepted", 2⟩]

/-- The removal log of the request comes before the block that replaces its block; the acceptance
is confirmed two blocks later. -/
def orderedRun : List (ProcessorInput Unit Unit) :=
  [.rskEvent requestLog, .rskEvent acceptLog,
    .newBlock keyOrder (blockAt 10 0xa10 0x9),
    .rskEvent { requestLog with removed := true },
    .newBlock keyOrder (blockAt 10 0xb10 0x9),
    .newBlock keyOrder (blockAt 11 0xb11 0xb10),
    .newBlock keyOrder (blockAt 12 0xb12 0xb11)]

end UnionBridge.Coordinator
