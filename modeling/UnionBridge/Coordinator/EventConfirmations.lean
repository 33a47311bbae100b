import UnionBridge.Contracts.Gateway
import UnionBridge.Coordinator.ConfirmationGate
import UnionBridge.Lib.Table

/-!
# Processors and the events they confirm

The three flow processors keep their flows, tables and schedulers (their core) next to the events
that wait for confirmations (`events_confirming`) and the view that counts them. The functions for
the waiting events are the same in the three of them but for the handler they call, so they stand
here once with the handler as an argument.

A call of a processor runs in an environment of its own (`CallEnv`): the answers of the outside,
the committees of the node, and the order in which each hash table is iterated.
-/

namespace UnionBridge.Coordinator

open Chain Contracts Bitvmx Effect

/-! ## The environment of a call -/

/-- The tables over which the processors iterate. -/
inductive TableName where
  | flows | signatureFlows | eventsConfirming | txStatus | requestRetries | acceptRetries
  | pendingTimeouts | timeouts | registerRetries | registrationRetries
deriving DecidableEq

@[reducible] def TableName.Key : TableName → Type
  | signatureFlows => Uuid
  | eventsConfirming => EventId
  | requestRetries => String
  | _ => FlowId

structure CallEnv extends Env where
  /-- `my_committees().im_member`. -/
  imMember : CommitteeId → Bool
  /-- The order of an iteration may change with every call to the outside. -/
  rank : Contracts.Log → (table : TableName) → table.Key → Nat

/-- One environment, with the keys in the order of the tables. -/
def CallEnv.plain (env : Env) : CallEnv :=
  { env with imMember := fun _ => true, rank := fun _ _ _ => 0 }

/-- The requests that the flow processors tell apart. -/
inductive UserRequests where
  | failFlow (kind : FlowKind) (flowId : FlowId)
  | other
deriving DecidableEq

/-- A failure of the chain view. -/
def orFailure {σ α : Type} (result : Outcome α) : Program σ α :=
  match result with
  | .ok a => pure a
  | .error (.err message) => throw (.msg message)
  | .error (.panic message) => throw (.panic message)

/-! ## Waiting events -/

structure PendingEvent where
  data : RskPegManagerEvents
  confirmations : BlockConfirmations

structure Confirming where
  blockchainView : BlockchainView EventId
  eventsConfirming : Table EventId PendingEvent

namespace Confirming

def new : Confirming := ⟨.new, ∅⟩

variable (c : Confirming) (id : EventId)

/-- The new cell is the only observer under its id. -/
def startConfirming (blockNumber : Nat)
    (requiredConfirmations : UInt32) (event : RskPegManagerEvents) : Outcome Confirming := do
  let view ← (c.blockchainView.removeObserver id).addObserver id
  let pending : PendingEvent := ⟨event, .new blockNumber requiredConfirmations⟩
  pure ⟨view, c.eventsConfirming.insert id pending⟩

/-- The view is cleared with the last waiting event. -/
def stopConfirmingEvent : Option PendingEvent × Confirming :=
  match c.eventsConfirming.lookup id with
  | none => (none, c)
  | some event =>
    let events : Table EventId PendingEvent := c.eventsConfirming.erase id
    let view := c.blockchainView.removeObserver id
    (some event, ⟨if events.isEmpty then view.clear else view, events⟩)

/-- The messages of the view reach the cells of its observers. -/
def notifyObservers (view : BlockchainView EventId) (sent : List Notification) : Confirming where
  blockchainView := view
  eventsConfirming :=
    { entries := c.eventsConfirming.entries.map fun e =>
        ⟨e.1, if e.1 ∈ view.observers then
          { e.2 with confirmations := sent.foldl BlockConfirmations.notify e.2.confirmations }
        else e.2⟩
      nodupKeys := by
        rw [List.NodupKeys, List.keys, List.map_map]
        exact c.eventsConfirming.nodupKeys }

def update (block : RskBlockAndUncles) : Outcome Confirming := do
  let (view, sent) ← c.blockchainView.update block
  pure (c.notifyObservers view sent)

/-- `restore_confirmable_events`, after `snapshot_confirmable_events`: every count starts again, in
an empty view. -/
def restore : Confirming where
  blockchainView := { blocks := .empty, observers := c.eventsConfirming.keys }
  eventsConfirming := c.eventsConfirming.mapValues fun e =>
    { e with confirmations := .new e.confirmations.init e.confirmations.required }

def confirmedKeys (rank : EventId → Nat) : List EventId :=
  ((c.eventsConfirming.inOrder rank).filter fun entry => entry.2.confirmations.isConfirmed).map
    (·.1)

end Confirming

/-- A processor: its core, the waiting events, and what it stored of them last. -/
structure Gated (κ : Type) where
  core : κ
  confirming : Confirming
  saved : Option (κ × Confirming)

section Programs

variable {κ α : Type}

def liftCore (m : Program κ α) : Program (Gated κ) α :=
  zoom (fun w => ⟨w.own.core, w.log⟩) (fun t w => ⟨{ w.own with core := t.own }, t.log⟩) m

@[simp] theorem wp_liftCore {m : Program κ α} {Q : α → World (Gated κ) → Prop}
    {E : FlowError → World (Gated κ) → Prop} {w : World (Gated κ)} :
    wp (liftCore m) Q E w ↔ wp m (fun a t => Q a ⟨{ w.own with core := t.own }, t.log⟩)
      (fun e t => E e ⟨{ w.own with core := t.own }, t.log⟩) ⟨w.own.core, w.log⟩ :=
  wp_zoom

def stopConfirmingEvent (id : EventId) : Program (Gated κ) (Option PendingEvent) :=
  modifyGet fun w =>
    let (event, confirming) := w.own.confirming.stopConfirmingEvent id
    (event, { w with own := { w.own with confirming := confirming } })

variable (env : CallEnv) (handle : RskPegManagerEvents → Program κ Unit)

/-- One pass of the loop over the confirmed events. -/
def confirmEvent (key : EventId) : Program (Gated κ) Unit := do
  match ← stopConfirmingEvent key with
  | none => pure ()
  | some event => liftCore (handle event.data)

def processBlockConfirmations
    (cleanup : Program κ Unit) (block : RskBlockAndUncles) : Program (Gated κ) Unit := do
  let w ← get
  if w.own.confirming.eventsConfirming.isEmpty then pure ()
  else do
    let confirming ← orFailure (w.own.confirming.update block)
    modify fun w => { w with own := { w.own with confirming := confirming } }
    (confirming.confirmedKeys (env.rank w.log .eventsConfirming)).forM (confirmEvent handle)
    liftCore cleanup

/-- What a processor reads of a log that it confirms. -/
structure EventInfo where
  id : EventId
  removed : Bool
  blockNumber : Nat

/-- `build_.._event_info`: the label is the processor's own. -/
def buildEventInfo {π : Type} (label : String) (event : EventWithBlock π) : EventInfo :=
  ⟨⟨label, event.txHash⟩, event.removed, event.blockNumber⟩

/-- Add a log to the waiting events, or take it out when it was removed from the chain. -/
def trackEvent (requiredConfirmations : UInt32) (info : EventInfo) (event : RskPegManagerEvents) :
    Program (Gated κ) Unit := do
  if info.removed then do
    let _ ← stopConfirmingEvent info.id
    pure ()
  else do
    let w ← get
    let confirming ← withContext "Starting confirming" (orFailure
      (w.own.confirming.startConfirming info.id info.blockNumber requiredConfirmations event))
    modify fun w => { w with own := { w.own with confirming := confirming } }

def persistProcessorState (key : StoreKey) : Program (Gated κ) Unit := do
  let result : Except String Unit ← perform env.toEnv (.saveFlow key) id
  orText result
  modify fun w => { w with own := { w.own with saved := some (w.own.core, w.own.confirming) } }

end Programs

/-! ## The process -/

/-- A processor in its process. Each call of the coordinator makes its calls to the outside on a log
of its own; `past` has those of the calls before it, the newest first. -/
structure System (κ : Type) where
  processor : Gated κ
  past : Contracts.Log
  panicked : Bool

namespace System

variable {κ : Type}

/-- The coordinator logs an error and goes on; a panic ends the process. -/
def call (s : System κ) (m : Program (Gated κ) Unit) : System κ :=
  if s.panicked then s
  else match m ⟨s.processor, []⟩ with
    | .ok _ w => ⟨w.own, w.log ++ s.past, false⟩
    | .error e w => ⟨w.own, w.log ++ s.past, !e.isError⟩

theorem call_of_wp {s : System κ} {m : Program (Gated κ) Unit} {Q : System κ → Prop}
    (hpanicked : s.panicked = true → Q s)
    (hcall : s.panicked = false → wp m (fun _ w => Q ⟨w.own, w.log ++ s.past, false⟩)
      (fun e w => Q ⟨w.own, w.log ++ s.past, !e.isError⟩) ⟨s.processor, []⟩) : Q (s.call m) := by
  unfold call
  split
  · next h => exact hpanicked h
  · next h =>
    have hcall := hcall (by simpa using h)
    unfold wp at hcall
    cases hm : m ⟨s.processor, []⟩ with
    | ok a w => rw [hm] at hcall; exact hcall
    | error e w => rw [hm] at hcall; exact hcall

end System

end UnionBridge.Coordinator
