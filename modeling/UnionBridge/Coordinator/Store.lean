import UnionBridge.CommitteeSetup.Flow
import UnionBridge.Lib.Machine

/-!
# The store of the coordinator (`coordinator/src/store.rs`)

What the coordinator persists is in one key-value store: the flows of four kinds, each under the
prefix of its kind and its id, the states of three processors, and the context of the node. At a
start the flows of a kind are found by a scan for their prefix. `Contents` is what the store stands
for, a map from ids to states for each kind and one context. `Holds` relates the two: every operation
keeps it, and what is loaded is read off the contents.
-/

namespace UnionBridge.CoordinatorStore

open Contracts Bitvmx CommitteeSetup

/-! ## Keys -/

/-- The text of an id and its parser, of the `uuid` crate. -/
structure UuidText where
  display : Uuid → String
  parseStr : String → Except String Uuid
  parseStr_display : ∀ id, parseStr (display id) = .ok id

inductive StorePrefix where
  | setupCommitteeFlow
  | peginFlow
  | pegoutFlow
  | operatorTakeFlow
deriving DecidableEq

inductive StoreKey where
  | globalContext
  | setupCommitteeFlow (id : Uuid)
  | peginFlow (id : Uuid)
  | peginProcessorState
  | pegoutFlow (id : Uuid)
  | pegoutProcessorState
  | operatorTakeFlow (id : Uuid)
  | advanceFundsProcessorState

def StorePrefix.value : StorePrefix → String
  | setupCommitteeFlow => "setup_committee_flows"
  | peginFlow => "pegin_flows"
  | pegoutFlow => "pegout_flows"
  | operatorTakeFlow => "operator_take_flows"

def StorePrefix.asStoreKey (self : StorePrefix) (flowId : Uuid) : StoreKey :=
  match self with
  | setupCommitteeFlow => .setupCommitteeFlow flowId
  | peginFlow => .peginFlow flowId
  | pegoutFlow => .pegoutFlow flowId
  | operatorTakeFlow => .operatorTakeFlow flowId

section Keys

variable (uuids : UuidText)

def StoreKey.value : StoreKey → String
  | globalContext => "global_context"
  | setupCommitteeFlow id => StorePrefix.setupCommitteeFlow.value ++ "/" ++ uuids.display id
  | peginFlow id => StorePrefix.peginFlow.value ++ "/" ++ uuids.display id
  | peginProcessorState => "pegin_processor_state"
  | pegoutFlow id => StorePrefix.pegoutFlow.value ++ "/" ++ uuids.display id
  | pegoutProcessorState => "pegout_processor_state"
  | operatorTakeFlow id => StorePrefix.operatorTakeFlow.value ++ "/" ++ uuids.display id
  | advanceFundsProcessorState => "advance_funds_processor_state"

def StorePrefix.extractId (self : StorePrefix) (key : String) : Except String Uuid :=
  let expectedPrefix := self.value ++ "/"
  if expectedPrefix.toList <+: key.toList then
    uuids.parseStr (String.ofList (key.toList.drop expectedPrefix.length))
  else
    .error ("Key '" ++ key ++ "' does not start with expected prefix '" ++ expectedPrefix ++ "'")

variable {uuids} {kind : StorePrefix} {id : Uuid}

theorem value_asStoreKey :
    (kind.asStoreKey id).value uuids = kind.value ++ "/" ++ uuids.display id := by
  cases kind <;> rfl

theorem extractId_asStoreKey :
    kind.extractId uuids ((kind.asStoreKey id).value uuids) = .ok id := by
  rw [StorePrefix.extractId, value_asStoreKey]
  simp only [String.toList_append]
  rw [if_pos (List.prefix_append _ _), ← String.length_toList, String.toList_append,
    List.drop_left, String.ofList_toList]
  exact uuids.parseStr_display id

theorem exists_asStoreKey {key : StoreKey}
    (h : kind.value.toList <+: (key.value uuids).toList) : ∃ id, key = kind.asStoreKey id := by
  cases kind <;> cases key <;> first
    | exact ⟨_, rfl⟩
    | exact absurd h (by simp [StorePrefix.value, StoreKey.value])

theorem StoreKey.value_inj {a b : StoreKey} (h : a.value uuids = b.value uuids) : a = b := by
  have hdisplay : ∀ {id id' : Uuid}, (uuids.display id).toList = (uuids.display id').toList →
      id = id' := by
    intro id id' h
    have hparse := congrArg uuids.parseStr (String.ext h)
    rw [uuids.parseStr_display, uuids.parseStr_display] at hparse
    exact Except.ok.inj hparse
  have hchars := congrArg String.toList h
  -- keys of different kinds differ in one of their letters
  cases a <;> cases b <;> simp [StorePrefix.value, StoreKey.value] at hchars ⊢ <;>
    exact hdisplay hchars

end Keys

/-! ## The context -/

structure PersistentGlobalContext where
  committees : Table CommitteeId ParticipantRole
  takeKey : Option SignedPublicKey
  disputeKey : Option SignedPublicKey
  commKey : Option SignedPublicKey
deriving DecidableEq

def PersistentGlobalContext.fromMemory (ctx : GlobalContext) : PersistentGlobalContext :=
  ⟨ctx.myCommittees, ctx.myKeys.takeKey, ctx.myKeys.disputeKey, ctx.myKeys.commKey⟩

/-- The committees are added to a new context one by one; the keys that are there are set. -/
def PersistentGlobalContext.load (rank : CommitteeId → Nat) (self : PersistentGlobalContext) :
    GlobalContext :=
  ⟨.ofList (self.committees.inOrder rank), ⟨self.takeKey, self.disputeKey, self.commKey⟩⟩

theorem lookup_load_fromMemory (rank : CommitteeId → Nat) (ctx : GlobalContext) (id : CommitteeId) :
    ((PersistentGlobalContext.fromMemory ctx).load rank).myCommittees.lookup id
      = ctx.myCommittees.lookup id := by
  refine Option.ext fun role => ?_
  refine (Table.lookup_ofList fun h h' => ?_).trans Table.mem_inOrder
  exact Option.some.inj ((Table.mem_inOrder.mp h).symm.trans (Table.mem_inOrder.mp h'))

/-! ## The operations -/

/-- A value is written as text and read back. -/
structure Serde (J α : Type) where
  toText : α → J
  fromText : J → Except String α
  fromText_toText : ∀ a, fromText (toText a) = .ok a

section Operations

variable {J α φ : Type} (uuids : UuidText)

/-- The scan of the backend: the entries whose keys start with the text. -/
def partialCompare (rank : String → Nat) (text : String) (db : Table String J) :
    List (String × J) :=
  (db.inOrder rank).filter fun e => decide (text.toList <+: e.1.toList)

def get (serde : Serde J α) (key : String) (db : Table String J) : Except String (Option α) :=
  match db.lookup key with
  | none => .ok none
  | some value => (serde.fromText value).map some

def saveFlow (serde : Serde J α) (key : StoreKey) (flowState : α) (db : Table String J) :
    Table String J :=
  db.insert (key.value uuids) (serde.toText flowState)

def deleteFlow (key : StoreKey) (db : Table String J) : Table String J :=
  db.erase (key.value uuids)

def saveContext (serde : Serde J PersistentGlobalContext) (context : GlobalContext)
    (db : Table String J) : Table String J :=
  db.insert (StoreKey.globalContext.value uuids) (serde.toText (.fromMemory context))

def loadContext (serde : Serde J PersistentGlobalContext) (rank : CommitteeId → Nat)
    (db : Table String J) : Except String (Option GlobalContext) :=
  (get serde (StoreKey.globalContext.value uuids) db).map (·.map (·.load rank))

def loadFlow (serde : Serde J α) (self : StorePrefix) (entry : String × J) :
    Except String (Uuid × α) := do
  let flowId ← self.extractId uuids entry.1
  let state ← serde.fromText entry.2
  return (flowId, state)

def loadAllFlows (serde : Serde J α) (rank : String → Nat) (self : StorePrefix)
    (db : Table String J) : Except String (Table Uuid α) := do
  let flows ← (partialCompare rank self.value db).mapM (loadFlow uuids serde self)
  return .ofList flows

def restoreFlows (serde : Serde J α) (rank : String → Nat) (self : StorePrefix)
    (flowFactory : α → φ) (db : Table String J) : Except String (Table Uuid φ) := do
  let savedFlows ← loadAllFlows uuids serde rank self db
  return savedFlows.mapValues flowFactory

end Operations

inductive ProcessorKey where
  | pegin
  | pegout
  | advanceFunds

def ProcessorKey.storeKey : ProcessorKey → StoreKey
  | pegin => .peginProcessorState
  | pegout => .pegoutProcessorState
  | advanceFunds => .advanceFundsProcessorState

/-- What is done with the store; the state of a processor is any text. -/
inductive Op (J : Type) (State : StorePrefix → Type) where
  | saveFlow (kind : StorePrefix) (id : Uuid) (state : State kind)
  | saveProcessorState (key : ProcessorKey) (state : J)
  | deleteFlow (key : StoreKey)
  | saveContext (context : GlobalContext)

structure Formats (J : Type) (State : StorePrefix → Type) where
  uuids : UuidText
  flows : ∀ kind, Serde J (State kind)
  context : Serde J PersistentGlobalContext

section Contents

variable {J : Type} {State : StorePrefix → Type} (formats : Formats J State)

def step (db : Table String J) : Op J State → Table String J
  | .saveFlow kind id state =>
    CoordinatorStore.saveFlow formats.uuids (formats.flows kind) (kind.asStoreKey id) state db
  | .saveProcessorState key state => db.insert (key.storeKey.value formats.uuids) state
  | .deleteFlow key => CoordinatorStore.deleteFlow formats.uuids key db
  | .saveContext context => CoordinatorStore.saveContext formats.uuids formats.context context db

/-! ## What the store stands for -/

/-- The states that were saved last and not deleted. -/
structure Contents (State : StorePrefix → Type) where
  flows : ∀ kind, Uuid → Option (State kind)
  context : Option GlobalContext

namespace Contents

def empty : Contents State := ⟨fun _ _ => none, none⟩

def setFlow (c : Contents State) (kind : StorePrefix) (id : Uuid) (state : Option (State kind)) :
    Contents State :=
  { c with flows := Function.update c.flows kind (Function.update (c.flows kind) id state) }

def step (c : Contents State) : Op J State → Contents State
  | .saveFlow kind id state => c.setFlow kind id (some state)
  | .saveProcessorState _ _ => c
  | .deleteFlow (.setupCommitteeFlow id) => c.setFlow .setupCommitteeFlow id none
  | .deleteFlow (.peginFlow id) => c.setFlow .peginFlow id none
  | .deleteFlow (.pegoutFlow id) => c.setFlow .pegoutFlow id none
  | .deleteFlow (.operatorTakeFlow id) => c.setFlow .operatorTakeFlow id none
  | .deleteFlow .globalContext => { c with context := none }
  | .deleteFlow _ => c
  | .saveContext context => { c with context := some context }

end Contents

/-- The store holds the contents, and nothing but keys of the coordinator. -/
structure Holds (db : Table String J) (c : Contents State) : Prop where
  flows : ∀ kind id, db.lookup ((kind.asStoreKey id).value formats.uuids)
    = (c.flows kind id).map (formats.flows kind).toText
  context : db.lookup (StoreKey.globalContext.value formats.uuids)
    = c.context.map fun ctx => formats.context.toText (.fromMemory ctx)
  keyed : ∀ text value, db.lookup text = some value →
    ∃ key : StoreKey, text = key.value formats.uuids

variable {formats} {db db' : Table String J} {c : Contents State}

theorem Holds.setFlow {kind : StorePrefix} {id : Uuid} {state : Option (State kind)}
    (h : Holds formats db c)
    (hflow : db'.lookup ((kind.asStoreKey id).value formats.uuids)
      = state.map (formats.flows kind).toText)
    (hother : ∀ text, text ≠ (kind.asStoreKey id).value formats.uuids →
      db'.lookup text = db.lookup text) : Holds formats db' (c.setFlow kind id state) where
  flows kind' id' := by
    unfold Contents.setFlow
    dsimp only
    by_cases hkind : kind' = kind
    · subst hkind
      rw [Function.update_self]
      by_cases hid : id' = id
      · subst hid
        rw [Function.update_self, hflow]
      · rw [Function.update_of_ne hid, hother, h.flows]
        intro heq
        have hkey := StoreKey.value_inj heq
        cases kind' <;> cases hkey <;> exact hid rfl
    · rw [Function.update_of_ne hkind, hother, h.flows]
      intro heq
      have hkey := StoreKey.value_inj heq
      cases kind' <;> cases kind <;> first | exact hkind rfl | cases hkey
  context := by
    rw [hother, h.context]
    · rfl
    · intro heq
      have hkey := StoreKey.value_inj heq
      cases kind <;> cases hkey
  keyed text value hvalue := by
    by_cases htext : text = (kind.asStoreKey id).value formats.uuids
    · exact ⟨_, htext⟩
    · exact h.keyed text value (hother text htext ▸ hvalue)

theorem Holds.setOther {key : StoreKey} {context : Option GlobalContext} (h : Holds formats db c)
    (hkey : ∀ kind id, StorePrefix.asStoreKey kind id ≠ key)
    (hother : ∀ text, text ≠ key.value formats.uuids → db'.lookup text = db.lookup text)
    (hcontext : db'.lookup (StoreKey.globalContext.value formats.uuids)
      = context.map fun ctx => formats.context.toText (.fromMemory ctx)) :
    Holds formats db' { c with context := context } where
  flows kind id := by
    rw [hother _ fun heq => hkey kind id (StoreKey.value_inj heq)]
    exact h.flows kind id
  context := hcontext
  keyed text value hvalue := by
    by_cases htext : text = key.value formats.uuids
    · exact ⟨_, htext⟩
    · exact h.keyed text value (hother text htext ▸ hvalue)

theorem Holds.step (h : Holds formats db c) (op : Op J State) :
    Holds formats (step formats db op) (c.step op) := by
  have herase : ∀ {key : StoreKey} {text}, text ≠ key.value formats.uuids →
      (deleteFlow formats.uuids key db).lookup text = db.lookup text := AList.lookup_erase_ne
  cases op with
  | saveFlow kind id state =>
    exact h.setFlow (AList.lookup_insert _) fun _ hne => AList.lookup_insert_ne hne
  | saveProcessorState key state =>
    refine h.setOther ?_ (fun _ hne => AList.lookup_insert_ne hne)
      ((AList.lookup_insert_ne fun heq => ?_).trans h.context)
    · intro kind id
      cases kind <;> cases key <;> exact nofun
    · have hkey := StoreKey.value_inj heq
      cases key <;> cases hkey
  | saveContext context =>
    refine h.setOther ?_ (fun _ hne => AList.lookup_insert_ne hne) (AList.lookup_insert _)
    intro kind id
    cases kind <;> exact nofun
  | deleteFlow key =>
    cases key with
    | globalContext =>
      refine h.setOther ?_ (fun _ => herase) (AList.lookup_erase _ _)
      intro kind id
      cases kind <;> exact nofun
    -- the states of the processors are not among the contents
    | peginProcessorState | pegoutProcessorState | advanceFundsProcessorState =>
      refine h.setOther ?_ (fun _ => herase) ((herase fun heq => ?_).trans h.context)
      · intro kind id
        cases kind <;> exact nofun
      · cases StoreKey.value_inj heq
    | _ => exact h.setFlow (AList.lookup_erase _ _) fun _ => herase

theorem Holds.run (h : Holds formats db c) (ops : List (Op J State)) :
    Holds formats (Machine.run (CoordinatorStore.step formats) db ops)
      (Machine.run Contents.step c ops) := by
  induction ops generalizing db c with
  | nil => exact h
  | cons op ops ih => exact ih (h.step op)

theorem mapM_eq_ok {ε α β : Type} {f : α → Except ε β} {l : List α}
    (h : ∀ a ∈ l, ∃ b, f a = .ok b) :
    ∃ bs, l.mapM f = .ok bs ∧ ∀ b, b ∈ bs ↔ ∃ a ∈ l, f a = .ok b := by
  induction l with
  | nil => exact ⟨[], rfl, by simp⟩
  | cons a l ih =>
    obtain ⟨b, hb⟩ := h a List.mem_cons_self
    obtain ⟨bs, hbs, hmem⟩ := ih fun a' ha' => h a' (List.mem_cons_of_mem _ ha')
    refine ⟨b :: bs, ?_, fun b' => ?_⟩
    · rw [List.mapM_cons, hb, hbs]
      rfl
    · rw [List.mem_cons, hmem, List.exists_mem_cons_iff, hb, Except.ok.injEq, eq_comm]

theorem Holds.loadAllFlows (h : Holds formats db c) (rank : String → Nat) (kind : StorePrefix) :
    ∃ flows, loadAllFlows formats.uuids (formats.flows kind) rank kind db = .ok flows
      ∧ ∀ id, flows.lookup id = c.flows kind id := by
  -- each entry is that of a flow, and the id and the state are read back
  have hread : ∀ e ∈ partialCompare rank kind.value db, ∃ id state,
      c.flows kind id = some state ∧ e.1 = (kind.asStoreKey id).value formats.uuids
        ∧ loadFlow formats.uuids (formats.flows kind) kind e = .ok (id, state) := by
    rintro ⟨text, value⟩ he
    obtain ⟨hmem, hprefix⟩ := List.mem_filter.mp he
    have hvalue := Table.mem_inOrder.mp hmem
    obtain ⟨key, rfl⟩ := h.keyed text value hvalue
    obtain ⟨id, rfl⟩ := exists_asStoreKey (of_decide_eq_true hprefix)
    rw [h.flows] at hvalue
    obtain ⟨state, hstate, rfl⟩ := Option.map_eq_some_iff.mp hvalue
    refine ⟨id, state, hstate, rfl, ?_⟩
    simp only [loadFlow, extractId_asStoreKey, (formats.flows kind).fromText_toText]
    rfl
  obtain ⟨flows, hflows, hmem⟩ := mapM_eq_ok fun e he => by
    obtain ⟨id, state, -, -, hload⟩ := hread e he
    exact ⟨_, hload⟩
  have hgraph : ∀ id state, (id, state) ∈ flows ↔ c.flows kind id = some state := by
    intro id state
    rw [hmem]
    constructor
    · rintro ⟨e, he, hload⟩
      obtain ⟨id', state', hstate, -, hload'⟩ := hread e he
      cases hload.symm.trans hload'
      exact hstate
    · intro hstate
      have hvalue := h.flows kind id
      rw [hstate] at hvalue
      refine ⟨(_, _), List.mem_filter.mpr ⟨Table.mem_inOrder.mpr hvalue, ?_⟩, ?_⟩
      · rw [decide_eq_true_eq, value_asStoreKey, String.append_assoc, String.toList_append]
        exact List.prefix_append _ _
      · simp only [loadFlow, extractId_asStoreKey, (formats.flows kind).fromText_toText]
        rfl
  refine ⟨_, by rw [CoordinatorStore.loadAllFlows, hflows]; rfl, fun id => Option.ext fun state => ?_⟩
  refine (Table.lookup_ofList fun hstate hstate' => ?_).trans (hgraph id state)
  exact Option.some.inj (((hgraph _ _).mp hstate).symm.trans ((hgraph _ _).mp hstate'))

/-- **The store is its contents**, after every sequence of operations: loading the flows of a kind,
and restoring them, returns the states that were saved last and not deleted, by their ids, whatever
else was saved; and loading the context returns the committees and the keys that were saved last. -/
theorem coordinator_store_refines (formats : Formats J State) (ops : List (Op J State))
    (rank : String → Nat) (order : CommitteeId → Nat) :
    let db := Machine.run (CoordinatorStore.step formats) ∅ ops
    let c := Machine.run Contents.step .empty ops
    (∀ kind, ∃ flows, loadAllFlows formats.uuids (formats.flows kind) rank kind db = .ok flows
        ∧ ∀ id, flows.lookup id = c.flows kind id)
      ∧ (∀ (φ : Type) kind (flowFactory : State kind → φ), ∃ flows,
        restoreFlows formats.uuids (formats.flows kind) rank kind flowFactory db = .ok flows
          ∧ ∀ id, flows.lookup id = (c.flows kind id).map flowFactory)
      ∧ ∃ context, loadContext formats.uuids formats.context order db = .ok context
        ∧ context.map (·.myKeys) = c.context.map (·.myKeys)
        ∧ context.map (fun ctx id => ctx.myCommittees.lookup id)
          = c.context.map fun ctx id => ctx.myCommittees.lookup id := by
  intro db c
  have hholds : Holds formats db c :=
    Holds.run ⟨fun _ _ => rfl, rfl, fun _ _ hvalue => by cases hvalue⟩ ops
  refine ⟨hholds.loadAllFlows rank, fun φ kind flowFactory => ?_, ?_⟩
  · obtain ⟨flows, hload, hflows⟩ := hholds.loadAllFlows rank kind
    refine ⟨_, by rw [restoreFlows, hload]; rfl, fun id => ?_⟩
    rw [Table.lookup_mapValues, hflows]
  · unfold loadContext CoordinatorStore.get
    rw [hholds.context]
    cases c.context with
    | none => exact ⟨none, rfl, rfl, rfl⟩
    | some ctx =>
      simp only [Option.map_some, formats.context.fromText_toText]
      exact ⟨_, rfl, rfl, congrArg some (funext fun id => lookup_load_fromMemory order ctx id)⟩

end Contents

end UnionBridge.CoordinatorStore
