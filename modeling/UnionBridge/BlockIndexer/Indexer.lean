import UnionBridge.Common.Block
import UnionBridge.Lib.Outcome

/-!
# The block indexer (`block-indexer/src/indexer.rs`, `block-indexer/src/store.rs`)

The indexer follows the chain of a provider: it keeps a canonical block per height and the best
block in its store, and sends every block it makes canonical to the notifier channel. It is modelled
as a machine. A state of the machine is a point of the program at which it waits for the provider,
for the subscription, or is about to write to the store (`Phase`); an input is the answer it gets
there (`Input`). The provider may answer anything at any time, shutdown may be requested at any
time, and the process may be killed between any two writes and started again on the same store.

`sent` is everything that was sent to the channel, in all processes. `returned` is set by the step
with which `backward_sync`, or one iteration of `listen_blocks`, returns `Ok`.
-/

namespace UnionBridge.BlockIndexer

open Chain

/-! ## The store -/

/-- A canonical entry is stored as a hash and resolved through the blocks; blocks with equal hashes
are equal, so the entry is kept as the block. -/
structure BlockStore where
  canonical : Nat → Option RskBlock
  best : Option RskBlock
  backSyncCheckpoint : Option RskBlock
  blocks : BlockHash → Option RskBlock

namespace BlockStore

def empty : BlockStore :=
  { canonical := fun _ => none, best := none, backSyncCheckpoint := none, blocks := fun _ => none }

variable (store : BlockStore) (block : RskBlock)

def saveBlock : BlockStore :=
  { store with blocks := fun hash => if hash = block.hash then some block else store.blocks hash }

def setCanonicalBlock : BlockStore :=
  { store with
    canonical := fun height => if height = block.number then some block else store.canonical height }

def setBestBlock : BlockStore :=
  { store with best := some block }

def setBackSyncCheckpoint : BlockStore :=
  { store with backSyncCheckpoint := some block }

def resetBackSyncCheckpoint : BlockStore :=
  { store with backSyncCheckpoint := none }

def saveAsCanonical : BlockStore :=
  (store.saveBlock block).setCanonicalBlock block

end BlockStore

/-! ## The program points -/

inductive IndexerStartFrom where
  | best | hash
deriving DecidableEq

structure IndexerConfig where
  startFrom : IndexerStartFrom
  initialBlockHash : BlockHash

/-- What `rsk_block_subscription.next()` yields. -/
inductive SubscriptionItem where
  | block (block : RskBlock)
  | closedConnection
  | transient
  | lagged
  | unexpected

inductive SyncCaller where
  | resume
  | fullSync (round : Nat)
  | listen
deriving DecidableEq

inductive SaveCaller where
  | initDb | startFromBest | listen
deriving DecidableEq

/-- The local variables of `backward_sync`. -/
structure SyncFrame where
  startingBlock : RskBlock
  storeBestBlock : RskBlock
  newBlock : RskBlock
  blocksToNotify : List RskBlockAndUncles
  caller : SyncCaller
deriving DecidableEq

inductive Phase where
  /-- No process is running. -/
  | stopped
  /-- `resolve_initial_block` asks for the configured block or for the best block. -/
  | resolveInitial
  /-- `get_initial_block` asks for the initial block. -/
  | initialBlock
  /-- `save_as_best_block` is about to save the block as canonical. -/
  | saveBest (block : RskBlock) (caller : SaveCaller)
  /-- `save_as_best_block` is about to set the best block. -/
  | setBest (block : RskBlock) (caller : SaveCaller)
  /-- `resume_pending_backward_sync` asks for the parent of the checkpoint. -/
  | checkpointParent (checkpoint : RskBlock)
  /-- A round of `full_sync_backward_syncs` asks for the best block. -/
  | fullSync (round : Nat)
  /-- The loop of `backward_sync` looks at its new block. -/
  | syncBlock (frame : SyncFrame)
  /-- The new block is canonical; the loop is about to test its exit conditions. -/
  | syncCheck (frame : SyncFrame)
  /-- The loop asks for the block below. -/
  | syncNext (frame : SyncFrame)
  /-- There was no block below, the loop asks for the best block. -/
  | syncNextBest (frame : SyncFrame)
  /-- The chains are connected and the checkpoint is reset; the best block is to be set. -/
  | syncComplete (frame : SyncFrame)
  /-- The collected blocks are being sent. -/
  | syncNotify (blocksToNotify : List RskBlockAndUncles) (caller : SyncCaller)
  /-- The startup is done; `start_block_subscription` subscribes. -/
  | subscribe
  /-- The head of the loop of `listen_blocks`. -/
  | listen
  /-- The loop waits for an item. -/
  | awaitItem
  /-- The block extends the best one: its uncles are being fetched. -/
  | extend (block : RskBlock)
  /-- The block calls for a catch-up: the best block is being fetched. -/
  | catchUp
deriving DecidableEq

/-- The ways in which `backward_sync` returns `Ok`. -/
inductive SyncExit where
  | skipped | connected | checkpointed | aborted
deriving DecidableEq

inductive Returned where
  | backwardSync (exit : SyncExit)
  | listenIteration
deriving DecidableEq

structure Indexer where
  store : BlockStore
  phase : Phase
  shutdownFlag : Bool
  initialBlockHash : BlockHash
  sent : List RskBlockAndUncles
  returned : Option Returned

inductive Input where
  | start
  | kill
  | requestShutdown
  | blockByHash (answer : Outcome (Option RskBlock))
  | bestBlock (answer : Outcome RskBlock)
  | blockByNumber (answer : Outcome (Option RskBlock))
  | uncles (answer : Nat → Outcome (Option RskBlock))
  | subscribed (answer : Outcome Unit)
  | item (item : SubscriptionItem)
  /-- The program goes on without an answer. -/
  | tick

/-! ## The uncles of a block -/

/-- One pass of the loop of `process_uncle_blocks`; it stops at an error. -/
def uncleStep (listed : List BlockHash) (answer : Nat → Outcome (Option RskBlock))
    (acc : BlockStore × Outcome (List RskBlock)) (i : Nat) : BlockStore × Outcome (List RskBlock) :=
  match acc.2 with
  | .error e => (acc.1, .error e)
  | .ok uncles =>
    match answer i with
    | .error e => (acc.1, .error e)
    | .ok none => (acc.1, .ok uncles)
    | .ok (some uncle) =>
      if uncle.hash ∈ listed then
        (acc.1.saveBlock uncle, .ok (uncles ++ [uncle]))
      else
        (acc.1, .ok uncles)

variable (store : BlockStore) (block : RskBlock)

def processUncleBlocks
    (answer : Nat → Outcome (Option RskBlock)) : BlockStore × Outcome (List RskBlock) :=
  (List.range block.uncles.length).foldl (uncleStep block.uncles answer) (store, .ok [])

/-- Whether one of the uncles cannot be fetched. -/
def uncleFails (answer : Nat → Outcome (Option RskBlock)) : Bool :=
  (List.range block.uncles.length).any fun i => !(answer i).isOk

namespace Indexer

variable (cfg : IndexerConfig) (s : Indexer)

def init : Indexer :=
  { store := .empty, phase := .stopped, shutdownFlag := false
    initialBlockHash := cfg.initialBlockHash, sent := [], returned := none }

/-- `run` returns, with or without an error, or panics. -/
def stop : Indexer := { s with phase := .stopped }

def maxAttempts : Nat := 10

/-- The next of the rounds `1..max_attempts`, after which the startup fails. -/
def fullSyncRound (round : Nat) : Indexer :=
  if round < maxAttempts then { s with phase := .fullSync round } else s.stop

def returnSync (exit : SyncExit) (caller : SyncCaller) : Indexer :=
  let s := { s with returned := some (.backwardSync exit) }
  match caller with
  | .resume => s.fullSyncRound 1
  | .fullSync round => s.fullSyncRound (round + 1)
  | .listen => { s with phase := .listen }

def backwardSync (startingBlock : RskBlock) (caller : SyncCaller) : Indexer :=
  if s.shutdownFlag then
    s.returnSync .skipped caller
  else
    match s.store.best with
    -- "Best block not found in store during backward sync"
    | none => s.stop
    | some storeBestBlock =>
      let frame : SyncFrame :=
        { startingBlock := startingBlock, storeBestBlock := storeBestBlock
          newBlock := startingBlock, blocksToNotify := [], caller := caller }
      { s with phase := .syncBlock frame }

def startupBackwardSync : Indexer :=
  match s.store.backSyncCheckpoint with
  | none => s.fullSyncRound 1
  | some checkpoint => { s with phase := .checkpointParent checkpoint }

def onStart : Indexer :=
  match s.phase with
  | .stopped => { s with phase := .resolveInitial, shutdownFlag := false }
  | _ => s

def onBlockByHash (answer : Outcome (Option RskBlock)) : Indexer :=
  match s.phase, answer with
  | .resolveInitial, answer =>
    match cfg.startFrom, answer with
    | .hash, .ok (some block) => { s with phase := .initialBlock, initialBlockHash := block.hash }
    | .hash, _ => s.stop
    | .best, _ => s
  | .initialBlock, .ok (some block) =>
    match cfg.startFrom with
    | .best => { s with phase := .saveBest block .startFromBest }
    | .hash =>
      match s.store.best with
      | none => { s with phase := .saveBest block .initDb }
      | some _ => s.startupBackwardSync
  -- "Precondition failed"
  | .initialBlock, _ => s.stop
  | .checkpointParent _, .ok (some parent) => s.backwardSync parent .resume
  | .checkpointParent _, .ok none => s.fullSyncRound 1
  | .checkpointParent _, .error _ => s.stop
  | _, _ => s

def onBestBlock (answer : Outcome RskBlock) : Indexer :=
  match s.phase, answer with
  | .resolveInitial, answer =>
    match cfg.startFrom, answer with
    | .best, .ok block => { s with phase := .initialBlock, initialBlockHash := block.hash }
    | .best, .error _ => s.stop
    | .hash, _ => s
  | .fullSync round, .ok providerBestBlock =>
    match s.store.best with
    | none => s.fullSyncRound (round + 1)
    | some storeBestBlock =>
      if providerBestBlock.hash = storeBestBlock.hash then
        { s with phase := .subscribe }
      else if s.shutdownFlag then
        { s with phase := .subscribe }
      else
        s.backwardSync providerBestBlock (.fullSync round)
  | .fullSync _, .error _ => s.stop
  | .syncNextBest frame, .ok block => { s with phase := .syncBlock { frame with newBlock := block } }
  | .syncNextBest _, .error _ => s.stop
  | .catchUp, .ok providerBestBlock => s.backwardSync providerBestBlock .listen
  | .catchUp, .error _ => s.stop
  | _, _ => s

def onBlockByNumber (answer : Outcome (Option RskBlock)) : Indexer :=
  match s.phase, answer with
  | .syncNext frame, .ok (some block) => { s with phase := .syncBlock { frame with newBlock := block } }
  | .syncNext frame, .ok none => { s with phase := .syncNextBest frame }
  | .syncNext _, .error _ => s.stop
  | _, _ => s

/-- The loop of `backward_sync` has to store its new block: the height has no canonical block or
another one. -/
def mustStore (store : BlockStore) (newBlock : RskBlock) : Bool :=
  match store.canonical newBlock.number with
  | none => true
  | some storeBlock => storeBlock.hash ≠ newBlock.hash

def onUncles (answer : Nat → Outcome (Option RskBlock)) : Indexer :=
  match s.phase with
  | .syncBlock frame =>
    if mustStore s.store frame.newBlock then
      match processUncleBlocks s.store frame.newBlock answer with
      | (store, .error _) => { s with store := store }.stop
      | (store, .ok uncles) =>
        let frame := { frame with
          blocksToNotify := frame.blocksToNotify ++ [⟨frame.newBlock, uncles⟩] }
        { s with store := store.saveAsCanonical frame.newBlock, phase := .syncCheck frame }
    else
      s
  | .extend block =>
    match processUncleBlocks s.store block answer with
    | (store, .error _) => { s with store := store }.stop
    | (store, .ok uncles) =>
      { s with
        store := store, sent := s.sent ++ [⟨block, uncles⟩], phase := .saveBest block .listen }
  | _ => s

def onSubscribed (answer : Outcome Unit) : Indexer :=
  match s.phase with
  | .subscribe =>
    if s.shutdownFlag then
      s.stop
    else
      match answer with
      | .ok _ => { s with phase := .listen }
      | .error _ => s.stop
  | _ => s

def onNewBlock (newBlock : RskBlock) : Indexer :=
  match s.store.best with
  -- "Best block not found while listening blocks"
  | none => s.stop
  | some localBestBlock =>
    let extendsCanonical := newBlock.parentHash = localBestBlock.hash
    let needsCatchUp := newBlock.number > localBestBlock.number
      ∨ newBlock.totalDifficulty > localBestBlock.totalDifficulty
    if extendsCanonical then
      { s with phase := .extend newBlock }
    else if needsCatchUp then
      { s with phase := .catchUp }
    else
      { s with
        store := s.store.saveBlock newBlock, phase := .listen
        returned := some .listenIteration }

def onItem (item : SubscriptionItem) : Indexer :=
  match s.phase, item with
  | .awaitItem, .block newBlock => s.onNewBlock newBlock
  | .awaitItem, .transient => { s with phase := .listen, returned := some .listenIteration }
  | .awaitItem, .lagged => { s with phase := .listen, returned := some .listenIteration }
  | .awaitItem, .closedConnection =>
    if s.shutdownFlag then { s with returned := some .listenIteration }.stop else s.stop
  | .awaitItem, .unexpected => s.stop
  | _, _ => s

/-- The loop of `backward_sync` on a block that is canonical already. -/
def onKnownBlock (frame : SyncFrame) : Indexer :=
  if frame.newBlock.number ≤ frame.storeBestBlock.number then
    { s with store := s.store.resetBackSyncCheckpoint, phase := .syncComplete frame }
  else
    { s with phase := .syncCheck frame }

/-- The exit conditions at the end of the loop of `backward_sync`. -/
def onSyncCheck (frame : SyncFrame) : Indexer :=
  if s.shutdownFlag then
    { s with store := s.store.setBackSyncCheckpoint frame.newBlock }.returnSync .checkpointed
      frame.caller
  else if s.initialBlockHash = frame.newBlock.hash ∨ frame.newBlock.number = 0 then
    s.returnSync .aborted frame.caller
  else
    { s with phase := .syncNext frame }

def onSetBest (block : RskBlock) (caller : SaveCaller) : Indexer :=
  let s := { s with store := s.store.setBestBlock block }
  match caller with
  | .initDb => s.startupBackwardSync
  | .startFromBest => { s with phase := .subscribe }
  | .listen => { s with phase := .listen, returned := some .listenIteration }

def onTick : Indexer :=
  match s.phase with
  | .saveBest block caller =>
    { s with store := s.store.saveAsCanonical block, phase := .setBest block caller }
  | .setBest block caller => s.onSetBest block caller
  | .syncBlock frame => if mustStore s.store frame.newBlock then s else s.onKnownBlock frame
  | .syncCheck frame => s.onSyncCheck frame
  | .syncComplete frame =>
    -- notify the consumer about the new chain in ascending order
    { s with
      store := s.store.setBestBlock frame.startingBlock
      phase := .syncNotify frame.blocksToNotify.reverse frame.caller }
  | .syncNotify [] caller => s.returnSync .connected caller
  | .syncNotify (block :: rest) caller =>
    { s with sent := s.sent ++ [block], phase := .syncNotify rest caller }
  | .listen => if s.shutdownFlag then s.stop else { s with phase := .awaitItem }
  | _ => s

end Indexer

/-- One step of the indexer. An input that does not answer what the program waits for changes
nothing. -/
def step (cfg : IndexerConfig) (s : Indexer) (input : Input) : Indexer :=
  let s := { s with returned := none }
  match input with
  | .start => s.onStart
  | .kill => s.stop
  | .requestShutdown => { s with shutdownFlag := true }
  | .blockByHash answer => s.onBlockByHash cfg answer
  | .bestBlock answer => s.onBestBlock cfg answer
  | .blockByNumber answer => s.onBlockByNumber answer
  | .uncles answer => s.onUncles answer
  | .subscribed answer => s.onSubscribed answer
  | .item item => s.onItem item
  | .tick => s.onTick

/-! ## A small chain

The initial block 5, the blocks 6 to 8 on it, and a heavier fork. -/

def block5 : RskBlock := .plain 5 0xa5 0xa4 10

def block6 : RskBlock := .plain 6 0xa6 0xa5 20

def block7 : RskBlock := .plain 7 0xa7 0xa6 30

def block8 : RskBlock := .plain 8 0xa8 0xa7 40

def fork6 : RskBlock := .plain 6 0xb6 0xa5 35

def fork7 : RskBlock := .plain 7 0xb7 0xb6 45

def fork8 : RskBlock := .plain 8 0xb8 0xb7 55

/-- The first process starts at block 5, syncs to block 7 and listens. -/
def syncToBlock7 : List Input :=
  [.start, .blockByHash (.ok block5), .blockByHash (.ok block5), .tick, .tick,
    .bestBlock (.ok block7), .uncles fun _ => .ok none, .tick, .blockByNumber (.ok block6),
    .uncles fun _ => .ok none, .tick, .blockByNumber (.ok block5), .tick, .tick, .tick, .tick, .tick,
    .bestBlock (.ok block7), .subscribed (.ok ()), .tick]

/-! ## The uncles and the store -/

theorem processUncleBlocks_fst (answer : Nat → Outcome (Option RskBlock)) :
    (processUncleBlocks store block answer).1.canonical = store.canonical
      ∧ (processUncleBlocks store block answer).1.best = store.best
      ∧ (processUncleBlocks store block answer).1.backSyncCheckpoint
        = store.backSyncCheckpoint := by
  have hstep : ∀ (acc : BlockStore × Outcome (List RskBlock)) (i : Nat),
      (uncleStep block.uncles answer acc i).1.canonical = acc.1.canonical
        ∧ (uncleStep block.uncles answer acc i).1.best = acc.1.best
        ∧ (uncleStep block.uncles answer acc i).1.backSyncCheckpoint
          = acc.1.backSyncCheckpoint := by
    intro acc i
    unfold uncleStep
    split
    · exact ⟨rfl, rfl, rfl⟩
    · split
      · exact ⟨rfl, rfl, rfl⟩
      · exact ⟨rfl, rfl, rfl⟩
      · split <;> exact ⟨rfl, rfl, rfl⟩
  have hloop : ∀ (indices : List Nat) (acc : BlockStore × Outcome (List RskBlock)),
      (indices.foldl (uncleStep block.uncles answer) acc).1.canonical = acc.1.canonical
        ∧ (indices.foldl (uncleStep block.uncles answer) acc).1.best = acc.1.best
        ∧ (indices.foldl (uncleStep block.uncles answer) acc).1.backSyncCheckpoint
          = acc.1.backSyncCheckpoint := by
    intro indices
    induction indices with
    | nil => exact fun acc => ⟨rfl, rfl, rfl⟩
    | cons i indices ih =>
      intro acc
      obtain ⟨hcanonical, hbest, hcheckpoint⟩ := ih (uncleStep block.uncles answer acc i)
      obtain ⟨hcanonical', hbest', hcheckpoint'⟩ := hstep acc i
      exact ⟨hcanonical.trans hcanonical', hbest.trans hbest', hcheckpoint.trans hcheckpoint'⟩
  exact hloop _ _

theorem isOk_of_processUncleBlocks {block : RskBlock}
    {answer : Nat → Outcome (Option RskBlock)} (h : uncleFails block answer = false) :
    (processUncleBlocks store block answer).2.isOk = true := by
  have hanswers : ∀ i ∈ List.range block.uncles.length, (answer i).isOk = true := by
    simpa [uncleFails] using h
  have hloop : ∀ (indices : List Nat) (acc : BlockStore × Outcome (List RskBlock)),
      (∀ i ∈ indices, (answer i).isOk = true) → acc.2.isOk = true →
      (indices.foldl (uncleStep block.uncles answer) acc).2.isOk = true := by
    intro indices
    induction indices with
    | nil => exact fun acc _ hacc => hacc
    | cons i indices ih =>
      intro acc hall hacc
      refine ih _ (fun j hj => hall j (List.mem_cons_of_mem _ hj)) ?_
      have hi := hall i List.mem_cons_self
      unfold uncleStep
      split
      · next e he =>
        rw [he] at hacc
        exact hacc
      · split
        · next e he =>
          rw [he] at hi
          exact hi
        · rfl
        · split <;> rfl
  exact hloop _ _ hanswers rfl

theorem uncleFails_of_error {store store' : BlockStore} {block : RskBlock}
    {answer : Nat → Outcome (Option RskBlock)} {e : Failure}
    (h : processUncleBlocks store block answer = (store', .error e)) :
    uncleFails block answer = true := by
  by_contra hok
  have hok := isOk_of_processUncleBlocks store (by simpa using hok)
  rw [h] at hok
  cases hok

@[simp] theorem canonical_saveAsCanonical (n : Nat) : (store.saveAsCanonical block).canonical n
      = if n = block.number then some block else store.canonical n := rfl

end UnionBridge.BlockIndexer
